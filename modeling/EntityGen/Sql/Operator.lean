import EntityGen.Sql.TypeGrammar

/-! Operators between and after operands. `Binding.level` is the table of how tightly each class of
operators binds; `levelHere` reads it off the next tokens, zero where no operator follows. -/

namespace EntityGen.Sql

/-- The classes of operators by how tightly they bind. -/
inductive Binding where
  | doubleColon | atZone | product | sum | xor | ampersand | caret | pipe
  | between | equality | like | is | other | not | and | or
  deriving DecidableEq

/-- How tightly a class binds. The second table keeps operators written as symbols together. -/
def Binding.level (tightSymbols : Bool) : Binding → Nat
  | .doubleColon => if tightSymbols then 140 else 50
  | .atZone => if tightSymbols then 110 else 41
  | .product => if tightSymbols then 90 else 40
  | .sum => if tightSymbols then 80 else 30
  | .xor => if tightSymbols then 75 else 24
  | .ampersand => if tightSymbols then 70 else 23
  | .caret => if tightSymbols then 100 else 22
  | .pipe => if tightSymbols then 70 else 21
  | .between => if tightSymbols then 60 else 20
  | .equality => if tightSymbols then 50 else 20
  | .like => if tightSymbols then 60 else 19
  | .is => if tightSymbols then 40 else 17
  | .other => if tightSymbols then 70 else 16
  | .not => if tightSymbols then 30 else 15
  | .and => if tightSymbols then 20 else 10
  | .or => if tightSymbols then 10 else 5

/-- The class of a symbol that stands between or after operands. -/
def Symbol.binding? : Symbol → Option Binding
  | .eq | .lt | .ltEq | .neq | .gt | .gtEq | .doubleEq | .tilde | .tildeStar | .notTilde
  | .notTildeStar | .doubleTilde | .doubleTildeStar | .notDoubleTilde | .notDoubleTildeStar
  | .spaceship => some .equality
  | .pipe => some .pipe
  | .caret | .sharp | .shiftRight | .shiftLeft => some .caret
  | .ampersand => some .ampersand
  | .plus | .minus => some .sum
  | .star | .slash | .doubleSlash | .percent | .concat => some .product
  | .doubleColon | .bang | .lbracket | .overlap | .caretAt => some .doubleColon
  | .arrow | .longArrow | .hashArrow | .hashLongArrow | .atArrow | .arrowAt | .hashMinus
  | .atQuestion | .atAt | .question | .questionAnd | .questionPipe => some .other
  | _ => none

/-- Where symbols bind tightly, those that all bind like an operator of the user's. -/
def Symbol.bindsLikeOther : Symbol → Bool
  | .arrow | .longArrow | .hashArrow | .hashLongArrow | .atArrow | .arrowAt | .hashMinus
  | .atQuestion | .atAt | .question | .questionAnd | .questionPipe | .bang | .overlap | .caretAt
  | .concat | .sharp | .shiftRight | .shiftLeft => true
  | _ => false

/-- The keywords that begin a test of an operand, after `NOT` too. -/
def testKeywords : List (String × Binding) :=
  [("IN", .between), ("BETWEEN", .between), ("LIKE", .like), ("ILIKE", .like), ("RLIKE", .like),
   ("REGEXP", .like), ("SIMILAR", .like)]

/-- The class of a keyword that stands between or after operands. -/
def keywordBinding? (keyword : String) : Option Binding :=
  match keyword with
  | "OR" => some .or
  | "AND" => some .and
  | "XOR" => some .xor
  | "IS" => some .is
  | "OPERATOR" => some .between
  | "DIV" => some .product
  | k => (testKeywords.find? (·.1 == k)).map (·.2)

namespace Parser

/-- How tightly a class binds in this dialect. -/
def level (b : Binding) : Parser Nat := do return b.level (← rules).tightSymbols

private def keywordLevel (keyword : String) : Parser Nat := do
  match keyword with
  | "AT" =>
    match ← peekAt 1, ← peekAt 2 with
    | some t, some u => if t.isKeyword "TIME" && u.isKeyword "ZONE" then level .atZone else return 0
    | _, _ => return 0
  | "NOT" =>
    match ← peekAt 1 with
    | some t =>
      match testKeywords.find? (t.isKeyword ·.1) with
      | some (_, b) => level b
      | none => return 0
    | none => return 0
  | "COLLATE" => return if (← rules).tightSymbols then 120 else 0
  | k =>
    match keywordBinding? k with
    | some b => level b
    | none => return 0

/-- How tightly the operator that comes next binds; zero if none does. -/
def levelHere : Parser Nat := do
  let tight := (← rules).tightSymbols
  match ← peekToken with
  | some (.word w) => keywordLevel w.keyword
  | some (.operator _) => level .other
  | some (.symbol s) =>
    if tight ∧ s = .lbracket then return 130
    else if tight ∧ s.bindsLikeOther then level .other
    else
      match s.binding? with
      | some b => level b
      | none => return 0
  | _ => return 0

end Parser

/-- Whether a symbol stands between two operands in a dialect. -/
def Symbol.isBinary (r : Rules) : Symbol → Bool
  | .spaceship | .doubleEq | .eq | .neq | .gt | .gtEq | .lt | .ltEq | .plus | .minus | .star
  | .percent | .concat | .pipe | .caret | .ampersand | .slash | .doubleSlash
  | .tilde | .tildeStar | .notTilde | .notTildeStar | .doubleTilde | .doubleTildeStar
  | .notDoubleTilde | .notDoubleTildeStar | .arrow | .longArrow | .hashArrow | .hashLongArrow
  | .atArrow | .arrowAt | .hashMinus | .atQuestion | .atAt | .question | .questionAnd
  | .questionPipe => true
  | .shiftLeft | .shiftRight | .overlap | .caretAt => r.extendedOperators
  | .sharp => r.symbolicOperators
  | _ => false

/-- Whether a symbol compares, and so may be followed by `ANY` or `ALL`. -/
def Symbol.compares : Symbol → Bool
  | .gt | .lt | .gtEq | .ltEq | .eq | .doubleEq | .neq => true
  | _ => false

namespace Grammar

open EntityGen.Sql.Parser

/-- What a binary operator needs to know of itself. -/
private structure Operator where
  text : String
  compares : Bool

/-- The operator spelled out between parentheses after `OPERATOR`. -/
private def spelledOperator : Parser String := do
  expectSymbol .lparen
  let part : Parser String := do
    match Located.token? (← next) with
    | some t => return t.text
    | none => return "EOF"
  let first ← part
  let rest ← many do if ← acceptSymbol .period then return some (← part) else return none
  expectSymbol .rparen
  return "OPERATOR(" ++ ".".intercalate (first :: rest) ++ ")"

/-- The binary operator that a token is, `none` if it is none. -/
private def binaryOperator (t : Token) : Parser (Option Operator) := do
  let r ← rules
  match t with
  | .symbol s =>
    if s.isBinary r then
      return some ⟨if s = .doubleEq then "=" else s.text, s.compares⟩
    else return none
  | .operator spelling => return some ⟨spelling, false⟩
  | .word w =>
    if w.keyword ∈ ["AND", "OR", "XOR"] then return some ⟨w.keyword, false⟩
    else if w.keyword = "OPERATOR" ∧ r.sessionCalls then return some ⟨← spelledOperator, false⟩
    else return none
  | _ => return none

/-- Whether the parenthesis that opens a row of tokens is closed by the last of them. `depth`
counts the parentheses open before them. -/
private def isEnclosed (depth : Nat) : List Located → Bool
  | [] => false
  | t :: ts =>
    let depth := match t.token with
      | .symbol .lparen => depth + 1
      | .symbol .rparen => depth - 1
      | _ => depth
    if depth = 0 then ts.isEmpty else isEnclosed depth ts

/-- The values after `ANY` and its like: a query, or an expression between parentheses. -/
private def manyValues (g : Grammar) (level : Nat) : Parser String := do
  let isQuery ← do
    if ← atSymbol .lparen then
      pure ((← peekAt 1).any fun t => t.isKeyword "SELECT" || t.isKeyword "WITH")
    else pure false
  if isQuery then
    let (text, taken) ← withTaken (g.expr level)
    return if isEnclosed 0 taken then text else "(" ++ text ++ ")"
  else inParens (g.expr level)

/-- The right side of a binary operator. -/
private def rightSide (g : Grammar) (op : Operator) (level : Nat) (pos : Pos) : Parser String := do
  match ← acceptOneOf ["ANY", "ALL", "SOME"] with
  | none => g.expr level
  | some k =>
    let right ← g.manyValues level
    if !op.compares then fail (.notComparison op.text pos)
    return k ++ right

private def escapeClause : Parser String := do
  if ← accept "ESCAPE" then return " ESCAPE '" ++ (← literalString) ++ "'" else return ""

/-- The list or query after `IN`. -/
private def membership (g : Grammar) : Parser String := do
  if ← accept "UNNEST" then return "UNNEST" ++ (← inParens g.whole)
  else inParens do
    if ← atQuery then g.query
    else if (← rules).emptyInList then
      return ", ".intercalate (← commaSeparatedUntil .rparen g.whole)
    else g.wholes

/-- A pattern that a text is compared with. -/
private def pattern (g : Grammar) (level : Nat) : Parser String := do
  let anyOf ← if ← accept "ANY" then pure "ANY " else pure ""
  let text ← g.expr level
  return anyOf ++ text ++ (← escapeClause)

/-- A test of an operand: `IN`, `BETWEEN`, `LIKE` and their like, perhaps after `NOT`. -/
private def test (g : Grammar) : Parser String := do
  let negation ← flag "NOT"
  let like ← level .like
  let between ← level .between
  let regexp ← accept "REGEXP"
  let rlike ← accept "RLIKE"
  let text ←
    if regexp then pure ("REGEXP " ++ (← g.expr like))
    else if rlike then pure ("RLIKE " ++ (← g.expr like))
    else if ← accept "IN" then pure ("IN " ++ (← g.membership))
    else if ← accept "BETWEEN" then
      let low ← g.expr between
      expect "AND"
      pure ("BETWEEN " ++ low ++ " AND " ++ (← g.expr between))
    else if ← accept "LIKE" then pure ("LIKE " ++ (← g.pattern like))
    else if ← accept "ILIKE" then pure ("ILIKE " ++ (← g.pattern like))
    else if ← acceptAll ["SIMILAR", "TO"] then
      let text ← g.expr like
      pure ("SIMILAR TO " ++ text ++ (← escapeClause))
    else expected .rangeAfterNot
  return negation ++ " " ++ text

/-- The predicates after `IS` that are complete. -/
private def plainPredicates : List (List String) :=
  [["NULL"], ["NOT", "NULL"], ["TRUE"], ["NOT", "TRUE"], ["FALSE"], ["NOT", "FALSE"],
   ["UNKNOWN"], ["NOT", "UNKNOWN"]]

/-- The predicate after `IS`. -/
private def predicate (g : Grammar) : Parser String := do
  match ← acceptPhrase plainPredicates with
  | some ks => return " ".intercalate ks
  | none =>
    match ← acceptPhrase [["DISTINCT", "FROM"], ["NOT", "DISTINCT", "FROM"]] with
    | some ks => return " ".intercalate ks ++ " " ++ (← g.whole)
    | none => expected .predicateAfterIs

/-- What stands between the brackets of a subscript: an index, or bounds and a stride. -/
private def subscript (g : Grammar) : Parser String := do
  let unbounded ← acceptSymbol .colon
  let low ← if unbounded then pure "" else g.whole
  if ← acceptSymbol .rbracket then return if unbounded then ":" else low
  if !unbounded then expectSymbol .colon
  if ← acceptSymbol .rbracket then return low ++ ":"
  let bounds := low ++ ":" ++ (← g.whole)
  if ← acceptSymbol .rbracket then return bounds
  expectSymbol .colon
  if ← acceptSymbol .rbracket then return bounds
  let stride ← g.whole
  expectSymbol .rbracket
  return bounds ++ ":" ++ stride

/-- Keys between brackets, after the first bracket. -/
private def keys (g : Grammar) : Parser String := do
  let key : Parser String := do
    let text ← g.whole
    expectSymbol .rbracket
    return "[" ++ text ++ "]"
  let first ← key
  let rest ← many do if ← acceptSymbol .lbracket then return some (← key) else return none
  return String.join (first :: rest)

/-- Division by a word. If no expression follows, the whole parse ends without a message. -/
private def wordDivision (g : Grammar) : Parser String := do
  return " DIV " ++ (← g.whole.orCrash)

/-- What follows the left side of an operator of a known level, from the operator on. -/
private def operation (g : Grammar) (level : Nat) : Parser String := do
  let r ← rules
  match ← peek with
  | none => expected .expression
  | some found =>
    if r.wordDivision && found.token.isKeyword "DIV" then
      let _ ← next
      g.wordDivision
    else if found.token.isKeyword "NOT" || testKeywords.any (found.token.isKeyword ·.1) then g.test
    else
      let _ ← next
      match ← binaryOperator found.token with
      | some op => return " " ++ op.text ++ " " ++ (← g.rightSide op level found.pos)
      | none =>
        match found.token with
        | .word w =>
          if w.keyword = "IS" then return " IS " ++ (← g.predicate)
          else if w.keyword = "AT" then
            expectAll ["TIME", "ZONE"]
            return " AT TIME ZONE " ++ (← g.expr level)
          else fail (.noOperator found)
        | .symbol .doubleColon => return "::" ++ (← g.balancedType).text
        | .symbol .bang => return "!"
        | .symbol .lbracket =>
          if r.subscripts then return "[" ++ (← g.subscript) ++ "]" else g.keys
        | _ => fail (.noOperator found)

/-- An operand and every operator after it that binds tighter than a level. -/
def readExpr (g : Grammar) (floor : Nat) : Parser String := nested do
  fold (← g.operand) fun left => do
    let level ← levelHere
    if floor < level then return some (left ++ (← g.operation level)) else return none

end Grammar

end EntityGen.Sql
