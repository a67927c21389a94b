import EntityGen.Sql.DataType
import EntityGen.Sql.Lexer
import EntityGen.Sql.Wanted

/-! Why a text is no statement. A `Failure` keeps the cause; `Failure.text` words it. -/

namespace EntityGen.Sql

/-- Why digits are no number of a width. -/
inductive NumberFault where
  | badDigit
  | tooLarge
  deriving DecidableEq, Repr

def NumberFault.text : NumberFault → String
  | .badDigit => "invalid digit found in string"
  | .tooLarge => "number too large to fit in target type"

private def foundText : Option Located → String
  | none => "EOF"
  | some t => t.token.text

/-- The message about a token that is not what was looked for. -/
private def unexpectedText (wanted : Wanted) (found : Option Located) : String :=
  "Expected: " ++ wanted.text ++ ", found: " ++ foundText found
    ++ (found.map fun t => t.pos.text).getD ""

/-- Clauses that exclude each other, are left unfinished, or mean nothing where they stand. -/
inductive Misuse where
  | allAndDistinct
  | unitlessInterval
  | openStruct
  | openStructLiteral
  | typedStructAlias
  | cascadeAndRestrict
  | dependentsOfRole
  /-- The word `FROM` where an expression should stand. -/
  | fromAsExpression (word : String)
  | sideWithoutJoin (side : String)
  | nestedExplain
  /-- A second name for a table that has one. -/
  | repeatedAlias (name : String)
  | markupKind
  | documentKind
  /-- A change that the rows of a merge clause do not admit. -/
  | barredMergeAction (action clause : String)
  | missingMergeAction
  | unsupportedStatement (name : String)
  | queryAsSource
  | notOneChar (found : String)
  | qualifiedShow
  | cascadeAndRestrictGrant
  | missingOwner (found : Option Located)
  | roleChange
  | repeatedClause (clause : String)
  | repeatedRoleOption (option : String)
  deriving DecidableEq, Repr

def Misuse.text : Misuse → String
  | .allAndDistinct => "Cannot specify both ALL and DISTINCT"
  | .unitlessInterval => "INTERVAL requires a unit after the literal value"
  | .openStruct => "unmatched > in STRUCT definition"
  | .openStructLiteral => "unmatched > in STRUCT literal"
  | .typedStructAlias => "Typed syntax does not allow AS"
  | .cascadeAndRestrict => "Cannot specify both CASCADE and RESTRICT in DROP"
  | .dependentsOfRole => "Cannot specify CASCADE, RESTRICT, or PURGE in DROP ROLE"
  | .fromAsExpression word => "Expected an expression, found: " ++ word
  | .sideWithoutJoin side => "expected OUTER, SEMI, ANTI or JOIN after " ++ side
  | .nestedExplain => "Explain must be root of the plan"
  | .repeatedAlias name => "duplicate alias " ++ name
  | .markupKind => "Expected FOR XML [RAW | AUTO | EXPLICIT | PATH ]"
  | .documentKind => "Expected FOR JSON [AUTO | PATH ]"
  | .barredMergeAction action clause =>
    action ++ " is not allowed in a " ++ clause ++ " merge clause"
  | .missingMergeAction => "expected UPDATE, DELETE or INSERT in merge clause"
  | .unsupportedStatement name => "Unsupported statement " ++ name
  | .queryAsSource => "COPY ... FROM does not support query as a source"
  | .notOneChar found => "Expect a char, found " ++ found
  | .qualifiedShow => "EXTENDED/FULL are not supported with this type of SHOW query"
  | .cascadeAndRestrictGrant => "Cannot specify both CASCADE and RESTRICT in REVOKE"
  | .missingOwner found =>
    "Expected: CURRENT_USER, CURRENT_ROLE, SESSION_USER or identifier after OWNER TO. "
      ++ "sql parser error: " ++ unexpectedText .identifier found
  | .roleChange => "ALTER ROLE is only support for PostgreSqlDialect, MsSqlDialect"
  | .repeatedClause clause => clause ++ " specified more than once"
  | .repeatedRoleOption option => "Found multiple " ++ option

/-- Why a text is not the statement it should be. -/
inductive Failure where
  | lexical (fault : LexicalFault) (pos : Pos)
  /-- `found` is `none` at the end of the text. -/
  | unexpected (wanted : Wanted) (found : Option Located)
  | badNumber (digits : String) (bits : Nat) (fault : NumberFault) (pos : Pos)
  /-- A token that binds like an operator and is none in this dialect. -/
  | noOperator (found : Located)
  /-- A closing bracket more than the type has opened. -/
  | strayBracket (type : DataType) (next : Option Located)
  | misuse (kind : Misuse) (pos : Option Pos)
  /-- An operator that compares no value with many. -/
  | notComparison (operator : String) (pos : Pos)
  /-- A period after parentheses that no name follows. -/
  | noField (found : Option Located)
  | extractSeparator
  | scaleNotNumber
  | badClustering
  | tooDeep
  /-- What must follow cannot be read; the parser stops without a message. -/
  | crash

/-! ### Places -/

def Located.relocate (f : Pos → Pos) (t : Located) : Located := ⟨t.token, f t.pos⟩

/-- A misuse with its places moved. -/
def Misuse.relocate (f : Pos → Pos) : Misuse → Misuse
  | .missingOwner found => .missingOwner (found.map (·.relocate f))
  | kind => kind

/-- A failure with its places moved. -/
def Failure.relocate (f : Pos → Pos) : Failure → Failure
  | .lexical fault pos => .lexical fault (f pos)
  | .unexpected wanted found => .unexpected wanted (found.map (·.relocate f))
  | .badNumber digits bits fault pos => .badNumber digits bits fault (f pos)
  | .noOperator found => .noOperator (found.relocate f)
  | .strayBracket type next => .strayBracket type (next.map (·.relocate f))
  | .misuse kind pos => .misuse (kind.relocate f) (pos.map f)
  | .notComparison operator pos => .notComparison operator (f pos)
  | .noField found => .noField (found.map (·.relocate f))
  | e => e

/-! ### Messages -/

/-- The name of a token that binds like an operator in some dialects only. -/
private def Token.operatorName : Token → String
  | .word w =>
    "Word(Word \x7b value: \"" ++ w.value ++ "\", quote_style: None, keyword: " ++ w.keyword
      ++ " \x7d)"
  | .symbol .sharp => "Sharp"
  | .symbol .shiftLeft => "ShiftLeft"
  | .symbol .shiftRight => "ShiftRight"
  | .symbol .overlap => "Overlap"
  | .symbol .caretAt => "CaretAt"
  | t => t.text

/-- The message of a failure. -/
def Failure.text : Failure → String
  | .lexical fault pos => fault.text ++ pos.text
  | .unexpected wanted found => unexpectedText wanted found
  | .badNumber digits bits fault pos =>
    "Could not parse '" ++ digits ++ "' as u" ++ toString bits ++ ": " ++ fault.text ++ pos.text
  | .noOperator found =>
    "No infix parser for token " ++ found.token.operatorName ++ found.pos.text
  | .strayBracket type next =>
    "unmatched > after parsing data type " ++ type.text ++ foundText next
  | .misuse kind pos => kind.text ++ (pos.map Pos.text).getD ""
  | .notComparison operator pos =>
    "Expected one of [=, >, <, =>, =<, !=] as comparison operator, found: " ++ operator ++ pos.text
  | .noField found =>
    "Expected identifier, found: " ++ foundText found ++ (found.map fun t => t.pos.text).getD ""
  | .extractSeparator => "Expected 'FROM' or ','"
  | .scaleNotNumber => "Scale field can only be of number type"
  | .badClustering => "invalid CLUSTERED sequence"
  | .tooDeep => "recursion limit exceeded"
  | .crash => ""

end EntityGen.Sql
