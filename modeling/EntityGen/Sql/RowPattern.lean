import EntityGen.Sql.Alias
import EntityGen.Sql.Call

/-! Patterns of rows: which sequences of the rows of a table belong together, and what is measured
of each. A pattern is built from symbols by sequence, choice and repetition. -/

namespace EntityGen.Sql.Grammar

open EntityGen.Sql.Parser

/-- The digits of a number. -/
private def boundDigits : Parser String := do
  let found ← next
  match Located.token? found with
  | some (.number digits _) => return digits
  | _ => expectedAt .literalNumber found

/-- The bounds of a repetition after its opening brace. Their digits are judged once the closing
brace is read, and a fault is placed at the first token between the braces. -/
private def repetitionBounds : Parser String := do
  let found ← next
  let pos := (found.map (·.pos)).getD ⟨0, 0⟩
  let judged (digits : String) : Parser String := do return toString (← numberOf 32 digits pos)
  match Located.token? found with
  | some (.symbol .comma) =>
    let most ← boundDigits
    expectSymbol .rbrace
    return "," ++ (← judged most)
  | some (.number least _) =>
    if ← acceptSymbol .comma then
      let found ← next
      match Located.token? found with
      | some (.number most _) =>
        expectSymbol .rbrace
        let least ← judged least
        return least ++ "," ++ (← judged most)
      | some (.symbol .rbrace) => return (← judged least) ++ ","
      | _ => expectedAt .upperBound found
    else
      expectSymbol .rbrace
      judged least
  | _ => expectedAt .quantifier found

/-- How often what stands before may occur, if that is told. -/
private def repetition : Parser (Option String) := do
  match ← peekToken with
  | some (.symbol .star) => let _ ← next; return some "*"
  | some (.symbol .plus) => let _ ← next; return some "+"
  | some (.placeholder "?") => let _ ← next; return some "?"
  | some (.symbol .lbrace) =>
    let _ ← next
    return some ("\x7b" ++ (← repetitionBounds) ++ "\x7d")
  | _ => return none

/-- A symbol, or a pattern in parentheses. -/
private def patternAtom (inner : Parser String) : Parser String := do
  match ← peekToken with
  | some (.symbol .caret) => let _ ← next; return "^"
  | some (.placeholder "$") => let _ ← next; return "$"
  | some (.symbol .lbrace) =>
    let _ ← next
    expectSymbol .minus
    let symbol ← named
    expectSymbol .minus
    expectSymbol .rbrace
    return "\x7b- " ++ symbol ++ " -\x7d"
  | some (.word ⟨"PERMUTE", none, _⟩) =>
    let _ ← next
    return "PERMUTE" ++ (← listedInParens named)
  | some (.symbol .lparen) => return "( " ++ (← parenthesized inner) ++ " )"
  | _ => named

/-- A pattern. `depth` bounds how many parentheses may be open. -/
private def rowPattern : Nat → Parser String
  | 0 => fail .tooDeep
  | depth + 1 => do
    let part : Parser String := do
      let atom ← patternAtom (rowPattern depth)
      return atom ++ String.join (← many repetition)
    let sequence : Parser String := do
      let first ← part
      let rest ← many do
        match ← peekToken with
        | some (.symbol .rparen) | some (.symbol .pipe) => return none
        | _ => return some (← part)
      return " ".intercalate (first :: rest)
    let first ← sequence
    let rest ← many do if ← acceptSymbol .pipe then return some (← sequence) else return none
    return " | ".intercalate (first :: rest)

private def measure (g : Grammar) : Parser String := do
  let text ← g.whole
  let _ ← accept "AS"
  return text ++ " AS " ++ (← named)

private def definition (g : Grammar) : Parser String := do
  let symbol ← named
  expect "AS"
  return symbol ++ " AS " ++ (← g.whole)

/-- Which rows of a match are given. -/
private def matchRows : Parser (Option String) := do
  if ← acceptAll ["ONE", "ROW", "PER", "MATCH"] then return some "ONE ROW PER MATCH"
  else if ← acceptAll ["ALL", "ROWS", "PER", "MATCH"] then
    return some ("ALL ROWS PER MATCH" ++ (← flagPhrase
      [["SHOW", "EMPTY", "MATCHES"], ["OMIT", "EMPTY", "MATCHES"], ["WITH", "UNMATCHED", "ROWS"]]))
  else return none

/-- Where the search goes on after a match. -/
private def skipTarget : Parser String := do
  if ← acceptAll ["PAST", "LAST", "ROW"] then return "PAST LAST ROW"
  else if ← acceptAll ["TO", "NEXT", "ROW"] then return " TO NEXT ROW"
  else if ← acceptAll ["TO", "FIRST"] then return "TO FIRST " ++ (← named)
  else if ← acceptAll ["TO", "LAST"] then return "TO LAST " ++ (← named)
  else expected .skipTarget

/-- A clause of a search for patterns, with the blank after it. -/
private def searchClause (ks : List String) (p : Parser String) : Parser String := do
  if ← acceptAll ks then return " ".intercalate ks ++ " " ++ (← p) ++ " " else return ""

/-- A search for patterns among the rows of a table, after its keyword. -/
def rowSearch (g : Grammar) (table : Relation) : Parser Relation := do
  let inner ← inParens do
    let partition ← searchClause ["PARTITION", "BY"] g.wholes
    let order ← searchClause ["ORDER", "BY"] g.orderings
    let measures ← searchClause ["MEASURES"] (listed g.measure)
    let rows := ((← matchRows).map (· ++ " ")).getD ""
    let skip ← searchClause ["AFTER", "MATCH", "SKIP"] skipTarget
    expect "PATTERN"
    let pattern ← inParens (rowPattern (← remaining))
    expect "DEFINE"
    let definitions ← listed g.definition
    return partition ++ order ++ measures ++ rows ++ skip ++ "PATTERN " ++ pattern ++ " DEFINE "
      ++ definitions
  return ⟨table.text ++ " MATCH_RECOGNIZE" ++ inner, ← tableAlias, "", false⟩

end EntityGen.Sql.Grammar
