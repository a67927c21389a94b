import EntityGen.Sql.Operator

/-! Calls: the arguments in parentheses, the clauses among them, and the clauses after them. The
windows over which a call may range, and the orders of rows, are read here too. -/

namespace EntityGen.Sql

/-- The parts of a date that may follow an interval. -/
def temporalUnits : List String :=
  ["YEAR", "MONTH", "WEEK", "DAY", "HOUR", "MINUTE", "SECOND", "CENTURY", "DECADE", "DOW", "DOY",
   "EPOCH", "ISODOW", "ISOYEAR", "JULIAN", "MICROSECOND", "MICROSECONDS", "MILLENIUM",
   "MILLENNIUM", "MILLISECOND", "MILLISECONDS", "NANOSECOND", "NANOSECONDS", "QUARTER",
   "TIMEZONE", "TIMEZONE_HOUR", "TIMEZONE_MINUTE"]

/-- The parts of a date. -/
def dateParts : List String :=
  temporalUnits ++ ["DAYOFWEEK", "DAYOFYEAR", "DATE", "DATETIME", "ISOWEEK", "TIME",
    "TIMEZONE_ABBR", "TIMEZONE_REGION"]

/-- What a select list or an argument may be. -/
inductive Item where
  /-- A `*`, perhaps after a name. -/
  | wildcard (text : String)
  | expression (text : String)

def Item.text : Item → String
  | .wildcard text | .expression text => text

namespace Grammar

open EntityGen.Sql.Parser

/-! ### Intervals -/

/-- A part of a date. -/
def datePart : Parser String := do
  let r ← rules
  let found ← next
  match Located.token? found with
  | some (.word w) =>
    if w.keyword = "WEEK" then
      if r.weekStarts && (← atSymbol .lparen) then return "WEEK" ++ (← inParens named)
      else return "WEEK"
    else if w.keyword ∈ dateParts then return w.keyword
    else if r.customDateParts then return Name.text ⟨w.value, w.quote⟩
    else expectedAt .dateTimeField found
  | some (.literal .single s) =>
    if r.customDateParts then return Name.text ⟨s, some '\x27'⟩ else expectedAt .dateTimeField found
  | _ => expectedAt .dateTimeField found

private def sizeClause : Parser String := do
  match ← optionalSize with
  | some n => return " (" ++ toString n ++ ")"
  | none => return ""

private def digitsClause : Parser String := do
  match ← optionalDigits with
  | [] => return ""
  | digits => return " (" ++ ", ".intercalate (digits.map toString) ++ ")"

/-- An interval whose keyword is already read. -/
def interval (g : Grammar) : Parser String := do
  let r ← rules
  let amount ← if r.intervalUnits then g.whole else g.operand
  let unit ← do
    if ← atOneOf temporalUnits then datePart
    else if r.intervalUnits then fail (.misuse .unitlessInterval (← position))
    else pure ""
  let start := "INTERVAL " ++ amount ++ (if unit = "" then "" else " " ++ unit)
  if unit = "SECOND" then return start ++ (← digitsClause)
  else
    let precision ← sizeClause
    if ← accept "TO" then
      let last ← datePart
      let fraction ← if last = "SECOND" then sizeClause else pure ""
      return start ++ precision ++ " TO " ++ last ++ fraction
    else return start ++ precision

/-! ### Orders -/

/-- The steps by which an order fills gaps. -/
private def fillClause (g : Grammar) : Parser String := do
  let first ← clause "FROM" g.whole
  let last ← clause "TO" g.whole
  return first ++ last ++ (← clause "STEP" g.whole)

/-- An expression with the direction in which it orders. -/
def ordering (g : Grammar) : Parser String := do
  let key ← g.whole
  let direction ← flagPhrase [["ASC"], ["DESC"]]
  let nulls ← flagPhrase [["NULLS", "FIRST"], ["NULLS", "LAST"]]
  let fill ← do
    if ← acceptAllKnown (← rules).columnarQueries ["WITH", "FILL"] then
      pure (" WITH FILL" ++ (← g.fillClause))
    else pure ""
  return key ++ direction ++ nulls ++ fill

/-- Orders between commas. -/
def orderings (g : Grammar) : Parser String := listed g.ordering

/-- `ORDER BY` and the expressions after it, if it comes next. -/
def orderClause (g : Grammar) : Parser String := clauseAll ["ORDER", "BY"] g.orderings

/-! ### Windows -/

/-- One end of a window frame. A string is the amount of an interval. -/
private def frameBound (g : Grammar) : Parser String := do
  if ← acceptAll ["CURRENT", "ROW"] then return "CURRENT ROW"
  let amount ← do
    if ← accept "UNBOUNDED" then pure "UNBOUNDED"
    else
      match ← peekToken with
      | some (.literal .single _) => g.interval
      | _ => g.whole
  match ← acceptOneOf ["PRECEDING", "FOLLOWING"] with
  | some k => return amount ++ " " ++ k
  | none => expected .frameBound

private def frame (g : Grammar) : Parser String := do
  match ← acceptOneOf ["ROWS", "RANGE", "GROUPS"] with
  | none => expected .frameUnits
  | some units =>
    if ← accept "BETWEEN" then
      let first ← g.frameBound
      expect "AND"
      return units ++ " BETWEEN " ++ first ++ " AND " ++ (← g.frameBound)
    else return units ++ " " ++ (← g.frameBound)

/-- A window after its opening parenthesis. -/
def window (g : Grammar) : Parser String := do
  let name ← do
    match ← peekToken with
    | some (.word w) =>
      if isKnownWord w.keyword then pure [] else pure ((← optionalIdentifier).map Name.text).toList
    | _ => pure []
  let partition ← do
    if ← acceptAll ["PARTITION", "BY"] then pure ["PARTITION BY " ++ (← g.wholes)] else pure []
  let order ← do
    if ← acceptAll ["ORDER", "BY"] then pure ["ORDER BY " ++ (← g.orderings)] else pure []
  let frame ← do
    if ← atSymbol .rparen then pure [] else pure [← g.frame]
  expectSymbol .rparen
  return " ".intercalate (name ++ partition ++ order ++ frame)

/-! ### Arguments -/

private def qualifiedStar (name : String) : Nat → Parser (Option String)
  | 0 => pure none
  | n + 1 => do
    if !(← acceptSymbol .period) then return none
    let found ← next
    match Located.token? found with
    | some (.word w) => qualifiedStar (name ++ "." ++ Name.text ⟨w.value, w.quote⟩) n
    | some (.literal .single s) => qualifiedStar (name ++ "." ++ Name.text ⟨s, some '\x27'⟩) n
    | some (.symbol .star) => return some (name ++ ".*")
    | _ => expectedAt .starAfterPeriod found

/-- A `*`, a dotted name that ends in one, or an expression. -/
def item (g : Grammar) : Parser Item := do
  let wildcard ← orBack do
    let found ← next
    match Located.token? found with
    | some (.symbol .star) => return some "*"
    | some (.word w) => qualifiedStar (Name.text ⟨w.value, w.quote⟩) ((← remaining) + 1)
    | some (.literal .single s) => qualifiedStar (Name.text ⟨s, some '\x27'⟩) ((← remaining) + 1)
    | _ => return none
  match wildcard with
  | some text => return .wildcard text
  | none => return .expression (← g.whole)

/-- One argument of a call, perhaps named. -/
def argument (g : Grammar) : Parser String := do
  match ← peekAt 1 with
  | some (.symbol .rightArrow) =>
    let name ← named
    expectSymbol .rightArrow
    return name ++ " => " ++ (← g.item).text
  | some (.symbol .assign) =>
    if (← rules).assignedArguments then
      let name ← named
      expectSymbol .assign
      return name ++ " := " ++ (← g.whole)
    else return (← g.item).text
  | _ => return (← g.item).text

/-- `IGNORE NULLS` or `RESPECT NULLS`, if it comes next. -/
private def nullTreatment : Parser (Option String) := do
  match ← acceptOneOf ["RESPECT", "IGNORE"] with
  | some k =>
    expect "NULLS"
    return some (k ++ " NULLS")
  | none => return none

/-- The strings that may fill up a joined string that has grown too long. -/
private def isFiller : Option Token → Bool
  | some (.literal .single _) | some (.literal .escaped _) | some (.literal .unicode _)
  | some (.literal .national _) | some (.literal .hex _) => true
  | _ => false

/-- What a call that joins strings does when they grow too long. -/
private def overflowClause (g : Grammar) : Parser (Option String) := do
  if !(← acceptAll ["ON", "OVERFLOW"]) then return none
  if ← accept "ERROR" then return some "ON OVERFLOW ERROR"
  expect "TRUNCATE"
  let filler ← do
    if ← atOneOf ["WITH", "WITHOUT"] then pure ""
    else if isFiller (← peekToken) then pure (" " ++ (← g.whole))
    else expected .overflowFiller
  match ← acceptOneOf ["WITH", "WITHOUT"] with
  | none => expected .overflowCount
  | some k =>
    expect "COUNT"
    return some ("ON OVERFLOW TRUNCATE" ++ filler ++ " " ++ k ++ " COUNT")

/-- A clause among the arguments of a call. -/
private def innerClause (known : Bool) (ks : List String) (p : Parser String) :
    Parser (Option String) := do
  if ← acceptAllKnown known ks then return some (" ".intercalate ks ++ " " ++ (← p))
  else return none

private def extremeClause (g : Grammar) : Parser String := do
  let k ← expectOneOf ["MIN", "MAX"]
  return k ++ " " ++ (← g.whole)

/-- The arguments of a call after its opening parenthesis, and whether they say how nulls are
treated. -/
def arguments (g : Grammar) : Parser (String × Bool) := do
  if ← acceptSymbol .rparen then return ("()", false)
  let r ← rules
  let start ← position
  let all ← accept "ALL"
  let distinct ← accept "DISTINCT"
  if all && distinct then fail (.misuse .allAndDistinct start)
  let quantifier := if all then "ALL " else if distinct then "DISTINCT " else ""
  let values ← listed g.argument
  let nulls ← if r.argumentClauses then nullTreatment else pure none
  let order ← innerClause true ["ORDER", "BY"] g.orderings
  let limit ← innerClause true ["LIMIT"] g.whole
  let extreme ← innerClause r.argumentClauses ["HAVING"] g.extremeClause
  let separator ← innerClause r.argumentSeparator ["SEPARATOR"] (Value.text <$> value)
  let overflow ← g.overflowClause
  expectSymbol .rparen
  let clauses := [nulls, order, limit, extreme, separator, overflow].filterMap id
  return ("(" ++ quantifier ++ " ".intercalate (values :: clauses) ++ ")", nulls.isSome)

/-! ### Calls -/

/-- The condition on the rows that a call takes in. What is read of it stays read where it does
not go on. -/
private def filterClause (g : Grammar) : Parser String := do
  if !(← accept "FILTER") then return ""
  if !(← acceptSymbol .lparen) then return ""
  if !(← accept "WHERE") then return ""
  let condition ← g.whole
  expectSymbol .rparen
  return " FILTER (WHERE " ++ condition ++ ")"

/-- A call whose name is already read, from its opening parenthesis on. -/
def call (g : Grammar) : Parser String := do
  let r ← rules
  expectSymbol .lparen
  let (first, treated) ← g.arguments
  let second ← if r.parametricCalls then acceptSymbol .lparen else pure false
  let (arguments, treated) ← do
    if second then
      let (text, treated) ← g.arguments
      pure (first ++ text, treated)
    else pure (first, treated)
  let within ← do
    if ← acceptAll ["WITHIN", "GROUP"] then
      let order ← parenthesized do
        expectAll ["ORDER", "BY"]
        g.orderings
      pure (" WITHIN GROUP (ORDER BY " ++ order ++ ")")
    else pure ""
  let filter ← if r.filteredCalls then g.filterClause else pure ""
  let nulls ← if treated then pure none else nullTreatment
  let window ← do
    if ← accept "OVER" then
      if ← acceptSymbol .lparen then pure (" OVER (" ++ (← g.window) ++ ")")
      else pure (" OVER " ++ (← named))
    else pure ""
  return arguments ++ within ++ filter ++ ((nulls.map (" " ++ ·)).getD "") ++ window

end Grammar

end EntityGen.Sql
