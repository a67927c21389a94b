import EntityGen.Sql.Grammar

/-! Transactions: how they begin and end, and the modes they run in. -/

namespace EntityGen.Sql.Grammar

open EntityGen.Sql.Parser

private def isolationLevels : List (List String) :=
  [["READ", "UNCOMMITTED"], ["READ", "COMMITTED"], ["REPEATABLE", "READ"], ["SERIALIZABLE"]]

/-- A mode of a transaction; `false` if none comes next. -/
private def transactionMode : Parser Bool := do
  if ← acceptAll ["ISOLATION", "LEVEL"] then
    if (← acceptPhrase isolationLevels).isNone then expected .isolation
    return true
  else return (← acceptPhrase [["READ", "ONLY"], ["READ", "WRITE"]]).isSome

/-- The modes of a transaction. Commas between them may be left out, but after a comma one must
come. -/
def transactionModes : Parser Unit :=
  discard <| fold false fun due => do
    if ← transactionMode then return some (← acceptSymbol .comma)
    else if due then expected .transactionMode
    else return none

/-- What follows `BEGIN`. -/
def beginning : Parser Unit := do
  if (← rules).transactionKinds then
    discard (acceptOneOf ["DEFERRED", "IMMEDIATE", "EXCLUSIVE"])
  discard (acceptOneOf ["TRANSACTION", "WORK"])
  transactionModes

/-- What follows `START`. -/
def starting : Parser Unit := do
  expect "TRANSACTION"
  transactionModes

/-- What follows `COMMIT` or `END`. -/
def commitment : Parser Unit := do
  discard (acceptOneOf ["TRANSACTION", "WORK"])
  optionally "AND" do
    discard (accept "NO")
    expect "CHAIN"

/-- What follows `ROLLBACK`. -/
def withdrawal : Parser Unit := do
  commitment
  optionally "TO" do
    discard (accept "SAVEPOINT")
    discard identifier

/-- What follows `RELEASE`. -/
def release : Parser Unit := do
  discard (accept "SAVEPOINT")
  discard identifier

end EntityGen.Sql.Grammar
