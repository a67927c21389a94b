import EntityGen.Sql.ObjectGrammar

/-! Roles and what they may do: their options, the privileges they are granted, and the policies
that hold for them. -/

namespace EntityGen.Sql

/-- The privileges that may be granted. -/
def privilegeWords : List String :=
  ["CONNECT", "CREATE", "DELETE", "EXECUTE", "INSERT", "REFERENCES", "SELECT", "TEMPORARY",
   "TRIGGER", "TRUNCATE", "UPDATE", "USAGE"]

/-- The privileges that may be granted on single columns. -/
def columnPrivileges : List String := ["INSERT", "REFERENCES", "SELECT", "UPDATE"]

/-- The abilities that a role either has or has not, by the keywords for both. -/
def roleAbilities : List (String × String) :=
  [("LOGIN", "NOLOGIN"), ("INHERIT", "NOINHERIT"), ("BYPASSRLS", "NOBYPASSRLS"),
   ("CREATEDB", "NOCREATEDB"), ("CREATEROLE", "NOCREATEROLE"), ("SUPERUSER", "NOSUPERUSER"),
   ("REPLICATION", "NOREPLICATION")]

namespace Parser

/-- A name that must follow. If none does, the whole parse ends without a message. -/
def certainName : Parser Unit := do
  if (← recovering identifier).isNone then fail .crash

end Parser

namespace Grammar

open EntityGen.Sql.Parser

/-! ### Granting -/

private def privilege : Parser Unit := do
  match ← acceptOneOf privilegeWords with
  | some k => if k ∈ columnPrivileges then discard optionalColumnList
  | none => expected .privilege

/-- What is granted, and on which objects. -/
private def grantedPrivileges : Parser Unit := do
  if ← accept "ALL" then discard (accept "PRIVILEGES") else discard (commaSeparated privilege)
  expect "ON"
  let everywhere ← acceptPhrase
    [["ALL", "TABLES", "IN", "SCHEMA"], ["ALL", "SEQUENCES", "IN", "SCHEMA"]]
  if everywhere.isNone then discard (acceptOneOf ["SEQUENCE", "SCHEMA", "TABLE"])
  discard (commaSeparated dottedName)

private def grantor : Parser Unit := do
  if ← acceptAll ["GRANTED", "BY"] then certainName

/-- What follows `GRANT`. -/
def granting : Parser Unit := do
  grantedPrivileges
  expect "TO"
  discard (commaSeparated identifier)
  discard (acceptAll ["WITH", "GRANT", "OPTION"])
  grantor

/-- What follows `REVOKE`. -/
def revocation : Parser Unit := do
  grantedPrivileges
  expect "FROM"
  discard (commaSeparated identifier)
  grantor
  let start ← position
  let cascade ← accept "CASCADE"
  let restrict ← accept "RESTRICT"
  if cascade && restrict then fail (.misuse .cascadeAndRestrictGrant start)

/-! ### Roles -/

private def password : Parser Unit := do
  if !(← accept "NULL") then discard value

/-- An option of a new role after its first keyword: how it is called in messages, and what
follows. -/
private def newRoleOption (keyword : String) : Parser (String × Parser Unit) := do
  let names : Parser Unit := discard (commaSeparated identifier)
  match keyword with
  | "PASSWORD" => return ("PASSWORD", password)
  | "CONNECTION" =>
    expect "LIMIT"
    return ("CONNECTION LIMIT", discard numericValue)
  | "VALID" =>
    expect "UNTIL"
    return ("VALID UNTIL", discard value)
  | "IN" =>
    match ← acceptOneOf ["ROLE", "GROUP"] with
    | some k => return ("IN " ++ k, names)
    | none => expected .roleOrGroup
  | k =>
    match roleAbilities.find? fun (has, lacks) => k = has ∨ k = lacks with
    | some (has, lacks) => return (has ++ " or " ++ lacks, pure ())
    | none => return (k, names)

private def abilityWords : List String := roleAbilities.flatMap fun (has, lacks) => [has, lacks]

/-- The options of a new role, each at most once. -/
private def newRoleOptions : Parser Unit :=
  discard <| fold ([] : List String) fun given => do
    let start ← position
    match ← acceptOneOf (abilityWords
        ++ ["PASSWORD", "CONNECTION", "VALID", "IN", "ADMIN", "ROLE", "USER"]) with
    | none => return none
    | some keyword =>
      let (option, rest) ← newRoleOption keyword
      if option ∈ given then fail (.misuse (.repeatedRoleOption option) start)
      rest
      return some (option :: given)

/-- A role after `ROLE`. -/
def roleDefinition : Parser Unit := do
  ifNotExists
  discard (commaSeparated dottedName)
  discard (accept "WITH")
  if (← rules).roleOptions then newRoleOptions

/-- An option that a role is given or loses. -/
private def roleOption : Parser Unit := do
  match ← acceptOneOf (abilityWords ++ ["PASSWORD", "CONNECTION", "VALID"]) with
  | some keyword =>
    let (_, rest) ← newRoleOption keyword
    rest
  | none => expected .roleOption

/-- What a variable of a role is set to. -/
private def roleVariable (g : Grammar) : Parser Unit := do
  discard dottedName
  if !(← acceptAll ["FROM", "CURRENT"]) then
    let assigned ← do if ← acceptSymbol .eq then pure true else accept "TO"
    if !assigned then expected .configAssignment
    if !(← accept "DEFAULT") then
      if (← recovering g.whole).isNone then expected .configValue

/-- A change of a role after `ALTER ROLE`. -/
def roleChange (g : Grammar) : Parser Unit := do
  if !(← rules).roleOptions then fail (.misuse .roleChange none)
  discard identifier
  if ← acceptAll ["IN", "DATABASE"] then looseName
  if ← accept "RENAME" then
    if ← accept "TO" then discard identifier else expected .newName
  else if ← accept "SET" then g.roleVariable
  else if ← accept "RESET" then
    if !(← accept "ALL") then discard dottedName
  else
    discard (accept "WITH")
    if (← many (attempt roleOption)).isEmpty then expected .roleOption

/-- A change of a policy after `ALTER POLICY`. -/
def policyChange (g : Grammar) : Parser Unit := do
  discard identifier
  expect "ON"
  discard dottedName
  if ← accept "RENAME" then
    expect "TO"
    discard identifier
  else g.policyConditions

end Grammar

end EntityGen.Sql
