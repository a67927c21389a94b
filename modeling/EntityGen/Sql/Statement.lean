import EntityGen.Sql.AlterationGrammar
import EntityGen.Sql.CreationGrammar
import EntityGen.Sql.CursorGrammar
import EntityGen.Sql.MaintenanceGrammar
import EntityGen.Sql.Operand
import EntityGen.Sql.Query
import EntityGen.Sql.RemovalGrammar
import EntityGen.Sql.SessionGrammar
import EntityGen.Sql.TransferGrammar

/-! Statements, and the texts that hold them. `Grammar.ofDepth` ties the phrases of the language
together: each level of a phrase takes a token before it comes back to itself, so a depth that
grows with the tokens is never used up. `parseStatements` reads a whole text. -/

namespace EntityGen.Sql

/-- A statement, of which only a table definition is kept. -/
inductive Statement where
  | table (definition : TableDefinition)
  /-- A statement that shows how another is carried out. -/
  | explanation
  | other

/-- How many statements, queries and expressions may be open at once. -/
def roomForNesting : Nat := 50

/-- The phrases one level further up. -/
def Grammar.step (g : Grammar) : Grammar where
  expr := g.readExpr
  operand := g.readOperand
  dataType := g.readType
  column := g.readColumn
  query := g.readQuery
  body := g.readBody
  joined := g.readJoined

/-- The phrases of which none can be read. -/
def Grammar.empty : Grammar where
  expr _ := .fail .tooDeep
  operand := .fail .tooDeep
  dataType := .fail .tooDeep
  column := .fail .tooDeep
  query := .fail .tooDeep
  body _ := .fail .tooDeep
  joined := .fail .tooDeep

/-- The phrases up to a depth of nesting. -/
def Grammar.ofDepth : Nat → Grammar
  | 0 => .empty
  | n + 1 => (ofDepth n).step

namespace Grammar

open EntityGen.Sql.Parser

/-! ### Lists of statements -/

/-- Statements between semicolons. `due` tells that the one before is not yet closed. -/
def statementsFrom (one : Parser Statement) (due : Bool) : Nat → Parser (List Statement)
  | 0 => pure []
  | n + 1 => do
    if ← acceptSymbol .semicolon then statementsFrom one false n
    else if ← atEnd then return []
    else if due then
      if ← atKeyword "END" then return [] else expected .endOfStatement
    else
      let first ← one
      return first :: (← statementsFrom one true n)

/-- All statements between semicolons. `END` after a statement ends the reading. -/
def statementList (one : Parser Statement) : Parser (List Statement) := do
  statementsFrom one false (2 * (← remaining) + 1)

/-! ### Explanations -/

/-- An option of `EXPLAIN`, perhaps with a value. -/
private def explainOption (g : Grammar) : Parser Unit := do
  discard identifier
  if !((← atSymbol .comma) || (← atSymbol .rparen)) then discard g.whole

private def explainFormat : Parser Unit := do
  let found ← next
  let isFormat := (Located.token? found).any fun t =>
    ["TEXT", "GRAPHVIZ", "JSON"].any t.isKeyword
  if !isFormat then expectedAt .fileFormat found

/-- What follows `EXPLAIN`, `DESCRIBE` or `DESC`: a statement, or the name of a table. -/
private def explanation (g : Grammar) (inner : Parser Statement) (optioned : Bool) :
    Parser Unit := do
  if optioned && (← atSymbol .lparen) then
    discard (parenthesized (commaSeparated g.explainOption))
  else if !(← acceptAll ["QUERY", "PLAN"]) then
    discard (accept "ANALYZE")
    discard (accept "VERBOSE")
    optionally "FORMAT" explainFormat
  match ← attempt inner with
  | some .explanation => fail (.misuse .nestedExplain none)
  | some _ => pure ()
  | none =>
    discard (acceptOneOf ["EXTENDED", "FORMATTED"])
    discard dottedName

/-! ### Statements -/

/-- Rows that take the place of old ones, where the dialect has a statement for them. -/
def replacement (g : Grammar) (r : Rules) : Parser Unit := do
  if !r.replaceStatements then
    fail (.misuse (.unsupportedStatement "REPLACE") (← position))
  discard (g.insertion "REPLACE")

/-- The statements that begin with a keyword of their own, by what follows it. -/
def commonStatements (g : Grammar) (r : Rules) : List (String × Parser Unit) :=
  [("DROP", g.removal), ("ALTER", g.alteration),
   ("INSERT", discard (g.insertion "INSERT")), ("REPLACE", g.replacement r),
   ("UPDATE", discard g.revision), ("DELETE", g.deletion), ("MERGE", g.merging),
   ("TRUNCATE", g.truncation),
   ("SET", g.variableSetting), ("SHOW", g.display), ("USE", discard dottedName),
   ("PRAGMA", directive), ("DISCARD", discarding),
   ("BEGIN", beginning), ("START", starting), ("COMMIT", commitment), ("END", commitment),
   ("ROLLBACK", withdrawal), ("SAVEPOINT", discard identifier), ("RELEASE", release),
   ("GRANT", granting), ("REVOKE", revocation),
   ("DECLARE", g.cursorDeclaration), ("FETCH", fetching), ("CLOSE", closing),
   ("CALL", g.callStatement), ("ASSERT", g.assertion), ("DEALLOCATE", deallocation),
   ("EXECUTE", g.execution), ("EXEC", g.execution),
   ("COPY", g.copying), ("UNLOAD", g.unloading),
   ("ANALYZE", g.analysis), ("MSCK", metadataCheck), ("CACHE", g.caching),
   ("UNCACHE", uncaching), ("ATTACH", g.attachment), ("KILL", killing), ("FLUSH", flushing)]

/-- The statements that only some dialects have. -/
def particularStatements (g : Grammar) (r : Rules) : List (String × Parser Unit) :=
  (if r.attachments then
    [("DETACH", detachment), ("INSTALL", discard identifier), ("LOAD", discard identifier)]
    else [])
  ++ (if r.tableParts then [("OPTIMIZE", g.optimization)] else [])
  ++ (if r.notifications then [("LISTEN", discard identifier), ("NOTIFY", notification)] else [])
  ++ (if r.commentStatements then [("COMMENT", remark)] else [])

/-- A statement by its first keyword, which is already read. `inner` reads a statement inside
it. -/
def statementAfter (g : Grammar) (r : Rules) (inner : Parser Statement)
    (keyword : String) : Option (Parser Statement) :=
  match keyword with
  | "CREATE" => some do
    match ← g.creation (discard (statementList inner)) with
    | some definition => return .table definition
    | none => return .other
  | "EXPLAIN" | "DESCRIBE" | "DESC" => some do
    g.explanation inner (keyword = "EXPLAIN" && r.explainOptions)
    return .explanation
  | "PREPARE" => some do
    g.preparation (discard inner)
    return .other
  | _ =>
    ((g.commonStatements r ++ g.particularStatements r).lookup keyword).map fun p => do
      p
      return .other

/-- A statement that a dialect knows by more than its first keyword. -/
def dialectStatement (g : Grammar) (r : Rules) : Parser Bool := do
  if ← acceptAllKnown r.tableLocks ["LOCK", "TABLES"] then
    tableLocks
    return true
  else if ← acceptAllKnown r.tableLocks ["UNLOCK", "TABLES"] then return true
  else if r.conflictClauses && (← atKeyword "REPLACE") then
    discard (g.insertion "INSERT")
    return true
  else return false

/-- A statement. `depth` bounds how many statements may stand inside one another. -/
def statement (g : Grammar) : Nat → Parser Statement
  | 0 => fail .tooDeep
  | depth + 1 => nested do
    let r ← rules
    if ← g.dialectStatement r then return .other
    if (← atSymbol .lparen) || (← atOneOf ["SELECT", "WITH", "VALUES"]) then
      discard g.query
      return .other
    match g.statementAfter r (g.statement depth) (← peekKeyword) with
    | some p =>
      discard next
      p
    | none => expected .statement

/-- The statements of a whole text. -/
def statements (g : Grammar) : Parser (List Statement) :=
  statementList (g.statement (roomForNesting + 1))

end Grammar

/-- Tokens placed by their order alone: the `n`-th, counted from zero, stands in line `n + 1`. -/
def inOrder (ts : List Token) : List Located := ts.mapIdx fun n t => ⟨t, ⟨n + 1, 1⟩⟩

@[simp] theorem map_token_inOrder (ts : List Token) : (inOrder ts).map (·.token) = ts := by
  apply List.ext_getElem <;> simp [inOrder]

/-- The statements that a row of tokens makes. A failure names a token by its number. -/
def readStatements (r : Rules) (ts : List Token) : Except Failure (List Statement) :=
  let grammar := Grammar.ofDepth (4 * (ts.length + 2))
  (grammar.statements ⟨r, roomForNesting, false⟩ (inOrder ts)).1

/-- The place in a text of a token that is named by its number. -/
def placeIn (ts : List Located) (pos : Pos) : Pos :=
  match pos.line with
  | 0 => pos
  | n + 1 => (ts[n]?.map (·.pos)).getD pos

/-- The statements of a text in a dialect. White space and comments count only for the places that
a failure names. -/
def parseStatements (d : Dialect) (text : List Char) : Except Failure (List Statement) :=
  match lex d.rules text with
  | .error (fault, pos) => .error (.lexical fault pos)
  | .ok tokens =>
    (readStatements d.rules (tokens.map (·.token))).mapError (Failure.relocate (placeIn tokens))

end EntityGen.Sql
