import EntityGen.Generation
import EntityGen.Json.Printer
import EntityGen.Settings

/-! What a request produces: a file, a text, or nothing if no input is entered. -/

namespace EntityGen

open CommandLine (Request)

/-- What is produced. -/
inductive Product where
  /-- The file of an entity, at a path. -/
  | file (path : String) (e : Entity)
  | printed (text : String)
  | nothing
  deriving DecidableEq, Repr

namespace Product

/-- The input: the text that is given, or else what comes of asking. -/
def obtain (given : Option String) (question : Prompt.Question) : Job (Option String) :=
  match given with
  | some text => .done (some text)
  | none =>
    .ask question fun
      | .piped none => .fail (.fileFault .invalidText)
      | .piped (some text) => do
        Job.debug "rbatis_gen::prompt"
          ("Read " ++ toString text.utf8ByteSize ++ " bytes from stdin")
        return some text
      | .entered text => .done text
      | .cancelled => do
        Job.debug "rbatis_gen::prompt" "Prompt cancelled by user"
        return none

/-- Reads the only table that a text defines. -/
def readTable (d : Sql.Dialect) (text : String) : Job TableSchema := do
  Job.debug "sqlparser::parser" ("Parsing sql '" ++ text ++ "'...")
  match Sql.parseStatements d text.toList with
  | .error cause => .fail (.badTable (.unreadable cause))
  | .ok statements => do
    Job.debug "rbatis_gen::ddl" ("Parsed " ++ toString statements.length ++ " statement(s)")
    match TableSchema.ofStatements statements with
    | .error cause => .fail (.badTable cause)
    | .ok schema => .done schema

/-- Fails early if the input names a file that a request would have to write. -/
def probe (s : Settings) (input : String) : Job Unit :=
  match s.output, s.directory with
  | .write, some directory => Generation.probe directory.text input
  | _, _ => .done ()

/-- The product that is an entity. -/
def ofEntity (s : Settings) (e : Entity) : Job Product :=
  match s.output, s.directory with
  | .write, some directory => do
    let path ← Generation.create directory.text e
    return .file path e
  | .write, none => .fail .noTarget
  | _, _ => .done (.printed e.source)

/-- The product of a table definition. -/
def ofSql (s : Settings) (input : String) : Job Product := do
  probe s input
  let schema ← readTable s.dialect input
  Job.debug "rbatis_gen"
    ("Parsed table " ++ schema.name ++ " with " ++ toString schema.columns.length ++ " columns")
  if s.output = .schema then .done (.printed (schema.toJson.pretty ++ "\n"))
  else ofEntity s (.ofSchema schema)

/-- The product of a sample. -/
def ofSample (s : Settings) (name input : String) : Job Product :=
  match Entity.ofSample name input with
  | .error cause => .fail (.badSample cause)
  | .ok e => ofEntity s e

/-- The product of an input, or nothing without one. -/
def ofInput (kind : String) (input : Option String) (produce : String → Job Product) :
    Job Product :=
  match input with
  | some text => produce text
  | none => do
    Job.info "rbatis_gen" ("No " ++ kind ++ " entered, nothing generated")
    return .nothing

/-- The product of settings. -/
def ofSettings (s : Settings) : Job Product :=
  match s.source with
  | .sql given => do
    let input ← obtain given Prompt.sqlQuestion
    ofInput "DDL" input (ofSql s)
  | .sample name given => do
    let input ← obtain given (Prompt.sampleQuestion name)
    ofInput "JSON" input (ofSample s name)

/-- The product of a request. -/
def ofRequest (workingDirectory : String) (r : Request) : Job Product := do
  Job.debug "rbatis_gen::logging" "Verbose logging enabled"
  let settings ← Settings.of workingDirectory r
  Job.debug "rbatis_gen" ("Configuration: " ++ settings.text)
  ofSettings settings

/-- The end of whatever color a text is in. -/
def resetColor : List Char := ['\x1b', '[', '0', 'm']

/-- A text that takes up its color again wherever it resets it. -/
def recolored (color : List Char) : List Char → List Char
  | [] => []
  | '\x1b' :: '[' :: '0' :: 'm' :: cs => resetColor ++ color ++ recolored color cs
  | c :: cs => c :: recolored color cs

/-- A text in a color of the terminal. -/
def inColor (colored : Bool) (code text : String) : String :=
  if colored then
    let color := '\x1b' :: '[' :: code.toList ++ ['m']
    String.ofList (color ++ recolored color text.toList ++ resetColor)
  else text

/-- What is said of a product. -/
def text (colored : Bool) : Product → String
  | .file path e =>
    inColor colored "32" "✓" ++ " " ++ inColor colored "1" "Created" ++ " " ++ path ++ "\n"
      ++ "  struct " ++ inColor colored "36" e.structName ++ " with "
      ++ toString e.fields.length ++ " fields\n"
  | .printed text => text
  | .nothing => ""

end Product

end EntityGen
