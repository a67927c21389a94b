import EntityGen.CommandLine.Request
import EntityGen.Job
import EntityGen.Text.Quote

/-! Settings: a request with its target resolved to the directory that generated files go into. -/

namespace EntityGen

open CommandLine (Request)
open Files (Path join)

/-- What an entity is made from, with its text if that is given already. -/
inductive Source where
  | sql (text : Option String)
  | sample (name : String) (text : Option String)
  deriving DecidableEq, Repr

/-- What is done with an entity. -/
inductive OutputMode where
  | write
  | print
  /-- The schema is printed instead of an entity. -/
  | schema
  deriving DecidableEq, Repr

/-- How an entity is to be generated. -/
structure Settings where
  noColor : Bool
  verbose : Bool
  /-- Where files go. It is needed for writing only. -/
  directory : Option Path
  source : Source
  dialect : Sql.Dialect
  output : OutputMode
  deriving DecidableEq, Repr

/-- A request without a mode writes. -/
def OutputMode.of (r : Request) : OutputMode :=
  if r.print then .print else if r.schema then .schema else .write

/-- A request that names an entity wants it made from a sample. -/
def Source.of (r : Request) : Source :=
  match r.name with
  | some name => .sample name r.json
  | none => .sql r.ddl

namespace Settings

/-- The directory that a place stands for, by what its own path leads to: the place itself, or the
one around it if it is a file. -/
def directoryAt (place : Path) : Job Path :=
  .locate place.text fun answer =>
    if answer.toOption.any (·.isDirectory) then .done place
    else
      match place.parent? with
      | some parent => .done parent
      | none => .fail .noTarget

/-- The directory that a target stands for. The target must lead somewhere, and then have a real
path. -/
def directoryOf (workingDirectory target : String) : Job Path :=
  let path := join workingDirectory target
  .locate path fun
    | .error _ => .fail (.missingTarget (.absent path))
    | .ok _ =>
      .locate path fun
        | .error cause => .fail (.missingTarget (.unresolved path cause))
        | .ok l => directoryAt l.place

/-- The directory of a request, which must have one if it writes. -/
def targetOf (workingDirectory : String) (r : Request) : Job (Option Path) :=
  match r.target with
  | some target => do
    let directory ← directoryOf workingDirectory target
    return some directory
  | none => if OutputMode.of r = .write then .fail .noTarget else return none

/-- The settings of a request. -/
def of (workingDirectory : String) (r : Request) : Job Settings := do
  let directory ← targetOf workingDirectory r
  return ⟨r.noColor, r.verbose, directory, .of r, r.dialect, .of r⟩

private def optionText (text : Option String) : String :=
  match text with
  | none => "None"
  | some text => "Some(" ++ text ++ ")"

private def dialectText : Sql.Dialect → String
  | .mysql => "Mysql"
  | .postgres => "Postgres"
  | .sqlite => "Sqlite"
  | .generic => "Generic"

private def outputText : OutputMode → String
  | .write => "Write"
  | .print => "Print"
  | .schema => "Schema"

private def sourceText : Source → String
  | .sql text => "Ddl(" ++ optionText (text.map Text.quoted) ++ ")"
  | .sample name text =>
    "Json \x7b name: " ++ Text.quoted name ++ ", sample: " ++ optionText (text.map Text.quoted)
      ++ " \x7d"

/-- The settings as a line of the log. -/
def text (s : Settings) : String :=
  "Config \x7b no_color: " ++ toString s.noColor ++ ", verbose: " ++ toString s.verbose
    ++ ", target_dir: " ++ optionText (s.directory.map fun p => Text.quoted p.text)
    ++ ", source: " ++ sourceText s.source ++ ", dialect: " ++ dialectText s.dialect
    ++ ", output_mode: " ++ outputText s.output ++ " \x7d"

end Settings

end EntityGen
