import EntityGen.CommandLine.Argument
import EntityGen.Text.Control

/-! The help texts of the command line: a short one with a line for each argument, and a long one
with a paragraph for each. On a terminal headings and arguments stand out. -/

namespace EntityGen.CommandLine

/-- The name of the program. -/
def programName : String := "rbatis-gen"

/-- The answer to a question for the version. -/
def versionText : String := programName ++ " 0.1.0\n"

/-- What an argument is for. -/
def Argument.purpose : Argument → String
  | .target => "File or directory to place the generated file next to / into"
  | .ddl => "CREATE TABLE statement to convert"
  | .name => "Struct name; switches to generating from a JSON object sample"
  | .json => "JSON object sample to convert (requires --name)"
  | .dialect => "SQL dialect used to parse the DDL"
  | .print => "Print the generated source to stdout instead of writing a file"
  | .schema => "Print the parsed table schema as JSON instead of writing a file"
  | .noColor => "Suppress colored output"
  | .verbose => "Enable verbose output for debugging"
  | .help => "Print help"
  | .version => "Print version"

/-- The variable that sets the target from outside. -/
def targetVariable : String := "RBATIS_GEN_TARGET"

/-- What else is said of an argument: where its value may come from and what it may be. -/
def Argument.notes (target : Option String) : Argument → List String
  | .target => ["[env: " ++ targetVariable ++ "=" ++ target.getD "" ++ "]"]
  | .dialect => ["[default: mysql]", dialectChoice]
  | _ => []

/-- What stands out in a help text. -/
inductive Emphasis where
  | heading
  /-- Something to be typed as it is. -/
  | typed
  deriving DecidableEq, Repr

/-- A text that stands out where colors are shown. -/
def Emphasis.text (colored : Bool) (e : Emphasis) (text : String) : String :=
  let start :=
    match e with
    | .heading => "\x1b[1m\x1b[4m"
    | .typed => "\x1b[1m"
  if colored then start ++ text ++ "\x1b[0m" else text

/-- An argument as it is written, by its letter and by its name. -/
def Argument.written (colored : Bool) (a : Argument) : String :=
  let typed := Emphasis.typed.text colored
  let letter :=
    match a.short? with
    | some letter => "  " ++ typed ("-" ++ String.ofList [letter]) ++ ", "
    | none => "      "
  let value :=
    match a.value? with
    | some value => " <" ++ value ++ ">"
    | none => ""
  letter ++ typed ("--" ++ a.long) ++ value

/-- How many columns an argument takes. -/
def Argument.width (a : Argument) : Nat := (a.written false).length

/-- The column in which the purposes start. -/
private def purposeColumn : Nat := (Argument.all.map (·.width)).foldl max 0 + 2

private def blanks (n : Nat) : String := String.ofList (List.replicate n ' ')

private def shortPurpose (a : Argument) : String :=
  if a = .help then a.purpose ++ " (see more with '--help')" else a.purpose

private def longPurpose (a : Argument) : String :=
  if a = .help then a.purpose ++ " (see a summary with '-h')" else a.purpose

private def shortLine (colored : Bool) (target : Option String) (a : Argument) : String :=
  a.written colored ++ blanks (purposeColumn - a.width)
    ++ " ".intercalate (shortPurpose a :: a.notes target) ++ "\n"

private def longParagraph (colored : Bool) (target : Option String) (a : Argument) : String :=
  let notes := a.notes target
  let gap := if notes.isEmpty then [] else [""]
  let explained := (longPurpose a :: gap ++ notes).map (blanks 10 ++ ·)
  String.join ((a.written colored :: explained).map (· ++ "\n"))

private def shortAbout : String := "Generate rbatis entity structs from SQL CREATE TABLE statements"

private def longAbout : String :=
  "rbatis entity generator\n\n"
    ++ "Turns a single SQL \x60CREATE TABLE\x60 statement into a Rust struct with "
    ++ "\x60Option\x60-wrapped fields and an rbatis \x60crud!\x60 registration, written as "
    ++ "\x60<table>.rs\x60 into the target directory.\n\n"
    ++ "Without --ddl the statement is read from stdin, or from an interactive prompt when stdin "
    ++ "is a terminal."

/-- The help text with control sequences, which shows the target that is set from outside. -/
private def markedHelpText (long colored : Bool) (target : Option String) : String :=
  let heading := Emphasis.heading.text colored
  (if long then longAbout else shortAbout)
    ++ "\n\n" ++ heading "Usage:" ++ " " ++ Emphasis.typed.text colored programName
    ++ " [OPTIONS]\n\n" ++ heading "Options:" ++ "\n"
    ++ (if long then "\n".intercalate (Argument.all.map (longParagraph colored target))
        else String.join (Argument.all.map (shortLine colored target)))
    ++ "\nExisting files are never overwritten.\n"

/-- The help text. It holds control sequences only where colors are shown. -/
def helpText (long colored : Bool) (target : Option String) : String :=
  let text := markedHelpText long colored target
  if colored then text else Text.shown text

end EntityGen.CommandLine
