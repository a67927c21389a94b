import EntityGen.Sql.Dialect

/-! The arguments of the command line: how each is written, and which exclude each other. -/

namespace EntityGen.CommandLine

/-- An argument. -/
inductive Argument where
  | target
  | ddl
  | name
  | json
  | dialect
  | print
  | schema
  | noColor
  | verbose
  | help
  | version
  deriving DecidableEq, Repr

namespace Argument

/-- All arguments, in the order in which they are explained. -/
def all : List Argument :=
  [.target, .ddl, .name, .json, .dialect, .print, .schema, .noColor, .verbose, .help, .version]

/-- The name after two hyphens. -/
def long : Argument → String
  | .target => "target"
  | .ddl => "ddl"
  | .name => "name"
  | .json => "json"
  | .dialect => "dialect"
  | .print => "print"
  | .schema => "schema"
  | .noColor => "no-color"
  | .verbose => "verbose"
  | .help => "help"
  | .version => "version"

/-- The letter after a single hyphen. -/
def short? : Argument → Option Char
  | .target => some 't'
  | .dialect => some 'd'
  | .print => some 'p'
  | .noColor => some 'n'
  | .help => some 'h'
  | .version => some 'V'
  | _ => none

/-- What stands for the value. An argument without one is a flag. -/
def value? : Argument → Option String
  | .target => some "TARGET"
  | .ddl => some "DDL"
  | .name => some "NAME"
  | .json => some "JSON"
  | .dialect => some "DIALECT"
  | _ => none

/-- Whether a value follows the argument. -/
def takesValue (a : Argument) : Bool := a.value?.isSome

/-- The argument as messages write it. -/
def shown (a : Argument) : String :=
  match a.value? with
  | none => "--" ++ a.long
  | some value => "--" ++ a.long ++ " <" ++ value ++ ">"

/-- The argument of a long name. Names are not shortened. -/
def ofLong? (name : List Char) : Option Argument := all.find? fun a => a.long.toList = name

/-- The argument of a letter. -/
def ofShort? (letter : Char) : Option Argument := all.find? fun a => a.short? = some letter

/-- The pairs that exclude each other. -/
def exclusions : List (Argument × Argument) :=
  [(.ddl, .name), (.print, .schema), (.schema, .name)]

/-- Whether two arguments exclude each other. -/
def excludes (a b : Argument) : Bool := exclusions.contains (a, b) || exclusions.contains (b, a)

theorem excludes_comm (a b : Argument) : a.excludes b = b.excludes a := Bool.or_comm ..

end Argument

/-- The dialects by the names that select them. -/
def dialects : List (String × Sql.Dialect) :=
  [("mysql", .mysql), ("postgres", .postgres), ("sqlite", .sqlite), ("generic", .generic)]

/-- The dialect that is selected by default. -/
def defaultDialect : Sql.Dialect := .mysql

/-- The names of the dialects, for a message. -/
def dialectChoice : String :=
  "[possible values: " ++ ", ".intercalate (dialects.map (·.1)) ++ "]"

end EntityGen.CommandLine
