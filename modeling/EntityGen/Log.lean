import EntityGen.Text.Control

/-! Lines of the log. -/

namespace EntityGen

/-- How much a line of the log matters. -/
inductive Level where
  | info
  | debug
  deriving DecidableEq, Repr

/-- The name of a level, in five columns. -/
def Level.text : Level → String
  | .info => "INFO "
  | .debug => "DEBUG"

/-- An entry of the log: how much it matters, the part of the program it comes from, and what it
says. -/
structure LogEntry where
  level : Level
  part : String
  message : String
  deriving DecidableEq, Repr

namespace LogEntry

/-- Whether the entry is shown. Debugging entries are shown on request only. -/
def isShown (verbose : Bool) (e : LogEntry) : Bool := verbose || e.level == .info

/-- A message whose lines after the first are indented. -/
def indented (message : String) : String :=
  String.ofList (message.toList.flatMap fun c => if c = '\n' then "\n    ".toList else [c])

/-- The entry as a line, without control sequences. -/
def text (e : LogEntry) : String :=
  Text.shown ("[" ++ e.level.text ++ " " ++ e.part ++ "] " ++ indented e.message ++ "\n")

end LogEntry

end EntityGen
