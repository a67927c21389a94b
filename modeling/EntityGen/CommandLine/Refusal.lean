import EntityGen.CommandLine.Argument
import EntityGen.Text.Control

/-! Why a command line is refused, and in what words. -/

namespace EntityGen.CommandLine

/-- Why a command line is refused. -/
inductive Refusal where
  /-- Something that is no argument, as it was written. -/
  | unexpected (written : String)
  /-- A value for a flag. -/
  | unexpectedValue (flag : Argument) (value : String)
  | missingValue (a : Argument)
  | unknownDialect (value : String)
  | repeated (a : Argument)
  /-- An argument together with others that it excludes. -/
  | excluded (a : Argument) (others : List Argument)
  | missing (a : Argument)
  deriving DecidableEq, Repr

/-- The other arguments, in a sentence about one that excludes them. -/
private def shownOthers : List Argument → String
  | [b] => " '" ++ b.shown ++ "'"
  | others => ":" ++ String.join (others.map fun b => "\n  " ++ b.shown)

/-- The message of a refusal. -/
def Refusal.text : Refusal → String
  | .unexpected written => "error: unexpected argument '" ++ Text.shown written ++ "' found"
  | .unexpectedValue flag value =>
    "error: unexpected value '" ++ Text.shown value ++ "' for '" ++ flag.shown
      ++ "' found; no more were expected"
  | .missingValue a =>
    "error: a value is required for '" ++ a.shown ++ "' but none was supplied"
      ++ if a = .dialect then "\n  " ++ dialectChoice else ""
  | .unknownDialect value =>
    "error: invalid value '" ++ Text.shown value ++ "' for '" ++ Argument.dialect.shown ++ "'\n  "
      ++ dialectChoice
  | .repeated a => "error: the argument '" ++ a.shown ++ "' cannot be used multiple times"
  | .excluded a others =>
    "error: the argument '" ++ a.shown ++ "' cannot be used with" ++ shownOthers others
  | .missing a => "error: the following required arguments were not provided:\n  " ++ a.shown

end EntityGen.CommandLine
