import EntityGen.CommandLine.Help
import EntityGen.Product

/-! Runs of the program: from the words of a command line and a machine to an exit code, what is
printed, and the files that are left. -/

namespace EntityGen

open CommandLine (Ending)
open Files (FileSystem)

/-- How the program is called. -/
structure Invocation where
  words : List String
  /-- The target that is set from outside. -/
  target : Option String
  workingDirectory : String
  /-- Whether colors are shown, unless the words say not to: as `showsColors` has it. -/
  colorful : Bool
  deriving DecidableEq, Repr

/-- Whether colors are shown: on a terminal, unless the environment has it otherwise. The arguments
are the values of `CLICOLOR_FORCE`, `NO_COLOR` and `CLICOLOR`. -/
def showsColors (force noColor color : Option String) (onTerminal : Bool) : Bool :=
  if force.any (· != "0") then true
  else if noColor.isSome then false
  else onTerminal && color != some "0"

/-- What a run leaves. -/
structure Outcome where
  exit : Nat
  stdout : String
  stderr : String
  prompted : Bool
  files : FileSystem
  deriving DecidableEq, Repr

/-- What is said when a command line gives no request: the exit code, and the text for each of the
two outputs. -/
def CommandLine.Ending.answer (target : Option String) (colored : Bool) :
    Ending → Nat × String × String
  | .refused cause => (2, "", cause.text ++ "\n\nFor more information, try '--help'.\n")
  | .help long => (0, helpText long colored target, "")
  | .version => (0, versionText, "")

namespace Problem

/-- The exit code of a run that fails. -/
def exit (p : Problem) : Nat := if p.isCrash then 101 else 1

/-- What a run says when it fails. -/
def report (p : Problem) : String := if p.isCrash then "" else "Error: " ++ p.fullText ++ "\n"

end Problem

/-- The log as it is shown. -/
def shownLog (verbose : Bool) (log : List LogEntry) : String :=
  String.join ((log.filter (·.isShown verbose)).map (·.text))

/-- The outcome of a finished job. -/
def Outcome.of (verbose colored : Bool) (f : Finished Product) : Outcome :=
  let log := shownLog verbose f.log
  match f.result with
  | .ok product => ⟨0, product.text colored, log, f.prompted, f.files⟩
  | .error problem => ⟨problem.exit, "", log ++ problem.report, f.prompted, f.files⟩

/-- Runs the program on a machine. -/
def run (call : Invocation) (m : Machine) : Outcome :=
  match CommandLine.read call.words call.target with
  | .error ending =>
    let (exit, stdout, stderr) := ending.answer call.target call.colorful
    ⟨exit, stdout, stderr, false, m.files⟩
  | .ok request =>
    .of request.verbose (call.colorful && !request.noColor)
      ((Product.ofRequest call.workingDirectory request).on m)

end EntityGen
