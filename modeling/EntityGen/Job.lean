import EntityGen.Log
import EntityGen.Problem
import EntityGen.Prompt.Screen

/-! Jobs: work that looks at files, asks for input and may write a file. A job says what it does
next and how it goes on after each answer, so one and the same job can be done on a machine that is
a value (`Job.on`) and on a real one. `on_bind` says that two jobs in a row are done one after the
other. -/

namespace EntityGen

open Files (Path FileSystem FileFault)

/-- Where a path leads. -/
structure Location where
  place : Path
  isDirectory : Bool
  deriving DecidableEq, Repr

/-- What comes of asking for input. -/
inductive Reply where
  /-- What was piped in, if it is valid UTF-8. -/
  | piped (text : Option String)
  /-- What was entered at a prompt, if it is more than white space. -/
  | entered (text : Option String)
  | cancelled
  deriving DecidableEq, Repr

/-- Work with a result. -/
inductive Job (α : Type) where
  | done (result : α)
  | fail (problem : Problem)
  | log (entry : LogEntry) (next : Job α)
  /-- Finds out where a path leads, or why it leads nowhere. -/
  | locate (path : String) (next : Except FileFault Location → Job α)
  | ask (question : Prompt.Question) (next : Reply → Job α)
  | write (path content : String) (next : Job α)

namespace Job

variable {α β : Type}

/-- One job and then another on its result. -/
def bind : Job α → (α → Job β) → Job β
  | .done result, f => f result
  | .fail problem, _ => .fail problem
  | .log entry next, f => .log entry (next.bind f)
  | .locate path next, f => .locate path fun answer => (next answer).bind f
  | .ask question next, f => .ask question fun answer => (next answer).bind f
  | .write path content next, f => .write path content (next.bind f)

instance : Monad Job where
  pure := .done
  bind := bind

/-- Leaves a line in the log that is shown on request only. -/
def debug (part message : String) : Job Unit := .log ⟨.debug, part, message⟩ (.done ())

/-- Leaves a line in the log. -/
def info (part message : String) : Job Unit := .log ⟨.info, part, message⟩ (.done ())

end Job

/-- Where input comes from. -/
inductive Input where
  | piped (bytes : ByteArray)
  | terminal (events : List Prompt.Event)

namespace Input

def isTerminal : Input → Bool
  | .piped _ => false
  | .terminal _ => true

/-- What comes of asking. A terminal that closes before the prompt does cancels. -/
def reply : Input → Reply
  | .piped bytes => .piped (String.fromUTF8? bytes)
  | .terminal events =>
    let closed := Prompt.Session.start.play events
    match closed.status with
    | .submitted => .entered closed.entered?
    | _ => .cancelled

end Input

/-- A machine: its files, and where input comes from. -/
structure Machine where
  files : FileSystem
  input : Input

/-- Where a path leads on a file system. -/
def Files.FileSystem.locate (fs : FileSystem) (path : String) : Except FileFault Location :=
  match fs.resolve path with
  | .found place => .ok ⟨place, decide (fs.find? place = some .directory)⟩
  | _ => .error (fs.readFault path)

/-- What is left of a job: its result, its log, whether a prompt was shown, and the files. -/
structure Finished (α : Type) where
  result : Except Problem α
  log : List LogEntry
  prompted : Bool
  files : FileSystem

namespace Finished

/-- Puts what another job left before this one. -/
def after {α : Type} (log : List LogEntry) (prompted : Bool) (f : Finished α) : Finished α :=
  ⟨f.result, log ++ f.log, prompted || f.prompted, f.files⟩

end Finished

namespace Job

variable {α β : Type}

/-- Does a job. -/
def on : Job α → Machine → Finished α
  | .done result, m => ⟨.ok result, [], false, m.files⟩
  | .fail problem, m => ⟨.error problem, [], false, m.files⟩
  | .log entry next, m => (next.on m).after [entry] false
  | .locate path next, m => (next (m.files.locate path)).on m
  | .ask _ next, m => ((next m.input.reply).on m).after [] m.input.isTerminal
  | .write path content next, m =>
    match m.files.write path content with
    | .error cause => ⟨.error (.fileFault cause), [], false, m.files⟩
    | .ok files => next.on { m with files := files }

theorem on_done (a : α) (m : Machine) : (Job.done a).on m = ⟨.ok a, [], false, m.files⟩ := rfl

theorem on_fail (p : Problem) (m : Machine) :
    (Job.fail p : Job α).on m = ⟨.error p, [], false, m.files⟩ := rfl

private theorem after_nil (f : Finished α) : f.after [] false = f := rfl

/-- The second of two jobs is done on what the first one leaves. -/
theorem on_bind (j : Job α) (f : α → Job β) (m : Machine) :
    (j.bind f).on m =
      match (j.on m).result with
      | .ok a =>
        ((f a).on { m with files := (j.on m).files }).after (j.on m).log (j.on m).prompted
      | .error p => ⟨.error p, (j.on m).log, (j.on m).prompted, (j.on m).files⟩ := by
  induction j generalizing m with
  | done a => simp [bind, on, after_nil]
  | fail p => rfl
  | log entry next ih =>
    simp only [bind, on, ih]
    cases h : (next.on m).result <;> simp [Finished.after, h]
  | locate path next ih => simp only [bind, on, ih]
  | ask q next ih =>
    simp only [bind, on, ih]
    cases h : ((next m.input.reply).on m).result <;> simp [Finished.after, h, Bool.or_assoc]
  | write path content next ih =>
    simp only [bind, on]
    cases m.files.write path content with
    | error cause => rfl
    | ok files => simp [ih]

end Job

end EntityGen
