import EntityGen.Run

/-! The program on a real machine: its words, environment, files and terminal. -/

namespace EntityGen

open Files (FileFault Path)

private def faultOf : IO.Error → FileFault
  | .noFileOrDirectory _ _ _ => .notFound
  | e => .other (toString e)

private def locateOnDisk (path : String) : IO (Except FileFault Location) := do
  try
    let real ← IO.FS.realPath path
    return .ok ⟨Path.ofText real.toString, ← real.isDir⟩
  catch e => return .error (faultOf e)

private def writeToDisk (path content : String) : IO (Option FileFault) := do
  try
    IO.FS.writeFile path content
    return none
  catch e => return some (faultOf e)

private def readAll (stream : IO.FS.Stream) : IO ByteArray := do
  let mut bytes := ByteArray.empty
  repeat
    let part ← stream.read 65536
    if part.isEmpty then break
    bytes := bytes ++ part
  return bytes

/-- On a terminal the whole text is taken as one paste. -/
private def replyOnTerminal (question : Prompt.Question) : IO Reply := do
  let stdin ← IO.getStdin
  if ← stdin.isTty then
    IO.println question.title
    match String.fromUTF8? (← readAll stdin) with
    | some text => return Input.reply (.terminal [.paste text, .press .enter])
    | none => return .cancelled
  else return Input.reply (.piped (← readAll stdin))

/-- Does a job on the machine that the program runs on. -/
def Job.perform {α : Type} (verbose : Bool) : Job α → IO (Except Problem α)
  | .done result => return .ok result
  | .fail problem => return .error problem
  | .log entry next => do
    if entry.isShown verbose then IO.eprint entry.text
    next.perform verbose
  | .locate path next => do (next (← locateOnDisk path)).perform verbose
  | .ask question next => do (next (← replyOnTerminal question)).perform verbose
  | .write path content next => do
    match ← writeToDisk path content with
    | some cause => return .error (.fileFault cause)
    | none => next.perform verbose

end EntityGen

open EntityGen in
/-- Runs the program. -/
def main (words : List String) : IO UInt32 := do
  let target ← IO.getEnv CommandLine.targetVariable
  let colorful := showsColors (← IO.getEnv "CLICOLOR_FORCE") (← IO.getEnv "NO_COLOR")
    (← IO.getEnv "CLICOLOR") (← (← IO.getStdout).isTty)
  match CommandLine.read words target with
  | .error ending =>
    let (exit, stdout, stderr) := ending.answer target colorful
    IO.print stdout
    IO.eprint stderr
    return exit.toUInt32
  | .ok request =>
    let job := Product.ofRequest (← IO.currentDir).toString request
    match ← job.perform request.verbose with
    | .ok product =>
      IO.print (product.text (colorful && !request.noColor))
      return 0
    | .error problem =>
      IO.eprint problem.report
      return problem.exit.toUInt32
