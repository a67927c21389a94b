import EntityGen.Files.FileSystem
import EntityGen.Sample
import EntityGen.Schema

/-! What may keep an entity from being generated, and in what words it is said. -/

namespace EntityGen

/-- Why a target gives no directory. -/
inductive TargetFault where
  /-- The target leads nowhere. -/
  | absent (path : String)
  /-- The target leads somewhere, but not to a real path. -/
  | unresolved (path : String) (cause : Files.FileFault)

def TargetFault.text : TargetFault → String
  | .absent path => "Target does not exist: " ++ path
  | .unresolved path cause => "Cannot canonicalize target " ++ path ++ ": " ++ cause.text

/-- Why nothing is generated. -/
inductive Problem where
  | badTable (cause : SchemaFailure)
  | badSample (cause : SampleFailure)
  /-- No target to write into. -/
  | noTarget
  /-- A target without a directory. -/
  | missingTarget (cause : TargetFault)
  /-- A name that can be no file's. -/
  | badStem (stem : String)
  | nameTaken (fileName : String)
  | fileFault (cause : Files.FileFault)

namespace Problem

/-- The message of a problem. -/
def text : Problem → String
  | .badTable cause => "parse DDL failed: " ++ cause.text
  | .badSample cause => "Invalid JSON sample: " ++ cause.text
  | .noTarget => "No target selected. Please select a file or folder with --target"
  | .missingTarget cause => "Configuration error: " ++ cause.text
  | .badStem stem => "Invalid file name: '" ++ stem ++ "' contains disallowed characters"
  | .nameTaken fileName => "file " ++ fileName ++ " already exists!"
  | .fileFault cause => "IO error: " ++ cause.text

/-- The message of a problem followed by its causes. -/
def fullText (p : Problem) : String :=
  match p with
  | .fileFault cause => p.text ++ ": " ++ cause.text
  | p => p.text

/-- Whether the statement is one on which reading breaks down. -/
def isCrash : Problem → Bool
  | .badTable (.unreadable .crash) => true
  | _ => false

end Problem

end EntityGen
