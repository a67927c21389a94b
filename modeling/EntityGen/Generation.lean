import EntityGen.Job
import EntityGen.Text.Blank

/-! Generating the file of an entity. The file is named by the stem of the entity and is only
written where nothing stands yet. `probe` finds out early, from the input alone, that this will
fail. -/

namespace EntityGen

open Files (join)

namespace Generation

/-- Whether a text lies within another. -/
def occurs (needle : List Char) : List Char → Bool
  | [] => needle.isEmpty
  | c :: cs => needle.isPrefixOf (c :: cs) || occurs needle cs

/-- Whether a name can be a file's: it is not empty, does not start with a dot, does not hold two
dots in a row, and leads nowhere else. -/
def isValidStem (stem : String) : Bool :=
  let cs := stem.toList
  !cs.isEmpty && !cs.contains '/' && !cs.contains '\\' && !cs.contains '\x00'
    && cs.head? != some '.' && !occurs ['.', '.'] cs

/-- The file of a stem. -/
def fileName (stem : String) : String := stem ++ ".rs"

/-- Fails if something stands at the file of a stem. -/
def refuseTaken (directory stem : String) : Job Unit :=
  .locate (join directory (fileName stem)) fun
    | .ok _ => .fail (.nameTaken (fileName stem))
    | .error _ => .done ()

/-- Fails if the input, taken as a stem, has a file already. A text that is no stem passes. -/
def probe (directory input : String) : Job Unit :=
  let stem := String.ofList (Text.trim input.toList)
  if isValidStem stem then refuseTaken directory stem else .done ()

/-- Writes the source of an entity into a directory. The result is the path of the new file. -/
def create (directory : String) (e : Entity) : Job String :=
  if isValidStem e.fileStem then do
    refuseTaken directory e.fileStem
    let path := join directory (fileName e.fileStem)
    Job.write path e.source (.done ())
    Job.debug "rbatis_gen::generator"
      ("Created " ++ path ++ " with " ++ toString e.fields.length ++ " fields")
    return path
  else .fail (.badStem e.fileStem)

end Generation

end EntityGen
