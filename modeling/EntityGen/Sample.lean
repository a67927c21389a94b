import EntityGen.Entity
import EntityGen.Json.Reader

/-! Entities from a JSON sample: one field for each key of an object, typed by its value. -/

namespace EntityGen

/-- Why a text is no sample. -/
inductive SampleFailure where
  | unreadable (cause : Json.Failure)
  | noObject
  deriving DecidableEq, Repr

def SampleFailure.text : SampleFailure → String
  | .unreadable cause => cause.text
  | .noObject => "sample must be a JSON object"

/-- The type of a field that holds a value. -/
def FieldType.ofJson : Json → FieldType
  | .number (.whole _) => .i64
  | .number (.real _) => .f64
  | .bool _ => .bool
  | _ => .string

/-- The fields of an object, in the order of its keys. -/
def fieldsOfMembers (members : List (String × Json)) : List Field :=
  members.map fun (key, value) => ⟨key, .ofJson value⟩

/-- The entity of a name whose fields are those of a sample. -/
def Entity.ofSample (name sample : String) : Except SampleFailure Entity :=
  match Json.read sample.toList with
  | .error cause => .error (.unreadable cause)
  | .ok (.object members) => .ok ⟨name, Casing.pascal name, fieldsOfMembers members⟩
  | .ok _ => .error .noObject

end EntityGen
