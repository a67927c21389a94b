import EntityGen.Casing
import EntityGen.Field
import EntityGen.Schema

/-! Entities: the structs that are generated, and their source. -/

namespace EntityGen

/-- A struct to be generated, and the name of its file without the ending. -/
structure Entity where
  fileStem : String
  structName : String
  fields : List Field
  deriving DecidableEq, Repr

namespace Entity

/-- The entity of a table: one field for each column, in order. -/
def ofSchema (s : TableSchema) : Entity where
  fileStem := s.name
  structName := Casing.pascal s.name
  fields := s.columns.map fun c => ⟨c.name, .ofTag c.tag⟩

/-- The line that declares a field. -/
def fieldLine (f : Field) : String := "    " ++ f.name ++ ": Option<" ++ f.type.text ++ ">,"

/-- The lines of the source of a struct. -/
def sourceLines (structName : String) (fields : List Field) : List String :=
  ["use rbatis::crud;",
   "use rbdc::DateTime;",
   "use serde::\x7bDeserialize, Serialize\x7d;",
   "",
   "#[derive(Serialize, Deserialize, Clone, Debug)]",
   "pub struct " ++ structName ++ " \x7b"]
  ++ fields.map fieldLine
  ++ ["\x7d", "", "crud!(" ++ structName ++ "\x7b\x7d);"]

/-- The source of a struct: its lines, each closed by a line feed. -/
def sourceOf (structName : String) (fields : List Field) : String :=
  String.join ((sourceLines structName fields).map (· ++ "\n"))

/-- The source of an entity. -/
def source (e : Entity) : String := sourceOf e.structName e.fields

end Entity

end EntityGen
