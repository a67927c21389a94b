/-! The fields of a generated struct. -/

namespace EntityGen

/-- The type of a field, which is always optional. -/
inductive FieldType where
  | i32
  | i64
  | f64
  | bool
  | string
  | dateTime
  deriving DecidableEq, Repr

/-- The name of a type in the generated source. -/
def FieldType.text : FieldType → String
  | .i32 => "i32"
  | .i64 => "i64"
  | .f64 => "f64"
  | .bool => "bool"
  | .string => "String"
  | .dateTime => "DateTime"

/-- The type of a field whose column has a tag. Whatever is not listed is text. -/
def FieldType.ofTag (tag : String) : FieldType :=
  if tag ∈ ["tinyint", "smallint", "int"] then .i32
  else if tag ∈ ["datetime", "timestamp"] then .dateTime
  else .string

/-- A field by its name and type. -/
structure Field where
  name : String
  type : FieldType
  deriving DecidableEq, Repr

end EntityGen
