import EntityGen.Json.Value
import EntityGen.Sql.Statement
import EntityGen.Text.WordChar

/-! Table schemas: a table by its name and its columns, each with the tag of its type.
`TableSchema.ofSql` reads one off a text that defines exactly one table. -/

namespace EntityGen

/-- A column by its name and the tag of its type. -/
structure SchemaColumn where
  name : String
  tag : String
  deriving DecidableEq, Repr

/-- A table by its name and its columns in order. -/
structure TableSchema where
  name : String
  columns : List SchemaColumn
  deriving DecidableEq, Repr

/-- The tag of a written type: its leading word in lower case, by its short name if it has two. -/
def typeTag (written : List Char) : String :=
  let keyword := String.ofList ((written.takeWhile Text.isWordChar).map Char.toLower)
  if keyword = "integer" then "int" else keyword

/-- Why a text gives no schema. -/
inductive SchemaFailure where
  | unreadable (cause : Sql.Failure)
  | noStatement
  | severalStatements
  | otherStatement
  | noName
  | noColumns (table : String)

/-- The message of a failure. -/
def SchemaFailure.text : SchemaFailure → String
  | .unreadable cause => "sql parser error: " ++ cause.text
  | .noStatement => "no statement found"
  | .severalStatements => "expected exactly one CREATE TABLE statement"
  | .otherStatement => "statement is not CREATE TABLE"
  | .noName => "table has no name"
  | .noColumns table => "table " ++ table ++ " has no columns"

namespace TableSchema

/-- The schema of a table as defined. The last part of its name is kept. -/
def ofDefinition (t : Sql.TableDefinition) : Except SchemaFailure TableSchema :=
  match t.name.getLast? with
  | none => .error .noName
  | some name =>
    if t.columns.isEmpty then .error (.noColumns name.value)
    else .ok ⟨name.value, t.columns.map fun c => ⟨c.name.value, typeTag c.type.text.toList⟩⟩

/-- The schema of the only statement of a text. -/
def ofStatements : List Sql.Statement → Except SchemaFailure TableSchema
  | [] => .error .noStatement
  | [.table definition] => ofDefinition definition
  | [_] => .error .otherStatement
  | _ => .error .severalStatements

/-- The schema of the table that a text defines. -/
def ofSql (d : Sql.Dialect) (text : String) : Except SchemaFailure TableSchema :=
  match Sql.parseStatements d text.toList with
  | .error cause => .error (.unreadable cause)
  | .ok statements => ofStatements statements

/-- Failures cannot be compared, but what is found can. -/
theorem ok_of_toOption {found : Except SchemaFailure TableSchema} {schema : TableSchema}
    (h : found.toOption = some schema) : found = .ok schema := by
  cases found with
  | error cause => cases h
  | ok read => exact congrArg _ (Option.some.inj h)

/-- A schema as a JSON value. -/
def toJson (s : TableSchema) : Json :=
  .object [("name", .string s.name),
    ("columns", .array (s.columns.map fun c =>
      .object [("name", .string c.name), ("datatype", .string c.tag)]))]

end TableSchema

end EntityGen
