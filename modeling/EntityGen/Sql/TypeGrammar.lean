import EntityGen.Sql.Grammar

/-! How a type is read. A word that names no built-in type names a type of the user's, which may
have modifiers in parentheses; pairs of square brackets after any type make arrays of it. -/

namespace EntityGen.Sql

/-- The built-in types that take nothing more, with their written forms. -/
def bareTypes : List (String × String) :=
  [("BOOLEAN", "BOOLEAN"), ("BOOL", "BOOL"), ("REAL", "REAL"), ("FLOAT4", "FLOAT4"),
   ("FLOAT32", "Float32"), ("FLOAT64", "FLOAT64"), ("FLOAT8", "FLOAT8"), ("INT16", "Int16"),
   ("INT32", "Int32"), ("INT64", "INT64"), ("INT128", "Int128"), ("INT256", "Int256"),
   ("UINT8", "UInt8"), ("UINT16", "UInt16"), ("UINT32", "UInt32"), ("UINT64", "UInt64"),
   ("UINT128", "UInt128"), ("UINT256", "UInt256"), ("UUID", "UUID"), ("DATE", "DATE"),
   ("DATE32", "Date32"), ("INTERVAL", "INTERVAL"), ("JSON", "JSON"), ("JSONB", "JSONB"),
   ("REGCLASS", "REGCLASS"), ("TEXT", "TEXT"), ("BYTEA", "BYTEA"), ("TRIGGER", "TRIGGER")]

/-- The built-in types that may have a size. -/
def sizedTypes : List String :=
  ["FLOAT", "CLOB", "BINARY", "VARBINARY", "BLOB", "BYTES", "DATETIME", "STRING"]

/-- The built-in types that may have a display width and `UNSIGNED`. -/
def integerTypes : List String :=
  ["TINYINT", "INT2", "SMALLINT", "MEDIUMINT", "INT", "INT4", "INT8", "INTEGER", "BIGINT"]

/-- The built-in types that may have a length in characters. -/
def characterTypes : List String := ["VARCHAR", "NVARCHAR"]

/-- The built-in types that may have a precision and a scale. -/
def exactTypes : List String := ["NUMERIC", "DECIMAL", "DEC", "BIGNUMERIC", "BIGDECIMAL"]

namespace Parser

/-- A size in parentheses, if one comes next. -/
def optionalSize : Parser (Option Nat) := do
  if ← acceptSymbol .lparen then
    let n ← unsigned 64
    expectSymbol .rparen
    return some n
  else return none

def charLength : Parser CharLength := do
  if ← accept "MAX" then return .max
  let n ← unsigned 64
  match ← acceptOneOf ["CHARACTERS", "OCTETS"] with
  | some unit => return .counted n unit
  | none => return .counted n ""

def optionalCharLength : Parser (Option CharLength) := do
  if ← acceptSymbol .lparen then
    let length ← charLength
    expectSymbol .rparen
    return some length
  else return none

/-- A precision and perhaps a scale in parentheses, if they come next. -/
def optionalDigits : Parser (List Nat) := do
  if ← acceptSymbol .lparen then
    let precision ← unsigned 64
    let digits ← do
      if ← acceptSymbol .comma then pure [precision, ← unsigned 64] else pure [precision]
    expectSymbol .rparen
    return digits
  else return []

/-- `WITH TIME ZONE`, `WITHOUT TIME ZONE` or nothing. -/
def zoneClause : Parser ZoneClause := do
  if ← accept "WITH" then
    expectAll ["TIME", "ZONE"]
    return .withZone
  else if ← accept "WITHOUT" then
    expectAll ["TIME", "ZONE"]
    return .withoutZone
  else return .unstated

private def listedString : Parser String := do
  let found ← next
  match Located.token? found with
  | some (.literal .single s) => return s
  | _ => expectedAt .listedString found

/-- Strings between commas, in parentheses. -/
def stringList : Parser (List String) := do
  expectSymbol .lparen
  let first ← listedString
  let rest ← many do
    let found ← next
    match Located.token? found with
    | some (.symbol .comma) => return some (← listedString)
    | some (.symbol .rparen) => return none
    | _ => expectedAt .listEnd found
  return first :: rest

/-- The modifiers of a type of the user's: words, numbers and strings, commas being optional. -/
def typeModifiers : Parser (List String) := do
  if ← acceptSymbol .lparen then
    let found ← many do
      let found ← next
      match Located.token? found with
      | some (.word w) => return some [w.text]
      | some (.number digits _) => return some [digits]
      | some (.literal .single s) => return some [s]
      | some (.symbol .comma) => return some []
      | some (.symbol .rparen) => return none
      | _ => expectedAt .typeModifiers found
    return found.flatten
  else return []

end Parser

namespace Grammar

open EntityGen.Sql.Parser

/-- The `>` that closes a type, or the first half of a `>>`. `true` if the other half is left. -/
def closeAngle (stray : Bool) : Parser Bool := do
  if stray then return false
  else if ← acceptSymbol .gt then return false
  else if ← acceptSymbol .shiftRight then return true
  else expected (.symbol .gt)

/-- A field of a structure: a type, before which two words in a row begin with a name. -/
def structField (g : Grammar) : Parser ((Option Name × DataType) × Bool) := do
  let named ← do
    match ← peekAt 0, ← peekAt 1 with
    | some (.word _), some (.word _) => pure true
    | _, _ => pure false
  let name ← if named then some <$> identifier else pure none
  let (type, stray) ← g.dataType
  return ((name, type), stray)

/-- The further fields of a structure type. `stray` tells that the field before has already closed
the structure, after which no other may follow. -/
private def fieldsAfter (g : Grammar) (start : Option Pos) :
    Nat → Bool → Parser (List (Option Name × DataType) × Bool)
  | 0, stray => pure ([], stray)
  | n + 1, stray => do
    if !(← acceptSymbol .comma) then return ([], stray)
    if stray then fail (.misuse .openStruct start)
    let (field, stray) ← g.structField
    let (rest, stray) ← fieldsAfter g start n stray
    return (field :: rest, stray)

/-- The fields of a structure type in angle brackets, if there are any. -/
def structFields (g : Grammar) (start : Option Pos) : Parser (TypeFields × Bool) := do
  if !(← acceptSymbol .lt) then return (.nil, false)
  let (field, stray) ← g.structField
  let (rest, stray) ← fieldsAfter g start (← remaining) stray
  let stray ← closeAngle stray
  return (.ofList (field :: rest), stray)

private def one (type : DataType) : TypeFields := .cons none type "" .nil

/-- Columns as the arguments of a type. -/
private def columnFields : List Column → TypeFields
  | [] => .nil
  | c :: rest => .cons (some c.name) c.type c.clauses (columnFields rest)

/-- The types that take other types as arguments, where the dialect has them. -/
def builtType (g : Grammar) (keyword : String) (start : Option Pos) :
    Option (Parser (DataType × Bool)) :=
  match keyword with
  | "STRUCT" => some do
    let (fields, stray) ← g.structFields start
    return (.struct fields, stray)
  | "UNION" => some do
    let fields ← parenthesized <| commaSeparated do
      let name ← identifier
      return (some name, ← g.balancedType)
    return (.applied "UNION" (.ofList fields), false)
  | "NULLABLE" => some do
    return (.applied "Nullable" (one (← parenthesized g.balancedType)), false)
  | "LOWCARDINALITY" => some do
    return (.applied "LowCardinality" (one (← parenthesized g.balancedType)), false)
  | "MAP" => some do
    expectSymbol .lparen
    let key ← g.balancedType
    expectSymbol .comma
    let value ← g.balancedType
    expectSymbol .rparen
    return (.applied "Map" (.cons none key "" (one value)), false)
  | "NESTED" => some do
    let columns ← parenthesized (commaSeparated g.column)
    return (.applied "Nested" (columnFields columns), false)
  | "TUPLE" => some do
    let fields ← parenthesized (commaSeparated g.structField)
    return (.applied "Tuple" (.ofList (fields.map (·.1))), false)
  | _ => none

/-- The built-in types with a grammar of their own. -/
def specialType (g : Grammar) (keyword : String) : Option (Parser (DataType × Bool)) :=
  match keyword with
  | "DOUBLE" => some do
    if ← accept "PRECISION" then return (.bare "DOUBLE PRECISION", false)
    else return (.bare "DOUBLE", false)
  | "CHARACTER" | "CHAR" => some do
    if ← accept "VARYING" then
      return (.character (keyword ++ " VARYING") (← optionalCharLength), false)
    else if ← acceptAll ["LARGE", "OBJECT"] then
      return (.sized (keyword ++ " LARGE OBJECT") (← optionalSize), false)
    else return (.character keyword (← optionalCharLength), false)
  | "TIMESTAMP" | "TIME" => some do
    let precision ← optionalSize
    return (.temporal keyword precision (← zoneClause), false)
  | "TIMESTAMPTZ" => some do
    return (.temporal "TIMESTAMP" (← optionalSize) .suffixed, false)
  | "TIMETZ" => some do
    return (.temporal "TIME" (← optionalSize) .suffixed, false)
  | "DATETIME64" => some do
    expectSymbol .lparen
    let precision ← unsigned 64
    let zone ← do
      if ← acceptSymbol .comma then some <$> literalString else pure none
    expectSymbol .rparen
    return (.dateTime64 precision zone, false)
  | "FIXEDSTRING" => some do
    return (.fixedString (← parenthesized (unsigned 64)), false)
  | "ENUM" | "SET" => some do
    return (.listed keyword (← stringList), false)
  | "ARRAY" => some do
    expectSymbol .lt
    let (element, stray) ← g.dataType
    let stray ← closeAngle stray
    return (.angledArray element, stray)
  | _ => none

/-- A built-in type whose keyword is already read; `none` if it is no such keyword. -/
def builtIn (g : Grammar) (r : Rules) (keyword : String) (start : Option Pos) :
    Option (Parser (DataType × Bool)) :=
  if keyword ∈ integerTypes then some do
    let width ← optionalSize
    return (.integer keyword width (← accept "UNSIGNED"), false)
  else if keyword ∈ characterTypes then some do
    return (.character keyword (← optionalCharLength), false)
  else if keyword ∈ sizedTypes then some do
    return (.sized keyword (← optionalSize), false)
  else if keyword ∈ exactTypes then some do
    return (.exact keyword (← optionalDigits), false)
  else
    match bareTypes.find? (·.1 == keyword) with
    | some (_, text) => some (pure (.bare text, false))
    | none =>
      match g.specialType keyword with
      | some p => some p
      | none => if r.builtTypes then g.builtType keyword start else none

/-- A type of the user's. -/
def customType : Parser (DataType × Bool) := do
  let name ← dottedName
  return (.custom name (← typeModifiers), false)

/-- A type without the square brackets that may follow it. -/
def plainType (g : Grammar) : Parser (DataType × Bool) := do
  let start ← position
  match ← peekToken with
  | some (.word w) =>
    match g.builtIn (← rules) w.keyword start with
    | some p => do let _ ← next; p
    | none => customType
  | _ => expected .dataTypeName

/-- A pair of square brackets after a type, if one comes next. -/
def arraySuffix : Parser (Option (Option Nat)) := do
  if ← acceptSymbol .lbracket then
    let size ← if (← rules).sizedArrays then attempt (unsigned 64) else pure none
    expectSymbol .rbracket
    return some size
  else return none

/-- A type. -/
def readType (g : Grammar) : Parser (DataType × Bool) := do
  let (type, stray) ← g.plainType
  let suffixes ← many arraySuffix
  return (suffixes.foldl .bracketedArray type, stray)

end Grammar

end EntityGen.Sql
