import EntityGen.Sql.Token

/-! Column types as data, with their written form. `DataType.text` is the text a type tag is read
off: a built-in type prints its own keyword, an array prints its element type first, and a type of
the user's prints as it was written, quotes included. -/

namespace EntityGen.Sql

/-- A name as written: its text, and its quote if it has one. -/
structure Name where
  value : String
  quote : Option Char
  deriving DecidableEq, Repr

/-- A text whose lone quotes are doubled. A quote after a backslash, and one that is doubled
already, is left alone. -/
def doubleLoneQuotes (quote : Char) (previous : Char) : List Char → List Char
  | [] => []
  | c :: cs =>
    if c = quote then
      if previous = '\\' then c :: doubleLoneQuotes quote previous cs
      else
        match cs with
        | [] => [c, c]
        | d :: ds =>
          if d = quote then c :: d :: doubleLoneQuotes quote c ds
          else c :: c :: doubleLoneQuotes quote c (d :: ds)
    else c :: doubleLoneQuotes quote c cs

/-- A text between quotes. -/
def quotedText (quote : Char) (s : String) : String :=
  quote.toString ++ String.ofList (doubleLoneQuotes quote '\x00' s.toList) ++ quote.toString

/-- The written form of a name. -/
def Name.text (n : Name) : String :=
  match n.quote with
  | none => n.value
  | some '[' => "[" ++ n.value ++ "]"
  | some q => quotedText q n.value

/-- A dotted name. -/
abbrev DottedName := List Name

def DottedName.text (n : DottedName) : String := ".".intercalate (n.map Name.text)

/-- The length of a character type. -/
inductive CharLength where
  | max
  | counted (n : Nat) (unit : String)
  deriving DecidableEq, Repr

def CharLength.text : CharLength → String
  | .max => "MAX"
  | .counted n unit => toString n ++ (if unit = "" then "" else " " ++ unit)

/-- How a time type treats the time zone. -/
inductive ZoneClause where
  | unstated
  | withZone
  | withoutZone
  | suffixed
  deriving DecidableEq, Repr

mutual

/-- The type of a column. -/
inductive DataType where
  /-- A keyword that takes nothing more. -/
  | bare (keyword : String)
  | sized (keyword : String) (size : Option Nat)
  | integer (keyword : String) (width : Option Nat) (unsigned : Bool)
  | character (keyword : String) (length : Option CharLength)
  /-- An exact number, with neither, one or both of precision and scale. -/
  | exact (keyword : String) (digits : List Nat)
  | temporal (keyword : String) (precision : Option Nat) (zone : ZoneClause)
  | dateTime64 (precision : Nat) (zone : Option String)
  | fixedString (size : Nat)
  /-- One of, or a set of, listed values. -/
  | listed (keyword : String) (values : List String)
  | angledArray (element : DataType)
  | bracketedArray (element : DataType) (size : Option Nat)
  | struct (fields : TypeFields)
  /-- A type constructor with arguments in parentheses. -/
  | applied (constructor : String) (arguments : TypeFields)
  | custom (name : DottedName) (modifiers : List String)
  /-- No type is given. -/
  | missing

/-- Types in a row, each perhaps under a name and with the clauses of a column after it. -/
inductive TypeFields where
  | nil
  | cons (name : Option Name) (type : DataType) (clauses : String) (rest : TypeFields)

end

def sizeText : Option Nat → String
  | none => ""
  | some n => "(" ++ toString n ++ ")"

def ZoneClause.text : ZoneClause → String
  | .unstated => ""
  | .withZone => " WITH TIME ZONE"
  | .withoutZone => " WITHOUT TIME ZONE"
  | .suffixed => "TZ"

mutual

/-- The written form of a type. -/
def DataType.text : DataType → String
  | .bare keyword => keyword
  | .sized keyword size => keyword ++ sizeText size
  | .integer keyword width unsigned =>
    keyword ++ sizeText width ++ (if unsigned then " UNSIGNED" else "")
  | .character keyword length =>
    keyword ++ (length.map fun l => "(" ++ l.text ++ ")").getD ""
  | .exact keyword digits =>
    keyword ++ (if digits.isEmpty then "" else "(" ++ ",".intercalate (digits.map toString) ++ ")")
  | .temporal keyword precision zone =>
    if zone = .suffixed then keyword ++ zone.text ++ sizeText precision
    else keyword ++ sizeText precision ++ zone.text
  | .dateTime64 precision zone =>
    "DateTime64(" ++ toString precision
      ++ (zone.map fun z => ", '" ++ z ++ "'").getD "" ++ ")"
  | .fixedString size => "FixedString(" ++ toString size ++ ")"
  | .listed keyword values =>
    keyword ++ "(" ++ ", ".intercalate (values.map (quotedText '\x27')) ++ ")"
  | .angledArray element => "ARRAY<" ++ element.text ++ ">"
  | .bracketedArray element size => element.text ++ "[" ++ (size.map toString).getD "" ++ "]"
  | .struct .nil => "STRUCT"
  | .struct (.cons name type clauses rest) =>
    "STRUCT<" ++ ", ".intercalate (TypeFields.texts (.cons name type clauses rest)) ++ ">"
  | .applied constructor arguments =>
    constructor ++ "(" ++ ", ".intercalate arguments.texts ++ ")"
  | .custom name modifiers =>
    name.text ++ (if modifiers.isEmpty then "" else "(" ++ ", ".intercalate modifiers ++ ")")
  | .missing => ""

/-- The written forms of types in a row. -/
def TypeFields.texts : TypeFields → List String
  | .nil => []
  | .cons name type clauses rest =>
    ((name.map fun n => n.text ++ " ").getD "" ++ type.text ++ clauses) :: rest.texts

end

def TypeFields.ofList : List (Option Name × DataType) → TypeFields
  | [] => .nil
  | (name, type) :: rest => .cons name type "" (ofList rest)

end EntityGen.Sql
