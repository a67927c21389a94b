import EntityGen.Proofs.Text.Ascii
import EntityGen.Schema

/-!
# Canonical table definitions

How tools print a table: `CREATE TABLE`, its name, and its columns and primary key in parentheses.
All names stand in quotes, with inner quotes doubled, so they may spell anything; the keyword of a
type may be spelled in any case. `Table.text` is the printed definition, and `Table.schema` what it
says.
-/

namespace EntityGen.Sql.Canonical

/-- A way to spell a keyword, in small letters and capitals. -/
structure Spelling (keyword : String) where
  text : String
  spells : text.toList.map Char.toUpper = keyword.toList

/-- The types of columns. -/
inductive ColumnType where
  | tinyint
  | smallint
  | int
  | integer
  | bigint
  | intOf (width : UInt64)
  | varchar (length : UInt64)
  | text
  | decimal (precision scale : UInt64)
  | datetime
  | timestamp
  deriving DecidableEq, Repr

namespace ColumnType

def keyword : ColumnType → String
  | .tinyint => "TINYINT"
  | .smallint => "SMALLINT"
  | .int | .intOf _ => "INT"
  | .integer => "INTEGER"
  | .bigint => "BIGINT"
  | .varchar _ => "VARCHAR"
  | .text => "TEXT"
  | .decimal _ _ => "DECIMAL"
  | .datetime => "DATETIME"
  | .timestamp => "TIMESTAMP"

/-- The numbers that follow the keyword. -/
def numbers : ColumnType → List UInt64
  | .intOf n | .varchar n => [n]
  | .decimal p s => [p, s]
  | _ => []

/-- The tag of a type in a schema. -/
def tag : ColumnType → String
  | .tinyint => "tinyint"
  | .smallint => "smallint"
  | .int | .intOf _ | .integer => "int"
  | .bigint => "bigint"
  | .varchar _ => "varchar"
  | .text => "text"
  | .decimal _ _ => "decimal"
  | .datetime => "datetime"
  | .timestamp => "timestamp"

end ColumnType

/-- The written form of the numbers of a type. -/
def numbersText : List UInt64 → String
  | [] => ""
  | ns => "(" ++ ",".intercalate (ns.map fun n => toString n.toNat) ++ ")"

/-- A text with every quote doubled. -/
def doubled (quote : Char) (cs : List Char) : List Char :=
  cs.flatMap fun c => if c = quote then [quote, quote] else [c]

theorem doubled_cons (quote c : Char) (cs : List Char) :
    doubled quote (c :: cs) = (if c = quote then [quote, quote] else [c]) ++ doubled quote cs := rfl

/-- A name between quotes. -/
def quotedName (quote : Char) (name : String) : String :=
  String.ofList (quote :: doubled quote name.toList ++ [quote])

/-- A column. -/
structure Column where
  name : String
  type : ColumnType
  spelling : Spelling type.keyword
  notNull : Bool

def Column.text (quote : Char) (c : Column) : String :=
  quotedName quote c.name ++ " " ++ c.spelling.text ++ numbersText c.type.numbers
    ++ (if c.notNull then " NOT NULL" else "")

/-- A table with at least one column. -/
structure Table where
  /-- The schema that the table stands in, if its name says so. -/
  qualifier? : Option String
  name : String
  columns : List Column
  columns_ne_nil : columns ≠ []
  /-- The column of the primary key, if there is one. -/
  key? : Option String

/-- An entry between the parentheses of a table. -/
inductive Entry where
  | column (c : Column)
  /-- The primary key, by its column. -/
  | key (name : String)

def Entry.text (quote : Char) : Entry → String
  | .column c => c.text quote
  | .key name => "PRIMARY KEY (" ++ quotedName quote name ++ ")"

namespace Table

def entries (t : Table) : List Entry := t.columns.map .column ++ (t.key?.map .key).toList

/-- The printed name. -/
def nameText (quote : Char) (t : Table) : String :=
  (t.qualifier?.map fun s => quotedName quote s ++ ".").getD "" ++ quotedName quote t.name

/-- The printed definition. -/
def text (quote : Char) (t : Table) : String :=
  "CREATE TABLE " ++ t.nameText quote ++ " (" ++ ", ".intercalate (t.entries.map (Entry.text quote))
    ++ ")"

/-- What the definition says: the name of the table alone, and its columns in order. -/
def schema (t : Table) : TableSchema :=
  ⟨t.name, t.columns.map fun c => ⟨c.name, c.type.tag⟩⟩

end Table

example : Table.text '\x60' ⟨some "shop", "a`b", [⟨"key", .intOf 11, ⟨"Int", by decide⟩, true⟩],
    by decide, some "key"⟩ =
      "CREATE TABLE `shop`.`a``b` (`key` Int(11) NOT NULL, PRIMARY KEY (`key`))" := by
  decide +kernel

/-! ## Keywords in any case -/

theorem isAlpha_of_isUpper_toUpper {c : Char} (h : c.toUpper.isUpper = true) :
    c.isAlpha = true := by
  by_cases hlower : c.isLower = true
  · exact Bool.or_eq_true_iff.mpr (.inr hlower)
  · have heq : c.toUpper = c := by
      unfold Char.toUpper
      split
      · rename_i hc
        exact absurd (Bool.and_eq_true_iff.mpr ⟨decide_eq_true hc.1, decide_eq_true hc.2⟩) hlower
      · rfl
    rw [heq] at h
    exact Bool.or_eq_true_iff.mpr (.inl h)

theorem flatMap_upperCase {cs : List Char} (h : ∀ c ∈ cs, c.isAlpha = true) :
    cs.flatMap Text.upperCase = cs.map Char.toUpper := by
  induction cs with
  | nil => rfl
  | cons c cs ih =>
    simp only [List.mem_cons, forall_eq_or_imp] at h
    rw [List.flatMap_cons, ih h.2, Text.upperCase_of_ascii (Text.toNat_lt_of_isAlpha h.1)]
    rfl

namespace Spelling

variable {k : String}

theorem isAlpha (s : Spelling k) (hk : k.toList.all Char.isUpper = true) {c : Char}
    (hc : c ∈ s.text.toList) : c.isAlpha = true := by
  have hmem : c.toUpper ∈ k.toList := s.spells ▸ List.mem_map_of_mem hc
  exact isAlpha_of_isUpper_toUpper (List.all_eq_true.mp hk _ hmem)

/-- A keyword is known in any case. -/
theorem plain_eq (s : Spelling k) (hk : k.toList.all Char.isUpper = true) :
    Word.plain s.text = ⟨s.text, none, k⟩ := by
  simp only [Word.plain, Text.upperCaseText, flatMap_upperCase fun _ hc => s.isAlpha hk hc,
    s.spells, String.ofList_toList]

end Spelling

theorem ColumnType.isUpper_keyword (type : ColumnType) :
    type.keyword.toList.all Char.isUpper = true := by
  unfold keyword
  split <;> decide

end EntityGen.Sql.Canonical
