import EntityGen.Field
import EntityGen.Schema

/-!
# The word that a type is written with first

The tag of a type is the word before the first character of its written form that is none of a
word. A type is written with its leading word first (`DataType.text_eq_leading`), so its tag, and
the field that it makes, are those of its leading word (`DataType.fieldType_eq`). Brackets of arrays
come last, so a type makes the field of its element.
-/

namespace EntityGen

variable {cs rest : List Char}

/-- A text goes on with no character of a word. -/
def EndsWord (cs : List Char) : Prop := ∀ c ∈ cs.head?, Text.isWordChar c = false

theorem endsWord_nil : EndsWord [] := nofun

theorem endsWord_cons {c : Char} (h : Text.isWordChar c = false) : EndsWord (c :: cs) := by
  intro c' hc'
  exact Option.some.inj hc' ▸ h

/-- One text goes on with another. -/
theorem EndsWord.append (h : EndsWord cs) (hrest : EndsWord rest) : EndsWord (cs ++ rest) := by
  cases cs with
  | nil => exact hrest
  | cons c cs => exact h

theorem EndsWord.takeWhile_eq_nil (h : EndsWord cs) : cs.takeWhile Text.isWordChar = [] := by
  cases cs with
  | nil => rfl
  | cons c cs => exact List.takeWhile_cons_of_neg (Bool.eq_false_iff.mp (h c rfl))

/-- What follows a word is not part of its tag. -/
theorem typeTag_append (h : EndsWord rest) : typeTag (cs ++ rest) = typeTag cs := by
  have htake : (cs ++ rest).takeWhile Text.isWordChar = cs.takeWhile Text.isWordChar := by
    induction cs with
    | nil => exact h.takeWhile_eq_nil
    | cons c cs ih => simp only [List.cons_append, List.takeWhile_cons, ih]
  rw [typeTag, htake, typeTag]

theorem typeTag_of_endsWord (h : EndsWord cs) : typeTag cs = "" := by
  have hnone : typeTag ([] ++ cs) = typeTag [] := typeTag_append h
  exact hnone

namespace Sql

/-- The words, in lower case, that a type which makes another field than text is written with
first. -/
def listedWords : List String := ["tinyint", "smallint", "int", "integer", "datetime", "timestamp"]

/-- Whether a name without quotes begins with a listed word, in letters of any case, and goes on
with a character that is none of a word. Its tag is cut there, to the listed word. -/
def Name.CutsListedWord (n : Name) : Prop :=
  n.quote = none ∧ ∃ word c more, n.value.toList = word ++ c :: more ∧
    String.ofList (word.map Char.toLower) ∈ listedWords ∧ Text.isWordChar c = false

/-- A mark ends a word. -/
theorem endsWord_mark {mark more : String} {c : Char} (hmark : mark.toList = c :: cs)
    (hc : Text.isWordChar c = false) : EndsWord (mark ++ more).toList := by
  rw [String.toList_append, hmark]
  exact endsWord_cons hc

/-- A word goes on with a mark. -/
theorem exists_append_mark (word mark : String) {more : String} {c : Char}
    (hmark : mark.toList = c :: cs) (hc : Text.isWordChar c = false) :
    ∃ rest, word ++ mark ++ more = word ++ rest ∧ EndsWord rest.toList :=
  ⟨mark ++ more, String.append_assoc, endsWord_mark hmark hc⟩

theorem endsWord_sizeText (size : Option Nat) : EndsWord (sizeText size).toList := by
  cases size with
  | none => exact endsWord_nil
  | some n =>
    rw [sizeText, String.append_assoc]
    exact endsWord_mark rfl rfl

theorem endsWord_zoneText {zone : ZoneClause} (h : zone ≠ .suffixed) :
    EndsWord zone.text.toList := by
  cases zone with
  | unstated => exact endsWord_nil
  | withZone | withoutZone => exact endsWord_cons rfl
  | suffixed => exact absurd rfl h

/-- Parts of a name come after a period. -/
theorem DottedName.text_cons (first : Name) (rest : DottedName) :
    ∃ more, DottedName.text (first :: rest) = first.text ++ more ∧ EndsWord more.toList := by
  cases rest with
  | nil => exact ⟨"", String.append_empty.symm, endsWord_nil⟩
  | cons second rest =>
    refine ⟨"." ++ DottedName.text (second :: rest), ?_, endsWord_mark rfl rfl⟩
    simp [DottedName.text, String.append_assoc]

/-! ## Leading words -/

namespace DataType

/-- The word, or for a type of the user's the name, that a type is written with first. -/
def leading : DataType → String
  | .bare keyword | .sized keyword _ | .integer keyword _ _ | .character keyword _
  | .exact keyword _ | .listed keyword _ | .applied keyword _ => keyword
  | .temporal keyword _ zone => if zone = .suffixed then keyword ++ "TZ" else keyword
  | .dateTime64 .. => "DateTime64"
  | .fixedString _ => "FixedString"
  | .angledArray _ => "ARRAY"
  | .bracketedArray element _ => element.leading
  | .struct _ => "STRUCT"
  | .custom [] _ | .missing => ""
  | .custom (first :: _) _ => first.text

/-- The type without the brackets of arrays that it is written with. -/
def element : DataType → DataType
  | .bracketedArray element _ => element.element
  | type => type

/-- What a type is written with after its leading word is not part of that word. -/
theorem text_eq_leading : (t : DataType) →
    ∃ rest, t.text = t.leading ++ rest ∧ EndsWord rest.toList
  | .bare _ | .missing => ⟨"", String.append_empty.symm, endsWord_nil⟩
  | .sized _ size => ⟨sizeText size, rfl, endsWord_sizeText size⟩
  | .integer _ width unsigned => by
    refine ⟨_, String.append_assoc, ?_⟩
    rw [String.toList_append]
    refine (endsWord_sizeText width).append ?_
    split
    · exact endsWord_cons rfl
    · exact endsWord_nil
  | .character _ length => by
    refine ⟨_, rfl, ?_⟩
    cases length with
    | none => exact endsWord_nil
    | some l =>
      rw [Option.map_some, Option.getD_some, String.append_assoc]
      exact endsWord_mark rfl rfl
  | .exact _ digits => by
    refine ⟨_, rfl, ?_⟩
    split
    · exact endsWord_nil
    · rw [String.append_assoc]
      exact endsWord_mark rfl rfl
  | .temporal _ precision zone => by
    unfold text leading
    split
    · rename_i h
      exact ⟨sizeText precision, by rw [h]; rfl, endsWord_sizeText precision⟩
    · rename_i h
      refine ⟨_, String.append_assoc, ?_⟩
      rw [String.toList_append]
      exact (endsWord_sizeText precision).append (endsWord_zoneText h)
  | .dateTime64 .. => by
    simp only [text, String.append_assoc]
    exact exists_append_mark "DateTime64" "(" rfl rfl
  | .fixedString _ => by
    simp only [text, String.append_assoc]
    exact exists_append_mark "FixedString" "(" rfl rfl
  | .angledArray _ => by
    simp only [text, String.append_assoc]
    exact exists_append_mark "ARRAY" "<" rfl rfl
  | .bracketedArray element _ => by
    obtain ⟨rest, htext, hrest⟩ := element.text_eq_leading
    simp only [text, leading, htext, String.append_assoc]
    refine ⟨_, rfl, ?_⟩
    rw [String.toList_append]
    exact hrest.append (endsWord_mark rfl rfl)
  | .struct .nil => ⟨"", rfl, endsWord_nil⟩
  | .struct (.cons ..) => by
    simp only [text, String.append_assoc]
    exact exists_append_mark "STRUCT" "<" rfl rfl
  | .listed .. | .applied .. => by
    simp only [text, String.append_assoc]
    exact ⟨_, rfl, endsWord_mark rfl rfl⟩
  | .custom name modifiers => by
    have hmodifiers : EndsWord (if modifiers.isEmpty then ""
        else "(" ++ ", ".intercalate modifiers ++ ")").toList := by
      split
      · exact endsWord_nil
      · rw [String.append_assoc]
        exact endsWord_mark rfl rfl
    cases name with
    | nil => exact ⟨_, rfl, hmodifiers⟩
    | cons first rest =>
      obtain ⟨more, hname, hmore⟩ := DottedName.text_cons first rest
      refine ⟨_, by rw [text, hname]; exact String.append_assoc, ?_⟩
      rw [String.toList_append]
      exact hmore.append hmodifiers

/-! ## Fields -/

/-- The tag of a type is that of its leading word. -/
theorem typeTag_text (t : DataType) : typeTag t.text.toList = typeTag t.leading.toList := by
  obtain ⟨rest, htext, hrest⟩ := t.text_eq_leading
  rw [htext, String.toList_append, typeTag_append hrest]

/-- The type of the field that a column of a type makes. -/
def fieldType (t : DataType) : FieldType := .ofTag (typeTag t.text.toList)

theorem fieldType_eq (t : DataType) : t.fieldType = .ofTag (typeTag t.leading.toList) :=
  congrArg FieldType.ofTag t.typeTag_text

theorem fieldType_bracketedArray (t : DataType) (size : Option Nat) :
    (bracketedArray t size).fieldType = t.fieldType := by
  rw [fieldType_eq, fieldType_eq, leading]

/-- An array that is written with brackets makes the field of its element. -/
theorem fieldType_element : (t : DataType) → t.element.fieldType = t.fieldType
  | .bracketedArray element size =>
    element.fieldType_element.trans (element.fieldType_bracketedArray size).symm
  | .bare .. | .sized .. | .integer .. | .character .. | .exact .. | .temporal .. | .dateTime64 ..
  | .fixedString .. | .listed .. | .angledArray .. | .struct .. | .applied .. | .custom ..
  | .missing => rfl

/-- The field that is listed for a type: whole numbers of at most 32 bits, days with a time, and
text for whatever is not listed. -/
def listedField : DataType → FieldType
  | .integer keyword _ _ =>
    if keyword ∈ ["TINYINT", "SMALLINT", "INT", "INTEGER"] then .i32 else .string
  | .sized keyword _ => if keyword = "DATETIME" then .dateTime else .string
  | .temporal keyword _ zone =>
    if keyword = "TIMESTAMP" ∧ zone ≠ .suffixed then .dateTime else .string
  | _ => .string

/-- Whether the name of a type of the user's begins with a part that is cut to a listed word. -/
def CutsListedWord : DataType → Prop
  | .custom (first :: _) _ => first.CutsListedWord
  | _ => False

/-- A type that is no array in brackets makes the field that is listed for it. -/
def MakesListed (t : DataType) : Prop :=
  t.element = t ∧ (¬ t.CutsListedWord → t.fieldType = t.listedField)

theorem makesListed_of_leading {t : DataType} {word : String} {field : FieldType}
    (helement : t.element = t) (hleading : t.leading = word) (hlisted : t.listedField = field)
    (htag : FieldType.ofTag (typeTag word.toList) = field) : t.MakesListed := by
  refine ⟨helement, fun _ => ?_⟩
  rw [fieldType_eq, hleading, htag, hlisted]

end DataType

end Sql

end EntityGen
