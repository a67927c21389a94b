import EntityGen.Proofs.FieldTypes
import EntityGen.Proofs.Text.Ascii
import Mathlib.Data.List.TakeWhile

/-!
# The tags of types

The tag of a written type is its leading word in lower case, or the short name of that word, and
nothing else of the type shows in it (`typeTag_word_append`). So a tag is a word of lower-case
letters, digits and underscores that is its own tag (`isTag_typeTag`), and the field that it makes
is read off the leading word, however that is cased (`tag_of_leading_word`).
-/

namespace EntityGen

namespace Text

variable {c : Char} {cs ds : List Char}

/-- A character of a word is a lower-case letter, a digit or an underscore in lower case. -/
theorem lower_of_isWordChar (h : isWordChar c = true) :
    c.toLower.isLower = true ∨ c.toLower.isDigit = true ∨ c.toLower = '_' := by
  have hmark : c.toLower = '_' ↔ c.toLower.toNat = 95 := Char.toNat_inj.symm
  have hword := isWordChar_iff_toNat.mp h
  rw [isLower_iff_toNat, isDigit_iff_toNat, hmark, toNat_toLower]
  split <;> omega

theorem toLower_toLower (c : Char) : c.toLower.toLower = c.toLower := by
  refine Char.toNat_inj.mp ?_
  grind [toNat_toLower]

/-- A text in lower case, as far as it is of ASCII. -/
def lowered (cs : List Char) : String := String.ofList (cs.map Char.toLower)

@[simp] theorem toList_lowered : (lowered cs).toList = cs.map Char.toLower := String.toList_ofList

theorem lowered_toList_lowered : lowered (lowered cs).toList = lowered cs := by
  rw [lowered, toList_lowered, List.map_map]
  exact congrArg String.ofList (List.map_congr_left fun c _ => toLower_toLower c)

/-- A change of case keeps a word a word. -/
theorem isWord_of_lowered_eq (h : lowered ds = lowered cs) (hcs : ∀ c ∈ cs, isWordChar c = true) :
    ∀ d ∈ ds, isWordChar d = true := by
  intro d hd
  have hmap : ds.map Char.toLower = cs.map Char.toLower := by
    simpa only [toList_lowered] using congrArg String.toList h
  obtain ⟨c, hc, heq⟩ := List.mem_map.mp (hmap ▸ List.mem_map_of_mem (f := Char.toLower) hd)
  rw [← isWordChar_toLower, ← heq, isWordChar_toLower, hcs c hc]

end Text

open Text (isWordChar lowered)

variable {w r : List Char}

/-! ## Tags -/

/-- The name of a type that its columns are tagged with. -/
def shortName (word : String) : String := if word = "integer" then "int" else word

theorem typeTag_eq_shortName (written : List Char) :
    typeTag written = shortName (lowered (written.takeWhile isWordChar)) := rfl

/-- A text that begins with a word is tagged with the short name of that word in lower case. -/
theorem typeTag_word_append (hw : ∀ c ∈ w, isWordChar c = true) (hr : EndsWord r) :
    typeTag (w ++ r) = shortName (lowered w) := by
  rw [typeTag_append hr, typeTag_eq_shortName, List.takeWhile_eq_self_iff.mpr hw]

/-- What the tags of types are like. -/
structure IsTag (tag : String) : Prop where
  lower : ∀ c ∈ tag.toList, c.isLower = true ∨ c.isDigit = true ∨ c = '_'
  short : tag ≠ "integer"
  fixed : typeTag tag.toList = tag

/-- A word in lower case with no shorter name is a tag. -/
theorem isTag_lowered (hw : ∀ c ∈ w, isWordChar c = true) (hshort : lowered w ≠ "integer") :
    IsTag (lowered w) where
  lower := by
    intro c hc
    rw [Text.toList_lowered] at hc
    obtain ⟨c', hc', rfl⟩ := List.mem_map.mp hc
    exact Text.lower_of_isWordChar (hw c' hc')
  short := hshort
  fixed := by
    have hword := Text.isWord_of_lowered_eq Text.lowered_toList_lowered hw
    rw [typeTag_eq_shortName, List.takeWhile_eq_self_iff.mpr hword, Text.lowered_toList_lowered,
      shortName, if_neg hshort]

theorem isTag_typeTag (written : List Char) : IsTag (typeTag written) := by
  rw [typeTag_eq_shortName, shortName]
  split
  · exact isTag_lowered (w := ['i', 'n', 't']) (List.all_eq_true.mp rfl) (by decide)
  · rename_i hshort
    exact isTag_lowered (fun _ hc => List.mem_takeWhile_imp hc) hshort

/-! ## Fields -/

/-- The field of a word is found by any name of its type. -/
theorem FieldType.ofTag_shortName (word : String) :
    ofTag (shortName word) =
      if word ∈ ["tinyint", "smallint", "int", "integer"] then .i32
      else if word ∈ ["datetime", "timestamp"] then .dateTime
      else .string := by
  by_cases h : word = "integer"
  · rw [h]
    rfl
  · rw [shortName, if_neg h, ofTag]
    simp only [List.mem_cons, h, or_false, List.not_mem_nil]

theorem FieldType.ofTag_mem (tag : String) :
    ofTag tag ∈ [FieldType.i32, .dateTime, .string] := by
  unfold ofTag
  split
  · exact .head _
  · split
    · exact .tail _ (.head _)
    · exact .tail _ (.tail _ (.head _))

variable {d : Sql.Dialect} {text : String} {schema : TableSchema}

/-- Every column of a table that is accepted has a tag. -/
theorem TableSchema.isTag_of_ofSql (h : TableSchema.ofSql d text = .ok schema) :
    ∀ c ∈ schema.columns, IsTag c.tag := by
  obtain ⟨t, -, hdefinition⟩ := TableSchema.ofSql_inv h
  rw [TableSchema.columns_of_definition hdefinition]
  intro c hc
  obtain ⟨column, -, rfl⟩ := List.mem_map.mp hc
  exact isTag_typeTag _

/-- The tag of a type is that of its leading word, however that is cased and whatever follows it. It
is a word of lower-case letters, digits and underscores other than `integer` that is its own tag,
and it makes the field that is listed for the leading word: a number for four words, a time for two,
and text for any other. So a table that is accepted makes fields of these three types only. -/
theorem tag_of_leading_word :
    (∀ w r : List Char, (∀ c ∈ w, isWordChar c = true) → EndsWord r →
      let tag := typeTag (w ++ r)
      (∀ w' r', lowered w' = lowered w → EndsWord r' → typeTag (w' ++ r') = tag) ∧
      (∀ c ∈ tag.toList, c.isLower = true ∨ c.isDigit = true ∨ c = '_') ∧
      tag ≠ "integer" ∧
      typeTag tag.toList = tag ∧
      FieldType.ofTag tag =
        if lowered w ∈ ["tinyint", "smallint", "int", "integer"] then .i32
        else if lowered w ∈ ["datetime", "timestamp"] then .dateTime
        else .string) ∧
    ∀ d text schema, TableSchema.ofSql d text = .ok schema →
      (∀ c ∈ schema.columns, IsTag c.tag) ∧
      ∀ f ∈ (Entity.ofSchema schema).fields, f.type ∈ [FieldType.i32, .dateTime, .string] := by
  refine ⟨fun w r hw hr => ?_, fun d text schema h => ⟨TableSchema.isTag_of_ofSql h, ?_⟩⟩
  · have htag : IsTag (typeTag (w ++ r)) := isTag_typeTag _
    have hword := typeTag_word_append hw hr
    refine ⟨fun w' r' hcase hr' => ?_, htag.lower, htag.short, htag.fixed, ?_⟩
    · have hw' := Text.isWord_of_lowered_eq hcase hw
      rw [typeTag_word_append hw' hr', hcase, hword]
    · rw [hword, FieldType.ofTag_shortName]
  · intro f hf
    obtain ⟨c, -, rfl⟩ := List.mem_map.mp hf
    exact FieldType.ofTag_mem c.tag

/-- A word that only begins like a listed one is not listed. -/
example :
    ["int4", "integers", "timestamptz", "date"].map (fun s => FieldType.ofTag (typeTag s.toList)) =
      List.replicate 4 .string := rfl

/-- A time that is spelled in two ways, and a table with a number under both of its names. -/
theorem spellings_have_one_tag :
    let written := "TIMESTAMP".toList ++ "(3)".toList
    let text := "CREATE TABLE t (a Integer(4), b iNT UNSIGNED, c INT4)"
    let schema : TableSchema := ⟨"t", [⟨"a", "int"⟩, ⟨"b", "int"⟩, ⟨"c", "int4"⟩]⟩
    typeTag ("tImEsTaMp".toList ++ " WITH TIME ZONE".toList) = typeTag written ∧
      FieldType.ofTag (typeTag written) = .dateTime ∧
      TableSchema.ofSql .postgres text = .ok schema ∧
      ∀ c ∈ schema.columns, IsTag c.tag := by
  intro written text schema
  have hsql : TableSchema.ofSql .postgres text = .ok schema :=
    TableSchema.ok_of_toOption (by decide +kernel)
  have hword : ∀ c ∈ "TIMESTAMP".toList, isWordChar c = true :=
    List.all_eq_true.mp (by decide +kernel)
  obtain ⟨hsame, -, -, -, hfield⟩ :=
    tag_of_leading_word.1 "TIMESTAMP".toList "(3)".toList hword (endsWord_cons rfl)
  have hcase : lowered "tImEsTaMp".toList = lowered "TIMESTAMP".toList := by decide +kernel
  exact ⟨hsame _ _ hcase (endsWord_cons rfl), hfield.trans (by decide +kernel), hsql,
    (tag_of_leading_word.2 _ _ _ hsql).1⟩

end EntityGen
