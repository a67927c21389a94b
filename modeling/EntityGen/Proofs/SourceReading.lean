import EntityGen.Entity
import EntityGen.Proofs.Text.UpperCase
import Mathlib.Data.List.Infix
import Mathlib.Data.Set.Function

/-!
# Reading a source back

Every name in a source stands between the fixed start and the fixed end of its line, so whatever it
holds, it cannot be taken for either (`unframe_eq_some_iff`, `fieldOfLine?_eq_some_iff`). A struct
is read back from its lines (`readSource_sourceLines`), and its lines from its source if no name
holds a line feed (`linesOf_sourceOf`). Both together make `source_determines_struct`.
-/

namespace EntityGen

/-! ## Texts between a start and an end -/

namespace Text

/-- What stands in a text between a start and an end. -/
def unframe (first last : String) (text : String) : Option String := do
  let rest ← first.toList.isPrefixOf? text.toList
  let inner ← last.toList.isSuffixOf? rest
  return String.ofList inner

theorem unframe_eq_some_iff {first last text inner : String} :
    unframe first last text = some inner ↔ text = first ++ inner ++ last := by
  simp only [unframe, Option.bind_eq_bind, Option.bind_eq_some_iff, Option.pure_def,
    Option.some.injEq, List.isPrefixOf?_eq_some_iff_append_eq,
    List.isSuffixOf?_eq_some_iff_append_eq]
  constructor
  · rintro ⟨rest, hrest, cs, rfl, rfl⟩
    rw [← String.toList_inj, ← hrest]
    simp
  · rintro rfl
    exact ⟨(inner ++ last).toList, by simp, inner.toList, by simp, String.ofList_toList⟩

/-- The lines of a text, without the line feeds between them. -/
def linesOf (text : String) : List String := (text.toList.splitOn '\n').map String.ofList

theorem flatMap_lineFeed (lines : List String) :
    lines.flatMap (fun line => (line ++ "\n").toList) =
      ['\n'].intercalate (lines.map String.toList ++ [[]]) := by
  induction lines with
  | nil => rfl
  | cons line lines ih =>
    obtain ⟨next, rest, hrest⟩ : ∃ next rest, lines.map String.toList ++ [[]] = next :: rest :=
      List.exists_cons_of_ne_nil (by simp)
    rw [List.flatMap_cons, ih, List.map_cons, List.cons_append, hrest,
      List.intercalate_cons_cons, String.toList_append]
    rfl

/-- Lines that are closed by line feeds are read back, with nothing after the last line feed. -/
theorem linesOf_join {lines : List String} (h : ∀ line ∈ lines, '\n' ∉ line.toList) :
    linesOf (String.join (lines.map (· ++ "\n"))) = lines ++ [""] := by
  have htext : (String.join (lines.map (· ++ "\n"))).toList =
      ['\n'].intercalate (lines.map String.toList ++ [[]]) := by
    rw [String.toList_join, List.flatMap_map]
    exact flatMap_lineFeed lines
  have hlines : ∀ line ∈ lines.map String.toList ++ [[]], '\n' ∉ line := by
    rw [List.forall_mem_append, List.forall_mem_map]
    exact ⟨h, by simp⟩
  rw [linesOf, htext, List.splitOn_intercalate '\n' hlines (by simp), List.map_append, List.map_map]
  simp

end Text

/-! ## Names in upper case -/

namespace Casing

theorem lineFeed_notMem_joinWords {cs : List Char} (h : '\n' ∉ cs) : '\n' ∉ joinWords cs := by
  have hkept (c : Char) (hc : c ≠ '\n') : c.toUpper ≠ '\n' :=
    fun heq => hc (Text.eq_of_toUpper heq rfl).symm
  have hall := forall_mem_joinWords hkept fun c hc => ne_of_mem_of_not_mem hc h
  exact fun hmem => hall _ hmem rfl

theorem lineFeed_notMem_pascal {name : String} (h : '\n' ∉ name.toList) :
    '\n' ∉ (pascal name).toList := by
  rw [pascal, String.toList_ofList]
  have hjoined := lineFeed_notMem_joinWords h
  cases hcs : joinWords name.toList with
  | nil => simp [capitalize]
  | cons c cs =>
    rw [hcs, List.mem_cons, not_or] at hjoined
    rw [capitalize, List.mem_append, not_or]
    exact ⟨fun h => hjoined.1 (Text.eq_of_mem_upperCase h (by decide) rfl), hjoined.2⟩

end Casing

/-! ## The lines of a source -/

namespace Entity

variable {name : String} {fields : List Field}

/-- The types that a field may have. -/
def fieldTypes : List FieldType := [.i32, .i64, .f64, .bool, .string, .dateTime]

theorem mem_fieldTypes (t : FieldType) : t ∈ fieldTypes := by
  cases t <;> decide

/-- What a line that declares a field ends in. -/
def fieldEnding (t : FieldType) : String := ": Option<" ++ t.text ++ ">,"

/-- The field that a line declares. -/
def fieldOfLine? (line : String) : Option Field :=
  fieldTypes.findSome? fun t => (Text.unframe "    " (fieldEnding t) line).map fun name => ⟨name, t⟩

/-- The fields that lines declare, up to the line that closes a struct. -/
def readFields : List String → Option (List Field)
  | [] => none
  | line :: lines =>
    if line = "\x7d" then some []
    else do
      let field ← fieldOfLine? line
      let fields ← readFields lines
      return field :: fields

/-- The name and the fields of the struct that the lines of a source declare. It is declared after
five lines that are always the same. -/
def readSource (lines : List String) : Option (String × List Field) :=
  match lines.drop 5 with
  | [] => none
  | line :: lines => do
    let name ← Text.unframe "pub struct " " \x7b" line
    let fields ← readFields lines
    return (name, fields)

theorem fieldLine_eq (f : Field) : fieldLine f = "    " ++ f.name ++ fieldEnding f.type := by
  simp only [fieldLine, fieldEnding, String.append_assoc]

/-- No type is read from the ending of another one, whatever stands before it. -/
theorem eq_of_fieldEnding {t t' : FieldType} {a b : String}
    (h : a ++ fieldEnding t = b ++ fieldEnding t') : t = t' := by
  have hdistinct : ∀ t ∈ fieldTypes, ∀ t' ∈ fieldTypes,
      (fieldEnding t).toList <:+ (fieldEnding t').toList → t = t' := by
    decide
  rw [← String.toList_inj, String.toList_append, String.toList_append] at h
  have hsuffix := List.suffix_append a.toList (fieldEnding t).toList
  have hsuffix' := List.suffix_append b.toList (fieldEnding t').toList
  rcases List.suffix_or_suffix_of_suffix (h ▸ hsuffix) hsuffix' with hin | hin
  · exact hdistinct t (mem_fieldTypes t) t' (mem_fieldTypes t') hin
  · exact (hdistinct t' (mem_fieldTypes t') t (mem_fieldTypes t) hin).symm

theorem fieldLine_injective : Function.Injective fieldLine := by
  intro ⟨name, type⟩ ⟨name', type'⟩ h
  rw [fieldLine_eq, fieldLine_eq] at h
  obtain rfl : type = type' := eq_of_fieldEnding h
  have hname : name = name' := by simpa [← String.toList_inj] using h
  rw [hname]

theorem fieldOfLine?_eq_some_iff {line : String} {f : Field} :
    fieldOfLine? line = some f ↔ line = fieldLine f := by
  have hsound : ∀ {f}, fieldOfLine? line = some f → line = fieldLine f := by
    intro f h
    obtain ⟨t, -, ht⟩ := List.exists_of_findSome?_eq_some h
    obtain ⟨name, hname, rfl⟩ := Option.map_eq_some_iff.mp ht
    rw [fieldLine_eq]
    exact Text.unframe_eq_some_iff.mp hname
  refine ⟨hsound, ?_⟩
  rintro rfl
  have hread : Text.unframe "    " (fieldEnding f.type) (fieldLine f) = some f.name :=
    Text.unframe_eq_some_iff.mpr (fieldLine_eq f)
  cases hfound : fieldOfLine? (fieldLine f) with
  | none =>
    have hnone := List.findSome?_eq_none_iff.mp hfound f.type (mem_fieldTypes f.type)
    simp [hread] at hnone
  | some g => rw [fieldLine_injective (hsound hfound)]

theorem fieldLine_ne_close (f : Field) : fieldLine f ≠ "\x7d" := by
  intro h
  have hhead := congrArg (·.toList.head?) h
  simp [fieldLine] at hhead

theorem readFields_fieldLines (fields : List Field) (rest : List String) :
    readFields (fields.map fieldLine ++ "\x7d" :: rest) = some fields := by
  induction fields with
  | nil => simp [readFields]
  | cons f fields ih =>
    have hf : fieldOfLine? (fieldLine f) = some f := fieldOfLine?_eq_some_iff.mpr rfl
    simp [readFields, fieldLine_ne_close, hf, ih]

/-- A struct is read back from its lines. -/
theorem readSource_sourceLines (name : String) (fields : List Field) (rest : List String) :
    readSource (sourceLines name fields ++ rest) = some (name, fields) := by
  have hname : Text.unframe "pub struct " " \x7b" ("pub struct " ++ name ++ " \x7b") = some name :=
    Text.unframe_eq_some_iff.mpr rfl
  simp [readSource, sourceLines, hname, readFields_fieldLines]

/-- No name of a struct breaks the line that it is in. -/
structure OnLines (name : String) (fields : List Field) : Prop where
  name : '\n' ∉ name.toList
  fields : ∀ f ∈ fields, '\n' ∉ f.name.toList

theorem OnLines.sourceLines (h : OnLines name fields) :
    ∀ line ∈ sourceLines name fields, '\n' ∉ line.toList := by
  have hending (t : FieldType) : '\n' ∉ (fieldEnding t).toList := by
    cases t <;> decide
  have hfields : ∀ line ∈ fields.map fieldLine, '\n' ∉ line.toList := by
    refine List.forall_mem_map.mpr fun f hf => ?_
    rw [fieldLine_eq]
    simp [h.fields f hf, hending]
  rw [Entity.sourceLines, List.forall_mem_append, List.forall_mem_append]
  refine ⟨⟨?_, hfields⟩, ?_⟩
  · simp [h.name]
  · simp [h.name]

theorem linesOf_sourceOf (h : OnLines name fields) :
    Text.linesOf (sourceOf name fields) = sourceLines name fields ++ [""] :=
  Text.linesOf_join h.sourceLines

theorem OnLines.ofSchema {s : TableSchema} (hname : '\n' ∉ s.name.toList)
    (hcolumns : ∀ c ∈ s.columns, '\n' ∉ c.name.toList) :
    OnLines (Entity.ofSchema s).structName (Entity.ofSchema s).fields where
  name := Casing.lineFeed_notMem_pascal hname
  fields := List.forall_mem_map.mpr hcolumns

/-- Whether a line starts with four spaces. -/
def isIndented (line : String) : Bool := "    ".toList.isPrefixOf line.toList

theorem filter_isIndented (name : String) (fields : List Field) :
    (sourceLines name fields ++ [""]).filter isIndented = fields.map fieldLine := by
  have hfields : (fields.map fieldLine).filter isIndented = fields.map fieldLine := by
    rw [List.filter_eq_self]
    intro line hline
    obtain ⟨f, -, rfl⟩ := List.mem_map.mp hline
    rw [fieldLine_eq]
    simp [isIndented]
  simp [sourceLines, List.filter_append, hfields, isIndented]

/-- The source of a struct, whose names hold no line feed, determines it: the name and the fields
are read back from its lines. The lines of the source of a table that are indented declare its
columns, one each and in their order. -/
theorem source_determines_struct :
    (∀ name fields, OnLines name fields →
      readSource (Text.linesOf (sourceOf name fields)) = some (name, fields)) ∧
    Set.InjOn (fun s : String × List Field => sourceOf s.1 s.2) {s | OnLines s.1 s.2} ∧
    ∀ s : TableSchema, '\n' ∉ s.name.toList → (∀ c ∈ s.columns, '\n' ∉ c.name.toList) →
      (Text.linesOf (Entity.ofSchema s).source).filter isIndented =
        s.columns.map fun c => fieldLine ⟨c.name, .ofTag c.tag⟩ := by
  have hread : ∀ name fields, OnLines name fields →
      readSource (Text.linesOf (sourceOf name fields)) = some (name, fields) := by
    intro name fields h
    rw [linesOf_sourceOf h, readSource_sourceLines]
  refine ⟨hread, ?_, ?_⟩
  · intro s hs s' hs' heq
    have hs := hread s.1 s.2 hs
    have hs' := hread s'.1 s'.2 hs'
    rw [show sourceOf s.1 s.2 = sourceOf s'.1 s'.2 from heq, hs'] at hs
    exact (Option.some.inj hs).symm
  · intro s hname hcolumns
    rw [source, linesOf_sourceOf (.ofSchema hname hcolumns), filter_isIndented]
    simp [Entity.ofSchema]

/-- Names that look like parts of a source are read back too. -/
theorem misleading_names_are_read :
    let fields : List Field := [⟨"a: Option<i64>,", .i32⟩, ⟨"\x7d", .bool⟩, ⟨"\x7d", .bool⟩,
      ⟨"    pub struct B \x7b", .dateTime⟩]
    OnLines "A \x7b" fields ∧
      readSource (Text.linesOf (sourceOf "A \x7b" fields)) = some ("A \x7b", fields) := by
  intro fields
  have h : OnLines "A \x7b" fields := ⟨by decide, by decide⟩
  exact ⟨h, source_determines_struct.1 _ _ h⟩

end Entity

end EntityGen
