import EntityGen.Proofs.Casing.Runs
import EntityGen.Sample

/-!
# Names that stay identifiers

A table or a sample under a name that is an identifier makes a struct whose name is one, too, but
for one kind of name (`structName_isIdentifier_iff`): the only underscore in front of a digit is
dropped, and the digit comes first. A longer run leaves an underscore before it.
-/

namespace EntityGen

namespace Casing

variable {name : String} {c : Char} {cs : List Char}

/-- Whether a text begins as a name does: with a letter or an underscore. -/
def BeginsName (cs : List Char) : Prop := ∃ c rest, cs = c :: rest ∧ (c.isAlpha = true ∨ c = '_')

/-- An identifier of ASCII: letters, digits and underscores, no digit first, and not underscores
alone. -/
structure IsIdentifier (name : String) : Prop where
  begins : BeginsName name.toList
  word : ∀ c ∈ name.toList, Text.isWordChar c = true
  marked : name.toList.any Char.isAlphanum = true

/-- A name in which nothing but one underscore stands before a digit. -/
def BaresDigit (name : String) : Prop := ∃ d rest, name.toList = '_' :: d :: rest ∧ d.isDigit = true

theorem beginsName_cons_iff (hword : Text.isWordChar c = true) :
    BeginsName (c :: cs) ↔ c.isDigit = false := by
  constructor
  · rintro ⟨d, rest, heq, hbegin⟩
    obtain ⟨rfl, rfl⟩ := List.cons.inj heq
    rcases hbegin with halpha | rfl
    · exact Text.isDigit_eq_false_of_isAlpha halpha
    · rfl
  · intro hdigit
    rcases Text.isWordChar_iff.mp hword with halpha | hdigit' | hmark
    · exact ⟨c, cs, rfl, .inl halpha⟩
    · rw [hdigit] at hdigit'
      cases hdigit'
    · exact ⟨c, cs, rfl, .inr hmark⟩

theorem word_joinWords (h : ∀ c ∈ cs, Text.isWordChar c = true) :
    ∀ c ∈ joinWords cs, Text.isWordChar c = true :=
  forall_mem_joinWords (fun c hc => (Text.isWordChar_toUpper c).trans hc) h

/-- Letters and digits are neither lost nor made. -/
theorem any_isAlphanum_joinWords (cs : List Char) :
    (joinWords cs).any Char.isAlphanum = cs.any Char.isAlphanum := by
  have hmark : '_'.isAlphanum = false := by decide
  fun_induction joinWords cs with
  | case1 => rfl
  | case2 c cs _ ih =>
    simp only [List.any_cons, Text.isAlphanum_toUpper, hmark, Bool.false_or, ih]
  | case3 c cs _ ih => rw [List.any_cons, List.any_cons, ih]
  | case4 c cs _ ih => rw [List.any_cons, List.any_cons, ih]

theorem capitalize_word (h : Text.isWordChar c = true) : capitalize (c :: cs) = c.toUpper :: cs := by
  rw [capitalize, Text.upperCase_of_ascii (Text.toNat_lt_of_isWordChar h)]
  rfl

/-- The first character in Pascal case is a digit just if the name bares one. -/
theorem IsIdentifier.exists_joined (h : IsIdentifier name) :
    ∃ d rest, joinWords name.toList = d :: rest ∧ (d.isDigit = true ↔ BaresDigit name) := by
  obtain ⟨⟨c, cs, htext, hbegin⟩, hword, hmarked⟩ := h
  rw [BaresDigit, htext]
  rw [htext] at hword hmarked
  by_cases hc : c = '_'
  · subst hc
    cases cs with
    | nil => cases hmarked
    | cons d rest =>
      have hd : Text.isWordChar d = true := hword d (by simp)
      refine ⟨d.toUpper, joinWords rest, by rw [joinWords, if_pos hd], ?_⟩
      rw [Text.isDigit_toUpper]
      simp
  · refine ⟨c, joinWords cs, joinWords_cons hc cs, ?_⟩
    have hdigit := Text.isDigit_eq_false_of_isAlpha (hbegin.resolve_right hc)
    simp [hdigit, hc]

theorem IsIdentifier.word_pascal (h : IsIdentifier name) :
    ∀ c ∈ (pascal name).toList, Text.isWordChar c = true := by
  obtain ⟨d, rest, hjoined, -⟩ := h.exists_joined
  have hword := word_joinWords h.word
  rw [hjoined, List.forall_mem_cons] at hword
  rw [pascal, String.toList_ofList, hjoined, capitalize_word hword.1]
  exact List.forall_mem_cons.mpr ⟨(Text.isWordChar_toUpper d).trans hword.1, hword.2⟩

theorem IsIdentifier.marked_pascal (h : IsIdentifier name) :
    (pascal name).toList.any Char.isAlphanum = true := by
  obtain ⟨d, rest, hjoined, -⟩ := h.exists_joined
  have hd := word_joinWords h.word d (hjoined ▸ List.mem_cons_self)
  have hmarked := (any_isAlphanum_joinWords name.toList).trans h.marked
  rw [hjoined, List.any_cons] at hmarked
  rw [pascal, String.toList_ofList, hjoined, capitalize_word hd, List.any_cons,
    Text.isAlphanum_toUpper, hmarked]

theorem IsIdentifier.begins_pascal_iff (h : IsIdentifier name) :
    BeginsName (pascal name).toList ↔ ¬ BaresDigit name := by
  obtain ⟨d, rest, hjoined, hdigit⟩ := h.exists_joined
  have hd := word_joinWords h.word d (hjoined ▸ List.mem_cons_self)
  rw [pascal, String.toList_ofList, hjoined, capitalize_word hd,
    beginsName_cons_iff ((Text.isWordChar_toUpper d).trans hd), Text.isDigit_toUpper, ← hdigit,
    Bool.not_eq_true]

end Casing

open Casing

/-- The entities that are made under a name: of a table, and of a sample. -/
inductive Entity.MadeAs (name : String) : Entity → Prop where
  | table (columns : List SchemaColumn) : MadeAs name (.ofSchema ⟨name, columns⟩)
  | sample {sample : String} {e : Entity} (h : Entity.ofSample name sample = .ok e) : MadeAs name e

theorem Entity.MadeAs.structName_eq {name : String} {e : Entity} (h : e.MadeAs name) :
    e.structName = pascal name := by
  cases h with
  | table columns => rfl
  | sample h =>
    unfold Entity.ofSample at h
    split at h
    · cases h
    · cases h
      rfl
    · cases h

/-- The struct of a table or sample under an identifier has a name of word characters, and it is
an identifier unless the name is one underscore before a digit. -/
theorem structName_isIdentifier_iff {name : String} {e : Entity} (h : IsIdentifier name)
    (he : Entity.MadeAs name e) :
    e.structName ≠ "" ∧ (∀ c ∈ e.structName.toList, Text.isWordChar c = true) ∧
      (BeginsName e.structName.toList ↔ ¬ BaresDigit name) ∧
      (IsIdentifier e.structName ↔ ¬ BaresDigit name) := by
  rw [he.structName_eq]
  have hmarked := h.marked_pascal
  refine ⟨?_, h.word_pascal, h.begins_pascal_iff, fun hpascal => ?_, fun hbare => ?_⟩
  · intro hempty
    rw [hempty] at hmarked
    cases hmarked
  · exact h.begins_pascal_iff.mp hpascal.begins
  · exact ⟨h.begins_pascal_iff.mpr hbare, h.word_pascal, hmarked⟩

/-- Of three underscores before a digit one is left. -/
theorem structName_of_three_underscores :
    let name := "___2fa_user"
    let e := Entity.ofSchema ⟨name, [⟨"id", "int"⟩]⟩
    IsIdentifier name ∧ Entity.MadeAs name e ∧ e.structName = "_2faUser" ∧
      IsIdentifier e.structName := by
  intro name e
  have htext : name.toList = '_' :: '_' :: '_' :: "2fa_user".toList := by decide
  have hname : IsIdentifier name :=
    ⟨⟨'_', _, htext, .inr rfl⟩, List.all_eq_true.mp (by decide), by decide⟩
  have hbare : ¬ BaresDigit name := by
    rintro ⟨d, rest, heq, hdigit⟩
    rw [htext] at heq
    cases heq
    cases hdigit
  have he : Entity.MadeAs name e := .table _
  exact ⟨hname, he, by decide, (structName_isIdentifier_iff hname he).2.2.2.mpr hbare⟩

/-- Not every identifier makes one: where one underscore stands before a digit, the digit comes
first. -/
theorem bared_digit_comes_first : ¬ ∀ name e, IsIdentifier name → Entity.MadeAs name e →
    e.structName ≠ "" ∧ BeginsName e.structName.toList ∧
      ∀ c ∈ e.structName.toList, Text.isWordChar c = true := by
  intro h
  have hname : IsIdentifier "_1" :=
    ⟨⟨'_', _, rfl, .inr rfl⟩, List.all_eq_true.mp (by decide), by decide⟩
  obtain ⟨-, ⟨c, rest, heq, hbegin⟩, -⟩ := h "_1" (.ofSchema ⟨"_1", [⟨"id", "int"⟩]⟩) hname (.table _)
  have hstruct : (Entity.ofSchema ⟨"_1", [⟨"id", "int"⟩]⟩).structName.toList = ['1'] := by decide
  rw [hstruct] at heq
  cases heq
  exact absurd hbegin (by decide)

end EntityGen
