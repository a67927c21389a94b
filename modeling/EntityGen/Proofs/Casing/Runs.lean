import EntityGen.Casing
import EntityGen.Proofs.Text.UpperCase
import Mathlib.Algebra.Ring.Parity

/-!
# Names by their runs of underscores

A text is cut in one way into its longest runs of underscores and the other characters
(`Cut.ofText_text`, `Cut.text_ofText`). Joining the words of a name works on each run by itself, and
on the character behind it (`joinWords_text`): underscores go in pairs, and what is left over of an
odd run goes with the letter or digit that it stands before. So the case of a name has a closed form
(`cased_by_runs`).
-/

namespace EntityGen.Casing

variable {c : Char} {cs rest : List Char}

/-! ## Cuts -/

/-- A character other than an underscore, and the number of underscores right before it. -/
structure Segment where
  run : Nat
  char : Char
  char_ne : char ≠ '_'

/-- A text by its segments and the number of underscores at its end. No segment ends in an
underscore, so the runs are the longest ones. -/
structure Cut where
  segments : List Segment
  trailing : Nat

def Segment.text (s : Segment) : List Char := List.replicate s.run '_' ++ [s.char]

def Cut.text (x : Cut) : List Char :=
  x.segments.flatMap Segment.text ++ List.replicate x.trailing '_'

/-- A character put in front of a text. An underscore makes the first run longer. -/
def Cut.cons (c : Char) (x : Cut) : Cut :=
  if h : c = '_' then
    match x.segments with
    | [] => ⟨[], x.trailing + 1⟩
    | s :: segments => ⟨⟨s.run + 1, s.char, s.char_ne⟩ :: segments, x.trailing⟩
  else ⟨⟨0, c, h⟩ :: x.segments, x.trailing⟩

/-- The cut of a text. -/
def Cut.ofText (cs : List Char) : Cut := cs.foldr Cut.cons ⟨[], 0⟩

namespace Cut

theorem text_cons (c : Char) (x : Cut) : (x.cons c).text = c :: x.text := by
  obtain ⟨segments, trailing⟩ := x
  unfold cons
  split
  · rename_i h
    subst h
    cases segments <;> simp [text, Segment.text, List.replicate_succ]
  · simp [text, Segment.text]

theorem text_ofText (cs : List Char) : (ofText cs).text = cs := by
  induction cs with
  | nil => rfl
  | cons c cs ih => rw [ofText, List.foldr_cons, ← ofText, text_cons, ih]

theorem ofText_trailing (n : Nat) : ofText (List.replicate n '_') = ⟨[], n⟩ := by
  induction n with
  | zero => rfl
  | succ n ih => rw [List.replicate_succ, ofText, List.foldr_cons, ← ofText, ih]; rfl

theorem ofText_segment (s : Segment) (cs : List Char) :
    ofText (s.text ++ cs) = ⟨s :: (ofText cs).segments, (ofText cs).trailing⟩ := by
  obtain ⟨run, c, hc⟩ := s
  induction run with
  | zero => simp [Segment.text, ofText, cons, hc]
  | succ n ih =>
    simp only [Segment.text] at ih
    rw [Segment.text, List.replicate_succ, List.cons_append, List.cons_append, ofText,
      List.foldr_cons, ← ofText, ih]
    rfl

/-- A text is cut in one way only. -/
theorem ofText_text (x : Cut) : ofText x.text = x := by
  obtain ⟨segments, trailing⟩ := x
  induction segments with
  | nil => exact ofText_trailing trailing
  | cons s segments ih =>
    rw [text, List.flatMap_cons, List.append_assoc, ofText_segment]
    rw [text] at ih
    rw [ih]

theorem text_eq_iff {x : Cut} : x.text = cs ↔ x = ofText cs :=
  ⟨fun h => h ▸ x.ofText_text.symm, fun h => h ▸ text_ofText cs⟩

theorem text_inj {x y : Cut} : x.text = y.text ↔ x = y := by
  rw [text_eq_iff, ofText_text]

end Cut

/-! ## Words that are joined -/

theorem joinWords_cons (h : c ≠ '_') (cs : List Char) : joinWords (c :: cs) = c :: joinWords cs :=
  joinWords.eq_3 c cs fun _ _ hc _ => h hc

theorem joinWords_word (h : c.isAlphanum = true) (cs : List Char) :
    joinWords ('_' :: c :: cs) = c.toUpper :: joinWords cs := by
  rw [joinWords, if_pos (by simp [Text.isWordChar, h])]

theorem joinWords_mark (hc : c ≠ '_') (h : c.isAlphanum = false) (cs : List Char) :
    joinWords ('_' :: c :: cs) = '_' :: c :: joinWords cs := by
  rw [joinWords, if_neg (by simp [Text.isWordChar, h, hc]), joinWords_cons hc]

/-- Of two underscores the second counts as the character behind the first. -/
theorem joinWords_pairs (n : Nat) (cs : List Char) :
    joinWords (List.replicate (2 * n) '_' ++ cs) = List.replicate n '_' ++ joinWords cs := by
  induction n with
  | zero => rfl
  | succ n ih =>
    have hpair : joinWords ('_' :: '_' :: (List.replicate (2 * n) '_' ++ cs)) =
        '_' :: joinWords (List.replicate (2 * n) '_' ++ cs) := rfl
    rw [Nat.mul_succ, List.replicate_succ, List.replicate_succ, List.cons_append, List.cons_append,
      hpair, ih, List.replicate_succ, List.cons_append]

/-- A segment after its run is taken in pairs. An odd run before a letter or digit leaves one
underscore to go with it, and makes it a capital. -/
def Segment.joined (s : Segment) : Segment :=
  if s.char.isAlphanum then
    if s.run % 2 = 1 then
      ⟨(s.run - 1) / 2, s.char.toUpper, fun h => s.char_ne (Text.eq_of_toUpper h rfl).symm⟩
    else ⟨s.run / 2, s.char, s.char_ne⟩
  else ⟨(s.run + 1) / 2, s.char, s.char_ne⟩

/-- The cut of a text whose words are joined. -/
def Cut.joined (x : Cut) : Cut := ⟨x.segments.map Segment.joined, (x.trailing + 1) / 2⟩

theorem joinWords_segment (s : Segment) (cs : List Char) :
    joinWords (s.text ++ cs) = s.joined.text ++ joinWords cs := by
  obtain ⟨run, c, hc⟩ := s
  obtain ⟨n, rfl | rfl⟩ := Nat.even_or_odd' run
  · have hjoined : Segment.joined ⟨2 * n, c, hc⟩ = ⟨n, c, hc⟩ := by
      have hhalf : (2 * n + 1) / 2 = n := by omega
      simp [Segment.joined, hhalf]
    simp only [hjoined, Segment.text, List.append_assoc, List.singleton_append, joinWords_pairs,
      joinWords_cons hc]
  · rw [Segment.text, List.replicate_succ', List.append_assoc, List.append_assoc, joinWords_pairs]
    cases hword : c.isAlphanum
    · have hjoined : Segment.joined ⟨2 * n + 1, c, hc⟩ = ⟨n + 1, c, hc⟩ := by
        have hhalf : (2 * n + 1 + 1) / 2 = n + 1 := by omega
        simp [Segment.joined, hword, hhalf]
      have hmark := joinWords_mark hc hword cs
      simp [hjoined, Segment.text, hmark, List.replicate_succ']
    · have hjoined : (Segment.joined ⟨2 * n + 1, c, hc⟩).text =
          List.replicate n '_' ++ [c.toUpper] := by
        simp [Segment.joined, Segment.text, hword]
      have hnext := joinWords_word hword cs
      simp [hjoined, hnext]

theorem joinWords_trailing (n : Nat) :
    joinWords (List.replicate n '_') = List.replicate ((n + 1) / 2) '_' := by
  obtain ⟨m, rfl | rfl⟩ := Nat.even_or_odd' n
  · have hpairs := joinWords_pairs m []
    rw [List.append_nil] at hpairs
    rw [hpairs, show (2 * m + 1) / 2 = m by omega]
    exact List.append_nil _
  · rw [List.replicate_succ', joinWords_pairs, show (2 * m + 1 + 1) / 2 = m + 1 by omega,
      List.replicate_succ']
    rfl

/-- Each run is joined by itself. -/
theorem joinWords_text (x : Cut) : joinWords x.text = x.joined.text := by
  obtain ⟨segments, trailing⟩ := x
  induction segments with
  | nil => exact joinWords_trailing trailing
  | cons s segments ih =>
    simp only [Cut.text, Cut.joined, List.map_cons, List.flatMap_cons, List.append_assoc,
      joinWords_segment] at ih ⊢
    rw [ih]

/-- The case of a name has a closed form by its runs of underscores, which are cut in one way. In
Pascal case the first character is in upper case, too. -/
theorem cased_by_runs (name : String) : ∃ x : Cut,
    (∀ y : Cut, y.text = name.toList ↔ y = x) ∧
    (camel name).toList = x.joined.text ∧
    (pascal name).toList =
      match x.joined.text with
      | [] => []
      | c :: cs => Text.upperCase c ++ cs := by
  have hjoined : joinWords name.toList = (Cut.ofText name.toList).joined.text := by
    rw [← joinWords_text, Cut.text_ofText]
  refine ⟨.ofText name.toList, fun y => Cut.text_eq_iff, ?_, ?_⟩
  · rw [camel, String.toList_ofList, hjoined]
  · rw [pascal, String.toList_ofList, hjoined]
    cases (Cut.ofText name.toList).joined.text <;> rfl

/-- Runs of three, two, one and two, before a letter, a letter, no word character and nothing. -/
example : camel "a___b__c_é__" = "a_B_c_é_" := by decide +kernel

end EntityGen.Casing
