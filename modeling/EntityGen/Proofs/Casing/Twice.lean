import EntityGen.Proofs.Casing.Runs

/-!
# Names that are cased twice

Casing a name a second time changes nothing just if all its runs of underscores are short
(`cased_twice_iff`). A run is taken in pairs, so one underscore is left of two and none before a
letter or digit, where a second pass has nothing more to do (`Segment.joined_joined_iff`). The
capital that Pascal case puts first neither makes nor breaks a run
(`capitalize_joinWords_capitalize_iff`).
-/

namespace EntityGen.Casing

variable {c : Char} {cs before after : List Char} {n : Nat} {s : Segment} {x : Cut}

/-! ## Runs of a text -/

/-- A longest run of underscores in a text, between what stands before it and behind it. -/
structure IsRun (before : List Char) (n : Nat) (after cs : List Char) : Prop where
  text : cs = before ++ List.replicate n '_' ++ after
  pos : 0 < n
  before : before.getLast? ≠ some '_'
  after : after.head? ≠ some '_'

/-- Whether a letter or digit of ASCII comes first. -/
def wordFirst (cs : List Char) : Bool := cs.head?.any Char.isAlphanum

/-- Every run before a letter or digit is a single underscore, and every other has two at most. -/
def ShortRuns (cs : List Char) : Prop :=
  ∀ before n after, IsRun before n after cs →
    if wordFirst after then n = 1 else n ≤ 2

def Segment.Short (s : Segment) : Prop := s.run ≤ if s.char.isAlphanum then 1 else 2

/-- Short runs, as a cut shows them. -/
def Cut.Short (x : Cut) : Prop := (∀ s ∈ x.segments, s.Short) ∧ x.trailing ≤ 2

instance (s : Segment) : Decidable s.Short := inferInstanceAs (Decidable (_ ≤ _))

instance (x : Cut) : Decidable x.Short := inferInstanceAs (Decidable (_ ∧ _))

theorem getLast?_segments (segments : List Segment) :
    (segments.flatMap Segment.text).getLast? ≠ some '_' := by
  rcases List.eq_nil_or_concat segments with rfl | ⟨init, s, rfl⟩
  · simp
  · simp [Segment.text, s.char_ne]

theorem Cut.isRun_segment {init rest : List Segment} {s : Segment}
    (h : x.segments = init ++ s :: rest) (hpos : 0 < s.run) :
    IsRun (init.flatMap Segment.text) s.run (s.char :: Cut.text ⟨rest, x.trailing⟩) x.text where
  text := by simp [text, h, Segment.text]
  pos := hpos
  before := getLast?_segments init
  after := by simp [s.char_ne]

theorem Cut.isRun_trailing (hpos : 0 < x.trailing) :
    IsRun (x.segments.flatMap Segment.text) x.trailing [] x.text where
  text := (List.append_nil _).symm
  pos := hpos
  before := getLast?_segments x.segments
  after := by simp

theorem Cut.trailing_eq_zero (h : x.text.getLast? ≠ some '_') : x.trailing = 0 := by
  obtain ⟨segments, trailing⟩ := x
  cases trailing with
  | zero => rfl
  | succ n => exact absurd (by simp [text, List.replicate_succ']) h

/-- A text with no underscore at its end is made of segments only. -/
theorem exists_segments (h : cs.getLast? ≠ some '_') :
    ∃ segments : List Segment, segments.flatMap Segment.text = cs := by
  have htext := Cut.text_ofText cs
  have htrailing : (Cut.ofText cs).trailing = 0 := by
    apply Cut.trailing_eq_zero
    rwa [htext]
  rw [Cut.text, htrailing, List.replicate_zero, List.append_nil] at htext
  exact ⟨(Cut.ofText cs).segments, htext⟩

/-- The runs of a text are those of its cut. -/
theorem IsRun.mem_cut (h : IsRun before n after x.text) :
    (∃ s ∈ x.segments, s.run = n ∧ after.head? = some s.char) ∨ x.trailing = n ∧ after = [] := by
  obtain ⟨htext, -, hbefore, hafter⟩ := h
  obtain ⟨segments, rfl⟩ := exists_segments hbefore
  cases after with
  | nil =>
    obtain rfl : x = ⟨segments, n⟩ := by
      rw [← Cut.text_inj, htext, List.append_nil, Cut.text]
    exact .inr ⟨rfl, rfl⟩
  | cons c rest =>
    have hc : c ≠ '_' := by
      rintro rfl
      exact hafter rfl
    have hrest := Cut.text_ofText rest
    rw [Cut.text] at hrest
    obtain rfl : x = ⟨segments ++ ⟨n, c, hc⟩ :: (Cut.ofText rest).segments,
        (Cut.ofText rest).trailing⟩ := by
      rw [← Cut.text_inj, htext]
      simp [Cut.text, Segment.text, hrest]
    exact .inl ⟨_, List.mem_append_right _ List.mem_cons_self, rfl, rfl⟩

theorem Segment.short_iff (hpos : 0 < s.run) :
    s.Short ↔ if s.char.isAlphanum then s.run = 1 else s.run ≤ 2 := by
  unfold Short
  split <;> omega

theorem shortRuns_text_iff : ShortRuns x.text ↔ x.Short := by
  constructor
  · intro h
    constructor
    · intro s hs
      obtain ⟨init, rest, hsegments⟩ := List.append_of_mem hs
      rcases Nat.eq_zero_or_pos s.run with hzero | hpos
      · rw [Segment.Short, hzero]
        exact Nat.zero_le _
      · rw [Segment.short_iff hpos]
        exact h _ _ _ (Cut.isRun_segment hsegments hpos)
    · rcases Nat.eq_zero_or_pos x.trailing with hzero | hpos
      · omega
      · exact h _ _ _ (Cut.isRun_trailing hpos)
  · rintro ⟨hsegments, htrailing⟩ before n after hrun
    rcases hrun.mem_cut with ⟨s, hs, rfl, hhead⟩ | ⟨rfl, rfl⟩
    · rw [wordFirst, hhead, Option.any_some]
      exact (Segment.short_iff hrun.pos).mp (hsegments s hs)
    · exact htrailing

/-! ## A second pass -/

theorem Segment.isAlphanum_joined (s : Segment) : s.joined.char.isAlphanum = s.char.isAlphanum := by
  unfold joined
  split
  · split
    · exact Text.isAlphanum_toUpper s.char
    · rfl
  · rfl

theorem Segment.run_joined (s : Segment) :
    s.joined.run = if s.char.isAlphanum then s.run / 2 else (s.run + 1) / 2 := by
  unfold joined
  split
  · split
    · show (s.run - 1) / 2 = s.run / 2
      omega
    · rfl
  · rfl

theorem Segment.joined_eq_self (h : s.run ≤ if s.char.isAlphanum then 0 else 1) : s.joined = s := by
  obtain ⟨run, c, hc⟩ := s
  unfold joined
  cases hword : c.isAlphanum with
  | true =>
    obtain rfl : run = 0 := by simpa [hword] using h
    simp
  | false =>
    have hrun : (run + 1) / 2 = run := by
      rw [hword, if_neg Bool.false_ne_true] at h
      dsimp only at h
      omega
    simp [hrun]

theorem Segment.joined_eq_self_iff :
    s.joined = s ↔ s.run ≤ if s.char.isAlphanum then 0 else 1 := by
  refine ⟨fun h => ?_, joined_eq_self⟩
  have hrun := s.run_joined
  rw [h] at hrun
  cases hword : s.char.isAlphanum with
  | true =>
    rw [hword, if_pos rfl] at hrun
    rw [if_pos rfl]
    omega
  | false =>
    rw [hword, if_neg Bool.false_ne_true] at hrun
    rw [if_neg Bool.false_ne_true]
    omega

/-- The first pass leaves a segment for good just if its run is short. -/
theorem Segment.joined_joined_iff : s.joined.joined = s.joined ↔ s.Short := by
  rw [joined_eq_self_iff, isAlphanum_joined, run_joined, Short]
  split <;> omega

theorem Cut.joined_joined_iff : x.joined.joined = x.joined ↔ x.Short := by
  have htrailing : ((x.trailing + 1) / 2 + 1) / 2 = (x.trailing + 1) / 2 ↔ x.trailing ≤ 2 := by
    omega
  simp [joined, Short, htrailing, Segment.joined_joined_iff]

theorem joinWords_joinWords_iff : joinWords (joinWords cs) = joinWords cs ↔ ShortRuns cs := by
  rw [← Cut.text_ofText cs, joinWords_text, joinWords_text, Cut.text_inj, Cut.joined_joined_iff,
    shortRuns_text_iff]

/-! ## The first character in upper case -/

/-- Where no underscore stands in front, joining words goes past it. -/
theorem joinWords_append {front : List Char} (h : '_' ∉ front) (cs : List Char) :
    joinWords (front ++ cs) = front ++ joinWords cs := by
  induction front with
  | nil => rfl
  | cons c front ih =>
    rw [List.mem_cons, not_or] at h
    rw [List.cons_append, joinWords_cons (Ne.symm h.1), ih h.2, List.cons_append]

theorem mark_notMem_upperCase (h : c ≠ '_') : '_' ∉ Text.upperCase c :=
  fun hmem => h (Text.eq_of_mem_upperCase hmem (by decide) rfl).symm

theorem capitalize_mark (cs : List Char) : capitalize ('_' :: cs) = '_' :: cs := by
  have hself : Text.upperCase '_' = ['_'] := by decide
  rw [capitalize, hself, List.singleton_append]

/-- No other character makes an underscore come first. -/
theorem eq_of_capitalize_mark (h : capitalize cs = '_' :: after) : cs = '_' :: after := by
  cases cs with
  | nil => cases h
  | cons c cs =>
    by_cases hc : c = '_'
    · subst hc
      rwa [capitalize_mark] at h
    · refine absurd ?_ (mark_notMem_upperCase hc)
      cases hupper : Text.upperCase c with
      | nil => exact absurd hupper (Text.upperCase_ne_nil c)
      | cons d rest =>
        rw [capitalize, hupper] at h
        exact (List.cons.inj h).1 ▸ List.mem_cons_self

theorem capitalize_upperCase_append (c : Char) (cs : List Char) :
    capitalize (Text.upperCase c ++ cs) = Text.upperCase c ++ cs := by
  cases hupper : Text.upperCase c with
  | nil => exact absurd hupper (Text.upperCase_ne_nil c)
  | cons d rest =>
    have hd : Text.upperCase d = [d] := Text.upperCase_of_mem (hupper ▸ List.mem_cons_self)
    rw [List.cons_append, capitalize, hd, List.singleton_append]

/-- The first character in upper case takes no part in joining words, whether it is an underscore
or not. -/
theorem capitalize_joinWords_capitalize_iff :
    capitalize (joinWords (capitalize cs)) = capitalize cs ↔ joinWords cs = cs := by
  cases cs with
  | nil => exact iff_of_true rfl rfl
  | cons c cs =>
    by_cases hc : c = '_'
    · subst hc
      rw [capitalize_mark]
      exact ⟨eq_of_capitalize_mark, fun h => by rw [h, capitalize_mark]⟩
    · have hupper := mark_notMem_upperCase hc
      rw [capitalize, joinWords_append hupper, capitalize_upperCase_append, joinWords_cons hc,
        List.append_cancel_left_eq, List.cons.injEq, and_iff_right rfl]

/-! ## Names -/

/-- Casing a name twice is the same as once just if all runs of underscores are short, in camel and
in Pascal case; and then a name in camel case has the same Pascal case. -/
theorem cased_twice_iff (name : String) :
    (camel (camel name) = camel name ↔ ShortRuns name.toList) ∧
      (pascal (pascal name) = pascal name ↔ ShortRuns name.toList) ∧
      (ShortRuns name.toList → pascal (camel name) = pascal name) := by
  refine ⟨?_, ?_, fun h => ?_⟩
  · rw [camel, camel, String.toList_ofList, String.ofList_inj, joinWords_joinWords_iff]
  · rw [pascal, pascal, String.toList_ofList, String.ofList_inj,
      capitalize_joinWords_capitalize_iff, joinWords_joinWords_iff]
  · rw [pascal, camel, String.toList_ofList, joinWords_joinWords_iff.mpr h, pascal]

/-- Behind a sharp S, a run of two before no word character, one before a digit, and two at the
end. -/
theorem sharp_s_cased_twice :
    let name := "ß__é_2__"
    ShortRuns name.toList ∧ pascal name = "SS_é2_" ∧ pascal (pascal name) = pascal name ∧
      pascal (camel name) = pascal name := by
  intro name
  have hshort : ShortRuns name.toList := by
    rw [← Cut.text_ofText name.toList, shortRuns_text_iff]
    decide +kernel
  obtain ⟨-, hpascal, hcamel⟩ := cased_twice_iff name
  exact ⟨hshort, by decide +kernel, hpascal.mpr hshort, hcamel hshort⟩

/-- Of two underscores before a letter one is left, which a second pass drops. -/
example : camel "a__b" = "a_b" ∧ camel "a_b" = "aB" := by decide

end EntityGen.Casing
