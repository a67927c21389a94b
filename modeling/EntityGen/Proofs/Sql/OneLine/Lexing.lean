import EntityGen.Proofs.Sql.OneLine.Tokens
import EntityGen.Proofs.Sql.Words
import Mathlib.Data.List.TakeWhile

/-!
# Whole texts on one line

On one line a text keeps the tokens in which no line break stands, up to its first comment that runs
to the end of its line: this takes all the rest with it (`lexFrom_flat`).
-/

namespace EntityGen.Sql

open Prompt.Editor (flatten)

variable {d : Dialect} {r : Rules} {c quote : Char} {cs : List Char} {s s' u : Source} {t : Token}

/-! ## Leading tokens -/

/-- Whether a comment that runs to the end of its line comes next. -/
def Source.opensLineComment (r : Rules) (s : Source) : Bool :=
  s.rest.take 2 = ['-', '-'] || r.hashComments && s.peek? = some '#'

/-- What is read from `s` up to `s'`. -/
def Source.upTo (s s' : Source) : List Char := s.rest.take (s.rest.length - s'.rest.length)

/-- A token with the text that it is written as. -/
structure Written where
  token : Token
  text : List Char

/-- The tokens before the first comment that runs to the end of its line. -/
def leadingFrom (r : Rules) : Nat → Source → List Written
  | 0, _ => []
  | fuel + 1, s =>
    match s.rest with
    | [] => []
    | c :: _ =>
      if s.opensLineComment r then []
      else
        match s.step r c with
        | .error _ => []
        | .ok (none, s') => leadingFrom r fuel s'
        | .ok (some t, s') => ⟨t, s.upTo s'⟩ :: leadingFrom r fuel s'

/-- The tokens of a text before its first comment that runs to the end of its line. -/
def leadingTokens (d : Dialect) (text : List Char) : List Written :=
  leadingFrom d.rules (text.length + 1) (.ofText text)

theorem unbroken_of_upTo (h : ∀ c ∈ s.upTo s', ¬ IsBreak c) (hsuffix : s'.rest <:+ s.rest) :
    Unbroken s s' := by
  obtain ⟨run, hrun⟩ := hsuffix
  have hupTo : s.upTo s' = run := by
    rw [Source.upTo, ← hrun, List.length_append, Nat.add_sub_cancel, List.take_left]
  exact ⟨run, hrun.symm, hupTo ▸ h⟩

/-! ## Stretches without a token -/

/-- A stretch without a token that opens no comment is a single blank. -/
theorem readOther_gap_inv (h : readOther d.rules c s = .ok (none, s')) :
    Text.isBlank c = true ∧ s' = s.tail := by
  obtain ⟨t, ht, -⟩ | ⟨-, hgap⟩ := readOther_eq_ok h
  · cases ht
  · exact hgap

/-! ## Comments -/

/-- On one line a comment that runs to the end of its line takes all the rest. -/
theorem rest_skipLine_of_flat (hu : Flat s u) : (skipLine u).rest = [] := by
  have hall : ∀ c ∈ u.rest, (c != '\n') = true := by
    rw [hu]
    intro c hc
    obtain ⟨d, -, rfl⟩ := List.mem_map.mp hc
    simpa using (Prompt.Editor.flatten_ne_break d).1
  rw [skipLine, Source.rest_tail, Source.rest_takeWhile_snd, List.dropWhile_eq_nil_iff.mpr hall,
    List.tail_nil]

/-- A comment between slashes ends on one line where it ended before. -/
theorem skipBlock_flat {depth : Nat} {last : Char} {pos : Pos}
    (h : skipBlock depth last pos cs = .ok s') (pos' : Pos) :
    ∃ u', skipBlock depth (flatten last) pos' (cs.map flatten) = .ok u' ∧ Flat s' u' := by
  induction cs generalizing depth last pos pos' with
  | nil => cases h
  | cons c cs ih =>
    have hopens : (flatten last = '/' ∧ flatten c = '*') ↔ (last = '/' ∧ c = '*') := by
      rw [flatten_eq_iff (by decide), flatten_eq_iff (by decide)]
    have hcloses : (flatten last = '*' ∧ flatten c = '/') ↔ (last = '*' ∧ c = '/') := by
      rw [flatten_eq_iff (by decide), flatten_eq_iff (by decide)]
    simp only [skipBlock, List.map_cons, hopens, hcloses] at h ⊢
    split at h
    · rename_i hopen
      rw [if_pos hopen]
      exact ih h _
    rename_i hopen
    rw [if_neg hopen]
    split at h
    · rename_i hclose
      rw [if_pos hclose]
      split at h
      · rename_i hdepth
        cases h
        rw [if_pos hdepth]
        exact ⟨_, rfl, rfl⟩
      · rename_i hdepth
        rw [if_neg hdepth]
        exact ih h _
    · rename_i hclose
      rw [if_neg hclose]
      exact ih h _

/-! ## Steps -/

/-- A token in which no line break stands is found on one line as well. -/
theorem step_kept (d : Dialect) (h : s.step d.rules c = .ok (some t, s')) :
    Kept s s' fun u u' => u.step d.rules c = .ok (some t, u') := by
  unfold Source.step at h ⊢
  split at h
  iterate 4 · cases h
  iterate 2 · exact readByteString_kept d h
  iterate 2 · exact readRawString_kept d h
  iterate 4 · exact readMarkedString_kept d h
  iterate 2 · exact readEscapedString_kept d h
  iterate 2 · exact readUnicodeString_kept d h
  · exact readString_kept (by decide) h
  -- a hyphen, a slash and a hash sign may open a comment, where there is no token
  · exact .ite (fun _ hu => hu.tail.peek?_eq_iff (by decide)) (fun _ h => nomatch h)
      (fun _ => readOther_kept d) h
  · refine .ite (fun _ hu => hu.tail.peek?_eq_iff (by decide)) (fun _ h => ?_)
      (fun _ => readOther_kept d) h
    dsimp only at h
    split at h <;> cases h
  · exact .ite (fun _ _ => .rfl) (fun _ h => nomatch h) (fun _ => readOther_kept d) h
  · exact readOther_kept d h

/-- A character that begins a token is no line break. -/
theorem not_isBreak_of_step (h : s.step r c = .ok (some t, s')) : ¬ IsBreak c := by
  rintro (rfl | rfl) <;> cases h

/-- A stretch without a token is none on one line either. -/
theorem step_gap_flat (d : Dialect) (h : s.step d.rules c = .ok (none, s'))
    (hs : s.peek? = some c) (hline : s.opensLineComment d.rules = false) (hu : Flat s u) :
    ∃ u', u.step d.rules (flatten c) = .ok (none, u') ∧ Flat s' u' := by
  by_cases hbreak : IsBreak c
  · obtain rfl | rfl := hbreak <;> cases h <;> exact ⟨u.tail, rfl, hu.tail⟩
  obtain ⟨cs, hrest⟩ := List.head?_eq_some_iff.mp hs
  rw [flatten_of_not_break hbreak]
  unfold Source.step at h ⊢
  split at h
  iterate 2
    · cases h
      exact ⟨u.tail, rfl, hu.tail⟩
  · exact absurd (.inl rfl) hbreak
  · exact absurd (.inr rfl) hbreak
  iterate 2 · exact absurd h findsToken_readByteString.ne_none
  iterate 2 · exact absurd h findsToken_readRawString.ne_none
  iterate 4 · exact absurd h findsToken_readMarkedString.ne_none
  iterate 2 · exact absurd h findsToken_readEscapedString.ne_none
  iterate 2 · exact absurd h findsToken_readUnicodeString.ne_none
  · exact absurd h findsToken_readString.ne_none
  -- a comment to the end of the line is excluded, and one between slashes ends on one line too
  · split at h
    · rename_i hcomment
      obtain ⟨ds, hds⟩ := List.head?_eq_some_iff.mp hcomment
      simp [Source.opensLineComment, hrest, Source.rest_tail] at hline hds
      simp [hds] at hline
    · exact absurd (readOther_gap_inv h).1 (by decide)
  · split at h
    · rename_i hcomment
      dsimp only at h ⊢
      rw [if_pos ((hu.tail.peek?_eq_iff (by decide)).mpr hcomment)]
      split at h
      · rename_i s₁ hblock
        cases h
        obtain ⟨u', hskip, hu'⟩ := skipBlock_flat hblock (u.drop 2).pos
        rw [show flatten ' ' = ' ' from rfl] at hskip
        rw [hu.drop 2, hskip]
        exact ⟨u', rfl, hu'⟩
      · cases h
    · exact absurd (readOther_gap_inv h).1 (by decide)
  · split at h
    · rename_i hcomment
      simp [Source.opensLineComment, hs, hcomment] at hline
    · exact absurd (readOther_gap_inv h).1 (by decide)
  · have hun : Unbroken s s' := by
      obtain ⟨-, rfl⟩ := readOther_gap_inv h
      exact ⟨[c], by simp [hrest], by simpa using hbreak⟩
    obtain ⟨u', hu', hread⟩ := (readOther_kept d h).flat hun u hu
    exact ⟨u', hread, hu'⟩

/-- A comment that runs to the end of its line is the last thing on one line. -/
theorem step_lineComment_flat (hs : s.peek? = some c) (hline : s.opensLineComment r = true)
    (hu : Flat s u) :
    u.step r (flatten c) = .ok (none, skipLine u) ∧ (skipLine u).rest = [] := by
  refine ⟨?_, rest_skipLine_of_flat hu⟩
  obtain ⟨cs, hrest⟩ := List.head?_eq_some_iff.mp hs
  simp only [Source.opensLineComment, Bool.or_eq_true, decide_eq_true_eq, Bool.and_eq_true] at hline
  rcases hline with htwo | ⟨hhash, hpeek⟩
  · obtain ⟨rfl, hnext⟩ : c = '-' ∧ s.tail.peek? = some '-' := by
      cases cs with
      | nil => simp [hrest] at htwo
      | cons d ds => simp_all [Source.peek?, Source.rest_tail]
    exact if_pos ((hu.tail.peek?_eq_iff (by decide)).mpr hnext)
  · obtain rfl : c = '#' := Option.some.inj (hs.symm.trans hpeek)
    exact if_pos hhash

/-! ## Texts -/

/-- On one line there are the tokens before the first comment that runs to the end of its line. -/
theorem lexFrom_flat (d : Dialect) {fuel : Nat} {ls : List Located}
    (h : lexFrom d.rules fuel s = .ok ls)
    (hunbroken : ∀ w ∈ leadingFrom d.rules fuel s, ∀ c ∈ w.text, ¬ IsBreak c) (hu : Flat s u) :
    ∃ ls', lexFrom d.rules fuel u = .ok ls' ∧
      ls'.map (·.token) = (leadingFrom d.rules fuel s).map (·.token) := by
  induction fuel generalizing s u ls with
  | zero => exact ⟨[], rfl, rfl⟩
  | succ fuel ih =>
    obtain ⟨_ | ⟨c, cs⟩, pos⟩ := s
    · exact ⟨[], lexFrom_nil hu.rest_nil, rfl⟩
    have hpeek : u.peek? = some (flatten c) := by rw [Source.peek?, hu.rest_cons, List.head?_cons]
    cases hline : Source.opensLineComment d.rules ⟨c :: cs, pos⟩ with
    | true =>
      obtain ⟨hread, hend⟩ := step_lineComment_flat (s := ⟨c :: cs, pos⟩) rfl hline hu
      exact ⟨_, lexFrom_of_step hpeek hread (lexFrom_nil hend), by simp [leadingFrom, hline]⟩
    | false =>
      obtain ⟨t?, s', later, hstep, hlater, rfl⟩ := lexFrom_eq_ok (c := c) rfl h
      simp only [leadingFrom, hline, hstep, Bool.false_eq_true, if_false] at hunbroken ⊢
      cases t? with
      | some t =>
        obtain ⟨hone, hunbroken⟩ := List.forall_mem_cons.mp hunbroken
        have hkept := step_kept d hstep
        obtain ⟨u', hu', hread⟩ := hkept.flat (unbroken_of_upTo hone hkept.suffix) u hu
        obtain ⟨later', hlater', htokens⟩ := ih hlater hunbroken hu'
        rw [flatten_of_not_break (not_isBreak_of_step hstep)] at hpeek
        exact ⟨_, lexFrom_of_step hpeek hread hlater', by simp [htokens]⟩
      | none =>
        obtain ⟨u', hread, hu'⟩ := step_gap_flat d hstep rfl hline hu
        obtain ⟨later', hlater', htokens⟩ := ih hlater hunbroken hu'
        exact ⟨_, lexFrom_of_step hpeek hread hlater', by simp [htokens]⟩

end EntityGen.Sql
