import EntityGen.Prompt.Editor
import EntityGen.Sql.Lexer

/-!
# Texts on one line

A prompt puts what is pasted on one line, each line break becoming a space. `Flat s u` says that
`u` is `s` on one line, and `Kept s s' R` that what is read from `s` up to `s'` is read off one line
as well, if no line break stands in it. The characters that a line break stands between count: a
reader looks one or two characters ahead, so it must ask only for characters that no break turns
into (`Solid`) and for properties that a break shares with a space (`Blind`).
-/

namespace EntityGen.Sql

open Prompt.Editor (flatten)

/-- A character that ends a line. -/
def IsBreak (c : Char) : Prop := c = '\n' ∨ c = '\r'

instance (c : Char) : Decidable (IsBreak c) := inferInstanceAs (Decidable (_ ∨ _))

/-- A character that is neither a line break nor what becomes of one. -/
def Solid (c : Char) : Prop := ¬ IsBreak c ∧ c ≠ ' '

instance (c : Char) : Decidable (Solid c) := inferInstanceAs (Decidable (_ ∧ _))

theorem solid_of_all {cs : List Char} (h : cs.all (Solid ·) = true) : ∀ c ∈ cs, Solid c :=
  fun c hc => of_decide_eq_true (List.all_eq_true.mp h c hc)

/-- A property that a line break shares with a space. -/
def Blind (p : Char → Bool) : Prop := ∀ c, p (flatten c) = p c

variable {c d : Char} {cs : List Char} {p : Char → Bool}

theorem flatten_of_not_break (h : ¬ IsBreak c) : flatten c = c := if_neg h

theorem flatten_of_break (h : IsBreak c) : flatten c = ' ' := if_pos h

theorem flatten_eq_iff (hd : Solid d) : flatten c = d ↔ c = d := by
  by_cases hc : IsBreak c
  · rw [flatten_of_break hc]
    exact ⟨fun h => absurd h.symm hd.2, fun h => absurd (h ▸ hc) hd.1⟩
  · rw [flatten_of_not_break hc]

theorem map_flatten_of_not_break (h : ∀ c ∈ cs, ¬ IsBreak c) : cs.map flatten = cs :=
  (List.map_congr_left fun c hc => flatten_of_not_break (h c hc)).trans cs.map_id

theorem map_flatten_eq_iff {xs : List Char} (hxs : ∀ d ∈ xs, Solid d) :
    cs.map flatten = xs ↔ cs = xs := by
  induction xs generalizing cs with
  | nil => exact List.map_eq_nil_iff
  | cons x xs ih =>
    obtain ⟨hx, hxs⟩ := List.forall_mem_cons.mp hxs
    cases cs with
    | nil => simp
    | cons c cs => rw [List.map_cons, List.cons.injEq, List.cons.injEq, flatten_eq_iff hx, ih hxs]

theorem head?_map_flatten_eq_iff (hd : Solid d) :
    (cs.map flatten).head? = some d ↔ cs.head? = some d := by
  cases cs <;> simp [flatten_eq_iff hd]

/-- No solid character comes to stand where a text goes on. -/
theorem map_flatten_ne_cons (hd : Solid d) (h : ∀ more, cs = d :: more → False) :
    ∀ more, cs.map flatten = d :: more → False := by
  intro more hmore
  have hhead : cs.head? = some d := by
    rw [← head?_map_flatten_eq_iff hd, hmore, List.head?_cons]
  obtain ⟨more, rfl⟩ := List.head?_eq_some_iff.mp hhead
  exact h more rfl

theorem isPrefixOf_map_flatten {xs : List Char} (hxs : ∀ c ∈ xs, Solid c) :
    xs.isPrefixOf (cs.map flatten) = xs.isPrefixOf cs := by
  induction xs generalizing cs with
  | nil => simp
  | cons x xs ih =>
    obtain ⟨hx, hxs⟩ := List.forall_mem_cons.mp hxs
    cases cs with
    | nil => rfl
    | cons c cs =>
      have hhead : (x == flatten c) = (x == c) := by
        rw [Bool.eq_iff_iff, beq_iff_eq, beq_iff_eq, eq_comm, flatten_eq_iff hx, eq_comm]
      rw [List.map_cons, List.isPrefixOf_cons_cons, List.isPrefixOf_cons_cons, ih hxs, hhead]

theorem blind_iff : Blind p ↔ p '\n' = p ' ' ∧ p '\r' = p ' ' := by
  refine ⟨fun h => ⟨(h '\n').symm, (h '\r').symm⟩, fun h c => ?_⟩
  by_cases hc : IsBreak c
  · rw [flatten_of_break hc]
    obtain rfl | rfl := hc
    · exact h.1.symm
    · exact h.2.symm
  · rw [flatten_of_not_break hc]

theorem Blind.solid (hp : Blind p) (hspace : p ' ' = false) (hc : p c = true) : Solid c := by
  refine ⟨fun hbreak => ?_, ?_⟩
  · rw [← hp c, flatten_of_break hbreak, hspace] at hc
    cases hc
  · rintro rfl
    rw [hspace] at hc
    cases hc

theorem takeWhile_map_flatten (hp : Blind p) :
    (cs.map flatten).takeWhile p = (cs.takeWhile p).map flatten := by
  rw [List.takeWhile_map]
  exact congrArg (fun q => (cs.takeWhile q).map flatten) (funext hp)

theorem dropWhile_map_flatten (hp : Blind p) :
    (cs.map flatten).dropWhile p = (cs.dropWhile p).map flatten := by
  rw [List.dropWhile_map]
  exact congrArg (fun q => (cs.dropWhile q).map flatten) (funext hp)

/-! ## Sources -/

variable {s s₁ s' u : Source} {R R₁ : Source → Source → Prop} {pos pos' : Pos}

/-- No line break stands in what is read from `s` up to `s'`. -/
def Unbroken (s s' : Source) : Prop := ∃ run, s.rest = run ++ s'.rest ∧ ∀ c ∈ run, ¬ IsBreak c

/-- The text of `u` is that of `s` on one line. -/
def Flat (s u : Source) : Prop := u.rest = s.rest.map flatten

theorem Unbroken.of_suffix (h : Unbroken s s') (h₁ : s₁.rest <:+ s.rest)
    (h' : s'.rest <:+ s₁.rest) : Unbroken s s₁ ∧ Unbroken s₁ s' := by
  obtain ⟨run, hrun, hbreak⟩ := h
  obtain ⟨run₁, h₁⟩ := h₁
  obtain ⟨run', h'⟩ := h'
  obtain rfl : run = run₁ ++ run' := by
    rw [← h₁, ← h', ← List.append_assoc] at hrun
    exact (List.append_cancel_right hrun).symm
  exact ⟨⟨run₁, h₁.symm, fun c hc => hbreak c (List.mem_append_left _ hc)⟩,
    ⟨run', h'.symm, fun c hc => hbreak c (List.mem_append_right _ hc)⟩⟩

theorem Unbroken.take {n : Nat} (h : Unbroken s (s.drop n)) :
    ∀ c ∈ s.rest.take n, ¬ IsBreak c := by
  obtain ⟨run, hrun, hbreak⟩ := h
  rw [Source.rest_drop] at hrun
  rwa [List.append_cancel_right ((List.take_append_drop n s.rest).trans hrun)]

namespace Flat

theorem drop (h : Flat s u) (n : Nat) : Flat (s.drop n) (u.drop n) := by
  simp only [Flat, Source.rest_drop] at *
  rw [h, List.map_drop]

theorem tail (h : Flat s u) : Flat s.tail u.tail := h.drop 1

theorem length_eq (h : Flat s u) : u.rest.length = s.rest.length := by rw [h, List.length_map]

theorem rest_nil (h : Flat ⟨[], pos⟩ u) : u.rest = [] := h

theorem rest_cons (h : Flat ⟨c :: cs, pos⟩ u) : u.rest = flatten c :: cs.map flatten := h

theorem peek?_eq_iff (h : Flat s u) (hd : Solid d) : u.peek? = some d ↔ s.peek? = some d := by
  rw [Source.peek?, h]
  exact head?_map_flatten_eq_iff hd

theorem take_eq_iff (h : Flat s u) {xs : List Char} (hxs : ∀ d ∈ xs, Solid d) (n : Nat) :
    u.rest.take n = xs ↔ s.rest.take n = xs := by
  rw [h, ← List.map_take, map_flatten_eq_iff hxs]

theorem peekQuote?_eq (h : Flat s u) : u.peekQuote? = s.peekQuote? := by
  rw [Source.peekQuote?, Source.peekQuote?, Source.peek?, Source.peek?, h]
  cases s.rest with
  | nil => rfl
  | cons c cs =>
    by_cases hc : IsBreak c
    · simp only [List.map_cons, List.head?_cons, flatten_of_break hc]
      obtain rfl | rfl := hc <;> rfl
    · simp only [List.map_cons, List.head?_cons, flatten_of_not_break hc]

theorem takeWhile_fst (h : Flat s u) (hp : Blind p) :
    (u.takeWhile p).1 = (s.takeWhile p).1.map flatten := by
  rw [Source.takeWhile_fst, Source.takeWhile_fst, h, takeWhile_map_flatten hp]

/-- A text on one line whose first characters hold no line break. -/
theorem rest_eq {n : Nat} (hu : Flat s u) (h : Unbroken s (s.drop n)) :
    u.rest = s.rest.take n ++ (s.rest.drop n).map flatten := by
  rw [hu, ← map_flatten_of_not_break h.take, ← List.map_append, List.take_append_drop]

end Flat

/-! ## What is kept on one line -/

/-- From `s` on, something is read up to `s'`. Unless a line break stands in it, `R` holds of every
reading that begins at `s` on one line. -/
structure Kept (s s' : Source) (R : Source → Source → Prop) : Prop where
  suffix : s'.rest <:+ s.rest
  flat : Unbroken s s' → ∀ u, Flat s u → ∃ u', Flat s' u' ∧ R u u'

namespace Kept

theorem refl (h : ∀ u, Flat s u → R u u) : Kept s s R :=
  ⟨List.suffix_rfl, fun _ u hu => ⟨u, hu, h u hu⟩⟩

theorem ends (n : Nat) (h : ∀ u, Flat s u → R u (u.drop n)) : Kept s (s.drop n) R :=
  ⟨by simp [List.drop_suffix], fun _ u hu => ⟨u.drop n, hu.drop n, h u hu⟩⟩

theorem ends_tail (h : ∀ u, Flat s u → R u u.tail) : Kept s s.tail R := ends 1 h

/-- Two readings in a row. A break in neither is one in no part of both. -/
theorem trans (h : Kept s s₁ R) (h' : Kept s₁ s' R₁) :
    Kept s s' fun u u' => ∃ u₁, R u u₁ ∧ R₁ u₁ u' := by
  refine ⟨h'.suffix.trans h.suffix, fun hun u hu => ?_⟩
  obtain ⟨hun₁, hun'⟩ := hun.of_suffix h.suffix h'.suffix
  obtain ⟨u₁, hu₁, hread⟩ := h.flat hun₁ u hu
  obtain ⟨u', hu', hread'⟩ := h'.flat hun' u₁ hu₁
  exact ⟨u', hu', u₁, hread, hread'⟩

theorem mono (h : Kept s s' R₁) (hR : ∀ u u', Flat s u → R₁ u u' → R u u') : Kept s s' R := by
  refine ⟨h.suffix, fun hun u hu => ?_⟩
  obtain ⟨u', hu', hread⟩ := h.flat hun u hu
  exact ⟨u', hu', hR u u' hu hread⟩

theorem and_flat {P : Source → Prop} (h : Kept s s' R) (hP : ∀ u, Flat s u → P u) :
    Kept s s' fun u u' => P u ∧ R u u' :=
  h.mono fun u _ hu hread => ⟨hP u hu, hread⟩

/-- A choice that one line leaves as it is, between two readings that it keeps. -/
theorem ite {α : Type} {P : Source → Prop} [DecidablePred P] {read read' result : Source → α}
    (hP : ∀ u, Flat s u → (P u ↔ P s))
    (hread : P s → read s = result s' → Kept s s' fun u u' => read u = result u')
    (hread' : ¬ P s → read' s = result s' → Kept s s' fun u u' => read' u = result u')
    (h : (if P s then read s else read' s) = result s') :
    Kept s s' fun u u' => (if P u then read u else read' u) = result u' := by
  by_cases hs : P s
  · rw [if_pos hs] at h
    exact (hread hs h).mono fun u u' hflat hu => by rw [if_pos ((hP u hflat).mpr hs), hu]
  · rw [if_neg hs] at h
    exact (hread' hs h).mono fun u u' hflat hu => by rw [if_neg (mt (hP u hflat).mp hs), hu]

theorem after_drop (n : Nat) (h : Kept (s.drop n) s' R₁)
    (hR : ∀ u u', Flat s u → R₁ (u.drop n) u' → R u u') : Kept s s' R := by
  have hdrop : Kept s (s.drop n) fun u u₁ => u₁ = u.drop n := ends n fun _ _ => rfl
  refine (hdrop.trans h).mono ?_
  rintro u u' hu ⟨_, rfl, hread⟩
  exact hR u u' hu hread

theorem after_tail (h : Kept s.tail s' R₁) (hR : ∀ u u', Flat s u → R₁ u.tail u' → R u u') :
    Kept s s' R := after_drop 1 h hR

/-- A reading of `n` characters, which stand on one line as they are. -/
theorem of_drop (n : Nat)
    (hR : ∀ pos, R ⟨s.rest.take n ++ (s.rest.drop n).map flatten, pos⟩
      (Source.drop n ⟨s.rest.take n ++ (s.rest.drop n).map flatten, pos⟩)) :
    Kept s (s.drop n) R := by
  refine ⟨by simp [List.drop_suffix], fun hun u hu => ⟨u.drop n, hu.drop n, ?_⟩⟩
  obtain ⟨urest, pos⟩ := u
  obtain rfl : urest = _ := hu.rest_eq hun
  exact hR pos

/-- A reading of `n` characters before another. -/
theorem drop (n : Nat) (h : Kept (s.drop n) s' R₁)
    (hR : ∀ pos u', R₁ (Source.drop n ⟨s.rest.take n ++ (s.rest.drop n).map flatten, pos⟩) u' →
      R ⟨s.rest.take n ++ (s.rest.drop n).map flatten, pos⟩ u') : Kept s s' R := by
  have hdrop : Kept s (s.drop n) fun u u₁ => ∀ u', R₁ u₁ u' → R u u' :=
    of_drop n fun pos u' => hR pos u'
  exact (hdrop.trans h).mono fun u u' _ ⟨u₁, hstep, hread⟩ => hstep u' hread

theorem last (hR : ∀ pos, R ⟨c :: cs.map flatten, pos⟩ ⟨cs.map flatten, pos.after c⟩) :
    Kept ⟨c :: cs, pos⟩ ⟨cs, pos'⟩ R := by
  have h : Kept ⟨c :: cs, pos⟩ ⟨cs, pos.after c⟩ R := of_drop (s := ⟨c :: cs, pos⟩) 1 hR
  exact ⟨h.suffix, h.flat⟩

theorem cons (h : Kept ⟨cs, pos'⟩ s' R₁)
    (hR : ∀ pos u', R₁ ⟨cs.map flatten, pos.after c⟩ u' → R ⟨c :: cs.map flatten, pos⟩ u') :
    Kept ⟨c :: cs, pos⟩ s' R := by
  have h' : Kept ⟨cs, pos.after c⟩ s' R₁ := ⟨h.suffix, h.flat⟩
  exact drop (s := ⟨c :: cs, pos⟩) 1 h' hR

theorem cons₂ (h : Kept ⟨cs, pos'⟩ s' R₁)
    (hR : ∀ pos u', R₁ ⟨cs.map flatten, (pos.after c).after d⟩ u' →
      R ⟨c :: d :: cs.map flatten, pos⟩ u') : Kept ⟨c :: d :: cs, pos⟩ s' R := by
  have h' : Kept ⟨cs, (pos.after c).after d⟩ s' R₁ := ⟨h.suffix, h.flat⟩
  exact drop (s := ⟨c :: d :: cs, pos⟩) 2 h' hR

theorem takeWhile (hp : Blind p) {run : List Char} (h : s.takeWhile p = (run, s')) :
    Kept s s' fun u u' => u.takeWhile p = (run, u') := by
  obtain ⟨rfl, rfl⟩ : (s.takeWhile p).1 = run ∧ (s.takeWhile p).2 = s' := by simp [h]
  refine ⟨by simpa using List.dropWhile_suffix p, fun hun u hu => ⟨(u.takeWhile p).2, ?_, ?_⟩⟩
  · simp only [Flat, Source.rest_takeWhile_snd]
    rw [hu, dropWhile_map_flatten hp]
  · obtain ⟨run, hrun, hbreak⟩ := hun
    obtain rfl : s.rest.takeWhile p = run := by
      apply List.append_cancel_right
      rw [← hrun, Source.rest_takeWhile_snd, List.takeWhile_append_dropWhile]
    refine Prod.ext ?_ rfl
    rw [hu.takeWhile_fst hp, Source.takeWhile_fst, map_flatten_of_not_break hbreak]

end Kept

end EntityGen.Sql
