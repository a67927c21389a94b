import EntityGen.Prompt.Wrap
import Mathlib.Data.List.Chain

/-!
# What wrapping does to a text

Wrapping cuts a text into pieces. A piece is a line and the blanks behind it that are left out where
the line breaks. No line is empty or too wide, and two pieces in a row are wider than a line
(`LaidOut`). Every step keeps this of the text that it has taken (`Took.step`), so it holds of a
whole text (`exists_pieces`). What is no blank therefore comes out as it went in
(`LaidOut.filter_flatten`), and a cell is found on a line that is no further down than the cells
before it fill (`LaidOut.exists_piece`, `LaidOut.length_le`).
-/

namespace EntityGen.Prompt

/-- A line, and the blanks behind it that are left out where it breaks. -/
structure Piece (α : Type) where
  line : List α
  gap : List α

namespace Piece

variable {α : Type}

/-- All that a piece takes of the text. -/
def whole (p : Piece α) : List α := p.line ++ p.gap

/-- The text that is cut into pieces. -/
def text (pieces : List (Piece α)) : List α := pieces.flatMap whole

@[simp] theorem text_nil : text ([] : List (Piece α)) = [] := rfl

@[simp] theorem text_cons (p : Piece α) (pieces : List (Piece α)) :
    text (p :: pieces) = p.whole ++ text pieces := List.flatMap_cons

@[simp] theorem text_append (pieces pieces' : List (Piece α)) :
    text (pieces ++ pieces') = text pieces ++ text pieces' := List.flatMap_append

end Piece

variable {α : Type} {limit : Nat} {isBlank : α → Bool} {pieces : List (Piece α)}
  {cells : List α} {w : Wrapping α} {c : α}

/-- Pieces as wrapping makes them: only blanks are left out, no line is empty or too wide, and two
pieces in a row are wider than a line. -/
structure LaidOut (limit : Nat) (isBlank : α → Bool) (pieces : List (Piece α)) : Prop where
  fits : ∀ p ∈ pieces, p.line ≠ [] ∧ p.line.length ≤ limit
  gaps : ∀ p ∈ pieces, ∀ c ∈ p.gap, isBlank c = true
  wide : pieces.IsChain fun p p' => limit < p.whole.length + p'.whole.length

namespace Wrapping

/-- What is taken but not on a finished line yet. -/
def pending (w : Wrapping α) : List α := w.line ++ w.blanks ++ w.word

/-- How much the next piece has for certain: its line, or, before a word has settled on it, all that
is pending. -/
def certain (w : Wrapping α) : Nat :=
  if w.line.isEmpty then w.blanks.length + w.word.length else w.line.length

theorem certain_of_nil (h : w.line = []) : w.certain = w.width := by
  simp [certain, width, h]

theorem certain_of_ne_nil (h : w.line ≠ []) : w.certain = w.line.length := by
  simp [certain, h]

theorem length_pending (w : Wrapping α) : w.pending.length = w.width := by
  simp [pending, width, Nat.add_assoc]

theorem line_settle (w : Wrapping α) : w.settle.line = w.pending := rfl

@[simp] theorem pending_settle (w : Wrapping α) : w.settle.pending = w.pending := by
  simp [pending, settle]

@[simp] theorem width_settle (w : Wrapping α) : w.settle.width = w.width := by
  rw [← length_pending, pending_settle, length_pending]

theorem certain_le_settle (w : Wrapping α) : w.certain ≤ w.settle.certain := by
  by_cases hline : w.line = []
  · have hsettled : w.settle.certain = w.width := by
      by_cases hempty : w.settle.line = []
      · rw [certain_of_nil hempty, width_settle]
      · rw [certain_of_ne_nil hempty, line_settle, length_pending]
    rw [certain_of_nil hline, hsettled]
  · simp [certain, settle, hline]

@[simp] theorem lines_push (w : Wrapping α) (c : α) : (w.push isBlank c).lines = w.lines := by
  unfold push
  split <;> rfl

@[simp] theorem line_push (w : Wrapping α) (c : α) : (w.push isBlank c).line = w.line := by
  unfold push
  split <;> rfl

@[simp] theorem width_push (w : Wrapping α) (c : α) :
    (w.push isBlank c).width = w.width + 1 := by
  unfold push width
  split <;> simp only [List.length_append, List.length_singleton] <;> omega

/-- A cell is pushed behind the others, unless it is a blank with a word before it. -/
theorem pending_push (hword : isBlank c = true → w.word = []) :
    (w.push isBlank c).pending = w.pending ++ [c] := by
  cases hblank : isBlank c with
  | true => simp [push, pending, hblank, hword hblank]
  | false => simp [push, pending, hblank]

theorem isBlank_of_mem_push (h : ∀ b ∈ w.blanks, isBlank b = true) :
    ∀ b ∈ (w.push isBlank c).blanks, isBlank b = true := by
  cases hblank : isBlank c with
  | true => simpa [push, hblank, or_imp, forall_and] using h
  | false => simpa [push, hblank] using h

theorem certain_le_push (w : Wrapping α) (c : α) : w.certain ≤ (w.push isBlank c).certain := by
  by_cases hline : w.line = []
  · rw [certain_of_nil hline, certain_of_nil (by rw [line_push, hline]), width_push]
    exact Nat.le_succ _
  · rw [certain_of_ne_nil hline, certain_of_ne_nil (by rwa [line_push]), line_push]

/-- A word is left unsettled only before a cell that goes on with it, and on a line with room. -/
theorem of_not_settles (h : ¬ w.settles limit isBlank c = true) :
    (isBlank c = true → w.word = []) ∧ (w.line = [] → w.width < limit) := by
  simp only [settles, Bool.or_eq_true, Bool.and_eq_true, Bool.not_eq_true', List.isEmpty_iff,
    List.isEmpty_eq_false_iff, decide_eq_true_eq, not_or, not_and, Decidable.not_not] at h
  refine ⟨h.1, fun hline => ?_⟩
  have hroom := h.2 hline
  simp only [width, hline, List.length_nil]
  omega

/-- The piece that is finished where the line breaks. -/
def finished (limit : Nat) (w : Wrapping α) : Piece α :=
  ⟨w.line, w.blanks.take (limit - w.line.length)⟩

theorem whole_finished_append (limit : Nat) (w : Wrapping α) :
    (w.finished limit).whole ++ (w.breakLine limit).pending = w.pending := by
  simp only [Piece.whole, finished, pending, breakLine, List.nil_append, List.append_assoc]
  rw [← List.append_assoc (List.take _ _), List.take_append_drop]

/-- What is pending and what is finished where the line breaks are as long as what was pending. -/
theorem length_finished_add (limit : Nat) (w : Wrapping α) :
    (w.finished limit).whole.length + (w.breakLine limit).width = w.width := by
  rw [← length_pending, ← length_pending, ← List.length_append, whole_finished_append]

theorem length_line_le_finished (limit : Nat) (w : Wrapping α) :
    w.line.length ≤ (w.finished limit).whole.length := by
  simp [Piece.whole, finished]

/-- Wrapping has taken a text: some pieces of it are finished, and the rest is pending. -/
structure Took (limit : Nat) (isBlank : α → Bool) (pieces : List (Piece α)) (cells : List α)
    (w : Wrapping α) : Prop where
  laidOut : LaidOut limit isBlank pieces
  lines : w.lines.reverse = pieces.map Piece.line
  text : Piece.text pieces ++ w.pending = cells
  blanks : ∀ c ∈ w.blanks, isBlank c = true
  width : w.width ≤ limit
  wide : ∀ p ∈ pieces.getLast?, limit < p.whole.length + w.certain

theorem took_empty : Took limit isBlank [] [] (empty : Wrapping α) where
  laidOut := ⟨nofun, nofun, .nil⟩
  lines := rfl
  text := rfl
  blanks := nofun
  width := Nat.zero_le _
  wide := nofun

namespace Took

theorem settle (h : Took limit isBlank pieces cells w) :
    Took limit isBlank pieces cells w.settle where
  laidOut := h.laidOut
  lines := h.lines
  text := by rw [pending_settle, h.text]
  blanks := nofun
  width := by rw [width_settle]; exact h.width
  wide p hp := Nat.lt_of_lt_of_le (h.wide p hp) (Nat.add_le_add_left w.certain_le_settle _)

/-- A line that is not full takes a cell. -/
theorem push (h : Took limit isBlank pieces cells w) (hroom : w.width < limit)
    (hword : isBlank c = true → w.word = []) :
    Took limit isBlank pieces (cells ++ [c]) (w.push isBlank c) where
  laidOut := h.laidOut
  lines := by rw [lines_push, h.lines]
  text := by rw [pending_push hword, ← List.append_assoc, h.text]
  blanks := isBlank_of_mem_push h.blanks
  width := by rw [width_push]; exact hroom
  wide p hp := Nat.lt_of_lt_of_le (h.wide p hp) (Nat.add_le_add_left (w.certain_le_push c) _)

/-- The line that is being filled is laid out as the next piece, whatever is left out behind it. -/
theorem laidOut_concat (h : Took limit isBlank pieces cells w) (hline : w.line ≠ []) {gap : List α}
    (hgap : ∀ c ∈ gap, isBlank c = true) : LaidOut limit isBlank (pieces ++ [⟨w.line, gap⟩]) where
  fits p hp := by
    rcases List.mem_append.mp hp with hp | hp
    · exact h.laidOut.fits p hp
    · cases List.mem_singleton.mp hp
      have hwidth := h.width
      simp only [Wrapping.width] at hwidth
      exact ⟨hline, show w.line.length ≤ limit by omega⟩
  gaps p hp := by
    rcases List.mem_append.mp hp with hp | hp
    · exact h.laidOut.gaps p hp
    · cases List.mem_singleton.mp hp
      exact hgap
  wide := by
    refine h.laidOut.wide.append (.singleton _) fun p hp p' hp' => ?_
    cases hp'
    have hwide := h.wide p hp
    rw [certain_of_ne_nil hline] at hwide
    simp only [Piece.whole, List.length_append] at hwide ⊢
    omega

/-- A full line breaks, and a cell goes on to the next one. -/
theorem breakLine_push (h : Took limit isBlank pieces cells w) (hfull : limit ≤ w.width)
    (hline : w.line ≠ []) (hword : isBlank c = true → w.word = []) :
    Took limit isBlank (pieces ++ [w.finished limit]) (cells ++ [c])
      ((w.breakLine limit).push isBlank c) where
  laidOut := h.laidOut_concat hline fun b hb => h.blanks b (List.mem_of_mem_take hb)
  lines := by
    rw [lines_push, breakLine, List.reverse_cons, h.lines, List.map_append]
    rfl
  text := by
    have hpending := pending_push (w := w.breakLine limit) hword
    rw [hpending, ← h.text, ← w.whole_finished_append limit]
    simp
  blanks := isBlank_of_mem_push fun b hb => h.blanks b (List.mem_of_mem_drop hb)
  width := by
    have hwidth := h.width
    have hlength := w.length_finished_add limit
    have hfinished := w.length_line_le_finished limit
    have hpos : 0 < w.line.length := List.length_pos_of_ne_nil hline
    rw [width_push]
    omega
  wide p hp := by
    have hlength := w.length_finished_add limit
    rw [List.getLast?_concat] at hp
    cases hp
    rw [certain_of_nil (line_push _ _), width_push]
    omega

/-- A full line breaks at a blank, which is left out with those before it. -/
theorem breakLine_drop (h : Took limit isBlank pieces cells w) (hfull : limit ≤ w.width)
    (hline : w.line ≠ []) (hblank : isBlank c = true) (hword : w.word = [])
    (hnone : (w.breakLine limit).blanks = []) :
    Took limit isBlank (pieces ++ [⟨w.line, (w.finished limit).gap ++ [c]⟩]) (cells ++ [c])
      (w.breakLine limit) := by
  have hpending : (w.breakLine limit).pending = [] := by
    rw [pending, hnone]
    exact hword
  have hfinished : (w.finished limit).whole = w.pending := by
    rw [← w.whole_finished_append limit, hpending, List.append_nil]
  have hwhole : (⟨w.line, (w.finished limit).gap ++ [c]⟩ : Piece α).whole = w.pending ++ [c] := by
    rw [← hfinished, Piece.whole, Piece.whole, List.append_assoc]
    rfl
  constructor
  case laidOut =>
    refine h.laidOut_concat hline fun b hb => ?_
    rcases List.mem_append.mp hb with hb | hb
    · exact h.blanks b (List.mem_of_mem_take hb)
    · exact List.mem_singleton.mp hb ▸ hblank
  case lines =>
    rw [breakLine, List.reverse_cons, h.lines, List.map_append]
    rfl
  case text => rw [hpending, ← h.text, Piece.text_append, Piece.text_cons, hwhole]; simp
  case blanks => simp [hnone]
  case width =>
    rw [← length_pending, hpending]
    exact Nat.zero_le _
  case wide =>
    intro p hp
    rw [List.getLast?_concat] at hp
    cases hp
    rw [hwhole, List.length_append, length_pending]
    exact Nat.lt_of_lt_of_le (Nat.lt_succ_of_le hfull) (Nat.le_add_right _ _)

/-- One more cell is taken. -/
theorem step (hlimit : 0 < limit) (h : Took limit isBlank pieces cells w) (c : α) :
    ∃ pieces', Took limit isBlank pieces' (cells ++ [c]) (w.step limit isBlank c) := by
  unfold Wrapping.step
  extract_lets settled broken
  have hsettled : Took limit isBlank pieces cells settled := by
    unfold settled
    split
    · exact h.settle
    · exact h
  have hword : isBlank c = true → settled.word = [] := by
    unfold settled
    split
    · exact fun _ => rfl
    · rename_i hsettles
      exact (of_not_settles hsettles).1
  -- A line is full only with what has settled on it.
  have hline : limit ≤ settled.width → settled.line ≠ [] := by
    unfold settled
    intro hfull hempty
    split at hfull
    · rename_i hsettles
      rw [if_pos hsettles] at hempty
      have hnone : w.width = 0 := by rw [← length_pending, ← line_settle, hempty, List.length_nil]
      rw [width_settle] at hfull
      omega
    · rename_i hsettles
      rw [if_neg hsettles] at hempty
      exact absurd ((of_not_settles hsettles).2 hempty) (Nat.not_lt.mpr hfull)
  split
  · rename_i hfull
    split
    · rename_i hdropped
      obtain ⟨hblank, hnone⟩ := Bool.and_eq_true_iff.mp hdropped
      exact ⟨_, hsettled.breakLine_drop hfull (hline hfull) hblank (hword hblank)
        (List.isEmpty_iff.mp hnone)⟩
    · exact ⟨_, hsettled.breakLine_push hfull (hline hfull) hword⟩
  · rename_i hroom
    exact ⟨_, hsettled.push (Nat.lt_of_not_le hroom) hword⟩

theorem foldl (hlimit : 0 < limit) (h : Took limit isBlank pieces cells w) (more : List α) :
    ∃ pieces', Took limit isBlank pieces' (cells ++ more)
      (more.foldl (Wrapping.step limit isBlank) w) := by
  induction more generalizing pieces cells w with
  | nil => exact ⟨pieces, by rwa [List.append_nil]⟩
  | cons c more ih =>
    obtain ⟨pieces', hstep⟩ := h.step hlimit c
    obtain ⟨pieces'', hmore⟩ := ih hstep
    exact ⟨pieces'', by rwa [List.append_assoc] at hmore⟩

/-- The line that is left at the end is the last piece. -/
theorem finish (h : Took limit isBlank pieces cells w) :
    ∃ pieces', LaidOut limit isBlank pieces' ∧ Piece.text pieces' = cells ∧
      w.finish = pieces'.map Piece.line := by
  unfold Wrapping.finish
  dsimp only
  rw [line_settle, h.lines, ← h.text]
  split
  · rename_i hempty
    refine ⟨pieces, h.laidOut, ?_, by rw [List.append_nil]⟩
    rw [List.isEmpty_iff.mp hempty, List.append_nil]
  · rename_i hne
    have hline : w.settle.line ≠ [] := fun hnone => hne (List.isEmpty_iff.mpr hnone)
    refine ⟨pieces ++ [⟨w.pending, []⟩], h.settle.laidOut_concat hline (by simp), ?_, ?_⟩
    · simp [Piece.whole]
    · rw [List.map_append]
      rfl

end Took

end Wrapping

/-- A text is wrapped by cutting it into pieces, whose lines are what is left. -/
theorem exists_pieces (hlimit : 0 < limit) (isBlank : α → Bool) (cells : List α) :
    ∃ pieces, LaidOut limit isBlank pieces ∧ Piece.text pieces = cells ∧
      wrap limit isBlank cells = pieces.map Piece.line := by
  have hempty : Wrapping.Took limit isBlank [] [] .empty := Wrapping.took_empty
  obtain ⟨pieces, htook⟩ := hempty.foldl hlimit cells
  exact htook.finish

/-! ## What comes out -/

namespace Piece

/-- The lines of several pieces, put together. -/
theorem flatten_lines_sublist (pieces : List (Piece α)) :
    (pieces.map line).flatten.Sublist (text pieces) := by
  induction pieces with
  | nil => exact .slnil
  | cons p pieces ih =>
    rw [List.map_cons, List.flatten_cons, text_cons]
    exact (List.sublist_append_left _ _).append ih

end Piece

/-- Only blanks are left out. -/
theorem LaidOut.filter_flatten (h : LaidOut limit isBlank pieces) :
    (pieces.map Piece.line).flatten.filter (!isBlank ·) =
      (Piece.text pieces).filter (!isBlank ·) := by
  have hgaps := h.gaps
  clear h
  induction pieces with
  | nil => rfl
  | cons p pieces ih =>
    obtain ⟨hgap, hgaps⟩ := List.forall_mem_cons.mp hgaps
    have hnone : p.gap.filter (!isBlank ·) = [] := by
      simpa [List.filter_eq_nil_iff] using hgap
    rw [List.map_cons, List.flatten_cons, Piece.text_cons, List.filter_append, List.filter_append,
      ih hgaps, Piece.whole, List.filter_append, hnone, List.append_nil]

/-- A cell of two texts in a row belongs to one of them. -/
theorem cell_of_append {xs ys before after : List α} (h : xs ++ ys = before ++ c :: after) :
    (∃ right, xs = before ++ c :: right ∧ after = right ++ ys) ∨
      ∃ left, before = xs ++ left ∧ ys = left ++ c :: after := by
  rcases List.append_eq_append_iff.mp h with ⟨left, hbefore, hys⟩ | ⟨right, hxs, hc⟩
  · exact .inr ⟨left, hbefore, hys⟩
  · cases right with
    | nil => exact .inr ⟨[], by simpa using hxs.symm, hc.symm⟩
    | cons d right =>
      obtain ⟨rfl, hafter⟩ := List.cons.inj hc
      exact .inl ⟨right, hxs, hafter⟩

/-- A cell that is no blank stands on the line of a piece. -/
theorem LaidOut.exists_piece (h : LaidOut limit isBlank pieces) {before after : List α}
    (htext : Piece.text pieces = before ++ c :: after) (hc : isBlank c = false) :
    ∃ above p below left right, pieces = above ++ p :: below ∧ p.line = left ++ c :: right ∧
      before = Piece.text above ++ left ∧ after = right ++ p.gap ++ Piece.text below := by
  have hgaps := h.gaps
  clear h
  induction pieces generalizing before with
  | nil => simp at htext
  | cons p pieces ih =>
    obtain ⟨hgap, hgaps⟩ := List.forall_mem_cons.mp hgaps
    rw [Piece.text_cons, Piece.whole, List.append_assoc] at htext
    rcases cell_of_append htext with ⟨right, hline, hafter⟩ | ⟨left, rfl, hrest⟩
    · exact ⟨[], p, pieces, before, right, rfl, hline, rfl, by rw [hafter, List.append_assoc]⟩
    rcases cell_of_append hrest with ⟨right, hmem, -⟩ | ⟨left, rfl, hbelow⟩
    · have hblank : isBlank c = true := hgap c (by simp [hmem])
      exact absurd (hblank.symm.trans hc) (by decide)
    obtain ⟨above, p', below, left', right, rfl, hline, rfl, hafter⟩ := ih hbelow hgaps
    refine ⟨p :: above, p', below, left', right, rfl, hline, ?_, hafter⟩
    simp [Piece.whole]

/-- The first of some pieces are laid out like all of them. -/
theorem LaidOut.of_append {pieces' : List (Piece α)}
    (h : LaidOut limit isBlank (pieces ++ pieces')) : LaidOut limit isBlank pieces where
  fits p hp := h.fits p (List.mem_append_left _ hp)
  gaps p hp := h.gaps p (List.mem_append_left _ hp)
  wide := h.wide.left_of_append

/-- Each two pieces are wider than a line, so many pieces take much text. -/
theorem LaidOut.length_le (h : LaidOut limit isBlank pieces) :
    pieces.length / 2 * (limit + 1) + pieces.length % 2 ≤ (Piece.text pieces).length := by
  obtain ⟨hfits, -, hwide⟩ := h
  induction pieces using List.twoStepInduction with
  | nil => simp
  | singleton p =>
    have hpos : 0 < p.line.length := List.length_pos_of_ne_nil (hfits p (by simp)).1
    simp [Piece.whole]
    omega
  | cons_cons p p' pieces ih =>
    have hpair : limit < p.whole.length + p'.whole.length := (List.isChain_cons_cons.mp hwide).1
    have hrest := ih (fun q hq => hfits q (.tail _ (.tail _ hq))) hwide.tail.tail
    have hhalf : (pieces.length + 1 + 1) / 2 = pieces.length / 2 + 1 := by omega
    have hodd : (pieces.length + 1 + 1) % 2 = pieces.length % 2 := by omega
    simp only [List.length_cons, Piece.text_cons, List.length_append, hhalf, hodd, Nat.add_mul]
    omega

/-- The first lines take no more of the text than there is. -/
theorem LaidOut.length_le_of_le (h : LaidOut limit isBlank pieces) {n : Nat}
    (hn : n ≤ pieces.length) : n / 2 * (limit + 1) + n % 2 ≤ (Piece.text pieces).length := by
  have hsplit : pieces.take n ++ pieces.drop n = pieces := List.take_append_drop n pieces
  have hfirst : LaidOut limit isBlank (pieces.take n) := .of_append (hsplit.symm ▸ h)
  have hlength := hfirst.length_le
  rw [List.length_take_of_le hn] at hlength
  rw [← hsplit, Piece.text_append, List.length_append]
  exact Nat.le_trans hlength (Nat.le_add_right _ _)

end EntityGen.Prompt
