import EntityGen.Proofs.Prompt.ShownText

/-!
# Where the cursor is shown

The cursor stands at one place of the lines that a text is wrapped to, and the screen shows it there
if its line is among the first that the box has room for (`cursor_is_shown_iff`). The box does
not scroll, so behind enough text the cursor is not shown (`cursor_may_be_below_the_box`). How much
is enough shows in the characters before it, as two pieces of a text in a row are wider than a line
(`exists_cursor_place`).
-/

namespace EntityGen.Prompt

variable {width height : Nat} {q : Question} {e : Editor} {line : List Cell} {c : Cell}

/-! ## Places of a cell -/

/-- What is unlike all that is before and after it has one place. -/
theorem eq_length_of_getElem? {α : Type} {p : α → Prop} {left right : List α} {x y : α} {n : Nat}
    (hleft : ∀ z ∈ left, ¬ p z) (hright : ∀ z ∈ right, ¬ p z) (hy : p y)
    (h : (left ++ x :: right)[n]? = some y) : n = left.length ∧ y = x := by
  rcases Nat.lt_trichotomy n left.length with hlt | rfl | hgt
  · rw [List.getElem?_append_left hlt] at h
    exact absurd hy (hleft y (List.mem_of_getElem? h))
  · rw [List.getElem?_append_right (Nat.le_refl _), Nat.sub_self, List.getElem?_cons_zero] at h
    exact ⟨rfl, (Option.some.inj h).symm⟩
  · obtain ⟨m, hm⟩ : ∃ m, n - left.length = m + 1 := ⟨n - left.length - 1, by omega⟩
    rw [List.getElem?_append_right (Nat.le_of_lt hgt), hm, List.getElem?_cons_succ] at h
    exact absurd hy (hright y (List.mem_of_getElem? h))

/-- A cell that is on one row only, and there only once, has one place. -/
theorem cellAt?_eq_some_iff {above below : List (List Cell)} {left right : List Cell}
    (habove : c ∉ above.flatten) (hleft : c ∉ left) (hright : c ∉ right)
    (hbelow : c ∉ below.flatten) (row column : Nat) :
    cellAt? (above ++ (left ++ c :: right) :: below) row column = some c ↔
      row = above.length ∧ column = left.length := by
  unfold cellAt?
  constructor
  · intro h
    obtain ⟨cells, hrow, hcolumn⟩ := Option.bind_eq_some_iff.mp h
    obtain ⟨rfl, rfl⟩ := eq_length_of_getElem? (p := (c ∈ ·))
      (fun z hz hc => habove (List.mem_flatten_of_mem hz hc))
      (fun z hz hc => hbelow (List.mem_flatten_of_mem hz hc)) (List.mem_of_getElem? hcolumn) hrow
    have hplace := eq_length_of_getElem? (p := (· = c)) (fun z hz heq => hleft (heq ▸ hz))
      (fun z hz heq => hright (heq ▸ hz)) rfl hcolumn
    exact ⟨rfl, hplace.1⟩
  · rintro ⟨rfl, rfl⟩
    simp

theorem mem_of_cellAt? {rows : List (List Cell)} {row column : Nat}
    (h : cellAt? rows row column = some c) : c ∈ rows.flatten := by
  obtain ⟨cells, hrow, hcolumn⟩ := Option.bind_eq_some_iff.mp h
  exact List.mem_flatten_of_mem (List.mem_of_getElem? hrow) (List.mem_of_getElem? hcolumn)

theorem cursorCell_notMem (h : yellow line = []) : cursorCell ∉ line := by
  intro hmem
  have hyellow : cursorCell ∈ yellow line := List.mem_filter.mpr ⟨hmem, rfl⟩
  rw [h] at hyellow
  cases hyellow

/-! ## The cursor -/

/-- The cursor stands between what is before it and something without a cursor. -/
theorem exists_shownText_eq (q : Question) (e : Editor) :
    ∃ after, shownText q e = paint .plain e.before ++ cursorCell :: after ∧ cursorCell ∉ after := by
  unfold shownText
  split
  · rename_i hempty
    refine ⟨paint .gray q.placeholder.toList, ?_, cursorCell_notMem (yellow_paint (by decide) _)⟩
    rw [Editor.before, List.isEmpty_iff.mp hempty, List.take_nil]
    rfl
  · exact ⟨_, rfl, cursorCell_notMem (yellow_plain _)⟩

/-- The cursor has one place on the lines, and the lines above it hold what is before it. -/
theorem exists_cursor_place (h : 3 ≤ width) (q : Question) (e : Editor) :
    ∃ n k, (∀ row column, cellAt? (textLines width q e) row column = some cursorCell ↔
        row = n ∧ column = k) ∧ k < width - 2 ∧
      ∀ m ≤ n, m / 2 * (width - 1) + m % 2 ≤ e.before.length := by
  obtain ⟨pieces, hpieces, htext, hlines⟩ := exists_textPieces h q e
  obtain ⟨after, hshown, hafter⟩ := exists_shownText_eq q e
  obtain ⟨above, p, below, left, right, rfl, hline, hbefore, rfl⟩ :=
    hpieces.exists_piece (htext.trans hshown) (by decide)
  have hnone : cursorCell ∉ paint .plain e.before := cursorCell_notMem (yellow_plain _)
  simp only [hbefore, List.mem_append, not_or] at hnone hafter
  obtain ⟨⟨hright, -⟩, hbelow⟩ := hafter
  refine ⟨above.length, left.length, fun row column => ?_, ?_, fun m hm => ?_⟩
  · have habove : cursorCell ∉ (above.map Piece.line).flatten := fun hc =>
      hnone.1 ((Piece.flatten_lines_sublist above).subset hc)
    have hbelow' : cursorCell ∉ (below.map Piece.line).flatten := fun hc =>
      hbelow ((Piece.flatten_lines_sublist below).subset hc)
    have hplace := cellAt?_eq_some_iff habove hnone.2 hright hbelow' row column
    rw [List.length_map] at hplace
    rwa [hlines, List.map_append, List.map_cons, hline]
  · have hfits := (hpieces.fits p (by simp)).2
    rw [hline, List.length_append, List.length_cons] at hfits
    omega
  · have hlength := congrArg List.length hbefore
    have hfilled := hpieces.of_append.length_le_of_le hm
    rw [length_paint, List.length_append] at hlength
    rw [show width - 2 + 1 = width - 1 by omega] at hfilled
    omega

/-! ## The cursor on the screen -/

/-- The border of the box and the spaces behind a line are no cursor. -/
theorem getElem?_boxRow_eq_cursor_iff {cells : List Cell} {column : Nat} :
    (boxRow width cells)[column]? = some cursorCell ↔
      ∃ k, column = k + 1 ∧ cells[k]? = some cursorCell := by
  have hspaces (n : Nat) : cursorCell ∉ paint .plain (List.replicate n ' ') ++ paint .plain ['│'] :=
    cursorCell_notMem (by rw [yellow_append, yellow_plain, yellow_plain, List.append_nil])
  cases column with
  | zero => simp [boxRow, between, paint, cursorCell]
  | succ k =>
    have hrow : (boxRow width cells)[k + 1]? =
        (cells ++ (paint .plain (List.replicate (width - 2 - cells.length) ' ') ++
          paint .plain ['│']))[k]? := by
      rw [← List.append_assoc]
      rfl
    rw [hrow]
    constructor
    · intro h
      refine ⟨k, rfl, ?_⟩
      rcases Nat.lt_or_ge k cells.length with hlt | hge
      · rwa [List.getElem?_append_left hlt] at h
      · rw [List.getElem?_append_right hge] at h
        exact absurd (List.mem_of_getElem? h) (hspaces _)
    · rintro ⟨k', hk, hcell⟩
      cases hk
      obtain ⟨hlt, -⟩ := List.getElem?_eq_some_iff.mp hcell
      rwa [List.getElem?_append_left hlt]

theorem getElem?_lineAt (n k : Nat) :
    (lineAt width q e n)[k]? = cellAt? (textLines width q e) n k := by
  unfold lineAt cellAt?
  cases (textLines width q e)[n]? <;> rfl

/-- No row above or below the box has a cursor. -/
theorem cursorCell_notMem_frame (h : 3 ≤ width) {n : Nat} (hn : n = 0 ∨ height - 3 < n)
    (hrow : (draw width height q e)[n]? = some line) : cursorCell ∉ line := by
  obtain ⟨htop, hbottom, hcontrols⟩ := yellow_frame width q
  rcases hn with rfl | hn
  · cases hrow
    exact cursorCell_notMem htop
  · obtain ⟨m, rfl⟩ := Nat.exists_eq_add_of_le hn
    rw [Nat.succ_eq_add_one, getElem?_draw_below h] at hrow
    match m, hrow with
    | 0, hrow => exact Option.some.inj hrow ▸ cursorCell_notMem hbottom
    | 1, hrow => exact Option.some.inj hrow ▸ cursorCell_notMem hcontrols

/-- The screen shows the cursor where it stands on the lines, if there is room for that line. -/
theorem cellAt?_draw_eq_cursor_iff (h : 3 ≤ width) (q : Question) (e : Editor)
    (row column : Nat) :
    cellAt? (draw width height q e) row column = some cursorCell ↔
      ∃ n k, row = n + 1 ∧ column = k + 1 ∧ n < height - 3 ∧
        cellAt? (textLines width q e) n k = some cursorCell := by
  constructor
  · intro hcell
    obtain ⟨cells, hrow, hcolumn⟩ := Option.bind_eq_some_iff.mp hcell
    by_cases hframe : row = 0 ∨ height - 3 < row
    · exact absurd (List.mem_of_getElem? hcolumn) (cursorCell_notMem_frame h hframe hrow)
    obtain ⟨n, rfl⟩ : ∃ n, row = n + 1 := Nat.exists_eq_succ_of_ne_zero fun h0 => hframe (.inl h0)
    have hn : n < height - 3 := by omega
    rw [getElem?_draw_box h q e hn] at hrow
    cases hrow
    obtain ⟨k, rfl, hline⟩ := getElem?_boxRow_eq_cursor_iff.mp hcolumn
    exact ⟨n, k, rfl, rfl, hn, by rwa [← getElem?_lineAt]⟩
  · rintro ⟨n, k, rfl, rfl, hn, hline⟩
    rw [← getElem?_lineAt] at hline
    rw [cellAt?, getElem?_draw_box h q e hn, Option.bind_some]
    exact getElem?_boxRow_eq_cursor_iff.mpr ⟨k, rfl, hline⟩

/-- After any events the cursor has one place on the wrapped lines. The screen shows it there, and
only there, just when that line is among those that the box has room for, and this is so as long as
few enough characters are before the cursor. -/
theorem cursor_is_shown_iff (events : List Event) (q : Question) (hwidth : 3 ≤ width)
    (height : Nat) :
    let e := (Session.start.play events).editor
    ∃ n k, k < width - 2 ∧
      (∀ row column, cellAt? (textLines width q e) row column = some cursorCell ↔
        row = n ∧ column = k) ∧
      (∀ row column, cellAt? (draw width height q e) row column = some cursorCell ↔
        n < height - 3 ∧ row = n + 1 ∧ column = k + 1) ∧
      (e.cursor < (height - 3) / 2 * (width - 1) + (height - 3) % 2 → n < height - 3) := by
  intro e
  obtain ⟨n, k, hplace, hk, hfilled⟩ := exists_cursor_place hwidth q e
  refine ⟨n, k, hk, hplace, fun row column => ?_, fun hcursor => ?_⟩
  · rw [cellAt?_draw_eq_cursor_iff hwidth]
    simp only [hplace]
    constructor
    · rintro ⟨_, _, hrow, hcolumn, hn, rfl, rfl⟩
      exact ⟨hn, hrow, hcolumn⟩
    · rintro ⟨hn, hrow, hcolumn⟩
      exact ⟨n, k, hrow, hcolumn, hn, rfl, rfl⟩
  · refine Nat.lt_of_not_le fun hroom => ?_
    have hbefore : e.before.length ≤ e.cursor := List.length_take_le _ _
    have := hfilled (height - 3) hroom
    omega

/-- A cursor in the middle of a text that needs more lines than there is room for. -/
theorem cursor_in_long_text_is_shown :
    let events : List Event := [.paste "to be  shown\nin lines", .press .home] ++
      List.replicate 4 (.press .right)
    let e := (Session.start.play events).editor
    3 ≤ 7 ∧ e.cursor < (6 - 3) / 2 * (7 - 1) + (6 - 3) % 2 ∧
      (textLines 7 sqlQuestion e).length = 5 ∧
      ∃ row column, cellAt? (draw 7 6 sqlQuestion e) row column = some cursorCell := by
  intro events e
  have hcursor : e.cursor < (6 - 3) / 2 * (7 - 1) + (6 - 3) % 2 := by decide
  obtain ⟨n, k, -, -, hscreen, hshown⟩ :=
    @cursor_is_shown_iff 7 events sqlQuestion (by decide) 6
  exact ⟨by decide, hcursor, by decide +kernel, n + 1, k + 1,
    (hscreen _ _).mpr ⟨hshown hcursor, rfl, rfl⟩⟩

/-- The cursor is not always on the screen: three characters before it fill a box that has room for
three lines of one. -/
theorem cursor_may_be_below_the_box :
    ¬ ∀ (events : List Event) (q : Question) (width height : Nat), 3 ≤ width → 6 ≤ height →
      ∃ row column,
        cellAt? (draw width height q (Session.start.play events).editor) row column =
          some cursorCell := by
  intro hall
  let events : List Event := List.replicate 3 (.press (.char 'a'))
  obtain ⟨row, column, hcell⟩ := hall events sqlQuestion 3 6 (by decide) (by decide)
  have hnone : yellow (draw 3 6 sqlQuestion (Session.start.play events).editor).flatten = [] := by
    decide +kernel
  exact cursorCell_notMem hnone (mem_of_cellAt? hcell)

end EntityGen.Prompt
