import EntityGen.Prompt.Screen
import EntityGen.Proofs.Prompt.Wrapping
import Mathlib.Data.List.Flatten

/-!
# What the screen of a prompt shows

The box of a prompt shows the line with the cursor in it, wrapped to its width. Row by row the
screen is a title, the first of the wrapped lines, an edge and the names of the keys (`draw_eq`);
its frame is the same whatever stands on the line (`cellAt?_draw_frame`), and nothing but the cursor
is yellow (`yellow_draw_sublist`). With what wrapping leaves of a text this gives
`screen_shows_text`.
-/

namespace EntityGen.Prompt

variable {width height : Nat} {q : Question} {e : Editor} {row line : List Cell} {c : Cell}

/-- A row of the box with a line in it, filled up with spaces. -/
def boxRow (width : Nat) (line : List Cell) : List Cell :=
  between '│' '│' (line ++ paint .plain (List.replicate (width - 2 - line.length) ' '))

/-- The cell at a place of a screen, both counted from 0. -/
def cellAt? (rows : List (List Cell)) (row column : Nat) : Option Cell :=
  rows[row]?.bind (·[column]?)

/-- The yellow cells among others. -/
def yellow (cells : List Cell) : List Cell := cells.filter (·.shade = .yellow)

/-! ## Rows -/

theorem shade_of_mem_paint {shade : Shade} {text : List Char} (h : c ∈ paint shade text) :
    c.shade = shade := by
  obtain ⟨d, -, rfl⟩ := List.mem_map.mp h
  rfl

theorem length_paint (shade : Shade) (text : List Char) :
    (paint shade text).length = text.length := List.length_map ..

theorem fill_eq (d : Char) (h : row.length ≤ width) :
    fill width d row = row ++ paint .plain (List.replicate (width - row.length) d) := by
  refine List.take_of_length_le ?_
  rw [List.length_append, length_paint, List.length_replicate]
  omega

theorem length_fill (width : Nat) (d : Char) (row : List Cell) :
    (fill width d row).length = width := by
  simp only [fill, List.length_take, List.length_append, length_paint, List.length_replicate]
  omega

theorem length_between (left right : Char) (row : List Cell) :
    (between left right row).length = row.length + 2 := by
  simp [between, paint]

theorem length_boxRow (h : line.length + 2 ≤ width) : (boxRow width line).length = width := by
  rw [boxRow, length_between, List.length_append, length_paint, List.length_replicate]
  omega

theorem length_row_of_frame (h : 2 ≤ width) (q : Question) :
    (topRow width q.title).length = width ∧ (bottomRow width).length = width ∧
      (controlsRow width).length = width := by
  simp only [topRow, bottomRow, controlsRow, length_between, length_fill, and_true, and_self]
  omega

/-! ## Yellow cells -/

theorem yellow_append (cells cells' : List Cell) :
    yellow (cells ++ cells') = yellow cells ++ yellow cells' := List.filter_append ..

theorem yellow_eq_nil (h : ∀ c ∈ row, c.shade ≠ .yellow) : yellow row = [] := by
  simpa [yellow, List.filter_eq_nil_iff] using h

theorem yellow_paint {shade : Shade} (h : shade ≠ .yellow) (text : List Char) :
    yellow (paint shade text) = [] :=
  yellow_eq_nil fun _ hc => shade_of_mem_paint hc ▸ h

theorem yellow_plain (text : List Char) : yellow (paint .plain text) = [] :=
  yellow_paint (by decide) text

theorem yellow_between (left right : Char) (row : List Cell) :
    yellow (between left right row) = yellow row := by
  rw [between, yellow_append, yellow_append, yellow_plain, yellow_plain, List.nil_append,
    List.append_nil]

theorem yellow_boxRow (width : Nat) (line : List Cell) :
    yellow (boxRow width line) = yellow line := by
  rw [boxRow, yellow_between, yellow_append, yellow_plain, List.append_nil]

theorem yellow_fill (d : Char) (h : yellow row = []) : yellow (fill width d row) = [] := by
  have hsub : (yellow (fill width d row)).Sublist (yellow (row ++ paint .plain _)) :=
    (List.take_sublist _ _).filter _
  rw [yellow_append, h, yellow_plain] at hsub
  exact List.sublist_nil.mp hsub

theorem yellow_frame (width : Nat) (q : Question) :
    yellow (topRow width q.title) = [] ∧ yellow (bottomRow width) = [] ∧
      yellow (controlsRow width) = [] := by
  refine ⟨?_, ?_, ?_⟩
  · rw [topRow, yellow_between, yellow_fill]
    exact yellow_paint (by decide) _
  · rw [bottomRow, yellow_between, yellow_fill]
    rfl
  · refine yellow_fill _ ?_
    simp [yellow_append, yellow_paint]

/-- The cursor is the only yellow cell of what is shown. -/
theorem yellow_shownText (q : Question) (e : Editor) : yellow (shownText q e) = [cursorCell] := by
  have hcursor (row : List Cell) : yellow (cursorCell :: row) = cursorCell :: yellow row := rfl
  unfold shownText
  split <;> simp [yellow_append, hcursor, yellow_paint]

/-! ## Lines -/

/-- What is shown is cut into pieces whose lines fit in the box. -/
theorem exists_textPieces (h : 3 ≤ width) (q : Question) (e : Editor) :
    ∃ pieces, LaidOut (width - 2) Cell.isBlank pieces ∧ Piece.text pieces = shownText q e ∧
      textLines width q e = pieces.map Piece.line :=
  exists_pieces (Nat.sub_pos_of_lt h) _ _

theorem length_le_of_mem_textLines (h : 3 ≤ width) (hline : line ∈ textLines width q e) :
    line.length ≤ width - 2 := by
  obtain ⟨pieces, hpieces, -, hlines⟩ := exists_textPieces h q e
  rw [hlines] at hline
  obtain ⟨p, hp, rfl⟩ := List.mem_map.mp hline
  exact (hpieces.fits p hp).2

/-- The first lines, and empty ones behind them if they are too few. -/
theorem take_lines (lines : List (List Cell)) (n : Nat) :
    (lines ++ List.replicate n []).take n = (List.range n).map fun k => lines[k]?.getD [] := by
  refine List.ext_getElem (by simp) fun k hk _ => ?_
  rw [List.getElem_take, List.getElem_map, List.getElem_range]
  by_cases hlines : k < lines.length
  · rw [List.getElem_append_left hlines, List.getElem?_eq_getElem hlines, Option.getD_some]
  · rw [List.getElem_append_right (Nat.not_lt.mp hlines), List.getElem_replicate,
      List.getElem?_eq_none (Nat.not_lt.mp hlines), Option.getD_none]

/-- The line in a row of the box, which is empty behind the last one. -/
def lineAt (width : Nat) (q : Question) (e : Editor) (n : Nat) : List Cell :=
  (textLines width q e)[n]?.getD []

theorem length_lineAt (h : 3 ≤ width) (q : Question) (e : Editor) (n : Nat) :
    (lineAt width q e n).length + 2 ≤ width := by
  unfold lineAt
  cases hline : (textLines width q e)[n]? with
  | none => exact Nat.le_of_succ_le h
  | some line =>
    have hfits := length_le_of_mem_textLines h (List.mem_of_getElem? hline)
    rw [Option.getD_some]
    omega

theorem boxRows_eq (h : 3 ≤ width) (height : Nat) (q : Question) (e : Editor) :
    boxRows width height (textLines width q e) =
      (List.range (height - 3)).map fun n => boxRow width (lineAt width q e n) := by
  rw [boxRows, take_lines, List.map_map]
  refine List.map_congr_left fun n _ => ?_
  have hfits := Nat.le_sub_of_add_le (length_lineAt h q e n)
  exact congrArg (between '│' '│') (fill_eq ' ' hfits)

/-- The screen row by row. -/
theorem draw_eq (h : 3 ≤ width) (height : Nat) (q : Question) (e : Editor) :
    draw width height q e =
      topRow width q.title ::
        ((List.range (height - 3)).map fun n => boxRow width (lineAt width q e n)) ++
        [bottomRow width, controlsRow width] := by
  rw [draw, boxRows_eq h]

/-! ## Places -/

theorem getElem?_draw_box (h : 3 ≤ width) (q : Question) (e : Editor) {n : Nat}
    (hn : n < height - 3) :
    (draw width height q e)[n + 1]? = some (boxRow width (lineAt width q e n)) := by
  rw [draw_eq h, List.cons_append, List.getElem?_cons_succ, List.getElem?_append_left (by simpa)]
  simp [hn]

theorem getElem?_draw_below (h : 3 ≤ width) (q : Question) (e : Editor) (n : Nat) :
    (draw width height q e)[height - 3 + 1 + n]? = [bottomRow width, controlsRow width][n]? := by
  rw [draw_eq h, List.getElem?_append_right (by simp)]
  simp

/-- What is above and below the box is the same for each line. -/
theorem getElem?_draw_frame (h : 3 ≤ width) (q : Question) (e e' : Editor) {n : Nat}
    (hn : n = 0 ∨ height - 3 < n) : (draw width height q e)[n]? = (draw width height q e')[n]? := by
  rcases hn with rfl | hn
  · rfl
  · obtain ⟨m, rfl⟩ := Nat.exists_eq_add_of_le hn
    rw [Nat.succ_eq_add_one, getElem?_draw_below h, getElem?_draw_below h]

/-- Both ends of a row of the box are its border. -/
theorem getElem?_boxRow_ends (h : line.length + 2 ≤ width) :
    (boxRow width line)[0]? = some ⟨'│', .plain⟩ ∧
      (boxRow width line)[width - 1]? = some ⟨'│', .plain⟩ := by
  refine ⟨rfl, ?_⟩
  have hlength := length_boxRow h
  obtain ⟨cells, hcells⟩ : ∃ cells, boxRow width line = cells ++ [⟨'│', .plain⟩] := ⟨_, rfl⟩
  rw [hcells, List.length_append, List.length_singleton] at hlength
  rw [hcells, ← hlength, Nat.add_sub_cancel, List.getElem?_concat_length]

/-- The edges of the box and the rows that name the question and the keys are the same for each
line. -/
theorem cellAt?_draw_frame (h : 3 ≤ width) (q : Question) (e e' : Editor) {row column : Nat}
    (hplace : row = 0 ∨ height - 3 < row ∨ column = 0 ∨ column = width - 1) :
    cellAt? (draw width height q e) row column = cellAt? (draw width height q e') row column := by
  unfold cellAt?
  by_cases hrow : row = 0 ∨ height - 3 < row
  · rw [getElem?_draw_frame h q e e' hrow]
  · obtain ⟨n, rfl⟩ : ∃ n, row = n + 1 := Nat.exists_eq_succ_of_ne_zero fun h0 => hrow (.inl h0)
    have hn : n < height - 3 := by omega
    have hends := getElem?_boxRow_ends (length_lineAt h q e n)
    have hends' := getElem?_boxRow_ends (length_lineAt h q e' n)
    rw [getElem?_draw_box h q e hn, getElem?_draw_box h q e' hn, Option.bind_some,
      Option.bind_some]
    have hcolumn : column = 0 ∨ column = width - 1 := by omega
    rcases hcolumn with rfl | rfl
    · rw [hends.1, hends'.1]
    · rw [hends.2, hends'.2]

theorem length_draw (hwidth : 3 ≤ width) (hheight : 3 ≤ height) (q : Question) (e : Editor) :
    (draw width height q e).length = height := by
  rw [draw_eq hwidth]
  simp
  omega

theorem length_of_mem_draw (h : 3 ≤ width) (hrow : row ∈ draw width height q e) :
    row.length = width := by
  obtain ⟨htop, hbottom, hcontrols⟩ := length_row_of_frame (Nat.le_of_succ_le h) q
  rw [draw_eq h] at hrow
  simp only [List.mem_append, List.mem_cons, List.mem_map, List.not_mem_nil, or_false] at hrow
  rcases hrow with (rfl | ⟨n, -, rfl⟩) | rfl | rfl
  · exact htop
  · exact length_boxRow (length_lineAt h q e n)
  · exact hbottom
  · exact hcontrols

/-! ## The screen -/

theorem yellow_flatten_boxRows (width : Nat) (lines : List (List Cell)) :
    yellow (lines.map (boxRow width)).flatten = yellow lines.flatten := by
  induction lines with
  | nil => rfl
  | cons line lines ih =>
    rw [List.map_cons, List.flatten_cons, List.flatten_cons, yellow_append, yellow_append,
      yellow_boxRow, ih]

/-- The yellow cells of the screen are among those of the lines. -/
theorem yellow_draw_sublist (h : 3 ≤ width) (height : Nat) (q : Question) (e : Editor) :
    (yellow (draw width height q e).flatten).Sublist (yellow (textLines width q e).flatten) := by
  obtain ⟨htop, hbottom, hcontrols⟩ := yellow_frame width q
  let firstLines := (textLines width q e ++ List.replicate (height - 3) []).take (height - 3)
  have hrows : (List.range (height - 3)).map (fun n => boxRow width (lineAt width q e n)) =
      firstLines.map (boxRow width) := by
    unfold firstLines
    rw [take_lines, List.map_map]
    rfl
  have hyellow : yellow (draw width height q e).flatten = yellow firstLines.flatten := by
    rw [draw_eq h, hrows]
    simp [yellow_append, htop, hbottom, hcontrols, yellow_flatten_boxRows]
  have hall : (textLines width q e ++ List.replicate (height - 3) []).flatten =
      (textLines width q e).flatten := by
    simp
  rw [hyellow, ← hall]
  exact (List.take_sublist _ _).flatten.filter _

/-- The box shows the first lines of a text that is wrapped: no line is wider than the box, and what
is shown stands on them in its order, but for blanks that are left out where a line breaks. At most
one cell of the screen is yellow, the cursor. The edges of the box, with the title, and the row of
the keys are the same for each line and each cursor. -/
theorem screen_shows_text (hwidth : 3 ≤ width) (hheight : 6 ≤ height) (q : Question) (e : Editor) :
    let lines := textLines width q e
    let screen := draw width height q e
    (screen = topRow width q.title ::
        ((List.range (height - 3)).map fun n => boxRow width (lines[n]?.getD [])) ++
        [bottomRow width, controlsRow width] ∧
      screen.length = height ∧ ∀ row ∈ screen, row.length = width) ∧
    (∀ line ∈ lines, line.length ≤ width - 2) ∧
    lines.flatten.Sublist (shownText q e) ∧
    lines.flatten.filter (!·.isBlank) = (shownText q e).filter (!·.isBlank) ∧
    (yellow screen.flatten).Sublist [cursorCell] ∧
    ∀ (e' : Editor) (row column : Nat),
      row = 0 ∨ height - 3 < row ∨ column = 0 ∨ column = width - 1 →
      cellAt? (draw width height q e') row column = cellAt? screen row column := by
  intro lines screen
  obtain ⟨pieces, hpieces, htext, hlines⟩ := exists_textPieces hwidth q e
  have hsublist : lines.flatten.Sublist (shownText q e) := by
    rw [← htext, show lines = _ from hlines]
    exact Piece.flatten_lines_sublist pieces
  have hfilter : lines.flatten.filter (!·.isBlank) = (shownText q e).filter (!·.isBlank) := by
    rw [← htext, show lines = _ from hlines]
    exact hpieces.filter_flatten
  refine ⟨⟨draw_eq hwidth height q e, length_draw hwidth (by omega) q e,
    fun row hrow => length_of_mem_draw hwidth hrow⟩,
    fun line hline => length_le_of_mem_textLines hwidth hline, hsublist, hfilter, ?_,
    fun e' row column => cellAt?_draw_frame hwidth q e' e⟩
  rw [← yellow_shownText q e]
  exact (yellow_draw_sublist hwidth height q e).trans (hsublist.filter _)

/-- Words on lines of their own, one with the cursor in it, and blanks at the end. The box has room
for three lines of six. -/
theorem screen_shows_first_words :
    let e : Editor := ⟨"to be  shown in lines   ".toList, 4⟩
    let lines := textLines 7 sqlQuestion e
    let screen := draw 7 6 sqlQuestion e
    3 ≤ 7 ∧ 6 ≤ 6 ∧
      lines.map (fun line => String.ofList (line.map (·.char))) =
        ["to", "b█e", "shown", "in", "lines", "  "] ∧
      lines.flatten.filter (!·.isBlank) = (shownText sqlQuestion e).filter (!·.isBlank) ∧
      (yellow screen.flatten).Sublist [cursorCell] ∧
      cellAt? screen 2 2 = some cursorCell := by
  intro e lines screen
  obtain ⟨-, -, -, hfilter, hyellow, -⟩ :=
    @screen_shows_text 7 6 (by decide) (by decide) sqlQuestion e
  exact ⟨by decide, by decide, by decide +kernel, hfilter, hyellow, by decide +kernel⟩

end EntityGen.Prompt
