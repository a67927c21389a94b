import EntityGen.Proofs.Prompt.TwoSides
import Mathlib.Data.List.Induction

/-!
# Laws of editing

What stands after any events is two sides, and there a key does and undoes what its name says: a
text that is pasted is taken away again by as many presses of Backspace (`play_backspaces`), or
passed to the other side by as many of Left (`play_lefts`) and taken away there by as many of Delete
(`play_deletes`). The stored line is what the counted one is (`buffer_play_start`), so two rows of
events that leave the same prompt leave the same stored line (`Interchangeable`). The main result is
`edits_obey_laws`.
-/

namespace EntityGen.Prompt

open Editor (flatten)

/-- The characters of a text typed one by one. -/
def typing (cs : List Char) : List Event := cs.map fun c => .press (.char c)

/-- A key pressed again and again. -/
def presses (n : Nat) (k : Key) : List Event := List.replicate n (.press k)

theorem presses_succ (n : Nat) (k : Key) :
    presses (n + 1) k = .press k :: presses n k := rfl

/-- A key that only moves the cursor. -/
def Key.isMove : Key → Bool
  | .left | .right | .home | .endOfLine => true
  | _ => false

/-- A press of a key that only moves the cursor. -/
def Event.isMove : Event → Bool
  | .key k _ .press => k.isMove
  | _ => false

namespace Sides

variable {s : Sides}

/-! ## Runs of one kind of event -/

theorem play_append (s : Sides) (events later : List Event) :
    s.play (events ++ later) =
      match s.play events with
      | (s', .editing) => s'.play later
      | closed => closed := by
  induction events generalizing s with
  | nil => rfl
  | cons event events ih =>
    rw [List.cons_append, play, play]
    rcases s.handle event with ⟨s', status⟩
    cases status with
    | editing => exact ih s'
    | submitted | cancelled => rfl

/-- After events that leave the prompt open the next ones go on from there. -/
theorem play_append_of_editing {s' : Sides} {events : List Event}
    (h : s.play events = (s', .editing)) (later : List Event) :
    s.play (events ++ later) = s'.play later := by
  rw [play_append, h]

theorem handle_char (s : Sides) (c : Char) :
    s.handle (.press (.char c)) = (s.insert [c], .editing) := by
  have hfree : ¬ (c = 'c' ∧ Modifiers.none.control = true) := fun h => nomatch h.2
  exact if_neg hfree

theorem insert_insert (s : Sides) (cs cs' : List Char) :
    (s.insert cs).insert cs' = s.insert (cs ++ cs') := by
  simp only [insert, List.append_assoc]

theorem play_typing (s : Sides) (cs : List Char) :
    s.play (typing cs) = (s.insert cs, .editing) := by
  induction cs generalizing s with
  | nil => simp [typing, play, insert]
  | cons c cs ih =>
    have hstep : s.play (typing (c :: cs)) = (s.insert [c]).play (typing cs) := by
      rw [typing, List.map_cons, play, handle_char]
      rfl
    rw [hstep, ih, insert_insert]
    rfl

theorem play_paste (s : Sides) (text : String) (later : List Event) :
    s.play (.paste text :: later) = (s.insert (text.toList.map flatten)).play later := rfl

/-- As many presses of Backspace take away what stands before the cursor. -/
theorem play_backspaces (before cs after : List Char) :
    play ⟨before ++ cs, after⟩ (presses cs.length .backspace) = (⟨before, after⟩, .editing) := by
  induction cs using List.reverseRecOn with
  | nil => simp [presses, play]
  | append_singleton cs c ih =>
    have hstep : handle ⟨before ++ (cs ++ [c]), after⟩ (.press .backspace) =
        (⟨before ++ cs, after⟩, .editing) := by
      rw [← List.append_assoc]
      simp [Event.press, handle]
    rw [List.length_append, List.length_singleton, presses_succ, play, hstep]
    exact ih

/-- As many presses of Left pass what stands before the cursor to the other side. -/
theorem play_lefts (before cs after : List Char) :
    play ⟨before ++ cs, after⟩ (presses cs.length .left) =
      (⟨before, cs ++ after⟩, .editing) := by
  induction cs using List.reverseRecOn generalizing after with
  | nil => simp [presses, play]
  | append_singleton cs c ih =>
    have hstep : handle ⟨before ++ (cs ++ [c]), after⟩ (.press .left) =
        (⟨before ++ cs, c :: after⟩, .editing) := by
      rw [← List.append_assoc]
      simp [Event.press, handle, left]
    rw [List.length_append, List.length_singleton, presses_succ, play, hstep, List.append_assoc]
    exact ih (c :: after)

/-- As many presses of Delete take away what stands after the cursor. -/
theorem play_deletes (before cs after : List Char) :
    play ⟨before, cs ++ after⟩ (presses cs.length .delete) = (⟨before, after⟩, .editing) := by
  induction cs with
  | nil => rfl
  | cons c cs ih => exact ih

theorem play_right_backspace (h : s.after ≠ []) :
    s.play [.press .right, .press .backspace] = s.play [.press .delete] := by
  obtain ⟨before, after⟩ := s
  obtain ⟨c, after, rfl⟩ := List.exists_cons_of_ne_nil h
  simp [play, Event.press, handle, right]

/-- A key that moves the cursor keeps the characters of the line. -/
theorem handle_move {event : Event} (h : event.isMove = true) :
    ∃ s', s.handle event = (s', .editing) ∧ s'.chars = s.chars := by
  obtain ⟨before, after⟩ := s
  unfold Event.isMove at h
  split at h
  · rename_i k held
    cases k with
    | left =>
      refine ⟨_, rfl, ?_⟩
      rcases List.eq_nil_or_concat before with rfl | ⟨before, c, rfl⟩
      · rfl
      · simp [left, chars]
    | right =>
      refine ⟨_, rfl, ?_⟩
      cases after with
      | nil => rfl
      | cons c after => simp [right, chars]
    | home => exact ⟨_, rfl, rfl⟩
    | endOfLine => exact ⟨_, rfl, List.append_nil _⟩
    | _ => cases h
  · cases h

theorem play_moves {moves : List Event} (h : ∀ m ∈ moves, m.isMove = true) :
    ∃ s', s.play moves = (s', .editing) ∧ s'.chars = s.chars := by
  induction moves generalizing s with
  | nil => exact ⟨s, rfl, rfl⟩
  | cons m moves ih =>
    obtain ⟨hm, hmoves⟩ := List.forall_mem_cons.mp h
    obtain ⟨s₁, hstep, hchars₁⟩ := handle_move (s := s) hm
    obtain ⟨s₂, hrun, hchars₂⟩ := ih (s := s₁) hmoves
    refine ⟨s₂, ?_, hchars₂.trans hchars₁⟩
    rw [play, hstep]
    exact hrun

end Sides

/-! ## After any events -/

/-- After some events it does not matter which of two rows of events follow: both leave the same
prompt and the same line, the counted one and the stored one. -/
structure Interchangeable (events later later' : List Event) : Prop where
  counted : Session.start.play (events ++ later) = Session.start.play (events ++ later')
  stored : Buffer.empty.play? (events ++ later) = Buffer.empty.play? (events ++ later')

/-- What follows matters only where the prompt is open, and there by what it makes of the sides. -/
theorem Interchangeable.of_play {events later later' : List Event}
    (h : ∀ s, Sides.empty.play events = (s, .editing) → s.play later = s.play later') :
    Interchangeable events later later' := by
  have hplay : Sides.empty.play (events ++ later) = Sides.empty.play (events ++ later') := by
    rw [Sides.play_append, Sides.play_append]
    split
    · rename_i s hs
      exact h s hs
    · rfl
  have hcounted : Session.start.play (events ++ later) = Session.start.play (events ++ later') := by
    rw [session_play_start, session_play_start, hplay]
  exact ⟨hcounted, by rw [buffer_play_start, buffer_play_start, hcounted]⟩

namespace Sides

variable {events : List Event}

/-- The cursor is before the end of the line where a character stands after it. -/
theorem after_ne_nil_of_cursor_lt {s : Sides} (hs : empty.play events = (s, .editing))
    (h : (Session.start.play events).editor.cursor <
      (Session.start.play events).editor.text.length) : s.after ≠ [] := by
  intro hafter
  rw [session_play_start, hs] at h
  simp [editor, chars, hafter] at h

/-- A text has as many characters on one line as it has on several. -/
theorem length_flattened (text : String) :
    (text.toList.map flatten).length = text.length := by
  rw [List.length_map, String.length_toList]

/-- A text that is pasted and then passed to the other side is taken away there. -/
theorem play_paste_lefts_deletes (s : Sides) (text : String) :
    s.play (.paste text :: (presses text.length .left ++ presses text.length .delete)) =
      (s, .editing) := by
  rw [play_paste, ← length_flattened]
  have hlefts := play_lefts s.before (text.toList.map flatten) s.after
  exact (play_append_of_editing hlefts _).trans (play_deletes s.before _ s.after)

theorem play_paste_backspaces (s : Sides) (text : String) :
    s.play (.paste text :: presses text.length .backspace) = (s, .editing) := by
  rw [play_paste, ← length_flattened]
  exact play_backspaces s.before _ s.after

theorem play_paste_append (s : Sides) (text more : String) :
    s.play [.paste (text ++ more)] = s.play [.paste text, .paste more] := by
  rw [play_paste, play_paste, play_paste, insert_insert, String.toList_append, List.map_append]

end Sides

/-- Keys that move the cursor leave the line as it was. -/
theorem text_play_moves (events : List Event) {moves : List Event}
    (h : ∀ m ∈ moves, m.isMove = true) :
    (Session.start.play (events ++ moves)).editor.text = (Session.start.play events).editor.text ∧
      (Session.start.play (events ++ moves)).status = (Session.start.play events).status := by
  rw [session_play_start, session_play_start, Sides.play_append]
  split
  · rename_i s hs
    obtain ⟨s', hplay, hchars⟩ := Sides.play_moves (s := s) h
    rw [hplay, hs]
    exact ⟨hchars, rfl⟩
  · exact ⟨rfl, rfl⟩

/-- After any events, a text that is pasted is the same as its characters typed one by one, a line
break as a space, and the same as its two parts pasted one after the other; as many presses of
Backspace as it has characters undo it, and so do as many of Left and then of Delete; before the end
of the line Delete is Right and then Backspace; and the keys that move the cursor leave the line as
it was. -/
theorem edits_obey_laws (events : List Event) (text more : String) :
    Interchangeable events [.paste text] (typing (text.toList.map flatten)) ∧
    Interchangeable events [.paste (text ++ more)] [.paste text, .paste more] ∧
    Interchangeable events (.paste text :: presses text.length .backspace) [] ∧
    Interchangeable events
      (.paste text :: (presses text.length .left ++ presses text.length .delete)) [] ∧
    ((Session.start.play events).editor.cursor < (Session.start.play events).editor.text.length →
      Interchangeable events [.press .delete] [.press .right, .press .backspace]) ∧
    ∀ moves : List Event, (∀ m ∈ moves, m.isMove = true) →
      (Session.start.play (events ++ moves)).editor.text =
        (Session.start.play events).editor.text ∧
      (Session.start.play (events ++ moves)).status = (Session.start.play events).status ∧
      ∃ b b', Buffer.empty.play? events = some (b, (Session.start.play events).status) ∧
        Buffer.empty.play? (events ++ moves) =
          some (b', (Session.start.play events).status) ∧
        b'.value = b.value := by
  refine ⟨.of_play ?_, .of_play ?_, .of_play ?_, .of_play ?_, fun hcursor => .of_play ?_, ?_⟩
  · intro s _
    rw [Sides.play_typing, Sides.play_paste]
    rfl
  · intro s _
    exact s.play_paste_append text more
  · intro s _
    exact s.play_paste_backspaces text
  · intro s _
    exact s.play_paste_lefts_deletes text
  · intro s hs
    exact (Sides.play_right_backspace (Sides.after_ne_nil_of_cursor_lt hs hcursor)).symm
  · intro moves hmoves
    obtain ⟨htext, hstatus⟩ := text_play_moves events hmoves
    have hstored := buffer_play_start (events ++ moves)
    rw [Session.stored, hstatus] at hstored
    exact ⟨htext, hstatus, _, _, buffer_play_start events, hstored, congrArg String.ofList htext⟩

/-- Laws at a line of characters of one byte up to four, with the cursor in its middle. -/
theorem laws_of_edits_between_wide_characters :
    let events : List Event := [.paste "é😀", .press .left]
    let moves : List Event := [.press .home, .press .left, .press .right, .press .endOfLine]
    (Session.start.play events).editor = ⟨['é', '😀'], 1⟩ ∧
      Session.start.play (events ++ .paste "a\r\n€" :: presses 4 .backspace) =
        Session.start.play events ∧
      Interchangeable events [.press .delete] [.press .right, .press .backspace] ∧
      (Session.start.play (events ++ moves)).editor.text = ['é', '😀'] := by
  intro events moves
  have heditor : (Session.start.play events).editor = ⟨['é', '😀'], 1⟩ := by decide
  have hlaws := edits_obey_laws events "a\r\n€" ""
  obtain ⟨-, -, hundone, -, hdelete, hmoves⟩ := hlaws
  refine ⟨heditor, ?_, hdelete (by rw [heditor]; decide), ?_⟩
  · exact hundone.counted.trans (by rw [List.append_nil])
  · rw [(hmoves moves (by decide)).1, heditor]

end EntityGen.Prompt
