import EntityGen.Prompt.Buffer

/-!
# A line with two sides

A line is what stands on the two sides of its cursor (`Sides`). Each key moves, adds or takes away
characters at the place where the sides meet, and both forms of the line do as the sides do: the one
that counts characters (`editor_press`) and the stored one, which changes its text at bytes
(`buffer_press`). The byte of the cursor is always where the sides meet (`byteIndex_buffer`), so no
change to the stored line ever breaks down, and after any events it is the counted one
(`buffer_play_start`).
-/

namespace EntityGen.Prompt

open Editor (flatten)

/-- What stands before the cursor and after it. -/
structure Sides where
  before : List Char
  after : List Char
  deriving DecidableEq, Repr

namespace Sides

def empty : Sides := ⟨[], []⟩

/-- The characters of the line. -/
def chars (s : Sides) : List Char := s.before ++ s.after

/-- Adds characters before the cursor. -/
def insert (s : Sides) (cs : List Char) : Sides := ⟨s.before ++ cs, s.after⟩

/-- Moves one character from before the cursor to after it, if there is one. -/
def left (s : Sides) : Sides :=
  match s.before.getLast? with
  | none => s
  | some c => ⟨s.before.dropLast, c :: s.after⟩

/-- Moves one character from after the cursor to before it, if there is one. -/
def right (s : Sides) : Sides :=
  match s.after with
  | [] => s
  | c :: cs => ⟨s.before ++ [c], cs⟩

/-- The sides after a key that leaves the prompt open. -/
def press (s : Sides) : Key → Sides
  | .char c => s.insert [c]
  | .backspace => ⟨s.before.dropLast, s.after⟩
  | .delete => ⟨s.before, s.after.tail⟩
  | .left => s.left
  | .right => s.right
  | .home => ⟨[], s.chars⟩
  | .endOfLine => ⟨s.chars, []⟩
  | _ => s

@[simp] theorem press_char (s : Sides) (c : Char) : s.press (.char c) = s.insert [c] := rfl

@[simp] theorem press_backspace (s : Sides) :
    s.press .backspace = ⟨s.before.dropLast, s.after⟩ := rfl

@[simp] theorem press_delete (s : Sides) : s.press .delete = ⟨s.before, s.after.tail⟩ := rfl

@[simp] theorem press_left (s : Sides) : s.press .left = s.left := rfl

@[simp] theorem press_right (s : Sides) : s.press .right = s.right := rfl

@[simp] theorem press_home (s : Sides) : s.press .home = ⟨[], s.chars⟩ := rfl

@[simp] theorem press_endOfLine (s : Sides) : s.press .endOfLine = ⟨s.chars, []⟩ := rfl

/-- The sides and the prompt after something happens. -/
def handle (s : Sides) : Event → Sides × Status
  | .paste text => (s.insert (text.toList.map flatten), .editing)
  | .key .enter _ .press => (s, .submitted)
  | .key .escape _ .press => (s, .cancelled)
  | .key (.char c) held .press =>
    if c = 'c' ∧ held.control then (s, .cancelled) else (s.insert [c], .editing)
  | .key k _ .press => (s.press k, .editing)
  | _ => (s, .editing)

/-- The sides and the prompt after several things happen, up to the one that closes the prompt. -/
def play (s : Sides) : List Event → Sides × Status
  | [] => (s, .editing)
  | event :: events =>
    match s.handle event with
    | (s, .editing) => s.play events
    | closed => closed

/-- The line with a cursor that counts characters. -/
def editor (s : Sides) : Editor := ⟨s.chars, s.before.length⟩

/-- The line as it is stored. -/
def buffer (s : Sides) : Buffer := ⟨String.ofList s.chars, s.before.length⟩

variable {s : Sides} {cs : List Char}

/-! ## The line that counts characters -/

theorem editor_insert (cs : List Char) : s.editor.insert cs = (s.insert cs).editor := by
  simp [editor, Editor.insert, Editor.before, Editor.after, insert, chars]

theorem editor_backspace : s.editor.backspace = (s.press .backspace).editor := by
  obtain ⟨before, after⟩ := s
  rcases List.eq_nil_or_concat before with rfl | ⟨before, c, rfl⟩
  · rfl
  · simp [editor, Editor.backspace, chars, List.eraseIdx_append_of_length_le]

theorem editor_delete : s.editor.delete = (s.press .delete).editor := by
  obtain ⟨before, _ | ⟨c, after⟩⟩ := s
  · simp [editor, Editor.delete, chars, List.eraseIdx_of_length_le]
  · simp [editor, Editor.delete, chars, List.eraseIdx_append_of_length_le]

theorem editor_left : s.editor.left = s.left.editor := by
  obtain ⟨before, after⟩ := s
  rcases List.eq_nil_or_concat before with rfl | ⟨before, c, rfl⟩
  · rfl
  · simp [editor, Editor.left, left, chars]

theorem editor_right : s.editor.right = s.right.editor := by
  obtain ⟨before, _ | ⟨c, after⟩⟩ := s
  · simp [editor, Editor.right, right, chars]
  · simp [editor, Editor.right, right, chars]

theorem editor_toEnd : s.editor.toEnd = (s.press .endOfLine).editor := by
  simp [editor, Editor.toEnd, chars]

theorem editor_press (s : Sides) (k : Key) : s.editor.press k = (s.press k).editor := by
  cases k with
  | char c => exact editor_insert [c]
  | backspace => exact editor_backspace
  | delete => exact editor_delete
  | left => exact editor_left
  | right => exact editor_right
  | home => rfl
  | endOfLine => exact editor_toEnd
  | _ => rfl

/-! ## The stored line -/

theorem splitAtByte?_append (before after : String) :
    splitAtByte? (before ++ after) before.utf8ByteSize = some (before, after) := by
  have hvalid : String.Pos.Raw.IsValid (before ++ after) ⟨before.utf8ByteSize⟩ :=
    String.Pos.Raw.isValid_rawEndPos.append_right after
  have hsplits : ((before ++ after).pos _ hvalid).Splits before after := ⟨rfl, rfl⟩
  obtain ⟨hbefore, hafter⟩ := String.Pos.Splits.eq (String.Pos.splits _) hsplits
  simp only [splitAtByte?, dif_pos hvalid, hbefore, hafter]

theorem insertAtByte?_append (before after : String) (c : Char) :
    insertAtByte? (before ++ after) before.utf8ByteSize c = some (before.push c ++ after) := by
  rw [insertAtByte?, splitAtByte?_append, Option.map_some]

theorem removeAtByte?_append (before : String) (c : Char) (after : List Char) :
    removeAtByte? (before ++ String.ofList (c :: after)) before.utf8ByteSize =
      some (before ++ String.ofList after) := by
  simp only [removeAtByte?, splitAtByte?_append, Option.bind_some, String.toList_ofList]

/-- Where the text after `before` begins: at its first character, or at the end if it has none. -/
theorem getD_byteStarts (byte : Nat) (before after : List Char) :
    ((byteStarts byte (before ++ after))[before.length]?).getD
        (byte + (String.ofList (before ++ after)).utf8ByteSize) =
      byte + (String.ofList before).utf8ByteSize := by
  induction before generalizing byte with
  | nil => cases after <;> simp [byteStarts]
  | cons c before ih =>
    have hsize (cs : List Char) : (String.ofList (c :: cs)).utf8ByteSize =
        c.utf8Size + (String.ofList cs).utf8ByteSize := by
      rw [String.ofList_cons, String.utf8ByteSize_append, String.utf8ByteSize_singleton]
    simp only [List.cons_append, byteStarts, List.length_cons, List.getElem?_cons_succ, hsize,
      ← Nat.add_assoc]
    exact ih (byte + c.utf8Size)

theorem byteIndex_buffer (s : Sides) :
    s.buffer.byteIndex = (String.ofList s.before).utf8ByteSize := by
  simpa [Buffer.byteIndex, buffer, chars] using getD_byteStarts 0 s.before s.after

theorem value_buffer (s : Sides) :
    s.buffer.value = String.ofList s.before ++ String.ofList s.after := String.ofList_append ..

theorem charCount_buffer (s : Sides) : s.buffer.charCount = s.chars.length := by
  rw [Buffer.charCount, buffer, String.toList_ofList]

theorem buffer_insertChar (s : Sides) (c : Char) :
    s.buffer.insertChar? c = some (s.insert [c]).buffer := by
  rw [Buffer.insertChar?, byteIndex_buffer, value_buffer, insertAtByte?_append, Option.map_some]
  simp [buffer, insert, chars, ← String.append_singleton, String.append_assoc]

theorem buffer_insertText (s : Sides) (cs : List Char) :
    s.buffer.insertText? cs = some (s.insert (cs.map flatten)).buffer := by
  induction cs generalizing s with
  | nil => simp [Buffer.insertText?, insert]
  | cons c cs ih =>
    rw [Buffer.insertText?, buffer_insertChar, Option.bind_some, ih]
    simp [insert]

/-- The character after the cursor is taken away. -/
theorem removeHere_buffer (before : List Char) (c : Char) (after : List Char) :
    (buffer ⟨before, c :: after⟩).removeHere? = some (buffer ⟨before, after⟩) := by
  rw [Buffer.removeHere?, byteIndex_buffer, value_buffer, removeAtByte?_append, Option.map_some]
  simp [buffer, chars]

theorem buffer_backspace (s : Sides) :
    s.buffer.backspace? = some (s.press .backspace).buffer := by
  obtain ⟨before, after⟩ := s
  rcases List.eq_nil_or_concat before with rfl | ⟨before, c, rfl⟩
  · rfl
  · have hback : (⟨(buffer ⟨before ++ [c], after⟩).value, before.length⟩ : Buffer) =
        buffer ⟨before, c :: after⟩ := by simp [buffer, chars]
    have hcursor : (buffer ⟨before ++ [c], after⟩).cursor = before.length + 1 := by simp [buffer]
    rw [List.concat_eq_append, Buffer.backspace?, hcursor, if_pos (Nat.succ_pos _),
      Nat.add_sub_cancel, hback, removeHere_buffer]
    simp

theorem buffer_delete (s : Sides) : s.buffer.delete? = some (s.press .delete).buffer := by
  obtain ⟨before, _ | ⟨c, after⟩⟩ := s
  · rw [Buffer.delete?, charCount_buffer, if_neg (by simp [buffer, chars])]
    rfl
  · rw [Buffer.delete?, charCount_buffer, if_pos (by simp [buffer, chars]), removeHere_buffer]
    rfl

theorem buffer_press (s : Sides) (k : Key) : s.buffer.press? k = some (s.press k).buffer := by
  have hmove {e : Editor} {s' : Sides} (h : e = s'.editor) :
      (⟨String.ofList e.text, e.cursor⟩ : Buffer) = s'.buffer := by rw [h]; rfl
  cases k with
  | char c => exact buffer_insertChar s c
  | backspace => exact buffer_backspace s
  | delete => exact buffer_delete s
  | left => exact congrArg some (hmove editor_left)
  | right =>
    have hright : s.buffer.press? .right =
        some ⟨s.buffer.value, min (s.buffer.cursor + 1) s.buffer.charCount⟩ := rfl
    rw [hright, charCount_buffer]
    exact congrArg some (hmove editor_right)
  | home => rfl
  | endOfLine =>
    have hend : s.buffer.press? .endOfLine = some ⟨s.buffer.value, s.buffer.charCount⟩ := rfl
    rw [hend, charCount_buffer]
    exact congrArg some (hmove editor_toEnd)
  | _ => rfl

/-! ## A whole prompt -/

theorem handle_key (s : Sides) (k : Key) (held : Modifiers) :
    s.handle (.key k held .press) =
      if k = .enter then (s, .submitted)
      else if Session.cancels k held then (s, .cancelled)
      else (s.press k, .editing) := by
  cases k with
  | char c =>
    have hhandle : s.handle (.key (.char c) held .press) =
        if c = 'c' ∧ held.control = true then (s, .cancelled) else (s.insert [c], .editing) := rfl
    have hcancels : Session.cancels (.char c) held = true ↔ c = 'c' ∧ held.control = true := by
      simp [Session.cancels]
    simp only [hhandle, hcancels, reduceCtorEq, if_false, press_char]
  | _ => rfl

theorem session_handle (s : Sides) (event : Event) :
    Session.handle ⟨s.editor, .editing⟩ event =
      ⟨(s.handle event).1.editor, (s.handle event).2⟩ := by
  cases event with
  | paste text =>
    simp only [Session.handle, handle, Editor.paste, editor_insert]
  | key k held motion =>
    cases motion with
    | press =>
      simp only [Session.handle, Session.press, handle_key, editor_press]
      split
      · rfl
      · split <;> rfl
    | repeated | release => cases k <;> rfl
  | focusGained | focusLost | resize | mouse => rfl

theorem buffer_handle (s : Sides) (event : Event) :
    s.buffer.handle? event = some ((s.handle event).1.buffer, (s.handle event).2) := by
  cases event with
  | paste text => simp only [Buffer.handle?, buffer_insertText, handle, Option.map_some]
  | key k held motion =>
    cases motion with
    | press =>
      simp only [Buffer.handle?, handle_key, buffer_press, Option.map_some]
      split
      · rfl
      · split <;> rfl
    | repeated | release => cases k <;> rfl
  | focusGained | focusLost | resize | mouse => rfl

theorem drawn_buffer (s : Sides) :
    s.buffer.drawn? = some (String.ofList s.before, String.ofList s.after) := by
  by_cases hempty : s.chars = []
  · obtain ⟨hbefore, hafter⟩ := List.append_eq_nil_iff.mp hempty
    simp [Buffer.drawn?, buffer, hempty, hbefore, hafter]
  · have hvalue : s.buffer.value.isEmpty = false := by simpa [buffer] using hempty
    rw [Buffer.drawn?, hvalue, if_neg (by decide), byteIndex_buffer, value_buffer,
      splitAtByte?_append]

theorem session_play (s : Sides) (events : List Event) :
    Session.play ⟨s.editor, .editing⟩ events =
      ⟨(s.play events).1.editor, (s.play events).2⟩ := by
  induction events generalizing s with
  | nil => rfl
  | cons event events ih =>
    have hstep := session_handle s event
    rw [Session.play, List.foldl_cons, ← Session.play, hstep, play]
    obtain ⟨s', status⟩ := s.handle event
    cases status with
    | editing => exact ih s'
    | submitted | cancelled => exact Session.play_of_closed (by simp) events

theorem buffer_play (s : Sides) (events : List Event) :
    s.buffer.play? events = some ((s.play events).1.buffer, (s.play events).2) := by
  induction events generalizing s with
  | nil => simp only [Buffer.play?, drawn_buffer, play, Option.map_some]
  | cons event events ih =>
    have hstep := buffer_handle s event
    rw [Buffer.play?, drawn_buffer, Option.bind_some, hstep, Option.bind_some, play]
    obtain ⟨s', status⟩ := s.handle event
    cases status with
    | editing => exact ih s'
    | submitted | cancelled => rfl

/-! ## Line breaks -/

/-- No line break stands on either side. -/
def OneLine (s : Sides) : Prop := ∀ c ∈ s.chars, c ≠ '\n' ∧ c ≠ '\r'

theorem OneLine.insert (h : s.OneLine) (hcs : ∀ c ∈ cs, c ≠ '\n' ∧ c ≠ '\r') :
    (s.insert cs).OneLine := by
  intro c hc
  simp only [Sides.insert, chars, List.append_assoc, List.mem_append] at hc
  rcases hc with hc | hc | hc
  · exact h c (List.mem_append_left _ hc)
  · exact hcs c hc
  · exact h c (List.mem_append_right _ hc)

/-- Only a character that is typed is new to a line. -/
theorem mem_chars_press {c : Char} {k : Key} (h : c ∈ (s.press k).chars) :
    c ∈ s.chars ∨ k = .char c := by
  obtain ⟨before, after⟩ := s
  cases k with
  | char d =>
    simp only [press_char, Sides.insert, chars, List.mem_append, List.mem_singleton] at h ⊢
    rcases h with (h | rfl) | h
    · exact .inl (.inl h)
    · exact .inr rfl
    · exact .inl (.inr h)
  | backspace =>
    rcases List.mem_append.mp h with h | h
    · exact .inl (List.mem_append_left _ (List.dropLast_subset before h))
    · exact .inl (List.mem_append_right _ h)
  | delete =>
    rcases List.mem_append.mp h with h | h
    · exact .inl (List.mem_append_left _ h)
    · exact .inl (List.mem_append_right _ (List.mem_of_mem_tail h))
  | left =>
    rcases List.eq_nil_or_concat before with rfl | ⟨before, d, rfl⟩
    · exact .inl h
    · simp_all [left, chars]
  | right => cases after <;> simp_all [right, chars]
  | home | endOfLine => simp_all [chars]
  | _ => exact .inl h

theorem OneLine.handle {event : Event} (h : s.OneLine)
    (hkey : ∀ c held motion, event = .key (.char c) held motion → c ≠ '\n' ∧ c ≠ '\r') :
    (s.handle event).1.OneLine := by
  cases event with
  | paste text =>
    refine h.insert fun c hc => ?_
    obtain ⟨d, -, rfl⟩ := List.mem_map.mp hc
    exact Editor.flatten_ne_break d
  | key k held motion =>
    cases motion with
    | press =>
      rw [handle_key]
      split
      · exact h
      split
      · exact h
      · intro c hc
        rcases mem_chars_press hc with hc | rfl
        · exact h c hc
        · exact hkey c held .press rfl
    | repeated | release => cases k <;> exact h
  | focusGained | focusLost | resize | mouse => exact h

theorem OneLine.play {events : List Event} (h : s.OneLine)
    (hkeys : ∀ c held motion, .key (.char c) held motion ∈ events → c ≠ '\n' ∧ c ≠ '\r') :
    (s.play events).1.OneLine := by
  induction events generalizing s with
  | nil => exact h
  | cons event events ih =>
    have hstep : (s.handle event).1.OneLine := h.handle fun c held motion heq =>
      hkeys c held motion (heq ▸ List.mem_cons_self)
    rw [Sides.play]
    generalize s.handle event = step at hstep ⊢
    obtain ⟨s', status⟩ := step
    cases status with
    | editing => exact ih hstep fun c held motion hc => hkeys c held motion (.tail _ hc)
    | submitted | cancelled => exact hstep

end Sides

/-! ## From the beginning -/

theorem session_play_start (events : List Event) :
    Session.start.play events =
      ⟨(Sides.empty.play events).1.editor, (Sides.empty.play events).2⟩ :=
  Sides.session_play .empty events

/-- What is stored of a prompt. -/
def Session.stored (s : Session) : Buffer × Status :=
  (⟨String.ofList s.editor.text, s.editor.cursor⟩, s.status)

/-- The stored line and its prompt are what the counted line and its prompt are. -/
theorem buffer_play_start (events : List Event) :
    Buffer.empty.play? events = some (Session.start.play events).stored := by
  rw [session_play_start]
  exact Sides.buffer_play .empty events

open Sides in
/-- Whatever happens at a prompt, its line is what the same events make of two sides: the text of
the line is both of them, and the cursor counts the first. The stored line never breaks down, its
cursor stands at the byte where the sides meet, and that is where it is divided to be drawn. No line
break comes into the line but by a key. -/
theorem line_refines_two_sides (events : List Event) :
    let session := Session.start.play events
    let sides := (Sides.empty.play events).1
    session.editor = ⟨sides.before ++ sides.after, sides.before.length⟩ ∧
    session.status = (Sides.empty.play events).2 ∧
    ∃ b, Buffer.empty.play? events = some (b, session.status) ∧
      b.value.toList = sides.before ++ sides.after ∧ b.cursor = sides.before.length ∧
      b.cursor ≤ b.charCount ∧
      b.byteIndex = (String.ofList sides.before).utf8ByteSize ∧
      b.drawn? = some (String.ofList sides.before, String.ofList sides.after) ∧
      ((∀ c held motion, .key (.char c) held motion ∈ events → c ≠ '\n' ∧ c ≠ '\r') →
        ∀ c ∈ b.value.toList, c ≠ '\n' ∧ c ≠ '\r') := by
  intro session sides
  have hsession : session = ⟨sides.editor, (Sides.empty.play events).2⟩ :=
    session_play .empty events
  have hchars : sides.buffer.value.toList = sides.chars := String.toList_ofList ..
  refine ⟨by rw [hsession]; rfl, by rw [hsession], sides.buffer, ?_, hchars, rfl, ?_,
    byteIndex_buffer sides, drawn_buffer sides, fun hkeys => ?_⟩
  · rw [hsession]
    exact buffer_play .empty events
  · rw [charCount_buffer]
    exact (List.length_append ..).symm ▸ Nat.le_add_right ..
  · rw [hchars]
    exact OneLine.play (fun c hc => nomatch hc) hkeys

/-- Characters of one byte up to four, taken away on both sides, and a text pasted between them. -/
theorem edited_line_has_two_sides :
    let events : List Event :=
      [.press (.char 'é'), .press (.char '😀'), .press .left, .press .backspace,
        .paste "a\r\n€", .press .home, .press .delete, .press .right]
    (∀ c held motion, .key (.char c) held motion ∈ events → c ≠ '\n' ∧ c ≠ '\r') ∧
      (Session.start.play events).editor = ⟨[' ', ' ', '€', '😀'], 1⟩ ∧
      ∃ b, Buffer.empty.play? events = some (b, .editing) ∧
        (∀ c ∈ b.value.toList, c ≠ '\n' ∧ c ≠ '\r') := by
  intro events
  have hkeys : ∀ c held motion, .key (.char c) held motion ∈ events → c ≠ '\n' ∧ c ≠ '\r' := by
    intro c held motion hc
    simp only [events, Event.press, List.mem_cons, Event.key.injEq, Key.char.injEq, reduceCtorEq,
      false_and, List.not_mem_nil, or_false] at hc
    rcases hc with ⟨rfl, -⟩ | ⟨rfl, -⟩ <;> decide
  obtain ⟨heditor, hstatus, b, hplay, -, -, -, -, -, hbreaks⟩ := line_refines_two_sides events
  refine ⟨hkeys, heditor, b, ?_, hbreaks hkeys⟩
  rw [hplay, hstatus]
  rfl

end EntityGen.Prompt
