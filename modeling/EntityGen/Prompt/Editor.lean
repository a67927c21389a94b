import EntityGen.Prompt.Event
import EntityGen.Text.Blank

/-! Editing one line. The editor holds a text and a cursor that counts characters, and every change
is made at the cursor. `before_insert` and `after_insert` say that inserting puts the new characters
between what stands before the cursor and what stands after it. -/

namespace EntityGen.Prompt

/-- A line of text and the number of its characters before the cursor. -/
structure Editor where
  text : List Char
  cursor : Nat
  deriving DecidableEq, Repr

namespace Editor

def empty : Editor := ⟨[], 0⟩

/-- What stands before the cursor. -/
def before (e : Editor) : List Char := e.text.take e.cursor

/-- What stands after the cursor. -/
def after (e : Editor) : List Char := e.text.drop e.cursor

/-- Inserts characters before the cursor. -/
def insert (e : Editor) (cs : List Char) : Editor :=
  ⟨e.before ++ cs ++ e.after, e.cursor + cs.length⟩

/-- Takes away the character before the cursor. -/
def backspace (e : Editor) : Editor :=
  if e.cursor = 0 then e else ⟨e.text.eraseIdx (e.cursor - 1), e.cursor - 1⟩

/-- Takes away the character after the cursor. -/
def delete (e : Editor) : Editor := ⟨e.text.eraseIdx e.cursor, e.cursor⟩

def left (e : Editor) : Editor := ⟨e.text, e.cursor - 1⟩

def right (e : Editor) : Editor := ⟨e.text, min (e.cursor + 1) e.text.length⟩

def home (e : Editor) : Editor := ⟨e.text, 0⟩

def toEnd (e : Editor) : Editor := ⟨e.text, e.text.length⟩

/-- A character as it stands in one line: a line break is a space. -/
def flatten (c : Char) : Char := if c = '\n' ∨ c = '\r' then ' ' else c

/-- Inserts a text on one line. -/
def paste (e : Editor) (text : String) : Editor := e.insert (text.toList.map flatten)

/-- The line after a key that leaves the prompt open. Only some keys change it. -/
def press (e : Editor) : Key → Editor
  | .char c => e.insert [c]
  | .backspace => e.backspace
  | .delete => e.delete
  | .left => e.left
  | .right => e.right
  | .home => e.home
  | .endOfLine => e.toEnd
  | _ => e

theorem flatten_ne_break (c : Char) : flatten c ≠ '\n' ∧ flatten c ≠ '\r' := by
  unfold flatten
  split
  · decide
  · simp_all

theorem before_append_after (e : Editor) : e.before ++ e.after = e.text :=
  List.take_append_drop ..

theorem length_before {e : Editor} (h : e.cursor ≤ e.text.length) : e.before.length = e.cursor := by
  simp [before, h]

theorem before_insert {e : Editor} (cs : List Char) (h : e.cursor ≤ e.text.length) :
    (e.insert cs).before = e.before ++ cs := by
  have : e.cursor + cs.length = (e.before ++ cs).length := by simp [length_before h]
  simp only [insert, before] at this ⊢
  rw [this, List.take_left]

theorem after_insert {e : Editor} (cs : List Char) (h : e.cursor ≤ e.text.length) :
    (e.insert cs).after = e.after := by
  have : e.cursor + cs.length = (e.before ++ cs).length := by simp [length_before h]
  simp only [insert, after, before] at this ⊢
  rw [this, List.drop_left]

end Editor

/-- How far a prompt has come. -/
inductive Status where
  | editing
  | submitted
  | cancelled
  deriving DecidableEq, Repr

/-- An open or closed prompt. -/
structure Session where
  editor : Editor
  status : Status
  deriving DecidableEq, Repr

namespace Session

/-- A prompt as it opens. -/
def start : Session := ⟨.empty, .editing⟩

/-- Whether a key closes the prompt without an answer. -/
def cancels (k : Key) (held : Modifiers) : Bool :=
  k == .escape || (k == .char 'c' && held.control)

/-- The prompt after a key is pressed. -/
def press (e : Editor) (k : Key) (held : Modifiers) : Session :=
  if k = .enter then ⟨e, .submitted⟩
  else if cancels k held then ⟨e, .cancelled⟩
  else ⟨e.press k, .editing⟩

/-- The prompt after something happens. Only a key that is pressed and a text that is pasted act,
and nothing does once the prompt is closed. -/
def handle (s : Session) (event : Event) : Session :=
  match s.status, event with
  | .editing, .paste text => ⟨s.editor.paste text, .editing⟩
  | .editing, .key k held .press => press s.editor k held
  | _, _ => s

/-- The prompt after several things happen. -/
def play (s : Session) (events : List Event) : Session := events.foldl handle s

/-- The line after each event up to the one that closes the prompt. -/
def trace (s : Session) : List Event → List Editor
  | [] => []
  | event :: events =>
    let next := s.handle event
    if next.status = .editing then next.editor :: next.trace events else []

/-- The text that was submitted, if it is more than white space. -/
def entered? (s : Session) : Option String :=
  if s.status = .submitted ∧ ¬ s.editor.text.all Text.isBlank then
    some (String.ofList s.editor.text)
  else none

theorem handle_of_closed {s : Session} (h : s.status ≠ .editing) (event : Event) :
    s.handle event = s := by
  unfold handle
  split <;> simp_all

/-- Nothing happens any more at a closed prompt. -/
theorem play_of_closed {s : Session} (h : s.status ≠ .editing) (events : List Event) :
    s.play events = s := by
  induction events with
  | nil => rfl
  | cons event events ih => simpa [play, handle_of_closed h event] using ih

end Session

end EntityGen.Prompt
