import EntityGen.Prompt.Editor

/-! The line as it is stored: a text in UTF-8, and a cursor that counts characters while every
change is made at a byte. A change at a byte inside a character, or beyond the text, breaks down,
which `none` stands for. `Buffer.play?` runs a whole prompt on such a line. -/

namespace EntityGen.Prompt

/-- The two parts of a text before and after a byte. -/
def splitAtByte? (text : String) (byte : Nat) : Option (String × String) :=
  if h : String.Pos.Raw.IsValid text ⟨byte⟩ then
    let place := text.pos ⟨byte⟩ h
    some ((text.sliceTo place).copy, (text.sliceFrom place).copy)
  else none

/-- Puts a character at a byte. -/
def insertAtByte? (text : String) (byte : Nat) (c : Char) : Option String :=
  (splitAtByte? text byte).map fun (before, after) => before.push c ++ after

/-- Takes away the character that begins at a byte. At the end of the text there is none. -/
def removeAtByte? (text : String) (byte : Nat) : Option String :=
  (splitAtByte? text byte).bind fun (before, after) =>
    match after.toList with
    | [] => none
    | _ :: rest => some (before ++ String.ofList rest)

/-- The bytes at which characters begin that stand in a row from a byte on. -/
def byteStarts (byte : Nat) : List Char → List Nat
  | [] => []
  | c :: cs => byte :: byteStarts (byte + c.utf8Size) cs

/-- A text and the number of its characters before the cursor. -/
structure Buffer where
  value : String
  cursor : Nat
  deriving DecidableEq, Repr

namespace Buffer

def empty : Buffer := ⟨"", 0⟩

/-- The byte at which the character after the cursor begins, or else the end of the text. -/
def byteIndex (b : Buffer) : Nat :=
  ((byteStarts 0 b.value.toList)[b.cursor]?).getD b.value.utf8ByteSize

def charCount (b : Buffer) : Nat := b.value.toList.length

def insertChar? (b : Buffer) (c : Char) : Option Buffer :=
  (insertAtByte? b.value b.byteIndex c).map (⟨·, b.cursor + 1⟩)

/-- Inserts a text on one line, a character at a time. -/
def insertText? (b : Buffer) : List Char → Option Buffer
  | [] => some b
  | c :: cs => (b.insertChar? (Editor.flatten c)).bind (·.insertText? cs)

/-- Takes away the character that begins at the cursor. -/
def removeHere? (b : Buffer) : Option Buffer :=
  (removeAtByte? b.value b.byteIndex).map (⟨·, b.cursor⟩)

def backspace? (b : Buffer) : Option Buffer :=
  if 0 < b.cursor then removeHere? ⟨b.value, b.cursor - 1⟩ else some b

def delete? (b : Buffer) : Option Buffer :=
  if b.cursor < b.charCount then b.removeHere? else some b

/-- The line after a key that leaves the prompt open. -/
def press? (b : Buffer) : Key → Option Buffer
  | .char c => b.insertChar? c
  | .backspace => b.backspace?
  | .delete => b.delete?
  | .left => some ⟨b.value, b.cursor - 1⟩
  | .right => some ⟨b.value, min (b.cursor + 1) b.charCount⟩
  | .home => some ⟨b.value, 0⟩
  | .endOfLine => some ⟨b.value, b.charCount⟩
  | _ => some b

/-- The line and its prompt after something happens. -/
def handle? (b : Buffer) : Event → Option (Buffer × Status)
  | .paste text => (b.insertText? text.toList).map (·, .editing)
  | .key k held .press =>
    if k = .enter then some (b, .submitted)
    else if Session.cancels k held then some (b, .cancelled)
    else (b.press? k).map (·, .editing)
  | _ => some (b, .editing)

/-- The two parts of the line between which the cursor is drawn. An empty line is not divided. -/
def drawn? (b : Buffer) : Option (String × String) :=
  if b.value.isEmpty then some ("", "") else splitAtByte? b.value b.byteIndex

/-- The line and its prompt after several things happen, of which the one that closes the prompt is
the last that counts. The line is drawn before each of them. -/
def play? (b : Buffer) : List Event → Option (Buffer × Status)
  | [] => b.drawn?.map fun _ => (b, .editing)
  | event :: events =>
    b.drawn?.bind fun _ => (b.handle? event).bind fun (b, status) =>
      if status = .editing then b.play? events else some (b, status)

end Buffer

end EntityGen.Prompt
