/-! Wrapping at words. A word that does not fit on a line goes to the next one, and a word that is
longer than a line is broken where the line is full. The white space at which a line breaks is
dropped as far as it would have filled the line, and all other white space is kept.

The cells of a text may be anything; `isBlank` tells which of them are white space. -/

namespace EntityGen.Prompt

/-- A text that is being wrapped: the finished lines with the last one first, the line that is
being filled, and the white space and the word after it that it may still take. -/
structure Wrapping (α : Type) where
  lines : List (List α)
  line : List α
  blanks : List α
  word : List α

namespace Wrapping

variable {α : Type}

def empty : Wrapping α := ⟨[], [], [], []⟩

/-- The width of the line if it takes everything. -/
def width (w : Wrapping α) : Nat := w.line.length + w.blanks.length + w.word.length

/-- Puts the word on the line. -/
def settle (w : Wrapping α) : Wrapping α := ⟨w.lines, w.line ++ w.blanks ++ w.word, [], []⟩

/-- Finishes the line. White space that would have filled it is dropped. -/
def breakLine (limit : Nat) (w : Wrapping α) : Wrapping α :=
  ⟨w.line :: w.lines, [], w.blanks.drop (limit - w.line.length), w.word⟩

/-- Takes one more cell behind the others. -/
def push (isBlank : α → Bool) (w : Wrapping α) (c : α) : Wrapping α :=
  if isBlank c then { w with blanks := w.blanks ++ [c] } else { w with word := w.word ++ [c] }

/-- Whether the word is to be put on the line before a cell: it ends there, or it fills a line. -/
def settles (limit : Nat) (isBlank : α → Bool) (w : Wrapping α) (c : α) : Bool :=
  (isBlank c && !w.word.isEmpty)
    || (w.line.isEmpty && decide (limit < w.word.length + w.blanks.length + 1))

/-- Wraps one more cell. A blank at which the line breaks is dropped with the others. -/
def step (limit : Nat) (isBlank : α → Bool) (w : Wrapping α) (c : α) : Wrapping α :=
  let settled := if w.settles limit isBlank c then w.settle else w
  if limit ≤ settled.width then
    let broken := settled.breakLine limit
    if isBlank c && broken.blanks.isEmpty then broken else broken.push isBlank c
  else settled.push isBlank c

/-- The lines when nothing follows. White space at the end belongs to the last line. -/
def finish (w : Wrapping α) : List (List α) :=
  let last := w.settle.line
  w.lines.reverse ++ if last.isEmpty then [] else [last]

end Wrapping

/-- The lines of a text in a column of a width. -/
def wrap {α : Type} (limit : Nat) (isBlank : α → Bool) (text : List α) : List (List α) :=
  (text.foldl (Wrapping.step limit isBlank) Wrapping.empty).finish

end EntityGen.Prompt
