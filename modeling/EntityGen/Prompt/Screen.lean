import EntityGen.Prompt.Editor
import EntityGen.Prompt.Wrap

/-! The screen of a prompt: a box with the question as its title and the wrapped line inside, and a
row that names the keys. Every character fills one cell. -/

namespace EntityGen.Prompt

/-- How a cell is shown. -/
inductive Shade where
  | plain
  | bold
  | yellow
  | gray
  | green
  | cyan
  | red
  deriving DecidableEq, Repr

/-- A character on the screen. -/
structure Cell where
  char : Char
  shade : Shade
  deriving DecidableEq, Repr

/-- What a prompt asks for. -/
structure Question where
  title : String
  /-- What is shown while nothing is entered. -/
  placeholder : String
  deriving DecidableEq, Repr

/-- The question for a table definition. -/
def sqlQuestion : Question where
  title := "Please input your table DDL with semicolon at the end."
  placeholder :=
    "CREATE TABLE \x60user\x60 (\x60id\x60 int(11) NOT NULL AUTO_INCREMENT,"
      ++ "\x60name\x60 varchar(255) DEFAULT NULL,\x60age\x60 int(11) DEFAULT NULL,"
      ++ "\x60create_time\x60 datetime DEFAULT NULL,\x60update_time\x60 datetime DEFAULT NULL,"
      ++ "PRIMARY KEY (\x60id\x60)) ENGINE=InnoDB DEFAULT CHARSET=utf8mb4;"

/-- The question for a sample of an entity. -/
def sampleQuestion (name : String) : Question where
  title := "Please input " ++ name ++ " json content"
  placeholder := "\x7b\x22name\x22:\x22value\x22\x7d"

/-- The cells of a text. -/
def paint (shade : Shade) (text : List Char) : List Cell := text.map (⟨·, shade⟩)

/-- The first cells of a row, filled up with a character. -/
def fill (width : Nat) (c : Char) (row : List Cell) : List Cell :=
  (row ++ paint .plain (List.replicate (width - row.length) c)).take width

/-- The cursor. -/
def cursorCell : Cell := ⟨'█', .yellow⟩

/-- White space at which a line may break. A NO-BREAK SPACE is none. -/
def Cell.isBlank (c : Cell) : Bool := Text.isBlank c.char && c.char != '\u00a0'

/-- The line with the cursor in it, or the placeholder behind the cursor. -/
def shownText (q : Question) (e : Editor) : List Cell :=
  if e.text.isEmpty then cursorCell :: paint .gray q.placeholder.toList
  else paint .plain e.before ++ cursorCell :: paint .plain e.after

/-- A row between two ends. -/
def between (left right : Char) (row : List Cell) : List Cell :=
  paint .plain [left] ++ row ++ paint .plain [right]

/-- The upper edge of the box, with the title in it. -/
def topRow (width : Nat) (title : String) : List Cell :=
  between '┌' '┐' (fill (width - 2) '─' (paint .bold (" " ++ title ++ " ").toList))

def bottomRow (width : Nat) : List Cell := between '└' '┘' (fill (width - 2) '─' [])

/-- The row that names the keys. -/
def controlsRow (width : Nat) : List Cell :=
  fill width ' '
    (paint .green "[ENTER]".toList ++ paint .plain " Generate  ".toList
      ++ paint .cyan "[←→]".toList ++ paint .plain " Move  ".toList
      ++ paint .red "[ESC]".toList ++ paint .plain " Cancel".toList)

/-- The wrapped line. -/
def textLines (width : Nat) (q : Question) (e : Editor) : List (List Cell) :=
  wrap (width - 2) Cell.isBlank (shownText q e)

/-- The rows inside the box: the lines that fit in it, and empty ones below. -/
def boxRows (width height : Nat) (lines : List (List Cell)) : List (List Cell) :=
  ((lines ++ List.replicate (height - 3) []).take (height - 3)).map fun line =>
    between '│' '│' (fill (width - 2) ' ' line)

/-- The rows of the screen. -/
def draw (width height : Nat) (q : Question) (e : Editor) : List (List Cell) :=
  topRow width q.title :: boxRows width height (textLines width q e)
    ++ [bottomRow width, controlsRow width]

end EntityGen.Prompt
