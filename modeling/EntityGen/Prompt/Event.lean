/-! What happens at a terminal while a prompt is open. -/

namespace EntityGen.Prompt

/-- A key, by what it stands for. -/
inductive Key where
  | char (c : Char)
  | enter
  | escape
  | backspace
  | delete
  | left
  | right
  | home
  | endOfLine
  | up
  | down
  | tab
  | backTab
  | insert
  | pageUp
  | pageDown
  | function (number : Nat)
  | null
  deriving DecidableEq, Repr

/-- The keys held down together with another. -/
structure Modifiers where
  control : Bool
  shift : Bool
  alt : Bool
  deriving DecidableEq, Repr

/-- No other key held down. -/
def Modifiers.none : Modifiers := ⟨false, false, false⟩

/-- What a key does. -/
inductive KeyMotion where
  | press
  | repeated
  | release
  deriving DecidableEq, Repr

/-- Something that happens. -/
inductive Event where
  | key (k : Key) (held : Modifiers) (motion : KeyMotion)
  | paste (text : String)
  | focusGained
  | focusLost
  | resize
  | mouse
  deriving DecidableEq, Repr

/-- A key pressed alone. -/
def Event.press (k : Key) : Event := .key k .none .press

end EntityGen.Prompt
