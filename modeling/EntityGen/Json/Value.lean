import EntityGen.Text.Decimal

/-! JSON values. A number that is written as a whole number and fits 64 bits is kept as one; every
other number is kept as it is written. -/

namespace EntityGen

namespace Json

/-- The power of ten after a number. -/
structure Exponent where
  negative : Bool
  digits : List Char
  deriving DecidableEq, Repr

/-- A number as written: its sign and its digits before the point, after it, and of its power. -/
structure Literal where
  negative : Bool
  whole : List Char
  fraction : Option (List Char)
  exponent : Option Exponent
  deriving DecidableEq, Repr

/-- A number as read. -/
inductive Number where
  | whole (n : Int)
  | real (spelling : Literal)
  deriving DecidableEq, Repr

/-- The first number that is too large for 64 bits. -/
def wordBound : Nat := 0x10000000000000000

/-- The largest size of a negative number in 64 bits. -/
def negativeBound : Nat := 0x8000000000000000

/-- What a literal stands for. A negative zero is no whole number. -/
def Literal.number (l : Literal) : Number :=
  let n := Text.decimalValue l.whole
  if l.fraction.isSome ∨ l.exponent.isSome then .real l
  else if l.negative then
    if 0 < n ∧ n ≤ negativeBound then .whole (-n) else .real l
  else if n < wordBound then .whole n
  else .real l

def Exponent.text (e : Exponent) : String :=
  "e" ++ (if e.negative then "-" else "") ++ String.ofList e.digits

/-- The written form of a literal. -/
def Literal.text (l : Literal) : String :=
  (if l.negative then "-" else "") ++ String.ofList l.whole
    ++ (l.fraction.map fun ds => "." ++ String.ofList ds).getD ""
    ++ (l.exponent.map Exponent.text).getD ""

def Number.text : Number → String
  | .whole n => toString n
  | .real spelling => spelling.text

end Json

/-- A JSON value. The keys of an object are distinct and in the order of their first appearance. -/
inductive Json where
  | null
  | bool (b : Bool)
  | number (n : Json.Number)
  | string (s : String)
  | array (items : List Json)
  | object (members : List (String × Json))

namespace Json

/-- Sets the value of a key: in its place if the key is there, otherwise at the end. -/
def setMember {α : Type} (key : String) (value : α) : List (String × α) → List (String × α)
  | [] => [(key, value)]
  | (k, v) :: rest =>
    if k = key then (k, value) :: rest else (k, v) :: setMember key value rest

/-- The members of an object: each key where it first appears, with the value it has last. -/
def membersOf {α : Type} (spelled : List (String × α)) : List (String × α) :=
  spelled.foldl (fun found (key, value) => setMember key value found) []

theorem keys_setMember {α : Type} (key : String) (value : α) (ms : List (String × α)) :
    (setMember key value ms).map (·.1) =
      if key ∈ ms.map (·.1) then ms.map (·.1) else ms.map (·.1) ++ [key] := by
  induction ms with
  | nil => simp [setMember]
  | cons m ms ih =>
    obtain ⟨k, v⟩ := m
    by_cases h : k = key
    · simp [setMember, h]
    · have h' : ¬ key = k := fun e => h e.symm
      simp only [setMember, h, if_false, List.map_cons, ih, List.mem_cons, h', false_or]
      split <;> simp

end Json

end EntityGen
