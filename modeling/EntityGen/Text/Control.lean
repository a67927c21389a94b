/-! Control characters, and the sequences that they open on a terminal. `shown` is what is left of a
text without them. `shown_of_plain` says that a text which holds none is left as it is. -/

namespace EntityGen.Text

/-- How far a sequence that sends data to a device has been read. -/
inductive DeviceStage where
  | opened
  | parameters
  | intermediates
  | data
  deriving DecidableEq, Repr

/-- The stage after a character. Only the data can be closed by a terminator. -/
def DeviceStage.after (s : DeviceStage) (c : Char) : DeviceStage :=
  let n := c.toNat
  if s = .data ∨ n < 0x20 ∨ 0x7F ≤ n then s
  else if n < 0x30 then .intermediates
  else if s = .intermediates ∨ 0x40 ≤ n ∨ n = 0x3A then .data
  else if s = .opened ∨ n < 0x3C then .parameters
  else .data

/-- What an open control sequence waits for. -/
inductive Sequence where
  /-- The character that tells its kind. -/
  | kind
  /-- A character of ASCII from a given code on. -/
  | final (least : Nat)
  | bell
  | terminator
  /-- A terminator, once its data are reached. -/
  | device (stage : DeviceStage)
  deriving DecidableEq, Repr

/-- Whether the byte that terminates a string, 9C, is one of the later bytes of a character in
UTF-8. -/
def holdsTerminator (c : Char) : Bool :=
  let n := c.toNat
  0x80 ≤ n && n % 64 == 0x1C || 0x800 ≤ n && n / 64 % 64 == 0x1C
    || 0x10000 ≤ n && n / 4096 % 64 == 0x1C

/-- Whether a character is a control character of ASCII. -/
def isControl (c : Char) : Bool := c.toNat < 0x20 || c.toNat == 0x7F

/-- Whether a control character is white space, which is shown. -/
def isShownControl (c : Char) : Bool := ['\t', '\n', '\x0c', '\r'].contains c

namespace Sequence

/-- What a sequence of a kind waits for. A short one is closed by its kind alone. -/
def ofKind (c : Char) : Option Sequence :=
  match c with
  | '[' => some (.final 0x40)
  | ']' => some .bell
  | 'P' => some (.device .opened)
  | 'X' | '^' | '_' => some .terminator
  | c => if c.toNat < 0x30 then some (.final 0x30) else none

/-- What a sequence waits for after a character. -/
def after : Sequence → Char → Option Sequence
  | .kind, c => if isControl c || 0x7F ≤ c.toNat then some .kind else ofKind c
  | .final least, c => if least ≤ c.toNat ∧ c.toNat < 0x7F then none else some (.final least)
  | .bell, c => if c = '\x07' then none else some .bell
  | .terminator, c => if holdsTerminator c then none else some .terminator
  | .device stage, c =>
    if stage = .data ∧ holdsTerminator c then none else some (.device (stage.after c))

/-- Whether white space closes a sequence. In one that holds a text it does not. -/
def isBroken (s : Sequence) (c : Char) : Bool :=
  match s with
  | .kind | .final _ => isShownControl c
  | .bell | .terminator | .device _ => false

end Sequence

/-- What is shown of a text that stands in a sequence or in none. -/
def shownFrom : Option Sequence → List Char → List Char
  | _, [] => []
  | s?, c :: cs =>
    if c = '\x1b' then shownFrom (some .kind) cs
    else if c = '\x18' ∨ c = '\x1a' then shownFrom none cs
    else
      match s? with
      | none =>
        if isControl c && !isShownControl c then shownFrom none cs else c :: shownFrom none cs
      | some s => if s.isBroken c then c :: shownFrom none cs else shownFrom (s.after c) cs

/-- What a terminal shows of a text, without colors. -/
def shown (text : String) : String := String.ofList (shownFrom none text.toList)

theorem shownFrom_of_plain {cs : List Char} (h : ∀ c ∈ cs, isControl c = false) :
    shownFrom none cs = cs := by
  induction cs with
  | nil => rfl
  | cons c cs ih =>
    simp only [List.mem_cons, forall_eq_or_imp] at h
    obtain ⟨hc, hcs⟩ := h
    have escape : c ≠ '\x1b' := by rintro rfl; simp [isControl] at hc
    have cancel : ¬(c = '\x18' ∨ c = '\x1a') := by rintro (rfl | rfl) <;> simp [isControl] at hc
    simp [shownFrom, escape, cancel, hc, ih hcs]

theorem shown_of_plain {text : String} (h : ∀ c ∈ text.toList, isControl c = false) :
    shown text = text := by
  simp [shown, shownFrom_of_plain h]

end EntityGen.Text
