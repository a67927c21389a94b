import EntityGen.Json.Reader

/-!
# Spellings of JSON values

The grammar of JSON texts, apart from any reader. `Spells fits d text v` says that a text without
white space at its ends spells the value `v`, in which arrays and objects nest at most `d` deep and
every number is spelled by a literal that `fits`; `SpellsObject` says that a whole text spells an
object with certain members, which may repeat their keys.
-/

namespace EntityGen.Json

/-- White space, perhaps none. -/
def Spaces (cs : List Char) : Prop := ∀ c ∈ cs, isSpace c = true

/-- A text with white space around it. -/
structure Padded where
  lead : List Char
  core : List Char
  trail : List Char
  spaces_lead : Spaces lead
  spaces_trail : Spaces trail

/-- The whole of a text with white space around it. -/
def Padded.text (p : Padded) : List Char := p.lead ++ p.core ++ p.trail

theorem Padded.text_append (p : Padded) (rest : List Char) :
    p.text ++ rest = p.lead ++ (p.core ++ (p.trail ++ rest)) := by
  simp only [Padded.text, List.append_assoc]

/-! ## Strings -/

/-- How a character is written inside a string: as itself, by a letter after a backslash, or by its
code point, which beyond the first 65536 is split into a pair of surrogates. -/
inductive SpellsChar : List Char → Char → Prop where
  | plain {c : Char} (hquote : c ≠ '\x22') (hslash : c ≠ '\\') (hcontrol : 0x20 ≤ c.toNat) :
      SpellsChar [c] c
  | letter {e c : Char} (h : plainEscape? e = some c) : SpellsChar ['\\', e] c
  | unit {ds : List Char} {n : Nat} (h : fourHex? ds = some (n, []))
      (hhigh : isHighSurrogate n = false) (hlow : isLowSurrogate n = false) :
      SpellsChar ('\\' :: 'u' :: ds) (Char.ofNat n)
  | pair {ds es : List Char} {high low : Nat} (hds : fourHex? ds = some (high, []))
      (hes : fourHex? es = some (low, [])) (hhigh : isHighSurrogate high = true)
      (hlow : isLowSurrogate low = true) :
      SpellsChar ('\\' :: 'u' :: ds ++ '\\' :: 'u' :: es)
        (Char.ofNat (0x10000 + (high - 0xD800) * 0x400 + (low - 0xDC00)))

/-- How characters are written inside a string. -/
inductive SpellsChars : List Char → List Char → Prop where
  | nil : SpellsChars [] []
  | cons {text rest : List Char} {c : Char} {cs : List Char} :
      SpellsChar text c → SpellsChars rest cs → SpellsChars (text ++ rest) (c :: cs)

/-- How a string is written. -/
inductive SpellsString : List Char → String → Prop where
  | mk {body cs : List Char} : SpellsChars body cs →
      SpellsString ('\x22' :: body ++ ['\x22']) (String.ofList cs)

/-! ## Numbers -/

/-- One or more decimal digits. -/
def IsDigits (ds : List Char) : Prop := ds ≠ [] ∧ ∀ c ∈ ds, c.isDigit = true

theorem isDigits_of_all {ds : List Char} (hne : ds.isEmpty = false)
    (h : ds.all Char.isDigit = true) : IsDigits ds :=
  ⟨List.isEmpty_eq_false_iff.mp hne, List.all_eq_true.mp h⟩

/-- The digits of a whole number: a zero alone, or digits that begin with no zero. -/
def IsWhole (ds : List Char) : Prop := ds = ['0'] ∨ IsDigits ds ∧ ds.head? ≠ some '0'

/-- How the digits after the point are written, if there are any. -/
inductive SpellsFraction : List Char → Option (List Char) → Prop where
  | absent : SpellsFraction [] none
  | present {ds : List Char} (h : IsDigits ds) : SpellsFraction ('.' :: ds) (some ds)

/-- How the sign of a power of ten is written. -/
inductive SpellsSign : List Char → Bool → Prop where
  | absent : SpellsSign [] false
  | plus : SpellsSign ['+'] false
  | minus : SpellsSign ['-'] true

/-- How a power of ten is written, if there is one. -/
inductive SpellsExponent : List Char → Option Exponent → Prop where
  | absent : SpellsExponent [] none
  | present {mark : Char} {sign ds : List Char} {negative : Bool} (hmark : mark = 'e' ∨ mark = 'E')
      (hsign : SpellsSign sign negative) (hds : IsDigits ds) :
      SpellsExponent (mark :: (sign ++ ds)) (some ⟨negative, ds⟩)

/-- How a literal is written after its sign. -/
inductive SpellsUnsigned : List Char → Literal → Prop where
  | mk {fractionText exponentText : List Char} {l : Literal} (hwhole : IsWhole l.whole)
      (hfraction : SpellsFraction fractionText l.fraction)
      (hexponent : SpellsExponent exponentText l.exponent) :
      SpellsUnsigned (l.whole ++ fractionText ++ exponentText) l

/-- How a literal is written. -/
inductive SpellsNumber : List Char → Literal → Prop where
  | positive {text : List Char} {l : Literal} (hsign : l.negative = false)
      (h : SpellsUnsigned text l) : SpellsNumber text l
  | negative {text : List Char} {l : Literal} (hsign : l.negative = true)
      (h : SpellsUnsigned text l) : SpellsNumber ('-' :: text) l

/-! ## Values -/

/-- Parts between commas, or white space where there are none. -/
def between (spaces : List Char) : List (List Char) → List Char
  | [] => spaces
  | part :: parts => part ++ parts.flatMap (',' :: ·)

/-- An item of an array, and its text. -/
structure Item where
  source : Padded
  value : Json

/-- A member of an object, and the texts of its key and its value. -/
structure Member where
  keySource : Padded
  key : String
  source : Padded
  value : Json

/-- The text of a member. -/
def Member.text (m : Member) : List Char := m.keySource.text ++ ':' :: m.source.text

theorem Member.text_append (m : Member) (rest : List Char) :
    m.text ++ rest = m.keySource.lead ++
      (m.keySource.core ++ (m.keySource.trail ++ ':' :: (m.source.text ++ rest))) := by
  simp only [Member.text, Padded.text, List.append_assoc, List.cons_append]

/-- The key and the value of a member. -/
def Member.pair (m : Member) : String × Json := (m.key, m.value)

/-- The texts of values without white space at their ends. Of the members of an object only the
last of each key counts. -/
inductive Spells (fits : Literal → Prop) : Nat → List Char → Json → Prop where
  | null {d : Nat} : Spells fits d ['n', 'u', 'l', 'l'] .null
  | isTrue {d : Nat} : Spells fits d ['t', 'r', 'u', 'e'] (.bool true)
  | isFalse {d : Nat} : Spells fits d ['f', 'a', 'l', 's', 'e'] (.bool false)
  | number {d : Nat} {text : List Char} {l : Literal} (h : SpellsNumber text l) (hfits : fits l) :
      Spells fits d text (.number l.number)
  | string {d : Nat} {text : List Char} {s : String} (h : SpellsString text s) :
      Spells fits d text (.string s)
  | array {d : Nat} {spaces : List Char} {parts : List Item} (hspaces : Spaces spaces)
      (h : ∀ p ∈ parts, Spells fits d p.source.core p.value) :
      Spells fits (d + 1) ('[' :: between spaces (parts.map (·.source.text)) ++ [']'])
        (.array (parts.map (·.value)))
  | object {d : Nat} {spaces : List Char} {parts : List Member} (hspaces : Spaces spaces)
      (hkeys : ∀ p ∈ parts, SpellsString p.keySource.core p.key)
      (h : ∀ p ∈ parts, Spells fits d p.source.core p.value) :
      Spells fits (d + 1) ('\x7b' :: between spaces (parts.map (·.text)) ++ ['\x7d'])
        (.object (membersOf (parts.map (·.pair))))

/-- A text spells an object with these members in this order. Their values nest at most `d` deep. -/
def SpellsObject (fits : Literal → Prop) (d : Nat) (text : List Char)
    (members : List (String × Json)) : Prop :=
  ∃ (source : Padded) (spaces : List Char) (parts : List Member),
    text = source.text ∧ Spaces spaces ∧
    source.core = '\x7b' :: between spaces (parts.map (·.text)) ++ ['\x7d'] ∧
    (∀ p ∈ parts, SpellsString p.keySource.core p.key ∧ Spells fits d p.source.core p.value) ∧
    members = parts.map (·.pair)

variable {fits fits' : Literal → Prop} {d : Nat} {text : List Char} {v : Json}
  {members : List (String × Json)}

/-- Only the literals that are written count. -/
theorem Spells.mono (hfits : ∀ text l, SpellsNumber text l → fits l → fits' l)
    (h : Spells fits d text v) : Spells fits' d text v := by
  induction h with
  | null => exact .null
  | isTrue => exact .isTrue
  | isFalse => exact .isFalse
  | number h hl => exact .number h (hfits _ _ h hl)
  | string h => exact .string h
  | array hspaces _ ih => exact .array hspaces ih
  | object hspaces hkeys _ ih => exact .object hspaces hkeys ih

theorem SpellsObject.mono (hfits : ∀ text l, SpellsNumber text l → fits l → fits' l)
    (h : SpellsObject fits d text members) : SpellsObject fits' d text members := by
  obtain ⟨source, spaces, parts, htext, hspaces, hcore, hparts, hmembers⟩ := h
  exact ⟨source, spaces, parts, htext, hspaces, hcore,
    fun p hp => ⟨(hparts p hp).1, (hparts p hp).2.mono hfits⟩, hmembers⟩

theorem IsWhole.isDigit {ds : List Char} (h : IsWhole ds) : ∀ c ∈ ds, c.isDigit = true := by
  obtain rfl | ⟨⟨_, hdigits⟩, _⟩ := h
  · exact List.forall_mem_singleton.mpr rfl
  · exact hdigits

theorem SpellsNumber.isWhole {l : Literal} (h : SpellsNumber text l) : IsWhole l.whole := by
  cases h with
  | positive _ h | negative _ h =>
    cases h with
    | mk hwhole _ _ => exact hwhole

/-! ## How spellings begin -/

theorem SpellsString.exists_cons {s : String} (h : SpellsString text s) :
    ∃ tail, text = '\x22' :: tail := by
  cases h with
  | mk h => exact ⟨_, rfl⟩

theorem IsWhole.exists_cons {ds : List Char} (h : IsWhole ds) :
    ∃ c tail, ds = c :: tail ∧ c.isDigit = true := by
  have hdigits := h.isDigit
  obtain rfl | ⟨⟨hne, _⟩, _⟩ := h
  · exact ⟨'0', [], rfl, rfl⟩
  · obtain ⟨c, tail, rfl⟩ := List.exists_cons_of_ne_nil hne
    exact ⟨c, tail, rfl, hdigits c List.mem_cons_self⟩

theorem SpellsUnsigned.exists_cons {l : Literal} (h : SpellsUnsigned text l) :
    ∃ c tail, text = c :: tail ∧ c.isDigit = true := by
  cases h with
  | mk hwhole _ _ =>
    obtain ⟨c, tail, hds, hc⟩ := hwhole.exists_cons
    exact ⟨c, _, by rw [hds, List.cons_append, List.cons_append], hc⟩

/-- The characters that a value may begin with. -/
def beginsValue (c : Char) : Bool :=
  c.isDigit || ['n', 't', 'f', '-', '\x22', '[', '\x7b'].contains c

theorem Spells.exists_cons (h : Spells fits d text v) :
    ∃ c tail, text = c :: tail ∧ beginsValue c = true := by
  cases h with
  | null | isTrue | isFalse | array | object => exact ⟨_, _, rfl, by decide⟩
  | number h _ =>
    cases h with
    | positive _ h =>
      obtain ⟨c, tail, rfl, hc⟩ := h.exists_cons
      exact ⟨c, tail, rfl, by simp [beginsValue, hc]⟩
    | negative _ _ => exact ⟨_, _, rfl, by decide⟩
  | string h =>
    obtain ⟨tail, rfl⟩ := h.exists_cons
    exact ⟨_, _, rfl, by decide⟩

theorem not_isSpace_of_beginsValue {c : Char} (h : beginsValue c = true) : isSpace c = false := by
  refine Bool.eq_false_iff.mpr fun hspace => ?_
  simp only [isSpace, Bool.or_eq_true, beq_iff_eq] at hspace
  rcases hspace with ((rfl | rfl) | rfl) | rfl <;> exact absurd h (by decide)

end EntityGen.Json
