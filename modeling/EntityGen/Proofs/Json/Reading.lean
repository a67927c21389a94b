import EntityGen.Proofs.Json.Spelling

/-!
# Every spelling is read

`Reads p before a after` says that a reader finds `a` at the head of the text `before` and leaves
`after`, at whatever place the text begins. Each part of the grammar is read in front of any text
that does not run into it (`reads_readString`, `reads_numberAfter`), and so is a value by induction
on its spelling (`Spells.reads_value`): what comes after it is read by whoever asked for the value.
-/

namespace EntityGen.Json

open Reader

variable {α β : Type} {p : Reader α} {before between' after cs rest ds text spaces : List Char}
  {a : α} {b : β} {c : Char} {d n : Nat} {l : Literal} {v : Json}

/-- A reader finds `a` at the head of the text `before` and leaves the text `after`. -/
def Reads (p : Reader α) (before : List Char) (a : α) (after : List Char) : Prop :=
  ∀ place, ∃ place', p ⟨before, place⟩ = .ok (a, ⟨after, place'⟩)

namespace Reads

protected theorem pure (a : α) (cs : List Char) : Reads (pure a) cs a cs :=
  fun place => ⟨place, rfl⟩

protected theorem bind {f : α → Reader β} (hp : Reads p before a between')
    (hf : Reads (f a) between' b after) : Reads (p >>= f) before b after := by
  intro place
  obtain ⟨place₁, hp⟩ := hp place
  obtain ⟨place₂, hf⟩ := hf place₁
  exact ⟨place₂, by rw [bind_run, hp]; exact hf⟩

protected theorem map (f : α → β) (hp : Reads p before a after) :
    Reads (f <$> p) before (f a) after := hp.bind (.pure (f a) after)

protected theorem discard (hp : Reads p before a after) : Reads (discard p) before () after :=
  hp.bind (.pure () after)

protected theorem cons {q : Reader (List α)} {as : List α} (hp : Reads p before a between')
    (hq : Reads q between' as after) : Reads (do return (← p) :: (← q)) before (a :: as) after :=
  hp.bind (hq.bind (.pure (a :: as) after))

end Reads

theorem reads_peek : Reads peek cs cs.head? cs := fun place => ⟨place, rfl⟩

theorem reads_next : Reads next (c :: cs) (some c) cs := fun _ => ⟨_, rfl⟩

theorem reads_accept : Reads (accept c) (c :: cs) true cs := by
  refine reads_peek.bind ?_
  rw [if_pos (by rfl)]
  exact reads_next.bind (.pure true cs)

theorem reads_accept_false (h : cs.head? ≠ some c) : Reads (accept c) cs false cs := by
  refine reads_peek.bind ?_
  rw [if_neg h]
  exact .pure false cs

theorem reads_takeWhile {p : Char → Bool} {run : List Char} (hrun : ∀ c ∈ run, p c = true)
    (hrest : ∀ c ∈ rest.head?, p c = false) :
    Reads (Reader.takeWhile p) (run ++ rest) run rest := by
  have hstop : rest.takeWhile p = [] ∧ rest.dropWhile p = rest := by
    cases rest with
    | nil => exact ⟨rfl, rfl⟩
    | cons c rest => simp [hrest c rfl]
  intro place
  refine ⟨run.foldl Place.after place, ?_⟩
  simp only [Reader.takeWhile, List.takeWhile_append_of_pos hrun,
    List.dropWhile_append_of_pos hrun, hstop, List.append_nil]

/-- White space is passed over up to a character that is none. -/
theorem reads_peekPart (hspaces : Spaces spaces) (hcs : ∀ c ∈ cs.head?, isSpace c = false) :
    Reads peekPart (spaces ++ cs) cs.head? cs :=
  (reads_takeWhile hspaces hcs).discard.bind reads_peek

theorem reads_peekPart_cons (hspaces : Spaces spaces) (hc : isSpace c = false) :
    Reads peekPart (spaces ++ c :: cs) (some c) (c :: cs) :=
  reads_peekPart hspaces (by simpa using hc)

/-- Where a part of the text begins does not matter when it is read. -/
theorem reads_place {f : Place → Reader β} (h : ∀ place, Reads (f place) cs b after) :
    Reads ((fun s => .ok (s.place, s) : Reader Place) >>= f) cs b after :=
  fun place => h place place

/-! ## Strings -/

/-- Four hexadecimal digits, and the number that they spell. -/
theorem fourHex?_eq_some_iff : fourHex? cs = some (n, rest) ↔
    ∃ a b c d a' b' c' d', cs = a :: b :: c :: d :: rest ∧
      hexValue? a = some a' ∧ hexValue? b = some b' ∧ hexValue? c = some c' ∧
      hexValue? d = some d' ∧ n = ((a' * 16 + b') * 16 + c') * 16 + d' := by
  constructor
  · intro h
    match cs, h with
    | a :: b :: c :: d :: tail, h =>
      simp only [fourHex?, Option.bind_eq_bind, Option.bind_eq_some_iff, Option.pure_def,
        Option.some.injEq, Prod.mk.injEq] at h
      obtain ⟨a', ha, b', hb, c', hc, d', hd, hn, rfl⟩ := h
      exact ⟨a, b, c, d, a', b', c', d', rfl, ha, hb, hc, hd, hn.symm⟩
  · rintro ⟨a, b, c, d, a', b', c', d', rfl, ha, hb, hc, hd, rfl⟩
    simp [fourHex?, ha, hb, hc, hd]

theorem fourHex?_append (h : fourHex? ds = some (n, [])) (rest : List Char) :
    fourHex? (ds ++ rest) = some (n, rest) := by
  obtain ⟨a, b, c, d, a', b', c', d', rfl, hdigits⟩ := fourHex?_eq_some_iff.mp h
  exact fourHex?_eq_some_iff.mpr ⟨a, b, c, d, a', b', c', d', rfl, hdigits⟩

theorem reads_readHex (h : fourHex? ds = some (n, [])) : Reads readHex (ds ++ rest) n rest := by
  intro place
  simp only [readHex, fourHex?_append h]
  exact ⟨_, rfl⟩

theorem reads_pairMark : Reads (pairMark c) (c :: cs) () cs := by
  refine reads_peek.bind ?_
  simp only [List.head?_cons, if_true]
  exact reads_next.discard

theorem reads_readUnit (h : fourHex? ds = some (n, [])) (hhigh : isHighSurrogate n = false)
    (hlow : isLowSurrogate n = false) : Reads readUnit (ds ++ rest) (Char.ofNat n) rest := by
  refine (reads_readHex h).bind ?_
  simp only [hlow, hhigh, Bool.false_eq_true, if_false]
  exact .pure _ rest

theorem reads_readUnit_pair {es : List Char} {high low : Nat} (hds : fourHex? ds = some (high, []))
    (hes : fourHex? es = some (low, [])) (hhigh : isHighSurrogate high = true)
    (hlow : isLowSurrogate low = true) :
    Reads readUnit (ds ++ '\\' :: 'u' :: (es ++ rest))
      (Char.ofNat (0x10000 + (high - 0xD800) * 0x400 + (low - 0xDC00))) rest := by
  have hnot : isLowSurrogate high = false := by
    simp only [isHighSurrogate, isLowSurrogate, Bool.and_eq_true, Bool.and_eq_false_iff,
      decide_eq_true_eq, decide_eq_false_iff_not] at hhigh ⊢
    omega
  refine (reads_readHex hds).bind ?_
  simp only [hnot, hhigh, Bool.false_eq_true, if_false, if_true]
  refine reads_pairMark.bind (reads_pairMark.bind ((reads_readHex hes).bind ?_))
  simp only [hlow, if_true]
  exact .pure _ rest

theorem reads_readEscape_letter {e : Char} (h : plainEscape? e = some c) :
    Reads readEscape (e :: rest) c rest := by
  refine reads_peek.bind ?_
  simp only [List.head?_cons]
  split
  · contradiction
  · rename_i heq
    cases heq
    cases h
  · rename_i heq
    cases heq
    rw [h]
    exact reads_next.discard.bind (.pure c rest)

theorem reads_readEscape_unit (h : Reads readUnit cs c rest) :
    Reads readEscape ('u' :: cs) c rest := reads_peek.bind (reads_next.discard.bind h)

/-- One character of a string is read, whatever the further ones are. -/
theorem SpellsChar.reads_stringFrom (h : SpellsChar text c) (hrest : Reads (stringFrom n) cs ds rest) :
    Reads (stringFrom (n + 1)) (text ++ cs) (c :: ds) rest := by
  have hescape {escape : List Char} (hread : Reads readEscape escape c cs) :
      Reads (stringFrom (n + 1)) ('\\' :: escape) (c :: ds) rest :=
    reads_next.bind (hread.bind (hrest.bind (.pure _ rest)))
  cases h with
  | plain hquote hslash hcontrol =>
    refine reads_next.bind ?_
    split
    · contradiction
    · rename_i heq
      exact absurd (Option.some.inj heq) hquote
    · rename_i heq
      exact absurd (Option.some.inj heq) hslash
    · rename_i heq
      cases heq
      rw [if_neg (by omega)]
      exact hrest.bind (.pure _ rest)
  | letter h => exact hescape (reads_readEscape_letter h)
  | unit h hhigh hlow => exact hescape (reads_readEscape_unit (reads_readUnit h hhigh hlow))
  | pair hds hes hhigh hlow =>
    rw [List.append_assoc]
    exact hescape (reads_readEscape_unit (reads_readUnit_pair hds hes hhigh hlow))

theorem SpellsChar.length_pos (h : SpellsChar text c) : 0 < text.length := by
  cases h <;> simp

theorem SpellsChars.reads_stringFrom {body : List Char} (h : SpellsChars body cs)
    (hn : body.length < n) : Reads (stringFrom n) (body ++ '\x22' :: rest) cs rest := by
  induction h generalizing n with
  | nil =>
    obtain ⟨n, rfl⟩ : ∃ m, n = m + 1 := ⟨n - 1, by simp at hn; omega⟩
    exact reads_next.bind (.pure [] rest)
  | cons hc _ ih =>
    rw [List.length_append] at hn
    have := hc.length_pos
    obtain ⟨n, rfl⟩ : ∃ m, n = m + 1 := ⟨n - 1, by omega⟩
    rw [List.append_assoc]
    exact hc.reads_stringFrom (ih (by omega))

/-- A string is read after its opening quote. -/
theorem reads_readString {body : List Char} (h : SpellsChars body cs) :
    Reads readString (body ++ '\x22' :: rest) (String.ofList cs) rest := by
  intro place
  have hlength : body.length < (body ++ '\x22' :: rest).length + 1 := by
    rw [List.length_append]
    omega
  exact (h.reads_stringFrom hlength).map String.ofList place

/-! ## Numbers -/

theorem reads_wholeDigits (h : IsWhole ds) (hrest : ∀ c ∈ rest.head?, c.isDigit = false) :
    Reads wholeDigits (ds ++ rest) ds rest := by
  refine reads_peek.bind ?_
  obtain rfl | ⟨⟨hne, hdigits⟩, hzero⟩ := h
  · refine reads_next.discard.bind (reads_peek.bind ?_)
    cases rest with
    | nil => exact .pure _ _
    | cons c rest =>
      change Reads (if c.isDigit then failAhead .number else pure ['0']) (c :: rest) _ _
      rw [if_neg (by simp [hrest c rfl])]
      exact .pure _ _
  · obtain ⟨c, tail, rfl⟩ := List.exists_cons_of_ne_nil hne
    have hc : c.isDigit = true := hdigits c List.mem_cons_self
    simp only [List.cons_append, List.head?_cons]
    split
    · contradiction
    · rename_i heq
      exact absurd heq hzero
    · rename_i heq
      cases heq
      rw [if_pos hc]
      exact reads_takeWhile hdigits hrest

theorem reads_fractionDigits {fraction : Option (List Char)} (h : SpellsFraction text fraction)
    (hrest : ∀ c ∈ rest.head?, c.isDigit = false ∧ c ≠ '.') :
    Reads fractionDigits (text ++ rest) fraction rest := by
  cases h with
  | absent =>
    refine (reads_accept_false fun h => ?_).bind (.pure none rest)
    exact (hrest '.' h).2 rfl
  | present h =>
    refine reads_accept.bind ((reads_takeWhile h.2 fun c hc => (hrest c hc).1).bind ?_)
    rw [if_pos (by simp [h.1])]
    exact .pure _ rest

/-- A power of ten that may be read: it is not beyond the largest one, or the number is zero or the
power negative. -/
def Exponent.Fits (zero : Bool) (e : Exponent) : Prop :=
  zero = true ∨ e.negative = true ∨ exponentOverflow? e.digits = none

theorem SpellsSign.reads {f : Bool → Reader β} {sign : List Char} {negative : Bool}
    (h : SpellsSign sign negative) (hcs : ∀ c ∈ cs.head?, c.isDigit = true)
    (hf : Reads (f negative) cs b after) :
    Reads (accept '+' >>= fun plus => if plus then pure false >>= f else accept '-' >>= f)
      (sign ++ cs) b after := by
  have hnone {c : Char} (hc : c.isDigit = false) : cs.head? ≠ some c := fun h =>
    Bool.false_ne_true (hc.symm.trans (hcs c h))
  cases h with
  | absent =>
    exact (reads_accept_false (hnone rfl)).bind ((reads_accept_false (hnone rfl)).bind hf)
  | plus => exact reads_accept.bind (Reads.bind (.pure false cs) hf)
  | minus => exact (reads_accept_false (by simp)).bind (reads_accept.bind hf)

theorem reads_mark {f : Bool → Reader β} {mark : Char} (h : mark = 'e' ∨ mark = 'E')
    (hf : Reads (f true) cs b after) :
    Reads (accept 'e' >>= fun lower => if lower then pure true >>= f else accept 'E' >>= f)
      (mark :: cs) b after := by
  obtain rfl | rfl := h
  · exact reads_accept.bind (Reads.bind (.pure true cs) hf)
  · exact (reads_accept_false (by simp)).bind (reads_accept.bind hf)

theorem reads_exponent {zero : Bool} {exponent? : Option Exponent} (h : SpellsExponent text exponent?)
    (hfits : ∀ e ∈ exponent?, e.Fits zero)
    (hrest : ∀ c ∈ rest.head?, c.isDigit = false ∧ c ≠ 'e' ∧ c ≠ 'E') :
    Reads (exponent zero) (text ++ rest) exponent? rest := by
  cases h with
  | absent =>
    refine (reads_accept_false fun h => (hrest _ h).2.1 rfl).bind ?_
    refine (reads_accept_false fun h => (hrest _ h).2.2 rfl).bind ?_
    exact .pure none rest
  | @present mark sign ds negative hmark hsign hds =>
    have hfits := hfits _ rfl
    obtain ⟨c, tail, rfl⟩ := List.exists_cons_of_ne_nil hds.1
    have hc : c.isDigit = true := hds.2 c List.mem_cons_self
    rw [List.cons_append, List.append_assoc]
    refine reads_mark hmark ?_
    simp only [Bool.not_true, Bool.false_eq_true, if_false]
    have hnext : ∀ d ∈ (c :: tail ++ rest).head?, d.isDigit = true := by simpa using hc
    refine hsign.reads hnext ?_
    refine reads_place fun start => ?_
    refine reads_peek.bind ?_
    simp only [List.cons_append, List.head?_cons, hc, Bool.not_true, Bool.false_eq_true, if_false]
    refine (reads_takeWhile hds.2 fun c hc => (hrest c hc).1).bind ?_
    split
    · rename_i k hk
      obtain rfl | rfl | hnone := hfits
      · exact .pure _ rest
      · cases zero <;> exact .pure _ rest
      · exact absurd (hk.symm.trans hnone) (by simp)
    · exact .pure _ rest

/-- A literal that may be read: neither its power of ten nor the number is too large. -/
structure Literal.Fits (l : Literal) : Prop where
  number : l.tooLarge = false
  power : ∀ e ∈ l.exponent, e.Fits ((l.whole ++ l.fraction.getD []).all (· == '0'))

/-- A text that does not run on a number: it is over, or begins with what may stand after a
value. -/
def Follows (rest : List Char) : Prop :=
  ∀ c ∈ rest.head?, isSpace c = true ∨ c = ',' ∨ c = ']' ∨ c = '\x7d'

theorem Follows.not_in_number (h : Follows rest) :
    ∀ c ∈ rest.head?, c.isDigit = false ∧ c ≠ '.' ∧ c ≠ 'e' ∧ c ≠ 'E' := by
  intro c hc
  have := h c hc
  simp only [isSpace, Bool.or_eq_true, beq_iff_eq] at this
  rcases this with (((rfl | rfl) | rfl) | rfl) | rfl | rfl | rfl <;> decide

theorem SpellsFraction.head?_append {fraction : Option (List Char)}
    (h : SpellsFraction text fraction) (hc : c ∈ (text ++ rest).head?) : c ∈ rest.head? ∨ c = '.' := by
  cases h with
  | absent => exact .inl hc
  | present _ => exact .inr (Option.some.inj hc).symm

theorem SpellsExponent.head?_append {exponent? : Option Exponent}
    (h : SpellsExponent text exponent?) (hc : c ∈ (text ++ rest).head?) :
    c ∈ rest.head? ∨ c = 'e' ∨ c = 'E' := by
  cases h with
  | absent => exact .inl hc
  | present hmark _ _ => exact .inr (Option.some.inj hc ▸ hmark)

/-- What stands before a power of ten does not run on into it. -/
theorem SpellsExponent.stops_digits {exponent? : Option Exponent}
    (h : SpellsExponent text exponent?) (hrest : ∀ c ∈ rest.head?, c.isDigit = false ∧ c ≠ '.') :
    ∀ c ∈ (text ++ rest).head?, c.isDigit = false ∧ c ≠ '.' := by
  intro c hc
  obtain hc | rfl | rfl := h.head?_append hc
  · exact hrest c hc
  all_goals decide

/-- What stands before a point does not run on into it. -/
theorem SpellsFraction.stops_digits {fraction : Option (List Char)} (h : SpellsFraction text fraction)
    (hrest : ∀ c ∈ rest.head?, c.isDigit = false ∧ c ≠ '.') :
    ∀ c ∈ (text ++ rest).head?, c.isDigit = false := by
  intro c hc
  obtain hc | rfl := h.head?_append hc
  · exact (hrest c hc).1
  · rfl

theorem reads_numberAfter (h : SpellsUnsigned text l) (hfits : l.Fits) (hrest : Follows rest) :
    Reads (numberAfter l.negative) (text ++ rest) (.number l.number) rest := by
  have hrest := hrest.not_in_number
  cases h with
  | @mk fractionText exponentText _ hwhole hfraction hexponent =>
    have hpower := hexponent.stops_digits fun c hc => ⟨(hrest c hc).1, (hrest c hc).2.1⟩
    have hpoint := hfraction.stops_digits hpower
    simp only [List.append_assoc]
    refine (reads_wholeDigits hwhole hpoint).bind ((reads_fractionDigits hfraction hpower).bind ?_)
    refine (reads_exponent hexponent hfits.power fun c hc => ?_).bind ?_
    · exact ⟨(hrest c hc).1, (hrest c hc).2.2⟩
    rw [if_neg (by simp [hfits.number])]
    exact .pure _ rest

/-! ## Arrays -/

/-- A reader finds a value before any text that may follow one, and white space before it. -/
def ReadsPart (item : Reader Json) (core : List Char) (v : Json) : Prop :=
  ∀ {spaces rest : List Char}, Spaces spaces → Follows rest →
    Reads item (spaces ++ (core ++ rest)) v rest

theorem Spaces.nil : Spaces [] := fun _ hc => absurd hc List.not_mem_nil

theorem Spaces.follows (h : Spaces spaces) (hrest : Follows rest) : Follows (spaces ++ rest) := by
  cases spaces with
  | nil => exact hrest
  | cons c spaces => exact fun d hd => .inl (Option.some.inj hd ▸ h c List.mem_cons_self)

theorem follows_cons (h : c = ',' ∨ c = ']' ∨ c = '\x7d') : Follows (c :: rest) :=
  fun _ hd => .inr (Option.some.inj hd ▸ h)

theorem follows_parts (h : c = ']' ∨ c = '\x7d') (parts : List (List Char)) :
    Follows (parts.flatMap (',' :: ·) ++ c :: rest) := by
  cases parts with
  | nil => exact follows_cons (.inr h)
  | cons part parts => exact follows_cons (.inl rfl)

variable {item : Reader Json}

/-- Each part is read as its value, and begins as a value does. -/
def ReadsItems (item : Reader Json) (parts : List Item) : Prop :=
  ∀ p ∈ parts, ReadsPart item p.source.core p.value ∧
    ∃ c tail, p.source.core = c :: tail ∧ beginsValue c = true

theorem reads_items_further {parts : List Item} (rest : List Char) (h : ReadsItems item parts)
    (hspaces : Spaces spaces) (hn : parts.length < n) :
    Reads (items item false n)
      (spaces ++ ((parts.map (·.source.text)).flatMap (',' :: ·) ++ ']' :: rest))
      (parts.map (·.value)) (']' :: rest) := by
  obtain ⟨n, rfl⟩ : ∃ m, n = m + 1 := ⟨n - 1, by omega⟩
  induction parts generalizing spaces n with
  | nil => exact (reads_peekPart_cons hspaces (by decide)).bind (.pure _ _)
  | cons p parts ih =>
    obtain ⟨⟨hread, c, tail, hcore, hc⟩, h⟩ := List.forall_mem_cons.mp h
    rw [List.length_cons] at hn
    obtain ⟨n, rfl⟩ : ∃ m, n = m + 1 := ⟨n - 1, by omega⟩
    have hpart := (hread .nil (p.source.spaces_trail.follows (follows_parts (.inl rfl) _))).cons
      (ih h p.source.spaces_trail n (by omega))
    simp only [List.map_cons, List.flatMap_cons, List.append_assoc, List.cons_append,
      Padded.text_append]
    refine (reads_peekPart_cons hspaces (by decide)).bind (reads_next.discard.bind ?_)
    rw [hcore, List.cons_append] at hpart ⊢
    refine (reads_peekPart_cons p.source.spaces_lead (not_isSpace_of_beginsValue hc)).bind ?_
    split
    · contradiction
    · rename_i heq
      cases heq
      exact absurd hc (by decide)
    · exact hpart

/-- The items of an array are read after its opening bracket. -/
theorem reads_items {parts : List Item} (h : ReadsItems item parts) (hspaces : Spaces spaces)
    (hn : parts.length < n) :
    Reads (items item true n) (between spaces (parts.map (·.source.text)) ++ ']' :: rest)
      (parts.map (·.value)) (']' :: rest) := by
  obtain ⟨n, rfl⟩ : ∃ m, n = m + 1 := ⟨n - 1, by omega⟩
  cases parts with
  | nil => exact (reads_peekPart_cons hspaces (by decide)).bind (.pure _ _)
  | cons p parts =>
    obtain ⟨⟨hread, c, tail, hcore, hc⟩, h⟩ := List.forall_mem_cons.mp h
    have hpart := (hread .nil (p.source.spaces_trail.follows (follows_parts (.inl rfl) _))).cons
      (reads_items_further rest h p.source.spaces_trail (n := n) (by simpa using hn))
    simp only [List.map_cons, between, List.append_assoc, Padded.text_append]
    rw [hcore, List.cons_append] at hpart ⊢
    refine (reads_peekPart_cons p.source.spaces_lead (not_isSpace_of_beginsValue hc)).bind ?_
    split
    · contradiction
    · rename_i heq
      cases heq
      exact absurd hc (by decide)
    · exact hpart

/-! ## Objects -/

/-- Each key is read as it is written, and each value as that of its member. -/
def ReadsMembers (item : Reader Json) (parts : List Member) : Prop :=
  ∀ p ∈ parts, SpellsString p.keySource.core p.key ∧ ReadsPart item p.source.core p.value

theorem reads_member {core trail : List Char} {key : String} {source : Padded}
    (hkey : SpellsString core key) (htrail : Spaces trail) (hvalue : ReadsPart item source.core v)
    (hrest : Follows rest) :
    Reads (member item) (core ++ (trail ++ ':' :: (source.text ++ rest))) (key, v)
      (source.trail ++ rest) := by
  cases hkey with
  | mk hbody =>
    simp only [List.cons_append, List.append_assoc, List.nil_append, Padded.text_append]
    refine reads_next.discard.bind ((reads_readString hbody).bind ?_)
    refine (reads_peekPart_cons htrail (by decide)).bind (reads_next.discard.bind ?_)
    exact (hvalue source.spaces_lead (source.spaces_trail.follows hrest)).bind (.pure _ _)

theorem reads_members_further {parts : List Member} (rest : List Char) (h : ReadsMembers item parts)
    (hspaces : Spaces spaces) (hn : parts.length < n) :
    Reads (members item false n)
      (spaces ++ ((parts.map (·.text)).flatMap (',' :: ·) ++ '\x7d' :: rest))
      (parts.map (·.pair)) ('\x7d' :: rest) := by
  obtain ⟨n, rfl⟩ : ∃ m, n = m + 1 := ⟨n - 1, by omega⟩
  induction parts generalizing spaces n with
  | nil => exact (reads_peekPart_cons hspaces (by decide)).bind (.pure _ _)
  | cons p parts ih =>
    obtain ⟨⟨hkey, hvalue⟩, h⟩ := List.forall_mem_cons.mp h
    rw [List.length_cons] at hn
    obtain ⟨n, rfl⟩ : ∃ m, n = m + 1 := ⟨n - 1, by omega⟩
    have hpart := (reads_member hkey p.keySource.spaces_trail hvalue
      (follows_parts (.inr rfl) _)).cons (ih h p.source.spaces_trail n (by omega))
    simp only [List.map_cons, List.flatMap_cons, List.append_assoc, List.cons_append,
      Member.text_append]
    obtain ⟨tail, hcore⟩ := hkey.exists_cons
    rw [hcore, List.cons_append] at hpart ⊢
    refine (reads_peekPart_cons hspaces (by decide)).bind (reads_next.discard.bind ?_)
    exact (reads_peekPart_cons p.keySource.spaces_lead (by decide)).bind hpart

/-- The members of an object are read after its opening brace. -/
theorem reads_members {parts : List Member} (h : ReadsMembers item parts) (hspaces : Spaces spaces)
    (hn : parts.length < n) :
    Reads (members item true n) (between spaces (parts.map (·.text)) ++ '\x7d' :: rest)
      (parts.map (·.pair)) ('\x7d' :: rest) := by
  obtain ⟨n, rfl⟩ : ∃ m, n = m + 1 := ⟨n - 1, by omega⟩
  cases parts with
  | nil => exact (reads_peekPart_cons hspaces (by decide)).bind (.pure _ _)
  | cons p parts =>
    obtain ⟨⟨hkey, hvalue⟩, h⟩ := List.forall_mem_cons.mp h
    have hpart := (reads_member hkey p.keySource.spaces_trail hvalue
      (follows_parts (.inr rfl) _)).cons
      (reads_members_further rest h p.source.spaces_trail (n := n) (by simpa using hn))
    simp only [List.map_cons, between, List.append_assoc, List.cons_append, Member.text_append]
    obtain ⟨tail, hcore⟩ := hkey.exists_cons
    rw [hcore, List.cons_append] at hpart ⊢
    exact (reads_peekPart_cons p.keySource.spaces_lead (by decide)).bind hpart

/-! ## Values -/

theorem length_le_between {texts : List (List Char)} (spaces : List Char) (h : ∀ t ∈ texts, t ≠ []) :
    texts.length ≤ (between spaces texts).length := by
  cases texts with
  | nil => exact Nat.zero_le _
  | cons text texts =>
    have hfirst : 0 < text.length := List.length_pos_iff.mpr (h text List.mem_cons_self)
    have hfurther : texts.length ≤ (texts.flatMap (',' :: ·)).length := by
      clear h
      induction texts with
      | nil => exact Nat.zero_le _
      | cons text texts ih =>
        simp only [List.flatMap_cons, List.length_append, List.length_cons]
        omega
    simp only [between, List.length_append, List.length_cons]
    omega

theorem reads_textLeft : Reads textLeft cs cs.length cs := fun place => ⟨place, rfl⟩

theorem reads_word {letters : List Char} : Reads (word v letters) (letters ++ rest) v rest := by
  induction letters with
  | nil => exact .pure v rest
  | cons c letters ih =>
    refine reads_peek.bind ?_
    simp only [List.cons_append, List.head?_cons, if_true]
    exact reads_next.discard.bind ih

theorem value_eq_valueOver (d : Nat) : ∃ inner, value d = valueOver inner := by
  cases d <;> exact ⟨_, rfl⟩

theorem reads_digits {inner : Option (Reader Json)} (hspaces : Spaces spaces)
    (hc : c.isDigit = true) (h : Reads (numberAfter false) (c :: cs) v rest) :
    Reads (valueOver inner) (spaces ++ c :: cs) v rest := by
  have hbegins : beginsValue c = true := by simp [beginsValue, hc]
  refine (reads_peekPart_cons hspaces (not_isSpace_of_beginsValue hbegins)).bind ?_
  split
  case h_9 heq =>
    cases heq
    rw [if_pos hc]
    exact h
  case h_1 heq => cases heq
  all_goals
    rename_i heq
    cases heq
    exact absurd hc (by decide)

/-- Every spelling of a value is read as that value, in front of whatever may follow a value. -/
theorem Spells.reads_value (h : Spells Literal.Fits d text v) : ReadsPart (value d) text v := by
  induction h with
  | @null d | @isTrue d | @isFalse d =>
    intro spaces rest hspaces _
    obtain ⟨inner, hinner⟩ := value_eq_valueOver d
    rw [hinner]
    exact (reads_peekPart_cons hspaces (by decide)).bind (reads_next.discard.bind reads_word)
  | @number d text l h hfits =>
    intro spaces rest hspaces hrest
    obtain ⟨inner, hinner⟩ := value_eq_valueOver d
    rw [hinner]
    cases h with
    | positive hsign h =>
      have hnumber := reads_numberAfter h hfits hrest
      obtain ⟨c, tail, rfl, hc⟩ := h.exists_cons
      exact reads_digits hspaces hc (hsign ▸ hnumber)
    | negative hsign h =>
      refine (reads_peekPart_cons hspaces (by decide)).bind (reads_next.discard.bind ?_)
      exact hsign ▸ reads_numberAfter h hfits hrest
  | @string d text s h =>
    intro spaces rest hspaces _
    obtain ⟨inner, hinner⟩ := value_eq_valueOver d
    rw [hinner]
    cases h with
    | mk h =>
      simp only [List.cons_append, List.append_assoc, List.nil_append]
      refine (reads_peekPart_cons hspaces (by decide)).bind (reads_next.discard.bind ?_)
      exact (reads_readString h).bind (.pure _ rest)
  | @array d inside parts hinside hparts ih =>
    intro spaces rest hspaces _
    have hparts : ReadsItems (value d) parts := fun p hp => ⟨ih p hp, (hparts p hp).exists_cons⟩
    simp only [List.cons_append, List.append_assoc, List.nil_append]
    refine (reads_peekPart_cons hspaces (by decide)).bind (reads_next.discard.bind ?_)
    refine reads_textLeft.bind ((reads_items hparts hinside ?_).bind ?_)
    · have hne : ∀ t ∈ parts.map (·.source.text), t ≠ [] := by
        simp only [List.forall_mem_map, Padded.text]
        intro p hp
        obtain ⟨_, c, tail, hcore, _⟩ := hparts p hp
        simp [hcore]
      have := length_le_between inside hne
      simp only [List.length_map, List.length_append] at this ⊢
      omega
    · exact reads_next.discard.bind (.pure _ rest)
  | @object d inside parts hinside hkeys hparts ih =>
    intro spaces rest hspaces _
    have hparts : ReadsMembers (value d) parts := fun p hp => ⟨hkeys p hp, ih p hp⟩
    simp only [List.cons_append, List.append_assoc, List.nil_append]
    refine (reads_peekPart_cons hspaces (by decide)).bind (reads_next.discard.bind ?_)
    refine reads_textLeft.bind ((reads_members hparts hinside ?_).bind ?_)
    · have hne : ∀ t ∈ parts.map (·.text), t ≠ [] := by simp [Member.text]
      have := length_le_between inside hne
      simp only [List.length_map, List.length_append] at this ⊢
      omega
    · exact reads_next.discard.bind (.pure _ rest)

/-- Every spelling of a value, with white space around it, is read as that value. -/
theorem read_of_spells (source : Padded) (h : Spells Literal.Fits maxDepth source.core v) :
    read source.text = .ok v := by
  have hnil : Follows [] := fun _ hc => nomatch hc
  have htrail : Follows source.trail := by simpa using source.spaces_trail.follows hnil
  obtain ⟨place, hvalue⟩ := h.reads_value source.spaces_lead htrail ⟨1, 0⟩
  have hnone : ∀ c ∈ ([] : List Char).head?, isSpace c = false := fun _ hc => nomatch hc
  obtain ⟨_, hend⟩ := reads_peekPart source.spaces_trail hnone place
  rw [List.append_nil] at hend
  have htext : Source.ofText source.text =
      ⟨source.lead ++ (source.core ++ source.trail), ⟨1, 0⟩⟩ := by
    simp [Source.ofText, Padded.text]
  simp only [read, htext, hvalue, hend, List.head?_nil]

end EntityGen.Json
