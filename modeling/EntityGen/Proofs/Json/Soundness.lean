import EntityGen.Proofs.Json.Reading

/-!
# Only spellings are read

`Takes p spells` says that whatever a reader finds is spelled by the characters that it takes from
the front of the text. Each reader of the grammar takes a spelling (`takes_readString`,
`takes_numberAfter`, `takes_value`), so together with `read_of_spells` a text is read as a value
exactly if it spells the value (`read_eq_ok_iff`).
-/

namespace EntityGen.Json

open Reader

variable {α β : Type} {p : Reader α} {f : α → Reader β} {s s' s'' : Source} {a : α} {b : β}
  {c : Char} {d n : Nat} {cs rest : List Char} {v : Json}

/-! ## Inverting the steps of a reader -/

theorem bind_eq_ok (h : (p >>= f) s = .ok (b, s'')) :
    ∃ a s', p s = .ok (a, s') ∧ f a s' = .ok (b, s'') := by
  rw [bind_run] at h
  split at h
  · rename_i a s' hp
    exact ⟨a, s', hp, h⟩
  · contradiction

theorem pure_eq_ok {a' : α} (h : (pure a : Reader α) s = .ok (a', s')) : a = a' ∧ s = s' := by
  cases h
  exact ⟨rfl, rfl⟩

theorem peek_eq_ok {c? : Option Char} (h : peek s = .ok (c?, s')) : s.rest.head? = c? ∧ s = s' := by
  cases h
  exact ⟨rfl, rfl⟩

theorem next_eq_ok (h : next s = .ok (some c, s')) : s.rest = c :: s'.rest := by
  obtain ⟨_ | ⟨d, cs⟩, place⟩ := s <;> cases h
  rfl

/-- A character that was seen is taken. -/
theorem next_bind_eq_ok {f : Unit → Reader β} (hc : s.rest.head? = some c)
    (h : (discard next >>= f) s = .ok (b, s'')) :
    ∃ s', s.rest = c :: s'.rest ∧ f () s' = .ok (b, s'') := by
  obtain ⟨rest, place⟩ := s
  obtain ⟨cs, rfl⟩ := List.head?_eq_some_iff.mp hc
  exact ⟨⟨cs, place.after c⟩, rfl, h⟩

theorem accept_eq_ok (h : accept c s = .ok (true, s')) : s.rest = c :: s'.rest := by
  change (if s.rest.head? = some c then next >>= fun _ => pure true else pure false : Reader Bool) s
    = _ at h
  split at h
  · rename_i hc
    obtain ⟨rest, place⟩ := s
    obtain ⟨cs, rfl⟩ := List.head?_eq_some_iff.mp hc
    cases h
    rfl
  · cases h

theorem accept_eq_false (h : accept c s = .ok (false, s')) : s' = s := by
  change (if s.rest.head? = some c then next >>= fun _ => pure true else pure false : Reader Bool) s
    = _ at h
  split at h
  · obtain ⟨_, _, _, h⟩ := bind_eq_ok h
    cases h
  · cases h
    rfl

theorem takeWhile_eq_ok {kind : Char → Bool} (h : Reader.takeWhile kind s = .ok (cs, s')) :
    s.rest = cs ++ s'.rest ∧ ∀ c ∈ cs, kind c = true := by
  cases h
  exact ⟨List.takeWhile_append_dropWhile.symm, List.all_eq_true.mp List.all_takeWhile⟩

theorem takeWhile_head?_eq_ok {kind : Char → Bool} (h : Reader.takeWhile kind s = .ok (cs, s'))
    (hc : s.rest.head? = some c) (hkind : kind c = true) : cs.head? = some c := by
  cases h
  rw [List.head?_takeWhile, hc]
  simp [hkind]

/-- The white space before a part is passed over. -/
theorem peekPart_eq_ok {next? : Option Char} (h : peekPart s = .ok (next?, s')) :
    ∃ spaces, Spaces spaces ∧ s.rest = spaces ++ s'.rest ∧ s'.rest.head? = next? := by
  obtain ⟨_, s₁, hskip, hpeek⟩ := bind_eq_ok h
  obtain ⟨spaces, _, htake, hpure⟩ :=
    bind_eq_ok (p := Reader.takeWhile isSpace) (f := fun _ => pure ()) hskip
  cases hpeek
  cases hpure
  obtain ⟨hrest, hspaces⟩ := takeWhile_eq_ok htake
  exact ⟨spaces, hspaces, hrest, rfl⟩

theorem peekPart_bind_eq_ok {f : Option Char → Reader β}
    (h : (peekPart >>= f) s = .ok (b, s'')) :
    ∃ spaces next? s', Spaces spaces ∧ s.rest = spaces ++ s'.rest ∧ s'.rest.head? = next? ∧
      f next? s' = .ok (b, s'') := by
  obtain ⟨next?, s', hpart, h⟩ := bind_eq_ok h
  obtain ⟨spaces, hspaces, hrest, hhead⟩ := peekPart_eq_ok hpart
  exact ⟨spaces, next?, s', hspaces, hrest, hhead, h⟩

/-- Whatever a reader finds is spelled by the characters that it takes. -/
def Takes (p : Reader α) (spells : List Char → α → Prop) : Prop :=
  ∀ ⦃s a s'⦄, p s = .ok (a, s') → ∃ taken, s.rest = taken ++ s'.rest ∧ spells taken a

/-! ## Strings -/

theorem fourHex?_eq_some (h : fourHex? cs = some (n, rest)) :
    ∃ ds, cs = ds ++ rest ∧ fourHex? ds = some (n, []) := by
  obtain ⟨a, b, c, d, a', b', c', d', rfl, hdigits⟩ := fourHex?_eq_some_iff.mp h
  exact ⟨[a, b, c, d], rfl, fourHex?_eq_some_iff.mpr ⟨a, b, c, d, a', b', c', d', rfl, hdigits⟩⟩

theorem takes_readHex : Takes readHex fun ds n => fourHex? ds = some (n, []) := by
  intro s n s' h
  unfold readHex at h
  split at h
  · rename_i heq
    cases h
    exact fourHex?_eq_some heq
  · cases h

theorem pairMark_eq_ok {u : Unit} (h : pairMark c s = .ok (u, s')) : s.rest = c :: s'.rest := by
  obtain ⟨_ | ⟨d, cs⟩, place⟩ := s
  · cases h
  · change (if d = c then discard next else failAhead .hexEnd : Reader Unit) _ = _ at h
    split at h
    · rename_i hd
      cases h
      exact congrArg (· :: cs) hd
    · cases h

theorem takes_readUnit : Takes readUnit fun ds c => SpellsChar ('\\' :: 'u' :: ds) c := by
  intro s c s' h
  obtain ⟨n, s₁, hhex, h⟩ := bind_eq_ok h
  obtain ⟨ds, hds, hn⟩ := takes_readHex hhex
  split at h
  · cases h
  rename_i hlow
  split at h
  · rename_i hhigh
    obtain ⟨_, s₂, hslash, h⟩ := bind_eq_ok h
    obtain ⟨_, s₃, hu, h⟩ := bind_eq_ok h
    obtain ⟨low, s₄, hhex', h⟩ := bind_eq_ok h
    obtain ⟨es, hes, hlown⟩ := takes_readHex hhex'
    split at h
    · rename_i hlow'
      obtain ⟨rfl, rfl⟩ := pure_eq_ok h
      refine ⟨ds ++ '\\' :: 'u' :: es, ?_, .pair hn hlown hhigh hlow'⟩
      rw [hds, pairMark_eq_ok hslash, pairMark_eq_ok hu, hes]
      simp
    · cases h
  · rename_i hhigh
    obtain ⟨rfl, rfl⟩ := pure_eq_ok h
    exact ⟨ds, hds, .unit hn (Bool.eq_false_iff.mpr hhigh) (Bool.eq_false_iff.mpr hlow)⟩

theorem takes_readEscape : Takes readEscape fun ds c => SpellsChar ('\\' :: ds) c := by
  intro s c s' h
  obtain ⟨next?, _, hpeek, h⟩ := bind_eq_ok h
  obtain ⟨hhead, rfl⟩ := peek_eq_ok hpeek
  split at h
  · cases h
  · obtain ⟨_, hcs, h⟩ := next_bind_eq_ok hhead h
    obtain ⟨ds, hds, hspells⟩ := takes_readUnit h
    exact ⟨'u' :: ds, by rw [hcs, hds]; rfl, hspells⟩
  · rename_i e _
    cases hplain : plainEscape? e with
    | none =>
      rw [hplain] at h
      cases h
    | some c =>
      rw [hplain] at h
      obtain ⟨_, hcs, h⟩ := next_bind_eq_ok hhead h
      obtain ⟨rfl, rfl⟩ := pure_eq_ok h
      exact ⟨[e], hcs, .letter hplain⟩

theorem takes_stringFrom (n : Nat) :
    Takes (stringFrom n) fun taken cs => ∃ body, taken = body ++ ['\x22'] ∧ SpellsChars body cs := by
  induction n with
  | zero => exact fun s cs s' h => nomatch h
  | succ n ih =>
    intro s cs s' h
    obtain ⟨next?, s₁, hnext, h⟩ := bind_eq_ok h
    split at h
    · cases h
    · obtain ⟨rfl, rfl⟩ := pure_eq_ok h
      exact ⟨['\x22'], next_eq_ok hnext, [], rfl, .nil⟩
    · obtain ⟨c, s₂, hescape, h⟩ := bind_eq_ok h
      obtain ⟨cs, s₃, hmore, h⟩ := bind_eq_ok h
      obtain ⟨rfl, rfl⟩ := pure_eq_ok h
      obtain ⟨ds, hds, hc⟩ := takes_readEscape hescape
      obtain ⟨_, hrest, body, rfl, hbody⟩ := ih hmore
      refine ⟨'\\' :: ds ++ body ++ ['\x22'], ?_, _, rfl, .cons hc hbody⟩
      rw [next_eq_ok hnext, hds, hrest]
      simp
    · rename_i c hquote hslash
      split at h
      · cases h
      · rename_i hcontrol
        obtain ⟨cs, s₂, hmore, h⟩ := bind_eq_ok h
        obtain ⟨rfl, rfl⟩ := pure_eq_ok h
        obtain ⟨_, hrest, body, rfl, hbody⟩ := ih hmore
        have hc : SpellsChar [c] c := .plain hquote hslash (by omega)
        refine ⟨c :: body ++ ['\x22'], ?_, _, rfl, .cons hc hbody⟩
        rw [next_eq_ok hnext, hrest]
        rfl

/-- After its opening quote a string is taken with its closing one. -/
theorem takes_readString :
    Takes readString fun taken key => SpellsString ('\x22' :: taken) key := by
  intro s key s' h
  obtain ⟨cs, s₁, hmore, h⟩ := bind_eq_ok (p := stringFrom _) h
  obtain ⟨rfl, rfl⟩ := pure_eq_ok h
  obtain ⟨_, hrest, body, rfl, hbody⟩ := takes_stringFrom _ hmore
  exact ⟨_, hrest, .mk hbody⟩

/-! ## Numbers -/

theorem takes_wholeDigits : Takes wholeDigits fun taken ds => taken = ds ∧ IsWhole ds := by
  intro s ds s' h
  obtain ⟨next?, _, hpeek, h⟩ := bind_eq_ok h
  obtain ⟨hhead, rfl⟩ := peek_eq_ok hpeek
  split at h
  · cases h
  · obtain ⟨s₁, hzero, h⟩ := next_bind_eq_ok hhead h
    obtain ⟨after?, _, hpeek, h⟩ := bind_eq_ok h
    obtain ⟨-, rfl⟩ := peek_eq_ok hpeek
    have hds : ds = ['0'] ∧ s' = s₁ := by
      split at h
      · split at h
        · cases h
        · cases h
          exact ⟨rfl, rfl⟩
      · cases h
        exact ⟨rfl, rfl⟩
    obtain ⟨rfl, rfl⟩ := hds
    exact ⟨['0'], hzero, rfl, .inl rfl⟩
  · rename_i c hzero
    split at h
    · rename_i hc
      obtain ⟨hrest, hdigits⟩ := takeWhile_eq_ok h
      have hds := takeWhile_head?_eq_ok h hhead hc
      refine ⟨ds, hrest, rfl, .inr ⟨⟨fun hnil => ?_, hdigits⟩, fun h => ?_⟩⟩
      · simp [hnil] at hds
      · exact hzero (Option.some.inj (hds.symm.trans h))
    · cases h

theorem takes_fractionDigits : Takes fractionDigits SpellsFraction := by
  intro s fraction s' h
  obtain ⟨point, s₁, hpoint, h⟩ := bind_eq_ok h
  cases point with
  | false =>
    obtain ⟨rfl, rfl⟩ := pure_eq_ok h
    exact ⟨[], congrArg Source.rest (accept_eq_false hpoint).symm, .absent⟩
  | true =>
    obtain ⟨ds, s₂, hdigits, h⟩ := bind_eq_ok h
    obtain ⟨hrest, hdigits⟩ := takeWhile_eq_ok hdigits
    split at h
    · rename_i hne
      obtain ⟨rfl, rfl⟩ := pure_eq_ok h
      exact ⟨'.' :: ds, by rw [accept_eq_ok hpoint, hrest]; rfl, .present ⟨by simpa using hne, hdigits⟩⟩
    · obtain ⟨next?, _, hpeek, h⟩ := bind_eq_ok h
      obtain ⟨-, rfl⟩ := peek_eq_ok hpeek
      split at h <;> cases h

theorem mark_eq_ok {f : Bool → Reader β}
    (h : (accept 'e' >>= fun lower => if lower then pure true >>= f else accept 'E' >>= f) s
      = .ok (b, s'')) :
    f false s = .ok (b, s'') ∨ ∃ mark s', (mark = 'e' ∨ mark = 'E') ∧ s.rest = mark :: s'.rest ∧
      f true s' = .ok (b, s'') := by
  obtain ⟨lower, s₁, hlower, hf⟩ := bind_eq_ok h
  cases lower with
  | true => exact .inr ⟨'e', s₁, .inl rfl, accept_eq_ok hlower, hf⟩
  | false =>
    obtain ⟨upper, s₂, hupper, hf⟩ := bind_eq_ok hf
    obtain rfl := accept_eq_false hlower
    cases upper with
    | true => exact .inr ⟨'E', s₂, .inr rfl, accept_eq_ok hupper, hf⟩
    | false => exact .inl (accept_eq_false hupper ▸ hf)

theorem sign_eq_ok {f : Bool → Reader β}
    (h : (accept '+' >>= fun plus => if plus then pure false >>= f else accept '-' >>= f) s
      = .ok (b, s'')) :
    ∃ sign negative s', SpellsSign sign negative ∧ s.rest = sign ++ s'.rest ∧
      f negative s' = .ok (b, s'') := by
  obtain ⟨plus, s₁, hplus, hf⟩ := bind_eq_ok h
  cases plus with
  | true => exact ⟨['+'], false, s₁, .plus, accept_eq_ok hplus, hf⟩
  | false =>
    obtain ⟨minus, s₂, hminus, hf⟩ := bind_eq_ok hf
    obtain rfl := accept_eq_false hplus
    cases minus with
    | true => exact ⟨['-'], true, s₂, .minus, accept_eq_ok hminus, hf⟩
    | false => exact ⟨[], false, s₁, .absent, rfl, accept_eq_false hminus ▸ hf⟩

theorem takes_exponent (zero : Bool) : Takes (exponent zero) fun taken exponent? =>
    SpellsExponent taken exponent? ∧ ∀ e ∈ exponent?, e.Fits zero := by
  intro s exponent? s' h
  obtain h | ⟨mark, s₁, hmark, hs₁, h⟩ := mark_eq_ok h
  · obtain ⟨rfl, rfl⟩ := pure_eq_ok h
    exact ⟨[], rfl, .absent, fun e he => nomatch he⟩
  · obtain ⟨sign, negative, s₂, hsign, hs₂, h⟩ := sign_eq_ok h
    obtain ⟨start, _, hstart, h⟩ := bind_eq_ok h
    cases hstart
    obtain ⟨next?, _, hpeek, h⟩ := bind_eq_ok h
    obtain ⟨hhead, rfl⟩ := peek_eq_ok hpeek
    split at h
    · cases h
    · rename_i c
      split at h
      · cases h
      · rename_i hc
        obtain ⟨ds, s₃, hdigits, h⟩ := bind_eq_ok h
        have hds := takeWhile_head?_eq_ok hdigits hhead (by simpa using hc)
        obtain ⟨hrest, hdigits⟩ := takeWhile_eq_ok hdigits
        have hds : IsDigits ds := ⟨fun hnil => by simp [hnil] at hds, hdigits⟩
        have hfound : exponent? = some ⟨negative, ds⟩ ∧ s' = s₃ ∧ Exponent.Fits zero ⟨negative, ds⟩ := by
          cases hover : exponentOverflow? ds with
          | none =>
            rw [hover] at h
            cases h
            exact ⟨rfl, rfl, .inr (.inr hover)⟩
          | some k =>
            rw [hover] at h
            cases zero
            · cases negative
              · cases h
              · cases h
                exact ⟨rfl, rfl, .inr (.inl rfl)⟩
            · cases h
              exact ⟨rfl, rfl, .inl rfl⟩
        obtain ⟨rfl, rfl, hfits⟩ := hfound
        refine ⟨mark :: (sign ++ ds), ?_, .present hmark hsign hds, fun e he => ?_⟩
        · rw [hs₁, hs₂, hrest]
          simp
        · cases he
          exact hfits

theorem takes_numberAfter (negative : Bool) : Takes (numberAfter negative) fun taken v =>
    ∃ l : Literal, l.negative = negative ∧ SpellsUnsigned taken l ∧ l.Fits ∧ v = .number l.number := by
  intro s v s' h
  obtain ⟨whole, s₁, hwhole, h⟩ := bind_eq_ok h
  obtain ⟨fraction, s₂, hfraction, h⟩ := bind_eq_ok h
  obtain ⟨exponent?, s₃, hexponent, h⟩ := bind_eq_ok h
  obtain ⟨digits, hs, rfl, hwhole⟩ := takes_wholeDigits hwhole
  obtain ⟨fractionText, hs₁, hfraction⟩ := takes_fractionDigits hfraction
  obtain ⟨exponentText, hs₂, hexponent, hpower⟩ := takes_exponent _ hexponent
  dsimp only at h
  split at h
  · cases h
  · rename_i hlarge
    obtain ⟨rfl, rfl⟩ := pure_eq_ok h
    refine ⟨_, ?_, ⟨negative, _, fraction, exponent?⟩, rfl, .mk hwhole hfraction hexponent,
      ⟨Bool.eq_false_iff.mpr hlarge, hpower⟩, rfl⟩
    rw [hs, hs₁, hs₂]
    simp only [List.append_assoc]

/-! ## Arrays and objects -/

/-- How a value is taken with the white space before it. -/
def SpellsPart (d : Nat) (taken : List Char) (v : Json) : Prop :=
  ∃ lead core, Spaces lead ∧ taken = lead ++ core ∧ Spells Literal.Fits d core v

theorem Spaces.append {spaces spaces' : List Char} (h : Spaces spaces) (h' : Spaces spaces') :
    Spaces (spaces ++ spaces') := fun c hc =>
  (List.mem_append.mp hc).elim (h c) (h' c)

section Parts

variable {γ δ : Type} (text : γ → List Char) (result : γ → δ) (good : γ → Prop) (close : Char)

/-- The text `before` begins with further parts, each after a comma, up to the closing mark of the
text `after`; the white space at the front belongs to the part before them. -/
def FurtherParts (before : List Char) (found : List δ) (after : List Char) : Prop :=
  ∃ (spaces : List Char) (parts : List γ), Spaces spaces ∧
    before = spaces ++ ((parts.map text).flatMap (',' :: ·) ++ after) ∧
    after.head? = some close ∧ found = parts.map result ∧ ∀ p ∈ parts, good p

/-- The text `before` begins with all the parts up to the closing mark of the text `after`. -/
def AllParts (before : List Char) (found : List δ) (after : List Char) : Prop :=
  ∃ (spaces : List Char) (parts : List γ), Spaces spaces ∧
    before = between spaces (parts.map text) ++ after ∧
    after.head? = some close ∧ found = parts.map result ∧ ∀ p ∈ parts, good p

variable {text result good close} {before after piece spaces : List Char} {r : δ} {found : List δ}

theorem FurtherParts.nil (hspaces : Spaces spaces) (hclose : after.head? = some close) :
    FurtherParts text result good close (spaces ++ after) [] after :=
  ⟨spaces, [], hspaces, rfl, hclose, rfl, fun _ hp => nomatch hp⟩

theorem AllParts.nil (hspaces : Spaces spaces) (hclose : after.head? = some close) :
    AllParts text result good close (spaces ++ after) [] after :=
  ⟨spaces, [], hspaces, rfl, hclose, rfl, fun _ hp => nomatch hp⟩

/-- A part takes the white space that follows it. -/
theorem FurtherParts.allParts (h : FurtherParts text result good close before found after)
    (hpart : ∀ trail, Spaces trail → ∃ p, text p = piece ++ trail ∧ result p = r ∧ good p) :
    AllParts text result good close (piece ++ before) (r :: found) after := by
  obtain ⟨trail, parts, htrail, rfl, hclose, rfl, hparts⟩ := h
  obtain ⟨p, hp, rfl, hgood⟩ := hpart trail htrail
  refine ⟨[], p :: parts, .nil, ?_, hclose, rfl, List.forall_mem_cons.mpr ⟨hgood, hparts⟩⟩
  rw [List.map_cons, between, hp]
  simp only [List.append_assoc]

theorem FurtherParts.cons (h : FurtherParts text result good close before found after)
    (hspaces : Spaces spaces)
    (hpart : ∀ trail, Spaces trail → ∃ p, text p = piece ++ trail ∧ result p = r ∧ good p) :
    FurtherParts text result good close (spaces ++ ',' :: (piece ++ before)) (r :: found) after := by
  obtain ⟨trail, parts, htrail, rfl, hclose, rfl, hparts⟩ := h
  obtain ⟨p, hp, rfl, hgood⟩ := hpart trail htrail
  refine ⟨spaces, p :: parts, hspaces, ?_, hclose, rfl, List.forall_mem_cons.mpr ⟨hgood, hparts⟩⟩
  rw [List.map_cons, List.flatMap_cons, hp]
  simp only [List.append_assoc, List.cons_append]

end Parts

variable {item : Reader Json}

def FurtherItems (d : Nat) : List Char → List Json → List Char → Prop :=
  FurtherParts (fun p : Item => p.source.text) (·.value)
    (fun p => Spells Literal.Fits d p.source.core p.value) ']'

theorem exists_item {lead taken : List Char} (hlead : Spaces lead) (h : SpellsPart d taken v)
    {trail : List Char} (htrail : Spaces trail) :
    ∃ p : Item, p.source.text = lead ++ taken ++ trail ∧ p.value = v ∧
      Spells Literal.Fits d p.source.core p.value := by
  obtain ⟨spaces, core, hspaces, rfl, h⟩ := h
  refine ⟨⟨⟨lead ++ spaces, core, trail, hlead.append hspaces, htrail⟩, v⟩, ?_, rfl, h⟩
  simp only [Padded.text, List.append_assoc]

theorem items_further_eq_ok (hitem : Takes item (SpellsPart d)) (n : Nat) {vs : List Json}
    (h : items item false n s = .ok (vs, s')) : FurtherItems d s.rest vs s'.rest := by
  induction n generalizing s vs s' with
  | zero => exact nomatch h
  | succ n ih =>
    obtain ⟨spaces, next?, s₁, hspaces, hs, hhead, h⟩ := peekPart_bind_eq_ok h
    rw [hs]
    split at h
    · cases h
    · obtain ⟨rfl, rfl⟩ := pure_eq_ok h
      exact .nil hspaces hhead
    · rename_i c _
      rw [if_neg (by decide)] at h
      split at h
      · rename_i hc
        subst hc
        obtain ⟨s₂, hs₁, h⟩ := next_bind_eq_ok hhead h
        obtain ⟨lead, next?, s₃, hlead, hs₂, hhead, h⟩ := peekPart_bind_eq_ok h
        split at h
        · cases h
        · cases h
        · obtain ⟨v, s₄, hv, h⟩ := bind_eq_ok h
          obtain ⟨ws, s₅, hws, h⟩ := bind_eq_ok h
          obtain ⟨rfl, rfl⟩ := pure_eq_ok h
          obtain ⟨taken, hs₃, hspells⟩ := hitem hv
          rw [hs₁, hs₂, hs₃, ← List.append_assoc]
          exact (ih hws).cons hspaces fun _ => exists_item hlead hspells
      · cases h

def AllItems (d : Nat) : List Char → List Json → List Char → Prop :=
  AllParts (fun p : Item => p.source.text) (·.value)
    (fun p => Spells Literal.Fits d p.source.core p.value) ']'

theorem items_eq_ok (hitem : Takes item (SpellsPart d)) {vs : List Json}
    (h : items item true n s = .ok (vs, s')) : AllItems d s.rest vs s'.rest := by
  cases n with
  | zero => exact nomatch h
  | succ n =>
    obtain ⟨spaces, next?, s₁, hspaces, hs, hhead, h⟩ := peekPart_bind_eq_ok h
    rw [hs]
    split at h
    · cases h
    · obtain ⟨rfl, rfl⟩ := pure_eq_ok h
      exact .nil hspaces hhead
    · rw [if_pos rfl] at h
      obtain ⟨v, s₂, hv, h⟩ := bind_eq_ok h
      obtain ⟨ws, s₃, hws, h⟩ := bind_eq_ok h
      obtain ⟨rfl, rfl⟩ := pure_eq_ok h
      obtain ⟨taken, hs₁, hspells⟩ := hitem hv
      rw [hs₁, ← List.append_assoc]
      exact (items_further_eq_ok hitem n hws).allParts fun _ => exists_item hspaces hspells

/-- How a member is taken up to the end of its value. -/
def SpellsMember (d : Nat) (taken : List Char) (m : String × Json) : Prop :=
  ∃ core trail inner, taken = core ++ (trail ++ ':' :: inner) ∧ SpellsString core m.1 ∧
    Spaces trail ∧ SpellsPart d inner m.2

theorem member_eq_ok (hitem : Takes item (SpellsPart d)) {m : String × Json}
    (hhead : s.rest.head? = some '\x22') (h : member item s = .ok (m, s')) :
    ∃ taken, s.rest = taken ++ s'.rest ∧ SpellsMember d taken m := by
  obtain ⟨s₁, hs, h⟩ := next_bind_eq_ok hhead h
  obtain ⟨key, s₂, hkey, h⟩ := bind_eq_ok h
  obtain ⟨trail, next?, s₃, htrail, hs₂, hcolon, h⟩ := peekPart_bind_eq_ok h
  obtain ⟨body, hs₁, hkey⟩ := takes_readString hkey
  split at h
  · cases h
  · obtain ⟨s₄, hs₃, h⟩ := next_bind_eq_ok hcolon h
    obtain ⟨v, s₅, hv, h⟩ := bind_eq_ok h
    obtain ⟨rfl, rfl⟩ := pure_eq_ok h
    obtain ⟨inner, hs₄, hspells⟩ := hitem hv
    refine ⟨_, ?_, _, trail, inner, rfl, hkey, htrail, hspells⟩
    rw [hs, hs₁, hs₂, hs₃, hs₄]
    simp only [List.append_assoc, List.cons_append]
  · cases h

theorem exists_member {lead taken : List Char} {m : String × Json} (hlead : Spaces lead)
    (h : SpellsMember d taken m) {trail : List Char} (htrail : Spaces trail) :
    ∃ p : Member, p.text = lead ++ taken ++ trail ∧ p.pair = m ∧
      SpellsString p.keySource.core p.key ∧ Spells Literal.Fits d p.source.core p.value := by
  obtain ⟨core, keyTrail, _, rfl, hkey, hkeyTrail, spaces, inner, hspaces, rfl, h⟩ := h
  refine ⟨⟨⟨lead, core, keyTrail, hlead, hkeyTrail⟩, m.1, ⟨spaces, inner, trail, hspaces, htrail⟩,
    m.2⟩, ?_, rfl, hkey, h⟩
  simp only [Member.text, Padded.text, List.append_assoc, List.cons_append]

def FurtherMembers (d : Nat) : List Char → List (String × Json) → List Char → Prop :=
  FurtherParts Member.text Member.pair (fun p =>
    SpellsString p.keySource.core p.key ∧ Spells Literal.Fits d p.source.core p.value) '\x7d'

def AllMembers (d : Nat) : List Char → List (String × Json) → List Char → Prop :=
  AllParts Member.text Member.pair (fun p =>
    SpellsString p.keySource.core p.key ∧ Spells Literal.Fits d p.source.core p.value) '\x7d'

theorem members_further_eq_ok (hitem : Takes item (SpellsPart d)) (n : Nat)
    {ms : List (String × Json)} (h : members item false n s = .ok (ms, s')) :
    FurtherMembers d s.rest ms s'.rest := by
  induction n generalizing s ms s' with
  | zero => exact nomatch h
  | succ n ih =>
    obtain ⟨spaces, next?, s₁, hspaces, hs, hhead, h⟩ := peekPart_bind_eq_ok h
    rw [hs]
    split at h
    · cases h
    · obtain ⟨rfl, rfl⟩ := pure_eq_ok h
      exact .nil hspaces hhead
    · rename_i c _
      rw [if_neg (by decide)] at h
      split at h
      · rename_i hc
        subst hc
        obtain ⟨s₂, hs₁, h⟩ := next_bind_eq_ok hhead h
        obtain ⟨lead, next?, s₃, hlead, hs₂, hhead, h⟩ := peekPart_bind_eq_ok h
        split at h
        · cases h
        · obtain ⟨m, s₄, hm, h⟩ := bind_eq_ok h
          obtain ⟨further, s₅, hfurther, h⟩ := bind_eq_ok h
          obtain ⟨rfl, rfl⟩ := pure_eq_ok h
          obtain ⟨taken, hs₃, hspells⟩ := member_eq_ok hitem hhead hm
          rw [hs₁, hs₂, hs₃, ← List.append_assoc]
          exact (ih hfurther).cons hspaces fun _ => exists_member hlead hspells
        · cases h
        · cases h
      · cases h

theorem members_eq_ok (hitem : Takes item (SpellsPart d)) {ms : List (String × Json)}
    (h : members item true n s = .ok (ms, s')) : AllMembers d s.rest ms s'.rest := by
  cases n with
  | zero => exact nomatch h
  | succ n =>
    obtain ⟨spaces, next?, s₁, hspaces, hs, hhead, h⟩ := peekPart_bind_eq_ok h
    rw [hs]
    split at h
    · cases h
    · obtain ⟨rfl, rfl⟩ := pure_eq_ok h
      exact .nil hspaces hhead
    · rename_i c _
      rw [if_pos rfl] at h
      split at h
      · rename_i hc
        subst hc
        obtain ⟨m, s₂, hm, h⟩ := bind_eq_ok h
        obtain ⟨further, s₃, hfurther, h⟩ := bind_eq_ok h
        obtain ⟨rfl, rfl⟩ := pure_eq_ok h
        obtain ⟨taken, hs₁, hspells⟩ := member_eq_ok hitem hhead hm
        rw [hs₁, ← List.append_assoc]
        exact (members_further_eq_ok hitem n hfurther).allParts fun _ => exists_member hspaces hspells
      · cases h

/-! ## Values -/

theorem takes_word (letters : List Char) :
    Takes (word v letters) fun taken w => taken = letters ∧ w = v := by
  induction letters with
  | nil =>
    intro s w s' h
    obtain ⟨rfl, rfl⟩ := pure_eq_ok h
    exact ⟨[], rfl, rfl, rfl⟩
  | cons c letters ih =>
    intro s w s' hword
    obtain ⟨next?, _, hpeek, h⟩ := bind_eq_ok hword
    obtain ⟨hhead, rfl⟩ := peek_eq_ok hpeek
    split at h
    · cases h
    · split at h
      · rename_i hc
        obtain ⟨s₁, hs, h⟩ := next_bind_eq_ok (hc ▸ hhead) h
        obtain ⟨_, hs₁, rfl, rfl⟩ := ih h
        exact ⟨_, by rw [hs, hs₁]; rfl, rfl, rfl⟩
      · cases h

/-- A word is taken with the first letter, by which it was told. -/
theorem word_eq_ok {w : Json} {letters : List Char} (hc : s.rest.head? = some c)
    (h : (discard next >>= fun _ => word v letters) s = .ok (w, s')) :
    s.rest = (c :: letters) ++ s'.rest ∧ w = v := by
  obtain ⟨s₁, hs, h⟩ := next_bind_eq_ok hc h
  obtain ⟨_, hs₁, rfl, rfl⟩ := takes_word _ h
  exact ⟨by rw [hs, hs₁]; rfl, rfl⟩

/-- What a value reader finds is spelled by what it takes, if the values inside it are. -/
theorem takes_valueOver {inner : Option (Reader Json)}
    (hinner : ∀ item ∈ inner, ∃ e, d = e + 1 ∧ Takes item (SpellsPart e)) :
    Takes (valueOver inner) (SpellsPart d) := by
  intro s v s' h
  obtain ⟨lead, next?, s₁, hlead, hs, hhead, h⟩ := peekPart_bind_eq_ok h
  have hcore {core : List Char} (hs₁ : s₁.rest = core ++ s'.rest) (h : Spells Literal.Fits d core v) :
      ∃ taken, s.rest = taken ++ s'.rest ∧ SpellsPart d taken v :=
    ⟨lead ++ core, by rw [hs, hs₁, List.append_assoc], lead, core, hlead, rfl, h⟩
  split at h
  · cases h
  · obtain ⟨hs₁, rfl⟩ := word_eq_ok hhead h
    exact hcore hs₁ .null
  · obtain ⟨hs₁, rfl⟩ := word_eq_ok hhead h
    exact hcore hs₁ .isTrue
  · obtain ⟨hs₁, rfl⟩ := word_eq_ok hhead h
    exact hcore hs₁ .isFalse
  · obtain ⟨s₂, hs₁, h⟩ := next_bind_eq_ok hhead h
    obtain ⟨text, hs₂, l, hsign, htext, hfits, rfl⟩ := takes_numberAfter true h
    exact hcore (by rw [hs₁, hs₂]; rfl) (.number (.negative hsign htext) hfits)
  · obtain ⟨s₂, hs₁, h⟩ := next_bind_eq_ok hhead h
    obtain ⟨_, s₃, hstring, h⟩ := bind_eq_ok h
    obtain ⟨rfl, rfl⟩ := pure_eq_ok h
    obtain ⟨text, hs₂, htext⟩ := takes_readString hstring
    exact hcore (by rw [hs₁, hs₂]; rfl) (.string htext)
  · cases inner with
    | none => cases h
    | some item =>
      obtain ⟨e, rfl, hitem⟩ := hinner item rfl
      obtain ⟨s₂, hs₁, h⟩ := next_bind_eq_ok hhead h
      obtain ⟨size, s₃, hsize, h⟩ := bind_eq_ok h
      cases hsize
      obtain ⟨_, s₄, hitems, h⟩ := bind_eq_ok h
      obtain ⟨spaces, parts, hspaces, hs₂, hclose, rfl, hparts⟩ := items_eq_ok hitem hitems
      obtain ⟨s₅, hs₄, h⟩ := next_bind_eq_ok hclose h
      obtain ⟨rfl, rfl⟩ := pure_eq_ok h
      exact hcore (by rw [hs₁, hs₂, hs₄]; simp) (.array hspaces hparts)
  · cases inner with
    | none => cases h
    | some item =>
      obtain ⟨e, rfl, hitem⟩ := hinner item rfl
      obtain ⟨s₂, hs₁, h⟩ := next_bind_eq_ok hhead h
      obtain ⟨size, s₃, hsize, h⟩ := bind_eq_ok h
      cases hsize
      obtain ⟨_, s₄, hmembers, h⟩ := bind_eq_ok h
      obtain ⟨spaces, parts, hspaces, hs₂, hclose, rfl, hparts⟩ := members_eq_ok hitem hmembers
      obtain ⟨s₅, hs₄, h⟩ := next_bind_eq_ok hclose h
      obtain ⟨rfl, rfl⟩ := pure_eq_ok h
      exact hcore (by rw [hs₁, hs₂, hs₄]; simp)
        (.object hspaces (fun p hp => (hparts p hp).1) fun p hp => (hparts p hp).2)
  · split at h
    · obtain ⟨text, hs₁, l, hsign, htext, hfits, rfl⟩ := takes_numberAfter false h
      exact hcore hs₁ (.number (.positive hsign htext) hfits)
    · cases h

theorem takes_value (d : Nat) : Takes (value d) (SpellsPart d) := by
  induction d with
  | zero => exact takes_valueOver fun _ hitem => nomatch hitem
  | succ d ih => exact takes_valueOver fun _ hitem => ⟨d, rfl, Option.some.inj hitem ▸ ih⟩

/-- A text is read as a value exactly if it spells the value, with white space around it. -/
theorem read_eq_ok_iff {text : List Char} : read text = .ok v ↔
    ∃ source : Padded, text = source.text ∧ Spells Literal.Fits maxDepth source.core v := by
  refine ⟨fun h => ?_, fun ⟨source, htext, h⟩ => htext ▸ read_of_spells source h⟩
  unfold read at h
  split at h
  · cases h
  · rename_i w s hvalue
    obtain ⟨taken, htext, lead, core, hlead, rfl, hspells⟩ := takes_value maxDepth hvalue
    split at h
    · rename_i s' hend
      cases h
      obtain ⟨trail, htrail, hs, hnone⟩ := peekPart_eq_ok hend
      refine ⟨⟨lead, core, trail, hlead, htrail⟩, ?_, hspells⟩
      rw [List.head?_eq_none_iff.mp hnone, List.append_nil] at hs
      exact htext.trans (congrArg _ hs)
    · cases h
    · cases h

end EntityGen.Json
