import EntityGen.Sql.Setting

/-!
# What parsers read

`Reads cx p before a after` says that a parser finds `a` in the tokens `before` and leaves `after`,
wherever in a text they stand. Sequences of parsers compose by `Reads.bind`, so a phrase is read by
reading its parts. Most clauses of the language may be left out; how little they ask of the next
token to pass it by is said by `headIs`.
-/

namespace EntityGen.Sql.Parser

variable {α β : Type} {cx : Context} {p : Parser α} {before between after ts : List Token} {a : α}
  {b : β} {t : Token} {k : String} {ks : List String} {s : Symbol}

/-- A parser finds `a` in the tokens `before` and leaves the tokens `after`. -/
def Reads (cx : Context) (p : Parser α) (before : List Token) (a : α) (after : List Token) : Prop :=
  ∀ ts : List Located, ts.map (·.token) = before →
    ∃ rest : List Located, p cx ts = (.ok a, rest) ∧ rest.map (·.token) = after

/-- A parser fails at some tokens in a way that leaves a choice. -/
def Refuses (cx : Context) (p : Parser α) (before : List Token) : Prop :=
  ∀ ts : List Located, ts.map (·.token) = before →
    ∃ e rest, p cx ts = (.error e, rest) ∧ e.isFinal = false

namespace Reads

protected theorem pure (a : α) (ts : List Token) : Reads cx (pure a) ts a ts :=
  fun ls h => ⟨ls, rfl, h⟩

protected theorem bind {f : α → Parser β} (hp : Reads cx p before a between)
    (hf : Reads cx (f a) between b after) : Reads cx (p >>= f) before b after := by
  intro ls hls
  obtain ⟨ls₁, hrun₁, hls₁⟩ := hp ls hls
  obtain ⟨ls₂, hrun₂, hls₂⟩ := hf ls₁ hls₁
  exact ⟨ls₂, by rw [bind_run, hrun₁]; exact hrun₂, hls₂⟩

protected theorem map (f : α → β) (hp : Reads cx p before a after) :
    Reads cx (f <$> p) before (f a) after := hp.bind (.pure (f a) after)

protected theorem discard (hp : Reads cx p before a after) :
    Reads cx (discard p) before () after := hp.bind (.pure () after)

/-- A parser that only looks at where it stands may find anything. -/
theorem look {q : Parser α} {f : α → Parser β} (hq : ∀ ls, ∃ x, q cx ls = (.ok x, ls))
    (hf : ∀ x, Reads cx (f x) before b after) : Reads cx (q >>= f) before b after := by
  intro ls hls
  obtain ⟨x, hx⟩ := hq ls
  obtain ⟨rest, hrun, hrest⟩ := hf x ls hls
  exact ⟨rest, by rw [bind_run, hx]; exact hrun, hrest⟩

protected theorem position {f : Option Pos → Parser β}
    (hf : ∀ x, Reads cx (f x) before b after) : Reads cx (position >>= f) before b after :=
  look (fun _ => ⟨_, rfl⟩) hf

protected theorem peek {f : Option Located → Parser β}
    (hf : ∀ x, Reads cx (f x) before b after) : Reads cx (peek >>= f) before b after :=
  look (fun _ => ⟨_, rfl⟩) hf

/-- Takes a token that is known already. -/
protected theorem next {f : Option Located → Parser β} (hf : ∀ x, Reads cx (f x) ts b after) :
    Reads cx (next >>= f) (t :: ts) b after := by
  intro ls hls
  obtain ⟨l, ls, rfl, -, hls⟩ := List.map_eq_cons_iff.mp hls
  obtain ⟨rest, hrun, hrest⟩ := hf (some l) ls hls
  exact ⟨rest, hrun, hrest⟩

end Reads

/-! ## Looking ahead -/

theorem reads_rules : Reads cx rules ts cx.rules ts := fun ls h => ⟨ls, rfl, h⟩

theorem reads_remaining : Reads cx remaining ts ts.length ts := by
  rintro ls rfl
  exact ⟨ls, by simp [remaining], rfl⟩

theorem reads_peekToken : Reads cx peekToken ts ts.head? ts := by
  rintro ls rfl
  refine ⟨ls, ?_, rfl⟩
  cases ls <;> rfl

theorem reads_peekKeyword {w : Word} :
    Reads cx peekKeyword (.word w :: ts) w.keyword (.word w :: ts) :=
  reads_peekToken.bind (.pure w.keyword _)

theorem reads_atSymbol : Reads cx (atSymbol s) ts (ts.head? == some (.symbol s)) ts :=
  reads_peekToken.bind (.pure _ ts)

theorem reads_atEnd : Reads cx atEnd ts ts.isEmpty ts := by
  rintro ls rfl
  refine ⟨ls, ?_, rfl⟩
  cases ls <;> rfl

/-- Whether a keyword comes next. -/
def headIs (k : String) (ts : List Token) : Bool := ts.head?.any (·.isKeyword k)

theorem reads_atKeyword : Reads cx (atKeyword k) ts (headIs k ts) ts :=
  reads_peekToken.bind (.pure _ ts)

theorem reads_atOneOf : Reads cx (atOneOf ks) ts (ts.head?.any fun t => ks.any t.isKeyword) ts :=
  reads_peekToken.bind (.pure _ ts)

/-- A symbol comes next, or nothing. -/
def Closed (ts : List Token) : Prop := ∀ t ∈ ts.head?, ∃ s, t = .symbol s

theorem closed_nil : Closed [] := fun _ h => nomatch h

theorem closed_symbol (s : Symbol) (ts : List Token) : Closed (.symbol s :: ts) := by
  intro t ht
  exact ⟨s, (Option.mem_some.mp ht).symm⟩

theorem Closed.headIs (h : Closed ts) (k : String) : headIs k ts = false := by
  cases ts with
  | nil => rfl
  | cons t ts =>
    obtain ⟨s, rfl⟩ := h t rfl
    rfl

/-- A name between quotes is no keyword. -/
theorem headIs_quoted {q : Char} {v : String} (hk : k ≠ "") :
    headIs k (.word (.quoted q v) :: ts) = false := by
  simpa [Parser.headIs, Token.isKeyword] using hk.symm

/-! ## Symbols and keywords -/

theorem reads_acceptSymbol : Reads cx (acceptSymbol s) (.symbol s :: ts) true ts := by
  intro ls hls
  obtain ⟨l, ls, rfl, hl, hls⟩ := List.map_eq_cons_iff.mp hls
  exact ⟨ls, by simp [acceptSymbol, hl], hls⟩

theorem reads_acceptSymbol_false (h : ts.head? ≠ some (.symbol s)) :
    Reads cx (acceptSymbol s) ts false ts := by
  rintro ls rfl
  refine ⟨ls, ?_, rfl⟩
  cases ls with
  | nil => rfl
  | cons l ls =>
    have hl : l.token ≠ .symbol s := by simpa using h
    simp [acceptSymbol, hl]

theorem reads_expectSymbol : Reads cx (expectSymbol s) (.symbol s :: ts) () ts :=
  reads_acceptSymbol.bind (.pure () ts)

theorem reads_acceptAll_nil : Reads cx (acceptAll []) ts true ts := fun ls h => ⟨ls, rfl, h⟩

theorem reads_acceptAll_cons (hk : t.isKeyword k = true)
    (h : Reads cx (acceptAll ks) ts true after) :
    Reads cx (acceptAll (k :: ks)) (t :: ts) true after := by
  intro ls₀ hls₀
  obtain ⟨l, ls, rfl, rfl, hls⟩ := List.map_eq_cons_iff.mp hls₀
  obtain ⟨rest, hrun, hrest⟩ := h ls hls
  refine ⟨rest, ?_, hrest⟩
  simp only [acceptAll, afterKeywords, hk, if_true] at hrun ⊢
  cases hks : afterKeywords ks ls with
  | none => simp [hks] at hrun
  | some rest' => simpa [hks] using hrun

theorem reads_accept (hk : t.isKeyword k = true) : Reads cx (accept k) (t :: ts) true ts :=
  reads_acceptAll_cons hk reads_acceptAll_nil

theorem reads_acceptAll_false (h : headIs k ts = false) :
    Reads cx (acceptAll (k :: ks)) ts false ts := by
  rintro ls rfl
  refine ⟨ls, ?_, rfl⟩
  cases ls with
  | nil => rfl
  | cons l ls =>
    have hl : l.token.isKeyword k = false := by simpa [headIs] using h
    simp [acceptAll, afterKeywords, hl]

theorem reads_accept_false (h : headIs k ts = false) : Reads cx (accept k) ts false ts :=
  reads_acceptAll_false h

theorem reads_acceptKnown_false {known : Bool} (h : headIs k ts = false) :
    Reads cx (acceptKnown known k) ts false ts := by
  unfold acceptKnown
  split
  · exact reads_accept_false h
  · exact .pure _ ts

theorem reads_acceptAllKnown_false {known : Bool} (h : headIs k ts = false) :
    Reads cx (acceptAllKnown known (k :: ks)) ts false ts := by
  unfold acceptAllKnown
  split
  · exact reads_acceptAll_false h
  · exact .pure _ ts

theorem reads_acceptAllMeant_false {meant : Bool} (h : headIs k ts = false) :
    Reads cx (acceptAllMeant meant (k :: ks)) ts false ts :=
  (reads_acceptAll_false h).bind (.pure _ ts)

theorem reads_acceptOneOf_none (h : ∀ k ∈ ks, headIs k ts = false) :
    Reads cx (acceptOneOf ks) ts none ts := by
  rintro ls rfl
  refine ⟨ls, ?_, rfl⟩
  cases ls with
  | nil => rfl
  | cons l ls =>
    have hfind : ks.find? l.token.isKeyword = none := by
      refine List.find?_eq_none.mpr fun k hk => ?_
      simpa [headIs] using h k hk
    simp [acceptOneOf, hfind]

/-- One of some keywords, looked for only where they mean something. -/
theorem reads_acceptOneOf_skip {known : Prop} [Decidable known] {f : Option String → Parser β}
    (h : ∀ k ∈ ks, headIs k ts = false) (hf : Reads cx (f none) ts b after) :
    Reads cx (if known then acceptOneOf ks >>= f else pure none >>= f) ts b after := by
  split
  · exact (reads_acceptOneOf_none h).bind hf
  · exact Reads.bind (.pure none ts) hf

theorem reads_acceptPhrase_none {rows : List (List String)} (h : Closed ts)
    (hrows : ∀ ks ∈ rows, ks ≠ []) : Reads cx (acceptPhrase rows) ts none ts := by
  induction rows with
  | nil => exact .pure _ ts
  | cons ks rows ih =>
    simp only [List.mem_cons, forall_eq_or_imp] at hrows
    obtain ⟨k, rest, rfl⟩ := List.exists_cons_of_ne_nil hrows.1
    exact (reads_acceptAll_false (h.headIs k)).bind (ih hrows.2)

theorem reads_expect (hk : t.isKeyword k = true) : Reads cx (expect k) (t :: ts) () ts :=
  (reads_accept hk).bind (.pure () ts)

/-! ## Clauses that may be left out -/

theorem reads_optionally_skip {q : Parser α} (h : headIs k ts = false) :
    Reads cx (optionally k q) ts () ts :=
  (reads_accept_false h).bind (.pure () ts)

theorem reads_clauseAll_skip {q : Parser String} (h : headIs k ts = false) :
    Reads cx (clauseAll (k :: ks) q) ts "" ts :=
  (reads_acceptAll_false h).bind (.pure "" ts)

theorem reads_clauseKnown_skip {known : Bool} {q : Parser String} (h : headIs k ts = false) :
    Reads cx (clauseKnown known (k :: ks) q) ts "" ts := by
  unfold clauseKnown
  split
  · exact reads_clauseAll_skip h
  · exact .pure "" ts

theorem reads_flagPhrase_skip {rows : List (List String)} (h : Closed ts)
    (hrows : ∀ ks ∈ rows, ks ≠ []) : Reads cx (flagPhrase rows) ts "" ts :=
  (reads_acceptPhrase_none h hrows).bind (.pure "" ts)

/-- A clause that only some dialects have. -/
theorem reads_where {known : Prop} [Decidable known] {q : Parser Unit} {f : Unit → Parser β}
    (hq : Reads cx q ts () ts) (hf : Reads cx (f ()) ts b after) :
    Reads cx (if known then q >>= f else f ()) ts b after := by
  split
  · exact hq.bind hf
  · exact hf

/-! ## Choices and repetition -/

theorem reads_attempt_none (h : Refuses cx p ts) : Reads cx (attempt p) ts none ts := by
  intro ls hls
  obtain ⟨e, rest, hrun, hfinal⟩ := h ls hls
  exact ⟨ls, by simp [attempt, hrun, hfinal], hls⟩

protected theorem Refuses.bind {f : α → Parser β} (h : Refuses cx p ts) :
    Refuses cx (p >>= f) ts := by
  intro ls hls
  obtain ⟨e, rest, hrun, hfinal⟩ := h ls hls
  exact ⟨e, rest, by rw [bind_run, hrun], hfinal⟩

theorem refuses_expect (h : headIs k ts = false) : Refuses cx (expect k) ts := by
  intro ls hls
  have haccept : Reads cx (accept k) ts false ts := reads_accept_false h
  obtain ⟨rest, hrun, -⟩ := haccept ls hls
  exact ⟨.unexpected (.keyword k) rest.head?, rest, by rw [expect, bind_run, hrun]; rfl, rfl⟩

/-- The runs of a parser that is repeated: each but the last takes a token. -/
inductive Finds (cx : Context) (p : Parser (Option α)) :
    List Token → List α → List Token → Prop where
  | none {before after : List Token} : Reads cx p before none after → Finds cx p before [] after
  | some {before between after : List Token} {a : α} {as : List α} :
      Reads cx p before (some a) between → between.length < before.length →
      Finds cx p between as after → Finds cx p before (a :: as) after

theorem Finds.reads_repeatFrom {p : Parser (Option α)} {as : List α}
    (h : Finds cx p before as after) {n : Nat} (hn : before.length < n) :
    Reads cx (repeatFrom p n) before as after := by
  induction h generalizing n with
  | none hp =>
    obtain ⟨n, rfl⟩ : ∃ m, n = m + 1 := ⟨n - 1, by omega⟩
    exact hp.bind (.pure _ _)
  | some hp hlt _ ih =>
    obtain ⟨n, rfl⟩ : ∃ m, n = m + 1 := ⟨n - 1, by omega⟩
    exact hp.bind ((ih (by omega)).bind (.pure _ _))

theorem Finds.reads_many {p : Parser (Option α)} {as : List α} (h : Finds cx p before as after) :
    Reads cx (many p) before as after := by
  rintro ls rfl
  exact h.reads_repeatFrom (n := ls.length + 1) (by simp) ls rfl

/-- A parser that finds nothing at once is not repeated. -/
theorem reads_many_nil {p : Parser (Option α)} (h : Reads cx p before none after) :
    Reads cx (many p) before [] after := (Finds.none h).reads_many

/-- The runs of a parser that carries a value along. -/
inductive Carries (cx : Context) (step : α → Parser (Option α)) :
    List Token → α → α → List Token → Prop where
  | none {before after : List Token} {a : α} :
      Reads cx (step a) before none after → Carries cx step before a a after
  | some {before between after : List Token} {a b c : α} :
      Reads cx (step a) before (some b) between → between.length < before.length →
      Carries cx step between b c after → Carries cx step before a c after

theorem Carries.reads_foldFrom {step : α → Parser (Option α)} {c : α}
    (h : Carries cx step before a c after) {n : Nat} (hn : before.length < n) :
    Reads cx (foldFrom step n a) before c after := by
  induction h generalizing n with
  | none hstep =>
    obtain ⟨n, rfl⟩ : ∃ m, n = m + 1 := ⟨n - 1, by omega⟩
    exact hstep.bind (.pure _ _)
  | some hstep hlt _ ih =>
    obtain ⟨n, rfl⟩ : ∃ m, n = m + 1 := ⟨n - 1, by omega⟩
    exact hstep.bind (ih (by omega))

theorem Carries.reads_fold {step : α → Parser (Option α)} {c : α}
    (h : Carries cx step before a c after) : Reads cx (fold a step) before c after := by
  rintro ls rfl
  exact h.reads_foldFrom (n := ls.length + 1) (by simp) ls rfl

theorem reads_loop {p : Parser Bool} (h : Reads cx p before false after) :
    Reads cx (loop p) before () after :=
  (reads_many_nil (h.bind (.pure none after))).bind (.pure () after)

/-- A single item between commas. -/
theorem reads_commaSeparated_one (h : Reads cx p before a after)
    (hcomma : after.head? ≠ some (.symbol .comma)) :
    Reads cx (commaSeparated p) before [a] after := by
  refine h.bind ((reads_many_nil ?_).bind (.pure _ after))
  exact (reads_acceptSymbol_false hcomma).bind (.pure none after)

theorem reads_parenthesized (h : Reads cx p before a (.symbol .rparen :: after)) :
    Reads cx (parenthesized p) (.symbol .lparen :: before) a after :=
  reads_expectSymbol.bind (h.bind (reads_expectSymbol.bind (.pure a after)))

theorem reads_nested {room : Nat} (hroom : cx.room = room + 1)
    (h : Reads { cx with room } p before a after) : Reads cx (nested p) before a after := by
  intro ls hls
  obtain ⟨rest, hrun, hrest⟩ := h ls hls
  exact ⟨rest, by simp only [nested, hroom]; exact hrun, hrest⟩

/-! ## Names and numbers -/

/-- A name between quotes is a name whatever it spells. -/
theorem reads_identifier (w : Word) :
    Reads cx identifier (.word w :: ts) ⟨w.value, w.quote⟩ ts := by
  intro ls hls
  obtain ⟨l, ls, rfl, hl, hls⟩ := List.map_eq_cons_iff.mp hls
  exact ⟨ls, by simp [identifier, bind_run, next, Located.token?, hl, pure_run], hls⟩

theorem refuses_identifier (h : Closed ts) : Refuses cx identifier ts := by
  rintro ls rfl
  cases ls with
  | nil => exact ⟨_, _, rfl, rfl⟩
  | cons l ls =>
    obtain ⟨s, hs⟩ := h l.token (by simp)
    exact ⟨.unexpected .identifier (some l), ls,
      by simp [identifier, bind_run, next, Located.token?, hs, expectedAt, fail], rfl⟩

theorem decimalBelow_ok {bound n : Nat} {cs : List Char} (hdigits : ∀ c ∈ cs, c.isDigit = true)
    (h : Nat.ofDigitChars 10 cs n < bound) :
    decimalBelow bound cs n = .ok (Nat.ofDigitChars 10 cs n) := by
  induction cs generalizing n with
  | nil => simp [decimalBelow]
  | cons c cs ih =>
    simp only [List.mem_cons, forall_eq_or_imp] at hdigits
    rw [Nat.ofDigitChars_cons, Nat.mul_comm] at h ⊢
    have hle : n * 10 + (c.toNat - 48) ≤ Nat.ofDigitChars 10 cs (n * 10 + (c.toNat - 48)) := by
      rw [Nat.ofDigitChars_eq_ofDigitChars_zero]
      exact Nat.le_trans (Nat.le_mul_of_pos_left _ (Nat.pow_pos (by decide))) (Nat.le_add_right _ _)
    have hlt : n * 10 + (c.toNat - 48) < bound := Nat.lt_of_le_of_lt hle h
    simp only [decimalBelow, hdigits.1, if_true, if_pos hlt]
    exact ih hdigits.2 h

/-- A number that fits its bits is read off its decimal form. -/
theorem reads_unsigned {bits n : Nat} {long : Bool} (h : n < Nat.pow 2 bits) :
    Reads cx (unsigned bits) (.number (toString n) long :: ts) n ts := by
  intro ls₀ hls₀
  obtain ⟨⟨_, pos⟩, ls, rfl, rfl, hls⟩ := List.map_eq_cons_iff.mp hls₀
  have hdigits : (toString n).toList = Nat.toDigits 10 n := by simp
  have hdecimal : decimalBelow (Nat.pow 2 bits) (toString n).toList 0 = .ok n := by
    rw [hdigits, decimalBelow_ok fun _ hc => Nat.isDigit_of_mem_toDigits (by decide) (by decide) hc,
      Nat.ofDigitChars_ten_toDigits]
    rwa [Nat.ofDigitChars_ten_toDigits]
  refine ⟨ls, ?_, hls⟩
  change numberOf bits (toString n) pos cx ls = _
  rw [numberOf, hdecimal]
  rfl

end EntityGen.Sql.Parser
