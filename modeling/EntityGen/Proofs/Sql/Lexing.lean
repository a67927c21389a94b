import EntityGen.Proofs.Sql.Canonical

/-!
# Lexing of printed texts

`Lexes r cs ts` says that a text has the tokens `ts`, wherever it begins, and is built up from the
steps of the lexer (`Steps.lexes`). A token is found in front of any text that does not run into it:
a word and a number must be separated from what follows (`steps_word`, `steps_digits`), and a
quoted name must not be followed by its quote (`steps_quotedName`).
-/

namespace EntityGen.Sql

variable {r : Rules} {cs rest run : List Char} {ts : List Token} {c : Char} {pos : Pos}
  {p : Char → Bool}

/-- A text has these tokens, at whatever place it begins. -/
def Lexes (r : Rules) (cs : List Char) (ts : List Token) : Prop :=
  ∀ (pos : Pos) (fuel : Nat), cs.length < fuel →
    ∃ ls, lexFrom r fuel ⟨cs, pos⟩ = .ok ls ∧ ls.map (·.token) = ts

theorem Lexes.lex (h : Lexes r cs ts) : ∃ ls, lex r cs = .ok ls ∧ ls.map (·.token) = ts :=
  h ⟨1, 1⟩ (cs.length + 1) (Nat.lt_succ_self _)

theorem lexes_nil : Lexes r [] [] := by
  intro pos fuel hfuel
  obtain ⟨fuel, rfl⟩ : ∃ n, fuel = n + 1 := ⟨fuel - 1, by simp at hfuel; omega⟩
  exact ⟨[], rfl, rfl⟩

/-- A step of the lexer on a text leaves the rest of it, wherever the text begins. -/
def Steps (r : Rules) (cs : List Char) (t? : Option Token) (rest : List Char) : Prop :=
  rest.length < cs.length ∧ ∀ pos, ∃ c tail pos',
    cs = c :: tail ∧ Source.step r c ⟨cs, pos⟩ = .ok (t?, ⟨rest, pos'⟩)

theorem Steps.lexes {t? : Option Token} (hstep : Steps r cs t? rest) (h : Lexes r rest ts) :
    Lexes r cs (t?.toList ++ ts) := by
  obtain ⟨hlt, hstep⟩ := hstep
  intro pos fuel hfuel
  obtain ⟨fuel, rfl⟩ : ∃ n, fuel = n + 1 := ⟨fuel - 1, by omega⟩
  obtain ⟨c, tail, pos', rfl, hrun⟩ := hstep pos
  obtain ⟨ls, hls, rfl⟩ := h pos' fuel (by omega)
  cases t? with
  | none => exact ⟨ls, by simp [lexFrom, hrun, hls, bind, Except.bind, pure, Except.pure], rfl⟩
  | some t =>
    exact ⟨⟨t, pos⟩ :: ls,
      by simp [lexFrom, hrun, hls, bind, Except.bind, pure, Except.pure], rfl⟩

theorem Steps.of_step {t? : Option Token} (hlt : rest.length < cs.length + 1)
    (h : ∀ pos, ∃ pos', Source.step r c ⟨c :: cs, pos⟩ = .ok (t?, ⟨rest, pos'⟩)) :
    Steps r (c :: cs) t? rest := by
  refine ⟨by simpa using hlt, fun pos => ?_⟩
  obtain ⟨pos', hrun⟩ := h pos
  exact ⟨c, cs, pos', rfl, hrun⟩

theorem Source.takeWhile_nil (h : ∀ c ∈ rest.head?, p c = false) :
    Source.takeWhile p ⟨rest, pos⟩ = ([], ⟨rest, pos⟩) := by
  cases rest with
  | nil => rfl
  | cons c rest => simp [Source.takeWhile, Source.takeWhileFrom, h c rfl]

theorem Source.takeWhile_run (hrun : ∀ c ∈ run, p c = true) (h : ∀ c ∈ rest.head?, p c = false)
    (pos : Pos) : ∃ pos', Source.takeWhile p ⟨run ++ rest, pos⟩ = (run, ⟨rest, pos'⟩) := by
  induction run generalizing pos with
  | nil => exact ⟨pos, takeWhile_nil h⟩
  | cons c run ih =>
    simp only [List.mem_cons, forall_eq_or_imp] at hrun
    obtain ⟨pos', htaken⟩ := ih hrun.2 (pos.after c)
    simp only [Source.takeWhile] at htaken
    exact ⟨pos', by simp [Source.takeWhile, Source.takeWhileFrom, hrun.1, htaken]⟩

/-- The characters that may follow a word or a number. -/
def separators : List Char := [' ', '(', ')', ',', ';']

/-- A text that runs into no word or number before it. -/
def Separated (cs : List Char) : Prop := ∀ c ∈ cs.head?, c ∈ separators

theorem separated_cons (h : c ∈ separators) : Separated (c :: cs) := by
  intro d hd
  obtain rfl : c = d := by simpa using hd
  exact h

/-- What holds of all separators holds of the next character. -/
theorem Separated.eq_false (h : Separated cs) (hp : separators.all (!p ·) = true) :
    ∀ c ∈ cs.head?, p c = false := by
  intro c hc
  simpa using List.all_eq_true.mp hp c (h c hc)

/-! ## What all dialects have in common -/

namespace Dialect

theorem startsWord_of_isAlpha (d : Dialect) (h : c.isAlpha = true) :
    d.rules.startsWord c = true := by
  have hletter : Text.isLetter c = true := by
    rw [Text.isLetter_of_ascii (Text.toNat_lt_of_isAlpha h), h]
  cases d
  · change (Text.isLetter c || _ || _ || _ || _) = true
    simp [hletter]
  · change (Text.isLetter c || _) = true
    simp [hletter]
  · change (c.isAlpha || _ || _) = true
    simp [h]
  · change (Text.isLetter c || _ || _ || _) = true
    simp [hletter]

theorem continuesWord_of_isAlpha (d : Dialect) (h : c.isAlpha = true) :
    d.rules.continuesWord c = true := by
  have hletter : Text.isLetter c = true := by
    rw [Text.isLetter_of_ascii (Text.toNat_lt_of_isAlpha h), h]
  cases d
  · change ((Text.isLetter c || _ || _ || _ || _) || _) = true
    simp [hletter]
  · change (Text.isLetter c || _ || _ || _) = true
    simp [hletter]
  · change ((c.isAlpha || _ || _) || _) = true
    simp [h]
  · change (Text.isLetter c || _ || _ || _ || _ || _) = true
    simp [hletter]

theorem not_continuesWord_of_separator (d : Dialect) :
    separators.all (!d.rules.continuesWord ·) = true := by
  cases d <;> decide

theorem not_wordQuotes_of_isAlphanum (d : Dialect) (h : c.isAlphanum = true) :
    d.rules.wordQuotes.contains c = false := by
  have hquotes : d.rules.wordQuotes.all (!·.isAlphanum) = true := by cases d <;> decide
  cases hc : d.rules.wordQuotes.contains c with
  | false => rfl
  | true =>
    have := List.all_eq_true.mp hquotes c (List.contains_iff_mem.mp hc)
    simp [h] at this

end Dialect

theorem lexes_space (h : Lexes r rest ts) : Lexes r (' ' :: rest) ts :=
  (Steps.of_step (Nat.lt_succ_self _) fun _ => ⟨_, rfl⟩ : Steps r (' ' :: rest) none rest).lexes h

/-! ## Symbols -/

/-- The symbols among the separators. -/
def separatingSymbols : List (Char × Symbol) :=
  [('(', .lparen), (')', .rparen), (',', .comma), (';', .semicolon)]

theorem steps_separator (d : Dialect) {s : Symbol} (h : (c, s) ∈ separatingSymbols) :
    Steps d.rules (c :: rest) (some (.symbol s)) rest := by
  refine Steps.of_step (Nat.lt_succ_self _) fun pos => ⟨pos.after c, ?_⟩
  simp only [separatingSymbols, List.mem_cons, Prod.mk.injEq, List.not_mem_nil, or_false] at h
  rcases h with ⟨rfl, rfl⟩ | ⟨rfl, rfl⟩ | ⟨rfl, rfl⟩ | ⟨rfl, rfl⟩ <;> cases d <;> rfl

theorem steps_period (d : Dialect) (hrest : ∀ c ∈ rest.head?, c.isDigit = false) :
    Steps d.rules ('.' :: rest) (some (.symbol .period)) rest := by
  refine Steps.of_step (Nat.lt_succ_self _) fun pos => ⟨pos.after '.', ?_⟩
  have hnumber : Source.step d.rules '.' ⟨'.' :: rest, pos⟩ =
      readNumber d.rules ⟨'.' :: rest, pos⟩ := by cases d <;> rfl
  have hwhole : Source.takeWhile Char.isDigit ⟨'.' :: rest, pos⟩ = ([], ⟨'.' :: rest, pos⟩) :=
    Source.takeWhile_nil (by simp)
  have hfraction : Source.takeWhile Char.isDigit ⟨rest, pos.after '.'⟩ =
    ([], ⟨rest, pos.after '.'⟩) := Source.takeWhile_nil hrest
  simp [hnumber, readNumber, hwhole, takeOptional, Source.peek?, Source.tail, hfraction, found]

/-! ## Numbers -/

/-- A run of digits is a number if no letter, period or sign of an exponent follows it. -/
theorem readNumber_digits (d : Dialect) {ds : List Char}
    (hds : ∀ c ∈ ds, c.isDigit = true) (hrest : Separated rest) (pos : Pos) :
    ∃ pos', readNumber d.rules ⟨ds ++ rest, pos⟩ =
      .ok (some (.number (String.ofList ds) false), ⟨rest, pos'⟩) := by
  have hhead {c : Char} (hc : c ∉ separators) : rest.head? ≠ some c :=
    fun heq => hc (hrest c heq)
  obtain ⟨pos', hwhole⟩ := Source.takeWhile_run hds (hrest.eq_false (by decide)) pos
  have hfraction : Source.takeWhile Char.isDigit ⟨rest, pos'⟩ = ([], ⟨rest, pos'⟩) :=
    Source.takeWhile_nil (hrest.eq_false (by decide))
  have hletters : Source.takeWhile (fun c => d.rules.digitWords && !false &&
      d.rules.continuesWord c) ⟨rest, pos'⟩ = ([], ⟨rest, pos'⟩) :=
    Source.takeWhile_nil fun c hc => by
      simp [hrest.eq_false d.not_continuesWord_of_separator c hc]
  have hexponent : readExponent ⟨rest, pos'⟩ = (false, [], ⟨rest, pos'⟩) := by
    cases rest with
    | nil => rfl
    | cons c rest =>
      have hlower : c ≠ 'e' := fun h => hhead (c := 'e') (by decide) (by simp [h])
      have hupper : c ≠ 'E' := fun h => hhead (c := 'E') (by decide) (by simp [h])
      simp [readExponent, hlower, hupper]
  have hpoint : ds ≠ ['.'] := by
    rintro rfl
    exact absurd (hds '.' List.mem_cons_self) (by decide)
  refine ⟨pos', ?_⟩
  have hx : rest.head? ≠ some 'x' := hhead (by decide)
  have hdot : rest.head? ≠ some '.' := hhead (by decide)
  have hlong : rest.head? ≠ some 'L' := hhead (by decide)
  simp only [readNumber, takeOptional, endNumber, hwhole, Source.peek?, hx, and_false, if_false,
    hdot, hfraction, hexponent, List.append_nil, hletters, List.isEmpty_nil, if_true, Bool.not_true,
    hlong, found, hpoint]

theorem step_eq_readOther_of_isDigit (hc : c.isDigit = true) (s : Source) :
    Source.step r c s = readOther r c s := by
  unfold Source.step
  split <;> first | rfl | exact absurd hc (by decide)

theorem steps_digits (d : Dialect) {ds : List Char} (hne : ds ≠ [])
    (hds : ∀ c ∈ ds, c.isDigit = true) (hrest : Separated rest) :
    Steps d.rules (ds ++ rest) (some (.number (String.ofList ds) false)) rest := by
  obtain ⟨c, cs, rfl⟩ := List.exists_cons_of_ne_nil hne
  have hc : c.isDigit = true := hds c List.mem_cons_self
  have hquotes : d.rules.wordQuotes.contains c = false :=
    d.not_wordQuotes_of_isAlphanum (by simp [Char.isAlphanum, hc])
  have hdouble : c ≠ '\x22' := by
    rintro rfl
    simp at hc
  have hlt : rest.length < (cs ++ rest).length + 1 := by
    rw [List.length_append]
    omega
  refine Steps.of_step hlt fun pos => ?_
  obtain ⟨pos', hnumber⟩ := readNumber_digits d hds hrest pos
  refine ⟨pos', ?_⟩
  rw [step_eq_readOther_of_isDigit hc]
  simp only [readOther, hquotes, hdouble, hc, Bool.true_or, if_true, if_false, Bool.false_eq_true]
  exact hnumber

/-! ## Words -/

/-- No symbol is spelled with a character that none of them begins with. -/
theorem Symbol.ofText?_eq_none (hheads : Symbol.spellings.all (·.1.head?.any (!p ·)) = true)
    (hc : p c = true) : Symbol.ofText? (c :: cs) = none := by
  refine List.find?_eq_none.mpr fun entry hentry hprefix => ?_
  have hhead := List.all_eq_true.mp hheads entry hentry
  obtain ⟨spelling, symbol⟩ := entry
  cases spelling with
  | nil => simp at hhead
  | cons e spelling =>
    have heq : e = c := (List.cons_prefix_cons.mp (List.isPrefixOf_iff_prefix.mp hprefix)).1
    simp [heq, hc] at hhead

/-- A letter begins a word, unless a quote or `&` after it makes it the mark of a string. -/
theorem step_of_isAlpha (d : Dialect) (hc : c.isAlpha = true)
    (hcs : ∀ e ∈ cs.head?, e ≠ '\x27' ∧ e ≠ '\x22' ∧ e ≠ '&') (pos : Pos) :
    Source.step d.rules c ⟨c :: cs, pos⟩ = readWord d.rules [c] ⟨cs, pos.after c⟩ := by
  have hsingle : cs.head? ≠ some '\x27' := fun h => (hcs _ h).1 rfl
  have hand : cs.take 2 ≠ ['&', '\x27'] := by
    intro h
    cases cs with
    | nil => cases h
    | cons e cs => exact (hcs e rfl).2.2 (by simpa using congrArg List.head? h)
  have hother : readOther d.rules c ⟨c :: cs, pos⟩ = readWord d.rules [c] ⟨cs, pos.after c⟩ := by
    have hsymbol : readSymbol d.rules ⟨c :: cs, pos⟩ = none := by
      have hbang : c ≠ '!' := by rintro rfl; simp at hc
      simp [readSymbol, Symbol.ofText?_eq_none (p := Char.isAlpha) (by decide) hc, hbang]
    have hne : c ≠ '\x22' ∧ c ≠ '.' ∧ c ≠ '/' ∧ c ≠ '?' ∧ c ≠ '#' ∧ c ≠ '@' := by
      refine ⟨?_, ?_, ?_, ?_, ?_, ?_⟩ <;> rintro rfl <;> simp at hc
    have hdigit : c.isDigit = false := Text.isDigit_eq_false_of_isAlpha hc
    have hquotes : d.rules.wordQuotes.contains c = false :=
      d.not_wordQuotes_of_isAlphanum (by simp [Char.isAlphanum, hc])
    obtain ⟨hquote, hdot, hslash, hquestion, hsharp, hat⟩ := hne
    simp only [readOther, readUnmarked, hquotes, hquote, hdigit, hdot, hslash, hquestion, hsharp,
      hat, hsymbol, d.startsWord_of_isAlpha hc, Source.tail, Bool.false_eq_true, if_false, if_true,
      false_and, or_self, Bool.or_self, decide_false]
  have hnone : Source.peekQuote? ⟨cs, pos.after c⟩ = none := by
    rw [Source.peekQuote?, Option.filter_eq_none_iff]
    intro e he
    simp [(hcs e he).1, (hcs e he).2.1]
  unfold Source.step readByteString readRawString readMarkedString readEscapedString
    readUnicodeString
  split <;> simp [Source.tail, Source.peek?, hsingle, hand, hother, hnone] at hc ⊢

theorem steps_word (d : Dialect) {word : List Char} (hne : word ≠ [])
    (hword : ∀ c ∈ word, c.isAlpha = true) (hrest : Separated rest) :
    Steps d.rules (word ++ rest) (some (.word (.plain (String.ofList word)))) rest := by
  obtain ⟨c, cs, rfl⟩ := List.exists_cons_of_ne_nil hne
  simp only [List.mem_cons, forall_eq_or_imp] at hword
  obtain ⟨hc, hcs⟩ := hword
  have hlt : rest.length < (cs ++ rest).length + 1 := by
    rw [List.length_append]
    omega
  refine Steps.of_step hlt fun pos => ?_
  have hhead : ∀ e ∈ (cs ++ rest).head?, e ≠ '\x27' ∧ e ≠ '\x22' ∧ e ≠ '&' := by
    intro e he
    cases cs with
    | nil =>
      have := hrest e he
      simp [separators] at this
      rcases this with rfl | rfl | rfl | rfl | rfl <;> decide
    | cons e' cs =>
      obtain rfl : e' = e := by simpa using he
      have := hcs e' List.mem_cons_self
      refine ⟨?_, ?_, ?_⟩ <;> rintro rfl <;> simp at this
  obtain ⟨pos', hmore⟩ := Source.takeWhile_run
    (fun e he => d.continuesWord_of_isAlpha (hcs e he))
    (hrest.eq_false d.not_continuesWord_of_separator) (pos.after c)
  refine ⟨pos', ?_⟩
  change Source.step d.rules c ⟨c :: (cs ++ rest), pos⟩ = _
  rw [step_of_isAlpha d hc hhead]
  simp only [readWord, hmore]
  rfl

/-! ## Quoted names -/

open Canonical (doubled quotedName)

theorem quotedBody_cons_of_ne {q : Char} (hc : c ≠ q) (pos : Pos) :
    quotedBody q false pos (c :: cs) = push c (quotedBody q false (pos.after c) cs) := by
  rw [quotedBody.eq_def]
  simp [hc]

/-- A text whose quotes are doubled is read up to the quote that closes it. -/
theorem quotedBody_doubled (q : Char) (cs : List Char) (hrest : rest.head? ≠ some q) (pos : Pos) :
    ∃ pos', quotedBody q false pos (doubled q cs ++ q :: rest) = some (cs, ⟨rest, pos'⟩) := by
  induction cs generalizing pos with
  | nil =>
    refine ⟨pos.after q, ?_⟩
    cases rest with
    | nil => simp [doubled, quotedBody]
    | cons c rest =>
      have hc : c ≠ q := by simpa using hrest
      simp [doubled, quotedBody, hc]
  | cons c cs ih =>
    by_cases hc : c = q
    · subst hc
      obtain ⟨pos', hbody⟩ := ih ((pos.after c).after c)
      exact ⟨pos', by simp [Canonical.doubled_cons, quotedBody, hbody, push]⟩
    · obtain ⟨pos', hbody⟩ := ih (pos.after c)
      refine ⟨pos', ?_⟩
      rw [Canonical.doubled_cons, if_neg hc, List.singleton_append, List.cons_append,
        quotedBody_cons_of_ne hc, hbody]
      rfl

theorem steps_quotedName (d : Dialect) (name : String) (hrest : rest.head? ≠ some d.nameQuote) :
    Steps d.rules ((quotedName d.nameQuote name).toList ++ rest)
      (some (.word (.quoted d.nameQuote name))) rest := by
  have htext : (quotedName d.nameQuote name).toList ++ rest =
      d.nameQuote :: (doubled d.nameQuote name.toList ++ d.nameQuote :: rest) := by
    simp [quotedName]
  rw [htext]
  refine Steps.of_step (by rw [List.length_append, List.length_cons]; omega) fun pos => ?_
  obtain ⟨pos', hbody⟩ := quotedBody_doubled d.nameQuote name.toList hrest (pos.after d.nameQuote)
  refine ⟨pos', ?_⟩
  have hstep (s : Source) : Source.step d.rules d.nameQuote s = readQuotedWord d.nameQuote s := by
    cases d <;> rfl
  have hclosing : closingQuote d.nameQuote = d.nameQuote := by cases d <;> rfl
  simp only [hstep, readQuotedWord, hclosing, Source.tail, hbody, found, String.ofList_toList]

end EntityGen.Sql
