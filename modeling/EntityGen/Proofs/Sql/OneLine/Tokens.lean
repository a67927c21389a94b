import EntityGen.Proofs.Sql.OneLine.Quoted
import Mathlib.Data.List.Find

/-!
# Tokens on one line

A token in which no line break stands is read off one line as well (`readOther_kept` and the lemmas
on marked strings). What a reader asks of the characters after its token is the same on one line:
whether they continue a word, a number or an operator.
-/

namespace EntityGen.Sql

open Prompt.Editor (flatten)

variable {r : Rules} {c quote : Char} {cs : List Char} {s s' u : Source} {t? : Option Token}

/-! ## The rules -/

namespace Dialect

theorem blind_continuesWord (d : Dialect) : Blind d.rules.continuesWord :=
  blind_iff.mpr (by cases d <;> decide +kernel)

theorem blind_lengthensOperator (d : Dialect) : Blind d.rules.lengthensOperator :=
  blind_iff.mpr (by cases d <;> decide +kernel)

theorem solid_wordQuote (d : Dialect) (h : d.rules.wordQuotes.contains c = true) :
    Solid (closingQuote c) := by
  have hall : (d.rules.wordQuotes.all fun q => Solid (closingQuote q)) = true := by
    cases d <;> decide
  exact of_decide_eq_true (List.all_eq_true.mp hall c (List.contains_iff_mem.mp h))

end Dialect

/-! ## Words and strings -/

theorem readWord_kept (hr : Blind r.continuesWord) {first : List Char}
    (h : readWord r first s = .ok (t?, s')) :
    Kept s s' fun u u' => readWord r first u = .ok (t?, u') := by
  obtain ⟨more, s₁, hmore⟩ : ∃ more s₁, s.takeWhile r.continuesWord = (more, s₁) := ⟨_, _, rfl⟩
  simp only [readWord, hmore, found] at h
  cases h
  exact (Kept.takeWhile hr hmore).mono fun u u' _ hu => by simp only [readWord, hu, found]

/-- A letter that marks no string begins a word. -/
theorem tail_readWord_kept (d : Dialect) {first : List Char}
    (h : readWord d.rules first s.tail = .ok (t?, s')) :
    Kept s s' fun u u' => readWord d.rules first u.tail = .ok (t?, u') :=
  (readWord_kept d.blind_continuesWord h).after_tail fun _ _ _ hu => hu

theorem quoted_kept (hquote : Solid quote) {escapes : Bool} {body : List Char}
    (h : quotedBody quote escapes s.tail.pos s.tail.rest = some (body, s')) :
    Kept s s' fun u u' => quotedBody quote escapes u.tail.pos u.tail.rest = some (body, u') :=
  (quotedBody_kept hquote h).after_tail fun _ _ _ hu => hu

theorem readString_kept (hquote : Solid quote) {kind : Literal} {escapes : Bool}
    (h : readString kind quote escapes s = .ok (t?, s')) :
    Kept s s' fun u u' => readString kind quote escapes u = .ok (t?, u') := by
  rw [readString] at h
  split at h
  · rename_i body s₁ hbody
    cases h
    exact (quoted_kept hquote hbody).mono fun u u' _ hu => by simp only [readString, hu, found]
  · cases h

theorem readQuotedWord_kept (hquote : Solid (closingQuote quote))
    (h : readQuotedWord quote s = .ok (t?, s')) :
    Kept s s' fun u u' => readQuotedWord quote u = .ok (t?, u') := by
  rw [readQuotedWord] at h
  split at h
  · rename_i body s₁ hbody
    cases h
    exact (quoted_kept hquote hbody).mono fun u u' _ hu => by
      simp only [readQuotedWord, hu, found]
  · cases h

theorem readRaw_single_kept (hquote : Solid quote) (h : readRaw.single quote s = .ok (t?, s')) :
    Kept s s' fun u u' => readRaw.single quote u = .ok (t?, u') := by
  rw [readRaw.single] at h
  split at h
  · rename_i body s₁ hbody
    cases h
    exact (quoted_kept hquote hbody).mono fun u u' _ hu => by
      simp only [readRaw.single, hu, found]
  · cases h

/-- A raw string whose second character is no quote ends at the next quote. -/
theorem readRaw_eq_single (h : s.rest[1]? ≠ some quote) :
    readRaw quote s = readRaw.single quote s := by
  obtain ⟨_ | ⟨a, _ | ⟨b, _ | ⟨c, cs⟩⟩⟩, pos⟩ := s <;> simp_all [readRaw]

/-- Two quotes that no third one follows are an empty raw string. -/
theorem readRaw_eq_empty {a : Char} {pos : Pos} (h : ¬ (a = quote ∧ cs.head? = some quote)) :
    readRaw quote ⟨a :: quote :: cs, pos⟩ =
      found (.literal (.raw quote 1) "") (Source.drop 2 ⟨a :: quote :: cs, pos⟩) := by
  cases cs <;> simp_all [readRaw]

theorem readRaw_kept (hquote : Solid quote) (h : readRaw quote s = .ok (t?, s')) :
    Kept s s' fun u u' => readRaw quote u = .ok (t?, u') := by
  by_cases hsecond : s.rest[1]? = some quote
  · obtain ⟨_ | ⟨a, _ | ⟨b, cs⟩⟩, pos⟩ := s
    · simp at hsecond
    · simp at hsecond
    obtain rfl : b = quote := by simpa using hsecond
    by_cases htriple : a = b ∧ cs.head? = some b
    · obtain ⟨rfl, hhead⟩ := htriple
      obtain ⟨cs, rfl⟩ := List.head?_eq_some_iff.mp hhead
      simp only [readRaw, if_pos, and_self] at h
      split at h
      · rename_i body s₁ hbody
        cases h
        refine (tripleBody_kept hbody).drop (s := ⟨a :: a :: a :: cs, pos⟩) 3 fun pos u' hu => ?_
        have hu : tripleBody a 0 [] (((pos.after a).after a).after a) (cs.map flatten) =
            some (body, u') := hu
        simp [readRaw, hu, found]
      · cases h
    · rw [readRaw_eq_empty htriple] at h
      cases h
      have hflat : ¬ (a = b ∧ (cs.map flatten).head? = some b) := by
        rwa [head?_map_flatten_eq_iff hquote]
      exact .of_drop (s := ⟨a :: b :: cs, pos⟩) 2 fun pos => readRaw_eq_empty hflat
  · rw [readRaw_eq_single hsecond] at h
    refine (readRaw_single_kept hquote h).mono fun u u' hflat hu => ?_
    rwa [readRaw_eq_single]
    rw [hflat]
    cases hrest : s.rest[1]? with
    | none => simp [hrest]
    | some c =>
      simp only [List.getElem?_map, hrest, Option.map_some, ne_eq, Option.some.injEq] at hsecond ⊢
      exact mt (flatten_eq_iff hquote).mp hsecond

/-! ## Numbers -/

theorem signOf_map_flatten (cs : List Char) : signOf (cs.map flatten) = signOf cs := by
  cases cs with
  | nil => rfl
  | cons c cs =>
    by_cases hplus : c = '+'
    · subst hplus
      rfl
    by_cases hminus : c = '-'
    · subst hminus
      rfl
    have hplus' := mt (flatten_eq_iff (show Solid '+' by decide)).mp hplus
    have hminus' := mt (flatten_eq_iff (show Solid '-' by decide)).mp hminus
    simp [signOf, hplus, hminus, hplus', hminus']

theorem readExponent_kept {begun : Bool} {exponent : List Char}
    (h : readExponent s = (begun, exponent, s')) :
    Kept s s' fun u u' => readExponent u = (begun, exponent, u') := by
  obtain ⟨_ | ⟨e, cs⟩, pos⟩ := s
  · cases h
    exact .refl fun u hu => by simp [readExponent, hu.rest_nil]
  by_cases he : e = 'e' ∨ e = 'E'
  · have he' : flatten e = e := by obtain rfl | rfl := he <;> rfl
    obtain ⟨digits, s₁, hdigits⟩ : ∃ digits s₁,
        (Source.drop ((signOf cs).length + 1) ⟨e :: cs, pos⟩).takeWhile Char.isDigit =
          (digits, s₁) := ⟨_, _, rfl⟩
    have hread (u : Source) (hu : Flat ⟨e :: cs, pos⟩ u) : readExponent u =
        let found := (u.drop ((signOf cs).length + 1)).takeWhile Char.isDigit
        if found.1.isEmpty then (true, [], u) else (true, e :: signOf cs ++ found.1, found.2) := by
      simp only [readExponent, hu.rest_cons, he', if_pos he, signOf_map_flatten]
    simp only [readExponent, if_pos he, hdigits] at h
    by_cases hnone : digits.isEmpty = true
    · rw [if_pos hnone] at h
      cases h
      refine .refl fun u hu => ?_
      have hempty := (hu.drop ((signOf cs).length + 1)).takeWhile_fst blind_isDigit
      rw [hdigits] at hempty
      simp only [hread u hu, hempty, List.isEmpty_map, if_pos hnone]
    · rw [if_neg hnone] at h
      cases h
      refine (Kept.takeWhile blind_isDigit hdigits).after_drop _ fun u u' hflat hu => ?_
      simp only [hread u hflat, hu, if_neg hnone]
  · have he' : ¬ (flatten e = 'e' ∨ flatten e = 'E') := by
      rwa [flatten_eq_iff (by decide), flatten_eq_iff (by decide)]
    simp only [readExponent, if_neg he] at h
    cases h
    exact .refl fun u hu => by simp only [readExponent, hu.rest_cons, if_neg he']

theorem takeOptional_kept (hc : Solid c) {run : List Char} (h : takeOptional c s = (run, s')) :
    Kept s s' fun u u' => takeOptional c u = (run, u') := by
  unfold takeOptional at h ⊢
  refine .ite (fun _ hu => hu.peek?_eq_iff hc) (fun _ h => ?_) (fun _ h => ?_) h
  · cases h
    exact .ends_tail fun u _ => rfl
  · cases h
    exact .refl fun u _ => rfl

theorem endNumber_kept (hr : Blind r.continuesWord) {digits : List Char}
    (h : endNumber r digits s = .ok (t?, s')) :
    Kept s s' fun u u' => endNumber r digits u = .ok (t?, u') := by
  obtain ⟨begun, exponent, s₁, hexponent⟩ :
    ∃ begun exponent s₁, readExponent s = (begun, exponent, s₁) := ⟨_, _, _, rfl⟩
  obtain ⟨letters, s₂, hletters⟩ : ∃ letters s₂, s₁.takeWhile
    (fun c => r.digitWords && !begun && r.continuesWord c) = (letters, s₂) := ⟨_, _, rfl⟩
  have hblind : Blind fun c => r.digitWords && !begun && r.continuesWord c :=
    fun c => congrArg (r.digitWords && !begun && ·) (hr c)
  have hread := (readExponent_kept hexponent).trans (.takeWhile hblind hletters)
  simp only [endNumber, hexponent, hletters] at h
  split at h
  · rename_i hnone
    obtain ⟨mark, s₃, hmark⟩ : ∃ mark s₃, takeOptional 'L' s₂ = (mark, s₃) := ⟨_, _, rfl⟩
    simp only [hmark, found] at h
    cases h
    refine (hread.trans (takeOptional_kept (by decide) hmark)).mono fun u u' _ hu => ?_
    obtain ⟨u₂, ⟨u₁, hu₁, hu₂⟩, hu'⟩ := hu
    simp only [endNumber, hu₁, hu₂, if_pos hnone, hu', found]
  · rename_i hsome
    cases h
    refine hread.mono fun u u' _ hu => ?_
    obtain ⟨u₁, hu₁, hu₂⟩ := hu
    simp only [endNumber, hu₁, hu₂, if_neg hsome, found]

theorem readNumber_kept (hr : Blind r.continuesWord) (h : readNumber r s = .ok (t?, s')) :
    Kept s s' fun u u' => readNumber r u = .ok (t?, u') := by
  obtain ⟨whole, s₁, hwhole⟩ : ∃ whole s₁, s.takeWhile Char.isDigit = (whole, s₁) := ⟨_, _, rfl⟩
  have hwhole' := Kept.takeWhile blind_isDigit hwhole
  have hx (u : Source) (hu : Flat s₁ u) := hu.peek?_eq_iff (show Solid 'x' by decide)
  simp only [readNumber, hwhole] at h
  split at h
  · rename_i hhex
    obtain ⟨digits, s₂, hdigits⟩ : ∃ digits s₂, s₁.tail.takeWhile isHexDigit = (digits, s₂) :=
      ⟨_, _, rfl⟩
    simp only [hdigits, found] at h
    cases h
    refine (hwhole'.trans ((Kept.takeWhile blind_isHexDigit hdigits).after_tail
      fun u u' hu hu' => And.intro (hx u hu) hu')).mono fun u u' _ hu => ?_
    obtain ⟨u₁, hu₁, hpeek, hu₂⟩ := hu
    simp only [readNumber, hu₁, hpeek, hhex, and_self, if_pos, hu₂, found]
  · rename_i hhex
    obtain ⟨point, s₂, hpoint⟩ : ∃ point s₂, takeOptional '.' s₁ = (point, s₂) := ⟨_, _, rfl⟩
    obtain ⟨fraction, s₃, hfraction⟩ :
      ∃ fraction s₃, s₂.takeWhile Char.isDigit = (fraction, s₃) := ⟨_, _, rfl⟩
    simp only [hpoint, hfraction] at h
    have hfraction' := (takeOptional_kept (by decide) hpoint).trans
      (.takeWhile blind_isDigit hfraction)
    have hdigits := hwhole'.trans (hfraction'.and_flat hx)
    split at h
    · rename_i hperiod
      cases h
      refine hdigits.mono fun u u' _ hu => ?_
      obtain ⟨u₁, hu₁, hpeek, u₂, hu₂, hu₃⟩ := hu
      simp only [readNumber, hu₁, hpeek, if_neg hhex, hu₂, hu₃, if_pos hperiod, found]
    · rename_i hperiod
      refine (hdigits.trans (endNumber_kept hr h)).mono fun u u' _ hu => ?_
      obtain ⟨u₃, ⟨u₁, hu₁, hpeek, u₂, hu₂, hu₃⟩, hu'⟩ := hu
      simp only [readNumber, hu₁, hpeek, if_neg hhex, hu₂, hu₃, if_neg hperiod, hu']

/-! ## Dollar signs -/

/-- Whether a character may stand in the tag between two dollar signs. -/
def isTagChar (c : Char) : Bool := Text.isLetter c || Text.isNumeric c || c == '_'

theorem blind_isTagChar : Blind isTagChar := blind_iff.mpr (by decide +kernel)

theorem solid_of_tag {tag : List Char} (h : s.takeWhile isTagChar = (tag, s')) :
    ∀ c ∈ tag, Solid c := by
  intro c hc
  obtain rfl : s.rest.takeWhile _ = tag := by rw [← Source.takeWhile_fst, h]
  exact blind_isTagChar.solid (by decide +kernel) (List.all_eq_true.mp List.all_takeWhile c hc)

theorem readDollar_kept (h : readDollar s = .ok (t?, s')) :
    Kept s s' fun u u' => readDollar u = .ok (t?, u') := by
  unfold readDollar at h ⊢
  dsimp only at h ⊢
  refine .ite (fun _ hu => hu.tail.peek?_eq_iff (by decide)) (fun _ h => ?_) (fun _ h => ?_) h
  · split at h
    · rename_i body s₁ hbody
      cases h
      refine ((dollarBody_kept hbody).after_tail fun _ _ _ hu => hu).after_tail
        fun u u' _ hu => ?_
      simp only [hu, found]
    · cases h
  · obtain ⟨tag, s₁, htag⟩ : ∃ tag s₁, s.tail.takeWhile isTagChar = (tag, s₁) := ⟨_, _, rfl⟩
    have hstart : Kept s s₁ fun u u₁ => u.tail.takeWhile isTagChar = (tag, u₁) :=
      (Kept.takeWhile blind_isTagChar htag).after_tail fun _ _ _ hu => hu
    have hsolid := solid_of_tag htag
    unfold isTagChar at htag hstart
    have hmark (u : Source) (hu : Flat s₁ u) := hu.peek?_eq_iff (show Solid '$' by decide)
    simp only [htag] at h
    split at h
    · rename_i hclosed
      split at h
      · rename_i body s₂ hbody
        cases h
        have htagged : Kept s₁ s' fun u u' => u.peek? = some '$' ∧
            taggedBody tag (u.rest.length + 1) u.tail = .ok (body, u') :=
          (taggedBody_kept hsolid hbody).after_tail fun u u' hflat hu =>
            ⟨(hmark u hflat).mpr hclosed, by rw [hflat.length_eq, hu]⟩
        refine (hstart.trans htagged).mono fun u u' _ ⟨u₁, hu₁, hclosed', hu'⟩ => ?_
        simp only [hu₁, if_pos hclosed', hu', found]
      · cases h
    · rename_i hplain
      cases h
      have hend : Kept s' s' fun u u' => ¬ u.peek? = some '$' ∧ u' = u :=
        .refl fun u hu => ⟨mt (hmark u hu).mp hplain, rfl⟩
      refine (hstart.trans hend).mono fun u u' _ ⟨u₁, hu₁, hplain', heq⟩ => ?_
      simp only [hu₁, if_neg hplain', heq, found]

/-! ## Symbols -/

theorem Symbol.ofText?_map_flatten : Symbol.ofText? (cs.map flatten) = Symbol.ofText? cs := by
  have hall : (Symbol.spellings.all fun entry => entry.1.all (Solid ·)) = true := by decide
  simp only [Symbol.ofText?]
  apply List.find?_congr
  intro entry hentry
  exact isPrefixOf_map_flatten (solid_of_all (List.all_eq_true.mp hall entry hentry))

theorem Flat.ofText?_eq (hu : Flat s u) : Symbol.ofText? u.rest = Symbol.ofText? s.rest := by
  rw [hu, Symbol.ofText?_map_flatten]

theorem readSymbol_eq_none_of_flat (h : readSymbol r s = none) (hu : Flat s u) :
    readSymbol r u = none := by
  rw [readSymbol] at h ⊢
  rw [hu.ofText?_eq]
  split at h
  · cases h
  · rename_i hneq
    rw [if_neg (mt (hu.take_eq_iff (solid_of_all (by decide)) 2).mp hneq)]
    simpa using h

theorem readSymbol_kept (hr : Blind r.lengthensOperator) {t : Token}
    (h : readSymbol r s = some (t, s')) :
    Kept s s' fun u u' => readSymbol r u = some (t, u') := by
  have hiff (u : Source) (hu : Flat s u) :
      u.rest.take 2 = ['!', '='] ↔ s.rest.take 2 = ['!', '='] :=
    hu.take_eq_iff (solid_of_all (by decide)) 2
  by_cases hneq : s.rest.take 2 = ['!', '=']
  · simp only [readSymbol, if_pos hneq] at h
    cases h
    exact .ends 2 fun u hu => by simp only [readSymbol, if_pos ((hiff u hu).mpr hneq)]
  simp only [readSymbol, if_neg hneq, Option.map_eq_some_iff] at h
  obtain ⟨⟨spelling, symbol⟩, hfound, h⟩ := h
  obtain ⟨more, s₁, hmore⟩ : ∃ more s₁,
    (s.drop spelling.length).takeWhile r.lengthensOperator = (more, s₁) := ⟨_, _, rfl⟩
  have hread (u : Source) (hu : Flat s u) : readSymbol r u =
      let rest := (u.drop spelling.length).takeWhile r.lengthensOperator
      some (if symbol.lengthens && !rest.1.isEmpty then
        (.operator (String.ofList (spelling ++ rest.1)), rest.2)
        else (.symbol symbol, u.drop spelling.length)) := by
    simp only [readSymbol, if_neg (mt (hiff u hu).mp hneq), hu.ofText?_eq, hfound, Option.map_some]
  simp only [hmore] at h
  by_cases hlengthens : (symbol.lengthens && !more.isEmpty) = true
  · rw [if_pos hlengthens] at h
    cases h
    refine (Kept.takeWhile hr hmore).after_drop _ fun u u' hflat hu => ?_
    simp only [hread u hflat, hu, if_pos hlengthens]
  · rw [if_neg hlengthens] at h
    cases h
    refine .ends _ fun u hu => ?_
    have hempty := (hu.drop spelling.length).takeWhile_fst hr
    rw [hmore] at hempty
    simp only [hread u hu, hempty, List.isEmpty_map, if_neg hlengthens]

theorem signedStart?_kept {first : List Char} (h : signedStart? s.rest = some first) :
    Kept s (s.drop first.length) fun u u' =>
      signedStart? u.rest = some first ∧ u' = u.drop first.length := by
  obtain ⟨rest, pos⟩ := s
  simp only at h
  revert h
  fun_cases signedStart? rest with
  | case8 c cs hc =>
    intro h
    cases h
    exact .of_drop (s := ⟨'@' :: '@' :: c :: cs, pos⟩) 3 fun pos => by simp [signedStart?]
  | case10 c d cs h₁ h₂ h₃ h₄ h₅ h₆ _ h₇ h₈ =>
    intro h
    cases h
    have hat : ¬ (c = '@' ∧ d = '@') := by
      rintro ⟨rfl, rfl⟩
      cases cs with
      | nil => exact h₈ rfl rfl rfl
      | cons e es => exact h₇ e es rfl rfl rfl
    refine .of_drop (s := ⟨c :: d :: cs, pos⟩) 2 fun pos => ⟨?_, rfl⟩
    simp only [List.take_succ_cons, List.take_zero, List.drop_succ_cons, List.drop_zero,
      List.cons_append, List.nil_append]
    rw [signedStart?.eq_def]
    split <;> simp_all
  | _ => nofun

theorem signedStart?_map_flatten_eq_none (h : signedStart? cs = none) :
    signedStart? (cs.map flatten) = none := by
  revert h
  fun_cases signedStart? cs with
  | case8 | case10 => nofun
  | case11 =>
    intro _
    obtain _ | ⟨c, _ | ⟨d, cs⟩⟩ := cs
    · rfl
    · simp [signedStart?]
    · simp_all
  | _ => intro _; rfl

theorem readMark_kept (d : Dialect) (h : readMark d.rules c s = .ok (t?, s')) :
    Kept s s' fun u u' => readMark d.rules c u = .ok (t?, u') := by
  cases hsymbol : readSymbol d.rules s with
  | some read =>
    obtain ⟨t, s₁⟩ := read
    rw [readMark, hsymbol] at h
    cases h
    refine (readSymbol_kept d.blind_lengthensOperator hsymbol).mono fun u u' _ hu => ?_
    rw [readMark, hu]
    rfl
  | none =>
    rw [readMark, hsymbol] at h
    cases h
    exact .ends_tail fun u hu => by rw [readMark, readSymbol_eq_none_of_flat hsymbol hu, found]

theorem readQuestion_kept (h : readQuestion r s = .ok (t?, s')) :
    Kept s s' fun u u' => readQuestion r u = .ok (t?, u') := by
  unfold readQuestion at h ⊢
  refine .ite (fun _ _ => .rfl) (fun _ h => ?_) (fun _ h => ?_) h
  · have hpipe (u : Source) (hu : Flat s u) :=
      hu.tail.peek?_eq_iff (show Solid '|' by decide)
    have hand (u : Source) (hu : Flat s u) :=
      hu.tail.peek?_eq_iff (show Solid '&' by decide)
    split at h
    · rename_i hnext
      cases h
      refine .ends 2 fun u hu => ?_
      rw [(hpipe u hu).mpr hnext]
      rfl
    · rename_i hnext
      cases h
      refine .ends 2 fun u hu => ?_
      rw [(hand u hu).mpr hnext]
      rfl
    · rename_i hnoPipe hnoAnd
      cases h
      refine .ends 2 fun u hu => ?_
      split
      · exact absurd ((hpipe u hu).mp (by assumption)) hnoPipe
      · exact absurd ((hand u hu).mp (by assumption)) hnoAnd
      · rfl
  · obtain ⟨digits, s₁, hdigits⟩ : ∃ digits s₁, s.tail.takeWhile Text.isNumeric = (digits, s₁) :=
      ⟨_, _, rfl⟩
    have hblind : Blind Text.isNumeric := blind_iff.mpr (by decide +kernel)
    simp only [hdigits, found] at h
    cases h
    refine (Kept.takeWhile hblind hdigits).after_tail fun u u' _ hu => ?_
    simp only [hu, found]

/-! ## What begins with no mark -/

theorem readSigned_kept (d : Dialect) (h : readSigned d.rules c s = .ok (t?, s')) :
    Kept s s' fun u u' => readSigned d.rules c u = .ok (t?, u') := by
  by_cases hword : d.rules.startsWord c = true
  · cases hstart : signedStart? s.rest with
    | some first =>
      rw [readSigned, hstart] at h
      simp only [if_pos hword] at h
      refine ((signedStart?_kept hstart).trans (readWord_kept d.blind_continuesWord h)).mono
        fun u u' _ hu => ?_
      obtain ⟨_, ⟨hfirst, rfl⟩, hu'⟩ := hu
      rw [readSigned, hfirst]
      simp only [if_pos hword, hu']
    | none =>
      rw [readSigned, hstart] at h
      refine (readMark_kept d h).mono fun u u' hflat hu => ?_
      rw [readSigned, hflat, signedStart?_map_flatten_eq_none hstart]
      exact hu
  · have hmark (u : Source) : readSigned d.rules c u = readMark d.rules c u := by
      rw [readSigned]
      split <;> simp [hword]
    rw [hmark] at h
    exact (readMark_kept d h).mono fun u u' _ hu => by rw [hmark, hu]

theorem readUnmarked_kept (d : Dialect) (h : readUnmarked d.rules c s = .ok (t?, s')) :
    Kept s s' fun u u' => readUnmarked d.rules c u = .ok (t?, u') := by
  cases hsymbol : readSymbol d.rules s with
  | some read =>
    obtain ⟨t, s₁⟩ := read
    rw [readUnmarked, hsymbol] at h
    cases h
    refine (readSymbol_kept d.blind_lengthensOperator hsymbol).mono fun u u' _ hu => ?_
    rw [readUnmarked, hu]
    rfl
  | none =>
    suffices hkept : Kept s s' fun u u' =>
        (if d.rules.startsWord c then readWord d.rules [c] u.tail
          else if c = '$' then readDollar u
          else if Text.isBlank c then .ok (none, u.tail)
          else found (.stray c) u.tail) = .ok (t?, u') from
      hkept.mono fun u u' hflat hu => by
        rw [readUnmarked, readSymbol_eq_none_of_flat hsymbol hflat]
        exact hu
    rw [readUnmarked, hsymbol] at h
    dsimp only at h
    refine .ite (fun _ _ => .rfl) (fun _ => tail_readWord_kept d) (fun _ h => ?_) h
    refine .ite (fun _ _ => .rfl) (fun _ => readDollar_kept) (fun _ h => ?_) h
    refine .ite (fun _ _ => .rfl) (fun _ h => ?_) (fun _ h => ?_) h
    · cases h
      exact .ends_tail fun u _ => rfl
    · cases h
      exact .ends_tail fun u _ => rfl

theorem readOther_kept (d : Dialect) (h : readOther d.rules c s = .ok (t?, s')) :
    Kept s s' fun u u' => readOther d.rules c u = .ok (t?, u') := by
  unfold readOther at h ⊢
  refine .ite (fun _ _ => .rfl) (fun hword => readQuotedWord_kept (d.solid_wordQuote hword))
    (fun _ h => ?_) h
  refine .ite (fun _ _ => .rfl) (fun _ => readString_kept (by decide)) (fun _ h => ?_) h
  refine .ite (fun _ _ => .rfl) (fun _ => readNumber_kept d.blind_continuesWord) (fun _ h => ?_) h
  refine .ite (fun u hu => ?_) (fun _ h => ?_) (fun _ h => ?_) h
  · exact and_congr_right fun _ => and_congr_right fun _ =>
      hu.take_eq_iff (solid_of_all (by decide)) 2
  · cases h
    exact .ends 2 fun u _ => rfl
  refine .ite (fun _ _ => .rfl) (fun _ => readQuestion_kept) (fun _ h => ?_) h
  exact .ite (fun _ _ => .rfl) (fun _ => readSigned_kept d) (fun _ => readUnmarked_kept d) h

/-! ## Marked strings -/

theorem solid_of_peekQuote? (h : s.peekQuote? = some quote) : Solid quote := by
  obtain ⟨-, hquote⟩ := Option.filter_eq_some_iff.mp h
  obtain rfl | rfl : quote = '\x27' ∨ quote = '\x22' := by simpa using hquote
  · decide
  · decide

/-- A string that is marked by a letter, where the dialect has such strings, or else a word. -/
theorem byteString_kept (d : Dialect) {read : Char → Source → Step}
    (hread : ∀ {quote s}, Solid quote → read quote s = .ok (t?, s') →
      Kept s s' fun u u' => read quote u = .ok (t?, u'))
    (h : (match s.tail.peekQuote?, d.rules.byteStrings with
      | some quote, true => read quote s.tail
      | _, _ => readWord d.rules [c] s.tail) = .ok (t?, s')) :
    Kept s s' fun u u' => (match u.tail.peekQuote?, d.rules.byteStrings with
      | some quote, true => read quote u.tail
      | _, _ => readWord d.rules [c] u.tail) = .ok (t?, u') := by
  split at h
  · rename_i quote hquote hbytes
    refine (hread (solid_of_peekQuote? hquote) h).after_tail fun u u' hflat hu => ?_
    rw [hflat.tail.peekQuote?_eq, hquote, hbytes]
    exact hu
  · rename_i hword
    refine (tail_readWord_kept d h).mono fun u u' hflat hu => ?_
    rw [hflat.tail.peekQuote?_eq]
    split
    · rename_i quote hquote hbytes
      exact absurd hbytes (hword quote hquote)
    · exact hu

theorem readByteString_kept (d : Dialect) (h : readByteString d.rules c s = .ok (t?, s')) :
    Kept s s' fun u u' => readByteString d.rules c u = .ok (t?, u') :=
  byteString_kept d (fun hquote => readString_kept hquote) h

theorem readRawString_kept (d : Dialect) (h : readRawString d.rules c s = .ok (t?, s')) :
    Kept s s' fun u u' => readRawString d.rules c u = .ok (t?, u') :=
  byteString_kept d (fun hquote => readRaw_kept hquote) h

theorem readMarkedString_kept (d : Dialect) {kind : Literal}
    (h : readMarkedString kind d.rules c s = .ok (t?, s')) :
    Kept s s' fun u u' => readMarkedString kind d.rules c u = .ok (t?, u') := by
  unfold readMarkedString at h ⊢
  refine .ite (fun _ hu => hu.tail.peek?_eq_iff (by decide)) (fun _ h => ?_)
    (fun _ => tail_readWord_kept d) h
  exact (readString_kept (by decide) h).after_tail fun _ _ _ hu => hu

theorem readEscapedString_kept (d : Dialect) (h : readEscapedString d.rules c s = .ok (t?, s')) :
    Kept s s' fun u u' => readEscapedString d.rules c u = .ok (t?, u') := by
  unfold readEscapedString at h ⊢
  refine .ite (fun _ hu => hu.tail.peek?_eq_iff (by decide)) (fun _ h => ?_)
    (fun _ => tail_readWord_kept d) h
  split at h
  · rename_i body s₁ hbody
    cases h
    refine (escapedBody_kept hbody).after_drop 2 fun u u' hflat hu => ?_
    rw [hflat.length_eq, hu]
    rfl
  · cases h

theorem readUnicodeString_kept (d : Dialect) (h : readUnicodeString d.rules c s = .ok (t?, s')) :
    Kept s s' fun u u' => readUnicodeString d.rules c u = .ok (t?, u') := by
  unfold readUnicodeString at h ⊢
  refine .ite (fun u hu => and_congr_right fun _ => ?_) (fun _ h => ?_)
    (fun _ => tail_readWord_kept d) h
  · have hsolid : ∀ c ∈ ['&', '\x27'], Solid c := solid_of_all (by decide)
    simpa using hu.tail.take_eq_iff hsolid 2
  · split at h
    · rename_i body s₁ hbody
      cases h
      refine (unicodeBody_kept hbody).after_drop 3 fun u u' hflat hu => ?_
      rw [hflat.length_eq, hu]
      rfl
    · cases h

end EntityGen.Sql
