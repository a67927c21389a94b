import EntityGen.Proofs.Sql.OneLine.Flattening

/-!
# Quoted text on one line

The readers of quoted text, each with the lemma that what it reads is read off one line as well.
A quote, a backslash and a dollar sign are solid, so a quoted text ends on one line where it ended
before. The digits of an escape are asked for in two ways: a fixed number of characters, which must
all be digits, or as many digits as there are.
-/

namespace EntityGen.Sql

open Prompt.Editor (flatten)

variable {c d : Char} {cs body : List Char} {s s' u : Source} {pos : Pos} {quote : Char}

/-! ## Quotes -/

@[simp] theorem push_eq_some_iff {found : Option (List Char × Source)} :
    push c found = some (body, s) ↔ ∃ more, body = c :: more ∧ found = some (more, s) := by
  obtain _ | ⟨more, s'⟩ := found
  · simp [push]
  · simp only [push, Option.some.injEq, Prod.mk.injEq]
    constructor
    · rintro ⟨rfl, rfl⟩
      exact ⟨more, rfl, rfl, rfl⟩
    · rintro ⟨more, rfl, rfl, rfl⟩
      exact ⟨rfl, rfl⟩

theorem quotedBody_kept (hquote : Solid quote) {escapes : Bool}
    (h : quotedBody quote escapes pos cs = some (body, s')) :
    Kept ⟨cs, pos⟩ s' fun u u' => quotedBody quote escapes u.pos u.rest = some (body, u') := by
  fun_induction quotedBody quote escapes pos cs generalizing body with
  | case1 | case5 => cases h
  | case2 pos =>
    cases h
    exact .last fun pos => by simp [quotedBody]
  | case3 pos ds ih =>
    obtain ⟨more, rfl, hmore⟩ := push_eq_some_iff.mp h
    exact (ih hmore).cons₂ fun pos u' hu => by simpa [quotedBody] using hu
  | case4 pos d ds hd =>
    cases h
    have hd : ¬ flatten d = quote := mt (flatten_eq_iff hquote).mp hd
    exact .last fun pos => by simp [quotedBody, hd]
  | case6 pos c hc hescape d ds ih =>
    obtain ⟨more, rfl, hmore⟩ := push_eq_some_iff.mp h
    exact (ih hmore).cons₂ fun pos u' hu => by simpa [quotedBody, hc, hescape] using hu
  | case7 pos c cs hc hescape ih =>
    obtain ⟨more, rfl, hmore⟩ := push_eq_some_iff.mp h
    refine (ih hmore).cons fun pos u' hu => ?_
    rw [quotedBody.eq_def]
    simpa [hc, hescape] using hu

theorem tripleBody_kept {run : Nat} {read : List Char}
    (h : tripleBody quote run read pos cs = some (body, s')) :
    Kept ⟨cs, pos⟩ s' fun u u' => tripleBody quote run read u.pos u.rest = some (body, u') := by
  fun_induction tripleBody quote run read pos cs with
  | case1 => cases h
  | case2 read pos cs =>
    cases h
    exact .last fun pos => by simp [tripleBody]
  | case3 run read pos cs hrun ih =>
    exact (ih h).cons fun pos u' hu => by simpa [tripleBody, hrun] using hu
  | case4 run read pos c cs hc ih =>
    exact (ih h).cons fun pos u' hu => by simpa [tripleBody, hc] using hu

/-! ## Digits -/

theorem blind_isDigit : Blind Char.isDigit := blind_iff.mpr (by decide)

theorem blind_isHexDigit : Blind isHexDigit := blind_iff.mpr (by decide)

theorem blind_isOctalDigit : Blind isOctalDigit := blind_iff.mpr (by decide)

theorem takeDigits_kept {isDigit : Char → Bool} (hdigit : Blind isDigit) {limit : Nat}
    {ds : List Char} (h : takeDigits isDigit limit s = (ds, s')) :
    Kept s s' fun u u' => takeDigits isDigit limit u = (ds, u') := by
  induction limit generalizing s ds with
  | zero =>
    cases h
    exact .refl fun u _ => rfl
  | succ limit ih =>
    obtain ⟨_ | ⟨c, cs⟩, pos⟩ := s
    · cases h
      exact .refl fun u hu => by simp [takeDigits, hu.rest_nil]
    · by_cases hc : isDigit c = true
      · simp only [takeDigits, if_pos hc] at h
        cases h
        exact (ih rfl).cons fun pos u' hu => by simp [takeDigits, hc, hu]
      · simp only [takeDigits, if_neg hc] at h
        cases h
        exact .refl fun u hu => by simp [takeDigits, hu.rest_cons, hdigit c, hc]

theorem isEmpty_takeDigits_of_flat {isDigit : Char → Bool} (hdigit : Blind isDigit) (limit : Nat)
    (hu : Flat s u) : (takeDigits isDigit (limit + 1) u).1.isEmpty =
      (takeDigits isDigit (limit + 1) s).1.isEmpty := by
  obtain ⟨_ | ⟨c, cs⟩, pos⟩ := s
  · simp [takeDigits, hu.rest_nil]
  · by_cases hc : isDigit c = true <;> simp [takeDigits, hu.rest_cons, hdigit c, hc]

/-- A code is read off its own digits, whatever comes after them. -/
theorem codeOfDigits?_take (width : Nat) (cs : List Char) (f : Char → Char) :
    codeOfDigits? width (cs.take width ++ (cs.map f).drop width) = codeOfDigits? width cs := by
  have htake : (cs.take width ++ (cs.map f).drop width).take width = cs.take width := by
    obtain h | h := Nat.le_total width cs.length
    · rw [List.take_append_of_le_length (by simp [h]), List.take_take, Nat.min_self]
    · rw [List.drop_eq_nil_of_le (by simpa using h), List.append_nil, List.take_take, Nat.min_self]
  simp only [codeOfDigits?, htake]

theorem unicodeCode_kept {width m code : Nat} (h : unicodeCode width m s = .ok (code, s')) :
    Kept s s' fun u u' => unicodeCode width m u = .ok (code, u') := by
  induction width generalizing m s with
  | zero =>
    cases h
    exact .refl fun u _ => rfl
  | succ width ih =>
    obtain ⟨_ | ⟨c, cs⟩, pos⟩ := s
    · cases h
    · cases hc : digitValue? c with
      | none => simp [unicodeCode, hc] at h
      | some d =>
        simp only [unicodeCode, hc, Source.tail_cons] at h
        exact (ih h).cons fun pos u' hu => by simpa [unicodeCode, hc] using hu

/-! ## Escapes -/

theorem escapedBody_cons (fuel : Nat) (pos : Pos) (hquote : c ≠ '\x27') (hescape : c ≠ '\\') :
    escapedBody (fuel + 1) ⟨c :: cs, pos⟩ = push c (escapedBody fuel ⟨cs, pos.after c⟩) := by
  rw [escapedBody]
  split <;> simp_all

section EscapedText

-- `ih` is for the text after an escape: the induction is on the fuel
variable {fuel : Nat} (ih : ∀ {s body}, escapedBody fuel s = some (body, s') →
  Kept s s' fun u u' => escapedBody fuel u = some (body, u'))
include ih

/-- Two characters that stand for one, whatever comes after them. -/
theorem pair_kept (e : Char) (hread : ∀ cs pos, escapedBody (fuel + 1) ⟨c :: d :: cs, pos⟩ =
      push e (escapedBody fuel ⟨cs, (pos.after c).after d⟩))
    (h : escapedBody (fuel + 1) ⟨c :: d :: cs, pos⟩ = some (body, s')) :
    Kept ⟨c :: d :: cs, pos⟩ s' fun u u' => escapedBody (fuel + 1) u = some (body, u') := by
  rw [hread] at h
  obtain ⟨more, rfl, hmore⟩ := push_eq_some_iff.mp h
  exact (ih hmore).cons₂ fun pos u' hu => by simp [hread, hu]

/-- A code point in a fixed number of digits. -/
theorem codePoint_kept (width : Nat)
    (hread : ∀ cs pos, escapedBody (fuel + 1) ⟨'\\' :: c :: cs, pos⟩ =
      (codeOfDigits? width cs).bind fun e =>
        push e (escapedBody fuel (Source.drop width ⟨cs, (pos.after '\\').after c⟩)))
    (h : escapedBody (fuel + 1) ⟨'\\' :: c :: cs, pos⟩ = some (body, s')) :
    Kept ⟨'\\' :: c :: cs, pos⟩ s' fun u u' => escapedBody (fuel + 1) u = some (body, u') := by
  rw [hread] at h
  obtain ⟨e, hcode, hpush⟩ := Option.bind_eq_some_iff.mp h
  obtain ⟨more, rfl, hmore⟩ := push_eq_some_iff.mp hpush
  exact (ih hmore).drop (s := ⟨'\\' :: c :: cs, pos⟩) (width + 2) fun pos u' hu => by
    simpa [hread, codeOfDigits?_take, hcode] using hu

/-- A byte in as many digits as there are. -/
theorem byte_kept {isDigit : Char → Bool} (hdigit : Blind isDigit) {ds : List Char} {n : Nat}
    (hdigits : takeDigits isDigit 2 s = (ds, u))
    (h : (charOfByte? n).bind (fun e => push e (escapedBody fuel u)) = some (body, s')) :
    ∃ e more, charOfByte? n = some e ∧ body = e :: more ∧ Kept s s' fun v v' =>
      ∃ v₁, takeDigits isDigit 2 v = (ds, v₁) ∧ escapedBody fuel v₁ = some (more, v') := by
  obtain ⟨e, hcode, hpush⟩ := Option.bind_eq_some_iff.mp h
  obtain ⟨more, rfl, hmore⟩ := push_eq_some_iff.mp hpush
  exact ⟨e, more, hcode, rfl, (takeDigits_kept hdigit hdigits).trans (ih hmore)⟩

/-- An escape, by the character after the backslash. -/
theorem escape_kept (h : escapedBody (fuel + 1) ⟨'\\' :: c :: cs, pos⟩ = some (body, s')) :
    Kept ⟨'\\' :: c :: cs, pos⟩ s' fun u u' => escapedBody (fuel + 1) u = some (body, u') := by
  have hread := h
  rw [escapedBody] at hread
  simp only at hread
  split at hread
  · exact pair_kept ih '\x08' (fun _ _ => rfl) h
  · exact pair_kept ih '\x0c' (fun _ _ => rfl) h
  · exact pair_kept ih '\n' (fun _ _ => rfl) h
  · exact pair_kept ih '\r' (fun _ _ => rfl) h
  · exact pair_kept ih '\t' (fun _ _ => rfl) h
  · exact codePoint_kept ih 4 (fun _ _ => rfl) h
  · exact codePoint_kept ih 8 (fun _ _ => rfl) h
  -- an `x` before no digit stands for itself, and stays before none on one line
  · rcases hdigits : takeDigits isHexDigit 2 ⟨cs, (pos.after '\\').after 'x'⟩ with ⟨ds, s₁⟩
    simp only [Source.drop, Source.tail_cons, hdigits] at hread
    split at hread
    · rename_i hempty
      obtain ⟨more, rfl, hmore⟩ := push_eq_some_iff.mp hread
      refine ((ih hmore).and_flat fun u hu =>
        isEmpty_takeDigits_of_flat blind_isHexDigit 1 hu).cons₂ fun pos u' ⟨hnone, hu⟩ => ?_
      rw [hdigits, hempty] at hnone
      simp [escapedBody, hnone, hu]
    · rename_i hsome
      obtain ⟨e, more, hcode, rfl, hkept⟩ := byte_kept ih blind_isHexDigit hdigits hread
      exact hkept.cons₂ fun pos u' ⟨u₁, hu₁, hu⟩ => by simp [escapedBody, hu₁, hsome, hcode, hu]
  · rename_i hb hf hn hr ht hu hU hx
    split at hread
    · rename_i hoctal
      rcases hdigits : takeDigits isOctalDigit 2 ⟨cs, (pos.after '\\').after c⟩ with ⟨ds, s₁⟩
      simp only [Source.drop, Source.tail_cons, hdigits] at hread
      obtain ⟨e, more, hcode, rfl, hkept⟩ := byte_kept ih blind_isOctalDigit hdigits hread
      exact hkept.cons₂ fun pos u' ⟨u₁, hu₁, hu⟩ => by simp [escapedBody, hu₁, hoctal, hcode, hu]
    · split at hread
      · cases hread
      · rename_i hoctal hnul
        exact pair_kept ih c (fun _ _ => by simp [escapedBody, hoctal, hnul]) h

end EscapedText

theorem escapedBody_kept {fuel : Nat} (h : escapedBody fuel s = some (body, s')) :
    Kept s s' fun u u' => escapedBody fuel u = some (body, u') := by
  induction fuel generalizing s body with
  | zero => cases h
  | succ fuel ih =>
    obtain ⟨rest, pos⟩ := s
    have hread := h
    rw [escapedBody] at hread
    dsimp only at hread
    split at hread
    · cases hread
    · exact pair_kept ih '\x27' (fun _ _ => by simp [escapedBody]) h
    · rename_i cs hquote
      cases hread
      have hnext := map_flatten_ne_cons (by decide) hquote
      exact .last fun pos => by simp [escapedBody]
    · exact escape_kept ih h
    · cases hread
    · rename_i c cs _ hquote hescape hend
      obtain ⟨more, rfl, hmore⟩ := push_eq_some_iff.mp hread
      refine (ih hmore).cons fun pos u' hu => ?_
      have hbackslash : c ≠ '\\' := by
        rintro rfl
        cases cs with
        | nil => exact hend rfl rfl
        | cons d ds => exact hescape d ds rfl rfl
      simpa [escapedBody_cons fuel pos hquote hbackslash] using hu
/-- What a text is that is read as one character and a text after it. -/
theorem bind_cons_eq_ok {ε : Type} {found : Except ε (List Char × Source)}
    (h : (do
      let (cs, s) ← found
      return (c :: cs, s)) = Except.ok (body, s')) :
    ∃ more, body = c :: more ∧ found = .ok (more, s') := by
  obtain _ | ⟨more, s⟩ := found
  · cases h
  · cases h
    exact ⟨more, rfl, rfl⟩

theorem unicodeEscape_eq_ok {fuel width : Nat}
    (h : (do
      let (n, s) ← unicodeCode width 0 s
      match charOfCode? n with
      | some c =>
        let (cs, s) ← unicodeBody fuel s
        return (c :: cs, s)
      | none => throw (.badCodePoint n, s.pos)) = Except.ok (body, s')) :
    ∃ n s₁ c more, unicodeCode width 0 s = .ok (n, s₁) ∧ charOfCode? n = some c ∧
      unicodeBody fuel s₁ = .ok (more, s') ∧ body = c :: more := by
  cases hcode : unicodeCode width 0 s with
  | error e =>
    simp only [hcode] at h
    cases h
  | ok found =>
    obtain ⟨n, s₁⟩ := found
    cases hchar : charOfCode? n with
    | none =>
      simp only [hcode, bind, Except.bind, hchar] at h
      cases h
    | some c =>
      simp only [hcode, bind, Except.bind, hchar] at h
      obtain ⟨more, rfl, hmore⟩ := bind_cons_eq_ok h
      exact ⟨n, s₁, c, more, rfl, hchar, hmore, rfl⟩

theorem unicodeBody_kept {fuel : Nat} (h : unicodeBody fuel s = .ok (body, s')) :
    Kept s s' fun u u' => unicodeBody fuel u = .ok (body, u') := by
  induction fuel generalizing s body with
  | zero => cases h
  | succ fuel ih =>
    obtain ⟨rest, pos⟩ := s
    rw [unicodeBody] at h
    dsimp only at h
    split at h
    · cases h
    · rename_i cs
      obtain ⟨more, rfl, hmore⟩ := bind_cons_eq_ok h
      exact (ih hmore).cons₂ fun pos u' hu => by
        simp [unicodeBody, hu, bind, Except.bind, pure, Except.pure]
    · rename_i cs hquote
      cases h
      have hnext := map_flatten_ne_cons (by decide) hquote
      exact .last fun pos => by simp [unicodeBody]
    · rename_i cs
      obtain ⟨more, rfl, hmore⟩ := bind_cons_eq_ok h
      exact (ih hmore).cons₂ fun pos u' hu => by
        simp [unicodeBody, hu, bind, Except.bind, pure, Except.pure]
    · rename_i cs
      obtain ⟨n, s₁, c, more, hcode, hchar, hmore, rfl⟩ := unicodeEscape_eq_ok h
      refine ((unicodeCode_kept hcode).trans (ih hmore)).cons₂ fun pos u' ⟨u₁, hu₁, hu⟩ => ?_
      simp [unicodeBody, hu₁, bind, Except.bind, hchar, hu, pure, Except.pure]
    · rename_i cs hescape hplus
      obtain ⟨n, s₁, c, more, hcode, hchar, hmore, rfl⟩ := unicodeEscape_eq_ok h
      have hescape := map_flatten_ne_cons (by decide) hescape
      have hplus := map_flatten_ne_cons (by decide) hplus
      refine ((unicodeCode_kept hcode).trans (ih hmore)).cons fun pos u' ⟨u₁, hu₁, hu⟩ => ?_
      simp [unicodeBody, hu₁, bind, Except.bind, hchar, hu, pure, Except.pure]
    · rename_i c cs _ hquote _ _ hescape
      obtain ⟨more, rfl, hmore⟩ := bind_cons_eq_ok h
      refine (ih hmore).cons fun pos u' hu => ?_
      rw [unicodeBody]
      split <;> simp_all [bind, Except.bind, pure, Except.pure]

/-! ## Dollar signs -/

theorem dollarBody_kept {dollar : Bool} (h : dollarBody dollar pos cs = some (body, s')) :
    Kept ⟨cs, pos⟩ s' fun u u' => dollarBody dollar u.pos u.rest = some (body, u') := by
  induction cs generalizing dollar pos body with
  | nil => simp [dollarBody] at h
  | cons c cs ih =>
    rw [dollarBody] at h
    by_cases hc : c = '$'
    · subst c
      rw [if_pos rfl] at h
      cases dollar with
      | true =>
        cases h
        exact .last fun pos => by simp [dollarBody]
      | false => exact (ih h).cons fun pos u' hu => by simpa [dollarBody] using hu
    · rw [if_neg hc] at h
      cases dollar with
      | true =>
        obtain ⟨_, rfl, hfound⟩ := push_eq_some_iff.mp h
        obtain ⟨more, rfl, hmore⟩ := push_eq_some_iff.mp hfound
        exact (ih hmore).cons fun pos u' hu => by simpa [dollarBody, hc] using hu
      | false =>
        obtain ⟨more, rfl, hmore⟩ := push_eq_some_iff.mp h
        exact (ih hmore).cons fun pos u' hu => by simpa [dollarBody, hc] using hu

theorem matchTag_kept {tag seen : List Char} (htag : ∀ c ∈ tag, Solid c) {hit : Bool}
    (h : matchTag tag s = some (hit, seen, s')) :
    Kept s s' fun u u' => matchTag tag u = some (hit, seen, u') := by
  induction tag generalizing s seen with
  | nil =>
    cases h
    exact .refl fun u _ => rfl
  | cons c tag ih =>
    obtain ⟨_ | ⟨d, cs⟩, pos⟩ := s
    · simp [matchTag] at h
    · obtain ⟨hc, htag⟩ := List.forall_mem_cons.mp htag
      by_cases hd : d = c
      · subst d
        simp only [matchTag, if_pos, Option.map_eq_some_iff] at h
        obtain ⟨⟨hit, more, s₁⟩, hmore, heq⟩ := h
        cases heq
        exact (ih htag hmore).cons fun pos u' hu => by simp [matchTag, hu]
      · simp only [matchTag, if_neg hd] at h
        cases h
        exact .last fun pos => by simp [matchTag, hd]

theorem taggedBody_kept {tag : List Char} (htag : ∀ c ∈ tag, Solid c) {fuel : Nat}
    (h : taggedBody tag fuel s = .ok (body, s')) :
    Kept s s' fun u u' => taggedBody tag fuel u = .ok (body, u') := by
  induction fuel generalizing s body with
  | zero => cases h
  | succ fuel ih =>
    obtain ⟨plain, s₁, hplain⟩ : ∃ plain s₁, s.takeWhile (· != '$') = (plain, s₁) := ⟨_, _, rfl⟩
    rw [taggedBody] at h
    simp only [hplain] at h
    split at h
    · cases h
    rename_i dollar rest hs₁
    split at h
    · cases h
    rename_i hit seen s₂ hseen
    -- the text up to the next dollar sign, the sign, and the tag as far as it is the tag
    have hblind : Blind fun c => c != '$' := blind_iff.mpr (by decide)
    have hdollar (u : Source) (hu : Flat s₁ u) : ∃ c cs, u.rest = c :: cs :=
      ⟨flatten dollar, rest.map flatten, by rw [hu, hs₁, List.map_cons]⟩
    have hread := (Kept.takeWhile hblind hplain).trans
      ((matchTag_kept htag hseen).after_tail fun u u' hu hu' => And.intro (hdollar u hu) hu')
    have hclosing (u : Source) (hu : Flat s₂ u) :
        (hit && u.peek? == some '$') = (hit && s₂.peek? == some '$') := by
      rw [Bool.eq_iff_iff]
      simp [hu.peek?_eq_iff (show Solid '$' by decide)]
    split at h
    · rename_i hclosed
      cases h
      have hend : Kept s₂ s₂.tail fun u u' =>
          (hit && u.peek? == some '$') = true ∧ u' = u.tail :=
        .ends_tail fun u hu => ⟨(hclosing u hu).trans hclosed, rfl⟩
      refine (hread.trans hend).mono fun u u' _ hu => ?_
      obtain ⟨u₂, ⟨u₁, hu₁, ⟨c, cs, hrest⟩, hu₂⟩, hpeek, rfl⟩ := hu
      simp only [taggedBody, hu₁, hrest, hu₂, hpeek]
      rfl
    · rename_i hopen
      obtain ⟨more, rfl, hmore⟩ : ∃ more, body = plain ++ '$' :: seen ++ more ∧
          taggedBody tag fuel s₂ = .ok (more, s') := by
        cases hfound : taggedBody tag fuel s₂ with
        | error pos =>
          simp only [hfound] at h
          cases h
        | ok found =>
          simp only [hfound] at h
          cases h
          exact ⟨found.1, rfl, rfl⟩
      refine (hread.trans ((ih hmore).and_flat hclosing)).mono fun u u' _ hu => ?_
      obtain ⟨u₂, ⟨u₁, hu₁, ⟨c, cs, hrest⟩, hu₂⟩, hpeek, hu'⟩ := hu
      simp only [taggedBody, hu₁, hrest, hu₂, hpeek, hopen, hu']
      rfl

end EntityGen.Sql
