import EntityGen.Proofs.CommandLine.Agreement

/-!
# One more argument in front

A command line that is accepted stays accepted when an argument it lacks is given before all others:
each step of the reading goes as it went, with the argument in front of what is given
(`Framed`, `framed_long`, `framed_short`, `framed_plain`). For a text to be converted
the request is then the same with that text (`read_textOption`).
-/

namespace EntityGen.CommandLine

variable {a b : Argument} {v w : String} {given given' : Given} {p p' : Progress}
  {words : List String} {target : Option String} {r : Request}

namespace Given

@[simp] theorem has_cons (a b : Argument) (v : String) (given : Given) :
    Given.has ((a, v) :: given) b = (a == b || given.has b) := rfl

theorem has_concat (a b : Argument) (v : String) (given : Given) :
    Given.has (given ++ [(a, v)]) b = (given.has b || a == b) := by
  simp [has, List.any_append]

theorem add_inv (h : given.add b w = .ok given') :
    given.has b = false ∧ fault? b w = none ∧ given' = given ++ [(b, w)] := by
  unfold add at h
  split at h
  · cases h
  · rename_i hb
    split at h
    · cases h
    · rename_i hw
      exact ⟨by simpa using hb, hw, by injection h with h; exact h.symm⟩

/-- Adding goes on as before behind an argument that is never added. -/
theorem add_cons (h : given.add b w = .ok given') (ha : given'.has a = false) (v : String) :
    given.has a = false ∧ b ≠ a ∧ Given.add ((a, v) :: given) b w = .ok ((a, v) :: given') := by
  obtain ⟨hb, hw, rfl⟩ := add_inv h
  rw [has_concat, Bool.or_eq_false_iff] at ha
  have hne : b ≠ a := by simpa using ha.2
  have hab : (a == b) = false := by simpa using hne.symm
  refine ⟨ha.1, hne, ?_⟩
  unfold add
  simp [hab, hb, hw]

end Given

namespace Progress

/-- An argument that is neither given nor waits for its value. -/
structure Lacks (p : Progress) (a : Argument) : Prop where
  given : p.given.has a = false
  waiting : ∀ value, p.waiting ≠ some (a, value)

/-- The progress with one more argument in front. -/
def prepend (x : Argument × String) (p : Progress) : Progress := ⟨x :: p.given, p.waiting⟩

/-- A step that goes as before when an argument which it does not add stands in front. -/
def Framed (f : Progress → Except Ending Progress) : Prop :=
  ∀ {p p' a} (v : String), f p = .ok p' → p'.Lacks a →
    p.Lacks a ∧ f (p.prepend (a, v)) = .ok (p'.prepend (a, v))

theorem settle_prepend (h : p.settle = .ok given) (ha : given.has a = false) (v : String) :
    p.Lacks a ∧ (p.prepend (a, v)).settle = .ok ((a, v) :: given) := by
  obtain ⟨given₀, waiting⟩ := p
  rcases waiting with _ | ⟨b, _ | value⟩
  · obtain rfl : given₀ = given := by injection h
    exact ⟨⟨ha, by simp⟩, rfl⟩
  · cases h
  · obtain ⟨hgiven, hne, hadd⟩ := Given.add_cons h ha v
    refine ⟨⟨hgiven, fun value' heq => hne ?_⟩, hadd⟩
    simp only [Option.some.injEq, Prod.mk.injEq] at heq
    exact heq.1

theorem framed_option (b : Argument) (value : Option String) : Framed (·.option b value) := by
  intro p p' a v h ha
  obtain ⟨given, hs, h⟩ := ok_of_bind h
  cases value with
  | none =>
    obtain rfl : (⟨given, some (b, none)⟩ : Progress) = p' := by injection h
    obtain ⟨hp, hsettle⟩ := settle_prepend hs ha.given v
    exact ⟨hp, by simp only [option, hsettle]; rfl⟩
  | some w =>
    obtain ⟨given', hadd, h⟩ := ok_of_bind h
    obtain rfl : (⟨given', none⟩ : Progress) = p' := by injection h
    obtain ⟨hgiven, _, hadd'⟩ := Given.add_cons hadd ha.given v
    obtain ⟨hp, hsettle⟩ := settle_prepend hs hgiven v
    exact ⟨hp, by simp only [option, hsettle, bind, Except.bind, hadd']; rfl⟩

theorem addFlag_cons {written : Bool} (h : given.addFlag b written = .ok given')
    (ha : given'.has a = false) (v : String) :
    given.has a = false ∧
      Given.addFlag ((a, v) :: given) b written = .ok ((a, v) :: given') := by
  unfold Given.addFlag at h ⊢
  split at h
  · cases h
  · cases h
  · obtain ⟨hgiven, _, hadd⟩ := Given.add_cons h ha v
    exact ⟨hgiven, hadd⟩

theorem framed_flag (b : Argument) (long : Bool) : Framed (·.flag b long) := by
  intro p p' a v h ha
  obtain ⟨given, hs, h⟩ := ok_of_bind h
  obtain ⟨given', hadd, h⟩ := ok_of_bind h
  obtain rfl : (⟨given', none⟩ : Progress) = p' := by injection h
  obtain ⟨hgiven, hadd'⟩ := addFlag_cons hadd ha.given v
  obtain ⟨hp, hsettle⟩ := settle_prepend hs hgiven v
  exact ⟨hp, by simp only [flag, hsettle, bind, Except.bind, hadd']; rfl⟩

theorem framed_long (name : List Char) (value : Option String) : Framed (·.long name value) := by
  intro p p' a v h ha
  simp only [long] at h ⊢
  cases hb : Argument.ofLong? name with
  | none => simp [hb] at h
  | some b =>
    simp only [hb] at h ⊢
    by_cases htakes : b.takesValue = true
    · simp only [htakes, if_true] at h ⊢
      exact framed_option b value v h ha
    · simp only [htakes] at h ⊢
      cases value with
      | none => exact framed_flag b true v h ha
      | some value => cases h

/-- The letters of a word are read one by one, so the rest of them comes first. -/
theorem framed_short (letters : List Char) : Framed (·.short letters) := by
  intro p p' a v h ha
  simp only at h ⊢
  induction letters generalizing p with
  | nil =>
    obtain rfl : p = p' := by injection h
    exact ⟨ha, rfl⟩
  | cons letter rest ih =>
    simp only [short] at h ⊢
    cases hb : Argument.ofShort? letter with
    | none => simp [hb] at h
    | some b =>
      simp only [hb] at h ⊢
      by_cases htakes : b.takesValue = true
      · simp only [htakes, if_true] at h ⊢
        exact framed_option b _ v h ha
      · simp only [htakes] at h ⊢
        cases hf : p.flag b false with
        | error ending => simp [hf] at h
        | ok p₁ =>
          simp only [hf] at h
          obtain ⟨hp₁, hrest⟩ := ih h
          obtain ⟨hp, hflag⟩ := framed_flag b false v hf hp₁
          refine ⟨hp, ?_⟩
          simp only at hflag
          simp only [hflag]
          exact hrest

theorem framed_plain (word : String) : Framed (·.plain word) := by
  intro p p' a v h ha
  obtain ⟨given₀, waiting⟩ := p
  rcases waiting with _ | ⟨b, _ | value⟩
  · cases h
  · obtain rfl : (⟨given₀, some (b, some word)⟩ : Progress) = p' := by injection h
    refine ⟨⟨ha.given, fun value heq => ha.waiting (some word) ?_⟩, rfl⟩
    simp only [Option.some.injEq, Prod.mk.injEq] at heq
    simp [heq.1]
  · cases h

end Progress

open Progress (Framed framed_long framed_short framed_plain settle_prepend)

/-- Every word but a separator is a framed step before the words after it. -/
theorem exists_framed {word : String} (hw : Word.of word ≠ .separator) :
    ∃ f, Framed f ∧ ∀ p rest, readWords p (word :: rest) = f p >>= (readWords · rest) := by
  cases hof : Word.of word with
  | separator => exact absurd hof hw
  | long name value =>
    refine ⟨_, framed_long name value, fun p rest => ?_⟩
    simp only [readWords, hof]
    cases p.long name value <;> rfl
  | short letters =>
    refine ⟨_, framed_short letters, fun p rest => ?_⟩
    simp only [readWords, hof]
    cases p.short letters <;> rfl
  | plain =>
    refine ⟨_, framed_plain word, fun p rest => ?_⟩
    simp only [readWords, hof]
    cases p.plain word <;> rfl

/-- Words are read as before behind an argument which none of them gives. -/
theorem readWords_prepend (h : readWords p words = .ok given) (ha : given.has a = false)
    (v : String) :
    p.Lacks a ∧ readWords (p.prepend (a, v)) words = .ok ((a, v) :: given) := by
  induction words generalizing p with
  | nil => exact settle_prepend h ha v
  | cons word rest ih =>
    by_cases hw : Word.of word = .separator
    · simp only [readWords, hw] at h ⊢
      cases rest with
      | nil => exact settle_prepend h ha v
      | cons next _ => cases h
    · obtain ⟨f, hf, hread⟩ := exists_framed hw
      rw [hread] at h ⊢
      obtain ⟨p', hp, h⟩ := ok_of_bind h
      obtain ⟨hp', hrest⟩ := ih h
      obtain ⟨hlacks, hstep⟩ := hf v hp hp'
      exact ⟨hlacks, by rw [hstep]; exact hrest⟩

namespace Given

theorem withDefault_cons (h : given.withDefault target = .ok given') (ha : given'.has a = false)
    (v : String) :
    given.has a = false ∧
      Given.withDefault ((a, v) :: given) target = .ok ((a, v) :: given') := by
  unfold withDefault at h ⊢
  cases target with
  | none =>
    obtain rfl : given = given' := by injection h
    exact ⟨ha, rfl⟩
  | some value =>
    by_cases htarget : given.has .target = true
    · simp only [htarget, if_true] at h
      obtain rfl : given = given' := by injection h
      exact ⟨ha, by simp [htarget]⟩
    · simp only [htarget] at h
      obtain ⟨hgiven, hne, hadd⟩ := add_cons h ha v
      have hat : (a == Argument.target) = false := by simpa using hne.symm
      exact ⟨hgiven, by simp [hat, htarget, hadd]⟩

theorem exclusion?_eq_none (h : ∀ a b, given.has a = true → given.has b = true →
    a.excludes b = false) : given.exclusion? = none := by
  refine List.findSome?_eq_none_iff.mpr fun a ha => ?_
  have hnil : given.excluded a = [] := by
    refine List.filter_eq_nil_iff.mpr fun b hb => ?_
    simp [h a b (has_iff_mem_keys.mpr ha) (has_iff_mem_keys.mpr hb)]
  rw [hnil]

/-- An argument in front that excludes none of the others leaves them in agreement, if there is a
name in case it is a sample. -/
theorem disagreement?_cons (h : given.disagreement? = none)
    (hex : ∀ b, given.has b = true → a.excludes b = false) (hself : a.excludes a = false)
    (hname : a = .json → given.has .name = true) (v : String) :
    Given.disagreement? ((a, v) :: given) = none := by
  have hexclusion : Given.exclusion? ((a, v) :: given) = none := by
    refine exclusion?_eq_none fun b c hb hc => ?_
    simp only [has_cons, Bool.or_eq_true, beq_iff_eq] at hb hc
    rcases hb with rfl | hb <;> rcases hc with rfl | hc
    · exact hself
    · exact hex c hc
    · rw [Argument.excludes_comm]
      exact hex b hb
    · exact not_excludes_of_agreed h hb hc
  have hlacks : Given.lacksName ((a, v) :: given) = false := by
    unfold disagreement? at h
    rw [exclusion?_of_disagreement? h] at h
    by_cases hjson : a = .json
    · simp [lacksName, hname hjson]
    · have hlacks : given.lacksName = false := by simpa using h
      have hne : (a == Argument.json) = false := by simpa using hjson
      unfold lacksName at hlacks ⊢
      simp only [has_cons, hne, Bool.false_or]
      grind
  simp [disagreement?, hexclusion, hlacks]

end Given

/-! ## A text to be converted -/

namespace Request

/-- The option that gives the text of a request. -/
def textArgument (r : Request) : Argument := if r.name.isSome then .json else .ddl

/-- A text written as that option, in one word. -/
def textOption (r : Request) (text : String) : String :=
  "--" ++ r.textArgument.long ++ "=" ++ text

/-- The request with a text. -/
def withText (r : Request) (text : String) : Request :=
  if r.name.isSome then { r with json := some text } else { r with ddl := some text }

end Request

theorem Word.of_textOption (r : Request) (text : String) :
    Word.of (r.textOption text) = .long r.textArgument.long.toList (some text) := by
  unfold Request.textOption Request.textArgument
  split <;> simp [Word.of, Word.ofLong, Argument.long]

theorem ofLong?_textArgument (r : Request) :
    Argument.ofLong? r.textArgument.long.toList = some r.textArgument := by
  unfold Request.textArgument
  split <;> decide

theorem readWords_textOption (r : Request) (text : String) (words : List String) :
    readWords .start (r.textOption text :: words) =
      readWords (Progress.start.prepend (r.textArgument, text)) words := by
  have htakes : r.textArgument.takesValue = true := by
    unfold Request.textArgument
    split <;> rfl
  have hfault : Given.fault? r.textArgument text = none := by
    unfold Request.textArgument
    split <;> rfl
  simp only [readWords, Word.of_textOption, Progress.long, ofLong?_textArgument, htakes, if_true]
  simp [Progress.option, Progress.settle, Progress.start, Given.add, Given.has, hfault,
    Progress.prepend, bind, Except.bind]

theorem ofGiven_cons {r : Request} (hr : r = .ofGiven given) (text : String) :
    Request.ofGiven ((r.textArgument, text) :: given) = r.withText text := by
  subst hr
  unfold Request.textArgument Request.withText
  split <;> rfl

/-- The text of a request may be given in front of a command line without one. -/
theorem read_textOption (h : read words target = .ok r) (hddl : r.ddl = none)
    (hjson : r.json = none) (text : String) :
    read (r.textOption text :: words) target = .ok (r.withText text) := by
  obtain ⟨given₀, given, hwords, hdefault, hagreed, hr⟩ := read_inv h
  have has_eq (a : Argument) (b : Bool) (hb : (given.lookup a).isSome = b) : given.has a = b := by
    rw [Given.has_eq_isSome_lookup, hb]
  have hlacks : given.has r.textArgument = false := by
    unfold Request.textArgument
    split
    · exact has_eq _ _ (by simpa [hr, Request.ofGiven] using hjson)
    · exact has_eq _ _ (by simpa [hr, Request.ofGiven] using hddl)
  have hagreed' : Given.disagreement? ((r.textArgument, text) :: given) = none := by
    have hname : given.has .name = r.name.isSome := has_eq _ _ (by simp [hr, Request.ofGiven])
    refine Given.disagreement?_cons hagreed (fun b hb => ?_) ?_ (fun hjson => ?_) text
    · unfold Request.textArgument at hlacks ⊢
      split <;> cases b <;> simp_all [Argument.excludes, Argument.exclusions]
    · unfold Request.textArgument
      split <;> decide
    · unfold Request.textArgument at hjson
      split at hjson
      · rwa [hname]
      · cases hjson
  obtain ⟨hlacks₀, hdefault'⟩ := Given.withDefault_cons hdefault hlacks text
  obtain ⟨_, hwords'⟩ := readWords_prepend hwords hlacks₀ text
  simp only [read, readWords_textOption, hwords', bind, Except.bind, hdefault', hagreed',
    ofGiven_cons hr]

end EntityGen.CommandLine
