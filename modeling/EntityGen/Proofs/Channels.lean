import EntityGen.Proofs.CommandLine.FirstArgument
import EntityGen.Proofs.Outcomes
import EntityGen.Proofs.Prompting

/-!
# Channels of input

A text may be given on the command line, piped in, or entered at a prompt. All that follows the
input depends on the text and not on where it came from (`Product.produce_withText`,
`Product.effect_withText`), so runs that differ in the channel only agree (`channels_agree`).
-/

namespace EntityGen

open CommandLine (Request)
open Files (FileSystem)

/-! ## A request with a text -/

/-- The source with a text. -/
def Source.withText (text : String) : Source → Source
  | .sql _ => .sql (some text)
  | .sample name _ => .sample name (some text)

/-- The settings with a text. -/
def Settings.withText (text : String) (s : Settings) : Settings :=
  { s with source := s.source.withText text }

@[simp] theorem Source.given_withText (text : String) (source : Source) :
    (source.withText text).given = some text := by
  cases source <;> rfl

variable {r : Request} {text : String}

theorem Source.of_withText (r : Request) (text : String) :
    Source.of (r.withText text) = (Source.of r).withText text := by
  unfold Source.of Request.withText
  cases r.name <;> rfl

theorem OutputMode.of_withText (r : Request) (text : String) :
    OutputMode.of (r.withText text) = OutputMode.of r := by
  unfold OutputMode.of Request.withText
  split <;> rfl

theorem Settings.settle_withText (fs : FileSystem) (w : String) (r : Request) (text : String) :
    settle fs w (r.withText text) = (settle fs w r).map (·.withText text) := by
  have htarget : (r.withText text).target = r.target := by
    unfold Request.withText
    split <;> rfl
  have hrest : (r.withText text).noColor = r.noColor ∧ (r.withText text).verbose = r.verbose ∧
      (r.withText text).dialect = r.dialect := by
    unfold Request.withText
    split <;> exact ⟨rfl, rfl, rfl⟩
  obtain ⟨hcolor, hverbose, hdialect⟩ := hrest
  simp only [settle, htarget, hcolor, hverbose, hdialect, Source.of_withText,
    OutputMode.of_withText]
  cases r.target with
  | some target =>
    dsimp only
    cases directoryIn fs w target <;> rfl
  | none =>
    dsimp only
    split <;> rfl

namespace Product

/-- Once there is an input, it does not matter what text a source is given with. -/
theorem produce_withText (s : Settings) (text input : String) :
    produce (s.withText text) input = produce s input := by
  cases h : s.source <;> simp only [produce, Settings.withText, Source.withText, h] <;> rfl

/-- A run that is supplied with a text leaves what it leaves when the text is given. -/
theorem effect_withText {w : String} {fs : FileSystem} {i : Input}
    (hi : supplied (Source.of r).given i = .ok (some text)) (i' : Input) :
    (ofRequest w r).effect ⟨fs, i⟩ = (ofRequest w (r.withText text)).effect ⟨fs, i'⟩ := by
  simp only [effect_ofRequest, Settings.settle_withText]
  cases hs : Settings.settle fs w r with
  | error p => rfl
  | ok s =>
    have hsource : s.source = .of r := (Settings.settle_inv hs).2.1
    have hgiven : supplied (s.withText text).source.given i' = .ok (some text) := by
      simp [Settings.withText, supplied]
    simp only [Except.map, effect_ofSettings, hgiven, hsource, hi, produce_withText]
    exact (silent_produce s text).effect_eq fs i i'

end Product

/-! ## Runs that agree -/

/-- Two runs agree in all that they leave. -/
structure Outcome.Agrees (o o' : Outcome) : Prop where
  exit : o.exit = o'.exit
  stdout : o.stdout = o'.stdout
  stderr : o.stderr = o'.stderr
  files : o.files = o'.files

/-- A run without debugging and color is told by its effect. -/
theorem run_agrees {call call' : Invocation} {r r' : Request} {m m' : Machine}
    (h : CommandLine.read call.words call.target = .ok r)
    (h' : CommandLine.read call'.words call'.target = .ok r')
    (hquiet : r.verbose = false ∧ r.noColor = true)
    (hquiet' : r'.verbose = false ∧ r'.noColor = true)
    (heffect : (Product.ofRequest call.workingDirectory r).effect m =
      (Product.ofRequest call'.workingDirectory r').effect m') :
    (run call m).Agrees (run call' m') := by
  simp only [Job.effect, Effect.mk.injEq] at heffect
  obtain ⟨hresult, hnotes, hfiles⟩ := heffect
  have hlog : shownLog false ((Product.ofRequest call.workingDirectory r).on m).log =
      shownLog false ((Product.ofRequest call'.workingDirectory r').on m').log := by
    simp only [shownLog, hnotes]
  simp only [run, h, h', hquiet.1, hquiet.2, hquiet'.1, hquiet'.2, Bool.not_true, Bool.and_false,
    Outcome.of, hresult, hlog]
  cases ((Product.ofRequest call'.workingDirectory r').on m').result <;>
    exact ⟨rfl, rfl, rfl, hfiles⟩

namespace Input

open Prompt (Session)

theorem reply_piped (text : String) : (Input.piped text.toUTF8).reply = .piped (some text) := by
  have hvalid : text.toUTF8.IsValidUTF8 := text.isValidUTF8
  have h : String.fromUTF8? text.toUTF8 = some text := dif_pos hvalid
  simp only [reply, h]

theorem reply_submitted {events : List Prompt.Event}
    (h : (Session.start.play events).status = .submitted)
    (htext : (Session.start.play events).editor.text = text.toList)
    (hblank : text.toList.all Text.isBlank = false) :
    (Input.terminal events).reply = .entered (some text) := by
  simp [reply, h, Session.entered?, htext, hblank]

end Input

/-- A run on a terminal at which nothing is entered ends without a product if a prompt is shown. No
prompt is shown if its settings fail; it then ends as it would with any text. -/
theorem run_of_nothing_entered (call : Invocation) (fs : FileSystem) {events : List Prompt.Event}
    (h : CommandLine.read call.words call.target = .ok r) (hgiven : (Source.of r).given = none)
    (hevents : (Prompt.Session.start.play events).entered? = none) :
    let o := run call ⟨fs, .terminal events⟩
    (o.prompted = true ∧ o.exit = 0 ∧ o.stdout = "" ∧ o.files = fs) ∨
      (o.prompted = false ∧ o.exit ≠ 0 ∧ ∀ text i,
        (Product.ofRequest call.workingDirectory r).effect ⟨fs, .terminal events⟩ =
          (Product.ofRequest call.workingDirectory (r.withText text)).effect ⟨fs, i⟩) := by
  intro o
  have hi : Product.supplied none (.terminal events) = .ok none :=
    Product.supplied_eq_none_iff.mpr ⟨rfl, events, rfl, hevents⟩
  have hprompted : o.prompted =
      ((Product.ofRequest call.workingDirectory r).on ⟨fs, .terminal events⟩).prompted := by
    simp only [o, run, h, Outcome.of]
    split <;> rfl
  rw [Product.prompted_ofRequest] at hprompted
  obtain ⟨hfiles, hresult⟩ := run_of_read ⟨fs, .terminal events⟩ h
  simp only [Product.effect_ofRequest] at hfiles hresult
  cases hs : Settings.settle fs call.workingDirectory r with
  | error p =>
    simp only [hs] at hprompted hresult
    refine .inr ⟨hprompted, ?_, fun text i => ?_⟩
    · rw [show o.exit = p.exit from hresult.1]
      exact p.exit_ne_zero
    · simp only [Product.effect_ofRequest, Settings.settle_withText, hs, Except.map]
  | ok s =>
    have hsource : s.source = .of r := (Settings.settle_inv hs).2.1
    simp only [hs, Product.effect_ofSettings, hsource, hgiven, hi] at hprompted hfiles hresult
    exact .inl ⟨hprompted, hresult.1, hresult.2, hfiles⟩

/-- On a command line without a text, a text that is piped in or submitted at a prompt comes to
what it comes to when it is given as an option. A terminal run that is cancelled, or submitted
blank, once a prompt is shown ends well and leaves nothing; where no prompt is shown, the settings
have failed as they fail with the text. -/
theorem channels_agree {words : List String} {target : Option String} {r : Request} {text : String}
    (hread : CommandLine.read words target = .ok r) (hddl : r.ddl = none) (hjson : r.json = none)
    (hcolor : r.noColor = true) (hquiet : r.verbose = false)
    (hblank : text.toList.all Text.isBlank = false) :
    CommandLine.read (r.textOption text :: words) target = .ok (r.withText text) ∧
    ∀ words', CommandLine.read words' target = .ok (r.withText text) →
    ∀ (w : String) (fs : FileSystem) (i : Input) (colorful colorful' : Bool),
      let asked (i : Input) := run ⟨words, target, w, colorful⟩ ⟨fs, i⟩
      let given := run ⟨words', target, w, colorful'⟩ ⟨fs, i⟩
      (asked (.piped text.toUTF8)).Agrees given ∧
      ∀ events, let session := Prompt.Session.start.play events
        let o := asked (.terminal events)
        (session.status = .submitted → session.editor.text = text.toList → o.Agrees given) ∧
        (session.entered? = none →
          (o.prompted = true ∧ o.exit = 0 ∧ o.stdout = "" ∧ o.files = fs) ∨
          (o.prompted = false ∧ o.exit ≠ 0 ∧ o.Agrees given)) := by
  refine ⟨CommandLine.read_textOption hread hddl hjson text, ?_⟩
  intro words' hread' w fs i colorful colorful' asked given
  have hgiven : (Source.of r).given = none := by
    unfold Source.of
    split
    · exact hjson
    · exact hddl
  have hquiet' : (r.withText text).verbose = false ∧ (r.withText text).noColor = true := by
    unfold Request.withText
    split <;> exact ⟨hquiet, hcolor⟩
  have hagrees (i' : Input) (h : (Product.ofRequest w r).effect ⟨fs, i'⟩ =
      (Product.ofRequest w (r.withText text)).effect ⟨fs, i⟩) : (asked i').Agrees given :=
    run_agrees hread hread' ⟨hquiet, hcolor⟩ hquiet' h
  have hsupplied (i' : Input)
      (h : i'.reply = .piped (some text) ∨ i'.reply = .entered (some text)) :
      (asked i').Agrees given := by
    refine hagrees i' (Product.effect_withText ?_ i)
    rw [hgiven]
    rcases h with h | h <;> simp only [Product.supplied, h]
  refine ⟨hsupplied _ (.inl (Input.reply_piped text)), fun events => ⟨fun hstatus htext => ?_, ?_⟩⟩
  · exact hsupplied _ (.inr (Input.reply_submitted hstatus htext hblank))
  · intro hevents
    have hcases := run_of_nothing_entered ⟨words, target, w, colorful⟩ fs hread hgiven hevents
    rcases hcases with hshown | ⟨hprompted, hexit, heffect⟩
    · exact .inl hshown
    · exact .inr ⟨hprompted, hexit, hagrees _ (heffect text i)⟩

/-- The schema of a table that is piped in, and of the same table as an option. -/
theorem piped_table_agrees :
    let words := ["--schema", "--no-color", "--dialect", "postgres"]
    let text := "CREATE TABLE public.\"user\" (id BIGINT)"
    let r : Request := ⟨none, none, none, none, .postgres, false, true, true, false⟩
    CommandLine.read words none = .ok r ∧ text.toList.all Text.isBlank = false ∧
      (run ⟨words, none, "/", true⟩ ⟨⟨[]⟩, .piped text.toUTF8⟩).Agrees
        (run ⟨("--ddl=" ++ text) :: words, none, "/", false⟩ ⟨⟨[]⟩, .piped text.toUTF8⟩) := by
  intro words text r
  have hread : CommandLine.read words none = .ok r := by decide +kernel
  have hblank : text.toList.all Text.isBlank = false := by decide +kernel
  obtain ⟨hread', hagrees⟩ := channels_agree hread rfl rfl rfl rfl hblank
  exact ⟨hread, hblank, (hagrees _ hread' "/" ⟨[]⟩ (.piped text.toUTF8) true false).1⟩

/-- Cancelling does not make a run succeed whose target leads nowhere: it has failed before. -/
theorem cancelled_run_fails_at_missing_target :
    let words := ["--target", "/missing", "--no-color"]
    let r : Request := ⟨some "/missing", none, none, none, .mysql, false, false, true, false⟩
    let events : List Prompt.Event := [.press .escape]
    CommandLine.read words none = .ok r ∧
      (Prompt.Session.start.play events).status = .cancelled ∧
      (run ⟨words, none, "/", true⟩ ⟨⟨[]⟩, .terminal events⟩).exit ≠ 0 := by
  intro words r events
  exact ⟨by decide +kernel, by decide, by decide +kernel⟩

end EntityGen
