import EntityGen.Proofs.Effect

/-!
# When a prompt is shown

Apart from the one stage that obtains the input, no stage of a run asks for anything
(`Job.Silent`). What such a job does depends on the files only (`Job.Silent.on_eq`), and a run shows
a prompt once its settings stand, if it has no text and there is a terminal to ask at
(`Product.prompted_ofRequest`).
-/

namespace EntityGen

open CommandLine (Request)
open Files (FileFault FileSystem)

/-! ## Jobs that ask for nothing -/

namespace Job

variable {α β : Type}

/-- A job that never asks for input. -/
inductive Silent : Job α → Prop where
  | done (a : α) : Silent (.done a)
  | fail (p : Problem) : Silent (.fail p)
  | log {entry : LogEntry} {next : Job α} : Silent next → Silent (.log entry next)
  | locate {path : String} {next : Except FileFault Location → Job α} :
      (∀ answer, Silent (next answer)) → Silent (.locate path next)
  | write {path content : String} {next : Job α} : Silent next → Silent (.write path content next)

namespace Silent

theorem debug (part message : String) : (Job.debug part message).Silent := .log (.done ())

theorem info (part message : String) : (Job.info part message).Silent := .log (.done ())

theorem bind {j : Job α} {f : α → Job β} (h : j.Silent) (hf : ∀ a, (f a).Silent) :
    (j >>= f).Silent := by
  change (j.bind f).Silent
  induction h with
  | done a => exact hf a
  | fail p => exact .fail p
  | log _ ih => exact .log ih
  | locate _ ih => exact .locate ih
  | write _ ih => exact .write ih

/-- What such a job does depends on the files only. -/
theorem on_eq {j : Job α} (h : j.Silent) (fs : FileSystem) (i i' : Input) :
    j.on ⟨fs, i⟩ = j.on ⟨fs, i'⟩ := by
  induction h generalizing fs with
  | done a => rfl
  | fail p => rfl
  | log _ ih => simp only [on, ih fs]
  | locate _ ih => exact ih _ fs
  | @write path content _ _ ih =>
    simp only [on]
    cases fs.write path content with
    | error cause => rfl
    | ok fs' => exact ih fs'

theorem effect_eq {j : Job α} (h : j.Silent) (fs : FileSystem) (i i' : Input) :
    j.effect ⟨fs, i⟩ = j.effect ⟨fs, i'⟩ := by
  simp only [effect, h.on_eq fs i i']

theorem prompted {j : Job α} (h : j.Silent) (m : Machine) : (j.on m).prompted = false := by
  induction h generalizing m with
  | done a => rfl
  | fail p => rfl
  | log _ ih => simp only [on, Finished.after, ih m, Bool.or_false]
  | locate _ ih => exact ih _ m
  | @write path content _ _ ih =>
    simp only [on]
    cases m.files.write path content with
    | error cause => rfl
    | ok files => exact ih _

end Silent

theorem prompted_bind (j : Job α) (f : α → Job β) (m : Machine) :
    ((j >>= f).on m).prompted =
      match (j.on m).result with
      | .ok a => ((j.on m).prompted || ((f a).on ⟨(j.on m).files, m.input⟩).prompted)
      | .error _ => (j.on m).prompted := by
  change ((j.bind f).on m).prompted = _
  rw [on_bind]
  cases (j.on m).result <;> rfl

theorem prompted_bind_debug (part message : String) (f : Unit → Job β) (m : Machine) :
    ((Job.debug part message >>= f).on m).prompted = ((f ()).on m).prompted := by
  rw [prompted_bind, show (Job.debug part message).on m = ⟨.ok (), [⟨.debug, part, message⟩],
    false, m.files⟩ from rfl]
  rfl

/-- A job after which none asks shows a prompt by itself only. -/
theorem prompted_bind_silent {j : Job α} {f : α → Job β} (hf : ∀ a, (f a).Silent) (m : Machine) :
    ((j >>= f).on m).prompted = (j.on m).prompted := by
  rw [prompted_bind]
  cases (j.on m).result with
  | ok a => simp only [(hf a).prompted, Bool.or_false]
  | error p => rfl

end Job

open Job (Silent)

theorem Settings.silent_directoryAt (place : Files.Path) : (directoryAt place).Silent := by
  refine .locate fun answer => ?_
  split
  · exact .done _
  · split
    · exact .done _
    · exact .fail _

theorem Settings.silent_directoryOf (w target : String) : (directoryOf w target).Silent := by
  refine .locate fun answer => ?_
  cases answer with
  | error cause => exact .fail _
  | ok l =>
    refine .locate fun answer => ?_
    cases answer with
    | error cause => exact .fail _
    | ok l => exact silent_directoryAt _

theorem Settings.silent_of (w : String) (r : Request) : (Settings.of w r).Silent := by
  refine .bind ?_ fun _ => .done _
  unfold targetOf
  split
  · exact .bind (silent_directoryOf w _) fun _ => .done _
  · split
    · exact .fail _
    · exact .done _

namespace Generation

theorem silent_refuseTaken (directory stem : String) : (refuseTaken directory stem).Silent := by
  refine .locate fun answer => ?_
  cases answer with
  | error cause => exact .done _
  | ok l => exact .fail _

theorem silent_probe (directory input : String) : (probe directory input).Silent := by
  simp only [probe]
  split
  · exact silent_refuseTaken _ _
  · exact .done _

theorem silent_create (directory : String) (e : Entity) : (create directory e).Silent := by
  unfold create
  split
  · exact (silent_refuseTaken _ _).bind fun _ =>
      .bind (.write (.done _)) fun _ => .bind (.debug _ _) fun _ => .done _
  · exact .fail _

end Generation

namespace Product

theorem silent_readTable (d : Sql.Dialect) (text : String) : (readTable d text).Silent := by
  refine .bind (.debug _ _) fun _ => ?_
  split
  · exact .fail _
  · refine .bind (.debug _ _) fun _ => ?_
    split
    · exact .fail _
    · exact .done _

theorem silent_ofEntity (s : Settings) (e : Entity) : (ofEntity s e).Silent := by
  unfold ofEntity
  split
  · exact .bind (Generation.silent_create _ _) fun _ => .done _
  · exact .fail _
  · exact .done _

theorem silent_produce (s : Settings) (input : String) : (produce s input).Silent := by
  unfold produce
  split
  · have hprobe : (probe s input).Silent := by
      unfold probe
      split
      · exact Generation.silent_probe _ _
      · exact .done _
    refine hprobe.bind fun _ => .bind (silent_readTable _ _) fun schema => ?_
    refine .bind (.debug _ _) fun _ => ?_
    split
    · exact .done _
    · exact silent_ofEntity _ _
  · unfold ofSample
    split
    · exact .fail _
    · exact silent_ofEntity _ _

theorem silent_ofInput (kind : String) (input : Option String) {produce : String → Job Product}
    (h : ∀ text, (produce text).Silent) : (ofInput kind input produce).Silent := by
  cases input with
  | some text => exact h text
  | none => exact .bind (.info _ _) fun _ => .done _

theorem prompted_obtain (given : Option String) (q : Prompt.Question) (m : Machine) :
    ((obtain given q).on m).prompted = (given.isNone && m.input.isTerminal) := by
  cases given with
  | some text => rfl
  | none =>
    simp only [obtain, Job.on, Finished.after, Option.isNone_none, Bool.true_and]
    suffices h : Silent _ by rw [h.prompted, Bool.or_false]
    split
    · exact .fail _
    · exact .bind (.debug _ _) fun _ => .done _
    · exact .done _
    · exact .bind (.debug _ _) fun _ => .done _

theorem prompted_ofSettings (s : Settings) (m : Machine) :
    ((ofSettings s).on m).prompted = (s.source.given.isNone && m.input.isTerminal) := by
  have hproduce := silent_produce s
  unfold ofSettings
  unfold produce at hproduce
  cases hs : s.source with
  | sql given =>
    simp only [hs] at hproduce ⊢
    rw [Job.prompted_bind_silent fun input => silent_ofInput _ input hproduce, prompted_obtain]
    rfl
  | sample name given =>
    simp only [hs] at hproduce ⊢
    rw [Job.prompted_bind_silent fun input => silent_ofInput _ input hproduce, prompted_obtain]
    rfl

/-- A prompt is shown if the settings stand, no text is given, and there is a terminal to ask at. -/
theorem prompted_ofRequest (w : String) (r : Request) (m : Machine) :
    ((ofRequest w r).on m).prompted =
      match Settings.settle m.files w r with
      | .error _ => false
      | .ok s => s.source.given.isNone && m.input.isTerminal := by
  have heffect := Settings.effect_settings w r m
  have hresult : ((Settings.of w r).on m).result = Settings.settle m.files w r :=
    congrArg Effect.result heffect
  have hfiles : ((Settings.of w r).on m).files = m.files := congrArg Effect.files heffect
  unfold ofRequest
  rw [Job.prompted_bind_debug, Job.prompted_bind, hresult, hfiles,
    (Settings.silent_of w r).prompted]
  cases Settings.settle m.files w r with
  | error p => rfl
  | ok s => simp only [Bool.false_or, Job.prompted_bind_debug, prompted_ofSettings]

end Product

end EntityGen
