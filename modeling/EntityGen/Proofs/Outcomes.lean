import EntityGen.Proofs.CommandLine.Agreement
import EntityGen.Proofs.Effect
import EntityGen.Proofs.SuccessLines
import Mathlib.Control.Monad.Basic
import Mathlib.Logic.ExistsUnique

/-!
# How a run ends

`Yields` lists what the job of a request can come to: a failure, a dismissed prompt, a printed
entity, a printed schema, or one new file (`yields_ofRequest`). From it follow the five ways in
which a run ends, of which exactly one applies (`run_ends_in_one_way`): nothing is printed before
all has succeeded, and nothing is left of a run that fails.
-/

namespace EntityGen

open CommandLine (Request)
open Files (FileSystem Path join)

namespace Settings

variable {fs fs' : FileSystem} {w : String} {r : Request} {s : Settings}

theorem settle_inv (h : settle fs w r = .ok s) :
    s.output = .of r ∧ s.source = .of r ∧ s.dialect = r.dialect ∧
      (s.output = .write → ∃ d, s.directory = some d) := by
  unfold settle at h
  cases ht : r.target with
  | some target =>
    simp only [ht] at h
    cases hd : directoryIn fs w target with
    | error p => simp [hd, Except.map] at h
    | ok d =>
      simp only [hd, Except.map, Except.ok.injEq] at h
      subst h
      exact ⟨rfl, rfl, rfl, fun _ => ⟨d, rfl⟩⟩
  | none =>
    simp only [ht] at h
    by_cases ho : OutputMode.of r = .write
    · simp [ho] at h
    · simp only [ho, if_false, Except.ok.injEq] at h
      subst h
      exact ⟨rfl, rfl, rfl, fun hw => absurd hw ho⟩

end Settings

namespace Product

variable {w : String} {r : Request} {m : Machine}

/-- With settings and an input, a request leaves what they produce. -/
theorem effect_supplied {s : Settings} {input : String} (hs : Settings.settle m.files w r = .ok s)
    (hi : supplied (Source.of r).given m.input = .ok (some input)) :
    (ofRequest w r).effect m = (produce s input).effect m := by
  obtain ⟨_, hsource, _⟩ := Settings.settle_inv hs
  simp only [effect_ofRequest, hs, effect_ofSettings, hsource, hi]

/-- What the job of a request may come to. -/
inductive Yields (w : String) (r : Request) (m : Machine) : Effect Product → Prop where
  | failed (p : Problem) : Yields w r m ⟨.error p, [], m.files⟩
  | dismissed : supplied (Source.of r).given m.input = .ok none →
      Yields w r m ⟨.ok .nothing, [(Source.of r).dismissal], m.files⟩
  | printed {input : String} {e : Entity} : OutputMode.of r = .print →
      supplied (Source.of r).given m.input = .ok (some input) →
      entityOf (.of r) r.dialect input = .ok e →
      Yields w r m ⟨.ok (.printed e.source), [], m.files⟩
  | schema {input : String} {schema : TableSchema} : OutputMode.of r = .schema →
      supplied (Source.of r).given m.input = .ok (some input) →
      TableSchema.ofSql r.dialect input = .ok schema →
      Yields w r m ⟨.ok (.printed (schema.toJson.pretty ++ "\n")), [], m.files⟩
  | written {input : String} {e : Entity} {s : Settings} {d place : Path} :
      OutputMode.of r = .write → Settings.settle m.files w r = .ok s → s.directory = some d →
      supplied (Source.of r).given m.input = .ok (some input) →
      isTaken (.of r) d input m.files = false →
      entityOf (.of r) r.dialect input = .ok e → Generation.isValidStem e.fileStem = true →
      m.files.resolve (join d.text (Generation.fileName e.fileStem)) = .absent place →
      Yields w r m ⟨.ok (.file (join d.text (Generation.fileName e.fileStem)) e), [],
        m.files.put place (.file e.source)⟩

theorem yields_produce {s : Settings} {input : String} (hs : Settings.settle m.files w r = .ok s)
    (hi : supplied (Source.of r).given m.input = .ok (some input))
    (hr : OutputMode.of r = .schema → r.name = none) :
    Yields w r m ((produce s input).effect m) := by
  obtain ⟨ho, hsource, hdialect, hdir⟩ := Settings.settle_inv hs
  cases hmode : OutputMode.of r with
  | print =>
    rw [effect_produce_print (ho.trans hmode), hsource, hdialect]
    cases he : entityOf (.of r) r.dialect input with
    | error p => exact .failed p
    | ok e => exact .printed hmode hi he
  | schema =>
    have hsql : s.source = .sql r.ddl := by rw [hsource, Source.of, hr hmode]
    rw [effect_produce_schema (ho.trans hmode) hsql, hdialect]
    cases he : TableSchema.ofSql r.dialect input with
    | error p => exact .failed _
    | ok schema => exact .schema hmode hi he
  | write =>
    obtain ⟨d, hd⟩ := hdir (ho.trans hmode)
    rw [effect_produce_write (ho.trans hmode) hd, hsource, hdialect]
    split
    · exact .failed _
    · rename_i htaken
      cases he : entityOf (.of r) r.dialect input with
      | error p => exact .failed p
      | ok e =>
        simp only [Generation.effect_create]
        by_cases hv : Generation.isValidStem e.fileStem = true
        · simp only [hv, if_true]
          cases hres : m.files.resolve (join d.text (Generation.fileName e.fileStem)) with
          | found place => exact .failed _
          | fault cause => exact .failed _
          | absent place => exact .written hmode hs hd hi (by simpa using htaken) he hv hres
        · simp only [hv]
          exact .failed _

theorem yields_ofRequest (w : String) (m : Machine)
    (hr : OutputMode.of r = .schema → r.name = none) :
    Yields w r m ((ofRequest w r).effect m) := by
  rw [effect_ofRequest]
  cases hs : Settings.settle m.files w r with
  | error p => exact .failed p
  | ok s =>
    obtain ⟨_, hsource, _⟩ := Settings.settle_inv hs
    simp only [effect_ofSettings, hsource]
    rcases hi : supplied (Source.of r).given m.input with p | _ | input
    · exact .failed p
    · exact .dismissed hi
    · exact yields_produce hs hi hr

end Product

/-! ## Outcomes -/

variable {call : Invocation} {r : Request} {m : Machine}

/-- The exit code, the output and the files of a run as its effect gives them. -/
theorem run_of_read (m : Machine) (h : CommandLine.read call.words call.target = .ok r) :
    let effect := (Product.ofRequest call.workingDirectory r).effect m
    (run call m).files = effect.files ∧
      match effect.result with
      | .ok product => (run call m).exit = 0 ∧
          (run call m).stdout = product.text (call.colorful && !r.noColor)
      | .error p => (run call m).exit = p.exit ∧ (run call m).stdout = "" := by
  simp only [run, h, Outcome.of, Job.effect]
  cases ((Product.ofRequest call.workingDirectory r).on m).result <;> simp

theorem Problem.exit_ne_zero (p : Problem) : p.exit ≠ 0 := by
  unfold Problem.exit
  split <;> decide

/-- How a run of an accepted command line may end. -/
inductive Way where
  | written
  | printed
  | schema
  | dismissed
  | failed
  deriving DecidableEq, Repr

/-- What is so when a run ends in one of the ways. -/
def Way.Describes (call : Invocation) (r : Request) (m : Machine) (o : Outcome) : Way → Prop
  | .written => OutputMode.of r = .write ∧ o.exit = 0 ∧ ∃ input e path place,
      Product.supplied (Source.of r).given m.input = .ok (some input) ∧
      Product.entityOf (.of r) r.dialect input = .ok e ∧
      SuccessLines path e (call.colorful && !r.noColor) o.stdout ∧
      m.files.resolve path = .absent place ∧ o.files.resolve path = .found place ∧
      m.files.AddsFile o.files place e.source
  | .printed => OutputMode.of r = .print ∧ o.exit = 0 ∧ ∃ input e,
      Product.supplied (Source.of r).given m.input = .ok (some input) ∧
      Product.entityOf (.of r) r.dialect input = .ok e ∧
      o.stdout = e.source ∧ o.files = m.files
  | .schema => OutputMode.of r = .schema ∧ o.exit = 0 ∧ ∃ input schema,
      Product.supplied (Source.of r).given m.input = .ok (some input) ∧
      TableSchema.ofSql r.dialect input = .ok schema ∧
      o.stdout = schema.toJson.pretty ++ "\n" ∧ o.files = m.files
  | .dismissed => (Source.of r).given = none ∧
      (∃ events, m.input = .terminal events ∧
        (Prompt.Session.start.play events).entered? = none) ∧
      o.exit = 0 ∧ o.stdout = "" ∧ o.files = m.files
  | .failed => o.exit ≠ 0 ∧ o.stdout = "" ∧ o.files = m.files

/-- No input comes of a prompt only, and of one that was dismissed or left blank. -/
theorem Product.supplied_eq_none_iff {given : Option String} {i : Input} :
    supplied given i = .ok none ↔ given = none ∧
      ∃ events, i = .terminal events ∧ (Prompt.Session.start.play events).entered? = none := by
  cases given with
  | some text => simp [supplied]
  | none =>
    cases i with
    | piped bytes =>
      cases h : String.fromUTF8? bytes <;> simp [supplied, Input.reply, h]
    | terminal events =>
      cases h : (Prompt.Session.start.play events).status <;>
        simp [supplied, Input.reply, Prompt.Session.entered?, h]

/-- The ways exclude each other: by the exit code, by the mode, and by whether there is input. -/
theorem Way.eq_of_describes {o : Outcome} {w w' : Way} (h : w.Describes call r m o)
    (h' : w'.Describes call r m o) : w = w' := by
  have hinput : ∀ {input}, Product.supplied (Source.of r).given m.input = .ok (some input) →
      ¬((Source.of r).given = none ∧ ∃ events, m.input = .terminal events ∧
        (Prompt.Session.start.play events).entered? = none) := by
    intro input hi hnone
    rw [Product.supplied_eq_none_iff.mpr hnone] at hi
    cases hi
  cases w <;> cases w' <;> simp only [Way.Describes] at h h' <;> grind

theorem name_eq_none_of_schema_mode (h : CommandLine.read call.words call.target = .ok r)
    (hmode : OutputMode.of r = .schema) : r.name = none := by
  refine CommandLine.name_eq_none_of_schema h ?_
  unfold OutputMode.of at hmode
  split at hmode
  · cases hmode
  · split at hmode
    · assumption
    · cases hmode

/-- Every run of an accepted command line ends in exactly one of the five ways. A prompt that is
neither submitted nor cancelled when its terminal closes counts as cancelled. -/
theorem run_ends_in_one_way (h : CommandLine.read call.words call.target = .ok r) :
    ∃! way : Way, way.Describes call r m (run call m) := by
  suffices hway : ∃ way : Way, way.Describes call r m (run call m) by
    obtain ⟨way, hway⟩ := hway
    exact ⟨way, hway, fun way' h' => Way.eq_of_describes h' hway⟩
  obtain ⟨hfiles, hresult⟩ := run_of_read m h
  have hyields := Product.yields_ofRequest call.workingDirectory m (name_eq_none_of_schema_mode h)
  generalize (Product.ofRequest call.workingDirectory r).effect m = effect at *
  cases hyields with
  | failed p =>
    obtain ⟨hexit, hout⟩ := hresult
    exact ⟨.failed, hexit ▸ p.exit_ne_zero, hout, hfiles⟩
  | dismissed hi =>
    obtain ⟨hexit, hout⟩ := hresult
    obtain ⟨hgiven, hevents⟩ := Product.supplied_eq_none_iff.mp hi
    exact ⟨.dismissed, hgiven, hevents, hexit, hout, hfiles⟩
  | printed hmode hi he =>
    obtain ⟨hexit, hout⟩ := hresult
    exact ⟨.printed, hmode, hexit, _, _, hi, he, hout, hfiles⟩
  | schema hmode hi he =>
    obtain ⟨hexit, hout⟩ := hresult
    exact ⟨.schema, hmode, hexit, _, _, hi, he, hout, hfiles⟩
  | @written _ e _ _ _ hmode hs hd hi htaken he hv hres =>
    obtain ⟨hexit, hout⟩ := hresult
    have hadds := FileSystem.addsFile_put (FileSystem.vacant_of_resolve hres) e.source
    refine ⟨.written, hmode, hexit, _, _, _, _, hi, he,
      hout ▸ Product.successLines_text _ _ _, hres, ?_, hfiles ▸ hadds⟩
    rw [hfiles]
    exact FileSystem.resolve_absent_of_le hadds.le hres hadds.file

/-- A table that is pasted at a prompt, and whose entity is written, at a terminal with colors. -/
theorem pasted_table_ends_in_one_way :
    let call : Invocation := ⟨["--target", "/out", "-d", "sqlite"], none, "/", true⟩
    let m : Machine := ⟨⟨[(["out"], .directory)]⟩,
      .terminal [.paste "CREATE TABLE users (id INT)", .press .enter]⟩
    ∃ r, CommandLine.read call.words call.target = .ok r ∧
      (∃! way : Way, way.Describes call r m (run call m)) ∧
      (run call m).stdout = "\x1b[32m✓\x1b[0m \x1b[1mCreated\x1b[0m /out/users.rs\n" ++
        "  struct \x1b[36mUsers\x1b[0m with 1 fields\n" := by
  intro call m
  have hread : CommandLine.read call.words call.target =
      .ok ⟨some "/out", none, none, none, .sqlite, false, false, false, false⟩ := by
    decide +kernel
  exact ⟨_, hread, run_ends_in_one_way hread, by decide +kernel⟩

end EntityGen
