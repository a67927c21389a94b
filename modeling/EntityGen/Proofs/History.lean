import EntityGen.Proofs.Outcomes
import Mathlib.Control.Monad.Basic

/-!
# Histories of runs

Any number of runs, one after the other, on one file system. A run that writes passes the stages of
`Command.Writing`; it adds the file `Writing.place` and nothing else, and every other run leaves
the files as they are (`Command.files_cases`). File systems only grow (`le_filesAfter`), so what
was decided by something that stands is decided again in the same way, and a run that wrote once
finds its file when it is repeated (`Command.Writing.repeated`). The main result is
`files_are_never_overwritten`.
-/

namespace EntityGen

open CommandLine (Request)
open Files (FileSystem Path join)

/-- A run as it is asked for: how the program is called, and what is entered. -/
structure Command where
  call : Invocation
  input : Input

namespace Command

/-- What a command leaves on a file system. -/
def outcome (c : Command) (fs : FileSystem) : Outcome := run c.call ⟨fs, c.input⟩

/-- What the job of a command comes to, if its words make a request. -/
def result? (c : Command) (fs : FileSystem) : Option (Except Problem Product) :=
  match CommandLine.read c.call.words c.call.target with
  | .error _ => none
  | .ok r => some ((Product.ofRequest c.call.workingDirectory r).on ⟨fs, c.input⟩).result

/-- A command that is accepted and asks for a file. -/
def AsksForFile (c : Command) : Prop :=
  ∃ r, CommandLine.read c.call.words c.call.target = .ok r ∧ OutputMode.of r = .write

/-- A command that succeeds with a file, whose path then leads to a place. -/
def WritesFile (c : Command) (fs : FileSystem) (place : Path) : Prop :=
  ∃ path e, c.result? fs = some (.ok (.file path e)) ∧
    (c.outcome fs).files.resolve path = .found place

end Command

/-- The files after several commands in a row. -/
def filesAfter (fs : FileSystem) (commands : List Command) : FileSystem :=
  commands.foldl (fun fs c => (c.outcome fs).files) fs

/-! ## Settings in a file system that has grown -/

theorem Files.FileSystem.locate_of_le {fs fs' : FileSystem} (hle : fs ≤ fs') {path : String}
    {l : Location} (h : fs.locate path = .ok l) : fs'.locate path = .ok l := by
  obtain ⟨hresolve, hdirectory⟩ := FileSystem.locate_eq_ok_iff.mp h
  have hsame := (FileSystem.stands_of_resolve hresolve).isDirectory_of_le hle
  exact FileSystem.locate_eq_ok_iff.mpr
    ⟨FileSystem.resolve_found_of_le hle hresolve, by simpa only [hsame] using hdirectory⟩

theorem Settings.settle_of_le {fs fs' : FileSystem} (hle : fs ≤ fs') {w : String} {r : Request}
    {s : Settings} (h : settle fs w r = .ok s) : settle fs' w r = .ok s := by
  unfold settle at h ⊢
  cases ht : r.target with
  | none => simpa only [ht] using h
  | some target =>
    simp only [ht, directoryIn] at h ⊢
    cases hl : fs.locate (join w target) with
    | error cause => simp [hl, Except.map] at h
    | ok l => simpa only [hl, FileSystem.locate_of_le hle hl] using h

namespace Command

variable {c : Command} {fs fs' : FileSystem} {place : Path}

/-- The stages that a command passes when it writes. -/
structure Writing (c : Command) (fs : FileSystem) where
  r : Request
  s : Settings
  d : Path
  input : String
  e : Entity
  place : Path
  read : CommandLine.read c.call.words c.call.target = .ok r
  mode : OutputMode.of r = .write
  settled : Settings.settle fs c.call.workingDirectory r = .ok s
  directory : s.directory = some d
  supplied : Product.supplied (Source.of r).given c.input = .ok (some input)
  free : Product.isTaken (.of r) d input fs = false
  entity : Product.entityOf (.of r) r.dialect input = .ok e
  valid : Generation.isValidStem e.fileStem = true
  absent : fs.resolve (join d.text (Generation.fileName e.fileStem)) = .absent place

namespace Writing

/-- The path of the new file. -/
def path (w : c.Writing fs) : String := join w.d.text (Generation.fileName w.e.fileStem)

theorem effect_produce (w : c.Writing fs) (fs' : FileSystem)
    (hs : Settings.settle fs' c.call.workingDirectory w.r = .ok w.s) :
    (Product.ofRequest c.call.workingDirectory w.r).effect ⟨fs', c.input⟩ =
      if Product.isTaken (.of w.r) w.d w.input fs' then ⟨.error (Product.taken w.input), [], fs'⟩
      else
        ((Generation.create w.d.text w.e).effect ⟨fs', c.input⟩).andThen fun path fs =>
          ⟨.ok (.file path w.e), [], fs⟩ := by
  obtain ⟨ho, hsource, hdialect, _⟩ := Settings.settle_inv w.settled
  simp only [Product.effect_ofRequest, hs, Product.effect_ofSettings, hsource, w.supplied,
    Product.effect_produce_write (ho.trans w.mode) w.directory, hdialect, w.entity]

/-- A command that passes all stages adds its file. -/
theorem effect (w : c.Writing fs) :
    (Product.ofRequest c.call.workingDirectory w.r).effect ⟨fs, c.input⟩ =
      ⟨.ok (.file w.path w.e), [], fs.put w.place (.file w.e.source)⟩ := by
  rw [w.effect_produce fs w.settled]
  simp [w.free, Generation.effect_create, w.valid, w.absent, path]

theorem addsFile (w : c.Writing fs) :
    fs.AddsFile (c.outcome fs).files w.place w.e.source := by
  have hfiles := (run_of_read ⟨fs, c.input⟩ w.read).1
  rw [w.effect] at hfiles
  rw [outcome, hfiles]
  exact FileSystem.addsFile_put (FileSystem.vacant_of_resolve w.absent) _

theorem exit_eq_zero (w : c.Writing fs) : (c.outcome fs).exit = 0 := by
  have hresult := (run_of_read ⟨fs, c.input⟩ w.read).2
  rw [w.effect] at hresult
  exact hresult.1

theorem result?_eq (w : c.Writing fs) (fs' : FileSystem) :
    c.result? fs' =
      some ((Product.ofRequest c.call.workingDirectory w.r).effect ⟨fs', c.input⟩).result := by
  simp [result?, w.read, Job.effect]

theorem writesFile (w : c.Writing fs) : c.WritesFile fs w.place := by
  refine ⟨w.path, w.e, ?_, ?_⟩
  · rw [w.result?_eq, w.effect]
  · exact FileSystem.resolve_absent_of_le w.addsFile.le w.absent w.addsFile.file

/-- A command that is repeated once its file stands finds a name that is taken: its input's, if that
names a file by now, or else its entity's. -/
theorem repeated (w : c.Writing fs) (hle : fs ≤ fs') {content : String}
    (hfile : fs'.find? w.place = some (.file content)) :
    ∃ name, (Product.ofRequest c.call.workingDirectory w.r).effect ⟨fs', c.input⟩ =
      ⟨.error (.nameTaken name), [], fs'⟩ := by
  rw [w.effect_produce fs' (Settings.settle_of_le hle w.settled)]
  split
  · exact ⟨_, rfl⟩
  · have hres := FileSystem.resolve_absent_of_le hle w.absent hfile
    exact ⟨Generation.fileName w.e.fileStem, by
      simp only [Generation.effect_create, w.valid, hres, if_true, Effect.andThen_error]⟩

end Writing

/-- A command writes or leaves the files as they are. -/
theorem files_cases (c : Command) (fs : FileSystem) :
    Nonempty (c.Writing fs) ∨
      (c.outcome fs).files = fs ∧ ∀ path e, c.result? fs ≠ some (.ok (.file path e)) := by
  cases hread : CommandLine.read c.call.words c.call.target with
  | error ending => exact .inr ⟨by simp [outcome, run, hread], by simp [result?, hread]⟩
  | ok r =>
    have hfiles := (run_of_read ⟨fs, c.input⟩ hread).1
    have hresult : c.result? fs =
        some ((Product.ofRequest c.call.workingDirectory r).effect ⟨fs, c.input⟩).result := by
      simp [result?, hread, Job.effect]
    have hyields := Product.yields_ofRequest c.call.workingDirectory ⟨fs, c.input⟩
      (name_eq_none_of_schema_mode hread)
    generalize (Product.ofRequest c.call.workingDirectory r).effect _ = effect at *
    cases hyields with
    | written hmode hs hd hi htaken he hv hres =>
      exact .inl ⟨⟨r, _, _, _, _, _, hread, hmode, hs, hd, hi, htaken, he, hv, hres⟩⟩
    | failed p => exact .inr ⟨hfiles, by simp [hresult]⟩
    | dismissed hi => exact .inr ⟨hfiles, by simp [hresult]⟩
    | printed hmode hi he => exact .inr ⟨hfiles, by simp [hresult]⟩
    | schema hmode hi he => exact .inr ⟨hfiles, by simp [hresult]⟩

theorem le_outcome (c : Command) (fs : FileSystem) : fs ≤ (c.outcome fs).files := by
  obtain ⟨⟨w⟩⟩ | ⟨heq, _⟩ := c.files_cases fs
  · exact w.addsFile.le
  · rw [heq]
    exact FileSystem.le_refl fs

theorem WritesFile.exists_writing (h : c.WritesFile fs place) :
    ∃ w : c.Writing fs, w.place = place := by
  obtain ⟨path, e, hresult, hres⟩ := h
  obtain ⟨⟨w⟩⟩ | ⟨_, hno⟩ := c.files_cases fs
  · obtain ⟨path', e', hresult', hres'⟩ := w.writesFile
    rw [hresult] at hresult'
    cases hresult'
    rw [hres] at hres'
    cases hres'
    exact ⟨w, rfl⟩
  · exact absurd hresult (hno path e)

end Command

/-! ## Runs in a row -/

theorem filesAfter_append (fs : FileSystem) (cs cs' : List Command) :
    filesAfter fs (cs ++ cs') = filesAfter (filesAfter fs cs) cs' := List.foldl_append ..

/-- Whatever stood before several runs stands after them. -/
theorem le_filesAfter (fs : FileSystem) (cs : List Command) : fs ≤ filesAfter fs cs := by
  induction cs generalizing fs with
  | nil => exact FileSystem.le_refl fs
  | cons c cs ih => exact FileSystem.le_trans (c.le_outcome fs) (ih _)

/-- What a run does to the files on its own: it keeps all that stands, and adds one file at most, if
it succeeds in writing one. -/
theorem Command.keeps_or_adds (c : Command) (fs : FileSystem) :
    fs ≤ (c.outcome fs).files ∧
      ((c.outcome fs).files = fs ∨ ∃ place content, c.WritesFile fs place ∧ c.AsksForFile ∧
        (c.outcome fs).exit = 0 ∧ fs.AddsFile (c.outcome fs).files place content) := by
  refine ⟨c.le_outcome fs, ?_⟩
  obtain ⟨⟨w⟩⟩ | ⟨heq, _⟩ := c.files_cases fs
  · exact .inr ⟨w.place, _, w.writesFile, ⟨w.r, w.read, w.mode⟩, w.exit_eq_zero, w.addsFile⟩
  · exact .inl heq

/-- In every sequence of runs, whatever stands before a run stands after it as it was; a run adds at
most one file, and only if it is asked for one and succeeds; of two runs that write no two write the
same file; and a run that wrote a file fails for a name that is taken whenever it is repeated. -/
theorem files_are_never_overwritten (fs : FileSystem) (before : List Command) (c : Command) :
    let fs₁ := filesAfter fs before
    let files := (c.outcome fs₁).files
    (∀ p e, fs₁.find? p = some e → files.find? p = some e) ∧
    (files = fs₁ ∨ ∃ place content, c.WritesFile fs₁ place ∧ c.AsksForFile ∧
      (c.outcome fs₁).exit = 0 ∧ fs₁.AddsFile files place content) ∧
    ∀ place, c.WritesFile fs₁ place → files ≠ fs₁ ∧ ∀ between,
      let fs₂ := filesAfter fs (before ++ c :: between)
      (∀ c' : Command, ¬ c'.WritesFile fs₂ place) ∧
      ∃ name, c.result? fs₂ = some (.error (.nameTaken name)) ∧ (c.outcome fs₂).exit = 1 ∧
        (c.outcome fs₂).stdout = "" ∧ (c.outcome fs₂).files = fs₂ := by
  intro fs₁ files
  obtain ⟨hle, hadds⟩ := c.keeps_or_adds fs₁
  refine ⟨hle, hadds, fun place hwrites => ?_⟩
  obtain ⟨w, rfl⟩ := hwrites.exists_writing
  refine ⟨fun heq => ?_, fun between => ?_⟩
  · have := w.addsFile.file
    rw [show (c.outcome fs₁).files = fs₁ from heq, w.addsFile.vacant.empty] at this
    cases this
  intro fs₂
  have hgrown : files ≤ fs₂ := by
    have : fs₂ = filesAfter files between := filesAfter_append fs before (c :: between)
    exact this ▸ le_filesAfter files between
  have hfile := hgrown _ _ w.addsFile.file
  refine ⟨fun c' hwrites' => ?_, ?_⟩
  · obtain ⟨w', hplace⟩ := hwrites'.exists_writing
    have := w'.addsFile.vacant.empty
    rw [hplace, hfile] at this
    cases this
  · obtain ⟨name, heffect⟩ := w.repeated (FileSystem.le_trans hle hgrown) hfile
    obtain ⟨hfiles, hresult⟩ := run_of_read ⟨fs₂, c.input⟩ w.read
    rw [heffect] at hfiles hresult
    exact ⟨name, by rw [w.result?_eq, heffect], hresult.1, hresult.2, hfiles⟩

/-- A run that makes a file from a sample. -/
def userSample : Command where
  call := ⟨["--target", "/", "--name", "user", "--json", "\x7b\"id\": 1\x7d"], none, "/", false⟩
  input := .piped ⟨#[]⟩

theorem userSample_writesFile : userSample.WritesFile ⟨[]⟩ ["user.rs"] := by
  let sample := "\x7b\"id\": 1\x7d"
  let r : Request :=
    ⟨some "/", none, some "user", some sample, .mysql, false, false, false, false⟩
  have hread : CommandLine.read userSample.call.words userSample.call.target = .ok r := by
    decide +kernel
  have hroot : (⟨[]⟩ : FileSystem).locate (join "/" "/") = .ok ⟨[], true⟩ := by decide +kernel
  have hsettled : Settings.settle ⟨[]⟩ "/" r =
      .ok ⟨false, false, some [], .sample "user" (some sample), .mysql, .write⟩ := by
    simp only [Settings.settle, Settings.directoryIn, r, hroot]
    rfl
  have hmade : Entity.ofSample "user" sample = .ok ⟨"user", "User", [⟨"id", .i64⟩]⟩ := by
    decide +kernel
  have hentity : Product.entityOf (.of r) r.dialect sample =
      .ok ⟨"user", "User", [⟨"id", .i64⟩]⟩ := by
    simp only [Product.entityOf, Source.of, r, hmade, Product.mapError_ok]
  have hvalid : Generation.isValidStem "user" = true := by decide +kernel
  have habsent : (⟨[]⟩ : FileSystem).resolve (join (Path.text []) (Generation.fileName "user")) =
      .absent ["user.rs"] := by
    decide +kernel
  exact Command.Writing.writesFile
    ⟨r, _, _, sample, _, _, hread, rfl, hsettled, rfl, rfl, rfl, hentity, hvalid, habsent⟩

/-- A file is made from a sample once, and the same run fails when it is repeated. -/
theorem userSample_makes_one_file :
    userSample.WritesFile ⟨[]⟩ ["user.rs"] ∧
      (userSample.outcome (filesAfter ⟨[]⟩ [userSample])).exit = 1 := by
  obtain ⟨_, _, hwrites⟩ := files_are_never_overwritten ⟨[]⟩ [] userSample
  obtain ⟨_, name, _, hexit, _⟩ := (hwrites _ userSample_writesFile).2 []
  exact ⟨userSample_writesFile, hexit⟩

end EntityGen
