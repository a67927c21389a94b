import EntityGen.Proofs.Files.RealPath
import EntityGen.Run

/-!
# Effects of jobs

The effect of a job on a machine is what it leaves apart from debugging: its result, the entries of
its log that are always shown, and the files. `effect_bind` composes effects, and each stage of a
run has one lemma that gives its effect as a function of the files and the input
(`effect_obtain`, `effect_settings`, `effect_probe`, `effect_create`, `effect_ofSql`,
`effect_ofSample`, `effect_ofRequest`). Later proofs cite these and open no stage again.
-/

namespace EntityGen

open CommandLine (Request)
open Files (FileFault FileSystem Path join)

/-- What a job leaves apart from debugging. -/
structure Effect (α : Type) where
  result : Except Problem α
  notes : List LogEntry
  files : FileSystem

namespace Effect

variable {α β : Type}

/-- An effect and then another on what it leaves. -/
def andThen (e : Effect α) (f : α → FileSystem → Effect β) : Effect β :=
  match e.result with
  | .ok a => ⟨(f a e.files).result, e.notes ++ (f a e.files).notes, (f a e.files).files⟩
  | .error p => ⟨.error p, e.notes, e.files⟩

@[simp] theorem andThen_ok (a : α) (fs : FileSystem) (f : α → FileSystem → Effect β) :
    andThen ⟨.ok a, [], fs⟩ f = f a fs := rfl

@[simp] theorem andThen_error (p : Problem) (notes : List LogEntry) (fs : FileSystem)
    (f : α → FileSystem → Effect β) : andThen ⟨.error p, notes, fs⟩ f = ⟨.error p, notes, fs⟩ := rfl

end Effect

namespace Job

variable {α β : Type} {m : Machine}

/-- The effect of a job on a machine. -/
def effect (j : Job α) (m : Machine) : Effect α :=
  ⟨(j.on m).result, (j.on m).log.filter (·.isShown false), (j.on m).files⟩

@[simp] theorem effect_done (a : α) : (Job.done a).effect m = ⟨.ok a, [], m.files⟩ := rfl

@[simp] theorem effect_pure (a : α) : (pure a : Job α).effect m = ⟨.ok a, [], m.files⟩ := rfl

@[simp] theorem effect_fail (p : Problem) :
    (Job.fail p : Job α).effect m = ⟨.error p, [], m.files⟩ := rfl

@[simp] theorem effect_locate (path : String) (next : Except FileFault Location → Job α) :
    (Job.locate path next).effect m = (next (m.files.locate path)).effect m := rfl

@[simp] theorem effect_ask (q : Prompt.Question) (next : Reply → Job α) :
    (Job.ask q next).effect m = (next m.input.reply).effect m := by
  simp [effect, on, Finished.after]

@[simp] theorem effect_debug (part message : String) :
    (Job.debug part message).effect m = ⟨.ok (), [], m.files⟩ := by
  simp [effect, debug, on, Finished.after, LogEntry.isShown]

@[simp] theorem effect_info (part message : String) :
    (Job.info part message).effect m = ⟨.ok (), [⟨.info, part, message⟩], m.files⟩ := by
  simp [effect, info, on, Finished.after, LogEntry.isShown]

theorem effect_write (path content : String) (next : Job α) :
    (Job.write path content next).effect m =
      match m.files.write path content with
      | .error cause => ⟨.error (.fileFault cause), [], m.files⟩
      | .ok files => next.effect ⟨files, m.input⟩ := by
  simp only [effect, on]
  cases m.files.write path content <;> rfl

@[simp] theorem effect_bind (j : Job α) (f : α → Job β) :
    (j >>= f).effect m = (j.effect m).andThen fun a fs => (f a).effect ⟨fs, m.input⟩ := by
  simp only [show j >>= f = j.bind f from rfl, effect, on_bind, Effect.andThen]
  cases (j.on m).result <;> simp [Finished.after]

end Job

/-! ## Input -/

namespace Product

/-- What a text that may be given comes to on a machine. -/
def supplied (given : Option String) (i : Input) : Except Problem (Option String) :=
  match given, i.reply with
  | some text, _ => .ok (some text)
  | none, .piped none => .error (.fileFault .invalidText)
  | none, .piped (some text) => .ok (some text)
  | none, .entered text => .ok text
  | none, .cancelled => .ok none

theorem effect_obtain (given : Option String) (q : Prompt.Question) (m : Machine) :
    (obtain given q).effect m = ⟨supplied given m.input, [], m.files⟩ := by
  unfold obtain supplied
  cases given with
  | some text => rfl
  | none =>
    rw [Job.effect_ask]
    rcases m.input.reply with (_ | text) | text | _ <;> simp

end Product

/-! ## Settings -/

theorem Files.FileSystem.locate_eq_ok_iff {fs : FileSystem} {path : String} {l : Location} :
    fs.locate path = .ok l ↔
      fs.resolve path = .found l.place ∧
        l.isDirectory = decide (fs.find? l.place = some .directory) := by
  obtain ⟨place, isDirectory⟩ := l
  unfold locate
  cases fs.resolve path with
  | found p =>
    simp only [Except.ok.injEq, Location.mk.injEq, Resolution.found.injEq]
    constructor
    · rintro ⟨rfl, rfl⟩
      exact ⟨rfl, rfl⟩
    · rintro ⟨rfl, hdirectory⟩
      exact ⟨rfl, hdirectory.symm⟩
  | absent p => simp
  | fault cause => simp

namespace Settings

/-- The directory that a target stands for on a file system. -/
def directoryIn (fs : FileSystem) (workingDirectory target : String) : Except Problem Path :=
  match fs.locate (join workingDirectory target) with
  | .error _ => .error (.missingTarget (.absent (join workingDirectory target)))
  | .ok l => .ok (if l.isDirectory then l.place else l.place.dropLast)

/-- The settings of a request on a file system. -/
def settle (fs : FileSystem) (workingDirectory : String) (r : Request) : Except Problem Settings :=
  let settings (directory : Option Path) : Settings :=
    ⟨r.noColor, r.verbose, directory, .of r, r.dialect, .of r⟩
  match r.target with
  | some target => (directoryIn fs workingDirectory target).map fun d => settings (some d)
  | none => if OutputMode.of r = .write then .error .noTarget else .ok (settings none)

/-- A place that a path leads to is found again by its own path, and it has a parent if it is no
directory. -/
theorem effect_directoryAt {m : Machine} {path : String} {l : Location}
    (h : m.files.locate path = .ok l) :
    (directoryAt l.place).effect m =
      ⟨.ok (if l.isDirectory then l.place else l.place.dropLast), [], m.files⟩ := by
  obtain ⟨hresolve, hdirectory⟩ := FileSystem.locate_eq_ok_iff.mp h
  have hagain : m.files.locate l.place.text = .ok l :=
    FileSystem.locate_eq_ok_iff.mpr
      ⟨(FileSystem.stands_of_resolve hresolve).resolve_text (FileSystem.usable_of_resolve hresolve),
        hdirectory⟩
  rw [directoryAt, Job.effect_locate, hagain]
  cases hl : l.isDirectory with
  | true => simp [Except.toOption, hl]
  | false =>
    have hne : l.place ≠ [] := by
      intro hroot
      rw [hroot, FileSystem.find?_nil] at hdirectory
      simp [hl] at hdirectory
    simp [Except.toOption, hl, Path.parent?, hne]

theorem effect_directoryOf (workingDirectory target : String) (m : Machine) :
    (directoryOf workingDirectory target).effect m =
      ⟨directoryIn m.files workingDirectory target, [], m.files⟩ := by
  simp only [directoryOf, directoryIn, Job.effect_locate]
  cases h : m.files.locate (join workingDirectory target) with
  | error cause => rfl
  | ok l =>
    dsimp only
    rw [Job.effect_locate, h]
    exact effect_directoryAt h

theorem effect_settings (workingDirectory : String) (r : Request) (m : Machine) :
    (Settings.of workingDirectory r).effect m =
      ⟨settle m.files workingDirectory r, [], m.files⟩ := by
  simp only [Settings.of, targetOf, settle]
  cases r.target with
  | some target =>
    simp only [Job.effect_bind, effect_directoryOf]
    cases directoryIn m.files workingDirectory target <;> rfl
  | none => by_cases h : OutputMode.of r = .write <;> simp [h]

end Settings

/-! ## Generation -/

namespace Generation

open Files (Resolution)

theorem isOk_locate (fs : FileSystem) (path : String) :
    (fs.locate path).isOk = fs.exists? path := by
  unfold FileSystem.locate FileSystem.exists?
  cases fs.resolve path <;> rfl

theorem effect_refuseTaken (directory stem : String) (m : Machine) :
    (refuseTaken directory stem).effect m =
      ⟨if m.files.exists? (join directory (fileName stem)) then .error (.nameTaken (fileName stem))
        else .ok (), [], m.files⟩ := by
  rw [refuseTaken, Job.effect_locate, ← isOk_locate]
  cases m.files.locate (join directory (fileName stem)) <;> rfl

theorem effect_probe (directory input : String) (m : Machine) :
    (probe directory input).effect m =
      let stem := String.ofList (Text.trim input.toList)
      ⟨if isValidStem stem && m.files.exists? (join directory (fileName stem)) then
          .error (.nameTaken (fileName stem))
        else .ok (), [], m.files⟩ := by
  simp only [probe]
  by_cases h : isValidStem (String.ofList (Text.trim input.toList)) <;>
    simp [h, effect_refuseTaken]

/-- An entity is written if its stem is valid, nothing stands at its path, and only the last name
of that path is missing. -/
theorem effect_create (directory : String) (e : Entity) (m : Machine) :
    (create directory e).effect m =
      let path := join directory (fileName e.fileStem)
      if isValidStem e.fileStem then
        match m.files.resolve path with
        | .found _ => ⟨.error (.nameTaken (fileName e.fileStem)), [], m.files⟩
        | .fault cause => ⟨.error (.fileFault cause), [], m.files⟩
        | .absent place => ⟨.ok path, [], m.files.put place (.file e.source)⟩
      else ⟨.error (.badStem e.fileStem), [], m.files⟩ := by
  simp only [create]
  by_cases h : isValidStem e.fileStem
  · simp only [h, if_true, Job.effect_bind, effect_refuseTaken]
    cases hr : m.files.resolve (join directory (fileName e.fileStem)) with
    | found place =>
      have : m.files.exists? (join directory (fileName e.fileStem)) = true :=
        FileSystem.exists?_eq_true_iff.mpr ⟨place, hr⟩
      simp [this]
    | absent place | fault cause =>
      have : ¬ m.files.exists? (join directory (fileName e.fileStem)) = true := by
        simp [FileSystem.exists?_eq_true_iff, hr]
      simp [this, Job.effect_write, FileSystem.write, hr]
  · simp [h]

end Generation

/-! ## Products -/

namespace Product

theorem effect_readTable (d : Sql.Dialect) (text : String) (m : Machine) :
    (readTable d text).effect m = ⟨(TableSchema.ofSql d text).mapError .badTable, [], m.files⟩ := by
  simp only [readTable, TableSchema.ofSql, Job.effect_bind, Job.effect_debug, Effect.andThen_ok]
  cases Sql.parseStatements d text.toList with
  | error cause => rfl
  | ok statements =>
    simp only [Job.effect_bind, Job.effect_debug, Effect.andThen_ok]
    cases TableSchema.ofStatements statements <;> rfl

section

variable {α ε ε' : Type} (f : ε → ε')

@[simp] theorem mapError_ok (a : α) : (Except.ok a : Except ε α).mapError f = .ok a := rfl

@[simp] theorem mapError_error (e : ε) :
    (Except.error e : Except ε α).mapError f = .error (f e) := rfl

end

/-- The entity that an input makes. -/
def entityOf (source : Source) (d : Sql.Dialect) (input : String) : Except Problem Entity :=
  match source with
  | .sql _ => ((TableSchema.ofSql d input).mapError .badTable).map .ofSchema
  | .sample name _ => (Entity.ofSample name input).mapError .badSample

/-- The job that is left once there is an input. -/
def produce (s : Settings) (input : String) : Job Product :=
  match s.source with
  | .sql _ => ofSql s input
  | .sample name _ => ofSample s name input

/-- Whether the input of a table definition, taken as a stem, has a file in a directory. -/
def isTaken (source : Source) (directory : Path) (input : String) (fs : FileSystem) : Bool :=
  match source with
  | .sql _ =>
    let stem := String.ofList (Text.trim input.toList)
    Generation.isValidStem stem && fs.exists? (join directory.text (Generation.fileName stem))
  | .sample .. => false

/-- The failure of an input that names a file. -/
def taken (input : String) : Problem :=
  .nameTaken (Generation.fileName (String.ofList (Text.trim input.toList)))

variable {s : Settings} {m : Machine}

theorem effect_produce_write {d : Path} (ho : s.output = .write) (hd : s.directory = some d)
    (input : String) :
    (produce s input).effect m =
      if isTaken s.source d input m.files then ⟨.error (taken input), [], m.files⟩
      else
        match entityOf s.source s.dialect input with
        | .error p => ⟨.error p, [], m.files⟩
        | .ok e =>
          ((Generation.create d.text e).effect m).andThen fun path fs =>
            ⟨.ok (.file path e), [], fs⟩ := by
  cases hs : s.source with
  | sql given =>
    simp only [produce, entityOf, taken, hs, ofSql, probe, ofEntity, ho, hd, Job.effect_bind,
      Generation.effect_probe, effect_readTable]
    by_cases h : isTaken (.sql given) d input m.files = true
    · simp only [h, if_true]
      simp only [isTaken] at h
      simp only [h, if_true, Effect.andThen_error]
    · simp only [h]
      simp only [isTaken] at h
      cases TableSchema.ofSql s.dialect input <;> simp [h, Except.map]
  | sample name given =>
    simp only [produce, isTaken, entityOf, hs, ofSample, ofEntity, ho, hd]
    cases Entity.ofSample name input <;> simp

theorem effect_produce_print (ho : s.output = .print) (input : String) :
    (produce s input).effect m =
      ⟨(entityOf s.source s.dialect input).map fun e => .printed e.source, [], m.files⟩ := by
  cases hs : s.source with
  | sql given =>
    simp only [produce, entityOf, hs, ofSql, probe, ofEntity, ho, Job.effect_bind,
      effect_readTable]
    cases TableSchema.ofSql s.dialect input <;> simp [Except.map]
  | sample name given =>
    simp only [produce, entityOf, hs, ofSample, ofEntity, ho]
    cases Entity.ofSample name input <;> simp [Except.map]

theorem effect_produce_schema {given : Option String} (ho : s.output = .schema)
    (hs : s.source = .sql given) (input : String) :
    (produce s input).effect m =
      ⟨((TableSchema.ofSql s.dialect input).mapError .badTable).map fun schema =>
        .printed (schema.toJson.pretty ++ "\n"), [], m.files⟩ := by
  simp only [produce, hs, ofSql, probe, ho, Job.effect_bind, effect_readTable]
  cases TableSchema.ofSql s.dialect input <;> simp [Except.map]

end Product

/-! ## Requests -/

/-- The text that a source is given with. -/
def Source.given : Source → Option String
  | .sql text => text
  | .sample _ text => text

/-- What is said when no input is entered. -/
def Source.dismissal (source : Source) : LogEntry :=
  let kind :=
    match source with
    | .sql _ => "DDL"
    | .sample .. => "JSON"
  ⟨.info, "rbatis_gen", "No " ++ kind ++ " entered, nothing generated"⟩

namespace Product

variable {m : Machine}

theorem effect_ofSettings (s : Settings) :
    (ofSettings s).effect m =
      match supplied s.source.given m.input with
      | .error p => ⟨.error p, [], m.files⟩
      | .ok none => ⟨.ok .nothing, [s.source.dismissal], m.files⟩
      | .ok (some input) => (produce s input).effect m := by
  cases hs : s.source with
  | sql given | sample _ given =>
    simp only [ofSettings, hs, Job.effect_bind, effect_obtain, Source.given, produce]
    rcases supplied given m.input with p | _ | input
    · rfl
    · simp [ofInput, Source.dismissal, Effect.andThen]
    · rfl

theorem effect_ofRequest (workingDirectory : String) (r : Request) :
    (ofRequest workingDirectory r).effect m =
      match Settings.settle m.files workingDirectory r with
      | .error p => ⟨.error p, [], m.files⟩
      | .ok s => (ofSettings s).effect m := by
  simp only [ofRequest, Job.effect_bind, Job.effect_debug, Settings.effect_settings,
    Effect.andThen_ok]
  cases Settings.settle m.files workingDirectory r <;> rfl

end Product

end EntityGen
