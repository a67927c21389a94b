import EntityGen.Proofs.OutputModes

/-!
# The directory of a target

A target is looked up in the working directory, and what it leads to has one real path: only
directories are on it, so its text leads to the same place from everywhere (`resolve_join_written`,
`Directory.isReal`). This is why, once a target exists, no later stage of finding its directory can
fail (`directoryIn_eq_ok_iff`), and why every request that writes has a directory to write into
(`TargetsResolve`, `targets_resolve`).
-/

namespace EntityGen

open CommandLine (Request)
open Files (FileSystem Path Step Resolution join isAbsolute stepsOf splitSlashes)

namespace Files.FileSystem

variable {fs : FileSystem} {place d : Path} {written : String}

/-- Where a path leads that is taken from a place. -/
def resolveFrom (fs : FileSystem) (place : Path) (written : String) : Resolution :=
  fs.walk maxLinks (linkSteps place written).1 (linkSteps place written).2

/-! ## Paths from the working directory -/

theorem stepsOf_join_written (h : ∀ n ∈ place, IsName n) (hrelative : isAbsolute written = false) :
    stepsOf (join place.text written) = .slash :: place.map .name ++ stepsOf written := by
  by_cases hne : place = []
  · subst hne
    have hjoin : (join (Path.text []) written).toList = '/' :: written.toList := by
      rw [show Path.text [] = "/" from rfl]
      simp [join, hrelative]
    rw [stepsOf, hjoin, splitSlashes]
    rfl
  · have hempty : place.text ≠ "" := by
      simp [Path.text]
    have hjoin : (join place.text written).toList =
        place.text.toList ++ '/' :: written.toList := by
      simp [join, hrelative, hempty, getLast?_text hne h]
    rw [stepsOf, hjoin, splitSlashes_append_slash, List.map_append]
    exact congrArg (· ++ stepsOf written) (stepsOf_text hne h)

/-- A path that is joined to the text of a directory is a path from that directory. -/
theorem resolve_join_written (h : fs.Directory place) (written : String) :
    fs.resolve (join place.text written) = fs.resolveFrom place written := by
  unfold resolveFrom linkSteps
  cases habsolute : isAbsolute written with
  | true =>
    rw [join, if_pos habsolute]
    rfl
  | false =>
    have hdirectory : ∀ q, q <+: [] ++ place → fs.find? q = some .directory :=
      fun _ hq => h.of_prefix hq
    rw [resolve, stepsOf_join_written (fun n hn => (h.usable n hn).toIsName) habsolute]
    change walkWith fs (fs.walk 39) [] _ = walkWith fs (fs.walk 39) place _
    rw [List.cons_append, walkWith, if_neg (by simp [find?_nil]),
      walkWith_names hdirectory h.usable, List.nil_append]

/-! ## Real paths of directories -/

/-- A directory with its real path: the path is absolute and goes straight down through directories,
and its text leads to it. -/
structure RealDirectory (fs : FileSystem) (d : Path) : Prop where
  absolute : isAbsolute d.text = true
  straight : ∀ step ∈ stepsOf d.text, step ≠ .here ∧ step ≠ .up
  linkFree : ∀ q, q <+: d → fs.find? q = some .directory
  leads : fs.resolve d.text = .found d

theorem isAbsolute_text (d : Path) : isAbsolute d.text = true := by
  simp [isAbsolute, Path.text]

theorem straight_text (h : ∀ n ∈ d, IsName n) :
    ∀ step ∈ stepsOf d.text, step ≠ .here ∧ step ≠ .up := by
  by_cases hne : d = []
  · subst hne
    decide
  rw [stepsOf_text hne h]
  intro step hstep
  obtain rfl | hstep := List.mem_cons.mp hstep
  · exact ⟨nofun, nofun⟩
  · obtain ⟨n, -, rfl⟩ := List.mem_map.mp hstep
    exact ⟨nofun, nofun⟩

theorem Directory.isReal (h : fs.Directory d) : fs.RealDirectory d where
  absolute := isAbsolute_text d
  straight := straight_text fun n hn => (h.usable n hn).toIsName
  linkFree _ hq := h.of_prefix hq
  leads := h.stands.resolve_text h.usable

/-- The text of a directory leads to it from everywhere. -/
theorem Directory.locate_text (h : fs.Directory d) (w : String) :
    fs.locate (join w d.text) = .ok ⟨d, true⟩ := by
  rw [join, if_pos (isAbsolute_text d)]
  exact locate_eq_ok_iff.mpr ⟨h.isReal.leads, (decide_eq_true h.entry).symm⟩

end Files.FileSystem

namespace Settings

variable {m : Machine} {fs : FileSystem} {cwd d place : Path} {w target : String} {r : Request}
  {s : Settings}

/-! ## Targets -/

theorem directoryIn_of_resolve (h : fs.resolve (join w target) = .found place) :
    directoryIn fs w target =
      .ok (if fs.find? place = some .directory then place else place.dropLast) := by
  have hlocate : fs.locate (join w target) =
      .ok ⟨place, decide (fs.find? place = some .directory)⟩ :=
    FileSystem.locate_eq_ok_iff.mpr ⟨h, rfl⟩
  simp only [directoryIn, hlocate, decide_eq_true_eq]

theorem directoryIn_eq_ok_iff : directoryIn fs w target = .ok d ↔
    ∃ place, fs.resolve (join w target) = .found place ∧
      d = if fs.find? place = some .directory then place else place.dropLast := by
  constructor
  · intro h
    cases hlocate : fs.locate (join w target) with
    | error cause => simp [directoryIn, hlocate] at h
    | ok l =>
      obtain ⟨hresolve, -⟩ := FileSystem.locate_eq_ok_iff.mp hlocate
      rw [directoryIn_of_resolve hresolve] at h
      exact ⟨l.place, hresolve, (Except.ok.inj h).symm⟩
  · rintro ⟨place, hresolve, rfl⟩
    exact directoryIn_of_resolve hresolve

/-- A target without a directory leads nowhere: this is the only way in which it can fail. -/
theorem eq_absent_of_directoryIn {p : Problem} (h : directoryIn fs w target = .error p) :
    p = .missingTarget (.absent (join w target)) := by
  unfold directoryIn at h
  cases hlocate : fs.locate (join w target) with
  | error cause => simpa [hlocate] using h.symm
  | ok l => simp [hlocate] at h

theorem directoryIn_text (h : fs.Directory d) (w : String) : directoryIn fs w d.text = .ok d := by
  simp [directoryIn, h.locate_text w]

theorem result_directoryOf (w target : String) (m : Machine) :
    ((directoryOf w target).on m).result = directoryIn m.files w target :=
  congrArg Effect.result (effect_directoryOf w target m)

/-! ## Settings of requests that write -/

theorem result_of (w : String) (r : Request) (m : Machine) :
    ((Settings.of w r).on m).result = settle m.files w r :=
  congrArg Effect.result (effect_settings w r m)

/-- Settings that write have the directory of their target. -/
theorem exists_target_of_settle (h : settle fs w r = .ok s) (hwrite : s.output = .write) :
    ∃ target d, r.target = some target ∧ directoryIn fs w target = .ok d ∧
      s.directory = some d := by
  have hmode : OutputMode.of r = .write := (settle_inv h).1.symm.trans hwrite
  unfold settle at h
  cases htarget : r.target with
  | none => simp [htarget, hmode] at h
  | some target =>
    cases hd : directoryIn fs w target with
    | error p => simp [htarget, hd, Except.map] at h
    | ok d =>
      simp only [htarget, hd, Except.map, Except.ok.injEq] at h
      exact ⟨target, d, rfl, hd, h ▸ rfl⟩

theorem settle_eq_noTarget_iff (fs : FileSystem) (w : String) (r : Request) :
    settle fs w r = .error .noTarget ↔ OutputMode.of r = .write ∧ r.target = none := by
  unfold settle
  cases htarget : r.target with
  | none => by_cases hmode : OutputMode.of r = .write <;> simp [hmode]
  | some target =>
    cases hd : directoryIn fs w target with
    | error p => simp [hd, eq_absent_of_directoryIn hd, Except.map]
    | ok d => simp [hd, Except.map]

end Settings

namespace Product

variable {m : Machine} {s : Settings} {w : String} {r : Request}

theorem entityOf_ne_noTarget (source : Source) (d : Sql.Dialect) (input : String) :
    entityOf source d input ≠ .error .noTarget := by
  cases source with
  | sql given => cases h : TableSchema.ofSql d input <;> simp [entityOf, h, Except.map]
  | sample name given => cases h : Entity.ofSample name input <;> simp [entityOf, h]

theorem result_create_ne_noTarget (directory : String) (e : Entity) :
    ((Generation.create directory e).effect m).result ≠ .error .noTarget := by
  rw [Generation.effect_create]
  dsimp only
  split
  · split <;> simp
  · simp

theorem supplied_ne_noTarget (given : Option String) (i : Input) :
    supplied given i ≠ .error .noTarget := by
  unfold supplied
  split <;> simp

/-- What settings produce does not fail for want of a target if they have a directory to write
into. -/
theorem result_produce_ne_noTarget (hwrite : s.output = .write → ∃ d, s.directory = some d)
    (input : String) : ((produce s input).effect m).result ≠ .error .noTarget := by
  have hentity := entityOf_ne_noTarget s.source s.dialect input
  cases hmode : s.output with
  | write =>
    obtain ⟨d, hd⟩ := hwrite hmode
    rw [effect_produce_write hmode hd]
    by_cases htaken : isTaken s.source d input m.files = true
    · simp [htaken, taken]
    rw [if_neg htaken]
    cases he : entityOf s.source s.dialect input with
    | error p => simpa [he] using hentity
    | ok e =>
      have hcreate := result_create_ne_noTarget (m := m) d.text e
      dsimp only [Effect.andThen]
      cases hresult : ((Generation.create d.text e).effect m).result with
      | error p => simpa [hresult] using hcreate
      | ok path => simp
  | print =>
    rw [effect_produce_print hmode]
    cases he : entityOf s.source s.dialect input with
    | error p => simpa [he, Except.map] using hentity
    | ok e => simp [Except.map]
  | schema =>
    cases hsource : s.source with
    | sql given =>
      rw [effect_produce_schema hmode hsource]
      cases TableSchema.ofSql s.dialect input <;> simp [Except.map]
    | sample name given =>
      simp only [produce, hsource, ofSample, ofEntity, hmode]
      cases Entity.ofSample name input <;> simp

/-- A request fails for want of a target only if its settings do. -/
theorem result_ofRequest_eq_noTarget_iff : ((ofRequest w r).on m).result = .error .noTarget ↔
    OutputMode.of r = .write ∧ r.target = none := by
  change ((ofRequest w r).effect m).result = _ ↔ _
  rw [effect_ofRequest, ← Settings.settle_eq_noTarget_iff m.files w r]
  cases hs : Settings.settle m.files w r with
  | error p => simp
  | ok s =>
    have hwrite := (Settings.settle_inv hs).2.2.2
    refine iff_of_false ?_ nofun
    dsimp only
    rw [effect_ofSettings]
    rcases hi : supplied s.source.given m.input with p | _ | input
    · exact fun hp => supplied_ne_noTarget s.source.given m.input (Except.error.inj hp ▸ hi)
    · nofun
    · exact result_produce_ne_noTarget hwrite input

end Product

/-! ## All targets -/

/-- How targets are resolved from a working directory. -/
structure TargetsResolve (m : Machine) (cwd : Path) : Prop where
  /-- A target has a directory if it leads to something, and only then. -/
  defined : ∀ target, (∃ d, ((Settings.directoryOf cwd.text target).on m).result = .ok d) ↔
    ∃ place, m.files.resolveFrom cwd target = .found place
  /-- No link is left in the place that a target leads to. Its directory is this place, or the one
  around it. -/
  value : ∀ target place, m.files.resolveFrom cwd target = .found place →
    m.files.Stands place ∧ ((Settings.directoryOf cwd.text target).on m).result =
      .ok (if m.files.find? place = some .directory then place else place.dropLast)
  /-- The directory is given by its real path, and is its own directory from everywhere. -/
  real : ∀ target d, ((Settings.directoryOf cwd.text target).on m).result = .ok d →
    m.files.RealDirectory d ∧ ∀ w, ((Settings.directoryOf w d.text).on m).result = .ok d
  /-- That the target leads nowhere is the only failure. -/
  failure : ∀ target p, ((Settings.directoryOf cwd.text target).on m).result = .error p →
    p = .missingTarget (.absent (join cwd.text target))
  /-- Settings that write have the directory of their target. -/
  settings : ∀ r s, ((Settings.of cwd.text r).on m).result = .ok s → s.output = .write →
    ∃ target d, r.target = some target ∧ s.directory = some d ∧
      ((Settings.directoryOf cwd.text target).on m).result = .ok d ∧ m.files.RealDirectory d
  /-- There are no settings for want of a target exactly if a request writes without one. -/
  noTarget : ∀ r, ((Settings.of cwd.text r).on m).result = .error .noTarget ↔
    OutputMode.of r = .write ∧ r.target = none
  /-- What is done with the settings never fails for want of a target. -/
  unreachable : ∀ r, ((Product.ofRequest cwd.text r).on m).result = .error .noTarget ↔
    ((Settings.of cwd.text r).on m).result = .error .noTarget

/-- From every working directory targets resolve to real directories, and nothing is written
without one. -/
theorem targets_resolve {m : Machine} {cwd : Path} (h : m.files.Directory cwd) :
    TargetsResolve m cwd where
  defined target := by
    simp only [Settings.result_directoryOf, Settings.directoryIn_eq_ok_iff,
      FileSystem.resolve_join_written h]
    constructor
    · rintro ⟨d, place, hplace, -⟩
      exact ⟨place, hplace⟩
    · rintro ⟨place, hplace⟩
      exact ⟨_, place, hplace, rfl⟩
  value target place hplace := by
    rw [← FileSystem.resolve_join_written h] at hplace
    rw [Settings.result_directoryOf]
    exact ⟨FileSystem.stands_of_resolve hplace, Settings.directoryIn_of_resolve hplace⟩
  real target d hd := by
    rw [Settings.result_directoryOf] at hd
    have hdirectory := Settings.directory_of_directoryIn hd
    refine ⟨hdirectory.isReal, fun w => ?_⟩
    rw [Settings.result_directoryOf]
    exact Settings.directoryIn_text hdirectory w
  failure target p hp := by
    rw [Settings.result_directoryOf] at hp
    exact Settings.eq_absent_of_directoryIn hp
  settings r s hs hwrite := by
    rw [Settings.result_of] at hs
    obtain ⟨target, d, htarget, hd, hdirectory⟩ := Settings.exists_target_of_settle hs hwrite
    refine ⟨target, d, htarget, hdirectory, ?_, (Settings.directory_of_directoryIn hd).isReal⟩
    rw [Settings.result_directoryOf]
    exact hd
  noTarget r := by
    rw [Settings.result_of]
    exact Settings.settle_eq_noTarget_iff m.files cwd.text r
  unreachable r := by
    rw [Settings.result_of, Settings.settle_eq_noTarget_iff]
    exact Product.result_ofRequest_eq_noTarget_iff

/-- From `/work`, a link to a file next to it stands for the directory of that file. -/
theorem link_to_file_resolves :
    let m : Machine := ⟨⟨[(["work"], .directory), (["real"], .directory),
      (["real", "notes"], .file ""), (["work", "link"], .link "../real/./notes")]⟩, .piped ⟨#[]⟩⟩
    m.files.Directory ["work"] ∧
      ((Settings.directoryOf "/work" "link").on m).result = .ok ["real"] := by
  intro m
  have hin : Settings.directoryIn m.files "/" "/work" = .ok ["work"] := by rfl
  have h : m.files.Directory ["work"] := Settings.directory_of_directoryIn hin
  have hplace : m.files.resolveFrom ["work"] "link" = .found ["real", "notes"] := by
    rfl
  exact ⟨h, ((targets_resolve h).value "link" _ hplace).2⟩

end EntityGen
