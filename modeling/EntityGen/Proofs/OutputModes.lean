import EntityGen.Proofs.CommandLine.OutputFlag
import EntityGen.Proofs.Files.RealPath
import EntityGen.Proofs.Outcomes

/-!
# What a request comes to in each mode

A request that prints needs no more than that its target, if it has one, exists (`exists_settle`):
what it prints is the entity of its input (`effect_printing`) or the schema (`effect_describing`). A
request that writes either creates the file of that entity or fails, and `Writable` says which
(`effect_writing`).
-/

namespace EntityGen

open CommandLine (Request)
open Files (FileSystem Path join IsName)
open Generation (isValidStem fileName)

variable {r : Request} {s : Settings} {fs : FileSystem} {w text dir : String} {d : Path} {i : Input}
  {e : Entity} {schema : TableSchema}

/-! ## Settings -/

theorem Settings.exists_settle (hmode : OutputMode.of r ≠ .write)
    (htarget : ∀ target, r.target = some target → fs.exists? (join w target) = true) :
    ∃ s, settle fs w r = .ok s := by
  unfold settle
  cases ht : r.target with
  | none =>
    dsimp only
    rw [if_neg hmode]
    exact ⟨_, rfl⟩
  | some target =>
    have hexists := htarget target ht
    obtain ⟨place, hresolve⟩ := FileSystem.exists?_eq_true_iff.mp hexists
    simp only [directoryIn, FileSystem.locate, hresolve, Except.map]
    exact ⟨_, rfl⟩

/-- The directory of a target is one that a path leads to. -/
theorem Settings.directory_of_directoryIn (h : directoryIn fs w dir = .ok d) : fs.Directory d := by
  unfold directoryIn FileSystem.locate at h
  cases hresolve : fs.resolve (join w dir) with
  | absent place => simp [hresolve] at h
  | fault cause => simp [hresolve] at h
  | found place =>
    have hstands := FileSystem.stands_of_resolve hresolve
    have husable := FileSystem.usable_of_resolve hresolve
    simp only [hresolve, Except.ok.injEq] at h
    subst h
    by_cases hdirectory : fs.find? place = some .directory
    · simpa [hdirectory] using ⟨hstands, hdirectory, husable⟩
    · have hne : place ≠ [] := by
        rintro rfl
        exact hdirectory fs.find?_nil
      have hparent : fs.find? place.dropLast = some .directory :=
        hstands.ancestors _ (List.dropLast_prefix place) (FileSystem.dropLast_ne_self hne)
      simpa [hdirectory] using ⟨hstands.dropLast, hparent,
        fun n hn => husable n (List.dropLast_subset place hn)⟩

theorem Settings.settle_of_directoryIn (htarget : r.target = some dir)
    (h : directoryIn fs w dir = .ok d) :
    settle fs w r = .ok ⟨r.noColor, r.verbose, some d, .of r, r.dialect, .of r⟩ := by
  simp only [settle, htarget, h, Except.map]

theorem Generation.isName_fileName {stem : String} (h : isValidStem stem = true) :
    IsName (fileName stem) := by
  have htext : (fileName stem).toList = stem.toList ++ ['.', 'r', 's'] := by simp [fileName]
  have hlength : 3 ≤ (fileName stem).toList.length := by simp [htext]
  have hne (part : List Char) (hpart : part.length < 3) : (fileName stem).toList ≠ part := by
    rintro rfl
    omega
  have hslash : '/' ∉ stem.toList := by
    simp only [isValidStem, Bool.and_eq_true, Bool.not_eq_true'] at h
    simpa using h.1.1.1.1.2
  refine ⟨?_, by simpa [htext] using hslash⟩
  rw [Files.Step.ofPart, if_neg (hne _ (by decide)), if_neg (hne _ (by decide)),
    if_neg (hne _ (by decide)), String.ofList_toList]

/-! ## Products -/

namespace Product

theorem effect_describing (hs : Settings.settle fs w r.describing = .ok s) (hname : r.name = none)
    (hprint : r.print = false) (hi : supplied r.ddl i = .ok (some text))
    (hsql : TableSchema.ofSql r.dialect text = .ok schema) :
    (ofRequest w r.describing).effect ⟨fs, i⟩ =
      ⟨.ok (.printed (schema.toJson.pretty ++ "\n")), [], fs⟩ := by
  have hmode : OutputMode.of r.describing = .schema := by
    simp [OutputMode.of, Request.describing, hprint]
  have hsource : Source.of r.describing = .sql r.ddl := by
    simp [Source.of, Request.describing, hname]
  obtain ⟨ho, hsource', hdialect, -⟩ := Settings.settle_inv hs
  rw [effect_supplied (m := ⟨fs, i⟩) hs (by rwa [hsource]),
    effect_produce_schema (ho.trans hmode) (hsource'.trans hsource), hdialect]
  simp only [Request.describing, hsql]
  rfl

theorem effect_printing (hs : Settings.settle fs w r.printing = .ok s)
    (hi : supplied (Source.of r).given i = .ok (some text)) :
    (ofRequest w r.printing).effect ⟨fs, i⟩ =
      ⟨(entityOf (.of r) r.dialect text).map fun e => .printed e.source, [], fs⟩ := by
  have hmode : OutputMode.of r.printing = .print := rfl
  obtain ⟨ho, hsource, hdialect, -⟩ := Settings.settle_inv hs
  rw [effect_supplied (m := ⟨fs, i⟩) hs hi, effect_produce_print (ho.trans hmode), hsource, hdialect]
  rfl

/-- What it takes for an entity to be written into a directory. -/
def Writable (r : Request) (fs : FileSystem) (d : Path) (text : String) (e : Entity) : Prop :=
  isTaken (.of r) d text fs = false ∧ isValidStem e.fileStem = true ∧
    ∃ place, fs.resolve (join d.text (fileName e.fileStem)) = .absent place

theorem effect_create_of_absent {place : Path} (hvalid : isValidStem e.fileStem = true)
    (hplace : fs.resolve (join d.text (fileName e.fileStem)) = .absent place) :
    (Generation.create d.text e).effect ⟨fs, i⟩ =
      ⟨.ok (join d.text (fileName e.fileStem)), [], fs.put place (.file e.source)⟩ := by
  simp only [Generation.effect_create, hvalid, if_true, hplace]

theorem effect_create_fails (h : ¬ (isValidStem e.fileStem = true ∧
    ∃ place, fs.resolve (join d.text (fileName e.fileStem)) = .absent place)) :
    ∃ p, (Generation.create d.text e).effect ⟨fs, i⟩ = ⟨.error p, [], fs⟩ := by
  simp only [Generation.effect_create]
  by_cases hvalid : isValidStem e.fileStem = true
  · simp only [hvalid, if_true]
    cases hplace : fs.resolve (join d.text (fileName e.fileStem)) with
    | absent place => exact absurd ⟨hvalid, place, hplace⟩ h
    | found place => exact ⟨_, rfl⟩
    | fault cause => exact ⟨_, rfl⟩
  · rw [if_neg hvalid]
    exact ⟨_, rfl⟩

/-- A run that writes either creates the file of its entity, or fails because there is no entity or
it cannot be written. -/
theorem effect_writing (hmode : OutputMode.of r = .write) (htarget : r.target = some dir)
    (hd : Settings.directoryIn fs w dir = .ok d)
    (hi : supplied (Source.of r).given i = .ok (some text)) :
    (∃ e path place, entityOf (.of r) r.dialect text = .ok e ∧ Writable r fs d text e ∧
      fs.resolve (join d.text (fileName e.fileStem)) = .absent place ∧
      (ofRequest w r).effect ⟨fs, i⟩ = ⟨.ok (.file path e), [], fs.put place (.file e.source)⟩) ∨
    (¬ ∃ e, entityOf (.of r) r.dialect text = .ok e ∧ Writable r fs d text e) ∧
      ∃ p, (ofRequest w r).effect ⟨fs, i⟩ = ⟨.error p, [], fs⟩ := by
  have hsettle := Settings.settle_of_directoryIn htarget hd
  rw [effect_supplied (m := ⟨fs, i⟩) hsettle hi, effect_produce_write hmode rfl]
  dsimp only
  by_cases htaken : isTaken (.of r) d text fs = true
  · rw [if_pos htaken]
    refine .inr ⟨fun ⟨e, _, hwritable⟩ => ?_, _, rfl⟩
    exact absurd (htaken.symm.trans hwritable.1) (by decide)
  rw [if_neg htaken]
  cases he : entityOf (.of r) r.dialect text with
  | error p => exact .inr ⟨fun ⟨e, h, _⟩ => (nomatch h), p, rfl⟩
  | ok e =>
    by_cases hcreate : isValidStem e.fileStem = true ∧
      ∃ place, fs.resolve (join d.text (fileName e.fileStem)) = .absent place
    · have hwritable : Writable r fs d text e := ⟨by simpa using htaken, hcreate⟩
      obtain ⟨hvalid, place, hplace⟩ := hcreate
      refine .inl ⟨e, join d.text (fileName e.fileStem), place, rfl, hwritable, hplace, ?_⟩
      dsimp only
      rw [effect_create_of_absent hvalid hplace]
      rfl
    · obtain ⟨p, hp⟩ := effect_create_fails (i := i) hcreate
      refine .inr ⟨fun ⟨e', he', hwritable⟩ => ?_, p, ?_⟩
      · cases he'
        exact hcreate hwritable.2
      · dsimp only
        rw [hp]
        rfl

end Product

end EntityGen
