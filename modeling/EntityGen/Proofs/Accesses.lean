import EntityGen.Proofs.Effect

/-!
# What a job does with files

`Job.accesses` lists the paths that a job looks at or writes on a machine. These are all that it
does with files: a job that only looks finishes in the same way wherever these paths lead to the
same, and leaves the files as they are (`on_of_looks`); one with no access at all does so on every
file system (`on_of_no_accesses`).
-/

namespace EntityGen

open Files (FileSystem)

/-- A use of the file system. -/
inductive Access where
  | look (path : String)
  | write (path : String)
  deriving DecidableEq, Repr

namespace Job

variable {α β : Type} {m : Machine} {fs : FileSystem}

/-- The uses that a job makes of the files of a machine, in order. -/
def accesses : Job α → Machine → List Access
  | .done _, _ | .fail _, _ => []
  | .log _ next, m => next.accesses m
  | .locate path next, m => .look path :: (next (m.files.locate path)).accesses m
  | .ask _ next, m => (next m.input.reply).accesses m
  | .write path content next, m =>
    .write path ::
      match m.files.write path content with
      | .error _ => []
      | .ok files => next.accesses { m with files := files }

theorem accesses_bind (j : Job α) (f : α → Job β) (m : Machine) :
    (j >>= f).accesses m = j.accesses m ++
      match (j.on m).result with
      | .ok a => (f a).accesses { m with files := (j.on m).files }
      | .error _ => [] := by
  change (j.bind f).accesses m = _
  induction j generalizing m with
  | done a => rfl
  | fail p => rfl
  | log entry next ih => exact ih m
  | locate path next ih => exact congrArg (.look path :: ·) (ih _ m)
  | ask q next ih => exact ih _ m
  | write path content next ih =>
    simp only [bind, accesses, on]
    cases m.files.write path content with
    | error cause => rfl
    | ok files => exact congrArg (.write path :: ·) (ih _)

/-- A job that only looks at files depends on nothing but what it finds, and changes nothing. -/
theorem on_of_looks {j : Job α}
    (h : ∀ a ∈ j.accesses m, ∃ path, a = .look path ∧ fs.locate path = m.files.locate path) :
    j.on ⟨fs, m.input⟩ = { j.on m with files := fs } := by
  induction j with
  | done | fail => rfl
  | log entry next ih =>
    rw [on, ih h]
    rfl
  | locate path next ih =>
    obtain ⟨hlook, h⟩ := List.forall_mem_cons.mp h
    obtain ⟨_, hpath, hfs⟩ := hlook
    cases hpath
    rw [on, hfs, ih _ h]
    rfl
  | ask q next ih =>
    rw [on, ih _ h]
    rfl
  | write path content next ih =>
    obtain ⟨⟨_, hwrite, _⟩, -⟩ := List.forall_mem_cons.mp h
    cases hwrite

/-- What a job without an access comes to has nothing to do with the files, which it leaves as they
are. -/
theorem on_of_no_accesses {j : Job α} (h : j.accesses m = []) (fs : FileSystem) :
    j.on ⟨fs, m.input⟩ = { j.on m with files := fs } :=
  on_of_looks fun a ha => by simp [h] at ha

end Job

end EntityGen
