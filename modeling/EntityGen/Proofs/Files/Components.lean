import EntityGen.Proofs.Files.RealPath

/-!
# Components of written paths

The components of a path are its steps without the periods and the slashes too many, apart from the
root or the period that it may start with. Two paths are the same path if they have the same
components: they lead to the same place unless one of them is at fault
(`resolve_eq_of_components`). A name that is joined to a path is one more component of it, whatever
the path looks like at its end (`componentsOf_join`), so the path around it is the one that it was
joined to (`parentOf_join`).
-/

namespace EntityGen.Files

/-- A component of a written path. -/
inductive Component where
  | root
  /-- A period, which only the first component can be. -/
  | here
  | up
  | name (n : String)
  deriving DecidableEq, Repr

/-- The component that a step is wherever it stands. -/
def Step.component? : Step → Option Component
  | .name n => some (.name n)
  | .up => some .up
  | .here | .slash => none

/-- The step that a component is. -/
def Component.step : Component → Step
  | .root => .slash
  | .here => .here
  | .up => .up
  | .name n => .name n

/-- The component that a path has for its start: the root of an absolute one, or a period. -/
def startOf (written : String) : List Component :=
  if isAbsolute written then [.root]
  else if (stepsOf written).head? = some .here then [.here]
  else []

/-- The components of a written path. -/
def componentsOf (written : String) : List Component :=
  startOf written ++ (stepsOf written).filterMap Step.component?

/-- The components of the path around a path, which has all of its components but the last. Nothing
is around the root or around the empty path. -/
def parentOf (written : String) : Option (List Component) :=
  match (componentsOf written).getLast? with
  | none | some .root => none
  | some _ => some (componentsOf written).dropLast

variable {written directory name : String}

/-! ## A name in a path -/

theorem isName_iff : IsName name ↔ name ≠ "" ∧ name ≠ "." ∧ name ≠ ".." ∧ '/' ∉ name.toList := by
  have htext (cs : List Char) : name.toList = cs ↔ name = String.ofList cs := by
    rw [← String.toList_inj, String.toList_ofList]
  constructor
  · intro h
    have hne (cs : List Char) (hcs : Step.ofPart cs ≠ .name name) : name ≠ String.ofList cs :=
      fun heq => hcs ((htext cs).mpr heq ▸ h.step)
    exact ⟨hne [] (by simp [Step.ofPart]), hne ['.'] (by simp [Step.ofPart]),
      hne ['.', '.'] (by simp [Step.ofPart]), h.noSlash⟩
  · rintro ⟨hempty, hhere, hup, hslash⟩
    refine ⟨?_, hslash⟩
    rw [Step.ofPart, if_neg fun h => hempty ((htext _).mp h),
      if_neg fun h => hhere ((htext _).mp h), if_neg fun h => hup ((htext _).mp h),
      String.ofList_toList]

theorem IsName.stepsOf (h : IsName name) : stepsOf name = [.name name] := by
  rw [Files.stepsOf, splitSlashes_of_not_mem h.noSlash, List.map_singleton, h.step]

theorem IsName.componentsOf (h : IsName name) : componentsOf name = [.name name] := by
  simp [Files.componentsOf, startOf, h.relative, h.stepsOf, Step.component?]

theorem stepsOf_append_slash (base written : String) :
    stepsOf (base ++ "/" ++ written) = stepsOf base ++ stepsOf written := by
  have htext : (base ++ "/" ++ written).toList = base.toList ++ '/' :: written.toList := by simp
  rw [stepsOf, htext, splitSlashes_append_slash, List.map_append]
  rfl

theorem stepsOf_slash (base : String) : stepsOf (base ++ "/") = stepsOf base ++ [.slash] := by
  rw [← String.append_empty (s := base ++ "/"), stepsOf_append_slash]
  rfl

/-- The first step of a path ends at its first slash. -/
theorem head?_stepsOf_append_slash (base written : String) :
    (stepsOf (base ++ "/" ++ written)).head? = (stepsOf base).head? := by
  have hne : stepsOf base ≠ [] := by simpa [stepsOf] using splitSlashes_ne_nil base.toList
  obtain ⟨step, steps, hsteps⟩ := List.exists_cons_of_ne_nil hne
  rw [stepsOf_append_slash, hsteps]
  rfl

theorem head?_stepsOf_slash (base : String) :
    (stepsOf (base ++ "/")).head? = (stepsOf base).head? := by
  rw [← String.append_empty (s := base ++ "/"), head?_stepsOf_append_slash]

/-- What comes after a slash adds the components of its steps, and has no start of its own. -/
theorem componentsOf_append_slash (base written : String) :
    componentsOf (base ++ "/" ++ written) =
      componentsOf (base ++ "/") ++ (stepsOf written).filterMap Step.component? := by
  have habsolute : isAbsolute (base ++ "/" ++ written) = isAbsolute (base ++ "/") := by
    simp [isAbsolute]
  have hstart : startOf (base ++ "/" ++ written) = startOf (base ++ "/") := by
    rw [startOf, startOf, habsolute, head?_stepsOf_append_slash, head?_stepsOf_slash]
  rw [componentsOf, componentsOf, hstart, stepsOf_append_slash, stepsOf_slash]
  simp [Step.component?]

/-- A slash at the end of a path does not show. -/
theorem componentsOf_slash {base : String} (h : base ≠ "") :
    componentsOf (base ++ "/") = componentsOf base := by
  have habsolute : isAbsolute (base ++ "/") = isAbsolute base := by
    obtain ⟨c, cs, hcs⟩ := List.exists_cons_of_ne_nil (mt String.toList_eq_nil_iff.mp h)
    simp [isAbsolute, hcs]
  have hstart : startOf (base ++ "/") = startOf base := by
    rw [startOf, startOf, habsolute, head?_stepsOf_slash]
  rw [componentsOf, componentsOf, hstart, stepsOf_slash]
  simp [Step.component?]

/-- A name that is joined to a path is its last component, after those of the path. -/
theorem componentsOf_join (directory : String) (hname : IsName name) :
    componentsOf (join directory name) = componentsOf directory ++ [.name name] := by
  have hlast : (stepsOf name).filterMap Step.component? = [.name name] := by
    rw [hname.stepsOf]
    rfl
  by_cases hd : directory = ""
  · have hjoin : join directory name = name := by simp [join, hname.relative, hd]
    rw [hjoin, hname.componentsOf, hd]
    rfl
  by_cases hl : directory.toList.getLast? = some '/'
  · obtain ⟨cs, hcs⟩ := List.getLast?_eq_some_iff.mp hl
    have hbase : directory = String.ofList cs ++ "/" := by
      rw [← String.toList_inj]
      simp [hcs]
    have hjoin : join directory name = String.ofList cs ++ "/" ++ name := by
      rw [join, if_neg (by simp [hname.relative]), if_pos (.inl hl), hbase]
    rw [hjoin, componentsOf_append_slash, hlast, hbase]
  · have hjoin : join directory name = directory ++ "/" ++ name := by
      simp [join, hname.relative, hl, hd]
    rw [hjoin, componentsOf_append_slash, hlast, componentsOf_slash hd]

theorem parentOf_join (directory : String) (hname : IsName name) :
    parentOf (join directory name) = some (componentsOf directory) := by
  simp [parentOf, componentsOf_join directory hname]

example : componentsOf (join "./a//./../b/." "c") =
    [.here, .name "a", .up, .name "b", .name "c"] := by decide +kernel

/-! ## Where paths of the same components lead -/

/-- Some steps and what is left of them when periods and slashes are left out. -/
inductive Thins : List Step → List Step → Prop
  | nil : Thins [] []
  | keep {step : Step} {steps thinned : List Step} :
    Thins steps thinned → Thins (step :: steps) (step :: thinned)
  | skip {step : Step} {steps thinned : List Step} :
    step.component? = none → Thins steps thinned → Thins (step :: steps) thinned

variable {steps thinned : List Step}

theorem Thins.append_left (h : Thins steps thinned) (front : List Step) :
    Thins (front ++ steps) (front ++ thinned) := by
  induction front with
  | nil => exact h
  | cons step front ih => exact .keep ih

theorem thins_filterMap (steps : List Step) :
    Thins steps ((steps.filterMap Step.component?).map Component.step) := by
  induction steps with
  | nil => exact .nil
  | cons step steps ih =>
    cases step with
    | name | up => exact .keep ih
    | here | slash => exact .skip rfl ih

/-- The components of a path are its steps, thinned. -/
theorem thins_componentsOf (written : String) :
    Thins (stepsOf written) ((componentsOf written).map Component.step) := by
  rw [componentsOf, startOf]
  split
  · rename_i habsolute
    obtain ⟨cs, hcs⟩ : ∃ cs, written.toList = '/' :: cs := by
      rw [isAbsolute, beq_iff_eq] at habsolute
      exact List.head?_eq_some_iff.mp habsolute
    rw [stepsOf, hcs, splitSlashes]
    exact .keep (thins_filterMap _)
  split
  · rename_i hhere
    obtain ⟨steps, hsteps⟩ := List.head?_eq_some_iff.mp hhere
    rw [hsteps]
    exact .keep (thins_filterMap steps)
  · exact thins_filterMap _

namespace FileSystem

variable {fs : FileSystem} {place : Path}

theorem walkWith_thins {follow : Path → List Step → Resolution}
    (hf : ∀ place steps thinned, Thins steps thinned → (∀ f, follow place steps ≠ .fault f) →
      follow place thinned = follow place steps)
    (hthins : Thins steps thinned) (h : ∀ f, walkWith fs follow place steps ≠ .fault f) :
    walkWith fs follow place thinned = walkWith fs follow place steps := by
  fun_induction walkWith fs follow place steps generalizing thinned with
  | case1 place =>
    cases hthins
    rw [walkWith]
  | case2 | case6 | case8 => exact absurd rfl (h _)
  | case3 place rest hd ih | case4 place rest hd ih =>
    cases hthins with
    | keep hrest =>
      rw [walkWith, if_neg hd]
      exact ih hrest h
    | skip _ hrest => exact ih hrest h
  | case5 place rest hd ih =>
    cases hthins with
    | keep hrest =>
      rw [walkWith, if_neg hd]
      exact ih hrest h
    | skip hstep => cases hstep
  | case7 place hd n hn hnone =>
    cases hthins with
    | keep hrest =>
      cases hrest
      simp only [walkWith, if_neg hd, if_neg hn, hnone, if_true]
    | skip hstep => cases hstep
  | case9 place rest hd n hn target hlink start steps hsteps =>
    cases hthins with
    | keep hrest =>
      simp only [walkWith, if_neg hd, if_neg hn, hlink, hsteps]
      exact hf start _ _ (hrest.append_left steps) h
    | skip hstep => cases hstep
  | case10 place rest hd n hn e hl he ih =>
    cases hthins with
    | keep hrest =>
      rw [walkWith, if_neg hd]
      simp only [if_neg hn]
      cases e with
      | link target => exact absurd rfl (hl target)
      | directory | file => simpa only [he] using ih hrest h
    | skip hstep => cases hstep

/-- Steps that are left out of a walk do not matter to where it ends, only to whether it is at
fault: a slash after the last name asks for a directory. -/
theorem walk_thins (links : Nat) (hthins : Thins steps thinned)
    (h : ∀ f, fs.walk links place steps ≠ .fault f) :
    fs.walk links place thinned = fs.walk links place steps := by
  induction links generalizing place steps thinned with
  | zero => exact walkWith_thins (fun _ _ _ _ hne => absurd rfl (hne _)) hthins h
  | succ links ih => exact walkWith_thins (fun _ _ _ => ih) hthins h

/-- Paths of the same components lead to the same place, unless one of them is at fault. -/
theorem resolve_eq_of_components {other : String}
    (hsame : componentsOf written = componentsOf other)
    (hwritten : ∀ f, fs.resolve written ≠ .fault f) (hother : ∀ f, fs.resolve other ≠ .fault f) :
    fs.resolve written = fs.resolve other :=
  calc fs.resolve written
      = fs.walk maxLinks [] ((componentsOf written).map Component.step) :=
        (walk_thins maxLinks (thins_componentsOf written) hwritten).symm
    _ = fs.walk maxLinks [] ((componentsOf other).map Component.step) := by rw [hsame]
    _ = fs.resolve other := walk_thins maxLinks (thins_componentsOf other) hother

end FileSystem

end EntityGen.Files
