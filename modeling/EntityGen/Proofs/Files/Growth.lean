import EntityGen.Files.FileSystem

/-!
# Growth of file systems

`fs ≤ fs'` says that whatever stands in `fs` stands in `fs'` as it was. Following a path is stable
under growth: a path that leads somewhere leads there for good (`resolve_found_of_le`), and a path
of which only the last name is missing leads to what is put there (`resolve_absent_of_le`). Both
rest on one fact about a walk: all it has come through are directories, and it ends at something
that is no link, or at a name that is missing (`Stands`, `walk_leads`).
-/

namespace EntityGen.Files.FileSystem

/-- Whatever stands in one file system stands in the other, with its content or target. -/
instance : LE FileSystem where
  le fs fs' := ∀ p e, fs.find? p = some e → fs'.find? p = some e

variable {fs fs' : FileSystem} {p place : Path} {steps : List Step} {w : String}

protected theorem le_refl (fs : FileSystem) : fs ≤ fs := fun _ _ h => h

protected theorem le_trans {fs₁ fs₂ fs₃ : FileSystem} (h₁ : fs₁ ≤ fs₂) (h₂ : fs₂ ≤ fs₃) :
    fs₁ ≤ fs₃ := fun p e h => h₂ p e (h₁ p e h)

theorem find?_nil (fs : FileSystem) : fs.find? [] = some .directory := by simp [find?]

theorem ne_nil_of_find?_none (h : fs.find? p = none) : p ≠ [] := by
  rintro rfl
  simp [find?_nil] at h

theorem exists?_eq_true_iff : fs.exists? w = true ↔ ∃ p, fs.resolve w = .found p := by
  unfold exists?
  split <;> simp_all

/-! ## Places that a walk has reached -/

/-- Something other than a link stands at a place, and only directories on the way to it. -/
structure Stands (fs : FileSystem) (place : Path) : Prop where
  ancestors : ∀ q, q <+: place → q ≠ place → fs.find? q = some .directory
  entry : ∃ e, fs.find? place = some e ∧ ∀ target, e ≠ .link target

theorem stands_nil (fs : FileSystem) : fs.Stands [] where
  ancestors q hq hne := absurd (List.prefix_nil.mp hq) hne
  entry := ⟨.directory, fs.find?_nil, by simp⟩

theorem dropLast_ne_self (hne : place ≠ []) : place.dropLast ≠ place := by
  intro heq
  have := congrArg List.length heq
  have := List.length_pos_iff.mpr hne
  simp only [List.length_dropLast] at *
  omega

theorem Stands.dropLast (h : fs.Stands place) : fs.Stands place.dropLast := by
  by_cases hne : place = []
  · simpa [hne] using fs.stands_nil
  have hlt : place.dropLast ≠ place := dropLast_ne_self hne
  have hpre : place.dropLast <+: place := List.dropLast_prefix place
  refine ⟨fun q hq hq' => h.ancestors q (hq.trans hpre) ?_, .directory, ?_, by simp⟩
  · rintro rfl
    exact hlt (hpre.eq_of_length_le hq.length_le)
  · exact h.ancestors _ hpre hlt

/-- On the way to what stands in a directory there are only directories. -/
theorem Stands.ancestors_concat (h : fs.Stands place) (hd : fs.find? place = some .directory)
    {n : String} {q : Path} (hq : q <+: place ++ [n]) (hne : q ≠ place ++ [n]) :
    fs.find? q = some .directory := by
  obtain rfl | hq := List.prefix_concat_iff.mp hq
  · exact absurd rfl hne
  · by_cases heq : q = place
    · exact heq ▸ hd
    · exact h.ancestors q hq heq

theorem Stands.concat (h : fs.Stands place) (hd : fs.find? place = some .directory) {n : String}
    {e : Entry} (he : fs.find? (place ++ [n]) = some e) (hl : ∀ target, e ≠ .link target) :
    fs.Stands (place ++ [n]) :=
  ⟨fun _ hq hne => h.ancestors_concat hd hq hne, e, he, hl⟩

theorem Stands.isDirectory_of_le (h : fs.Stands p) (hle : fs ≤ fs') :
    fs'.find? p = some .directory ↔ fs.find? p = some .directory := by
  obtain ⟨e, he, _⟩ := h.entry
  rw [he, hle p e he]

/-- Nothing stands at a place in a directory. -/
structure Vacant (fs : FileSystem) (place : Path) : Prop where
  parent : ∃ d n, place = d ++ [n] ∧ fs.Stands d ∧ fs.find? d = some .directory
  empty : fs.find? place = none

/-- What a path may lead to. -/
def Leads (fs : FileSystem) : Resolution → Prop
  | .found p => fs.Stands p
  | .absent p => fs.Vacant p
  | .fault _ => True

theorem stands_linkSteps (h : fs.Stands place) (target : String) :
    fs.Stands (linkSteps place target).1 := by
  unfold linkSteps
  split
  · exact fs.stands_nil
  · exact h

/-- A walk that goes on well behind links ends well. -/
theorem walkWith_leads {follow : Path → List Step → Resolution}
    (hf : ∀ place steps, fs.Stands place → fs.Leads (follow place steps))
    (h : fs.Stands place) : fs.Leads (walkWith fs follow place steps) := by
  fun_induction walkWith fs follow place steps with
  | case1 place => exact h
  | case2 | case6 | case8 => trivial
  | case3 place rest hd ih | case4 place rest hd ih => exact ih h
  | case5 place rest hd ih => exact ih h.dropLast
  | case7 place hd n hn hnone => exact ⟨⟨place, n, rfl, h, by simpa using hd⟩, hnone⟩
  | case9 place rest hd n hn target hlink start steps hsteps =>
    refine hf _ _ ?_
    simpa [hsteps] using stands_linkSteps h target
  | case10 place rest hd n hn e hl he ih =>
    exact ih (h.concat (by simpa using hd) he fun target heq => hl target heq)

theorem walk_leads (links : Nat) (h : fs.Stands place) : fs.Leads (fs.walk links place steps) := by
  induction links generalizing place steps with
  | zero => exact walkWith_leads (fun _ _ _ => trivial) h
  | succ links ih => exact walkWith_leads (fun _ _ h => ih h) h

theorem resolve_leads (fs : FileSystem) (w : String) : fs.Leads (fs.resolve w) :=
  walk_leads _ fs.stands_nil

theorem stands_of_resolve (h : fs.resolve w = .found p) : fs.Stands p := by
  simpa [h, Leads] using fs.resolve_leads w

theorem vacant_of_resolve (h : fs.resolve w = .absent p) : fs.Vacant p := by
  simpa [h, Leads] using fs.resolve_leads w

/-- One file system is another with one new file in a directory. -/
structure AddsFile (fs fs' : FileSystem) (place : Path) (content : String) : Prop where
  vacant : fs.Vacant place
  file : fs'.find? place = some (.file content)
  others : ∀ q, q ≠ place → fs'.find? q = fs.find? q

theorem addsFile_put (h : fs.Vacant place) (content : String) :
    fs.AddsFile (fs.put place (.file content)) place content where
  vacant := h
  file := find?_put fs _ (ne_nil_of_find?_none h.empty)
  others _ hne := find?_put_of_ne fs _ hne

theorem AddsFile.le {content : String} (h : fs.AddsFile fs' place content) : fs ≤ fs' := by
  intro q e hq
  have hne : q ≠ place := by
    rintro rfl
    simp [h.vacant.empty] at hq
  rw [h.others q hne, hq]

/-! ## Walks in a file system that has grown -/

/-- What becomes of a resolution when the file system grows into `fs'`. -/
def Grows (fs' : FileSystem) : Resolution → Resolution → Prop
  | .found p, new => new = .found p
  | .absent p, new => ∀ e, fs'.find? p = some e → (∀ target, e ≠ .link target) → new = .found p
  | .fault _, _ => True

theorem walkWith_grows (hle : fs ≤ fs') {follow follow' : Path → List Step → Resolution}
    (hf : ∀ place steps, Grows fs' (follow place steps) (follow' place steps)) :
    Grows fs' (walkWith fs follow place steps) (walkWith fs' follow' place steps) := by
  fun_induction walkWith fs follow place steps with
  | case1 place => simp [Grows, walkWith]
  | case2 | case6 | case8 => trivial
  | case3 place rest hd ih | case4 place rest hd ih | case5 place rest hd ih =>
    have hd' := hle _ _ (Decidable.not_not.mp hd)
    simpa [walkWith, hd'] using ih
  | case7 place hd n hn hnone =>
    have hd' := hle _ _ (Decidable.not_not.mp hd)
    intro e he hl
    cases e with
    | link target => exact absurd rfl (hl target)
    | directory | file => simp [walkWith, hd', hn, he]
  | case9 place rest hd n hn target hlink start steps hsteps =>
    have hd' := hle _ _ (Decidable.not_not.mp hd)
    simpa [walkWith, hd', hn, hle _ _ hlink, hsteps] using hf start (steps ++ rest)
  | case10 place rest hd n hn e hl he ih =>
    have hd' := hle _ _ (Decidable.not_not.mp hd)
    cases e with
    | link target => exact absurd rfl (hl target)
    | directory | file => simpa [walkWith, hd', hn, hle _ _ he] using ih

theorem walk_grows (hle : fs ≤ fs') (links : Nat) (place : Path) (steps : List Step) :
    Grows fs' (fs.walk links place steps) (fs'.walk links place steps) := by
  induction links generalizing place steps with
  | zero => exact walkWith_grows hle fun _ _ => trivial
  | succ links ih => exact walkWith_grows hle ih

/-- A path that leads somewhere leads there for good. -/
theorem resolve_found_of_le (hle : fs ≤ fs') (h : fs.resolve w = .found p) :
    fs'.resolve w = .found p := by
  have := walk_grows hle maxLinks [] (stepsOf w)
  rwa [show fs.walk maxLinks [] (stepsOf w) = .found p from h] at this

/-- A path of which only the last name is missing leads to what comes to stand there. -/
theorem resolve_absent_of_le (hle : fs ≤ fs') (h : fs.resolve w = .absent p) {content : String}
    (hp : fs'.find? p = some (.file content)) : fs'.resolve w = .found p := by
  have := walk_grows hle maxLinks [] (stepsOf w)
  rw [show fs.walk maxLinks [] (stepsOf w) = .absent p from h] at this
  exact this _ hp (by simp)

end EntityGen.Files.FileSystem
