import EntityGen.Proofs.OutputModes

/-!
# Where a new file goes

The file of an entity is made in its directory, or behind a link that stands at its name there and
leads to nothing yet (`place_of_absent_join`). So nothing outside of the directory changes unless
there is such a link (`new_file_is_a_child_unless_linked`); with one the file may come to stand
anywhere (`link_leads_new_file_outside`).
-/

namespace EntityGen

open Files (FileSystem Path join IsName maxLinks)
open Files.FileSystem (linkSteps)
open Generation (isValidStem fileName create)

namespace Files.FileSystem

variable {fs fs' : FileSystem} {d place q : Path} {name content : String}

/-- What is missing at a name in a directory is the name itself, or what a link at it leads to. -/
theorem place_of_absent_join (hd : fs.Directory d) (hname : IsName name)
    (h : fs.resolve (join d.text name) = .absent place) :
    (fs.find? (d ++ [name]) = none ∧ place = d ++ [name]) ∨
      ∃ target, fs.find? (d ++ [name]) = some (.link target) ∧
        fs.walk (maxLinks - 1) (linkSteps d target).1 (linkSteps d target).2 = .absent place := by
  rw [resolve_join hd hname] at h
  split at h
  · cases h
  · cases hentry : fs.find? (d ++ [name]) with
    | none =>
      simp only [hentry, Resolution.absent.injEq] at h
      exact .inl ⟨rfl, h.symm⟩
    | some e =>
      cases e with
      | link target =>
        simp only [hentry] at h
        exact .inr ⟨target, rfl, h⟩
      | directory | file => simp [hentry] at h

/-- A file that is added to a directory changes nothing outside of it. -/
theorem AddsFile.outside (h : fs.AddsFile fs' (d ++ [name]) content) (hq : ¬ d <+: q) :
    fs'.find? q = fs.find? q := by
  refine h.others q ?_
  rintro rfl
  exact hq (List.prefix_append ..)

end Files.FileSystem

variable {m : Machine} {d : Path} {e : Entity}

/-- A file is created at a name that may stand in a path, where only that is missing; otherwise
nothing changes. -/
theorem Generation.create_inv (directory : Path) (e : Entity) (m : Machine) :
    let path := join directory.text (fileName e.fileStem)
    let effect := (create directory.text e).effect m
    (∃ p, effect.result = .error p ∧ effect.files = m.files) ∨
      ∃ place, effect.result = .ok path ∧ IsName (fileName e.fileStem) ∧
        m.files.resolve path = .absent place ∧
        effect.files = m.files.put place (.file e.source) := by
  intro path effect
  by_cases hcreate : isValidStem e.fileStem = true ∧ ∃ place, m.files.resolve path = .absent place
  · obtain ⟨hvalid, place, hplace⟩ := hcreate
    have heffect : effect = ⟨.ok path, [], m.files.put place (.file e.source)⟩ :=
      Product.effect_create_of_absent hvalid hplace
    exact .inr ⟨place, by rw [heffect], isName_fileName hvalid, hplace, by rw [heffect]⟩
  · obtain ⟨p, hp⟩ := Product.effect_create_fails (i := m.input) hcreate
    have heffect : effect = ⟨.error p, [], m.files⟩ := hp
    exact .inl ⟨p, by rw [heffect], by rw [heffect]⟩

/-- What creating the file of an entity does to a directory and to all around it. It fails and
changes nothing, or it adds one file, and that is the child of the directory that the stem names, or
where a link at this name leads. If no link is there nothing outside of the directory changes. -/
theorem new_file_is_a_child_unless_linked (hd : m.files.Directory d) (e : Entity) :
    let name := fileName e.fileStem
    let effect := (create d.text e).effect m
    (∀ p, effect.result = .error p → effect.files = m.files) ∧
    (∀ path, effect.result = .ok path → path = join d.text name ∧ IsName name ∧
      ∃ place, m.files.AddsFile effect.files place e.source ∧
        ((m.files.find? (d ++ [name]) = none ∧ place = d ++ [name]) ∨
          ∃ target, m.files.find? (d ++ [name]) = some (.link target) ∧
            m.files.walk (maxLinks - 1) (linkSteps d target).1 (linkSteps d target).2 =
              .absent place)) ∧
    ((∀ target, m.files.find? (d ++ [name]) ≠ some (.link target)) →
      ∀ q, ¬ d <+: q → effect.files.find? q = m.files.find? q) := by
  intro name effect
  rcases Generation.create_inv d e m with
    ⟨p, hresult, hfiles⟩ | ⟨place, hresult, hname, hplace, hfiles⟩
  · refine ⟨fun _ _ => hfiles, fun path hpath => ?_, fun _ q _ => congrArg (·.find? q) hfiles⟩
    rw [hresult] at hpath
    cases hpath
  · have hadds : m.files.AddsFile effect.files place e.source :=
      hfiles ▸ FileSystem.addsFile_put (FileSystem.vacant_of_resolve hplace) e.source
    have hwhere := FileSystem.place_of_absent_join hd hname hplace
    refine ⟨fun p hp => ?_, fun path hpath => ?_, fun hlinks q hq => ?_⟩
    · rw [hresult] at hp
      cases hp
    · rw [hresult] at hpath
      cases hpath
      exact ⟨rfl, hname, place, hadds, hwhere⟩
    · rcases hwhere with ⟨-, rfl⟩ | ⟨target, htarget, -⟩
      · exact hadds.outside hq
      · exact absurd htarget (hlinks target)

/-- A new file beside a link, in a directory that is reached through another. -/
theorem new_file_is_a_child_beside_link :
    let m : Machine :=
      ⟨⟨[(["out"], .directory), (["out", "other.rs"], .link "../escaped.rs")]⟩, .piped ⟨#[]⟩⟩
    let e : Entity := ⟨"user", "User", []⟩
    m.files.Directory ["out"] ∧
      (∀ target, m.files.find? ["out", "user.rs"] ≠ some (.link target)) ∧
      ∀ q, ¬ ["out"] <+: q →
        ((create "/out" e).effect m).files.find? q = m.files.find? q := by
  intro m e
  have hin : Settings.directoryIn m.files "/" "/out" = .ok ["out"] := by rfl
  have hd : m.files.Directory ["out"] := Settings.directory_of_directoryIn hin
  have hlinks : ∀ target, m.files.find? ["out", "user.rs"] ≠ some (.link target) := by
    rintro target ⟨⟩
  exact ⟨hd, hlinks, (new_file_is_a_child_unless_linked hd e).2.2 hlinks⟩

/-- A file is not always created in its directory: a link at its name may lead out. -/
theorem link_leads_new_file_outside :
    ¬ ∀ (m : Machine) (d : Path) (e : Entity), m.files.Directory d →
      ∀ q, ¬ d <+: q → ((create d.text e).effect m).files.find? q = m.files.find? q := by
  intro hall
  let fs : FileSystem := ⟨[(["out"], .directory), (["out", "user.rs"], .link "../escaped.rs")]⟩
  have hin : Settings.directoryIn fs "/" "/out" = .ok ["out"] := by rfl
  have hd : fs.Directory ["out"] := Settings.directory_of_directoryIn hin
  have hfile := hall ⟨fs, .piped ⟨#[]⟩⟩ ["out"] ⟨"user", "User", []⟩ hd ["escaped.rs"] (by decide)
  revert hfile
  decide +kernel

end EntityGen
