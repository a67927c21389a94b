import EntityGen.Proofs.Effect
import Mathlib.Data.List.TakeWhile

/-!
# The early probe and the creation of a file

The probe takes the input for a stem, and the creation of an entity has one of its own. Each of them
fails for a taken name if and only if something is in the way of its stem (`probe_nameTaken_iff`,
`create_nameTaken_iff`), so they agree on one stem (`probe_agrees_with_create`), although only the
creation fails for a text that is no stem. A file that is created is in the way of its own stem for
as long as it stands (`inTheWay_of_create`).
-/

namespace EntityGen

open Files (FileSystem join)

theorem Text.trim_append_blank {xs ys : List Char} (h : ∀ c ∈ xs, isBlank c = true) :
    trim (ys ++ xs) = trim ys := by
  rw [trim, List.dropWhile_append]
  split
  · rename_i hblank
    rw [List.dropWhile_eq_nil_iff.mpr h, trim, List.isEmpty_iff.mp hblank]
  · have hreverse : ∀ c ∈ xs.reverse, isBlank c = true := fun c hc => h c (List.mem_reverse.mp hc)
    rw [List.reverse_append, dropWhile_append_of_all hreverse, trim]

theorem Job.result_effect {α : Type} (j : Job α) (m : Machine) :
    (j.effect m).result = (j.on m).result := rfl

theorem Job.files_effect {α : Type} (j : Job α) (m : Machine) :
    (j.effect m).files = (j.on m).files := rfl

namespace Generation

variable {directory stem input name path : String} {e : Entity} {fs : FileSystem} {m : Machine}

/-- Something is in the way of the file of a stem. -/
structure InTheWay (fs : FileSystem) (directory stem : String) : Prop where
  valid : isValidStem stem = true
  stands : fs.exists? (join directory (fileName stem)) = true

theorem InTheWay.of_le {fs' : FileSystem} (h : InTheWay fs directory stem) (hle : fs ≤ fs') :
    InTheWay fs' directory stem where
  valid := h.valid
  stands := by
    obtain ⟨place, hplace⟩ := FileSystem.exists?_eq_true_iff.mp h.stands
    exact FileSystem.exists?_eq_true_iff.mpr ⟨place, FileSystem.resolve_found_of_le hle hplace⟩

/-! ## The probe -/

theorem probe_files (directory input : String) (m : Machine) :
    ((probe directory input).on m).files = m.files := by
  rw [← Job.files_effect, effect_probe]

theorem probe_nameTaken_iff (hstem : String.ofList (Text.trim input.toList) = stem) :
    ((probe directory input).on m).result = .error (.nameTaken name) ↔
      InTheWay m.files directory stem ∧ name = fileName stem := by
  rw [← Job.result_effect, effect_probe, hstem]
  dsimp only
  split
  · rename_i hway
    obtain ⟨hvalid, hstands⟩ := Bool.and_eq_true_iff.mp hway
    simp only [Except.error.injEq, Problem.nameTaken.injEq]
    exact ⟨fun heq => ⟨⟨hvalid, hstands⟩, heq.symm⟩, fun h => h.2.symm⟩
  · rename_i hfree
    refine iff_of_false nofun fun h => hfree ?_
    exact Bool.and_eq_true_iff.mpr ⟨h.1.valid, h.1.stands⟩

/-- The probe has no other failure. -/
theorem probe_ok (h : ∀ name, ((probe directory input).on m).result ≠ .error (.nameTaken name)) :
    ((probe directory input).on m).result = .ok () := by
  rw [← Job.result_effect, effect_probe] at h ⊢
  dsimp only at h ⊢
  split
  · rename_i hway
    exact absurd (if_pos hway) (h _)
  · rfl

/-- White space around the input does not show. -/
theorem probe_append_blank {before after : List Char}
    (hbefore : ∀ c ∈ before, Text.isBlank c = true) (hafter : ∀ c ∈ after, Text.isBlank c = true) :
    probe directory (String.ofList (before ++ input.toList ++ after)) = probe directory input := by
  rw [probe, String.toList_ofList, Text.trim_append_blank hafter, Text.trim_prepend_blank hbefore,
    probe]

/-! ## The creation -/

theorem create_nameTaken_iff :
    ((create directory e).on m).result = .error (.nameTaken name) ↔
      InTheWay m.files directory e.fileStem ∧ name = fileName e.fileStem := by
  rw [← Job.result_effect, effect_create]
  dsimp only
  split
  · rename_i hvalid
    split
    · rename_i place hfound
      have hstands := FileSystem.exists?_eq_true_iff.mpr ⟨place, hfound⟩
      simp only [Except.error.injEq, Problem.nameTaken.injEq]
      exact ⟨fun heq => ⟨⟨hvalid, hstands⟩, heq.symm⟩, fun h => h.2.symm⟩
    all_goals
      rename_i hresolve
      refine iff_of_false nofun fun h => ?_
      obtain ⟨place, hfound⟩ := FileSystem.exists?_eq_true_iff.mp h.1.stands
      rw [hresolve] at hfound
      cases hfound
  · rename_i hinvalid
    exact iff_of_false nofun fun h => hinvalid h.1.valid

/-- What is created is in the way of its stem. -/
theorem inTheWay_of_create (h : ((create directory e).on m).result = .ok path) :
    InTheWay ((create directory e).on m).files directory e.fileStem := by
  rw [← Job.result_effect, effect_create] at h
  rw [← Job.files_effect, effect_create]
  dsimp only at h ⊢
  split at h
  · rename_i hvalid
    split at h
    · cases h
    · cases h
    · rename_i place habsent
      have hadds : m.files.AddsFile (m.files.put place (.file e.source)) place e.source :=
        FileSystem.addsFile_put (FileSystem.vacant_of_resolve habsent) e.source
      rw [if_pos hvalid]
      exact ⟨hvalid, FileSystem.exists?_eq_true_iff.mpr
        ⟨place, FileSystem.resolve_absent_of_le hadds.le habsent hadds.file⟩⟩
  · cases h

/-! ## Agreement -/

/-- The probe fails for a taken name if and only if the creation of an entity would whose stem is
the input without the white space around it, which is when something is in the way of that stem, and
it succeeds otherwise. It leaves the files as they are, and white space around the input makes no
difference to it. Once such an entity has been created, the probe fails for the name of its file for
as long as what stands is left standing. -/
theorem probe_agrees_with_create (directory input : String) (m : Machine) :
    let stem := String.ofList (Text.trim input.toList)
    let probed := (probe directory input).on m
    (∀ e name, e.fileStem = stem → (probed.result = .error (.nameTaken name) ↔
      ((create directory e).on m).result = .error (.nameTaken name))) ∧
    (∀ name, probed.result = .error (.nameTaken name) ↔
      InTheWay m.files directory stem ∧ name = fileName stem) ∧
    ((∀ name, probed.result ≠ .error (.nameTaken name)) → probed.result = .ok ()) ∧
    probed.files = m.files ∧
    (∀ before after, (∀ c ∈ before, Text.isBlank c = true) → (∀ c ∈ after, Text.isBlank c = true) →
      (probe directory (String.ofList (before ++ input.toList ++ after))).on m = probed) ∧
    ∀ e path, e.fileStem = stem → ((create directory e).on m).result = .ok path →
      ∀ fs i, ((create directory e).on m).files ≤ fs →
        ((probe directory input).on ⟨fs, i⟩).result = .error (.nameTaken (fileName stem)) := by
  intro stem probed
  refine ⟨fun e name hstem => ?_, fun name => probe_nameTaken_iff rfl, probe_ok,
    probe_files directory input m, ?_, ?_⟩
  · exact (probe_nameTaken_iff hstem.symm).trans create_nameTaken_iff.symm
  · intro before after hbefore hafter
    rw [probe_append_blank hbefore hafter]
  · intro e path hstem hcreated fs i hle
    have hway : InTheWay fs directory stem := hstem ▸ (inTheWay_of_create hcreated).of_le hle
    exact (probe_nameTaken_iff rfl).mpr ⟨hway, rfl⟩

/-- A file that is created behind a link that leads nowhere yet is found by the probe afterwards,
with a tabulator and an ideographic space around its stem. -/
theorem probe_finds_created_file :
    let m : Machine := ⟨⟨[(["user.rs"], .link "other.rs")]⟩, .terminal []⟩
    let e : Entity := ⟨"user", "User", []⟩
    let spaced := String.ofList (['\t'] ++ "user".toList ++ ['\u3000'])
    let created := (create "/" e).on m
    created.result = .ok "/user.rs" ∧ ((probe "/" spaced).on m).result = .ok () ∧
      ((probe "/" spaced).on ⟨created.files, m.input⟩).result = .error (.nameTaken "user.rs") := by
  intro m e spaced created
  have hstem : String.ofList (Text.trim "user".toList) = "user" := by decide +kernel
  have hvalid : isValidStem "user" = true := by decide +kernel
  have habsent : m.files.resolve "/user.rs" = .absent ["other.rs"] := by decide +kernel
  have hcreated : created.result = .ok "/user.rs" := by
    have hpath : join "/" (fileName "user") = "/user.rs" := by decide +kernel
    simp only [created, e, ← Job.result_effect, effect_create, hvalid, hpath, habsent, if_true]
  have hspaced (m : Machine) : (probe "/" spaced).on m = (probe "/" "user").on m :=
    (probe_agrees_with_create "/" "user" m).2.2.2.2.1 _ _ (List.all_eq_true.mp rfl)
      (List.all_eq_true.mp rfl)
  obtain ⟨hagree, -, hok, -, -, hstays⟩ := probe_agrees_with_create "/" "user" m
  refine ⟨hcreated, ?_, ?_⟩
  · rw [hspaced]
    refine hok fun name hprobed => ?_
    have hfails := (hagree e name hstem.symm).mp hprobed
    rw [show ((create "/" e).on m).result = _ from hcreated] at hfails
    cases hfails
  · rw [hspaced]
    have hfails := hstays e _ hstem.symm hcreated created.files m.input (FileSystem.le_refl _)
    rw [hstem] at hfails
    exact hfails

end Generation

end EntityGen
