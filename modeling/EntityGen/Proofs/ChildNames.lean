import EntityGen.Proofs.Accesses
import EntityGen.Proofs.EarlyProbe
import EntityGen.Proofs.Files.Components
import EntityGen.Proofs.OutputModes
import Mathlib.Data.List.Chain

/-!
# The files of stems are children of their directory

Whatever a valid stem is and however the directory is written, the file of the stem has the
components of the directory and one more, its name. So it lies right in the directory, different
stems have different files, and this one path is all that the probe and the creation use
(`stems_name_children`). A text that is no stem makes them use no path at all, and the white space
that the probe leaves out around it never makes a stem of it (`IsStem.of_trim`).
-/

namespace EntityGen

open Files (join componentsOf parentOf)

/-- Trimming leaves blanks out at both ends and nothing else. -/
theorem Text.exists_trim (cs : List Char) : ∃ before after,
    (∀ c ∈ before, isBlank c = true) ∧ (∀ c ∈ after, isBlank c = true) ∧
      cs = before ++ trim cs ++ after := by
  let rest := cs.dropWhile isBlank
  refine ⟨cs.takeWhile isBlank, (rest.reverse.takeWhile isBlank).reverse, ?_, ?_, ?_⟩
  · exact fun c hc => List.mem_takeWhile_imp hc
  · exact fun c hc => List.mem_takeWhile_imp (List.mem_reverse.mp hc)
  · have hrest : trim cs ++ (rest.reverse.takeWhile isBlank).reverse = rest := by
      rw [trim, ← List.reverse_append, List.takeWhile_append_dropWhile, List.reverse_reverse]
    rw [List.append_assoc, hrest, List.takeWhile_append_dropWhile]

namespace Generation

variable {directory stem input : String} {cs : List Char} {e : Entity} {m : Machine}

/-! ## Stems -/

/-- Two characters that are not both periods. -/
def Apart (c d : Char) : Prop := ¬ (c = '.' ∧ d = '.')

/-- What it takes for a text to be a stem. -/
structure IsStem (cs : List Char) : Prop where
  nonempty : cs ≠ []
  slash : '/' ∉ cs
  backslash : '\\' ∉ cs
  nul : '\x00' ∉ cs
  start : cs.head? ≠ some '.'
  dots : cs.IsChain Apart

theorem occurs_dots_eq_false_iff : occurs ['.', '.'] cs = false ↔ cs.IsChain Apart := by
  induction cs with
  | nil => simp [occurs]
  | cons c cs ih =>
    cases cs with
    | nil => simp [occurs, List.isPrefixOf]
    | cons d cs =>
      have hstart : ['.', '.'].isPrefixOf (c :: d :: cs) = false ↔ Apart c d := by
        simp [List.isPrefixOf, Apart, @eq_comm _ '.']
      rw [occurs, Bool.or_eq_false_iff, ih, List.isChain_cons_cons, hstart]

theorem isValidStem_iff : isValidStem stem = true ↔ IsStem stem.toList := by
  simp only [isValidStem, Bool.and_eq_true, Bool.not_eq_true', occurs_dots_eq_false_iff]
  constructor
  · rintro ⟨⟨⟨⟨⟨hnonempty, hslash⟩, hbackslash⟩, hnul⟩, hstart⟩, hdots⟩
    exact ⟨by simpa using hnonempty, by simpa using hslash, by simpa using hbackslash,
      by simpa using hnul, by simpa using hstart, hdots⟩
  · intro h
    exact ⟨⟨⟨⟨⟨by simpa using h.nonempty, by simpa using h.slash⟩, by simpa using h.backslash⟩,
      by simpa using h.nul⟩, by simpa using h.start⟩, h.dots⟩

theorem isChain_apart_of_not_mem (h : '.' ∉ cs) : cs.IsChain Apart := by
  refine List.Pairwise.isChain (List.pairwise_of_forall_mem_list fun c hc d _ hdots => h ?_)
  exact hdots.1 ▸ hc

/-- Texts without a period, put around a text, bring no two periods together. -/
theorem isChain_apart_between {before after : List Char} (hbefore : '.' ∉ before)
    (hafter : '.' ∉ after) (h : cs.IsChain Apart) : (before ++ cs ++ after).IsChain Apart := by
  refine ((isChain_apart_of_not_mem hbefore).append h ?_).append
    (isChain_apart_of_not_mem hafter) ?_
  · intro c hc d _ hdots
    exact hbefore (hdots.1 ▸ List.mem_of_getLast? hc)
  · intro c _ d hd hdots
    exact hafter (hdots.2 ▸ List.mem_of_head? hd)

/-- Blanks around a stem leave it a stem. The converse fails: a blank may stand before a period. -/
theorem IsStem.of_trim (h : IsStem (Text.trim cs)) : IsStem cs := by
  obtain ⟨before, after, hbefore, hafter, hcs⟩ := Text.exists_trim cs
  have hnot {blanks : List Char} (hblanks : ∀ c ∈ blanks, Text.isBlank c = true) {c : Char}
      (hc : Text.isBlank c = false) : c ∉ blanks :=
    fun hmem => absurd (hblanks c hmem) (by simp [hc])
  have hkept {c : Char} (hc : Text.isBlank c = false) (htrim : c ∉ Text.trim cs) : c ∉ cs := by
    rw [hcs, List.mem_append, List.mem_append]
    rintro ((hmem | hmem) | hmem)
    · exact hnot hbefore hc hmem
    · exact htrim hmem
    · exact hnot hafter hc hmem
  have hdot : Text.isBlank '.' = false := by decide
  refine ⟨?_, hkept (by decide) h.slash, hkept (by decide) h.backslash, hkept (by decide) h.nul,
    ?_, ?_⟩
  · rintro rfl
    exact h.nonempty rfl
  · -- The first character is a blank, or the first one of the trimmed text.
    intro hstart
    rw [hcs, List.append_assoc] at hstart
    cases before with
    | nil =>
      obtain ⟨c, rest, htrim⟩ := List.exists_cons_of_ne_nil h.nonempty
      refine h.start ?_
      rw [htrim] at hstart ⊢
      exact hstart
    | cons c before =>
      obtain rfl := Option.some.inj hstart
      exact hnot hbefore hdot List.mem_cons_self
  · -- Two periods in a row would have to be in the trimmed text: no blank is a period.
    rw [hcs]
    exact isChain_apart_between (hnot hbefore hdot) (hnot hafter hdot) h.dots

/-- The name of a stem's file, which is none of the other steps of a path and cannot be split. -/
theorem IsStem.ordinary (h : IsStem stem.toList) :
    fileName stem ≠ "" ∧ fileName stem ≠ "." ∧ fileName stem ≠ ".." ∧
      ∀ c ∈ ['/', '\\', '\x00'], c ∉ (fileName stem).toList := by
  have hname : Files.IsName (fileName stem) := isName_fileName (isValidStem_iff.mpr h)
  obtain ⟨hempty, hhere, hup, -⟩ := Files.isName_iff.mp hname
  have htext : (fileName stem).toList = stem.toList ++ ['.', 'r', 's'] := by simp [fileName]
  refine ⟨hempty, hhere, hup, ?_⟩
  simp [htext, h.slash, h.backslash, h.nul]

theorem fileName_inj {other : String} (h : fileName stem = fileName other) : stem = other :=
  String.append_left_inj _ |>.mp h

/-! ## The paths of stems -/

theorem componentsOf_file (directory : String) (h : isValidStem stem = true) :
    componentsOf (join directory (fileName stem)) =
      componentsOf directory ++ [.name (fileName stem)] :=
  Files.componentsOf_join directory (isName_fileName h)

/-- Files of stems are the same file only in the same directory and for the same stem. -/
theorem componentsOf_file_eq_iff {other s t : String} (hs : isValidStem s = true)
    (ht : isValidStem t = true) :
    componentsOf (join directory (fileName s)) = componentsOf (join other (fileName t)) ↔
      componentsOf directory = componentsOf other ∧ s = t := by
  rw [componentsOf_file directory hs, componentsOf_file other ht]
  constructor
  · intro h
    obtain ⟨hdirectory, hname⟩ := List.append_inj' h rfl
    simp only [List.cons.injEq, Files.Component.name.injEq, and_true] at hname
    exact ⟨hdirectory, fileName_inj hname⟩
  · rintro ⟨hdirectory, rfl⟩
    rw [hdirectory]

/-! ## The paths in use -/

theorem accesses_refuseTaken (directory stem : String) (m : Machine) :
    (refuseTaken directory stem).accesses m = [.look (join directory (fileName stem))] := by
  rw [refuseTaken, Job.accesses]
  cases m.files.locate (join directory (fileName stem)) <;> rfl

theorem result_refuseTaken (directory stem : String) (m : Machine) :
    ((refuseTaken directory stem).on m).result =
      if m.files.exists? (join directory (fileName stem)) then .error (.nameTaken (fileName stem))
      else .ok () := by
  rw [← Job.result_effect, effect_refuseTaken]

theorem accesses_probe (h : isValidStem (String.ofList (Text.trim input.toList)) = true) :
    (probe directory input).accesses m =
      [.look (join directory (fileName (String.ofList (Text.trim input.toList))))] := by
  rw [probe, if_pos h, accesses_refuseTaken]

theorem accesses_create (h : isValidStem e.fileStem = true) :
    (create directory e).accesses m =
      let path := join directory (fileName e.fileStem)
      if m.files.exists? path then [.look path] else [.look path, .write path] := by
  let path := join directory (fileName e.fileStem)
  have hwrite (line : String) (m : Machine) :
      (do Job.write path e.source (.done ()); Job.debug "rbatis_gen::generator" line; return path
        : Job String).accesses m = [.write path] := by
    rw [Job.accesses_bind, Job.accesses, Job.on]
    cases m.files.write path e.source <;> rfl
  have hrefused := result_refuseTaken directory e.fileStem m
  rw [create, if_pos h, Job.accesses_bind, accesses_refuseTaken]
  dsimp only
  by_cases hexists : m.files.exists? path = true
  · rw [if_pos hexists] at hrefused ⊢
    rw [hrefused]
    rfl
  · rw [if_neg hexists] at hrefused ⊢
    rw [hrefused]
    exact congrArg (.look path :: ·) (hwrite _ _)

/-! ## Children -/

/-- What the files of stems are to a directory. -/
structure NamesChildren (directory : String) : Prop where
  /-- The path of a file goes through the directory and one step on. -/
  components : ∀ stem, isValidStem stem = true →
    componentsOf (join directory (fileName stem)) =
      componentsOf directory ++ [.name (fileName stem)]
  /-- This step is to a name that is none of the other steps and cannot be split. -/
  ordinary : ∀ stem, isValidStem stem = true →
    fileName stem ≠ "" ∧ fileName stem ≠ "." ∧ fileName stem ≠ ".." ∧
      ∀ c ∈ ['/', '\\', '\x00'], c ∉ (fileName stem).toList
  /-- The directory is what the file lies in. -/
  parent : ∀ stem, isValidStem stem = true →
    parentOf (join directory (fileName stem)) = some (componentsOf directory)
  /-- Another stem, or another directory, has another file. -/
  distinct : ∀ other s t, isValidStem s = true → isValidStem t = true →
    (componentsOf (join directory (fileName s)) = componentsOf (join other (fileName t)) ↔
      componentsOf directory = componentsOf other ∧ s = t)
  /-- The probe looks at the file of its stem, and only where this path leads matters to it. -/
  probed : ∀ input m, let stem := String.ofList (Text.trim input.toList)
    isValidStem stem = true →
      let path := join directory (fileName stem)
      (probe directory input).accesses m = [.look path] ∧
        ∀ fs, fs.locate path = m.files.locate path →
          (probe directory input).on ⟨fs, m.input⟩ =
            { (probe directory input).on m with files := fs }
  /-- The creation looks at the file of its stem, and writes it if nothing is there. -/
  created : ∀ e m, isValidStem e.fileStem = true →
    (create directory e).accesses m =
      let path := join directory (fileName e.fileStem)
      if m.files.exists? path then [.look path] else [.look path, .write path]
  /-- A text that is no stem, with or without the white space around it, passes the probe, whatever
  the files are. -/
  passed : ∀ input m,
    isValidStem input = false ∨ isValidStem (String.ofList (Text.trim input.toList)) = false →
      (probe directory input).accesses m = [] ∧
        ((probe directory input).on m).result = .ok () ∧
        ∀ fs, (probe directory input).on ⟨fs, m.input⟩ =
          { (probe directory input).on m with files := fs }
  /-- The creation refuses it, whatever the files are. -/
  refused : ∀ e m, isValidStem e.fileStem = false →
    (create directory e).accesses m = [] ∧
      ((create directory e).on m).result = .error (.badStem e.fileStem) ∧
      ∀ fs, (create directory e).on ⟨fs, m.input⟩ =
        { (create directory e).on m with files := fs }

/-- Stems name different children of every directory, and nothing but stems does. -/
theorem stems_name_children (directory : String) : NamesChildren directory where
  components _ h := componentsOf_file directory h
  ordinary _ h := (isValidStem_iff.mp h).ordinary
  parent _ h := Files.parentOf_join directory (isName_fileName h)
  distinct _ _ _ hs ht := componentsOf_file_eq_iff hs ht
  probed input m h := by
    intro path
    have hlook : (probe directory input).accesses m = [.look path] := accesses_probe h
    refine ⟨hlook, fun fs hfs => Job.on_of_looks ?_⟩
    intro a ha
    rw [hlook, List.mem_singleton] at ha
    exact ⟨path, ha, hfs⟩
  created _ _ h := accesses_create h
  passed input m h := by
    have htrimmed : isValidStem (String.ofList (Text.trim input.toList)) = false := by
      refine h.elim (fun hinput => ?_) id
      rw [← Bool.not_eq_true, isValidStem_iff] at hinput ⊢
      rw [String.toList_ofList]
      exact mt IsStem.of_trim hinput
    have hprobe : probe directory input = .done () := by
      rw [probe, if_neg (by simp [htrimmed])]
    have hnone : (probe directory input).accesses m = [] := by
      rw [hprobe, Job.accesses]
    exact ⟨hnone, by rw [hprobe, Job.on_done], Job.on_of_no_accesses hnone⟩
  refused e m h := by
    have hcreate : create directory e = .fail (.badStem e.fileStem) := by
      rw [create, if_neg (by simp [h])]
    have hnone : (create directory e).accesses m = [] := by
      rw [hcreate, Job.accesses]
    exact ⟨hnone, by rw [hcreate, Job.on_fail], Job.on_of_no_accesses hnone⟩

/-- The stem `a.` in a directory that is written with a period and a slash too many; `../a` is no
stem. -/
theorem dotted_stem_names_child :
    let directory := "/work/./out/"
    let m : Machine := ⟨⟨[(["work"], .directory), (["work", "out"], .directory)]⟩, .piped ⟨#[]⟩⟩
    let path := "/work/./out/a..rs"
    componentsOf path = [.root, .name "work", .name "out", .name "a..rs"] ∧
      parentOf path = some [.root, .name "work", .name "out"] ∧
      componentsOf path ≠ componentsOf (join "/work//out" (fileName "a")) ∧
      (probe directory " a.\n").accesses m = [.look path] ∧
      (create directory ⟨"a.", "A", []⟩).accesses m = [.look path, .write path] ∧
      (probe directory "../a").accesses m = [] ∧
      ((probe directory "../a").on m).result = .ok () ∧
      ((create directory ⟨"../a", "A", []⟩).on m).result = .error (.badStem "../a") := by
  intro directory m path
  have hnames : NamesChildren directory := stems_name_children directory
  have hvalid : isValidStem "a." = true := by decide +kernel
  have hinvalid : isValidStem "../a" = false := by decide +kernel
  have hpath : join directory (fileName "a.") = path := by decide +kernel
  have hdirectory : componentsOf directory = [.root, .name "work", .name "out"] := by
    decide +kernel
  have htrimmed : String.ofList (Text.trim " a.\n".toList) = "a." := by decide +kernel
  have hfree : m.files.exists? path = false := by decide +kernel
  have hcomponents := hnames.components "a." hvalid
  have hparent := hnames.parent "a." hvalid
  have hprobed := (hnames.probed " a.\n" m (htrimmed ▸ hvalid)).1
  have hcreated := hnames.created ⟨"a.", "A", []⟩ m hvalid
  rw [hpath, hdirectory] at hcomponents hparent
  rw [htrimmed, hpath] at hprobed
  dsimp only at hcreated
  rw [hpath, hfree] at hcreated
  refine ⟨hcomponents, hparent, fun hsame => ?_, hprobed, hcreated, ?_⟩
  · have hstem := (hnames.distinct "/work//out" "a." "a" hvalid (by decide +kernel)).mp
      (hpath ▸ hsame)
    exact absurd hstem.2 (by decide)
  · obtain ⟨hnone, hok, -⟩ := hnames.passed "../a" m (.inl hinvalid)
    exact ⟨hnone, hok, (hnames.refused ⟨"../a", "A", []⟩ m hinvalid).2.1⟩

end Generation

end EntityGen
