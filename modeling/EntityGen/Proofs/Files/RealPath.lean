import EntityGen.Proofs.Files.Growth

/-!
# Places and their own paths

A place that a path leads to is made of names that may be written in a path (`proper_of_resolve`),
so its own text leads to it again, and a name in a directory is looked up there and nowhere else:
`resolve_join` says where `join place.text name` leads, by what stands at that name.
-/

namespace EntityGen.Files

/-! ## Names in a path -/

/-- A part of a written path, as a step. -/
def Step.Written (s : Step) : Prop := ∃ part, '/' ∉ part ∧ s = .ofPart part

theorem notMem_of_mem_splitSlashes {cs part : List Char} (h : part ∈ splitSlashes cs) :
    '/' ∉ part := by
  fun_induction splitSlashes cs generalizing part with
  | case1 => simp_all
  | case2 cs ih =>
    rcases List.mem_cons.mp h with rfl | h
    · simp
    · exact ih h
  | case3 c cs hc hs ih => exact absurd hs (splitSlashes_ne_nil cs)
  | case4 c cs hc first rest hs ih =>
    rw [hs] at ih
    rcases List.mem_cons.mp h with rfl | h
    · simp only [List.mem_cons, not_or]
      exact ⟨fun heq => hc heq.symm, ih List.mem_cons_self⟩
    · exact ih (List.mem_cons_of_mem _ h)

theorem written_of_mem_stepsOf {written : String} {s : Step} (h : s ∈ stepsOf written) :
    s.Written := by
  obtain ⟨part, hpart, rfl⟩ := List.mem_map.mp h
  exact ⟨part, notMem_of_mem_splitSlashes hpart, rfl⟩

/-- A name that is a single step of a path. -/
structure IsName (n : String) : Prop where
  step : Step.ofPart n.toList = .name n
  noSlash : '/' ∉ n.toList

theorem IsName.relative {n : String} (h : IsName n) : isAbsolute n = false := by
  simp only [isAbsolute, beq_eq_false_iff_ne, ne_eq]
  exact fun hhead => h.noSlash (List.mem_of_head? hhead)

theorem Step.Written.isName {n : String} (h : Step.Written (.name n)) : IsName n := by
  obtain ⟨part, hpart, hstep⟩ := h
  have hn : n.toList = part := by
    unfold ofPart at hstep
    split at hstep
    · cases hstep
    split at hstep
    · cases hstep
    split at hstep
    · cases hstep
    · rw [Step.name.inj hstep, String.toList_ofList]
  exact ⟨hn ▸ hstep.symm, hn ▸ hpart⟩

theorem splitSlashes_intercalate {parts : List (List Char)} (hne : parts ≠ [])
    (h : ∀ part ∈ parts, '/' ∉ part) : splitSlashes (['/'].intercalate parts) = parts := by
  induction parts with
  | nil => exact absurd rfl hne
  | cons part parts ih =>
    obtain ⟨hpart, h⟩ := List.forall_mem_cons.mp h
    cases parts with
    | nil => simpa using splitSlashes_of_not_mem hpart
    | cons next parts =>
      rw [List.intercalate_cons_cons, List.append_assoc, List.singleton_append,
        splitSlashes_append_slash, splitSlashes_of_not_mem hpart, ih (by simp) h]
      rfl

/-! ## The text of a place -/

variable {place : Path} {name : String}

theorem stepsOf_text (hne : place ≠ []) (h : ∀ n ∈ place, IsName n) :
    stepsOf place.text = .slash :: place.map .name := by
  have htext : place.text.toList = '/' :: ['/'].intercalate (place.map String.toList) := by
    simp [Path.text, String.toList_intercalate]
  have hparts : ∀ part ∈ place.map String.toList, '/' ∉ part :=
    List.forall_mem_map.mpr fun n hn => (h n hn).noSlash
  have hsteps : (place.map String.toList).map Step.ofPart = place.map .name := by
    rw [List.map_map]
    exact List.map_congr_left fun n hn => (h n hn).step
  rw [stepsOf, htext, splitSlashes, splitSlashes_intercalate (by simpa using hne) hparts,
    List.map_cons, hsteps]
  rfl

/-- The text of a place other than the root does not end in a slash. -/
theorem getLast?_text (hne : place ≠ []) (h : ∀ n ∈ place, IsName n) :
    place.text.toList.getLast? ≠ some '/' := by
  intro hlast
  obtain ⟨cs, hcs⟩ := List.getLast?_eq_some_iff.mp hlast
  have hsteps : (stepsOf place.text).getLast? = some .slash := by
    rw [stepsOf, hcs, splitSlashes_append_slash, List.map_append]
    simp [splitSlashes, Step.ofPart]
  rw [stepsOf_text hne h, List.getLast?_cons, List.getLast?_map,
    List.getLast?_eq_some_getLast hne] at hsteps
  cases hsteps

/-- The steps of a name in a place. -/
theorem stepsOf_join_text (h : ∀ n ∈ place, IsName n) (hname : IsName name) :
    stepsOf (join place.text name) = .slash :: (place ++ [name]).map .name := by
  by_cases hne : place = []
  · subst hne
    have htext : Path.text [] = "/" := rfl
    have hjoin : (join "/" name).toList = '/' :: name.toList := by
      simp [join, hname.relative]
    rw [htext, stepsOf, hjoin, splitSlashes, splitSlashes_of_not_mem hname.noSlash, List.map_cons,
      List.map_singleton, hname.step]
    rfl
  · have hempty : place.text ≠ "" := by
      intro hempty
      have := stepsOf_text hne h
      simp [hempty, stepsOf, splitSlashes, Step.ofPart] at this
      exact hne this
    rw [stepsOf_join hempty (getLast?_text hne h) hname.noSlash, stepsOf_text hne h, hname.step]
    simp

namespace FileSystem

variable {fs : FileSystem} {steps : List Step} {written : String}

/-- A name that may be looked up in a directory. -/
structure Usable (n : String) : Prop extends IsName n where
  short : n.utf8ByteSize ≤ maxNameBytes

/-- What a path may lead to is made of names that may be looked up. -/
def LeadsUsable : Resolution → Prop
  | .found p | .absent p => ∀ n ∈ p, Usable n
  | .fault _ => True

theorem written_linkSteps {target : String} {s : Step} (h : s ∈ (linkSteps place target).2) :
    s.Written := written_of_mem_stepsOf h

theorem usable_linkSteps (h : ∀ n ∈ place, Usable n) (target : String) :
    ∀ n ∈ (linkSteps place target).1, Usable n := by
  unfold linkSteps
  split
  · exact fun n hn => nomatch hn
  · exact h

theorem usable_concat {n : String} (h : ∀ n ∈ place, Usable n) (hn : IsName n)
    (hshort : ¬ maxNameBytes < n.utf8ByteSize) : ∀ m ∈ place ++ [n], Usable m := by
  intro m hm
  rcases List.mem_append.mp hm with hm | hm
  · exact h m hm
  · rw [List.mem_singleton.mp hm]
    exact ⟨hn, Nat.not_lt.mp hshort⟩

theorem walkWith_usable {follow : Path → List Step → Resolution}
    (hf : ∀ place steps, (∀ n ∈ place, Usable n) → (∀ s ∈ steps, s.Written) →
      LeadsUsable (follow place steps))
    (hplace : ∀ n ∈ place, Usable n) (hsteps : ∀ s ∈ steps, s.Written) :
    LeadsUsable (walkWith fs follow place steps) := by
  fun_induction walkWith fs follow place steps with
  | case1 place => exact hplace
  | case2 | case6 | case8 => trivial
  | case3 place rest hd ih | case4 place rest hd ih =>
    exact ih hplace (List.forall_mem_cons.mp hsteps).2
  | case5 place rest hd ih =>
    exact ih (fun n hn => hplace n ((List.dropLast_subset _) hn)) (List.forall_mem_cons.mp hsteps).2
  | case7 place hd n hn hnone =>
    exact usable_concat hplace (List.forall_mem_cons.mp hsteps).1.isName hn
  | case9 place rest hd n hn target hlink start steps hlinkSteps =>
    have hstart := usable_linkSteps hplace target
    have hwritten := @written_linkSteps place target
    rw [hlinkSteps] at hstart hwritten
    refine hf start (steps ++ rest) hstart fun s hs => ?_
    exact (List.mem_append.mp hs).elim hwritten ((List.forall_mem_cons.mp hsteps).2 s)
  | case10 place rest hd n hn e hl he ih =>
    obtain ⟨hstep, hrest⟩ := List.forall_mem_cons.mp hsteps
    exact ih (usable_concat hplace hstep.isName hn) hrest

theorem walk_usable (links : Nat) (hplace : ∀ n ∈ place, Usable n)
    (hsteps : ∀ s ∈ steps, s.Written) : LeadsUsable (fs.walk links place steps) := by
  induction links generalizing place steps with
  | zero => exact walkWith_usable (fun _ _ _ _ => trivial) hplace hsteps
  | succ links ih => exact walkWith_usable (fun _ _ => ih) hplace hsteps

theorem usable_of_resolve (h : fs.resolve written = .found place) : ∀ n ∈ place, Usable n := by
  have hnil : ∀ n ∈ ([] : Path), Usable n := fun _ hn => nomatch hn
  have hleads : LeadsUsable (fs.walk maxLinks [] (stepsOf written)) :=
    walk_usable maxLinks hnil fun _ => written_of_mem_stepsOf
  rwa [show fs.walk maxLinks [] (stepsOf written) = .found place from h] at hleads

/-! ## Looking a name up -/

/-- Directories are walked down by their names. -/
theorem walkWith_names {follow : Path → List Step → Resolution} {names : Path}
    (hdirectory : ∀ q, q <+: place ++ names → fs.find? q = some .directory)
    (husable : ∀ n ∈ names, Usable n) :
    walkWith fs follow place (names.map .name ++ steps) =
      walkWith fs follow (place ++ names) steps := by
  induction names generalizing place with
  | nil => simp
  | cons n names ih =>
    obtain ⟨hn, husable⟩ := List.forall_mem_cons.mp husable
    have hplace := hdirectory place (List.prefix_append ..)
    have happend : place ++ n :: names = (place ++ [n]) ++ names := by simp
    have hnext := hdirectory (place ++ [n]) (happend ▸ List.prefix_append ..)
    have hshort : ¬ maxNameBytes < n.utf8ByteSize := Nat.not_lt.mpr hn.short
    rw [happend] at hdirectory ⊢
    rw [← ih hdirectory husable, List.map_cons, List.cons_append]
    simp only [walkWith, hplace, hnext, hshort, ne_eq, not_true_eq_false, if_false]

/-- The way down to a place is walked without a link. -/
theorem Stands.walkWith_names (h : fs.Stands place) (follow : Path → List Step → Resolution)
    (husable : ∀ n ∈ place, Usable n) :
    walkWith fs follow [] (place.map .name) = .found place := by
  obtain rfl | ⟨d, n, rfl⟩ := List.eq_nil_or_concat place
  · rfl
  rw [List.concat_eq_append] at h husable ⊢
  have hdirectory : ∀ q, q <+: [] ++ d → fs.find? q = some .directory := by
    intro q hq
    refine h.ancestors q (hq.trans (List.prefix_append ..)) ?_
    rintro rfl
    have hlength := hq.length_le
    rw [List.nil_append, List.length_append, List.length_singleton] at hlength
    omega
  have hn : ¬ maxNameBytes < n.utf8ByteSize := Nat.not_lt.mpr (husable n (by simp)).short
  have hd : fs.find? d = some .directory := hdirectory d List.prefix_rfl
  obtain ⟨e, he, hlink⟩ := h.entry
  rw [List.map_append, FileSystem.walkWith_names hdirectory fun m hm => husable m (by simp [hm])]
  simp only [List.nil_append, List.map_singleton, walkWith, hd, ne_eq, not_true_eq_false, if_false,
    hn, he]

/-- The text of a place leads to it. -/
theorem Stands.resolve_text (h : fs.Stands place) (husable : ∀ n ∈ place, Usable n) :
    fs.resolve place.text = .found place := by
  have hwalk := h.walkWith_names (fs.walk 39) husable
  by_cases hne : place = []
  · subst hne
    rfl
  rw [resolve, stepsOf_text hne fun n hn => (husable n hn).toIsName]
  change walkWith fs (fs.walk 39) [] _ = _
  rwa [walkWith, if_neg (by simp [find?_nil])]

/-- A directory that a path leads to. -/
structure Directory (fs : FileSystem) (place : Path) : Prop where
  stands : fs.Stands place
  entry : fs.find? place = some .directory
  usable : ∀ n ∈ place, Usable n

/-- Only directories are on the way to a directory. -/
theorem Directory.of_prefix (h : fs.Directory place) {q : Path} (hq : q <+: place) :
    fs.find? q = some .directory := by
  by_cases heq : q = place
  · exact heq ▸ h.entry
  · exact h.stands.ancestors q hq heq

/-- What a path to a name in a directory leads to: the name is looked up in the directory, and if a
link stands there, that is followed. -/
theorem resolve_join (h : fs.Directory place) (hname : IsName name) :
    fs.resolve (join place.text name) =
      if maxNameBytes < name.utf8ByteSize then .fault .nameTooLong
      else
        match fs.find? (place ++ [name]) with
        | none => .absent (place ++ [name])
        | some (.link target) =>
          fs.walk (maxLinks - 1) (linkSteps place target).1 (linkSteps place target).2
        | some _ => .found (place ++ [name]) := by
  have hdirectory : ∀ q, q <+: [] ++ place → fs.find? q = some .directory :=
    fun _ hq => h.of_prefix hq
  have hsteps := stepsOf_join_text (fun n hn => (h.usable n hn).toIsName) hname
  rw [List.map_append, List.map_singleton] at hsteps
  rw [resolve, hsteps]
  change walkWith fs (fs.walk 39) [] _ = _
  rw [walkWith, if_neg (by simp [find?_nil])]
  rw [walkWith_names hdirectory h.usable, List.nil_append, walkWith, if_neg (by simp [h.entry])]
  split
  · rfl
  cases fs.find? (place ++ [name]) with
  | none => rfl
  | some e =>
    cases e with
    | link target =>
      simp only [List.append_nil]
      rfl
    | directory | file => rfl

/-- What a link in a directory leads to can be created: only its last name is missing. -/
def CanCreateBehind (fs : FileSystem) (place : Path) (target : String) : Prop :=
  ∃ destination,
    fs.walk (maxLinks - 1) (linkSteps place target).1 (linkSteps place target).2 = .absent destination

theorem exists?_eq_false_iff : fs.exists? written = false ↔ ∀ p, fs.resolve written ≠ .found p := by
  rw [Bool.eq_false_iff, ne_eq, exists?_eq_true_iff, not_exists]

/-- When a file can be created at a name in a directory. -/
theorem exists_absent_join_iff (h : fs.Directory place) (hname : IsName name) :
    (∃ p, fs.resolve (join place.text name) = .absent p) ↔
      fs.exists? (join place.text name) = false ∧ name.utf8ByteSize ≤ maxNameBytes ∧
        ∀ target, fs.find? (place ++ [name]) = some (.link target) →
          fs.CanCreateBehind place target := by
  rw [exists?_eq_false_iff, resolve_join h hname]
  by_cases hlong : maxNameBytes < name.utf8ByteSize
  · simp [if_pos hlong, Nat.not_le.mpr hlong]
  · simp only [if_neg hlong, Nat.not_lt.mp hlong, true_and]
    cases fs.find? (place ++ [name]) with
    | none => simp
    | some e =>
      cases e with
      | directory | file => simp
      | link target =>
        simp only [CanCreateBehind, Option.some.injEq, Entry.link.injEq, forall_eq']
        refine ⟨fun ⟨p, hp⟩ => ⟨by simp [hp], p, hp⟩, fun h => h.2⟩

end FileSystem

end EntityGen.Files
