import EntityGen.Proofs.OutputModes

/-!
# Printing and writing agree

A run that writes an entity and one that prints it read the same input in the same way, so what is
printed is what is written. Beyond that a run that writes needs the stem to be valid, nothing to
stand at the file, the file to be possible, and, for a table definition, nothing to stand at the file
that the definition itself would name (`print_and_write_agree`).
-/

namespace EntityGen

open CommandLine (Request)
open Files (FileSystem Path join maxNameBytes)
open Files.FileSystem (exists_absent_join_iff)
open Generation (isValidStem fileName)

namespace Product

variable {r : Request} {fs : FileSystem} {d : Path} {text : String} {e : Entity}

/-- No table definition names a file that exists. -/
def NamesNoFile (source : Source) (fs : FileSystem) (d : Path) (text : String) : Prop :=
  ∀ given, source = .sql given → let stem := String.ofList (Text.trim text.toList)
    isValidStem stem = true → fs.exists? (join d.text (fileName stem)) = false

theorem isTaken_eq_false_iff {source : Source} :
    isTaken source d text fs = false ↔ NamesNoFile source fs d text := by
  cases source with
  | sql given =>
    simp only [isTaken, NamesNoFile, Bool.and_eq_false_iff, Source.sql.injEq, forall_eq']
    cases isValidStem (String.ofList (Text.trim text.toList)) <;> simp
  | sample name given => simp [isTaken, NamesNoFile]

theorem writable_iff (hd : fs.Directory d) : Writable r fs d text e ↔
    isValidStem e.fileStem = true ∧
    fs.exists? (join d.text (fileName e.fileStem)) = false ∧
    (fileName e.fileStem).utf8ByteSize ≤ maxNameBytes ∧
    (∀ target, fs.find? (d ++ [fileName e.fileStem]) = some (.link target) →
      fs.CanCreateBehind d target) ∧
    NamesNoFile (.of r) fs d text := by
  rw [Writable, isTaken_eq_false_iff]
  constructor
  · rintro ⟨hnames, hvalid, habsent⟩
    obtain ⟨hexists, hshort, hlink⟩ :=
      (exists_absent_join_iff hd (Generation.isName_fileName hvalid)).mp habsent
    exact ⟨hvalid, hexists, hshort, hlink, hnames⟩
  · rintro ⟨hvalid, hexists, hshort, hlink, hnames⟩
    refine ⟨hnames, hvalid, ?_⟩
    exact (exists_absent_join_iff hd (Generation.isName_fileName hvalid)).mpr ⟨hexists, hshort, hlink⟩

end Product

/-- A run that writes and one that differs by printing agree: what is written is what is printed,
and what is printed is written as well, unless the file cannot be made. -/
theorem print_and_write_agree {r : Request} {words : List String} {target : Option String}
    (hread : CommandLine.read words target = .ok r) (hprint : r.print = false)
    (hschema : r.schema = false) :
    CommandLine.read ("--print" :: words) target = .ok r.printing ∧
    ∀ {words' : List String} {target' : Option String},
      CommandLine.read words' target' = .ok r.printing →
      ∀ {w text dir d fs i i'} (colorful colorful' : Bool),
        r.target = some dir → Settings.directoryIn fs w dir = .ok d →
        Product.supplied (Source.of r).given i = .ok (some text) →
        Product.supplied (Source.of r).given i' = .ok (some text) →
        let written := run ⟨words, target, w, colorful⟩ ⟨fs, i⟩
        let printed := run ⟨words', target', w, colorful'⟩ ⟨fs, i'⟩
        (written.exit = 0 → printed.exit = 0 ∧ printed.files = fs ∧
          ∃ place, fs.AddsFile written.files place printed.stdout) ∧
        (printed.exit = 0 → ∃ e, Product.entityOf (.of r) r.dialect text = .ok e ∧
          (written.exit = 0 ↔
            isValidStem e.fileStem = true ∧
            fs.exists? (join d.text (fileName e.fileStem)) = false ∧
            (fileName e.fileStem).utf8ByteSize ≤ maxNameBytes ∧
            (∀ target, fs.find? (d ++ [fileName e.fileStem]) = some (.link target) →
              fs.CanCreateBehind d target) ∧
            Product.NamesNoFile (.of r) fs d text)) := by
  refine ⟨CommandLine.read_print hread hprint hschema, ?_⟩
  intro words' target' hread' w text dir d fs i i' colorful colorful' htarget hd hi hi' written
    printed
  have hmode : OutputMode.of r = .write := by simp [OutputMode.of, hprint, hschema]
  obtain ⟨hfiles, hwritten⟩ := @run_of_read ⟨words, target, w, colorful⟩ _ ⟨fs, i⟩ hread
  obtain ⟨hfiles', hprinted⟩ :=
    @run_of_read ⟨words', target', w, colorful'⟩ _ ⟨fs, i'⟩ hread'
  rw [Product.effect_printing (Settings.settle_of_directoryIn htarget hd) hi'] at hfiles' hprinted
  have hdirectory := Settings.directory_of_directoryIn hd
  rcases Product.effect_writing hmode htarget hd hi with
    ⟨e, path, place, he, hwritable, hplace, heffect⟩ | ⟨hunwritable, p, heffect⟩
  · rw [heffect] at hfiles hwritten
    simp only [he, Except.map] at hprinted
    refine ⟨fun _ => ⟨hprinted.1, hfiles', place, ?_⟩, fun _ => ⟨e, he, ?_⟩⟩
    · rw [hfiles, hprinted.2]
      exact FileSystem.addsFile_put (FileSystem.vacant_of_resolve hplace) e.source
    · exact iff_of_true hwritten.1 ((Product.writable_iff hdirectory).mp hwritable)
  · rw [heffect] at hwritten
    have hfailed : written.exit ≠ 0 := fun hexit => p.exit_ne_zero (hwritten.1.symm.trans hexit)
    refine ⟨fun hexit => absurd hexit hfailed, fun hexit => ?_⟩
    cases he : Product.entityOf (.of r) r.dialect text with
    | error cause =>
      simp only [he, Except.map] at hprinted
      exact absurd (hprinted.1.symm.trans hexit) cause.exit_ne_zero
    | ok e =>
      refine ⟨e, rfl, iff_of_false hfailed fun hwritable => hunwritable ⟨e, he, ?_⟩⟩
      exact (Product.writable_iff hdirectory).mpr hwritable

/-- A table that is written into an empty directory, and the same table printed. -/
theorem written_users_agree_with_printed :
    let words := ["--target", "/out", "--ddl", "CREATE TABLE users (id INT)"]
    let fs : FileSystem := ⟨[(["out"], .directory)]⟩
    let written := run ⟨words, none, "/", true⟩ ⟨fs, .piped ⟨#[]⟩⟩
    let printed := run ⟨"--print" :: words, none, "/", true⟩ ⟨fs, .piped ⟨#[]⟩⟩
    written.exit = 0 ∧ printed.exit = 0 ∧ printed.files = fs ∧
      ∃ place, fs.AddsFile written.files place printed.stdout := by
  intro words fs written printed
  have hread : CommandLine.read words none = .ok ⟨some "/out", some "CREATE TABLE users (id INT)",
      none, none, .mysql, false, false, false, false⟩ := by
    decide +kernel
  have hdirectory : Settings.directoryIn fs "/" "/out" = .ok ["out"] := by rfl
  obtain ⟨hread', hagree⟩ := print_and_write_agree hread rfl rfl
  have hwritten : written.exit = 0 := by decide +kernel
  exact ⟨hwritten, (hagree hread' true true rfl hdirectory rfl rfl).1 hwritten⟩

end EntityGen
