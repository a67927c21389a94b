import EntityGen.Proofs.Outcomes

/-!
# Where an accepted command line takes its text from

An accepted command line gives no arguments that exclude each other (`lookup_eq_none_of_excludes`),
so a schema is always that of a table definition (`schema_output_is_of_a_table`). A sample without a
name gets through only beside an argument that excludes names (`excludesName_of_json`). It is the
input if there is a name, and nothing comes of it otherwise (`sample_is_used_with_a_name`).
-/

namespace EntityGen

open CommandLine (Request Given)

namespace CommandLine

variable {given : Given} {words : List String} {target : Option String} {r : Request}

namespace Given

variable {a b : Argument}

theorem lookup_eq_none_of_excludes (h : given.disagreement? = none) (ha : given.has a = true)
    (hex : a.excludes b = true) : given.lookup b = none := by
  refine Option.not_isSome_iff_eq_none.mp fun hb => ?_
  rw [← has_eq_isSome_lookup] at hb
  rw [not_excludes_of_agreed h ha hb] at hex
  exact absurd hex (by decide)

/-- Arguments that agree and hold a sample hold its name, or one that excludes names. -/
theorem excludesName_of_json (h : given.disagreement? = none) (hjson : given.has .json = true)
    (hname : given.has .name = false) : given.has .ddl = true ∨ given.has .schema = true := by
  unfold disagreement? at h
  rw [show given.exclusion? = none from exclusion?_of_disagreement? h] at h
  have hlacks : given.lacksName = false := by
    by_contra htrue
    rw [if_pos (by simpa using htrue)] at h
    cases h
  simp only [lacksName, hjson, hname] at hlacks
  cases hddl : given.has .ddl with
  | true => exact .inl rfl
  | false =>
    rw [hddl] at hlacks
    exact .inr (by simpa using hlacks)

end Given

theorem name_eq_none_of_ddl (h : read words target = .ok r) (hddl : r.ddl.isSome = true) :
    r.name = none := by
  obtain ⟨_, given, _, _, hagreed, rfl⟩ := read_inv h
  refine Given.lookup_eq_none_of_excludes hagreed (a := .ddl) ?_ (by decide)
  rwa [Given.has_eq_isSome_lookup]

theorem schema_eq_false_of_print (h : read words target = .ok r) (hprint : r.print = true) :
    r.schema = false := by
  obtain ⟨_, given, _, _, hagreed, rfl⟩ := read_inv h
  have hnone : given.lookup .schema = none :=
    Given.lookup_eq_none_of_excludes hagreed (a := .print) hprint (by decide)
  simp [Request.ofGiven, Given.has_eq_isSome_lookup, hnone]

theorem ddl_or_schema_of_json (h : read words target = .ok r) (hjson : r.json.isSome = true)
    (hname : r.name = none) : r.ddl.isSome = true ∨ r.schema = true := by
  obtain ⟨_, given, _, _, hagreed, rfl⟩ := read_inv h
  simp only [Request.ofGiven, ← Given.has_eq_isSome_lookup] at hjson ⊢
  refine Given.excludesName_of_json hagreed hjson ?_
  rw [Given.has_eq_isSome_lookup]
  exact congrArg Option.isSome hname

end CommandLine

variable {r : Request} {m : Machine} {s : Settings} {w : String}

/-- Settings that come of a request have its source and its mode. -/
theorem Settings.of_result (h : ((Settings.of w r).on m).result = .ok s) :
    s.source = .of r ∧ s.output = .of r := by
  have hsettle : settle m.files w r = .ok s :=
    (congrArg Effect.result (effect_settings w r m)).symm.trans h
  obtain ⟨houtput, hsource, -⟩ := settle_inv hsettle
  exact ⟨hsource, houtput⟩

theorem OutputMode.of_eq_schema_iff : OutputMode.of r = .schema ↔
    r.print = false ∧ r.schema = true := by
  unfold OutputMode.of
  cases r.print <;> cases r.schema <;> decide

/-! ## Samples -/

/-- A sample that is given with a name is the text that an entity is made from. One without a name
is accepted only beside a table definition or a request for a schema, and nothing is made of it. -/
theorem sample_is_used_with_a_name {words : List String} {target : Option String} {sample : String}
    (h : CommandLine.read words target = .ok r) (hjson : r.json = some sample)
    (hs : ((Settings.of w r).on m).result = .ok s) :
    (∀ name, r.name = some name → s.source = .sample name (some sample)) ∧
    (r.name = none → (r.ddl.isSome = true ∨ r.schema = true) ∧ s.source = .sql r.ddl) := by
  obtain ⟨hsource, -⟩ := Settings.of_result hs
  rw [hsource]
  refine ⟨fun name hname => ?_, fun hname => ⟨?_, ?_⟩⟩
  · simp only [Source.of, hname, hjson]
  · exact CommandLine.ddl_or_schema_of_json h (hjson ▸ rfl) hname
  · simp only [Source.of, hname]

/-- A sample with its name, written in one word and after it. -/
theorem named_sample_is_used :
    let r : Request := ⟨none, none, some "item", some "\x7b\x7d", .mysql, true, false, false, false⟩
    let m : Machine := ⟨⟨[]⟩, .piped ⟨#[]⟩⟩
    let s : Settings := ⟨false, false, none, .sample "item" (some "\x7b\x7d"), .mysql, .print⟩
    CommandLine.read ["--json=\x7b\x7d", "-p", "--name", "item"] none = .ok r ∧
      r.json = some "\x7b\x7d" ∧ ((Settings.of "/" r).on m).result = .ok s ∧
      s.source = .sample "item" (some "\x7b\x7d") := by
  intro r m s
  have hread : CommandLine.read ["--json=\x7b\x7d", "-p", "--name", "item"] none = .ok r := by
    decide +kernel
  have hs : ((Settings.of "/" r).on m).result = .ok s := rfl
  exact ⟨hread, rfl, hs, (sample_is_used_with_a_name hread rfl hs).1 "item" rfl⟩

/-- Not every sample is used: one without a name is dropped for a table definition. -/
theorem sample_is_dropped_beside_ddl :
    ¬ ∀ (words : List String) (target : Option String) (r : Request) (sample : String),
      CommandLine.read words target = .ok r → r.json = some sample →
      ∃ name, r.name = some name ∧ ∀ w m s, ((Settings.of w r).on m).result = .ok s →
        s.source = .sample name (some sample) := by
  intro hall
  obtain ⟨name, hname, -⟩ := hall
    ["--json", "\x7b\"id\":1\x7d", "--ddl", "CREATE TABLE t (a INT)", "--print"] none
    ⟨none, some "CREATE TABLE t (a INT)", none, some "\x7b\"id\":1\x7d", .mysql, true, false, false,
      false⟩ "\x7b\"id\":1\x7d" (by decide +kernel) rfl
  cases hname

/-! ## Schemas -/

variable {call : Invocation}

/-- Of the arguments that exclude each other an accepted command line gives one at most. So whoever
asks for a schema has it made from a table definition: what is printed is such a schema, and no file
is written. -/
theorem schema_output_is_of_a_table (h : CommandLine.read call.words call.target = .ok r) :
    ¬ (r.ddl.isSome = true ∧ r.name.isSome = true) ∧
    ¬ (r.schema = true ∧ r.name.isSome = true) ∧
    ¬ (r.print = true ∧ r.schema = true) ∧
    (∀ m s, ((Settings.of call.workingDirectory r).on m).result = .ok s → s.output = .schema →
      s.source = .sql r.ddl) ∧
    (r.schema = true → ∀ m, (run call m).files = m.files ∧
      ((run call m).stdout = "" ∨ (run call m).exit = 0 ∧ ∃ input schema,
        Product.supplied r.ddl m.input = .ok (some input) ∧
        TableSchema.ofSql r.dialect input = .ok schema ∧
        (run call m).stdout = schema.toJson.pretty ++ "\n")) := by
  have hname (hschema : r.schema = true) : r.name = none :=
    CommandLine.name_eq_none_of_schema h hschema
  refine ⟨?_, ?_, ?_, ?_, ?_⟩
  · rintro ⟨hddl, hsome⟩
    simp [CommandLine.name_eq_none_of_ddl h hddl] at hsome
  · rintro ⟨hschema, hsome⟩
    simp [hname hschema] at hsome
  · rintro ⟨hprint, hschema⟩
    simp [CommandLine.schema_eq_false_of_print h hprint] at hschema
  · intro m s hs houtput
    obtain ⟨hsource, hmode⟩ := Settings.of_result hs
    have hschema := (OutputMode.of_eq_schema_iff.mp (hmode.symm.trans houtput)).2
    rw [hsource, Source.of, hname hschema]
  · intro hschema m
    have hprint : r.print = false := by
      by_contra hprint
      simp [CommandLine.schema_eq_false_of_print h (by simpa using hprint)] at hschema
    have hmode : OutputMode.of r = .schema := OutputMode.of_eq_schema_iff.mpr ⟨hprint, hschema⟩
    have hgiven : (Source.of r).given = r.ddl := by
      simp only [Source.of, hname hschema, Source.given]
    obtain ⟨hfiles, hresult⟩ := run_of_read m h
    have hyields := Product.yields_ofRequest call.workingDirectory m fun _ => hname hschema
    generalize (Product.ofRequest call.workingDirectory r).effect m = effect at *
    cases hyields with
    | failed p => exact ⟨hfiles, .inl hresult.2⟩
    | dismissed => exact ⟨hfiles, .inl hresult.2⟩
    | schema _ hi htable =>
      exact ⟨hfiles, .inr ⟨hresult.1, _, _, hgiven ▸ hi, htable, hresult.2⟩⟩
    | printed hprinted => rw [hmode] at hprinted; cases hprinted
    | written hwritten => rw [hmode] at hwritten; cases hwritten

/-- A schema that is asked for among short options and values in one word. -/
theorem schema_of_a_given_table :
    let call : Invocation :=
      ⟨["-nd=sqlite", "--schema", "--ddl=CREATE TABLE t (a INT)"], none, "/", false⟩
    let m : Machine := ⟨⟨[]⟩, .piped ⟨#[]⟩⟩
    let r : Request :=
      ⟨none, some "CREATE TABLE t (a INT)", none, none, .sqlite, false, true, true, false⟩
    CommandLine.read call.words call.target = .ok r ∧ r.schema = true ∧
      (run call m).files = m.files ∧
      ((run call m).stdout = "" ∨ (run call m).exit = 0 ∧ ∃ input schema,
        Product.supplied r.ddl m.input = .ok (some input) ∧
        TableSchema.ofSql r.dialect input = .ok schema ∧
        (run call m).stdout = schema.toJson.pretty ++ "\n") := by
  intro call m r
  have hread : CommandLine.read call.words call.target = .ok r := by decide +kernel
  obtain ⟨-, -, -, -, hschema⟩ := schema_output_is_of_a_table hread
  exact ⟨hread, rfl, hschema rfl m⟩

end EntityGen
