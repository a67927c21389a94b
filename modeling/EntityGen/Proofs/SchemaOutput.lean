import EntityGen.Proofs.Json.Printing
import EntityGen.Proofs.OutputModes

/-!
# A printed schema says all

A schema is read back from its printed form, on one line or over several (`TableSchema.read_compact`,
`TableSchema.read_pretty`), and told from the value that is read (`TableSchema.ofJson_toJson`). So a
run that prints a schema says all that a run needs to print the entity of the same table
(`schema_output_is_lossless`).
-/

namespace EntityGen

open CommandLine (Request)
open Files (FileSystem join)
open Json (Printable Layout Spaces maxDepth)

/-! ## Schemas and values -/

/-- The column that a value describes. -/
def SchemaColumn.ofJson : Json → Option SchemaColumn
  | .object [("name", .string name), ("datatype", .string tag)] => some ⟨name, tag⟩
  | _ => none

namespace TableSchema

/-- The schema that a value describes. -/
def ofJson : Json → Option TableSchema
  | .object [("name", .string name), ("columns", .array columns)] =>
    (columns.mapM SchemaColumn.ofJson).map fun columns => ⟨name, columns⟩
  | _ => none

theorem ofJson_toJson (s : TableSchema) : ofJson s.toJson = some s := by
  obtain ⟨name, columns⟩ := s
  have hcolumns : (columns.map fun c => Json.object
      [("name", .string c.name), ("datatype", .string c.tag)]).mapM SchemaColumn.ofJson =
      some columns := by
    induction columns with
    | nil => rfl
    | cons c columns ih => simp [List.mapM_cons, ih, SchemaColumn.ofJson]
  simp [toJson, ofJson, hcolumns]

theorem toJson_injective {s s' : TableSchema} (h : s.toJson = s'.toJson) : s = s' := by
  have := congrArg ofJson h
  rwa [ofJson_toJson, ofJson_toJson, Option.some.injEq] at this

theorem printable_toJson (s : TableSchema) : Printable Json.Literal.Fits maxDepth s.toJson := by
  have hcolumn (c : SchemaColumn) : Printable Json.Literal.Fits 125
      (.object [("name", .string c.name), ("datatype", .string c.tag)]) :=
    .object (by simp) (by simp [Printable.string])
  have hcolumns : Printable Json.Literal.Fits 126 (.array (s.columns.map fun c =>
      .object [("name", .string c.name), ("datatype", .string c.tag)])) :=
    .array (List.forall_mem_map.mpr fun c _ => hcolumn c)
  refine .object (by simp) (List.forall_mem_cons.mpr ⟨.string s.name, ?_⟩)
  exact List.forall_mem_singleton.mpr hcolumns

theorem read_compact (s : TableSchema) : Json.read s.toJson.compact.toList = .ok s.toJson := by
  simpa [Json.compact] using s.printable_toJson.read_write Layout.blank_compact .nil

/-- White space may follow the printed form. -/
theorem read_pretty (s : TableSchema) {trail : List Char} (htrail : Spaces trail) :
    Json.read (s.toJson.pretty.toList ++ trail) = .ok s.toJson := by
  simpa [Json.pretty] using s.printable_toJson.read_write Layout.blank_pretty htrail

end TableSchema

/-! ## Runs -/

/-- Every schema is read back from its printed form, so that no two schemas share one. A command line
for a table definition may ask for the schema, or for the entity, and for every accepted definition,
reading back what is printed as its schema, and printing the entity of that, gives what is printed
as the entity of the definition. -/
theorem schema_output_is_lossless :
    (∀ s : TableSchema, Json.read s.toJson.compact.toList = .ok s.toJson ∧
      Json.read s.toJson.pretty.toList = .ok s.toJson) ∧
    (∀ s s' : TableSchema, s.toJson.compact = s'.toJson.compact ∨
      s.toJson.pretty = s'.toJson.pretty → s = s') ∧
    (∀ {r : Request} {words : List String} {target : Option String},
      r.name = none → r.print = false → r.schema = false →
      CommandLine.read words target = .ok r →
      CommandLine.read ("--schema" :: words) target = .ok r.describing ∧
        CommandLine.read ("--print" :: words) target = .ok r.printing) ∧
    ∀ {r : Request} {words words' : List String} {target target' : Option String},
      r.name = none → r.print = false → r.schema = false →
      CommandLine.read words target = .ok r.describing →
      CommandLine.read words' target' = .ok r.printing →
      ∀ {w text fs i i' schema} (colorful colorful' : Bool),
        (∀ target, r.target = some target → fs.exists? (join w target) = true) →
        Product.supplied r.ddl i = .ok (some text) → Product.supplied r.ddl i' = .ok (some text) →
        TableSchema.ofSql r.dialect text = .ok schema →
        let described := run ⟨words, target, w, colorful⟩ ⟨fs, i⟩
        let printed := run ⟨words', target', w, colorful'⟩ ⟨fs, i'⟩
        described.exit = 0 ∧ printed.exit = 0 ∧ ∃ v s, Json.read described.stdout.toList = .ok v ∧
          TableSchema.ofJson v = some s ∧ printed.stdout = (Entity.ofSchema s).source := by
  have hpretty (s : TableSchema) : Json.read s.toJson.pretty.toList = .ok s.toJson := by
    simpa using s.read_pretty .nil
  refine ⟨fun s => ⟨s.read_compact, hpretty s⟩, fun s s' h => ?_,
    fun hname hprint hschema hread => ⟨CommandLine.read_schema hread hprint hschema hname,
      CommandLine.read_print hread hprint hschema⟩, ?_⟩
  · apply TableSchema.toJson_injective
    have hread : (.ok s.toJson : Except Json.Failure Json) = .ok s'.toJson := by
      rcases h with h | h
      · rw [← s.read_compact, ← s'.read_compact, h]
      · rw [← hpretty s, ← hpretty s', h]
    exact Except.ok.inj hread
  · intro r words words' target target' hname hprint hschema hread hread' w text fs i i' schema
      colorful colorful' htarget hi hi' hsql described printed
    have hsource : Source.of r = .sql r.ddl := by simp [Source.of, hname]
    have hdescribed := (@run_of_read ⟨words, target, w, colorful⟩ _ ⟨fs, i⟩ hread).2
    have hprinted := (@run_of_read ⟨words', target', w, colorful'⟩ _ ⟨fs, i'⟩ hread').2
    have hmode : OutputMode.of r.describing ≠ .write := by
      simp [OutputMode.of, Request.describing, hprint]
    have hmode' : OutputMode.of r.printing ≠ .write := by simp [OutputMode.of, Request.printing]
    obtain ⟨s, hs⟩ := Settings.exists_settle hmode htarget
    obtain ⟨s', hs'⟩ := Settings.exists_settle hmode' htarget
    rw [Product.effect_describing hs hname hprint hi hsql] at hdescribed
    rw [Product.effect_printing hs' (by rwa [hsource])] at hprinted
    simp only [hsource, Product.entityOf, hsql] at hprinted
    refine ⟨hdescribed.1, hprinted.1, schema.toJson, schema, ?_, schema.ofJson_toJson, hprinted.2⟩
    have htext : described.stdout.toList = schema.toJson.pretty.toList ++ ['\n'] := by
      rw [hdescribed.2]
      simp [Product.text]
    rw [htext]
    exact schema.read_pretty (by simp [Spaces, Json.isSpace])

/-- The schema of a table that is given, and its entity. -/
theorem schema_output_of_users_is_lossless :
    let text := "CREATE TABLE `my \"users\"` (id INT, note TEXT)"
    let described := run ⟨["--schema", "--ddl", text], none, "/", true⟩ ⟨⟨[]⟩, .piped ⟨#[]⟩⟩
    let printed := run ⟨["--print", "--ddl", text], none, "/", true⟩ ⟨⟨[]⟩, .piped ⟨#[]⟩⟩
    described.exit = 0 ∧ printed.exit = 0 ∧ ∃ v s, Json.read described.stdout.toList = .ok v ∧
      TableSchema.ofJson v = some s ∧ printed.stdout = (Entity.ofSchema s).source := by
  intro text described printed
  let r : Request := ⟨none, some text, none, none, .mysql, false, false, false, false⟩
  have hread : CommandLine.read ["--ddl", text] none = .ok r := by decide +kernel
  have hsql : (TableSchema.ofSql .mysql text).toOption.isSome = true := by decide +kernel
  obtain ⟨_, _, haccepted, hlossless⟩ := schema_output_is_lossless
  obtain ⟨hdescribe, hprint⟩ := haccepted rfl rfl rfl hread
  cases h : TableSchema.ofSql .mysql text with
  | error cause => simp [h, Except.toOption] at hsql
  | ok schema =>
    exact hlossless rfl rfl rfl hdescribe hprint true true
      (fun _ htarget => absurd htarget.symm (Option.some_ne_none _)) rfl rfl h

end EntityGen
