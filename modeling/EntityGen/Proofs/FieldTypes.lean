import EntityGen.Entity
import EntityGen.Proofs.Sql.ColumnTypes
import EntityGen.Proofs.Sql.DefinedColumns

/-!
# The fields that column types make

A column makes the field that is listed for its type (`columns_make_listed_fields`): a number for
four types of whole numbers, a time for days with a time, and text for everything else. An array
that is written with brackets after its element is tagged as its element, so not every array is
text (`not_all_arrays_are_text`).
-/

namespace EntityGen

open Sql (Column Grammar TableDefinition Token)

variable {d : Sql.Dialect} {text : String} {schema : TableSchema} {t : TableDefinition}

/-- A schema is that of the only statement of a text, which defines a table. -/
theorem TableSchema.ofSql_inv (h : TableSchema.ofSql d text = .ok schema) :
    ∃ t, Sql.parseStatements d text.toList = .ok [.table t] ∧ ofDefinition t = .ok schema := by
  unfold TableSchema.ofSql at h
  split at h
  · cases h
  rename_i statements hparse
  unfold ofStatements at h
  split at h
  · cases h
  · rename_i t
    exact ⟨t, hparse, h⟩
  · cases h
  · cases h

theorem TableSchema.columns_of_definition (h : TableSchema.ofDefinition t = .ok schema) :
    schema.columns = t.columns.map fun c => ⟨c.name.value, typeTag c.type.text.toList⟩ := by
  unfold TableSchema.ofDefinition at h
  split at h
  · cases h
  split at h
  · cases h
  cases h
  rfl

theorem TableSchema.fields_of_definition (h : TableSchema.ofDefinition t = .ok schema) :
    (Entity.ofSchema schema).fields = t.columns.map fun c => ⟨c.name.value, c.type.fieldType⟩ := by
  rw [Entity.ofSchema, TableSchema.columns_of_definition h]
  exact List.map_map

/-- The columns of a text are read from tokens of the lexer. -/
theorem Sql.makesListed_of_parseStatements
    (h : Sql.parseStatements d text.toList = .ok [.table t]) :
    ∀ c ∈ t.columns, c.type.element.MakesListed := by
  unfold Sql.parseStatements at h
  split at h
  · cases h
  rename_i tokens hlex
  generalize hread : Sql.readStatements d.rules (tokens.map (·.token)) = found at h
  cases found with
  | error cause => cases h
  | ok statements =>
    cases h
    let ts := Sql.inOrder (tokens.map (·.token))
    let depth := 4 * ((tokens.map (·.token)).length + 2)
    have hts : ∀ l ∈ ts, l.token.Regular := by
      intro l hl
      have hmem : l.token ∈ ts.map (·.token) := List.mem_map_of_mem hl
      rw [Sql.map_token_inOrder] at hmem
      obtain ⟨l', hl', htoken⟩ := List.mem_map.mp hmem
      exact htoken ▸ Sql.regular_of_lex hlex l' hl'
    have hgives := Grammar.gives_statements (Grammar.gives_column depth)
    have hall := hgives hts (Prod.ext hread rfl)
    exact hall (.table t) (List.mem_singleton_self _)

/-- Every column of a table that is accepted makes one field under its name. An array with brackets
after its element makes the field of the element, and any other type the one that is listed for it,
be it built in or named by the user. Names without quotes are left out that begin with a listed word
and go on with a character which is no ASCII letter, digit or underscore, as `intégrale` does. -/
theorem columns_make_listed_fields (h : TableSchema.ofSql d text = .ok schema) :
    ∃ t, Sql.parseStatements d text.toList = .ok [.table t] ∧
      (Entity.ofSchema schema).fields =
        t.columns.map (fun c => ⟨c.name.value, c.type.fieldType⟩) ∧
      ∀ c ∈ t.columns, c.type.fieldType = c.type.element.fieldType ∧
        (¬ c.type.element.CutsListedWord →
          c.type.element.fieldType = c.type.element.listedField) := by
  obtain ⟨t, hparse, hdefinition⟩ := TableSchema.ofSql_inv h
  refine ⟨t, hparse, TableSchema.fields_of_definition hdefinition, fun c hc => ?_⟩
  have hlisted : c.type.element.MakesListed := Sql.makesListed_of_parseStatements hparse c hc
  exact ⟨c.type.fieldType_element.symm, hlisted.2⟩

/-- A number, a time, an array of numbers, and types of the user's: one is named like a built-in one
between quotes, and the tags of two are cut at a letter that is none of ASCII. -/
theorem ticket_makes_listed_fields :
    let text := "CREATE TABLE ticket (id INT(11) UNSIGNED, made TIMESTAMP(3) WITH TIME ZONE, " ++
      "votes SMALLINT[][3], state mood, note \"int\", place moodé, season été)"
    let schema : TableSchema := ⟨"ticket", [⟨"id", "int"⟩, ⟨"made", "timestamp"⟩,
      ⟨"votes", "smallint"⟩, ⟨"state", "mood"⟩, ⟨"note", ""⟩, ⟨"place", "mood"⟩, ⟨"season", ""⟩]⟩
    TableSchema.ofSql .postgres text = .ok schema ∧
      ∃ t, Sql.parseStatements .postgres text.toList = .ok [.table t] ∧
        (Entity.ofSchema schema).fields =
          t.columns.map (fun c => ⟨c.name.value, c.type.fieldType⟩) ∧
        ∀ c ∈ t.columns, c.type.fieldType = c.type.element.fieldType ∧
          (¬ c.type.element.CutsListedWord →
            c.type.element.fieldType = c.type.element.listedField) := by
  intro text schema
  have hsql : TableSchema.ofSql .postgres text = .ok schema :=
    TableSchema.ok_of_toOption (by decide +kernel)
  exact ⟨hsql, columns_make_listed_fields hsql⟩

/-- Not every column that makes a number is declared as one: an array of numbers makes one, too. -/
theorem not_all_arrays_are_text :
    ¬ ∀ (d : Sql.Dialect) (text : String) (schema : TableSchema) (t : TableDefinition),
      TableSchema.ofSql d text = .ok schema →
      Sql.parseStatements d text.toList = .ok [.table t] →
      ∀ (n : Nat) (f : Field) (c : Column), (Entity.ofSchema schema).fields[n]? = some f →
        t.columns[n]? = some c → f.type = .i32 →
        ∃ keyword width unsigned, c.type = .integer keyword width unsigned := by
  intro hall
  have hsql : TableSchema.ofSql .postgres "CREATE TABLE t (a INT[])" = .ok ⟨"t", [⟨"a", "int"⟩]⟩ :=
    rfl
  have hparse : Sql.parseStatements .postgres "CREATE TABLE t (a INT[])".toList = .ok [.table
      ⟨[⟨"t", none⟩],
        [⟨⟨"a", none⟩, .bracketedArray (.integer "INT" none false) none, ""⟩]⟩] := rfl
  obtain ⟨_, _, _, harray⟩ := hall _ _ _ _ hsql hparse 0 ⟨"a", .i32⟩ _ rfl rfl rfl
  cases harray

end EntityGen
