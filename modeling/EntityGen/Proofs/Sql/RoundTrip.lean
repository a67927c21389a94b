import EntityGen.Proofs.Sql.TableReading

/-!
# Printed table definitions are read back

`ofSql_text`: in every dialect, a canonical definition gives the schema of its table. Names come
back as they were before they were quoted, the columns in order, and a primary key adds none.
-/

namespace EntityGen.Sql.Canonical

open EntityGen.Sql.Parser

variable {d : Dialect} {ts : List Token} {statements : List Statement}

/-- The statements of a row of tokens, whatever phrases there are further down. -/
theorem readStatements_of_lists {r : Rules}
    (h : ∀ g : Grammar, Lists ⟨r, roomForNesting, false⟩
      (g.step.step.statement (roomForNesting + 1)) false ts statements) :
    readStatements r ts = .ok statements := by
  obtain ⟨n, hdepth⟩ : ∃ n, 4 * (ts.length + 2) = n + 1 + 1 := ⟨4 * ts.length + 6, by omega⟩
  have hreads : Reads ⟨r, roomForNesting, false⟩ (Grammar.ofDepth (n + 1 + 1)).statements ts
      statements [] := (h (Grammar.ofDepth n)).reads
  obtain ⟨rest, hrun, -⟩ := hreads (inOrder ts) (map_token_inOrder _)
  simp only [readStatements, hdepth]
  exact congrArg Prod.fst hrun

/-- The statements of a text by those of its tokens. -/
theorem parseStatements_of_lexes {text : List Char} (hlexes : Lexes d.rules text ts)
    (h : readStatements d.rules ts = .ok statements) :
    parseStatements d text = .ok statements := by
  obtain ⟨ls, hlex, rfl⟩ := hlexes.lex
  simp only [parseStatements, hlex, h]
  rfl

namespace Table

theorem parseStatements_text (d : Dialect) (t : Table) :
    parseStatements d (t.text d.nameQuote).toList =
      .ok [.table (t.readDefinition d.nameQuote)] := by
  have hlexes := t.lexes_text (d := d) lexes_nil
  rw [List.append_nil] at hlexes
  exact parseStatements_of_lexes hlexes
    (readStatements_of_lists fun g => t.lists g rfl closed_nil lists_nil)

theorem ofDefinition_readDefinition (quote : Char) (t : Table) :
    TableSchema.ofDefinition (t.readDefinition quote) = .ok t.schema := by
  have hname : (t.readName quote).getLast? = some ⟨t.name, some quote⟩ := by simp [readName]
  have hcolumns : (t.columns.map (Column.read quote)).isEmpty = false := by
    simpa using t.columns_ne_nil
  have htags (c : Column) : (⟨(c.read quote).name.value, typeTag (c.read quote).type.text.toList⟩ :
      SchemaColumn) = ⟨c.name, c.type.tag⟩ := by
    rw [← c.type.typeTag_dataType]
    rfl
  simp only [TableSchema.ofDefinition, readDefinition, hname, hcolumns, List.map_map, schema]
  simp [Function.comp_def, htags]

/-- A canonical definition is read back as the table that it was printed from. -/
theorem ofSql_text (d : Dialect) (t : Table) :
    TableSchema.ofSql d (t.text d.nameQuote) = .ok t.schema := by
  rw [TableSchema.ofSql, t.parseStatements_text d]
  exact t.ofDefinition_readDefinition d.nameQuote

end Table

end EntityGen.Sql.Canonical
