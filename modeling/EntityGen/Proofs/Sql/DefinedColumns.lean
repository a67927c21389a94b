import EntityGen.Proofs.Sql.Gives
import EntityGen.Sql.Statement

/-!
# The columns that a text defines

A property of all columns that the grammar reads is one of all columns that a text defines
(`gives_statements`): statements may stand in one another, but columns come out of table
definitions only.
-/

namespace EntityGen.Sql

/-- All columns that a statement defines have a property. -/
def Statement.Defines (Q : Column → Prop) : Statement → Prop
  | .table definition => ∀ c ∈ definition.columns, Q c
  | .explanation | .other => True

namespace Grammar

open EntityGen.Sql.Parser

variable {T : Token → Prop} {g : Grammar} {Q : Column → Prop}

/-! ## Table definitions -/

theorem gives_tableEntry (h : Gives T g.column Q) :
    Gives T g.tableEntry fun c? => ∀ c ∈ c?, Q c := by
  refine .seq fun constraint => ?_
  split
  · exact .pure nofun
  refine .seq fun t => ?_
  split
  · exact h.map fun c hc c' hc' => Option.some.inj hc' ▸ hc
  · exact .expected

theorem gives_tableEntries (h : Gives T g.column Q) (n : Nat) :
    Gives T (g.tableEntries n) fun cs => ∀ c ∈ cs, Q c := by
  induction n with
  | zero => exact .expected
  | succ n ih =>
    refine (gives_tableEntry h).bind fun c? hc? => ?_
    have hfirst : ∀ c ∈ c?.toList, Q c := fun c hc => hc? c (Option.mem_toList.mp hc)
    refine .seq fun comma => ?_
    split
    · exact ih.bind fun cs hcs => .pure (List.forall_mem_append.mpr ⟨hfirst, hcs⟩)
    refine .seq fun closing => ?_
    split
    · exact .pure hfirst
    · exact .expected

theorem gives_tableColumns (h : Gives T g.column Q) :
    Gives T g.tableColumns fun cs => ∀ c ∈ cs, Q c := by
  refine .seq fun opening => ?_
  split
  · refine .seq fun closing => ?_
    split
    · exact .pure nofun
    · exact .seq fun n => gives_tableEntries h _
  · exact .pure nofun

theorem gives_tableDefinition (h : Gives T g.column Q) :
    Gives T g.tableDefinition fun t => ∀ c ∈ t.columns, Q c := by
  refine .seq fun name => .seq fun _ => .seq fun _ => ?_
  exact (gives_tableColumns h).bind fun cs hcs => .seq fun _ => .pure hcs

theorem gives_externalTable (h : Gives T g.column Q) :
    Gives T g.externalTable fun t => ∀ c ∈ t.columns, Q c := by
  refine .seq fun name => (gives_tableColumns h).bind fun cs hcs => ?_
  exact .seq fun _ => .seq fun _ => .seq fun _ => .pure hcs

/-! ## Statements -/

/-- Of all that is created, only tables have columns. -/
theorem gives_creation (h : Gives T g.column Q) (statements : Parser Unit) :
    Gives T (g.creation statements) fun t? => ∀ t ∈ t?, ∀ c ∈ t.columns, Q c := by
  have htable {p : Parser TableDefinition} (hp : Gives T p fun t => ∀ c ∈ t.columns, Q c) :
      Gives T (some <$> p) fun t? => ∀ t ∈ t?, ∀ c ∈ t.columns, Q c :=
    hp.map fun t ht t' ht' => Option.some.inj ht' ▸ ht
  have hnone : Gives T (pure none) fun t? : Option TableDefinition =>
      ∀ t ∈ t?, ∀ c ∈ t.columns, Q c := .pure nofun
  have hunless (made : Bool) {q : Parser Unit} :
      Gives T (if !made then q >>= fun _ => pure none else pure none)
        fun t? : Option TableDefinition => ∀ t ∈ t?, ∀ c ∈ t.columns, Q c := by
    split
    · exact .seq fun _ => hnone
    · exact hnone
  have hlabel {p : Parser (Option TableDefinition)} (known : Bool)
      (hp : Gives T p fun t? => ∀ t ∈ t?, ∀ c ∈ t.columns, Q c) :
      Gives T (if known then do if ← labelType then pure none else p else p)
        fun t? => ∀ t ∈ t?, ∀ c ∈ t.columns, Q c := by
    split
    · refine .seq fun isLabel => ?_
      split
      · exact hnone
      · exact hp
    · exact hp
  refine .seq fun r => hlabel r.labelTypes ?_
  refine .seq fun replacing => .seq fun _ => .seq fun _ => .seq fun isTable => ?_
  split
  · exact htable (gives_tableDefinition h)
  refine .seq fun isExternal => ?_
  split
  · exact .seq fun _ => htable (gives_externalTable h)
  refine .seq fun isView => ?_
  split
  · exact .seq fun _ => hnone
  refine .seq fun isReplacing => ?_
  split
  · split
    · exact .seq fun _ => .seq fun isNew => hunless isNew
    · exact .seq fun isNew => hunless isNew
  · exact hnone

theorem gives_statementAfter (h : Gives T g.column Q) {r : Rules} {inner p : Parser Statement}
    {keyword : String} (hp : g.statementAfter r inner keyword = some p) :
    Gives T p (·.Defines Q) := by
  unfold statementAfter at hp
  split at hp
  · cases hp
    refine (gives_creation h _).bind fun t? ht? => ?_
    split
    · exact .pure (ht? _ rfl)
    · exact .pure trivial
  iterate 3
    · cases hp
      exact .seq fun _ => .pure trivial
  · cases hp
    exact .seq fun _ => .pure trivial
  · obtain ⟨q, -, rfl⟩ := Option.map_eq_some_iff.mp hp
    exact .seq fun _ => .pure trivial

theorem gives_statement (h : Gives T g.column Q) (depth : Nat) :
    Gives T (g.statement depth) (·.Defines Q) := by
  cases depth with
  | zero => exact .fail
  | succ depth =>
    refine .nested (.seq fun r => .seq fun particular => ?_)
    split
    · exact .pure trivial
    refine .seq fun opening => .seq fun query => ?_
    split
    · exact .seq fun _ => .pure trivial
    refine .seq fun keyword => ?_
    split
    · rename_i hp
      exact .seq fun _ => gives_statementAfter h hp
    · exact .expected

theorem gives_statementsFrom {one : Parser Statement} (h : Gives T one (·.Defines Q)) (due : Bool)
    (n : Nat) : Gives T (statementsFrom one due n) fun found => ∀ s ∈ found, s.Defines Q := by
  induction n generalizing due with
  | zero => exact .pure nofun
  | succ n ih =>
    refine .seq fun semicolon => ?_
    split
    · exact ih false
    refine .seq fun ended => ?_
    split
    · exact .pure nofun
    split
    · refine .seq fun closing => ?_
      split
      · exact .pure nofun
      · exact .expected
    · exact h.bind fun s hs => (ih true).bind fun found hfound =>
        .pure (List.forall_mem_cons.mpr ⟨hs, hfound⟩)

theorem gives_statements (h : Gives T g.column Q) :
    Gives T g.statements fun found => ∀ s ∈ found, s.Defines Q :=
  .seq fun _ => gives_statementsFrom (gives_statement h _) false _

end Grammar

end EntityGen.Sql
