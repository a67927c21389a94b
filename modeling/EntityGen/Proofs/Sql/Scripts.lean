import EntityGen.Proofs.Sql.BlankText
import EntityGen.Proofs.Sql.RoundTrip

/-!
# Scripts

A script is any number of canonical definitions with semicolons and white space around them
(`Script`). White space has no tokens and a semicolon is one (`lexes_gap`); a semicolon inside a
quoted name is part of the name. So a script is read as its definitions, one after the other
(`Script.parseStatements_text`), and gives a schema just if it has one of them
(`one_table_of_script_iff`).

White space is here what a dialect takes for it (`Dialect.isSpace`). MySQL and SQLite begin words
with white space beyond ASCII, so there it separates nothing (`not_all_blanks_separate`).
-/

namespace EntityGen.Sql

open Text (isBlank)

variable {d : Dialect} {cs rest : List Char} {ts : List Token} {c : Char}

/-- Whether white space beyond ASCII separates words. In the other dialects it is part of them. -/
def Dialect.hasWideSpace : Dialect → Bool
  | .mysql | .sqlite => false
  | .postgres | .generic => true

/-- The white space of a dialect. -/
def Dialect.isSpace (d : Dialect) (c : Char) : Bool :=
  isBlank c && (decide (c.toNat < 128) || d.hasWideSpace)

theorem Dialect.startsWord_of_isSpace (hc : d.isSpace c = true) :
    d.rules.startsWord c = false := by
  obtain ⟨hblank, hwide⟩ := Bool.and_eq_true_iff.mp hc
  have hall : Text.blanks.all (fun c =>
      !(decide (c.toNat < 128) || d.hasWideSpace) || !d.rules.startsWord c) = true := by
    cases d <;> decide +kernel
  have hword := Text.eq_true_of_blank hall hblank
  rwa [hwide, Bool.not_true, Bool.false_or, Bool.not_eq_true'] at hword

theorem lexes_isSpace (hc : d.isSpace c = true) (h : Lexes d.rules rest ts) :
    Lexes d.rules (c :: rest) ts := by
  have hblank : isBlank c = true := (Bool.and_eq_true_iff.mp hc).1
  have hsteps : Steps d.rules (c :: rest) none rest := by
    refine .of_step (Nat.lt_succ_self _) fun pos => ⟨pos.after c, ?_⟩
    rw [step_of_blank d hblank rfl, d.startsWord_of_isSpace hc]
    rfl
  exact hsteps.lexes h

namespace Canonical

open EntityGen.Sql.Parser

/-- Semicolons and white space. -/
def IsGap (space : Char → Bool) (cs : List Char) : Prop := ∀ c ∈ cs, c = ';' ∨ space c = true

/-- The tokens of semicolons and white space. -/
def gapTokens (cs : List Char) : List Token :=
  List.replicate (cs.count ';') (.symbol .semicolon)

/-- A definition and what stands between it and the next one. -/
structure Part where
  table : Table
  gap : List Char

/-- Canonical definitions with semicolons and white space before and after them, and a semicolon
at least between any two of them. -/
structure Script (space : Char → Bool) where
  lead : List Char
  parts : List Part
  gap_lead : IsGap space lead
  gap_parts : ∀ p ∈ parts, IsGap space p.gap
  separated : ∀ p ∈ parts.dropLast, ';' ∈ p.gap

/-- The text of definitions with what follows them. -/
def partsText (quote : Char) (parts : List Part) : List Char :=
  parts.flatMap fun p => (p.table.text quote).toList ++ p.gap

/-- The tokens of definitions with what follows them. -/
def partsTokens (quote : Char) (parts : List Part) : List Token :=
  parts.flatMap fun p => p.table.tokens quote ++ gapTokens p.gap

namespace Script

variable {space : Char → Bool}

/-- The definitions. -/
def tables (s : Script space) : List Table := s.parts.map (·.table)

/-- The written form. -/
def text (quote : Char) (s : Script space) : String :=
  String.ofList (s.lead ++ partsText quote s.parts)

end Script

/-! ## Tokens -/

theorem lexes_gap (hgap : IsGap d.isSpace cs) (h : Lexes d.rules rest ts) :
    Lexes d.rules (cs ++ rest) (gapTokens cs ++ ts) := by
  induction cs with
  | nil => exact h
  | cons c cs ih =>
    obtain ⟨hc, hcs⟩ := List.forall_mem_cons.mp hgap
    by_cases hsemicolon : c = ';'
    · subst hsemicolon
      have htokens : gapTokens (';' :: cs) = .symbol .semicolon :: gapTokens cs := by
        rw [gapTokens, List.count_cons_self, List.replicate_succ]
        rfl
      rw [htokens]
      exact lexes_separator (by decide) (ih hcs)
    · have htokens : gapTokens (c :: cs) = gapTokens cs := by
        rw [gapTokens, List.count_cons_of_ne hsemicolon]
        rfl
      rw [htokens]
      exact lexes_isSpace (hc.resolve_left hsemicolon) (ih hcs)

theorem lexes_parts {parts : List Part} (hgaps : ∀ p ∈ parts, IsGap d.isSpace p.gap) :
    Lexes d.rules (partsText d.nameQuote parts) (partsTokens d.nameQuote parts) := by
  induction parts with
  | nil => exact lexes_nil
  | cons p parts ih =>
    obtain ⟨hgap, hgaps⟩ := List.forall_mem_cons.mp hgaps
    have hrest := p.table.lexes_text (lexes_gap hgap (ih hgaps))
    simpa [partsText, partsTokens] using hrest

/-! ## Statements -/

theorem exists_gapTokens (hcs : ';' ∈ cs) :
    ∃ n, gapTokens cs = .symbol .semicolon :: List.replicate n (.symbol .semicolon) := by
  obtain ⟨n, hn⟩ := Nat.exists_eq_succ_of_ne_zero (mt List.count_eq_zero.mp (not_not.mpr hcs))
  exact ⟨n, by rw [gapTokens, hn, List.replicate_succ]⟩

section Lists

variable {cx : Context} {one : Parser Statement} {due : Bool} {statements : List Statement}

theorem Lists.semicolons (n : Nat) (h : Lists cx one false ts statements) :
    Lists cx one false (List.replicate n (.symbol .semicolon) ++ ts) statements := by
  induction n with
  | zero => exact h
  | succ n ih => exact .semicolon ih

theorem Lists.gap (cs : List Char) (h : Lists cx one false ts statements) :
    Lists cx one false (gapTokens cs ++ ts) statements := .semicolons _ h

/-- A gap with a semicolon closes the statement before it. -/
theorem Lists.closing_gap (hcs : ';' ∈ cs) (h : Lists cx one false ts statements) :
    Lists cx one due (gapTokens cs ++ ts) statements := by
  obtain ⟨n, hn⟩ := exists_gapTokens hcs
  rw [hn]
  exact .semicolon (.semicolons n h)

end Lists

theorem closed_gap (hcs : ';' ∈ cs) : Closed (gapTokens cs ++ ts) := by
  obtain ⟨n, hn⟩ := exists_gapTokens hcs
  rw [hn]
  exact closed_symbol .semicolon _

theorem separated_tail {p : Part} {parts : List Part}
    (h : ∀ q ∈ (p :: parts).dropLast, ';' ∈ q.gap) :
    (parts = [] ∨ ';' ∈ p.gap) ∧ ∀ q ∈ parts.dropLast, ';' ∈ q.gap := by
  cases parts with
  | nil => exact ⟨.inl rfl, fun q hq => nomatch hq⟩
  | cons p' parts =>
    obtain ⟨hp, hparts⟩ := List.forall_mem_cons.mp h
    exact ⟨.inr hp, hparts⟩

/-- Definitions with semicolons between them are read one after the other. -/
theorem lists_parts {cx : Context} {quote : Char} (g : Grammar) {room : Nat}
    (hroom : cx.room = room + 1) {parts : List Part}
    (hseparated : ∀ p ∈ parts.dropLast, ';' ∈ p.gap) :
    Lists cx (g.step.step.statement (roomForNesting + 1)) false (partsTokens quote parts)
      (parts.map fun p => .table (p.table.readDefinition quote)) := by
  induction parts with
  | nil => exact lists_nil
  | cons p parts ih =>
    obtain ⟨hp, hparts⟩ := separated_tail hseparated
    have htokens : partsTokens quote (p :: parts) =
        p.table.tokens quote ++ (gapTokens p.gap ++ partsTokens quote parts) := by
      simp [partsTokens]
    rw [htokens]
    by_cases hsemicolon : ';' ∈ p.gap
    · exact p.table.lists g hroom (closed_gap hsemicolon) (.closing_gap hsemicolon (ih hparts))
    · -- Without a semicolon after it the definition is the last one.
      obtain rfl : parts = [] := hp.resolve_right hsemicolon
      have hnone : gapTokens p.gap = [] := by
        rw [gapTokens, List.count_eq_zero.mpr hsemicolon]
        rfl
      rw [hnone]
      exact p.table.lists g hroom closed_nil lists_nil

/-- A script is read as its definitions. -/
theorem Script.parseStatements_text (s : Script d.isSpace) :
    parseStatements d (s.text d.nameQuote).toList =
      .ok (s.tables.map fun t => .table (t.readDefinition d.nameQuote)) := by
  have hlexes := lexes_gap s.gap_lead (lexes_parts s.gap_parts)
  rw [Script.text, String.toList_ofList, Script.tables, List.map_map]
  refine parseStatements_of_lexes hlexes (readStatements_of_lists fun g => .gap s.lead ?_)
  exact lists_parts g rfl s.separated

/-- A script gives a schema just if it has one definition, and then what the definition alone gives.
Without one there is no statement, and with several there are too many. -/
theorem one_table_of_script_iff (d : Dialect) (s : Script d.isSpace) :
    let found := TableSchema.ofSql d (s.text d.nameQuote)
    ((∃ schema, found = .ok schema) ↔ s.tables.length = 1) ∧
    match s.tables with
    | [] => ∃ cause, found = .error cause ∧ cause.text = "no statement found"
    | [t] => found = TableSchema.ofSql d (t.text d.nameQuote) ∧ found = .ok t.schema
    | _ => ∃ cause, found = .error cause ∧
        cause.text = "expected exactly one CREATE TABLE statement" := by
  intro found
  have hfound : found = TableSchema.ofStatements
      (s.tables.map fun t => .table (t.readDefinition d.nameQuote)) := by
    simp only [found, TableSchema.ofSql, s.parseStatements_text]
  have hnone {cause : SchemaFailure} (h : found = .error cause) :
      ¬ ∃ schema, found = .ok schema := by
    rintro ⟨schema, hschema⟩
    rw [h] at hschema
    cases hschema
  cases htables : s.tables with
  | nil =>
    rw [htables] at hfound
    exact ⟨iff_of_false (hnone hfound) (by simp), _, hfound, rfl⟩
  | cons t tables =>
    rw [htables] at hfound
    cases tables with
    | nil =>
      have hschema : found = .ok t.schema :=
        hfound.trans (t.ofDefinition_readDefinition d.nameQuote)
      exact ⟨iff_of_true ⟨_, hschema⟩ rfl, hschema.trans (t.ofSql_text d).symm, hschema⟩
    | cons t' tables =>
      exact ⟨iff_of_false (hnone hfound) (by simp), _, hfound, rfl⟩

/-- One table after an ideographic space. -/
private def afterWideSpace : Script isBlank where
  lead := ['\u3000']
  parts := [⟨⟨none, "t", [⟨"a", .int, ⟨"INT", by decide⟩, false⟩], by decide, none⟩, []⟩]
  gap_lead := List.forall_mem_singleton.mpr (.inr (by decide))
  gap_parts := List.forall_mem_singleton.mpr fun _ hc => nomatch hc
  separated := fun _ hp => nomatch hp

/-- Not all white space may stand before a definition: an ideographic space begins a word in
MySQL. -/
theorem not_all_blanks_separate : ¬ ∀ (d : Dialect) (s : Script isBlank),
    (∃ schema, TableSchema.ofSql d (s.text d.nameQuote) = .ok schema) ↔ s.tables.length = 1 := by
  intro h
  obtain ⟨schema, hschema⟩ := (h .mysql afterWideSpace).mpr rfl
  have hnone : (TableSchema.ofSql .mysql (afterWideSpace.text Dialect.mysql.nameQuote)).toOption =
      none := by decide +kernel
  rw [hschema] at hnone
  cases hnone

end Canonical

end EntityGen.Sql
