import EntityGen.Proofs.Sql.ColumnReading
import Mathlib.Logic.Basic

/-!
# Reading canonical tables

The tokens of a canonical definition are read as one statement, which defines the table by its name
and its columns (`Table.reads_statement`). A primary key is read and gives no column. `Lists` builds
up what a row of tokens is read as, statement by statement and semicolon by semicolon.
-/

namespace EntityGen.Sql.Canonical

open EntityGen.Sql.Parser

variable {cx : Context} {quote : Char} {ts after : List Token} {definition : TableDefinition}

/-! ## Entries -/

theorem reads_tableConstraint_false (g : Grammar) (name : String) :
    Reads cx g.tableConstraint (.word (.quoted quote name) :: ts) false
      (.word (.quoted quote name) :: ts) := by
  have hword {k : String} (hk : k ≠ "") :
      headIs k (.word (.quoted quote name) :: ts) = false := headIs_quoted hk
  have hwords {ks : List String} (hks : "" ∉ ks) :
      ∀ k ∈ ks, headIs k (.word (.quoted quote name) :: ts) = false := by
    intro k hk
    exact hword (ne_of_mem_of_not_mem hk hks)
  refine (reads_accept_false (hword (by decide))).bind (Reads.bind (.pure none _) ?_)
  refine reads_rules.bind (.peek fun here => ?_)
  iterate 4 refine (reads_accept_false (hword (by decide))).bind ?_
  refine reads_acceptOneOf_skip (hwords (by decide)) ?_
  exact reads_acceptOneOf_skip (hwords (by decide)) (.pure false _)

/-- When a constraint is checked need not be told. -/
theorem reads_characteristics_none (h : Closed ts) :
    Reads cx Grammar.characteristics ts "" ts := by
  refine Reads.bind (Carries.reads_fold (.none ?_)) (.pure _ ts)
  have hflag {rows : List (List String)} (hrows : ∀ ks ∈ rows, ks ≠ []) :
      Reads cx (flagPhrase rows) ts "" ts := reads_flagPhrase_skip h hrows
  refine Reads.bind (hflag ?_) (Reads.bind (hflag ?_) (Reads.bind (hflag ?_) (.pure none ts)))
  all_goals decide

theorem reads_keyBody (name : String) (h : Closed ts) :
    Reads cx Grammar.keyBody
      (.symbol .lparen :: .word (.quoted quote name) :: .symbol .rparen :: ts) () ts := by
  have hnames : Reads cx columnList
      (.symbol .lparen :: .word (.quoted quote name) :: .symbol .rparen :: ts)
      ("(" ++ ", ".intercalate [Name.text ⟨name, some quote⟩] ++ ")") ts := by
    refine reads_atSymbol.bind ?_
    have hname : Reads cx named (.word (.quoted quote name) :: .symbol .rparen :: ts)
        (Name.text ⟨name, some quote⟩) (.symbol .rparen :: ts) :=
      (reads_identifier _).map Name.text
    have hlist := (reads_commaSeparated_one hname (by simp)).map (", ".intercalate ·)
    exact (reads_parenthesized hlist).map (("(" ++ · ++ ")"))
  have hoptions : Reads cx Grammar.indexOptions ts () ts := by
    refine reads_loop (reads_atKeyword.bind ?_)
    rw [h.headIs]
    exact (reads_accept_false (h.headIs _)).bind (.pure false ts)
  refine (reads_attempt_none (refuses_identifier (closed_symbol _ _))).discard.bind ?_
  refine (reads_optionally_skip ((closed_symbol _ _).headIs _)).bind ?_
  refine hnames.discard.bind (hoptions.bind ?_)
  exact (reads_characteristics_none h).discard

/-- The column that an entry gives, none for a primary key. -/
def Entry.read? (quote : Char) : Entry → Option Sql.Column
  | .column c => some (c.read quote)
  | .key _ => none

theorem reads_tableEntry (g : Grammar) (e : Entry) (h : EndsEntry ts) :
    Reads cx g.step.step.tableEntry (e.tokens quote ++ ts) (e.read? quote) ts := by
  cases e with
  | column c =>
    refine (reads_tableConstraint_false _ c.name).bind (reads_peekToken.bind ?_)
    exact (reads_readColumn g c h).map some
  | key name =>
    have hkey : Reads cx g.step.step.tableConstraint (Entry.tokens quote (.key name) ++ ts) true
        ts := by
      refine (reads_accept_false rfl).bind (Reads.bind (.pure none _) ?_)
      refine reads_rules.bind (.peek fun here => ?_)
      refine (reads_accept_false rfl).bind ((reads_accept rfl).bind ?_)
      exact (reads_expect rfl).bind ((reads_keyBody name h.closed).bind (.pure true ts))
    exact hkey.bind (.pure none ts)

/-- The columns that entries give. -/
def readAll (quote : Char) (es : List Entry) : List Sql.Column :=
  es.flatMap fun e => (e.read? quote).toList

theorem reads_tableEntries (g : Grammar) {es : List Entry} (hne : es ≠ []) {n : Nat}
    (hn : es.length ≤ n) :
    Reads cx (g.step.step.tableEntries n) (entryTokens quote es ++ .symbol .rparen :: ts)
      (readAll quote es) ts := by
  induction es generalizing n with
  | nil => exact absurd rfl hne
  | cons e es ih =>
    obtain ⟨n, rfl⟩ : ∃ m, n = m + 1 := ⟨n - 1, by simp at hn; omega⟩
    cases es with
    | nil =>
      have htokens : entryTokens quote [e] = e.tokens quote := by simp [entryTokens]
      have hread : readAll quote [e] = (e.read? quote).toList := by simp [readAll]
      rw [htokens, hread]
      refine (reads_tableEntry g e ⟨ts, .inr rfl⟩).bind ?_
      exact (reads_acceptSymbol_false (by simp)).bind (reads_acceptSymbol.bind (.pure _ ts))
    | cons e' es =>
      have htokens : entryTokens quote (e :: e' :: es) =
          e.tokens quote ++ .symbol .comma :: entryTokens quote (e' :: es) := by
        simp [entryTokens, List.intercalate_cons_cons]
      rw [htokens, List.append_assoc]
      have hrest := ih (by simp) (Nat.le_of_succ_le_succ hn)
      refine (reads_tableEntry g e ⟨_, .inl rfl⟩).bind (reads_acceptSymbol.bind ?_)
      exact hrest.bind (.pure _ ts)

/-- There are no more entries than tokens of them. -/
theorem length_le_entryTokens (es : List Entry) :
    es.length ≤ (entryTokens quote es).length + 1 := by
  induction es with
  | nil => simp
  | cons e es ih =>
    cases es with
    | nil => simp
    | cons e' es =>
      simp only [entryTokens, List.map_cons, List.intercalate_cons_cons, List.length_append,
        List.length_cons, List.length_nil] at ih ⊢
      omega

theorem head?_entryTokens {es : List Entry} (hne : es ≠ []) {s : Symbol} :
    (entryTokens quote es ++ ts).head? ≠ some (.symbol s) := by
  obtain ⟨e, es, rfl⟩ := List.exists_cons_of_ne_nil hne
  have hword : ∃ w rest, e.tokens quote = .word w :: rest := by
    cases e <;> exact ⟨_, _, rfl⟩
  obtain ⟨w, rest, hw⟩ := hword
  cases es <;> simp [entryTokens, List.intercalate_cons_cons, hw]

theorem reads_tableColumns (g : Grammar) {es : List Entry} (hne : es ≠ []) :
    Reads cx g.step.step.tableColumns
      (.symbol .lparen :: entryTokens quote es ++ .symbol .rparen :: ts) (readAll quote es) ts := by
  refine reads_acceptSymbol.bind ((reads_acceptSymbol_false (head?_entryTokens hne)).bind ?_)
  refine reads_remaining.bind (reads_tableEntries g hne ?_)
  have hlength : es.length ≤ (entryTokens quote es).length + 1 := length_le_entryTokens es
  simp only [List.length_append, List.length_cons]
  omega

/-! ## Clauses that are left out -/

theorem reads_sourceTable_skip (h : Closed ts) : Reads cx Grammar.sourceTable ts () ts := by
  refine (reads_acceptOneOf_none fun k _ => h.headIs k).bind ?_
  exact reads_optionally_skip (h.headIs _)

theorem reads_storageClauses_skip (g : Grammar) (h : Closed ts) :
    Reads cx g.storageClauses ts () ts := by
  refine reads_loop ((reads_acceptOneOf_none fun k _ => h.headIs k).bind ?_)
  exact (reads_acceptAll_false (h.headIs _)).bind (.pure false ts)

/-- No clause of a table begins with a symbol. -/
theorem reads_tableClauses_skip (g : Grammar) (h : Closed ts) :
    Reads cx g.tableClauses ts () ts := by
  have hunless {ks : List String} {q : Parser Unit} {k : String} :
      Reads cx (do if ← acceptAll (k :: ks) then q) ts () ts :=
    (reads_acceptAll_false (h.headIs k)).bind (.pure () ts)
  have hsettings (k : String) : Reads cx (g.settingsAfter k) ts () ts :=
    reads_optionally_skip (h.headIs k)
  have hknown {known : Bool} {ks : List String} {q : Parser String} {k : String} :
      Reads cx (discard (clauseKnown known (k :: ks) q)) ts () ts :=
    (reads_clauseKnown_skip (h.headIs k)).discard
  have hdivision : Reads cx (g.divisionClauses cx.rules) ts () ts := by
    refine hknown.bind ?_
    split
    · exact (reads_clauseAll_skip (h.headIs _)).discard.bind (hsettings _)
    · exact .pure () ts
  have hcommit : Reads cx (discard (acceptPhrase Grammar.commitClauses)) ts () ts :=
    (reads_acceptPhrase_none h (by decide)).discard
  refine reads_rules.bind ((reads_acceptAll_false (h.headIs _)).discard.bind ?_)
  refine hunless.bind (reads_where hunless ?_)
  refine (reads_storageClauses_skip g h).bind ?_
  refine (hsettings _).bind ((hsettings _).bind ?_)
  refine (reads_optionally_skip (h.headIs _)).bind ?_
  refine (reads_optionally_skip (h.headIs _)).bind (hknown.bind ?_)
  refine hunless.bind (hdivision.bind ?_)
  refine (reads_acceptAll_false (h.headIs _)).bind ?_
  refine (reads_optionally_skip (h.headIs _)).bind (hcommit.bind ?_)
  refine (reads_accept_false (h.headIs _)).discard.bind ?_
  exact (reads_optionally_skip (h.headIs _)).bind (reads_optionally_skip (h.headIs _))

/-! ## Definitions -/

namespace Table

/-- The name that is read. -/
def readName (quote : Char) (t : Table) : DottedName :=
  (t.qualifier?.map fun s => ⟨s, some quote⟩).toList ++ [⟨t.name, some quote⟩]

/-- The definition that is read. -/
def readDefinition (quote : Char) (t : Table) : TableDefinition :=
  ⟨t.readName quote, t.columns.map (Column.read quote)⟩

theorem reads_dottedName (t : Table) (h : ts.head? ≠ some (.symbol .period)) :
    Reads cx dottedName (t.nameTokens quote ++ ts) (t.readName quote) ts := by
  have hend : Reads cx (do
      if ← acceptSymbol .period then return some (← identifier) else return none) ts none ts :=
    (reads_acceptSymbol_false h).bind (.pure none ts)
  unfold nameTokens readName
  cases t.qualifier? with
  | none => exact (reads_identifier _).bind ((reads_many_nil hend).bind (.pure _ ts))
  | some s =>
    refine (reads_identifier (.quoted quote s)).bind (Reads.bind (Finds.reads_many ?_) (.pure _ ts))
    refine .some (reads_acceptSymbol.bind ((reads_identifier _).bind (.pure _ ts))) ?_ (.none hend)
    change ts.length < ts.length + 2
    omega

theorem entries_ne_nil (t : Table) : t.entries ≠ [] := by
  simp [entries, t.columns_ne_nil]

theorem readAll_entries (t : Table) :
    readAll quote t.entries = t.columns.map (Column.read quote) := by
  have hcolumns : readAll quote (t.columns.map .column) = t.columns.map (Column.read quote) := by
    rw [readAll, List.flatMap_map, List.map_eq_flatMap]
    rfl
  have hkey : readAll quote (t.key?.map .key).toList = [] := by
    cases t.key? <;> rfl
  rw [entries, readAll, List.flatMap_append]
  exact (congrArg₂ _ hcolumns hkey).trans (List.append_nil _)

/-- A table name begins with a name between quotes. -/
theorem nameTokens_eq_cons (t : Table) :
    ∃ name rest, t.nameTokens quote = .word (.quoted quote name) :: rest := by
  unfold nameTokens
  cases t.qualifier? <;> exact ⟨_, _, rfl⟩

theorem reads_tableDefinition (g : Grammar) (t : Table) (h : Closed ts) :
    Reads cx g.step.step.tableDefinition (t.nameTokens quote ++ (t.bodyTokens quote ++ ts))
      (t.readDefinition quote) ts := by
  have hname : Reads cx Grammar.newName (t.nameTokens quote ++ (t.bodyTokens quote ++ ts))
      (t.readName quote) (t.bodyTokens quote ++ ts) := by
    have hnot : headIs "IF" (t.nameTokens quote ++ (t.bodyTokens quote ++ ts)) = false := by
      obtain ⟨name, rest, hcons⟩ : ∃ name rest, t.nameTokens quote =
          .word (.quoted quote name) :: rest := t.nameTokens_eq_cons
      rw [hcons]
      exact headIs_quoted (by decide)
    refine (reads_acceptAll_false hnot).discard.bind (t.reads_dottedName ?_)
    simp [bodyTokens]
  have hbody : Closed (t.bodyTokens quote ++ ts) := closed_symbol .lparen _
  have hcolumns : Reads cx g.step.step.tableColumns (t.bodyTokens quote ++ ts)
      (t.columns.map (Column.read quote)) ts := by
    rw [← t.readAll_entries, bodyTokens, List.append_assoc]
    exact reads_tableColumns g t.entries_ne_nil
  refine hname.bind (Reads.bind ((reads_acceptAll_false (hbody.headIs _)).bind (.pure () _)) ?_)
  refine (reads_sourceTable_skip hbody).bind (hcolumns.bind ?_)
  exact (reads_tableClauses_skip _ h).bind (.pure _ ts)

end Table

/-! ## Statements -/

theorem reads_labelType_false (h : headIs "TYPE" ts = false) :
    Reads cx Grammar.labelType ts false ts :=
  (reads_attempt_none (refuses_expect h).bind).bind (.pure false ts)

theorem reads_lifetimeWords_skip :
    Reads cx Grammar.lifetimeWords (keywordToken "TABLE" :: ts) ()
      (keywordToken "TABLE" :: ts) := by
  refine (reads_accept_false rfl).discard.bind ((reads_accept_false rfl).discard.bind ?_)
  refine (reads_accept_false rfl).discard.bind (reads_acceptOneOf_none ?_).discard
  intro k hk
  simp only [List.mem_cons, List.not_mem_nil, or_false] at hk
  rcases hk with rfl | rfl <;> rfl

theorem reads_creation (g : Grammar) (statements : Parser Unit)
    (h : Reads cx g.tableDefinition ts definition after) :
    Reads cx (g.creation statements) (keywordToken "TABLE" :: ts) (some definition) after := by
  have hlabel {q : Parser (Option TableDefinition)}
      (hq : Reads cx q (keywordToken "TABLE" :: ts) (some definition) after) :
      Reads cx (if cx.rules.labelTypes then do if ← Grammar.labelType then pure none else q else q)
        (keywordToken "TABLE" :: ts) (some definition) after := by
    split
    · exact (reads_labelType_false rfl).bind hq
    · exact hq
  refine reads_rules.bind (hlabel ?_)
  refine (reads_acceptAll_false rfl).bind ((reads_acceptAll_false rfl).discard.bind ?_)
  refine reads_lifetimeWords_skip.bind ((reads_accept rfl).bind ?_)
  exact h.bind (.pure _ after)

theorem reads_dialectStatement_false (g : Grammar) :
    Reads cx (g.dialectStatement cx.rules) (keywordToken "CREATE" :: ts) false
      (keywordToken "CREATE" :: ts) := by
  refine (reads_acceptAllKnown_false rfl).bind ((reads_acceptAllKnown_false rfl).bind ?_)
  refine reads_atKeyword.bind ?_
  have hreplace : headIs "REPLACE" (keywordToken "CREATE" :: ts) = false := rfl
  rw [hreplace, Bool.and_false]
  exact .pure false _

theorem reads_statement (g : Grammar) (depth : Nat) {room : Nat} (hroom : cx.room = room + 1)
    (h : Reads { cx with room } g.tableDefinition ts definition after) :
    Reads cx (g.statement (depth + 1)) (keywordToken "CREATE" :: keywordToken "TABLE" :: ts)
      (.table definition) after := by
  refine reads_nested hroom (reads_rules.bind ((reads_dialectStatement_false g).bind ?_))
  refine reads_atSymbol.bind (reads_atOneOf.bind (reads_peekKeyword.bind ?_))
  obtain ⟨p, hp, hreads⟩ : ∃ p, g.statementAfter cx.rules (g.statement depth) "CREATE" = some p ∧
      Reads { cx with room } p (keywordToken "TABLE" :: ts) (.table definition) after :=
    ⟨_, rfl, (reads_creation g _ h).bind (.pure _ after)⟩
  rw [hp]
  exact Reads.bind (.next fun _ => .pure () _) hreads

/-- A definition is read as a statement in front of what ends it. -/
theorem Table.reads_statement (g : Grammar) (t : Table) {room : Nat} (hroom : cx.room = room + 1)
    (h : Closed ts) :
    Reads cx (g.step.step.statement (roomForNesting + 1)) (t.tokens quote ++ ts)
      (.table (t.readDefinition quote)) ts := by
  have hdefinition : Reads { cx with room } g.step.step.tableDefinition
      (t.nameTokens quote ++ (t.bodyTokens quote ++ ts)) (t.readDefinition quote) ts :=
    t.reads_tableDefinition g h
  have htokens : t.tokens quote ++ ts = keywordToken "CREATE" :: keywordToken "TABLE" ::
      (t.nameTokens quote ++ (t.bodyTokens quote ++ ts)) := by
    simp [tokens]
  rw [htokens]
  exact Canonical.reads_statement _ roomForNesting hroom hdefinition

/-! ## Lists of statements -/

/-- Some tokens are read as these statements to their end. `due` tells that the statement before
them is not yet closed. -/
def Lists (cx : Context) (one : Parser Statement) (due : Bool) (ts : List Token)
    (statements : List Statement) : Prop :=
  ∀ n, ts.length < n → Reads cx (Grammar.statementsFrom one due n) ts statements []

variable {one : Parser Statement} {due : Bool} {first : Statement} {statements : List Statement}

theorem lists_nil : Lists cx one due [] [] := by
  intro n hn
  obtain ⟨n, rfl⟩ : ∃ m, n = m + 1 := ⟨n - 1, by omega⟩
  exact (reads_acceptSymbol_false (by simp)).bind (reads_atEnd.bind (.pure [] []))

theorem Lists.semicolon (h : Lists cx one false ts statements) :
    Lists cx one due (.symbol .semicolon :: ts) statements := by
  intro n hn
  obtain ⟨n, rfl⟩ : ∃ m, n = m + 1 := ⟨n - 1, by omega⟩
  exact reads_acceptSymbol.bind (h n (Nat.lt_of_succ_lt_succ hn))

theorem Lists.cons {before : List Token} (hne : before ≠ [])
    (hhead : (before ++ ts).head? ≠ some (.symbol .semicolon))
    (hone : Reads cx one (before ++ ts) first ts) (h : Lists cx one true ts statements) :
    Lists cx one false (before ++ ts) (first :: statements) := by
  intro n hn
  have hpos : 0 < before.length := List.length_pos_iff.mpr hne
  rw [List.length_append] at hn
  obtain ⟨n, rfl⟩ : ∃ m, n = m + 1 := ⟨n - 1, by omega⟩
  have hmore : (before ++ ts).isEmpty = false := by simp [hne]
  refine (reads_acceptSymbol_false hhead).bind (reads_atEnd.bind ?_)
  rw [hmore]
  exact hone.bind ((h n (by omega)).bind (.pure _ []))

/-- The statements of a whole text. -/
theorem Lists.reads (h : Lists cx one false ts statements) :
    Reads cx (Grammar.statementList one) ts statements [] :=
  reads_remaining.bind (h _ (by omega))

theorem Table.head?_tokens (t : Table) :
    (t.tokens quote ++ ts).head? = some (keywordToken "CREATE") := rfl

/-- A definition in front of what ends it, in a list of statements. -/
theorem Table.lists (g : Grammar) (t : Table) {room : Nat} (hroom : cx.room = room + 1)
    (hclosed : Closed ts)
    (h : Lists cx (g.step.step.statement (roomForNesting + 1)) true ts statements) :
    Lists cx (g.step.step.statement (roomForNesting + 1)) false (t.tokens quote ++ ts)
      (.table (t.readDefinition quote) :: statements) := by
  refine .cons (by simp [tokens]) ?_ (t.reads_statement g hroom hclosed) h
  simp [t.head?_tokens, keywordToken]

end EntityGen.Sql.Canonical
