import EntityGen.Proofs.Sql.CanonicalTokens
import EntityGen.Proofs.Sql.LeadingWord
import EntityGen.Proofs.Sql.Reads
import EntityGen.Schema
import EntityGen.Sql.Statement
import Mathlib.Tactic.Set

/-!
# Reading canonical columns

The tokens of a canonical type are read as that type (`reads_readType`), and the tokens of a column
as its name, its type and its one option (`reads_readColumn`), before anything that a type or a
column does not take.
-/

namespace EntityGen.Sql.Canonical

open EntityGen.Sql.Parser

variable {cx : Context} {g g' : Grammar} {quote : Char} {ts : List Token} {k : String}

/-! ## Types -/

/-- The type that is read. -/
def ColumnType.dataType (type : ColumnType) : DataType :=
  match type with
  | .tinyint | .smallint | .int | .integer | .bigint => .integer type.keyword none false
  | .intOf n => .integer type.keyword (some n.toNat) false
  | .varchar n => .character type.keyword (some (.counted n.toNat ""))
  | .text => .bare type.keyword
  | .decimal p s => .exact type.keyword [p.toNat, s.toNat]
  | .datetime => .sized type.keyword none
  | .timestamp => .temporal type.keyword none .unstated

theorem ColumnType.typeTag_dataType (type : ColumnType) :
    typeTag type.dataType.text.toList = type.tag := by
  have hleading : type.dataType.leading = type.keyword := by cases type <;> rfl
  rw [DataType.typeTag_text, hleading]
  cases type <;> simp only [keyword, tag] <;> decide

/-- Nothing comes next that a type could take. -/
structure EndsType (ts : List Token) : Prop where
  not_lparen : ts.head? ≠ some (.symbol .lparen)
  not_lbracket : ts.head? ≠ some (.symbol .lbracket)
  headIs_false {k : String} (h : k ∈ ["UNSIGNED", "WITH", "WITHOUT"]) : headIs k ts = false

theorem reads_number (n : UInt64) {long : Bool} :
    Reads cx (unsigned 64) (.number (toString n.toNat) long :: ts) n.toNat ts :=
  reads_unsigned n.toNat_lt

theorem reads_optionalSize (n : UInt64) :
    Reads cx optionalSize (numbersTokens [n] ++ ts) (some n.toNat) ts :=
  reads_acceptSymbol.bind ((reads_number n).bind (reads_expectSymbol.bind (.pure _ ts)))

theorem reads_optionalSize_none (h : ts.head? ≠ some (.symbol .lparen)) :
    Reads cx optionalSize ts none ts :=
  (reads_acceptSymbol_false h).bind (.pure none ts)

theorem reads_optionalCharLength (n : UInt64) :
    Reads cx optionalCharLength (numbersTokens [n] ++ ts) (some (.counted n.toNat "")) ts := by
  have hlength : Reads cx charLength (.number (toString n.toNat) false :: .symbol .rparen :: ts)
      (.counted n.toNat "") (.symbol .rparen :: ts) := by
    refine (reads_accept_false rfl).bind ((reads_number n).bind ?_)
    exact (reads_acceptOneOf_none fun k _ => (closed_symbol _ ts).headIs k).bind (.pure _ _)
  exact reads_acceptSymbol.bind (hlength.bind (reads_expectSymbol.bind (.pure _ ts)))

theorem reads_optionalDigits (p s : UInt64) :
    Reads cx optionalDigits (numbersTokens [p, s] ++ ts) [p.toNat, s.toNat] ts := by
  refine reads_acceptSymbol.bind ((reads_number p).bind ?_)
  refine reads_acceptSymbol.bind ((reads_number s).bind ?_)
  exact reads_expectSymbol.bind (.pure _ ts)

/-- The types of columns are built in, and read off what follows their keyword. -/
theorem reads_builtIn (cx : Context) (g : Grammar) (r : Rules) (type : ColumnType)
    (start : Option Pos) (h : EndsType ts) : ∃ p, g.builtIn r type.keyword start = some p ∧
      Reads cx p (numbersTokens type.numbers ++ ts) (type.dataType, false) ts := by
  have hsize : Reads cx optionalSize ts none ts := reads_optionalSize_none h.not_lparen
  have hunsigned : Reads cx (accept "UNSIGNED") ts false ts :=
    reads_accept_false (h.headIs_false (by decide))
  have hzone : Reads cx zoneClause ts .unstated ts := by
    refine (reads_accept_false (h.headIs_false (by decide))).bind ?_
    exact (reads_accept_false (h.headIs_false (by decide))).bind (.pure _ ts)
  cases type with
  | intOf n => exact ⟨_, rfl, (reads_optionalSize n).bind (hunsigned.bind (.pure _ ts))⟩
  | varchar n => exact ⟨_, rfl, (reads_optionalCharLength n).bind (.pure _ ts)⟩
  | text => exact ⟨_, rfl, .pure _ ts⟩
  | decimal p s => exact ⟨_, rfl, (reads_optionalDigits p s).bind (.pure _ ts)⟩
  | datetime => exact ⟨_, rfl, hsize.bind (.pure _ ts)⟩
  | timestamp => exact ⟨_, rfl, hsize.bind (hzone.bind (.pure _ ts))⟩
  | _ => exact ⟨_, rfl, hsize.bind (hunsigned.bind (.pure _ ts))⟩

theorem reads_readType (g : Grammar) (type : ColumnType) (spelling : Spelling type.keyword)
    (h : EndsType ts) :
    Reads cx g.readType (type.tokens spelling ++ ts) (type.dataType, false) ts := by
  have hplain : Reads cx g.plainType (type.tokens spelling ++ ts) (type.dataType, false) ts := by
    refine .position fun start => reads_peekToken.bind (reads_rules.bind ?_)
    obtain ⟨p, hp, hreads⟩ := reads_builtIn cx g cx.rules type start h
    rw [hp]
    exact .next fun _ => hreads
  have hsuffix : Reads cx Grammar.arraySuffix ts none ts :=
    (reads_acceptSymbol_false h.not_lbracket).bind (.pure none ts)
  exact hplain.bind ((reads_many_nil hsuffix).bind (.pure _ ts))

/-! ## Columns -/

/-- No option of a column begins with a symbol. -/
theorem reads_columnOption_none (g : Grammar) (h : Closed ts) :
    Reads cx g.columnOption ts none ts := by
  have hlate : Reads cx (g.lateOption cx.rules) ts none ts := by
    iterate 5 refine (reads_acceptAllMeant_false (h.headIs _)).bind ?_
    refine (reads_accept_false (h.headIs _)).bind ?_
    refine (reads_acceptKnown_false (h.headIs _)).bind ?_
    iterate 2 refine (reads_acceptAllMeant_false (h.headIs _)).bind ?_
    exact (reads_acceptAllKnown_false (h.headIs _)).bind (.pure none ts)
  refine reads_rules.bind ?_
  iterate 5 refine (reads_acceptAll_false (h.headIs _)).bind ?_
  iterate 3 refine (reads_acceptKnown_false (h.headIs _)).bind ?_
  iterate 4 refine (reads_acceptAll_false (h.headIs _)).bind ?_
  exact hlate

theorem reads_columnOption_notNull (g : Grammar) :
    Reads cx g.columnOption (keywordToken "NOT" :: keywordToken "NULL" :: ts) (some "NOT NULL")
      ts := by
  refine reads_rules.bind ((reads_acceptAll_false rfl).bind ?_)
  have hnull : Reads cx (acceptAll ["NULL"]) (keywordToken "NULL" :: ts) true ts := reads_accept rfl
  exact (reads_acceptAll_cons rfl hnull).bind (.pure _ ts)

theorem reads_furtherOption_none (g : Grammar) (again : Bool) (found : String × String)
    (h : Closed ts) : Reads cx (g.furtherOption again found) ts none ts := by
  refine (reads_accept_false (h.headIs _)).bind ((reads_columnOption_none g h).bind ?_)
  exact (reads_acceptKnown_false (h.headIs _)).bind (.pure none ts)

/-- The column that is read. -/
def Column.read (quote : Char) (c : Column) : Sql.Column :=
  ⟨⟨c.name, some quote⟩, c.type.dataType, if c.notNull then " NOT NULL" else ""⟩

theorem reads_columnOptions (g : Grammar) (c : Column) (h : Closed ts) :
    Reads cx (g.columnOptions "")
      ((if c.notNull then [keywordToken "NOT", keywordToken "NULL"] else []) ++ ts)
      ("", if c.notNull then " NOT NULL" else "") ts := by
  refine reads_rules.bind (Carries.reads_fold ?_)
  have hend (found : String × String) :
      Carries cx (g.furtherOption cx.rules.collateOption) ts found found ts :=
    .none (reads_furtherOption_none g _ found h)
  cases c.notNull with
  | false => exact hend _
  | true =>
    refine .some (b := ("", " NOT NULL")) ?_ ?_ (hend _)
    · exact (reads_accept_false rfl).bind ((reads_columnOption_notNull g).bind (.pure _ ts))
    · change ts.length < ts.length + 2
      omega

/-- An entry of a table ends here. -/
def EndsEntry (ts : List Token) : Prop :=
  ∃ rest, ts = .symbol .comma :: rest ∨ ts = .symbol .rparen :: rest

theorem EndsEntry.closed (h : EndsEntry ts) : Closed ts := by
  obtain ⟨rest, rfl | rfl⟩ := h
  · exact closed_symbol .comma rest
  · exact closed_symbol .rparen rest

theorem EndsEntry.endsType (h : EndsEntry ts) : EndsType ts where
  not_lparen := by
    obtain ⟨rest, rfl | rfl⟩ := h <;> simp
  not_lbracket := by
    obtain ⟨rest, rfl | rfl⟩ := h <;> simp
  headIs_false _ := h.closed.headIs _

theorem endsType_not (ts : List Token) : EndsType (keywordToken "NOT" :: ts) where
  not_lparen := by simp [keywordToken]
  not_lbracket := by simp [keywordToken]
  headIs_false hk := by
    simp only [List.mem_cons, List.not_mem_nil, or_false] at hk
    rcases hk with rfl | rfl | rfl <;> rfl

theorem reads_columnType (g : Grammar) (type : ColumnType) (spelling : Spelling type.keyword)
    (h : EndsType ts) :
    Reads cx g.step.columnType (type.tokens spelling ++ ts) type.dataType ts := by
  have htype : Reads cx g.step.balancedType (type.tokens spelling ++ ts) type.dataType ts :=
    (reads_readType g type spelling h).bind (.pure _ ts)
  refine reads_rules.bind ?_
  cases cx.rules.typelessColumns with
  | false => exact htype
  | true =>
    have hend : Grammar.typelessEnds.contains type.keyword = false := by
      cases type <;> simp only [ColumnType.keyword] <;> decide
    refine reads_peekToken.bind (Reads.bind (.pure _ _) ?_)
    rw [hend]
    exact htype

/-- The tokens of a column are read as its name, its type and its one option. -/
theorem reads_readColumn (g : Grammar) (c : Column) (h : EndsEntry ts) :
    Reads cx g.step.readColumn (c.tokens quote ++ ts) (c.read quote) ts := by
  set rest := (if c.notNull then [keywordToken "NOT", keywordToken "NULL"] else []) ++ ts with hrest
  have htype : EndsType rest := by
    rw [hrest]
    split
    · exact endsType_not _
    · exact h.endsType
  have htokens : c.tokens quote ++ ts =
      .word (.quoted quote c.name) :: (c.type.tokens c.spelling ++ rest) := by
    simp [Column.tokens, hrest]
  have hcollate : headIs "COLLATE" rest = false := by
    rw [hrest]
    split
    · rfl
    · exact h.closed.headIs _
  rw [htokens]
  refine (reads_identifier _).bind ((reads_columnType g c.type c.spelling htype).bind ?_)
  refine (reads_clauseAll_skip hcollate).bind ((reads_columnOptions g.step c h.closed).bind ?_)
  exact .pure _ ts

end EntityGen.Sql.Canonical
