import EntityGen.Proofs.Sql.Lexing

/-!
# The tokens of canonical table definitions

Each part of a printed table definition is a chunk with tokens of its own, which are found wherever
nothing that follows runs into it (`Chunk`). `lexes_text` puts the chunks of a table together.
-/

namespace EntityGen.Sql

variable {r : Rules} {cs cs' rest : List Char} {ts ts' : List Token} {c : Char}

/-- A part of a text, with its tokens, before anything that does not run into it. -/
def Chunk (r : Rules) (cs : List Char) (ts : List Token) : Prop :=
  ∀ rest ts', Separated rest → Lexes r rest ts' → Lexes r (cs ++ rest) (ts ++ ts')

theorem chunk_nil : Chunk r [] [] := fun _ _ _ h => h

theorem Chunk.append (h : Chunk r cs ts) (h' : Chunk r cs' ts')
    (hsep : ∀ rest, Separated rest → Separated (cs' ++ rest)) :
    Chunk r (cs ++ cs') (ts ++ ts') := by
  intro rest us hrest hlex
  rw [List.append_assoc, List.append_assoc]
  exact h _ _ (hsep rest hrest) (h' rest us hrest hlex)

/-- Chunks between separators. -/
theorem Chunk.intercalate {α : Type} {text : α → List Char} {tokens : α → List Token}
    {sep : List Char} (hsep : ∀ cs, Separated (sep ++ cs))
    (hcomma : ∀ cs ts, Lexes r cs ts → Lexes r (sep ++ cs) (.symbol .comma :: ts)) {xs : List α}
    (h : ∀ x ∈ xs, Chunk r (text x) (tokens x)) :
    Chunk r (sep.intercalate (xs.map text)) ([.symbol .comma].intercalate (xs.map tokens)) := by
  induction xs with
  | nil => exact chunk_nil
  | cons x xs ih =>
    simp only [List.mem_cons, forall_eq_or_imp] at h
    cases xs with
    | nil => simpa using h.1
    | cons y ys =>
      intro rest us hrest hlex
      simp only [List.map_cons, List.intercalate_cons_cons, List.append_assoc] at ih ⊢
      exact h.1 _ _ (hsep _) (hcomma _ _ (ih h.2 rest us hrest hlex))

namespace Canonical

variable {d : Dialect}

theorem lexes_separator {s : Symbol} (hs : (c, s) ∈ separatingSymbols)
    (h : Lexes d.rules cs ts) : Lexes d.rules (c :: cs) (.symbol s :: ts) :=
  (steps_separator d hs).lexes h

/-- A keyword as it is printed. -/
def keywordToken (k : String) : Token := .word ⟨k, none, k⟩

theorem chunk_spelling {k : String} (s : Spelling k) (hk : k.toList.all Char.isUpper = true)
    (hne : k ≠ "") : Chunk d.rules s.text.toList [.word ⟨s.text, none, k⟩] := by
  intro rest ts hrest hlex
  have htext : s.text.toList ≠ [] := by
    intro h
    have hnil := s.spells
    rw [h] at hnil
    exact hne (String.toList_eq_nil_iff.mp hnil.symm)
  have hword := steps_word d htext (fun c hc => s.isAlpha hk hc) hrest
  rw [String.ofList_toList, s.plain_eq hk] at hword
  exact hword.lexes hlex

theorem chunk_keyword {k : String} (hk : k.toList.all Char.isUpper = true) (hne : k ≠ "")
    (hspells : k.toList.map Char.toUpper = k.toList) : Chunk d.rules k.toList [keywordToken k] :=
  chunk_spelling ⟨k, hspells⟩ hk hne

theorem chunk_number (n : Nat) :
    Chunk d.rules (toString n).toList [.number (toString n) false] := by
  intro rest ts hrest hlex
  have htext : (toString n).toList = Nat.toDigits 10 n := by simp
  have hne : (toString n).toList ≠ [] := htext ▸ Nat.toDigits_ne_nil
  have hdigits : ∀ c ∈ (toString n).toList, c.isDigit = true := by
    rw [htext]
    exact fun c hc => Nat.isDigit_of_mem_toDigits (by decide) (by decide) hc
  have hnumber := steps_digits d hne hdigits hrest
  rw [String.ofList_toList] at hnumber
  exact hnumber.lexes hlex

theorem lexes_quotedName (name : String) (hrest : rest.head? ≠ some d.nameQuote)
    (h : Lexes d.rules rest ts) :
    Lexes d.rules ((quotedName d.nameQuote name).toList ++ rest)
      (.word (.quoted d.nameQuote name) :: ts) :=
  (steps_quotedName d name hrest).lexes h

theorem chunk_quotedName (name : String) :
    Chunk d.rules (quotedName d.nameQuote name).toList [.word (.quoted d.nameQuote name)] := by
  intro rest ts hrest hlex
  refine lexes_quotedName name (fun heq => ?_) hlex
  have hquote : d.nameQuote ∉ separators := by cases d <;> decide
  exact hquote (hrest _ heq)

theorem lexes_parenthesized {us : List Token} (h : Chunk d.rules cs ts)
    (hrest : Lexes d.rules rest us) :
    Lexes d.rules ('(' :: cs ++ ')' :: rest)
      (.symbol .lparen :: ts ++ .symbol .rparen :: us) := by
  refine lexes_separator (by decide) (h _ _ (separated_cons (by decide)) ?_)
  exact lexes_separator (by decide) hrest

/-- A chunk in parentheses. -/
theorem chunk_parenthesized (h : Chunk d.rules cs ts) :
    Chunk d.rules ('(' :: cs ++ [')']) (.symbol .lparen :: ts ++ [.symbol .rparen]) := by
  intro rest us _ hlex
  rw [List.append_assoc, List.append_assoc]
  exact lexes_parenthesized h hlex

/-! ## Columns -/

/-- The tokens of the numbers of a type. -/
def numbersTokens : List UInt64 → List Token
  | [] => []
  | ns =>
    .symbol .lparen ::
      [.symbol .comma].intercalate (ns.map fun n => [.number (toString n.toNat) false]) ++
        [.symbol .rparen]

theorem chunk_numbersText (ns : List UInt64) :
    Chunk d.rules (numbersText ns).toList (numbersTokens ns) := by
  cases ns with
  | nil => exact chunk_nil
  | cons n ns =>
    have hlist : Chunk d.rules
        (List.intercalate [','] ((n :: ns).map fun n => (toString n.toNat).toList))
        ([.symbol .comma].intercalate
          ((n :: ns).map fun n => [.number (toString n.toNat) false])) :=
      Chunk.intercalate (fun _ => separated_cons (by decide))
        (fun _ _ h => lexes_separator (by decide) h) fun _ _ => chunk_number _
    have htext : (numbersText (n :: ns)).toList =
        '(' :: List.intercalate [','] ((n :: ns).map fun n => (toString n.toNat).toList) ++
          [')'] := by
      simp only [numbersText, String.toList_append, String.toList_intercalate, List.map_map]
      rfl
    rw [htext]
    exact chunk_parenthesized hlist

theorem separated_numbersText (ns : List UInt64) (h : Separated rest) :
    Separated ((numbersText ns).toList ++ rest) := by
  cases ns with
  | nil => exact h
  | cons n ns =>
    simp only [numbersText, String.toList_append, List.append_assoc]
    exact separated_cons (by decide)

/-- The tokens of a type. -/
def ColumnType.tokens (type : ColumnType) (spelling : Spelling type.keyword) : List Token :=
  .word ⟨spelling.text, none, type.keyword⟩ :: numbersTokens type.numbers

/-- The tokens of a column. -/
def Column.tokens (quote : Char) (c : Column) : List Token :=
  .word (.quoted quote c.name) :: c.type.tokens c.spelling ++
    (if c.notNull then [keywordToken "NOT", keywordToken "NULL"] else [])

/-- A chunk after a space. -/
theorem chunk_space (h : Chunk r cs ts) : Chunk r (' ' :: cs) ts := by
  intro rest us hrest hlex
  exact lexes_space (h rest us hrest hlex)

theorem separated_space (cs rest : List Char) : Separated (' ' :: cs ++ rest) :=
  separated_cons (by decide)

theorem chunk_column (c : Column) :
    Chunk d.rules (c.text d.nameQuote).toList (c.tokens d.nameQuote) := by
  have hne : c.type.keyword ≠ "" := by
    unfold ColumnType.keyword
    split <;> decide
  have htype := chunk_spelling (d := d) c.spelling c.type.isUpper_keyword hne
  have hnot : Chunk d.rules (if c.notNull then " NOT NULL" else "").toList
      (if c.notNull then [keywordToken "NOT", keywordToken "NULL"] else []) := by
    split
    · exact (chunk_space (chunk_keyword (k := "NOT") (by decide) (by decide) (by decide))).append
        (chunk_space (chunk_keyword (k := "NULL") (by decide) (by decide) (by decide)))
        fun rest _ => separated_space _ rest
    · exact chunk_nil
  have hseparated : ∀ rest, Separated rest →
      Separated ((if c.notNull then " NOT NULL" else "").toList ++ rest) := by
    intro rest hrest
    split
    · exact separated_cons (by decide)
    · exact hrest
  have hend := (chunk_numbersText c.type.numbers).append hnot hseparated
  have hchunk := ((chunk_quotedName c.name).append (chunk_space htype)
    fun rest _ => separated_space _ rest).append hend fun rest hrest => by
      rw [List.append_assoc]
      exact separated_numbersText _ (hseparated rest hrest)
  simpa [Column.text, Column.tokens, ColumnType.tokens] using hchunk

/-! ## Tables -/

/-- The tokens of an entry. -/
def Entry.tokens (quote : Char) : Entry → List Token
  | .column c => c.tokens quote
  | .key name =>
    [keywordToken "PRIMARY", keywordToken "KEY", .symbol .lparen, .word (.quoted quote name),
      .symbol .rparen]

/-- The tokens of entries between commas. -/
def entryTokens (quote : Char) (es : List Entry) : List Token :=
  [.symbol .comma].intercalate (es.map (Entry.tokens quote))

theorem chunk_entry (e : Entry) :
    Chunk d.rules (e.text d.nameQuote).toList (e.tokens d.nameQuote) := by
  cases e with
  | column c => exact chunk_column c
  | key name =>
    have hprimary := chunk_keyword (d := d) (k := "PRIMARY") (by decide) (by decide) (by decide)
    have hkey := chunk_keyword (d := d) (k := "KEY") (by decide) (by decide) (by decide)
    have hchunk := (hprimary.append (chunk_space hkey) fun rest _ => separated_space _ rest).append
      (chunk_space (chunk_parenthesized (chunk_quotedName name)))
      fun rest _ => separated_space _ rest
    have htext : (Entry.text d.nameQuote (.key name)).toList =
        "PRIMARY".toList ++ ' ' :: "KEY".toList ++
          ' ' :: ('(' :: (quotedName d.nameQuote name).toList ++ [')']) := by
      change ("PRIMARY KEY (" ++ quotedName d.nameQuote name ++ ")").toList = _
      simp only [String.toList_append, List.append_assoc, List.cons_append]
      rfl
    rw [htext]
    exact hchunk

namespace Table

/-- The tokens of the name. -/
def nameTokens (quote : Char) (t : Table) : List Token :=
  ((t.qualifier?.map fun s => [.word (.quoted quote s), .symbol .period]).getD []) ++
    [.word (.quoted quote t.name)]

/-- The tokens of the entries in parentheses. -/
def bodyTokens (quote : Char) (t : Table) : List Token :=
  .symbol .lparen :: entryTokens quote t.entries ++ [.symbol .rparen]

/-- The tokens of a definition. -/
def tokens (quote : Char) (t : Table) : List Token :=
  keywordToken "CREATE" :: keywordToken "TABLE" :: t.nameTokens quote ++ t.bodyTokens quote

theorem chunk_nameText (t : Table) :
    Chunk d.rules (t.nameText d.nameQuote).toList (t.nameTokens d.nameQuote) := by
  unfold nameText nameTokens
  cases t.qualifier? with
  | none => exact chunk_quotedName t.name
  | some s =>
    intro rest ts hrest hlex
    have hname := chunk_quotedName t.name rest ts hrest hlex
    have hdigit : ∀ c ∈ ((quotedName d.nameQuote t.name).toList ++ rest).head?,
        c.isDigit = false := by
      have hquote : d.nameQuote.isDigit = false := by cases d <;> decide
      simpa [quotedName] using hquote
    have hperiod := (steps_period d hdigit).lexes hname
    have hne : ('.' :: ((quotedName d.nameQuote t.name).toList ++ rest)).head? ≠
        some d.nameQuote := by
      have hquote : d.nameQuote ≠ '.' := by cases d <;> decide
      simpa using hquote.symm
    have hqualified := lexes_quotedName s hne hperiod
    simpa using hqualified

/-- The entries in parentheses, before any text. -/
theorem lexes_body (t : Table) (h : Lexes d.rules rest ts) :
    Lexes d.rules
      ('(' :: (", ".intercalate (t.entries.map (Entry.text d.nameQuote))).toList ++ ')' :: rest)
      (t.bodyTokens d.nameQuote ++ ts) := by
  have hentries : Chunk d.rules (", ".intercalate (t.entries.map (Entry.text d.nameQuote))).toList
      (entryTokens d.nameQuote t.entries) := by
    rw [String.toList_intercalate, List.map_map]
    exact Chunk.intercalate (fun _ => separated_cons (by decide))
      (fun _ _ h => lexes_separator (by decide) (lexes_space h)) fun e _ => chunk_entry e
  rw [bodyTokens, List.append_assoc]
  exact lexes_parenthesized hentries h

/-- A definition has its tokens before any text. -/
theorem lexes_text (t : Table) (h : Lexes d.rules rest ts) :
    Lexes d.rules ((t.text d.nameQuote).toList ++ rest) (t.tokens d.nameQuote ++ ts) := by
  have hcreate := chunk_keyword (d := d) (k := "CREATE") (by decide) (by decide) (by decide)
  have htable := chunk_keyword (d := d) (k := "TABLE") (by decide) (by decide) (by decide)
  have hname := (hcreate.append (chunk_space htable) fun rest _ => separated_space _ rest).append
    (chunk_space t.chunk_nameText) fun rest _ => separated_space _ rest
  have htext : (t.text d.nameQuote).toList ++ rest = ("CREATE".toList ++ ' ' :: "TABLE".toList ++
      ' ' :: (t.nameText d.nameQuote).toList) ++
        ' ' :: ('(' :: (", ".intercalate (t.entries.map (Entry.text d.nameQuote))).toList ++
          ')' :: rest) := by
    change ("CREATE TABLE " ++ t.nameText d.nameQuote ++ " (" ++ ", ".intercalate _
      ++ ")").toList ++ rest = _
    simp only [String.toList_append, List.append_assoc, List.cons_append]
    rfl
  have htokens : t.tokens d.nameQuote ++ ts = ([keywordToken "CREATE"] ++ [keywordToken "TABLE"] ++
      t.nameTokens d.nameQuote) ++ (t.bodyTokens d.nameQuote ++ ts) := by
    simp [tokens]
  rw [htext, htokens]
  exact hname _ _ (separated_cons (by decide)) (lexes_space (t.lexes_body h))

end Table

end Canonical

end EntityGen.Sql
