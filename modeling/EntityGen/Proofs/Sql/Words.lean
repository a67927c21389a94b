import EntityGen.Sql.Lexer
import EntityGen.Text.WordChar

/-!
# The words of a text

What a reader of the lexer finds is a token (`FindsToken`), and every word among the tokens of a
text is made in one of two ways (`regular_of_lex`): it is plain, with its keyword told from its
text, or it stands between quotes that are no characters of plain words.
-/

namespace EntityGen.Sql

variable {d : Dialect} {r : Rules} {c quote : Char} {cs : List Char} {s s' : Source} {t : Token}
  {t? : Option Token}

/-- The words that the lexer makes. -/
inductive Word.Regular : Word → Prop where
  | plain (value : String) : Regular (.plain value)
  | quoted (quote : Char) (value : String) (h : Text.isWordChar quote = false) :
      Regular (.quoted quote value)

/-- A token is a word that the lexer makes, or no word. -/
def Token.Regular : Token → Prop
  | .word w => w.Regular
  | _ => True

theorem regular_plain (value : String) : (Token.word (.plain value)).Regular := .plain value

theorem regular_of_readSymbol (h : readSymbol r s = some (t, s')) : t.Regular := by
  unfold readSymbol at h
  split at h
  · cases h
    trivial
  · obtain ⟨⟨spelling, symbol⟩, -, h⟩ := Option.map_eq_some_iff.mp h
    dsimp only at h
    split at h <;> cases h <;> trivial

theorem Dialect.isWordChar_of_mem_wordQuotes (d : Dialect) (h : quote ∈ d.rules.wordQuotes) :
    Text.isWordChar quote = false := by
  have hall : d.rules.wordQuotes.all (!Text.isWordChar ·) = true := by
    cases d <;> decide
  simpa using List.all_eq_true.mp hall quote h

/-! ## Readers of tokens -/

/-- A reader finds a token whenever it does not fail. -/
def FindsToken (found : Step) : Prop :=
  ∀ t? s', found = .ok (t?, s') → ∃ t, t? = some t ∧ t.Regular

theorem FindsToken.ne_none {found : Step} (h : FindsToken found) : found ≠ .ok (none, s') := by
  intro hnone
  obtain ⟨t, ht, -⟩ := h none s' hnone
  cases ht

theorem FindsToken.regular {found : Step} (h : FindsToken found)
    (hfound : found = .ok (some t, s')) : t.Regular := by
  obtain ⟨t', ht, hregular⟩ := h _ _ hfound
  exact Option.some.inj ht ▸ hregular

theorem findsToken_found (h : t.Regular) : FindsToken (found t s) := by
  intro t? s' hfound
  cases hfound
  exact ⟨t, rfl, h⟩

theorem findsToken_error {e : LexicalFault × Pos} : FindsToken (.error e) := nofun

theorem findsToken_readQuotedWord (h : Text.isWordChar quote = false) :
    FindsToken (readQuotedWord quote s) := by
  rw [readQuotedWord]
  split
  · exact findsToken_found (.quoted quote _ h)
  · exact findsToken_error

theorem findsToken_readString {kind : Literal} {escapes : Bool} :
    FindsToken (readString kind quote escapes s) := by
  rw [readString]
  split
  · exact findsToken_found trivial
  · exact findsToken_error

theorem findsToken_readNumber : FindsToken (readNumber r s) := by
  simp only [readNumber, endNumber]
  split
  · exact findsToken_found trivial
  split
  · exact findsToken_found trivial
  split
  · exact findsToken_found trivial
  · exact findsToken_found (regular_plain _)

theorem findsToken_readQuestion : FindsToken (readQuestion r s) := by
  rw [readQuestion]
  split
  · split <;> exact findsToken_found trivial
  · exact findsToken_found trivial

theorem findsToken_readMark : FindsToken (readMark r c s) := by
  rw [readMark]
  split
  · rename_i h
    exact findsToken_found (regular_of_readSymbol h)
  · exact findsToken_found trivial

theorem findsToken_readWord {first : List Char} : FindsToken (readWord r first s) :=
  findsToken_found (regular_plain _)

theorem findsToken_readSigned : FindsToken (readSigned r c s) := by
  rw [readSigned]
  split
  · split
    · exact findsToken_readWord
    · exact findsToken_readMark
  · exact findsToken_readMark

theorem findsToken_readDollar : FindsToken (readDollar s) := by
  simp only [readDollar]
  split
  · split
    · exact findsToken_found trivial
    · exact findsToken_error
  split
  · split
    · exact findsToken_found trivial
    · exact findsToken_error
  · exact findsToken_found trivial

theorem findsToken_readRaw : FindsToken (readRaw quote s) := by
  have hsingle : FindsToken (readRaw.single quote s) := by
    rw [readRaw.single]
    split
    · exact findsToken_found trivial
    · exact findsToken_error
  rw [readRaw]
  split
  · split
    · split
      · dsimp only
        split
        · exact findsToken_found trivial
        · exact findsToken_error
      · exact findsToken_found trivial
    · exact hsingle
  · split
    · exact findsToken_found trivial
    · exact hsingle
  · exact hsingle

theorem findsToken_readByteString : FindsToken (readByteString r c s) := by
  rw [readByteString]
  split
  · exact findsToken_readString
  · exact findsToken_readWord

theorem findsToken_readRawString : FindsToken (readRawString r c s) := by
  rw [readRawString]
  split
  · exact findsToken_readRaw
  · exact findsToken_readWord

theorem findsToken_readMarkedString {kind : Literal} :
    FindsToken (readMarkedString kind r c s) := by
  rw [readMarkedString]
  split
  · exact findsToken_readString
  · exact findsToken_readWord

theorem findsToken_readEscapedString : FindsToken (readEscapedString r c s) := by
  rw [readEscapedString]
  split
  · split
    · exact findsToken_found trivial
    · exact findsToken_error
  · exact findsToken_readWord

theorem findsToken_readUnicodeString : FindsToken (readUnicodeString r c s) := by
  rw [readUnicodeString]
  split
  · split
    · exact findsToken_found trivial
    · exact findsToken_error
  · exact findsToken_readWord

/-- What begins with none of the special characters is a token or a single blank. -/
theorem readOther_eq_ok (h : readOther d.rules c s = .ok (t?, s')) :
    (∃ t, t? = some t ∧ t.Regular) ∨ t? = none ∧ Text.isBlank c = true ∧ s' = s.tail := by
  rw [readOther] at h
  split at h
  · rename_i hquote
    have hword : Text.isWordChar c = false :=
      d.isWordChar_of_mem_wordQuotes (List.contains_iff_mem.mp hquote)
    exact .inl (findsToken_readQuotedWord hword _ _ h)
  split at h
  · exact .inl (findsToken_readString _ _ h)
  split at h
  · exact .inl (findsToken_readNumber _ _ h)
  split at h
  · cases h
    exact .inl ⟨_, rfl, trivial⟩
  split at h
  · exact .inl (findsToken_readQuestion _ _ h)
  split at h
  · exact .inl (findsToken_readSigned _ _ h)
  rw [readUnmarked] at h
  split at h
  · rename_i hsymbol
    exact .inl (findsToken_found (regular_of_readSymbol hsymbol) _ _ h)
  split at h
  · exact .inl (findsToken_readWord _ _ h)
  split at h
  · exact .inl (findsToken_readDollar _ _ h)
  split at h
  · rename_i hblank
    cases h
    exact .inr ⟨rfl, hblank, rfl⟩
  · cases h
    exact .inl ⟨_, rfl, trivial⟩

theorem regular_of_readOther (h : readOther d.rules c s = .ok (some t, s')) : t.Regular := by
  obtain ⟨t', ht, hregular⟩ | ⟨hnone, -⟩ := readOther_eq_ok h
  · exact Option.some.inj ht ▸ hregular
  · cases hnone

/-! ## Whole texts -/

theorem regular_of_step (h : s.step d.rules c = .ok (some t, s')) : t.Regular := by
  unfold Source.step at h
  split at h
  iterate 4 · cases h
  iterate 2 · exact findsToken_readByteString.regular h
  iterate 2 · exact findsToken_readRawString.regular h
  iterate 4 · exact findsToken_readMarkedString.regular h
  iterate 2 · exact findsToken_readEscapedString.regular h
  iterate 2 · exact findsToken_readUnicodeString.regular h
  · exact findsToken_readString.regular h
  -- a comment is no token
  · split at h
    · cases h
    · exact regular_of_readOther h
  · split at h
    · dsimp only at h
      split at h <;> cases h
    · exact regular_of_readOther h
  · split at h
    · cases h
    · exact regular_of_readOther h
  · exact regular_of_readOther h

theorem regular_of_lexFrom {fuel : Nat} {ls : List Located} (h : lexFrom d.rules fuel s = .ok ls) :
    ∀ l ∈ ls, l.token.Regular := by
  induction fuel generalizing s ls with
  | zero =>
    cases h
    exact fun _ hl => nomatch hl
  | succ fuel ih =>
    obtain ⟨_ | ⟨c, cs⟩, pos⟩ := s
    · cases h
      exact fun _ hl => nomatch hl
    obtain ⟨t?, s', later, hstep, hlater, rfl⟩ := lexFrom_eq_ok (c := c) rfl h
    intro l hl
    rcases List.mem_append.mp hl with hl | hl
    · obtain ⟨t, rfl, rfl⟩ : ∃ t, t? = some t ∧ l = ⟨t, pos⟩ := by
        cases t? with
        | none => cases hl
        | some t => exact ⟨t, rfl, List.mem_singleton.mp hl⟩
      exact regular_of_step hstep
    · exact ih hlater l hl

/-- Every word of a text is plain or between quotes. -/
theorem regular_of_lex {ls : List Located} (h : lex d.rules cs = .ok ls) :
    ∀ l ∈ ls, l.token.Regular := regular_of_lexFrom h

end EntityGen.Sql
