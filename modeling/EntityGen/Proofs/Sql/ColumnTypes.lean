import EntityGen.Proofs.Sql.Canonical
import EntityGen.Proofs.Sql.Gives
import EntityGen.Proofs.Sql.LeadingWord
import EntityGen.Proofs.Sql.Reads
import EntityGen.Proofs.Sql.Words
import EntityGen.Sql.Statement

/-!
# The types that columns are read with

A type is read off a built-in keyword, and what it is written with first is a word that is tagged as
the listing says (`gives_builtIn`), or it is named by the user. Such a name is none of the listed
keywords, as these are all built in, so it is tagged as a listed type only where it is cut to a
listed word (`makesListed_custom`). Only brackets can follow either, so every column has a type
whose element makes the field that is listed for it (`gives_column`).
-/

namespace EntityGen.Sql

/-! ## Keywords of built-in types -/

/-- The words that built-in types without a field of their own are written with first. -/
def unlistedWords : List String :=
  ["DOUBLE", "DOUBLE PRECISION", "CHARACTER", "CHARACTER VARYING", "CHAR", "CHAR VARYING",
   "DateTime64", "FixedString", "ENUM", "SET", "ARRAY", "STRUCT", "UNION", "Nullable",
   "LowCardinality", "Map", "Nested", "Tuple", ""]
  ++ characterTypes ++ exactTypes ++ bareTypes.map (·.2)

/-- The words that built-in types with a size are written with first. -/
def sizedWords : List String := sizedTypes ++ ["CHARACTER LARGE OBJECT", "CHAR LARGE OBJECT"]

theorem ofTag_of_unlisted {word : String} (h : word ∈ unlistedWords) :
    FieldType.ofTag (typeTag word.toList) = .string := by
  have hall : (unlistedWords.all fun w => FieldType.ofTag (typeTag w.toList) = .string) = true :=
    rfl
  exact of_decide_eq_true (List.all_eq_true.mp hall word h)

namespace DataType

variable {keyword : String}

/-- A built-in type that is not listed makes text. -/
theorem makesListed_of_unlisted {t : DataType} (h : t.leading ∈ unlistedWords)
    (hlisted : t.listedField = .string) (helement : t.element = t) : t.MakesListed :=
  makesListed_of_leading helement rfl hlisted (ofTag_of_unlisted h)

theorem makesListed_missing : missing.MakesListed :=
  makesListed_of_unlisted (by simp [leading, unlistedWords]) rfl rfl

theorem makesListed_integer (h : keyword ∈ integerTypes) (width : Option Nat) (unsigned : Bool) :
    (integer keyword width unsigned).MakesListed := by
  have hall : ∀ k ∈ integerTypes, FieldType.ofTag (typeTag k.toList) =
      if k ∈ ["TINYINT", "SMALLINT", "INT", "INTEGER"] then .i32 else .string := by
    decide
  exact makesListed_of_leading rfl rfl rfl (hall keyword h)

theorem makesListed_sized (h : keyword ∈ sizedWords) (size : Option Nat) :
    (sized keyword size).MakesListed := by
  have hall : ∀ k ∈ sizedWords, FieldType.ofTag (typeTag k.toList) =
      if k = "DATETIME" then .dateTime else .string := by
    decide
  exact makesListed_of_leading rfl rfl rfl (hall keyword h)

theorem makesListed_temporal (h : keyword ∈ ["TIMESTAMP", "TIME"]) (precision : Option Nat)
    (zone : ZoneClause) : (temporal keyword precision zone).MakesListed := by
  have hall : ∀ k ∈ ["TIMESTAMP", "TIME"], FieldType.ofTag (typeTag (k ++ "TZ").toList) = .string ∧
      FieldType.ofTag (typeTag k.toList) = if k = "TIMESTAMP" then .dateTime else .string := by
    decide
  obtain ⟨hsuffixed, hplain⟩ := hall keyword h
  by_cases hzone : zone = .suffixed
  · exact makesListed_of_leading rfl (by simp [leading, hzone]) (by simp [listedField, hzone])
      hsuffixed
  · exact makesListed_of_leading rfl (by simp [leading, hzone]) (by simp [listedField, hzone])
      hplain

end DataType

namespace Grammar

open DataType EntityGen.Sql.Parser

variable {T : Token → Prop} {g : Grammar} {r : Rules} {keyword : String} {start : Option Pos}
  {p : Parser (DataType × Bool)}

theorem gives_specialType (h : g.specialType keyword = some p) : Gives T p (·.1.MakesListed) := by
  unfold specialType at h
  split at h
  · cases h
    refine .seq fun precise => ?_
    split <;> exact .pure (makesListed_of_unlisted (by simp [leading, unlistedWords]) rfl rfl)
  iterate 2
    · cases h
      refine .seq fun varying => ?_
      split
      · refine .seq fun length => .pure ?_
        exact makesListed_of_unlisted (by simp [leading, unlistedWords]) rfl rfl
      refine .seq fun large => ?_
      split
      · exact .seq fun size => .pure (makesListed_sized (by simp [sizedWords]) size)
      · refine .seq fun length => .pure ?_
        exact makesListed_of_unlisted (by simp [leading, unlistedWords]) rfl rfl
  iterate 2
    · cases h
      exact .seq fun precision => .seq fun zone => .pure (makesListed_temporal (by simp) _ zone)
  iterate 2
    · cases h
      exact .seq fun precision => .pure (makesListed_temporal (by simp) precision _)
  · cases h
    refine .seq fun _ => .seq fun precision => .seq fun zoned => ?_
    have hmakes (zone : Option String) : (dateTime64 precision zone).MakesListed :=
      makesListed_of_unlisted (by simp [leading, unlistedWords]) rfl rfl
    dsimp only
    split <;> exact .seq fun zone => .seq fun _ => .pure (hmakes zone)
  iterate 3
    · cases h
      refine .seq fun argument => .pure ?_
      exact makesListed_of_unlisted (by simp [leading, unlistedWords]) rfl rfl
  · cases h
    refine .seq fun _ => .seq fun element => .seq fun stray => .pure ?_
    exact makesListed_of_unlisted (by simp [leading, unlistedWords]) rfl rfl
  · cases h

theorem gives_builtType (h : g.builtType keyword start = some p) :
    Gives T p (·.1.MakesListed) := by
  unfold builtType at h
  split at h
  iterate 4
    · cases h
      refine .seq fun argument => .pure ?_
      exact makesListed_of_unlisted (by simp [leading, unlistedWords]) rfl rfl
  · cases h
    refine .seq fun _ => .seq fun key => .seq fun _ => .seq fun value => .seq fun _ => .pure ?_
    exact makesListed_of_unlisted (by simp [leading, unlistedWords]) rfl rfl
  iterate 2
    · cases h
      refine .seq fun fields => .pure ?_
      exact makesListed_of_unlisted (by simp [leading, unlistedWords]) rfl rfl
  · cases h

theorem gives_builtIn (h : g.builtIn r keyword start = some p) : Gives T p (·.1.MakesListed) := by
  unfold builtIn at h
  split at h
  · rename_i hk
    cases h
    exact .seq fun width => .seq fun unsigned => .pure (makesListed_integer hk width unsigned)
  split at h
  · rename_i hk
    cases h
    have hword : keyword ∈ unlistedWords := by simp [unlistedWords, hk]
    exact .seq fun length => .pure (makesListed_of_unlisted hword rfl rfl)
  split at h
  · rename_i hk
    cases h
    exact .seq fun size => .pure (makesListed_sized (List.mem_append_left _ hk) size)
  split at h
  · rename_i hk
    cases h
    have hword : keyword ∈ unlistedWords := by simp [unlistedWords, hk]
    exact .seq fun digits => .pure (makesListed_of_unlisted hword rfl rfl)
  split at h
  · rename_i text hfind
    cases h
    have htext : text ∈ bareTypes.map (·.2) :=
      List.mem_map_of_mem (List.mem_of_find?_eq_some hfind)
    exact .pure (makesListed_of_unlisted (List.mem_append_right _ htext) rfl rfl)
  split at h
  · rename_i hspecial
    cases h
    exact gives_specialType hspecial
  split at h
  · exact gives_builtType h
  · cases h

/-! ## Types of the user's -/

/-- The keywords whose types are listed are all built in. -/
theorem builtIn_ne_none (h : keyword ∈
    ["TINYINT", "SMALLINT", "INT", "INTEGER", "DATETIME", "TIMESTAMP"]) :
    g.builtIn r keyword start ≠ none := by
  simp only [List.mem_cons, List.not_mem_nil, or_false] at h
  rcases h with rfl | rfl | rfl | rfl | rfl | rfl <;> exact Option.some_ne_none _

theorem toUpper_comp_toLower : Char.toUpper ∘ Char.toLower = Char.toUpper :=
  funext Text.toUpper_toLower

/-- A name whose letters in lower case are a listed word spells a keyword. -/
theorem keyword_of_listed {value : String}
    (h : String.ofList (value.toList.map Char.toLower) ∈ listedWords) :
    (Word.plain value).keyword ∈
      ["TINYINT", "SMALLINT", "INT", "INTEGER", "DATETIME", "TIMESTAMP"] := by
  have hall : ∀ s ∈ listedWords,
      ∃ k ∈ ["TINYINT", "SMALLINT", "INT", "INTEGER", "DATETIME", "TIMESTAMP"],
        s.toList.map Char.toUpper = k.toList ∧ k.toList.all Char.isUpper = true := by
    decide
  obtain ⟨k, hk, hspelled, hupper⟩ := hall _ h
  have hspells : value.toList.map Char.toUpper = k.toList := by
    simpa [toUpper_comp_toLower] using hspelled
  have hplain : Word.plain value = ⟨value, none, k⟩ :=
    Canonical.Spelling.plain_eq ⟨value, hspells⟩ hupper
  rwa [hplain]

theorem listed_of_tag {written : List Char} (h : FieldType.ofTag (typeTag written) ≠ .string) :
    String.ofList ((written.takeWhile Text.isWordChar).map Char.toLower) ∈ listedWords := by
  refine Decidable.byContradiction fun hnone => h ?_
  simp only [listedWords, List.mem_cons, List.not_mem_nil, or_false, not_or] at hnone
  simp [typeTag, FieldType.ofTag, hnone]

/-- A name that is tagged as a listed type spells a keyword of one, or it is cut to a listed word. -/
theorem keyword_or_cut_of_tag {value : String}
    (h : FieldType.ofTag (typeTag value.toList) ≠ .string) :
    (Word.plain value).keyword ∈
        ["TINYINT", "SMALLINT", "INT", "INTEGER", "DATETIME", "TIMESTAMP"] ∨
      Name.CutsListedWord ⟨value, none⟩ := by
  have hlisted := listed_of_tag h
  have hvalue := List.takeWhile_append_dropWhile (p := Text.isWordChar) (l := value.toList)
  have hcut := List.head?_dropWhile_not Text.isWordChar value.toList
  cases hrest : value.toList.dropWhile Text.isWordChar with
  | nil =>
    rw [hrest, List.append_nil] at hvalue
    exact .inl (keyword_of_listed (hvalue ▸ hlisted))
  | cons c more =>
    rw [hrest] at hvalue hcut
    exact .inr ⟨rfl, _, c, more, hvalue.symm, hlisted, hcut⟩

theorem Name.endsWord_quoted (quote : Char) (value : String)
    (h : Text.isWordChar quote = false) : EndsWord (Name.text ⟨value, some quote⟩).toList := by
  unfold Name.text
  split
  · rename_i hnone
    cases hnone
  · rw [String.append_assoc]
    exact endsWord_mark rfl rfl
  · rename_i hsome
    cases hsome
    rw [quotedText, String.append_assoc]
    have hmark : quote.toString.toList = [quote] := by simp
    exact endsWord_mark hmark h

theorem makesListed_custom {w : Word} (hw : w.Regular) (h : g.builtIn r w.keyword start = none)
    (rest : DottedName) (modifiers : List String) :
    (custom (⟨w.value, w.quote⟩ :: rest) modifiers).MakesListed := by
  refine ⟨rfl, fun hcut => ?_⟩
  rw [fieldType_eq]
  cases hw with
  | quoted quote value hquote =>
    have htag : typeTag (Name.text ⟨value, some quote⟩).toList = "" :=
      typeTag_of_endsWord (Name.endsWord_quoted quote value hquote)
    exact congrArg FieldType.ofTag htag
  | plain value =>
    have hfield : FieldType.ofTag (typeTag value.toList) = .string := by
      refine Decidable.byContradiction fun hfield => ?_
      rcases keyword_or_cut_of_tag hfield with hkeyword | hcutHere
      · exact builtIn_ne_none hkeyword h
      · exact hcut hcutHere
    exact hfield

/-- A type of the user's is named by the word that comes next. -/
theorem customType_word {cx : Context} {l : Located} {ts rest : List Located} {w : Word}
    {found : DataType × Bool} (hl : l.token = .word w)
    (h : customType cx (l :: ts) = (.ok found, rest)) :
    ∃ others modifiers, found.1 = .custom (⟨w.value, w.quote⟩ :: others) modifiers := by
  obtain ⟨name, _, hname, h⟩ := bind_eq_ok h
  obtain ⟨modifiers, _, -, h⟩ := bind_eq_ok h
  cases h
  obtain ⟨first, _, hfirst, hname⟩ := bind_eq_ok hname
  obtain ⟨others, _, -, hname⟩ := bind_eq_ok hname
  cases hname
  have hread : Reads cx identifier (.word w :: ts.map (·.token)) ⟨w.value, w.quote⟩
      (ts.map (·.token)) := reads_identifier w
  obtain ⟨_, hrun, -⟩ := hread (l :: ts) (by simp [hl])
  rw [hrun] at hfirst
  cases hfirst
  exact ⟨others, modifiers, rfl⟩

theorem gives_plainType : Gives Token.Regular g.plainType (·.1.MakesListed) := by
  intro cx ts found rest hts hrun
  rcases ts with _ | ⟨l, ts⟩
  · cases hrun
  have hregular : l.token.Regular := hts l (List.mem_cons_self ..)
  have hpeek : peekToken cx (l :: ts) = (.ok (some l.token), l :: ts) := rfl
  obtain ⟨start, _, hposition, hrun⟩ := bind_eq_ok hrun
  cases hposition
  rw [bind_run, hpeek] at hrun
  dsimp only at hrun
  split at hrun
  · rename_i w hw
    have hl : l.token = .word w := Option.some.inj hw
    rw [hl] at hregular
    obtain ⟨r, _, hrules, hrun⟩ := bind_eq_ok hrun
    cases hrules
    split at hrun
    · rename_i p hbuilt
      have hnext : Gives Token.Regular (next >>= fun _ => p) (·.1.MakesListed) :=
        .seq fun _ => gives_builtIn hbuilt
      exact hnext hts hrun
    · rename_i hcustom
      obtain ⟨others, modifiers, hfound⟩ := customType_word hl hrun
      rw [hfound]
      exact makesListed_custom hregular hcustom others modifiers
  · have hexpected : Gives Token.Regular (expected .dataTypeName) fun found : DataType × Bool =>
        found.1.MakesListed := .expected
    exact hexpected hts hrun

/-! ## Columns -/

theorem element_foldl (sizes : List (Option Nat)) (t : DataType) :
    (sizes.foldl .bracketedArray t).element = t.element := by
  induction sizes generalizing t with
  | nil => rfl
  | cons size sizes ih => exact ih (.bracketedArray t size)

theorem gives_readType : Gives Token.Regular g.readType (·.1.element.MakesListed) := by
  refine gives_plainType.bind fun found hfound => .seq fun sizes => .pure ?_
  rw [element_foldl, hfound.1]
  exact hfound

theorem gives_balancedType (h : Gives Token.Regular g.dataType (·.1.element.MakesListed)) :
    Gives Token.Regular g.balancedType (·.element.MakesListed) := by
  refine h.bind fun found hfound => ?_
  dsimp only
  split
  · exact .seq fun _ => .fail
  · exact .pure hfound

theorem gives_columnType (h : Gives Token.Regular g.dataType (·.1.element.MakesListed)) :
    Gives Token.Regular g.columnType (·.element.MakesListed) := by
  have hjoin (missing : Bool) : Gives Token.Regular
      (if missing then pure .missing else g.balancedType) (·.element.MakesListed) := by
    split
    · exact .pure makesListed_missing
    · exact gives_balancedType h
  refine .seq fun r => ?_
  dsimp only
  split
  · refine .seq fun t => ?_
    split <;> exact .seq hjoin
  · exact .seq hjoin

theorem gives_readColumn (h : Gives Token.Regular g.dataType (·.1.element.MakesListed)) :
    Gives Token.Regular g.readColumn (·.type.element.MakesListed) := by
  refine .seq fun name => (gives_columnType h).bind fun type htype => ?_
  exact .seq fun collation => .seq fun options => .pure htype

/-- Whatever stands in a text, the grammar reads columns whose types make the fields listed for
them. -/
theorem gives_column (depth : Nat) :
    Gives Token.Regular (Grammar.ofDepth depth).column (·.type.element.MakesListed) := by
  have hdataType (n : Nat) :
      Gives Token.Regular (Grammar.ofDepth n).dataType (·.1.element.MakesListed) := by
    cases n with
    | zero => exact .fail
    | succ n => exact gives_readType
  cases depth with
  | zero => exact .fail
  | succ n => exact gives_readColumn (hdataType n)

end Grammar

end EntityGen.Sql
