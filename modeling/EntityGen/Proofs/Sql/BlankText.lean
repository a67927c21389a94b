import EntityGen.Proofs.Sql.Lexing
import EntityGen.Proofs.Sql.StatementHead

/-!
# Texts of white space

White space beyond ASCII begins a word in some dialects, so a text of white space may have a token.
It is then a word of no letter (`lexFrom_of_blank`), which no statement begins with. So no statement
is made of white space (`readStatements_of_blank`).
-/

namespace EntityGen.Text

/-- The characters that are white space. -/
def blanks : List Char :=
  blankRanges.flatMap fun (first, last) => (List.range' first (last + 1 - first)).map Char.ofNat

theorem mem_blanks {c : Char} (h : isBlank c = true) : c ∈ blanks := by
  obtain ⟨⟨first, last⟩, hrange, hfirst, hlast⟩ := inRanges_sound h
  refine List.mem_flatMap.mpr ⟨_, hrange, List.mem_map.mpr ⟨c.toNat, ?_, Char.ofNat_toNat c⟩⟩
  rw [List.mem_range'_1]
  exact ⟨hfirst, by omega⟩

theorem eq_true_of_blank {p : Char → Bool} {c : Char} (hall : blanks.all p = true)
    (h : isBlank c = true) : p c = true := List.all_eq_true.mp hall c (mem_blanks h)

/-- White space has no capital. -/
theorem upperCase_of_blank {c : Char} (h : isBlank c = true) : upperCase c = [c] :=
  of_decide_eq_true (eq_true_of_blank (p := fun c => upperCase c = [c]) (by decide +kernel) h)

end EntityGen.Text

namespace EntityGen.Sql

open Text (isBlank eq_true_of_blank)

variable {c : Char} {s : Source} {cs : List Char}

theorem isAlpha_of_blank (h : isBlank c = true) : c.isAlpha = false := by
  simpa using eq_true_of_blank (p := (!·.isAlpha)) (by decide) h

theorem not_wordQuotes_of_blank (d : Dialect) (h : isBlank c = true) :
    d.rules.wordQuotes.contains c = false := by
  simpa using eq_true_of_blank (p := (!d.rules.wordQuotes.contains ·)) (by cases d <;> decide) h

/-- The characters that begin something by themselves. -/
def marks : List Char := "bBrRnNxXeEuU0123456789\x27\x22-/#.?@$!".toList

theorem ne_mark_of_blank {d : Char} (h : isBlank c = true) (hd : d ∈ marks) : c ≠ d := by
  rintro rfl
  have hmarks := eq_true_of_blank (p := (!marks.contains ·)) (by decide +kernel) h
  simp [hd] at hmarks

theorem readSymbol_of_blank (r : Rules) (h : isBlank c = true) (hs : s.peek? = some c) :
    readSymbol r s = none := by
  obtain ⟨cs, hrest⟩ := List.head?_eq_some_iff.mp hs
  have hbang : c ≠ '!' := ne_mark_of_blank h (by decide)
  simp [readSymbol, hrest, Symbol.ofText?_eq_none (p := isBlank) (by decide +kernel) h, hbang]

theorem readOther_of_blank (d : Dialect) (h : isBlank c = true) (hs : s.peek? = some c) :
    readOther d.rules c s =
      if d.rules.startsWord c then readWord d.rules [c] s.tail else .ok (none, s.tail) := by
  have hdigit : c.isDigit = false := by
    simpa using eq_true_of_blank (p := (!·.isDigit)) (by decide) h
  have hdouble : c ≠ '\x22' := ne_mark_of_blank h (by decide)
  have hperiod : c ≠ '.' := ne_mark_of_blank h (by decide)
  have hslash : c ≠ '/' := ne_mark_of_blank h (by decide)
  have hquestion : c ≠ '?' := ne_mark_of_blank h (by decide)
  have hsharp : c ≠ '#' := ne_mark_of_blank h (by decide)
  have hat : c ≠ '@' := ne_mark_of_blank h (by decide)
  have hdollar : c ≠ '$' := ne_mark_of_blank h (by decide)
  simp only [readOther, not_wordQuotes_of_blank d h, hdouble, hdigit, hperiod, hslash, hquestion,
    hsharp, hat, readUnmarked, readSymbol_of_blank d.rules h hs, hdollar, h, Bool.false_eq_true,
    if_false, if_true, false_and, or_self, Bool.or_self, decide_false]

/-- At white space the lexer finds a word, if it begins one in the dialect, and else nothing. -/
theorem step_of_blank (d : Dialect) (h : isBlank c = true) (hs : s.peek? = some c) :
    s.step d.rules c =
      if d.rules.startsWord c then readWord d.rules [c] s.tail else .ok (none, s.tail) := by
  have hother := readOther_of_blank d h hs
  have hmark {d : Char} (hd : d ∈ marks) : c ≠ d := ne_mark_of_blank h hd
  have hplain {c : Char} (hc : c ∈ [' ', '\t', '\n', '\r']) : d.rules.startsWord c = false := by
    have hnone : [' ', '\t', '\n', '\r'].all (!d.rules.startsWord ·) = true := by
      cases d <;> decide
    simpa using List.all_eq_true.mp hnone c hc
  unfold Source.step
  split
  · rw [hplain (by decide)]
    rfl
  · rw [hplain (by decide)]
    rfl
  · rw [hplain (by decide)]
    rfl
  · rw [hplain (by decide)]
    rfl
  all_goals first | exact hother | exact absurd rfl (hmark (by decide))

/-- The tokens of white space: none, or a word of no letter in front. -/
theorem lexFrom_of_blank (d : Dialect) {fuel : Nat} {ls : List Located}
    (hblank : ∀ c ∈ s.rest, isBlank c = true) (h : lexFrom d.rules fuel s = .ok ls) :
    ls = [] ∨ ∃ w ts, ls.map (·.token) = .word w :: ts ∧
      Grammar.beginsWithLetter w.keyword = false := by
  induction fuel generalizing s ls with
  | zero =>
    cases h
    exact .inl rfl
  | succ fuel ih =>
    obtain ⟨_ | ⟨c, cs⟩, pos⟩ := s
    · rw [lexFrom_nil rfl] at h
      cases h
      exact .inl rfl
    obtain ⟨hc, hcs⟩ := List.forall_mem_cons.mp hblank
    obtain ⟨t?, s', later, hstep, hlater, rfl⟩ := lexFrom_eq_ok (c := c) rfl h
    rw [step_of_blank (s := ⟨c :: cs, pos⟩) d hc rfl] at hstep
    split at hstep
    · cases hstep
      refine .inr ⟨_, _, rfl, ?_⟩
      simp [Grammar.beginsWithLetter, Word.plain, Text.upperCaseText, Text.upperCase_of_blank hc,
        isAlpha_of_blank hc]
    · cases hstep
      exact ih hcs hlater

/-- White space makes no statement. -/
theorem readStatements_of_blank (d : Dialect) {text : List Char} {ls : List Located}
    {statements : List Statement} (hblank : ∀ c ∈ text, isBlank c = true)
    (hlex : lex d.rules text = .ok ls)
    (hread : readStatements d.rules (ls.map (·.token)) = .ok statements) : statements = [] := by
  rcases lexFrom_of_blank d (s := .ofText text) hblank hlex with rfl | ⟨w, ts, hls, hw⟩
  · cases hread
    rfl
  · obtain ⟨e, he⟩ : ∃ e, readStatements d.rules (.word w :: ts) = .error e :=
      Grammar.readStatements_of_no_letter d.rules hw
    rw [hls, he] at hread
    cases hread

end EntityGen.Sql
