import EntityGen.Proofs.Sql.Reads
import EntityGen.Sql.Statement

/-!
# What no statement begins with

Every statement begins with a keyword of ASCII letters or with a parenthesis. A text whose first
token is a word of other letters is therefore refused at once (`readStatements_of_no_letter`).
-/

namespace EntityGen.Sql.Parser

variable {α β : Type} {cx : Context} {p : Parser α} {before between ts : List Token} {a : α}

protected theorem Reads.refuses {f : α → Parser β} (hp : Reads cx p before a between)
    (hf : Refuses cx (f a) between) : Refuses cx (p >>= f) before := by
  intro ls hls
  obtain ⟨ls₁, hrun₁, hls₁⟩ := hp ls hls
  obtain ⟨e, rest, hrun, hfinal⟩ := hf ls₁ hls₁
  exact ⟨e, rest, by rw [bind_run, hrun₁]; exact hrun, hfinal⟩

theorem refuses_nested {room : Nat} (hroom : cx.room = room + 1)
    (h : Refuses { cx with room } p ts) : Refuses cx (nested p) ts := by
  intro ls hls
  obtain ⟨e, rest, hrun, hfinal⟩ := h ls hls
  exact ⟨e, rest, by simp only [nested, hroom]; exact hrun, hfinal⟩

theorem refuses_expected (wanted : Wanted) : Refuses cx (expected wanted : Parser α) ts :=
  fun ls _ => ⟨.unexpected wanted ls.head?, ls, rfl, rfl⟩

end EntityGen.Sql.Parser

namespace EntityGen.Sql.Grammar

open EntityGen.Sql.Parser

variable {cx : Context} {ts : List Token} {w : Word} {k : String}

def beginsWithLetter (k : String) : Bool := k.toList.head?.any Char.isAlpha

/-- A word that begins with no letter is no keyword. -/
theorem keyword_ne (hw : beginsWithLetter w.keyword = false) (hk : beginsWithLetter k = true) :
    w.keyword ≠ k := by
  rintro rfl
  exact absurd (hk.symm.trans hw) (by decide)

theorem headIs_of_no_letter (hw : beginsWithLetter w.keyword = false)
    (hk : beginsWithLetter k = true) : headIs k (.word w :: ts) = false := by
  simpa [headIs, Token.isKeyword] using keyword_ne hw hk

theorem reads_dialectStatement_false (g : Grammar)
    (h : ∀ k ∈ ["LOCK", "UNLOCK", "REPLACE"], headIs k ts = false) :
    Reads cx (g.dialectStatement cx.rules) ts false ts := by
  simp only [List.forall_mem_cons] at h
  obtain ⟨hlock, hunlock, hreplace, -⟩ := h
  refine (reads_acceptAllKnown_false hlock).bind ((reads_acceptAllKnown_false hunlock).bind ?_)
  refine reads_atKeyword.bind ?_
  rw [hreplace, Bool.and_false]
  exact .pure false _

theorem beginsWithLetter_of_mem {g : Grammar} {r : Rules} {entry : String × Parser Unit}
    (h : entry ∈ g.commonStatements r ++ g.particularStatements r) :
    beginsWithLetter entry.1 = true := by
  have hcommon : (g.commonStatements r).all (beginsWithLetter ·.1) = true := by
    simp only [commonStatements, List.all_cons, List.all_nil]
    decide
  have hparticular : (g.particularStatements r).all (beginsWithLetter ·.1) = true := by
    simp only [particularStatements, List.all_append, Bool.and_eq_true]
    refine ⟨⟨⟨?_, ?_⟩, ?_⟩, ?_⟩ <;> split <;> simp only [List.all_cons, List.all_nil] <;> decide
  exact (List.mem_append.mp h).elim (List.all_eq_true.mp hcommon entry)
    (List.all_eq_true.mp hparticular entry)

theorem statementAfter_of_no_letter (g : Grammar) (r : Rules) (inner : Parser Statement)
    (hw : beginsWithLetter w.keyword = false) : g.statementAfter r inner w.keyword = none := by
  have hne {k : String} (hk : beginsWithLetter k = true) : w.keyword ≠ k := keyword_ne hw hk
  have hlookup : (g.commonStatements r ++ g.particularStatements r).lookup w.keyword = none := by
    rw [List.lookup_eq_none_iff]
    intro entry hentry
    simpa using hne (beginsWithLetter_of_mem hentry)
  unfold statementAfter
  split
  · exact absurd ‹_› (hne (by decide))
  · exact absurd ‹_› (hne (by decide))
  · exact absurd ‹_› (hne (by decide))
  · exact absurd ‹_› (hne (by decide))
  · exact absurd ‹_› (hne (by decide))
  · rw [hlookup, Option.map_none]

theorem refuses_statement (g : Grammar) (depth : Nat) {room : Nat} (hroom : cx.room = room + 1)
    (hw : beginsWithLetter w.keyword = false) :
    Refuses cx (g.statement (depth + 1)) (.word w :: ts) := by
  have hdialect : ∀ k ∈ ["LOCK", "UNLOCK", "REPLACE"], headIs k (.word w :: ts) = false := by
    have hall : ∀ k ∈ ["LOCK", "UNLOCK", "REPLACE"], beginsWithLetter k = true := by decide
    exact fun k hk => headIs_of_no_letter hw (hall k hk)
  have hquery : (List.head? (Token.word w :: ts)).any
      (fun t => ["SELECT", "WITH", "VALUES"].any t.isKeyword) = false := by
    have hall : ∀ k ∈ ["SELECT", "WITH", "VALUES"], beginsWithLetter k = true := by decide
    simp only [List.head?_cons, Option.any_some, List.any_eq_false]
    intro k hk
    simpa [Token.isKeyword] using keyword_ne hw (hall k hk)
  refine refuses_nested hroom (reads_rules.refuses
    ((reads_dialectStatement_false g hdialect).refuses ?_))
  refine reads_atSymbol.refuses (reads_atOneOf.refuses ?_)
  rw [hquery]
  refine reads_peekKeyword.refuses ?_
  rw [statementAfter_of_no_letter g _ _ hw]
  exact refuses_expected .statement

theorem readStatements_of_no_letter (r : Rules) (hw : beginsWithLetter w.keyword = false) :
    ∃ e, readStatements r (.word w :: ts) = .error e := by
  have hdepth : 2 * (Token.word w :: ts).length + 1 = 2 * ts.length + 1 + 2 := by
    rw [List.length_cons]
    omega
  have hrefuses (g : Grammar) :
      Refuses ⟨r, roomForNesting, false⟩ g.statements (.word w :: ts) := by
    refine reads_remaining.refuses ?_
    rw [hdepth]
    refine (reads_acceptSymbol_false (by simp)).refuses (reads_atEnd.refuses ?_)
    exact (refuses_statement g roomForNesting rfl hw).bind
  obtain ⟨e, rest, hrun, -⟩ := hrefuses (Grammar.ofDepth (4 * ((Token.word w :: ts).length + 2)))
    (inOrder _) (map_token_inOrder _)
  exact ⟨e, congrArg Prod.fst hrun⟩

end EntityGen.Sql.Grammar
