import EntityGen.Product

/-!
# What is said of a new file

Two lines name the file, the entity and the number of its fields (`SuccessLines`). Where colors are
shown, three words of them stand in one, and a name that holds the code by which a color ends takes
its own color up again (`InColor`). `successLines_text` says that this is what is printed.
-/

namespace EntityGen

/-- A text in the color of a code, which is given again after each place in the text where a color
ends. -/
def InColor (code text shown : String) : Prop :=
  ∃ parts : List String, text = "\x1b[0m".intercalate parts ∧
    (∀ part ∈ parts, ¬ "\x1b[0m".toList <:+: part.toList) ∧
    shown = code ++ ("\x1b[0m" ++ code).intercalate parts ++ "\x1b[0m"

/-- The two lines that are printed for a new file, with or without colors. -/
inductive SuccessLines (path : String) (e : Entity) : Bool → String → Prop where
  | plain : SuccessLines path e false
      ("✓ Created " ++ path ++ "\n" ++
        "  struct " ++ e.structName ++ " with " ++ toString e.fields.length ++ " fields\n")
  | colored {name : String} (h : InColor "\x1b[36m" e.structName name) : SuccessLines path e true
      ("\x1b[32m✓\x1b[0m \x1b[1mCreated\x1b[0m " ++ path ++ "\n" ++
        "  struct " ++ name ++ " with " ++ toString e.fields.length ++ " fields\n")

namespace Product

theorem intercalate_cons_head (sep : List Char) (c : Char) (part : List Char)
    (parts : List (List Char)) :
    sep.intercalate ((c :: part) :: parts) = c :: sep.intercalate (part :: parts) := by
  cases parts <;> simp

theorem prefix_intercalate (sep part : List Char) (parts : List (List Char)) :
    part <+: sep.intercalate (part :: parts) := by
  cases parts with
  | nil => simp
  | cons next parts => exact ⟨sep ++ sep.intercalate (next :: parts), by simp⟩

/-- A text falls into parts where a color ends inside it, and no part is changed. -/
theorem exists_parts_recolored (color cs : List Char) : ∃ (part : List Char)
    (parts : List (List Char)), cs = resetColor.intercalate (part :: parts) ∧
      (∀ p ∈ part :: parts, ¬ resetColor <:+: p) ∧
      recolored color cs = (resetColor ++ color).intercalate (part :: parts) := by
  fun_induction recolored color cs with
  | case1 =>
    refine ⟨[], [], rfl, List.forall_mem_singleton.mpr ?_, rfl⟩
    simp [resetColor]
  | case2 cs ih =>
    obtain ⟨part, parts, hcs, hparts, hcolored⟩ := ih
    refine ⟨[], part :: parts, ?_, List.forall_mem_cons.mpr ⟨by simp [resetColor], hparts⟩, ?_⟩
    · rw [List.intercalate_cons_cons, ← hcs]
      rfl
    · rw [List.intercalate_cons_cons, ← hcolored, List.nil_append]
  | case3 c cs hreset ih =>
    obtain ⟨part, parts, hcs, hparts, hcolored⟩ := ih
    obtain ⟨hpart, hrest⟩ := List.forall_mem_cons.mp hparts
    refine ⟨c :: part, parts, ?_, List.forall_mem_cons.mpr ⟨fun hinfix => ?_, hrest⟩, ?_⟩
    · rw [intercalate_cons_head, ← hcs]
    · -- The color would end at `c`, and that is the case before.
      rcases List.infix_cons_iff.mp hinfix with hstart | hinside
      · have hstart : resetColor <+: c :: cs :=
          hstart.trans (List.cons_prefix_cons.mpr ⟨rfl, hcs ▸ prefix_intercalate _ part parts⟩)
        obtain ⟨more, hmore⟩ := hstart
        obtain ⟨rfl, rfl⟩ := List.cons.inj hmore.symm
        exact hreset more rfl rfl
      · exact hpart hinside
    · rw [intercalate_cons_head, ← hcolored]

theorem inColor_inColor (code text : String) :
    InColor ("\x1b[" ++ code ++ "m") text (inColor true code text) := by
  obtain ⟨part, parts, htext, hparts, hcolored⟩ :=
    exists_parts_recolored ('\x1b' :: '[' :: code.toList ++ ['m']) text.toList
  refine ⟨(part :: parts).map String.ofList, ?_, ?_, ?_⟩
  · apply String.toList_injective
    rw [htext]
    simp [Function.comp_def, resetColor]
  · simpa [resetColor] using hparts
  · apply String.toList_injective
    simp only [inColor, if_true, String.toList_ofList, hcolored]
    simp [Function.comp_def, resetColor]

/-- What is printed for a new file. -/
theorem successLines_text (path : String) (e : Entity) (colored : Bool) :
    SuccessLines path e colored ((file path e).text colored) := by
  cases colored with
  | false =>
    have hlines : SuccessLines path e false _ := .plain
    simp only [text, inColor]
    simpa [String.append_assoc] using hlines
  | true =>
    have hlines : SuccessLines path e true _ := .colored (inColor_inColor "36" e.structName)
    have hmark : inColor true "32" "✓" = "\x1b[32m✓\x1b[0m" := rfl
    have hword : inColor true "1" "Created" = "\x1b[1mCreated\x1b[0m" := rfl
    simpa [text, hmark, hword, String.append_assoc] using hlines

end Product
end EntityGen
