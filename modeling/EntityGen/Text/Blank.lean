import EntityGen.Text.CodeRange

/-! White space as Unicode's property `White_Space` has it, and texts without it at their ends.
`trim_prepend_blank` says that blanks added before a text do not show in its trimmed form. -/

namespace EntityGen.Text

/-- The runs of `White_Space` code points. -/
def blankRanges : List (Nat × Nat) :=
  [(0x09, 0x0D), (0x20, 0x20), (0x85, 0x85), (0xA0, 0xA0), (0x1680, 0x1680), (0x2000, 0x200A),
   (0x2028, 0x2029), (0x202F, 0x202F), (0x205F, 0x205F), (0x3000, 0x3000)]

/-- Whether a character is white space. -/
def isBlank (c : Char) : Bool := inRanges blankRanges c.toNat

/-- A text without the white space at its two ends. -/
def trim (cs : List Char) : List Char :=
  ((cs.dropWhile isBlank).reverse.dropWhile isBlank).reverse

theorem isBlank_of_isWhitespace {c : Char} (h : c.isWhitespace = true) : isBlank c = true := by
  simp only [Char.isWhitespace, Bool.or_eq_true, decide_eq_true_eq] at h
  rcases h with ((rfl | rfl) | rfl) | rfl <;> decide

theorem dropWhile_append_of_all {p : Char → Bool} {xs ys : List Char} (h : ∀ c ∈ xs, p c = true) :
    (xs ++ ys).dropWhile p = ys.dropWhile p := by
  induction xs with
  | nil => rfl
  | cons x xs ih =>
    simp only [List.mem_cons, forall_eq_or_imp] at h
    simp [h.1, ih h.2]

theorem trim_prepend_blank {xs ys : List Char} (h : ∀ c ∈ xs, isBlank c = true) :
    trim (xs ++ ys) = trim ys := by
  simp [trim, dropWhile_append_of_all h]

end EntityGen.Text
