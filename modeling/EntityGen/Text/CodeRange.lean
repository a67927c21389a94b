/-! Sets of code points given as ascending, disjoint runs. -/

namespace EntityGen.Text

/-- Whether a number lies in one of the runs `(first, last)`. The search stops at the first run
that begins above the number. -/
def inRanges : List (Nat × Nat) → Nat → Bool
  | [], _ => false
  | (first, last) :: rest, n => if n < first then false else n ≤ last || inRanges rest n

theorem inRanges_sound {runs : List (Nat × Nat)} {n : Nat} (h : inRanges runs n = true) :
    ∃ r ∈ runs, r.1 ≤ n ∧ n ≤ r.2 := by
  induction runs with
  | nil => simp [inRanges] at h
  | cons r rest ih =>
    obtain ⟨first, last⟩ := r
    simp only [inRanges] at h
    split at h
    · simp at h
    · rcases Bool.or_eq_true_iff.mp h with h | h
      · exact ⟨(first, last), by simp, by simp; omega, by simpa using h⟩
      · obtain ⟨q, hq, hb⟩ := ih h
        exact ⟨q, by simp [hq], hb⟩

end EntityGen.Text
