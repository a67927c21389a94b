import EntityGen.Text.WordChar

/-!
# Characters of ASCII

Letters, digits and word characters by their code points, and what becomes of them in upper case and
in lower case.
-/

namespace EntityGen.Text

variable {c : Char}

theorem isUpper_iff_toNat : c.isUpper = true ↔ 65 ≤ c.toNat ∧ c.toNat ≤ 90 := decide_eq_true_iff

theorem isLower_iff_toNat : c.isLower = true ↔ 97 ≤ c.toNat ∧ c.toNat ≤ 122 :=
  Bool.and_eq_true_iff.trans (and_congr decide_eq_true_iff decide_eq_true_iff)

theorem isDigit_iff_toNat : c.isDigit = true ↔ 48 ≤ c.toNat ∧ c.toNat ≤ 57 := by
  rw [Char.isDigit, Bool.and_eq_true, decide_eq_true_eq, decide_eq_true_eq]
  rfl

theorem isAlpha_iff_toNat : c.isAlpha = true ↔
    (65 ≤ c.toNat ∧ c.toNat ≤ 90) ∨ (97 ≤ c.toNat ∧ c.toNat ≤ 122) :=
  Bool.or_eq_true_iff.trans (or_congr isUpper_iff_toNat isLower_iff_toNat)

theorem toNat_lt_of_isAlpha (h : c.isAlpha = true) : c.toNat < 0x80 := by
  have := isAlpha_iff_toNat.mp h
  omega

theorem isDigit_eq_false_of_isAlpha (h : c.isAlpha = true) : c.isDigit = false := by
  refine Bool.eq_false_iff.mpr fun hdigit => ?_
  have hbounds := isDigit_iff_toNat.mp hdigit
  have := isAlpha_iff_toNat.mp h
  omega

theorem isWordChar_iff : isWordChar c = true ↔ c.isAlpha = true ∨ c.isDigit = true ∨ c = '_' := by
  rw [isWordChar, Char.isAlphanum, Bool.or_eq_true, Bool.or_eq_true, beq_iff_eq, or_assoc]

theorem isWordChar_iff_toNat : isWordChar c = true ↔
    ((65 ≤ c.toNat ∧ c.toNat ≤ 90) ∨ (97 ≤ c.toNat ∧ c.toNat ≤ 122)) ∨
      (48 ≤ c.toNat ∧ c.toNat ≤ 57) ∨ c.toNat = 95 := by
  have hmark : c = '_' ↔ c.toNat = 95 := Char.toNat_inj.symm
  rw [isWordChar_iff, isAlpha_iff_toNat, isDigit_iff_toNat, hmark]

theorem toNat_lt_of_isWordChar (h : isWordChar c = true) : c.toNat < 0x80 := by
  have := isWordChar_iff_toNat.mp h
  omega

/-! ## Upper case and lower case -/

theorem toNat_toUpper (c : Char) :
    c.toUpper.toNat = if 97 ≤ c.toNat ∧ c.toNat ≤ 122 then c.toNat - 32 else c.toNat := by
  unfold Char.toUpper
  split
  · rename_i h
    have hbounds : 97 ≤ c.toNat ∧ c.toNat ≤ 122 := h
    have hwrapped : (c.val + ('A'.val - 'a'.val)).toNat = (c.toNat + (2 ^ 32 - 32)) % 2 ^ 32 :=
      UInt32.toNat_add ..
    rw [if_pos hbounds]
    exact hwrapped.trans (by omega)
  · rename_i h
    exact (if_neg h).symm

theorem toNat_toLower (c : Char) :
    c.toLower.toNat = if 65 ≤ c.toNat ∧ c.toNat ≤ 90 then c.toNat + 32 else c.toNat := by
  unfold Char.toLower
  split
  · rename_i h
    have hbounds : 65 ≤ c.toNat ∧ c.toNat ≤ 90 := h
    have hwrapped : (c.val + ('a'.val - 'A'.val)).toNat = (c.toNat + 32) % 2 ^ 32 :=
      UInt32.toNat_add ..
    rw [if_pos hbounds]
    exact hwrapped.trans (by omega)
  · rename_i h
    exact (if_neg h).symm

theorem toUpper_toLower (c : Char) : c.toLower.toUpper = c.toUpper := by
  refine Char.toNat_inj.mp ?_
  grind [toNat_toUpper, toNat_toLower]

theorem toUpper_eq_or_isUpper (c : Char) : c.toUpper = c ∨ c.toUpper.isUpper = true := by
  rw [← Char.toNat_inj, isUpper_iff_toNat, toNat_toUpper]
  split <;> omega

theorem toUpper_eq_self (h : c.isUpper = true) : c.toUpper = c := by
  have hbounds := isUpper_iff_toNat.mp h
  refine Char.toNat_inj.mp ?_
  rw [toNat_toUpper, if_neg (by omega)]

theorem toUpper_toUpper (c : Char) : c.toUpper.toUpper = c.toUpper := by
  rcases toUpper_eq_or_isUpper c with hself | hupper
  · rw [hself, hself]
  · exact toUpper_eq_self hupper

theorem toNat_toUpper_lt (h : c.toNat < 0x80) : c.toUpper.toNat < 0x80 := by
  rw [toNat_toUpper]
  split <;> omega

theorem isDigit_toUpper (c : Char) : c.toUpper.isDigit = c.isDigit := by
  rw [Bool.eq_iff_iff, isDigit_iff_toNat, isDigit_iff_toNat, toNat_toUpper]
  split <;> omega

theorem isAlphanum_toUpper (c : Char) : c.toUpper.isAlphanum = c.isAlphanum := by
  have halpha : c.toUpper.isAlpha = c.isAlpha := by
    rw [Bool.eq_iff_iff, isAlpha_iff_toNat, isAlpha_iff_toNat, toNat_toUpper]
    split <;> omega
  rw [Char.isAlphanum, Char.isAlphanum, halpha, isDigit_toUpper]

theorem isWordChar_toUpper (c : Char) : isWordChar c.toUpper = isWordChar c := by
  rw [Bool.eq_iff_iff, isWordChar_iff_toNat, isWordChar_iff_toNat, toNat_toUpper]
  split <;> omega

@[simp] theorem isWordChar_toLower (c : Char) : isWordChar c.toLower = isWordChar c := by
  rw [Bool.eq_iff_iff, isWordChar_iff_toNat, isWordChar_iff_toNat, toNat_toLower]
  split <;> omega

end EntityGen.Text
