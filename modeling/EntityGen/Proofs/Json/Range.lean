import EntityGen.Proofs.Json.Reading
import Mathlib.Algebra.Group.Nat.Defs

/-!
# Which literals fit

A literal is scaled in two roundings, so one just below the largest floating-point number may be
found too large. `Literal.SurelyFits.fits` says that every literal up to 1.797693134862315e308 fits,
unless its power of ten is beyond what may be read: the two roundings (`roundTo53_le`) together grow
a number by less than a part in 2^52, and the digits that are gathered never spell more than the
literal (`scaled_le`).
-/

namespace EntityGen.Json

open Text

variable {l : Literal} {ds : List Char} {n m k : Nat}

/-- The value of a power of ten. -/
def Exponent.power (e : Exponent) : Int :=
  if e.negative then -(decimalValue e.digits) else decimalValue e.digits

/-- All digits of a literal as one number. -/
def Literal.mantissa (l : Literal) : Nat := decimalValue (l.whole ++ l.fraction.getD [])

/-- The power of ten that all digits of a literal are multiplied by. -/
def Literal.scale (l : Literal) : Int :=
  (l.exponent.map Exponent.power).getD 0 - (l.fraction.getD []).length

/-- The number that a literal spells, apart from its sign, is at most `bound`. -/
def Literal.AtMost (l : Literal) (bound : Nat) : Prop :=
  l.mantissa * 10 ^ l.scale.toNat ≤ bound * 10 ^ (-l.scale).toNat

instance (l : Literal) (bound : Nat) : Decidable (l.AtMost bound) :=
  inferInstanceAs (Decidable (_ ≤ _))

/-- The largest number of 64-bit floating point. -/
def largestFloat : Nat := (2 ^ 53 - 1) * 2 ^ 971

/-! ## Rounding -/

/-- Rounding to a multiple of a unit errs by half the unit. -/
theorem two_mul_rounded_le (n unit : Nat) :
    2 * (if 2 * (n % unit) > unit ∨ 2 * (n % unit) = unit ∧ n / unit % 2 = 1
      then (n / unit + 1) * unit else n / unit * unit) ≤ 2 * n + unit := by
  have hdiv := Nat.div_add_mod' n unit
  split
  · rw [Nat.add_mul, Nat.one_mul]
    omega
  · omega

/-- A number of more than 53 bits is 2^52 units at least. -/
theorem roundTo53_le (n : Nat) : 2 ^ 53 * roundTo53 n ≤ (2 ^ 53 + 1) * n := by
  have hround := two_mul_rounded_le n (Nat.pow 2 (n.log2 + 1 - 53))
  by_cases hbits : n.log2 + 1 ≤ 53
  · have hzero : n.log2 + 1 - 53 = 0 := Nat.sub_eq_zero_of_le hbits
    have hexact : roundTo53 n = n := by
      unfold roundTo53
      rw [hzero]
      simp [Nat.mod_one]
    rw [hexact]
    omega
  · have hunit : 2 ^ 52 * Nat.pow 2 (n.log2 + 1 - 53) ≤ n := by
      have hn : n ≠ 0 := by
        rintro rfl
        simp at hbits
      calc 2 ^ 52 * 2 ^ (n.log2 + 1 - 53) = 2 ^ (52 + (n.log2 + 1 - 53)) := (Nat.pow_add ..).symm
        _ = 2 ^ n.log2 := by congr 1; omega
        _ ≤ n := Nat.log2_self_le hn
    change 2 * roundTo53 n ≤ _ at hround
    omega

/-! ## Gathering digits -/

theorem decimalValue_append_ge (ds es : List Char) :
    decimalValue ds * 10 ^ es.length ≤ decimalValue (ds ++ es) := by
  rw [decimalValue_append]
  exact Nat.le_add_right ..

theorem decimalValue_concat (ds : List Char) (d : Char) :
    decimalValue (ds ++ [d]) = decimalValue ds * 10 + digitValue d := by
  rw [decimalValue_append]
  simp [decimalValue]

/-- The digits that are gathered are as many as fit 64 bits. -/
theorem gather_eq {before rest : List Char} (h : gather (decimalValue before) ds = (m, rest)) :
    ∃ taken, ds = taken ++ rest ∧ m = decimalValue (before ++ taken) ∧
      (taken = [] ∨ m < wordBound) ∧ ∀ d ∈ rest.head?, wordBound ≤ m * 10 + digitValue d := by
  induction ds generalizing before with
  | nil =>
    cases h
    exact ⟨[], rfl, by simp, .inl rfl, fun _ hd => nomatch hd⟩
  | cons d ds ih =>
    rw [gather] at h
    split at h
    · rename_i hfits
      rw [← decimalValue_concat] at h hfits
      obtain ⟨taken, rfl, rfl, hbound, hrest⟩ := ih h
      refine ⟨d :: taken, rfl, by simp, .inr ?_, hrest⟩
      obtain rfl | hbound := hbound
      · simpa using hfits
      · exact hbound
    · rename_i hfull
      cases h
      refine ⟨[], rfl, by simp, .inl rfl, fun c hc => ?_⟩
      cases hc
      omega

theorem digitValue_le {d : Char} (h : d.isDigit = true) : digitValue d ≤ 9 := by
  have : d.toNat ≤ 57 := by
    simp only [Char.isDigit, Bool.and_eq_true, decide_eq_true_eq] at h
    exact h.2
  unfold digitValue
  omega

/-- If digits before the point are left out, at most one digit after it is gathered, and that is
less than the first one left out. -/
theorem gathered_le {before excess taken : List Char} (dropped : List Char)
    (hexcess : ∀ d ∈ excess, d.isDigit = true)
    (hfull : ∀ d ∈ excess.head?, wordBound ≤ decimalValue before * 10 + digitValue d)
    (hbound : taken = [] ∨ decimalValue (before ++ taken) < wordBound) :
    decimalValue (before ++ taken) * 10 ^ (excess.length + dropped.length) ≤
      decimalValue (before ++ excess ++ (taken ++ dropped)) := by
  cases excess with
  | nil => simpa using decimalValue_append_ge (before ++ taken) dropped
  | cons e excess =>
    have he := digitValue_le (hexcess e List.mem_cons_self)
    have hfull := hfull e rfl
    match taken, hbound with
    | [], _ => simpa [Nat.add_right_comm] using decimalValue_append_ge before (e :: excess ++ dropped)
    | [d], hbound =>
      have hless : decimalValue (before ++ [d]) ≤ decimalValue (before ++ [e]) := by
        rw [decimalValue_concat before e]
        exact Nat.le_of_lt (Nat.lt_of_lt_of_le (hbound.resolve_left (by simp)) hfull)
      calc decimalValue (before ++ [d]) * 10 ^ ((e :: excess).length + dropped.length)
          ≤ decimalValue (before ++ [e]) * 10 ^ (excess ++ d :: dropped).length := by
            refine Nat.mul_le_mul hless (Nat.pow_le_pow_right (by decide) ?_)
            simp only [List.length_cons, List.length_append]
            omega
        _ ≤ _ := by simpa using decimalValue_append_ge (before ++ [e]) (excess ++ d :: dropped)
    | d :: d' :: taken, hbound =>
      have hbound := hbound.resolve_left (by simp)
      have hlarge := decimalValue_append_ge before (d :: d' :: taken)
      have hpow : 10 ^ 2 ≤ 10 ^ (d :: d' :: taken).length :=
        Nat.pow_le_pow_right (by decide) (by simp)
      have := Nat.mul_le_mul_left (decimalValue before) hpow
      unfold wordBound at hfull hbound
      omega

/-- Digits left out are made up for by the power of ten. -/
theorem le_of_scaled {scale : Int} {bound : Nat} (hn : n * 10 ^ k ≤ m)
    (hm : m * 10 ^ scale.toNat ≤ bound * 10 ^ (-scale).toNat) (hshift : 0 ≤ scale + k) :
    n * 10 ^ (scale + k).toNat ≤ bound := by
  by_cases hscale : 0 ≤ scale
  · have hpower : (scale + k).toNat = k + scale.toNat := by omega
    have hone : (-scale).toNat = 0 := by omega
    rw [hone, Nat.pow_zero, Nat.mul_one] at hm
    rw [hpower, Nat.pow_add, ← Nat.mul_assoc]
    exact Nat.le_trans (Nat.mul_le_mul_right _ hn) hm
  · have hpower : k = (scale + k).toNat + (-scale).toNat := by omega
    have hone : scale.toNat = 0 := by omega
    rw [hone, Nat.pow_zero, Nat.mul_one] at hm
    rw [hpower, Nat.pow_add, ← Nat.mul_assoc] at hn
    exact Nat.le_of_mul_le_mul_right (Nat.le_trans hn hm) (Nat.pow_pos (by decide))

/-- What the gathered digits spell is at most what all digits do. -/
theorem scaled_le {bound : Nat} {shift : Int} (hwhole : ∀ d ∈ l.whole, d.isDigit = true)
    (hsize : l.AtMost bound) (hscaled : l.scaled = (n, shift)) (hshift : 0 ≤ shift) :
    n * 10 ^ shift.toNat ≤ bound := by
  rcases hm : gather 0 l.whole with ⟨m, excess⟩
  rcases hm' : gather m (l.fraction.getD []) with ⟨m', dropped⟩
  obtain ⟨before, hbefore, rfl, _, hfull⟩ :=
    gather_eq (show gather (decimalValue []) l.whole = (m, excess) from hm)
  obtain ⟨taken, htaken, rfl, hbound, _⟩ := gather_eq hm'
  have hmantissa : decimalValue (before ++ taken) * 10 ^ (excess.length + dropped.length) ≤
      l.mantissa := by
    rw [Literal.mantissa, hbefore, htaken]
    exact gathered_le dropped (fun d hd => hwhole d (by simp [hbefore, hd])) hfull hbound
  have hparts : n = decimalValue (before ++ taken) ∧
      shift = l.scale + (excess.length + dropped.length : Nat) := by
    have hlength := congrArg List.length htaken
    rw [List.length_append] at hlength
    unfold Literal.scaled at hscaled
    rw [hm] at hscaled
    dsimp only at hscaled
    rw [hm'] at hscaled
    unfold Literal.scale Exponent.power
    cases hpower : l.exponent with
    | none =>
      rw [hpower] at hscaled
      obtain ⟨rfl, rfl⟩ := Prod.mk.inj hscaled
      refine ⟨rfl, ?_⟩
      simp only [Option.map_none, Option.getD_none]
      omega
    | some e =>
      rw [hpower] at hscaled
      obtain ⟨rfl, rfl⟩ := Prod.mk.inj hscaled
      refine ⟨rfl, ?_⟩
      simp only [Option.map_some, Option.getD_some]
      split <;> omega
  obtain ⟨rfl, rfl⟩ := hparts
  exact le_of_scaled hmantissa hsize hshift

/-- The size up to which every literal is read. -/
def surelyRead : Nat := 1797693134862315 * 10 ^ 293

/-- The two roundings together do not reach beyond the largest floating-point number. -/
theorem rounded_mul_lt (h : n * m ≤ surelyRead) : roundTo53 n * roundTo53 m < overflowBound := by
  have hbound : (2 ^ 53 + 1) * (2 ^ 53 + 1) * surelyRead < 2 ^ 53 * 2 ^ 53 * overflowBound := by
    decide +kernel
  refine Nat.lt_of_mul_lt_mul_left (a := 2 ^ 53 * 2 ^ 53) ?_
  calc 2 ^ 53 * 2 ^ 53 * (roundTo53 n * roundTo53 m)
      = 2 ^ 53 * roundTo53 n * (2 ^ 53 * roundTo53 m) := Nat.mul_mul_mul_comm ..
    _ ≤ (2 ^ 53 + 1) * n * ((2 ^ 53 + 1) * m) := Nat.mul_le_mul (roundTo53_le n) (roundTo53_le m)
    _ = (2 ^ 53 + 1) * (2 ^ 53 + 1) * (n * m) := Nat.mul_mul_mul_comm ..
    _ ≤ (2 ^ 53 + 1) * (2 ^ 53 + 1) * surelyRead := Nat.mul_le_mul_left _ h
    _ < 2 ^ 53 * 2 ^ 53 * overflowBound := hbound

theorem ten_pow_pow_le (h : n * m ≤ k) : (10 ^ n) ^ m ≤ 10 ^ k := by
  rw [← Nat.pow_mul]
  exact Nat.pow_le_pow_right (by decide) h

theorem tooLarge_eq_false (hwhole : ∀ d ∈ l.whole, d.isDigit = true)
    (hsize : l.AtMost surelyRead) : l.tooLarge = false := by
  rcases hscaled : l.scaled with ⟨n, shift⟩
  by_cases hzero : n = 0 ∨ shift < 0
  · simp only [Literal.tooLarge, hscaled]
    obtain rfl | hshift := hzero
    · rfl
    · rw [decide_eq_false (by omega : ¬ 0 ≤ shift), Bool.and_false, Bool.false_and]
  · obtain ⟨hn, hshift⟩ := not_or.mp hzero
    have hle := scaled_le hwhole hsize hscaled (by omega)
    have hpower : ¬ 308 < shift := by
      intro hlarge
      have hten : 10 ^ shift.toNat ≤ surelyRead :=
        Nat.le_trans (Nat.le_mul_of_pos_left _ (Nat.pos_of_ne_zero hn)) hle
      have hlarge : (10 ^ 103) ^ 3 ≤ 10 ^ shift.toNat := ten_pow_pow_le (by omega)
      exact absurd (Nat.le_trans hlarge hten) (by decide +kernel)
    have hproduct := rounded_mul_lt hle
    simp only [Literal.tooLarge, hscaled, Bool.and_eq_false_iff, Bool.or_eq_false_iff]
    exact .inr ⟨decide_eq_false hpower, decide_eq_false (Nat.not_le.mpr hproduct)⟩

theorem exponentOverflow?_eq_none (h : decimalValue ds ≤ maxExponent) :
    exponentOverflow? ds = none := by
  unfold exponentOverflow?
  rw [List.findSome?_eq_none_iff]
  intro k _
  have hprefix := decimalValue_append_ge (ds.take (k + 1)) (ds.drop (k + 1))
  rw [List.take_append_drop] at hprefix
  have := Nat.le_mul_of_pos_right (decimalValue (ds.take (k + 1)))
    (Nat.pow_pos (by decide : 0 < 10) : 0 < 10 ^ (ds.drop (k + 1)).length)
  exact if_neg (by omega)

/-- A literal that fits by its size: it spells a number up to `surelyRead`, and a power of ten that
multiplies anything but zeros is not beyond the largest one. -/
structure Literal.SurelyFits (l : Literal) : Prop where
  size : l.AtMost surelyRead
  power : ∀ e ∈ l.exponent, e.negative = false →
    (∃ d ∈ l.whole ++ l.fraction.getD [], d ≠ '0') → decimalValue e.digits ≤ maxExponent

theorem Literal.SurelyFits.fits (hwhole : ∀ d ∈ l.whole, d.isDigit = true) (h : l.SurelyFits) :
    l.Fits where
  number := tooLarge_eq_false hwhole h.size
  power := by
    intro e he
    by_cases hzero : (l.whole ++ l.fraction.getD []).all (· == '0') = true
    · exact .inl hzero
    cases hnegative : e.negative with
    | true => exact .inr (.inl hnegative)
    | false =>
      have hnonzero : ∃ d ∈ l.whole ++ l.fraction.getD [], d ≠ '0' := by
        simpa only [List.all_eq_true, Classical.not_forall, exists_prop, beq_iff_eq] using hzero
      exact .inr (.inr (exponentOverflow?_eq_none (h.power e he hnegative hnonzero)))

end EntityGen.Json
