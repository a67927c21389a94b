import EntityGen.Proofs.Text.Ascii
import EntityGen.Text.UpperCase

/-!
# Upper case is upper case

A character in upper case is its own upper case (`upperCase_of_mem`), also where the mapping makes
several characters of one. Nothing else of ASCII than a capital comes about (`eq_of_mem_upperCase`),
so a mark such as the underscore is there after upper-casing only where it was before.
-/

namespace EntityGen.Text

variable {c d : Char} {n : Nat}

/-! ## The tables -/

/-- The letters of a run. -/
def CapitalRun.letters (r : CapitalRun) : List Nat :=
  List.range' r.first ((r.last - r.first) / r.step + 1) r.step

/-- Their capitals. -/
def CapitalRun.capitals (r : CapitalRun) : List Nat :=
  List.range' r.capital ((r.last - r.first) / r.step + 1) r.step

/-- A letter of a run, and its capital, by how many letters of the run stand before it. -/
theorem CapitalRun.exists_index {r : CapitalRun} (h : r.covers n = true) :
    ∃ i < (r.last - r.first) / r.step + 1, n - r.first = r.step * i ∧ r.first ≤ n := by
  simp only [covers, Bool.and_eq_true, decide_eq_true_eq, beq_iff_eq] at h
  obtain ⟨⟨hfirst, hlast⟩, hstep⟩ := h
  have hle : (n - r.first) / r.step ≤ (r.last - r.first) / r.step :=
    Nat.div_le_div_right (by omega)
  exact ⟨(n - r.first) / r.step, by omega, (Nat.mul_div_cancel' (Nat.dvd_of_mod_eq_zero hstep)).symm,
    hfirst⟩

theorem CapitalRun.mem_letters {r : CapitalRun} (h : r.covers n = true) : n ∈ r.letters := by
  obtain ⟨i, hi, hn, hfirst⟩ := exists_index h
  exact List.mem_range'.mpr ⟨i, hi, by omega⟩

theorem CapitalRun.mem_capitals {r : CapitalRun} (h : r.covers n = true) :
    r.capital + (n - r.first) ∈ r.capitals := by
  obtain ⟨i, hi, hn, -⟩ := exists_index h
  exact List.mem_range'.mpr ⟨i, hi, congrArg _ hn⟩

/-- The letters from U+0080 on that have a capital. -/
def letters : List Nat := capitalRuns.flatMap (·.letters) ++ wideCapitals.map (·.1)

/-- What the letters from U+0080 on become. -/
def capitals : List Nat := capitalRuns.flatMap (·.capitals) ++ wideCapitals.flatMap (·.2)

/-- A set of numbers as the bits of one number. -/
def bits (ns : List Nat) : Nat := ns.foldr (fun n b => 1 <<< n ||| b) 0

theorem testBit_bits (ns : List Nat) (n : Nat) : (bits ns).testBit n = decide (n ∈ ns) := by
  induction ns with
  | nil => simp [bits]
  | cons m ns ih =>
    rw [bits, List.foldr_cons, Nat.testBit_or, ← bits, ih, Nat.one_shiftLeft, Nat.testBit_two_pow]
    simp [eq_comm]

/-- No capital is a letter that has one. They are too many to be compared one by one. -/
theorem capital_notMem_letters (h : n ∈ capitals) : n ∉ letters := by
  have hbits : bits letters &&& bits capitals = 0 := by decide +kernel
  have hn := congrArg (Nat.testBit · n) hbits
  simpa [Nat.testBit_and, testBit_bits, h] using hn

/-- A capital of ASCII is one of the letters from A to Z. -/
theorem capital_bounds : ∀ n ∈ capitals, n.isValidChar ∧ (0x80 ≤ n ∨ 65 ≤ n ∧ n ≤ 90) := by
  decide +kernel

theorem toNat_capital (h : n ∈ capitals) : (Char.ofNat n).toNat = n := by
  rw [Char.ofNat, dif_pos (capital_bounds n h).1]
  rfl

theorem isUpper_capital (h : n ∈ capitals) (hascii : n < 0x80) : (Char.ofNat n).isUpper = true := by
  rw [isUpper_iff_toNat, toNat_capital h]
  exact (capital_bounds n h).2.resolve_left (by omega)

/-! ## The mapping -/

/-- A character that is no capital comes about from itself only. -/
theorem eq_of_toUpper (h : c.toUpper = d) (hd : d.isUpper = false) : d = c := by
  rcases toUpper_eq_or_isUpper c with hself | hupper
  · exact h.symm.trans hself
  · rw [h, hd] at hupper
    cases hupper

/-- A character beyond ASCII stays as it is, or becomes capitals. -/
theorem upperCaseWide_cases (c : Char) :
    upperCaseWide c = [c] ∨ ∀ d ∈ upperCaseWide c, ∃ n ∈ capitals, d = Char.ofNat n := by
  unfold upperCaseWide
  split
  · rename_i first cs hfound
    refine .inr fun d hd => ?_
    obtain ⟨n, hn, rfl⟩ := List.mem_map.mp hd
    refine ⟨n, List.mem_append_right _ ?_, rfl⟩
    exact List.mem_flatMap.mpr ⟨_, List.mem_of_find?_eq_some hfound, hn⟩
  split
  · rename_i r hfound
    have hcovers : r.covers c.toNat = true := by simpa using List.find?_some hfound
    refine .inr fun d hd => ⟨_, List.mem_append_left _ ?_, List.mem_singleton.mp hd⟩
    exact List.mem_flatMap.mpr ⟨r, List.mem_of_find?_eq_some hfound, r.mem_capitals hcovers⟩
  · exact .inl rfl

theorem upperCaseWide_of_notMem (h : c.toNat ∉ letters) : upperCaseWide c = [c] := by
  rw [letters, List.mem_append, not_or, List.mem_flatMap, List.mem_map] at h
  have hwide : wideCapitals.find? (·.1 == c.toNat) = none := by
    refine List.find?_eq_none.mpr fun entry hentry heq => h.2 ⟨entry, hentry, beq_iff_eq.mp heq⟩
  have hruns : capitalRuns.find? (·.covers c.toNat) = none := by
    refine List.find?_eq_none.mpr fun r hr hcovers => h.1 ⟨r, hr, r.mem_letters hcovers⟩
  simp only [upperCaseWide, hwide, hruns]

theorem upperCase_capital (h : n ∈ capitals) : upperCase (Char.ofNat n) = [Char.ofNat n] := by
  by_cases hascii : n < 0x80
  · rw [upperCase_of_ascii (by rwa [toNat_capital h]), toUpper_eq_self (isUpper_capital h hascii)]
  · rw [upperCase, if_neg (by rwa [toNat_capital h])]
    exact upperCaseWide_of_notMem (by rw [toNat_capital h]; exact capital_notMem_letters h)

/-- A character in upper case is its own upper case. -/
theorem upperCase_of_mem (h : d ∈ upperCase c) : upperCase d = [d] := by
  by_cases hascii : c.toNat < 0x80
  · rw [upperCase_of_ascii hascii] at h
    obtain rfl := List.mem_singleton.mp h
    rw [upperCase_of_ascii (toNat_toUpper_lt hascii), toUpper_toUpper]
  · rw [upperCase, if_neg hascii] at h
    rcases upperCaseWide_cases c with hself | hcapitals
    · rw [hself] at h
      obtain rfl := List.mem_singleton.mp h
      rw [upperCase, if_neg hascii, hself]
    · obtain ⟨n, hn, rfl⟩ := hcapitals d h
      exact upperCase_capital hn

/-- Of ASCII only capitals come about by upper-casing. -/
theorem eq_of_mem_upperCase (h : d ∈ upperCase c) (hascii : d.toNat < 0x80)
    (hd : d.isUpper = false) : d = c := by
  unfold upperCase at h
  split at h
  · exact eq_of_toUpper (List.mem_singleton.mp h).symm hd
  · rcases upperCaseWide_cases c with hself | hcapitals
    · exact List.mem_singleton.mp (hself ▸ h)
    · obtain ⟨n, hn, rfl⟩ := hcapitals d h
      rw [toNat_capital hn] at hascii
      rw [isUpper_capital hn hascii] at hd
      cases hd

theorem upperCase_ne_nil (c : Char) : upperCase c ≠ [] := by
  have hwide : ∀ entry ∈ wideCapitals, entry.2 ≠ [] := by decide
  unfold upperCase upperCaseWide
  split
  · exact List.cons_ne_nil _ _
  split
  · rename_i first cs hfound
    exact mt List.map_eq_nil_iff.mp (hwide _ (List.mem_of_find?_eq_some hfound))
  split
  · exact List.cons_ne_nil _ _
  · exact List.cons_ne_nil _ _

end EntityGen.Text
