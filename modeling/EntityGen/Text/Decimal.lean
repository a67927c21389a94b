/-! Decimal digits and the numbers they stand for. `decimalValue_append` says how the value grows
with further digits. -/

namespace EntityGen.Text

/-- The value of a decimal digit. -/
def digitValue (c : Char) : Nat := c.toNat - 48

/-- The number that digits stand for, the first being the most significant. -/
def decimalValue (ds : List Char) : Nat := ds.foldl (fun n c => n * 10 + digitValue c) 0

private theorem foldl_digits (ds : List Char) (n : Nat) :
    ds.foldl (fun n c => n * 10 + digitValue c) n = n * Nat.pow 10 ds.length + decimalValue ds := by
  induction ds generalizing n with
  | nil => simp [decimalValue]
  | cons d ds ih =>
    simp only [List.foldl_cons, decimalValue, List.length_cons]
    rw [ih, ih (0 * 10 + digitValue d)]
    have : Nat.pow 10 (ds.length + 1) = Nat.pow 10 ds.length * 10 := rfl
    rw [this, Nat.zero_mul, Nat.zero_add, Nat.add_mul, Nat.mul_assoc, Nat.mul_comm 10,
      Nat.add_assoc]

theorem decimalValue_append (ds es : List Char) :
    decimalValue (ds ++ es) = decimalValue ds * Nat.pow 10 es.length + decimalValue es := by
  rw [decimalValue, List.foldl_append, foldl_digits]
  rfl

end EntityGen.Text
