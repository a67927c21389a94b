import EntityGen.Proofs.SampleFields
import Mathlib.Algebra.Group.Int.Defs

/-!
# Integer fields hold their samples

A field is made an integer by the last value that its key has in the sample
(`exists_value_of_spellsLast`). A text spells one literal at most (`SpellsNumber.unique`), and the
literals that make integers spell numbers of 64 bits, signed or unsigned
(`Literal.denotes_of_number`). So the struct holds its sample in every integer field up to the
largest signed number (`integer_field_of_sample`); beyond that it does not
(`not_all_integers_signed`).
-/

namespace EntityGen.Json

variable {α : Type} {p : Reader α} {before after after' text core : List Char} {a a' : α}
  {l l' : Literal} {n : Int} {d : Nat} {v : Json} {fits : Literal → Prop} {key : String}

/-! ## One literal a text -/

theorem Reads.unique (h : Reads p before a after) (h' : Reads p before a' after') : a = a' := by
  obtain ⟨_, h⟩ := h ⟨1, 0⟩
  obtain ⟨_, h'⟩ := h' ⟨1, 0⟩
  exact congrArg Prod.fst (Except.ok.inj (h.symm.trans h'))

/-- The digits of a number and its power of ten, which may be any. -/
def literalParts : Reader (List Char × Option (List Char) × Option Exponent) := do
  let whole ← wholeDigits
  let fraction ← fractionDigits
  return (whole, fraction, ← exponent true)

theorem SpellsUnsigned.reads_literalParts (h : SpellsUnsigned text l) :
    Reads literalParts text (l.whole, l.fraction, l.exponent) [] := by
  cases h with
  | @mk fractionText exponentText _ hwhole hfraction hexponent =>
    have hend : ∀ c ∈ ([] : List Char).head?, c.isDigit = false ∧ c ≠ '.' := fun c hc => nomatch hc
    have hpower := hexponent.stops_digits hend
    have hexponent : Reads (exponent true) (exponentText ++ []) l.exponent [] :=
      reads_exponent hexponent (fun e _ => .inl rfl) fun c hc => nomatch hc
    have hwhole := reads_wholeDigits hwhole (hfraction.stops_digits hpower)
    rw [List.append_assoc, ← List.append_nil (fractionText ++ exponentText), List.append_assoc]
    exact hwhole.bind ((reads_fractionDigits hfraction hpower).bind (hexponent.bind (.pure _ _)))

theorem SpellsUnsigned.unique (h : SpellsUnsigned text l) (h' : SpellsUnsigned text l')
    (hsign : l.negative = l'.negative) : l = l' := by
  have hparts := h.reads_literalParts.unique h'.reads_literalParts
  obtain ⟨negative, whole, fraction, exponent⟩ := l
  obtain ⟨negative', whole', fraction', exponent'⟩ := l'
  simp only [Prod.mk.injEq] at hparts
  obtain ⟨rfl, rfl, rfl⟩ := hparts
  exact congrArg (Literal.mk · whole fraction exponent) hsign

/-- A text spells one literal at most. -/
theorem SpellsNumber.unique (h : SpellsNumber text l) (h' : SpellsNumber text l') : l = l' := by
  have hminus {text : List Char} {l : Literal} : ¬ SpellsUnsigned ('-' :: text) l := by
    intro h
    obtain ⟨c, tail, hcons, hc⟩ := h.exists_cons
    cases hcons
    exact absurd hc (by decide)
  cases h with
  | positive hsign h =>
    cases h' with
    | positive hsign' h' => exact h.unique h' (hsign.trans hsign'.symm)
    | negative hsign' h' => exact absurd h hminus
  | negative hsign h =>
    cases h' with
    | positive hsign' h' => exact absurd h' hminus
    | negative hsign' h' => exact h.unique h' (hsign.trans hsign'.symm)

/-! ## Whole numbers -/

/-- The number that a literal spells. -/
def Literal.Denotes (l : Literal) (n : Int) : Prop :=
  (if l.negative then -(l.mantissa : Int) else l.mantissa) * 10 ^ l.scale.toNat =
    n * 10 ^ (-l.scale).toNat

instance (l : Literal) (n : Int) : Decidable (l.Denotes n) := inferInstanceAs (Decidable (_ = _))

theorem Literal.Denotes.unique {n' : Int} (h : l.Denotes n) (h' : l.Denotes n') : n = n' :=
  Int.eq_of_mul_eq_mul_right (Int.ne_of_gt (Int.pow_pos (by decide))) (Eq.trans (Eq.symm h) h')

/-- A literal without a point and without a power of ten. -/
def Literal.IsPlain (l : Literal) : Prop := l.fraction = none ∧ l.exponent = none

/-- What a plain literal spells. -/
theorem Literal.IsPlain.denotes_iff (h : l.IsPlain) : l.Denotes n ↔
    n = if l.negative then -(Text.decimalValue l.whole : Int) else Text.decimalValue l.whole := by
  have hmantissa : l.mantissa = Text.decimalValue l.whole := by simp [Literal.mantissa, h.1]
  have hscale : l.scale = 0 := by simp [Literal.scale, h.1, h.2]
  unfold Literal.Denotes
  simp only [hmantissa, hscale, Int.neg_zero, Int.toNat_zero, Int.pow_zero, Int.mul_one]
  exact eq_comm

theorem Literal.isPlain_of_number (h : l.number = .whole n) : l.IsPlain := by
  unfold Literal.number at h
  split at h
  · cases h
  · rename_i hplain
    simpa [IsPlain] using hplain

/-- A literal that makes a whole number spells it. -/
theorem Literal.denotes_of_number (h : l.number = .whole n) :
    l.Denotes n ∧ -2 ^ 63 ≤ n ∧ n < 2 ^ 64 := by
  have hplain := Literal.isPlain_of_number h
  rw [hplain.denotes_iff]
  simp only [Literal.number, hplain.1, hplain.2, Option.isSome_none, Bool.false_eq_true, or_self,
    if_false] at h
  split at h
  · rename_i hnegative
    split at h
    · rename_i hbound
      cases h
      unfold negativeBound at hbound
      exact ⟨(if_pos hnegative).symm, by omega, by omega⟩
    · cases h
  · rename_i hnegative
    split at h
    · rename_i hbound
      cases h
      unfold wordBound at hbound
      exact ⟨(if_neg hnegative).symm, by omega, by omega⟩
    · cases h

theorem Spells.exists_literal {value : Number} (h : Spells fits d text (.number value)) :
    ∃ l, SpellsNumber text l ∧ l.number = value := by
  cases h with
  | number h hfits => exact ⟨_, h, rfl⟩

/-! ## The last value of a key -/

/-- A text spells an object in which the last value of a key is written as `core`. -/
def SpellsLast (fits : Literal → Prop) (d : Nat) (text : List Char) (key : String)
    (core : List Char) : Prop :=
  ∃ (source : Padded) (spaces : List Char) (before : List Member) (m : Member)
    (after : List Member),
    text = source.text ∧ Spaces spaces ∧
    source.core = '\x7b' :: between spaces ((before ++ m :: after).map (·.text)) ++ ['\x7d'] ∧
    (∀ p ∈ before ++ m :: after,
      SpellsString p.keySource.core p.key ∧ Spells fits d p.source.core p.value) ∧
    m.key = key ∧ key ∉ after.map (·.key) ∧ m.source.core = core

theorem lookup_reverse_of_last {ms before after : List (String × Json)}
    (hms : ms = before ++ (key, v) :: after) (hlast : key ∉ after.map (·.1)) :
    ms.reverse.lookup key = some v := by
  have hafter : after.reverse.lookup key = none := by
    rw [List.lookup_eq_none_iff]
    intro m hm
    rw [bne_iff_ne]
    rintro rfl
    exact hlast (List.mem_map_of_mem (List.mem_reverse.mp hm))
  rw [hms, List.reverse_append, List.reverse_cons, List.append_assoc, List.lookup_append, hafter]
  simp

/-- Each key of an object has a last value. -/
theorem SpellsObject.exists_spellsLast {members : List (String × Json)}
    (h : SpellsObject fits d text members) (hmem : (key, v) ∈ membersOf members) :
    ∃ core, SpellsLast fits d text key core := by
  obtain ⟨source, spaces, parts, htext, hspaces, hcore, hparts, rfl⟩ := h
  obtain ⟨before, after, hmembers, hlast⟩ := mem_membersOf hmem
  obtain ⟨parts', rest, rfl, rfl, hrest⟩ := List.map_eq_append_iff.mp hmembers
  obtain ⟨m, parts'', rfl, hm, rfl⟩ := List.map_eq_cons_iff.mp hrest
  refine ⟨m.source.core, source, spaces, parts', m, parts'', htext, hspaces, hcore, hparts,
    congrArg Prod.fst hm, ?_, rfl⟩
  rw [List.map_map] at hlast
  exact hlast

/-- The last value of a key is the one that counts. -/
theorem SpellsLast.exists_value (h : SpellsLast fits d text key core) :
    ∃ members v, SpellsObject fits d text members ∧ Spells fits d core v ∧
      ∀ v', (key, v') ∈ membersOf members → v' = v := by
  obtain ⟨source, spaces, before, m, after, htext, hspaces, hcore, hparts, rfl, hlast, rfl⟩ := h
  refine ⟨_, m.value, ⟨source, spaces, before ++ m :: after, htext, hspaces, hcore, hparts, rfl⟩,
    (hparts m (by simp)).2, fun v' hv' => ?_⟩
  obtain ⟨before', after', hmembers, hlast'⟩ := mem_membersOf hv'
  have hself : (before ++ m :: after).map (·.pair) =
      before.map (·.pair) ++ (m.key, m.value) :: after.map (·.pair) := by
    rw [List.map_append, List.map_cons]
    rfl
  have hafter : m.key ∉ (after.map (·.pair)).map (·.1) := by
    rw [List.map_map]
    exact hlast
  have hvalue := lookup_reverse_of_last hmembers hlast'
  exact Option.some.inj (hvalue.symm.trans (lookup_reverse_of_last hself hafter))

end EntityGen.Json

namespace EntityGen

open Json

variable {name sample : String} {e : Entity} {f : Field}

/-- A field has the type of the last value that its key has in the sample. -/
theorem exists_value_of_spellsLast (h : Entity.ofSample name sample = .ok e) (hf : f ∈ e.fields)
    {core : List Char} (hcore : SpellsLast Literal.Fits 126 sample.toList f.name core) :
    ∃ v, Spells Literal.Fits 126 core v ∧ f.type = .ofJson v := by
  obtain ⟨members, v, hmembers, hspells, hlast⟩ := hcore.exists_value
  have he := h.symm.trans (ofSample_eq_ok_iff.mpr ⟨members, hmembers, rfl⟩)
  cases he
  obtain ⟨⟨key, value⟩, hmem, rfl⟩ := List.mem_map.mp hf
  exact ⟨v, hspells, congrArg FieldType.ofJson (hlast value hmem)⟩

theorem exists_spellsLast (h : Entity.ofSample name sample = .ok e) (hf : f ∈ e.fields) :
    ∃ core, SpellsLast Literal.Fits 126 sample.toList f.name core := by
  obtain ⟨members, hmembers, rfl⟩ := ofSample_eq_ok_iff.mp h
  obtain ⟨⟨key, value⟩, hmem, rfl⟩ := List.mem_map.mp hf
  exact hmembers.exists_spellsLast hmem

theorem exists_whole_of_ofJson {v : Json} (h : FieldType.ofJson v = .i64) :
    ∃ n, v = .number (.whole n) := by
  unfold FieldType.ofJson at h
  split at h
  · exact ⟨_, rfl⟩
  all_goals cases h

/-- An integer field comes from a number of its sample, whose value is an integer of 64 bits, signed
or unsigned. Every such integer that is no larger than the largest signed one can be held. -/
theorem integer_field_of_sample (h : Entity.ofSample name sample = .ok e) (hf : f ∈ e.fields)
    (hinteger : f.type = .i64) :
    (∃ core, SpellsLast Literal.Fits 126 sample.toList f.name core) ∧
    ∀ core, SpellsLast Literal.Fits 126 sample.toList f.name core →
      (∃ l, SpellsNumber core l) ∧ ∀ l, SpellsNumber core l →
        ∃ n : Int, l.Denotes n ∧ -2 ^ 63 ≤ n ∧ n ≤ 2 ^ 64 - 1 ∧
          (n ≤ 2 ^ 63 - 1 → ∃ i : Int64, i.toInt = n) := by
  refine ⟨exists_spellsLast h hf, fun core hcore => ?_⟩
  obtain ⟨v, hspells, htype⟩ := exists_value_of_spellsLast h hf hcore
  obtain ⟨n, rfl⟩ := exists_whole_of_ofJson (htype.symm.trans hinteger)
  obtain ⟨l, hl, hnumber⟩ := hspells.exists_literal
  refine ⟨⟨l, hl⟩, fun l' hl' => ?_⟩
  obtain rfl := hl.unique hl'
  obtain ⟨hdenotes, hlow, hhigh⟩ := Literal.denotes_of_number hnumber
  exact ⟨n, hdenotes, hlow, by omega, fun hsigned =>
    ⟨.ofInt n, Int64.toInt_ofInt_of_le hlow (by omega)⟩⟩

/-- Of a key that is repeated only the last value counts. -/
theorem integer_field_of_repeated_key :
    let sample := "\x7b\"a\":true, \"a\":-9223372036854775808\x7d"
    let f : Field := ⟨"a", .i64⟩
    Entity.ofSample "t" sample = .ok ⟨"t", "T", [f]⟩ ∧
      ∃ core l, SpellsLast Literal.Fits 126 sample.toList "a" core ∧ SpellsNumber core l ∧
        ∃ n : Int, l.Denotes n ∧ -2 ^ 63 ≤ n ∧ n ≤ 2 ^ 64 - 1 := by
  intro sample f
  have h : Entity.ofSample "t" sample = .ok ⟨"t", "T", [f]⟩ := by decide +kernel
  obtain ⟨⟨core, hcore⟩, hall⟩ := integer_field_of_sample h (List.mem_singleton_self f) rfl
  obtain ⟨⟨l, hl⟩, hvalue⟩ := hall core hcore
  obtain ⟨n, hn, hlow, hhigh, -⟩ := hvalue l hl
  exact ⟨h, core, l, hcore, hl, n, hn, hlow, hhigh⟩

/-- The literal of the first number that is too large for 64 signed bits. -/
private def beyondSigned : Literal := ⟨false, "9223372036854775808".toList, none, none⟩

private theorem spellsNumber_beyondSigned :
    SpellsNumber "9223372036854775808".toList beyondSigned := by
  have hwhole : IsWhole beyondSigned.whole :=
    .inr ⟨isDigits_of_all (by decide) (by decide), by decide⟩
  exact .positive rfl (.mk hwhole .absent .absent)

/-- Not all integer fields hold their sample: a number beyond the largest signed one makes one,
too. -/
theorem not_all_integers_signed : ¬ ∀ name sample e f core l,
    Entity.ofSample name sample = .ok e → f ∈ e.fields → f.type = .i64 →
      SpellsLast Literal.Fits 126 sample.toList f.name core → SpellsNumber core l →
        ∃ n : Int, l.Denotes n ∧ -2 ^ 63 ≤ n ∧ n ≤ 2 ^ 63 - 1 := by
  intro h
  have hsample : Entity.ofSample "t" "\x7b\"a\":9223372036854775808\x7d" =
      .ok ⟨"t", "T", [⟨"a", .i64⟩]⟩ := by decide +kernel
  have hfits : beyondSigned.Fits := ⟨by decide +kernel, fun _ he => nomatch he⟩
  have hlast : SpellsLast Literal.Fits 126 "\x7b\"a\":9223372036854775808\x7d".toList "a"
      "9223372036854775808".toList := by
    refine ⟨⟨[], _, [], .nil, .nil⟩, [], [], ⟨⟨[], "\"a\"".toList, [], .nil, .nil⟩, "a",
      ⟨[], "9223372036854775808".toList, [], .nil, .nil⟩, .number beyondSigned.number⟩, [],
      ?_, .nil, rfl, ?_, rfl, List.not_mem_nil, rfl⟩
    · decide +kernel
    · exact List.forall_mem_singleton.mpr
        ⟨.mk (.cons (.plain (by decide) (by decide) (by decide)) .nil),
          .number spellsNumber_beyondSigned hfits⟩
  obtain ⟨n, hn, -, hle⟩ := h _ _ _ _ _ _ hsample (List.mem_singleton_self _) rfl hlast
    spellsNumber_beyondSigned
  have hvalue : beyondSigned.Denotes 9223372036854775808 := by decide +kernel
  have := hvalue.unique hn
  omega

end EntityGen
