import EntityGen.Proofs.IntegerFields

/-!
# Integers and other numbers of a sample

Which literals are kept as whole numbers (`Literal.exists_whole_iff`): those without a point and
without a power of ten that spell a number of 64 bits, signed or unsigned, but for the negative
zero. A member of a sample whose last value is a number has the field that its literal says
(`number_field_of_sample`).
-/

namespace EntityGen.Json

open Text (decimalValue decimalValue_append digitValue)

variable {core text ds : List Char} {l : Literal} {d : Nat} {v : Json} {fits : Literal → Prop}
  {key : String}

/-- A whole number in 64 bits, signed or unsigned. -/
def FitsWord (n : Int) : Prop := -2 ^ 63 ≤ n ∧ n ≤ 2 ^ 64 - 1

/-! ## The digits of zero -/

theorem digitValue_pos {d : Char} (h : d.isDigit = true) (hzero : d ≠ '0') : 0 < digitValue d := by
  have hlow : 48 ≤ d.toNat := by
    simp only [Char.isDigit, Bool.and_eq_true, decide_eq_true_eq] at h
    exact h.1
  have hne : d.toNat ≠ 48 := by
    intro heq
    exact hzero (Char.toNat_inj.mp heq)
  unfold digitValue
  omega

/-- The digits of a whole number spell zero only if they are the one digit zero. -/
theorem IsWhole.decimalValue_eq_zero_iff (h : IsWhole ds) : decimalValue ds = 0 ↔ ds = ['0'] := by
  constructor
  · intro hzero
    rcases h with rfl | ⟨⟨hne, hdigits⟩, hhead⟩
    · rfl
    · obtain ⟨d, ds, rfl⟩ := List.exists_cons_of_ne_nil hne
      have hpos : 0 < digitValue d := by
        apply digitValue_pos (hdigits d List.mem_cons_self)
        rintro rfl
        exact hhead rfl
      have hvalue := decimalValue_append [d] ds
      rw [List.singleton_append, hzero] at hvalue
      have hone : decimalValue [d] = digitValue d := by simp [decimalValue]
      have := Nat.mul_pos hpos (Nat.pow_pos (n := ds.length) (by decide : 0 < 10))
      rw [hone] at hvalue
      exact absurd hvalue.symm (Nat.ne_of_gt (Nat.add_pos_left this _))
  · rintro rfl
    rfl

/-! ## Plain literals -/

/-- A literal is kept as a whole number just if it is plain, no negative zero, and spells a number
of 64 bits. -/
theorem Literal.exists_whole_iff :
    (∃ n, l.number = .whole n) ↔
      l.IsPlain ∧ ¬ (l.negative = true ∧ decimalValue l.whole = 0) ∧
        ∃ n, l.Denotes n ∧ FitsWord n := by
  constructor
  · rintro ⟨n, hn⟩
    obtain ⟨hdenotes, hlow, hhigh⟩ := Literal.denotes_of_number hn
    have hplain := Literal.isPlain_of_number hn
    refine ⟨hplain, ?_, n, hdenotes, hlow, by omega⟩
    rintro ⟨hnegative, hzero⟩
    simp [Literal.number, hplain.1, hplain.2, hnegative, hzero] at hn
  · rintro ⟨hplain, hzero, n, hdenotes, hlow, hhigh⟩
    rw [hplain.denotes_iff] at hdenotes
    simp only [Literal.number, hplain.1, hplain.2, Option.isSome_none, Bool.false_eq_true, or_self,
      if_false]
    cases hnegative : l.negative with
    | true =>
      simp only [hnegative, if_true, true_and] at hdenotes hzero ⊢
      have hbound : 0 < decimalValue l.whole ∧ decimalValue l.whole ≤ negativeBound := by
        unfold negativeBound
        omega
      exact ⟨_, if_pos hbound⟩
    | false =>
      simp only [hnegative, Bool.false_eq_true, if_false] at hdenotes ⊢
      have hbound : decimalValue l.whole < wordBound := by
        unfold wordBound
        omega
      exact ⟨_, if_pos hbound⟩

/-- Of the plain literals only the text `-0` spells the negative zero. -/
theorem SpellsNumber.eq_negativeZero_iff (h : SpellsNumber core l) (hplain : l.IsPlain) :
    core = ['-', '0'] ↔ l.negative = true ∧ decimalValue l.whole = 0 := by
  have hunsigned {text : List Char} (h : SpellsUnsigned text l) :
      text = l.whole ∧ IsWhole l.whole := by
    cases h with
    | mk hwhole hfraction hexponent =>
      rw [hplain.1] at hfraction
      rw [hplain.2] at hexponent
      cases hfraction
      cases hexponent
      exact ⟨by simp, hwhole⟩
  cases h with
  | positive hsign h =>
    obtain ⟨rfl, hwhole⟩ := hunsigned h
    refine ⟨?_, fun hnegative => absurd hnegative.1 (by simp [hsign])⟩
    intro hcore
    obtain ⟨c, tail, hcons, hc⟩ := hwhole.exists_cons
    rw [hcore] at hcons
    cases hcons
    exact absurd hc (by decide)
  | negative hsign h =>
    obtain ⟨rfl, hwhole⟩ := hunsigned h
    rw [hwhole.decimalValue_eq_zero_iff]
    simp [hsign]

/-! ## Values that are numbers -/

theorem SpellsNumber.exists_cons (h : SpellsNumber core l) :
    ∃ c tail, core = c :: tail ∧ (c.isDigit = true ∨ c = '-') := by
  cases h with
  | positive _ h =>
    obtain ⟨c, tail, hcons, hc⟩ := h.exists_cons
    exact ⟨c, tail, hcons, .inl hc⟩
  | negative _ _ => exact ⟨'-', _, rfl, .inr rfl⟩

/-- A text that is a number spells the value of its one literal and no other. -/
theorem SpellsNumber.value_eq (hl : SpellsNumber core l) (h : Spells fits d core v) :
    v = .number l.number := by
  obtain ⟨c, tail, hcons, hc⟩ := hl.exists_cons
  have hbegins {c' : Char} {rest : List Char} (heq : core = c' :: rest)
      (hdigit : c'.isDigit = false) (hminus : c' ≠ '-') : False := by
    rw [hcons] at heq
    cases heq
    rcases hc with hc | rfl
    · exact absurd hc (by rw [hdigit]; decide)
    · exact hminus rfl
  cases h with
  | number h _ => rw [hl.unique h]
  | string h =>
    obtain ⟨rest, hquote⟩ := h.exists_cons
    exact (hbegins hquote (by decide) (by decide)).elim
  | null | isTrue | isFalse | array | object =>
    exact (hbegins rfl (by decide) (by decide)).elim

theorem SpellsLast.exists_members (h : SpellsLast fits d text key core) :
    ∃ members, SpellsObject fits d text members ∧ key ∈ members.map (·.1) := by
  obtain ⟨source, spaces, before, m, after, htext, hspaces, hcore, hparts, rfl, -, -⟩ := h
  refine ⟨_, ⟨source, spaces, before ++ m :: after, htext, hspaces, hcore, hparts, rfl⟩, ?_⟩
  simp [Member.pair]

end EntityGen.Json

namespace EntityGen

open Json

variable {name sample key : String} {e : Entity} {f : Field} {core : List Char} {l : Literal}

/-- Each key of a sample has one field. -/
theorem exists_field_of_spellsLast (h : Entity.ofSample name sample = .ok e)
    (hcore : SpellsLast Literal.Fits 126 sample.toList key core) :
    ∃ f ∈ e.fields, f.name = key ∧ ∀ f' ∈ e.fields, f'.name = key → f' = f := by
  obtain ⟨members, hmembers, hkey⟩ := hcore.exists_members
  have he := h.symm.trans (ofSample_eq_ok_iff.mpr ⟨members, hmembers, rfl⟩)
  cases he
  have hfields := fieldsOf_membersOf members
  have hname : key ∈ (fieldsOfMembers (membersOf members)).map (·.name) := by
    rw [hfields.names]
    exact List.mem_eraseDups.mpr hkey
  obtain ⟨f, hf, rfl⟩ := List.mem_map.mp hname
  exact ⟨f, hf, rfl, fun f' hf' hsame => List.inj_on_of_nodup_map hfields.nodup hf' hf hsame⟩

/-- A field whose value is a number has the type of what its literal is kept as. -/
theorem type_of_number (h : Entity.ofSample name sample = .ok e) (hf : f ∈ e.fields)
    (hcore : SpellsLast Literal.Fits 126 sample.toList f.name core) (hl : SpellsNumber core l) :
    f.type = .ofJson (.number l.number) := by
  obtain ⟨v, hspells, htype⟩ := exists_value_of_spellsLast h hf hcore
  rw [htype, hl.value_eq hspells]

theorem ofJson_number_eq_i64_iff (n : Number) :
    FieldType.ofJson (.number n) = .i64 ↔ ∃ k, n = .whole k := by
  cases n with
  | whole k => exact ⟨fun _ => ⟨k, rfl⟩, fun _ => rfl⟩
  | real spelling => exact ⟨fun h => (nomatch h), fun ⟨_, h⟩ => (nomatch h)⟩

theorem ofJson_number_cases (n : Number) :
    FieldType.ofJson (.number n) = .i64 ∨ FieldType.ofJson (.number n) = .f64 := by
  cases n with
  | whole k => exact .inl rfl
  | real spelling => exact .inr rfl

/-- A member of a sample whose last value is a number makes one field. It is an integer field just
if the number has neither a point nor a power of ten, is not written `-0`, and lies between the
least signed number of 64 bits and the largest unsigned one; else it is one of floating point. -/
theorem number_field_of_sample (h : Entity.ofSample name sample = .ok e)
    (hcore : SpellsLast Literal.Fits 126 sample.toList key core) (hl : SpellsNumber core l) :
    ∃ f ∈ e.fields, f.name = key ∧ (∀ f' ∈ e.fields, f'.name = key → f' = f) ∧
      (f.type = .i64 ↔ l.fraction = none ∧ l.exponent = none ∧ core ≠ ['-', '0'] ∧
        ∃ n : Int, l.Denotes n ∧ -2 ^ 63 ≤ n ∧ n ≤ 2 ^ 64 - 1) ∧
      (f.type ≠ .i64 → f.type = .f64) := by
  obtain ⟨f, hf, rfl, hunique⟩ := exists_field_of_spellsLast h hcore
  have htype := type_of_number h hf hcore hl
  refine ⟨f, hf, rfl, hunique, ?_, fun hreal => ?_⟩
  · rw [htype, ofJson_number_eq_i64_iff, Literal.exists_whole_iff]
    constructor
    · rintro ⟨hplain, hzero, hvalue⟩
      exact ⟨hplain.1, hplain.2, mt (hl.eq_negativeZero_iff hplain).mp hzero, hvalue⟩
    · rintro ⟨hfraction, hexponent, hzero, hvalue⟩
      have hplain : l.IsPlain := ⟨hfraction, hexponent⟩
      exact ⟨hplain, mt (hl.eq_negativeZero_iff hplain).mpr hzero, hvalue⟩
  · rw [htype] at hreal ⊢
    exact (ofJson_number_cases _).resolve_left hreal

private def negativeZero : Literal := ⟨true, ['0'], none, none⟩

private def largestWord : Literal := ⟨false, "18446744073709551615".toList, none, none⟩

private theorem spellsNumber_negativeZero : SpellsNumber "-0".toList negativeZero :=
  .negative rfl (.mk (l := negativeZero) (.inl rfl) .absent .absent)

private theorem spellsNumber_largestWord :
    SpellsNumber "18446744073709551615".toList largestWord := by
  have hwhole : IsWhole largestWord.whole :=
    .inr ⟨isDigits_of_all (by decide) (by decide), by decide⟩
  exact .positive rfl (.mk hwhole .absent .absent)

/-- The members of `{"a":-0,"b":18446744073709551615}`. -/
private def boundaryMembers : List Member :=
  [⟨⟨[], "\"a\"".toList, [], .nil, .nil⟩, "a", ⟨[], "-0".toList, [], .nil, .nil⟩,
      .number negativeZero.number⟩,
    ⟨⟨[], "\"b\"".toList, [], .nil, .nil⟩, "b",
      ⟨[], "18446744073709551615".toList, [], .nil, .nil⟩, .number largestWord.number⟩]

private theorem spells_boundaryMembers : ∀ p ∈ boundaryMembers,
    SpellsString p.keySource.core p.key ∧ Spells Literal.Fits 126 p.source.core p.value := by
  have hkey {c : Char} (hquote : c ≠ '\x22') (hslash : c ≠ '\\') (hcontrol : 0x20 ≤ c.toNat) :
      SpellsString ['\x22', c, '\x22'] (String.ofList [c]) :=
    .mk (.cons (.plain hquote hslash hcontrol) .nil)
  intro p hp
  simp only [boundaryMembers, List.mem_cons, List.not_mem_nil, or_false] at hp
  rcases hp with rfl | rfl
  · exact ⟨hkey (by decide) (by decide) (by decide),
      .number spellsNumber_negativeZero ⟨by decide +kernel, by simp [negativeZero]⟩⟩
  · exact ⟨hkey (by decide) (by decide) (by decide),
      .number spellsNumber_largestWord ⟨by decide +kernel, by simp [largestWord]⟩⟩

/-- A negative zero, and the largest number of 64 bits. -/
theorem number_fields_at_the_bounds :
    let sample := "\x7b\"a\":-0,\"b\":18446744073709551615\x7d"
    let e : Entity := ⟨"t", "T", [⟨"a", .f64⟩, ⟨"b", .i64⟩]⟩
    Entity.ofSample "t" sample = .ok e ∧
      SpellsLast Literal.Fits 126 sample.toList "a" "-0".toList ∧
      SpellsLast Literal.Fits 126 sample.toList "b" "18446744073709551615".toList ∧
      (∃ f ∈ e.fields, f.name = "a" ∧ f.type = .f64) ∧
      ∃ f ∈ e.fields, f.name = "b" ∧ f.type = .i64 := by
  intro sample e
  have h : Entity.ofSample "t" sample = .ok e := by decide +kernel
  have hsample : sample.toList = Padded.text ⟨[], '\x7b' ::
      between [] (boundaryMembers.map (·.text)) ++ ['\x7d'], [], .nil, .nil⟩ := by decide +kernel
  have hzero : SpellsLast Literal.Fits 126 sample.toList "a" "-0".toList :=
    ⟨_, [], [], boundaryMembers[0], [boundaryMembers[1]], hsample, .nil, rfl,
      spells_boundaryMembers, rfl, by decide, rfl⟩
  have hlargest : SpellsLast Literal.Fits 126 sample.toList "b" "18446744073709551615".toList :=
    ⟨_, [], [boundaryMembers[0]], boundaryMembers[1], [], hsample, .nil, rfl,
      spells_boundaryMembers, rfl, List.not_mem_nil, rfl⟩
  refine ⟨h, hzero, hlargest, ?_, ?_⟩
  · obtain ⟨f, hf, hname, -, hinteger, hreal⟩ :=
      number_field_of_sample h hzero spellsNumber_negativeZero
    exact ⟨f, hf, hname, hreal fun htype => (hinteger.mp htype).2.2.1 rfl⟩
  · obtain ⟨f, hf, hname, -, hinteger, -⟩ :=
      number_field_of_sample h hlargest spellsNumber_largestWord
    have hdenotes : largestWord.Denotes (2 ^ 64 - 1) := by decide +kernel
    exact ⟨f, hf, hname, hinteger.mpr ⟨rfl, rfl, by decide, _, hdenotes, by decide, by decide⟩⟩

end EntityGen
