import EntityGen.Proofs.Json.Members
import EntityGen.Proofs.Json.Range
import EntityGen.Proofs.Json.Soundness
import EntityGen.Sample

/-!
# The fields of a sample

A sample that spells an object gives one field for each key, where the key first appears, of the
type of the value that it has last (`FieldsOf`). A text is a sample exactly if it spells an object
(`ofSample_eq_ok_iff`), and then the fields are those of the members that count
(`fieldsOf_membersOf`).
-/

namespace EntityGen

open Json

variable {name sample : String} {fields : List Field} {members : List (String × Json)}

/-- The fields of an object spelled by these members: one for each key where it first appears, of
the type of the value that the key has last. -/
structure FieldsOf (members : List (String × Json)) (fields : List Field) : Prop where
  names : fields.map (·.name) = (members.map (·.1)).eraseDups
  nodup : (fields.map (·.name)).Nodup
  last : ∀ f ∈ fields, ∃ before value after, members = before ++ (f.name, value) :: after ∧
    f.name ∉ after.map (·.1) ∧ f.type = .ofJson value

theorem names_fieldsOfMembers (ms : List (String × Json)) :
    (fieldsOfMembers ms).map (·.name) = ms.map (·.1) := by
  rw [fieldsOfMembers, List.map_map]
  rfl

theorem fieldsOf_membersOf (members : List (String × Json)) :
    FieldsOf members (fieldsOfMembers (membersOf members)) where
  names := (names_fieldsOfMembers _).trans (keys_membersOf members)
  nodup := names_fieldsOfMembers _ ▸ nodup_keys_membersOf members
  last := by
    intro f hf
    obtain ⟨⟨key, value⟩, hmem, rfl⟩ := List.mem_map.mp hf
    obtain ⟨before, after, hmembers, hafter⟩ := mem_membersOf hmem
    exact ⟨before, value, after, hmembers, hafter, rfl⟩

/-- A text is read as an object exactly if it spells one whose values nest at most 126 deep. -/
theorem read_eq_object_iff {text : List Char} {ms : List (String × Json)} :
    Json.read text = .ok (.object ms) ↔
      ∃ members, SpellsObject Literal.Fits 126 text members ∧ ms = membersOf members := by
  rw [read_eq_ok_iff]
  constructor
  · rintro ⟨⟨lead, core, trail, hlead, htrail⟩, rfl, h⟩
    cases h with
    | object hspaces hkeys hparts =>
      exact ⟨_, ⟨⟨lead, _, trail, hlead, htrail⟩, _, _, rfl, hspaces, rfl,
        fun p hp => ⟨hkeys p hp, hparts p hp⟩, rfl⟩, rfl⟩
  · rintro ⟨_, ⟨source, spaces, parts, rfl, hspaces, hcore, hparts, rfl⟩, rfl⟩
    refine ⟨source, rfl, hcore ▸ ?_⟩
    exact .object hspaces (fun p hp => (hparts p hp).1) fun p hp => (hparts p hp).2

/-- Which texts are samples, and what their fields are. -/
theorem ofSample_eq_ok_iff {e : Entity} : Entity.ofSample name sample = .ok e ↔
    ∃ members, SpellsObject Literal.Fits 126 sample.toList members ∧
      e = ⟨name, Casing.pascal name, fieldsOfMembers (membersOf members)⟩ := by
  unfold Entity.ofSample
  split
  · rename_i hread
    refine ⟨fun h => (nomatch h), fun ⟨members, hmembers, _⟩ => ?_⟩
    exact absurd (hread.symm.trans (read_eq_object_iff.mpr ⟨members, hmembers, rfl⟩)) (by simp)
  · rename_i ms hread
    obtain ⟨members, hmembers, rfl⟩ := read_eq_object_iff.mp hread
    refine ⟨fun h => ⟨members, hmembers, (Except.ok.inj h).symm⟩, fun ⟨others, hothers, h⟩ => ?_⟩
    have := hread.symm.trans (read_eq_object_iff.mpr ⟨others, hothers, rfl⟩)
    rw [h, Json.object.inj (Except.ok.inj this)]
  · rename_i v hobject hread
    refine ⟨fun h => (nomatch h), fun ⟨members, hmembers, _⟩ => ?_⟩
    have := hread.symm.trans (read_eq_object_iff.mpr ⟨members, hmembers, rfl⟩)
    exact absurd (Except.ok.inj this) (hobject _)

/-- Every spelling of an object gives its fields, also where all that is known of its numbers is that
they are of a size that is surely read. Every other text is refused. -/
theorem ofSample_of_spelling (name sample : String) :
    (∀ members, SpellsObject Literal.Fits 126 sample.toList members →
      ∃ e, Entity.ofSample name sample = .ok e ∧ e.fileStem = name ∧
        e.structName = Casing.pascal name ∧ FieldsOf members e.fields) ∧
    (∀ members, SpellsObject Literal.SurelyFits 126 sample.toList members →
      ∃ e, Entity.ofSample name sample = .ok e ∧ e.fileStem = name ∧
        e.structName = Casing.pascal name ∧ FieldsOf members e.fields) ∧
    ((∀ members, ¬ SpellsObject Literal.Fits 126 sample.toList members) →
      ∃ cause, Entity.ofSample name sample = .error cause) := by
  have hfits {members} (hmembers : SpellsObject Literal.Fits 126 sample.toList members) :
      ∃ e, Entity.ofSample name sample = .ok e ∧ e.fileStem = name ∧
        e.structName = Casing.pascal name ∧ FieldsOf members e.fields :=
    ⟨_, ofSample_eq_ok_iff.mpr ⟨members, hmembers, rfl⟩, rfl, rfl, fieldsOf_membersOf members⟩
  refine ⟨fun members => hfits, fun members hmembers => ?_, fun hnone => ?_⟩
  · exact hfits (hmembers.mono fun text l hl hsize => hsize.fits hl.isWhole.isDigit)
  · cases h : Entity.ofSample name sample with
    | error cause => exact ⟨cause, rfl⟩
    | ok e =>
      obtain ⟨members, hmembers, -⟩ := ofSample_eq_ok_iff.mp h
      exact absurd hmembers (hnone members)

/-- The literal of a whole number that is multiplied by a power of ten. -/
def Json.Literal.scientific (whole power : String) : Literal :=
  ⟨false, whole.toList, none, some ⟨false, power.toList⟩⟩

/-- A sample of one such number. -/
theorem spellsObject_scientific {fits : Literal → Prop} {whole power : String}
    (hsample : sample = "\x7b\"a\":" ++ whole ++ "e" ++ power ++ "\x7d")
    (hwhole : IsWhole whole.toList) (hpower : IsDigits power.toList)
    (hfits : fits (Literal.scientific whole power)) :
    SpellsObject fits 126 sample.toList [("a", .number (Literal.scientific whole power).number)] := by
  have hexponent : SpellsExponent ('e' :: power.toList) (Literal.scientific whole power).exponent :=
    .present (.inl rfl) .absent hpower
  let core := whole.toList ++ [] ++ 'e' :: power.toList
  have hnumber : Spells fits 126 core (.number (Literal.scientific whole power).number) :=
    .number (.positive rfl (.mk hwhole .absent hexponent)) hfits
  let member : Member := ⟨⟨[], "\"a\"".toList, [], .nil, .nil⟩, "a", ⟨[], core, [], .nil, .nil⟩,
    .number (Literal.scientific whole power).number⟩
  refine ⟨⟨[], '\x7b' :: member.text ++ ['\x7d'], [], .nil, .nil⟩, [], [member], ?_, .nil, ?_, ?_,
    rfl⟩
  · simp [hsample, Padded.text, Member.text, member, core]
  · simp [between]
  · exact List.forall_mem_singleton.mpr
      ⟨.mk (.cons (.plain (by decide) (by decide) (by decide)) .nil), hnumber⟩

/-- The members of `{"a":1, "\u0061":true}`. -/
private def repeatedMembers : List Member :=
  [⟨⟨[], "\"a\"".toList, [], .nil, .nil⟩, "a", ⟨[], ['1'], [], .nil, .nil⟩, .number (.whole 1)⟩,
    ⟨⟨[' '], "\"\\u0061\"".toList, [], by simp [Spaces, isSpace], .nil⟩, "a",
      ⟨[], "true".toList, [], .nil, .nil⟩, .bool true⟩]

theorem spellsObject_repeated :
    SpellsObject Literal.Fits 126 "\x7b\"a\":1, \"\\u0061\":true\x7d".toList
      [("a", .number (.whole 1)), ("a", .bool true)] := by
  refine ⟨⟨[], _, [], .nil, .nil⟩, [], repeatedMembers, ?_, .nil, rfl, ?_, rfl⟩
  · decide +kernel
  · have hwhole : IsWhole ['1'] := .inr ⟨isDigits_of_all (by decide) (by decide), by decide⟩
    have hnumber := SpellsUnsigned.mk (l := ⟨false, ['1'], none, none⟩) hwhole .absent .absent
    have hone : Spells Literal.Fits 126 ['1'] (.number (.whole 1)) :=
      .number (.positive rfl hnumber) ⟨by decide +kernel, fun _ he => nomatch he⟩
    have hplain : SpellsString "\"a\"".toList "a" :=
      .mk (.cons (.plain (by decide) (by decide) (by decide)) .nil)
    have hescaped : SpellsString "\"\\u0061\"".toList "a" :=
      .mk (.cons (@SpellsChar.unit "0061".toList 0x61 rfl rfl rfl) .nil)
    simp only [repeatedMembers, List.forall_mem_cons]
    exact ⟨⟨hplain, hone⟩, ⟨hescaped, .isTrue⟩, fun _ hp => nomatch hp⟩

/-- A key that is written in two ways, a number of the largest size that is surely read, and a text
that is no object. -/
theorem ofSample_of_spelling_repeated :
    (∃ e, Entity.ofSample "order_item" "\x7b\"a\":1, \"\\u0061\":true\x7d" = .ok e ∧
      e.fileStem = "order_item" ∧ e.structName = Casing.pascal "order_item" ∧
      FieldsOf [("a", .number (.whole 1)), ("a", .bool true)] e.fields) ∧
    (∃ e, Entity.ofSample "order_item" "\x7b\"a\":1797693134862315e293\x7d" = .ok e ∧
      e.fileStem = "order_item" ∧ e.structName = Casing.pascal "order_item" ∧
      FieldsOf [("a", .number (Literal.scientific "1797693134862315" "293").number)] e.fields) ∧
    ∃ cause, Entity.ofSample "order_item" "[1]" = .error cause := by
  have hlarge : SpellsObject Literal.SurelyFits 126
      "\x7b\"a\":1797693134862315e293\x7d".toList
      [("a", .number (Literal.scientific "1797693134862315" "293").number)] :=
    spellsObject_scientific (by decide +kernel)
      (.inr ⟨isDigits_of_all (by decide) (by decide), by decide⟩)
      (isDigits_of_all (by decide) (by decide))
      ⟨by decide +kernel, fun e he _ _ => Option.some.inj he ▸ by decide⟩
  refine ⟨(ofSample_of_spelling _ _).1 _ spellsObject_repeated,
    (ofSample_of_spelling _ _).2.1 _ hlarge,
    (ofSample_of_spelling _ _).2.2 fun members hmembers => ?_⟩
  obtain ⟨e, he, _⟩ := (ofSample_of_spelling "order_item" "[1]").1 members hmembers
  have hnone : (Entity.ofSample "order_item" "[1]").toOption = none := by decide +kernel
  rw [he] at hnone
  exact nomatch hnone

/-- Two roundings take a number just below the largest one beyond it. -/
theorem not_ofSample_of_largest : ¬ ∀ name sample members,
    SpellsObject (·.AtMost largestFloat) 126 sample.toList members →
      ∃ e, Entity.ofSample name sample = .ok e := by
  intro h
  have hspells : SpellsObject (·.AtMost largestFloat) 126
      "\x7b\"a\":1797693134862315708e290\x7d".toList
      [("a", .number (Literal.scientific "1797693134862315708" "290").number)] :=
    spellsObject_scientific (by decide +kernel)
      (.inr ⟨isDigits_of_all (by decide) (by decide), by decide⟩)
      (isDigits_of_all (by decide) (by decide)) (by decide +kernel)
  obtain ⟨e, he⟩ := h "order_item" _ _ hspells
  have hnone : (Entity.ofSample "order_item" "\x7b\"a\":1797693134862315708e290\x7d").toOption =
      none := by decide +kernel
  rw [he] at hnone
  exact nomatch hnone

end EntityGen
