import EntityGen.Proofs.Json.Soundness
import EntityGen.Proofs.Text.Ascii
import EntityGen.Prompt.Editor

/-!
# JSON texts on one line

A line break can only stand between the parts of a JSON text: no control character stands in a
string (`SpellsString.noControl`), a number (`SpellsNumber.noControl`) or a word. There it is white
space, as the space is that it becomes on one line. So a text on one line spells the same value, at
any depth (`Spells.flat`), and is read as the same value (`read_flat`).
-/

namespace EntityGen.Json

open Prompt.Editor (flatten)

variable {c : Char} {cs ds text spaces : List Char} {d n : Nat} {l : Literal} {v : Json}
  {fits : Literal → Prop}

/-! ## Texts without control characters -/

/-- No control character that precedes the space stands in a text. -/
def NoControl (cs : List Char) : Prop := ∀ c ∈ cs, 0x20 ≤ c.toNat

namespace NoControl

theorem nil : NoControl [] := fun _ hc => nomatch hc

theorem cons (hc : 0x20 ≤ c.toNat) (h : NoControl cs) : NoControl (c :: cs) :=
  List.forall_mem_cons.mpr ⟨hc, h⟩

theorem append (h : NoControl cs) (h' : NoControl ds) : NoControl (cs ++ ds) :=
  List.forall_mem_append.mpr ⟨h, h'⟩

theorem of_digits (h : ∀ c ∈ cs, c.isDigit = true) : NoControl cs := by
  intro c hc
  have := Text.isDigit_iff_toNat.mp (h c hc)
  omega

/-- Such a text has no line break. -/
theorem map_flatten (h : NoControl cs) : cs.map flatten = cs := by
  have hself : ∀ c ∈ cs, flatten c = c := by
    intro c hc
    have hcontrol := h c hc
    refine if_neg ?_
    rintro (rfl | rfl) <;> exact absurd hcontrol (by decide)
  exact (List.map_congr_left hself).trans cs.map_id

end NoControl

theorem le_toNat_of_hexValue? (h : hexValue? c = some n) : 0x20 ≤ c.toNat := by
  unfold hexValue? at h
  split at h
  · rename_i hdigit
    have := Text.isDigit_iff_toNat.mp hdigit
    omega
  split at h
  · rename_i hlower
    have hle : 'a'.toNat ≤ c.toNat := hlower.1
    exact Nat.le_trans (by decide) hle
  split at h
  · rename_i hupper
    have hle : 'A'.toNat ≤ c.toNat := hupper.1
    exact Nat.le_trans (by decide) hle
  · cases h

theorem noControl_of_fourHex? (h : fourHex? ds = some (n, [])) : NoControl ds := by
  obtain ⟨a, b, c, d, _, _, _, _, rfl, ha, hb, hc, hd, -⟩ := fourHex?_eq_some_iff.mp h
  refine .cons (le_toNat_of_hexValue? ha) (.cons (le_toNat_of_hexValue? hb) ?_)
  exact .cons (le_toNat_of_hexValue? hc) (.cons (le_toNat_of_hexValue? hd) .nil)

theorem le_toNat_of_plainEscape? {e : Char} (h : plainEscape? e = some c) : 0x20 ≤ e.toNat := by
  unfold plainEscape? at h
  split at h <;> first | decide | cases h

theorem SpellsChar.noControl (h : SpellsChar text c) : NoControl text := by
  have hunit {ds : List Char} (hds : NoControl ds) : NoControl ('\\' :: 'u' :: ds) :=
    .cons (by decide) (.cons (by decide) hds)
  cases h with
  | plain _ _ hcontrol => exact .cons hcontrol .nil
  | letter h => exact .cons (by decide) (.cons (le_toNat_of_plainEscape? h) .nil)
  | unit h _ _ => exact hunit (noControl_of_fourHex? h)
  | pair hds hes _ _ =>
    exact (hunit (noControl_of_fourHex? hds)).append (hunit (noControl_of_fourHex? hes))

theorem SpellsChars.noControl (h : SpellsChars text cs) : NoControl text := by
  induction h with
  | nil => exact .nil
  | cons hc _ ih => exact hc.noControl.append ih

theorem SpellsString.noControl {s : String} (h : SpellsString text s) : NoControl text := by
  cases h with
  | mk h => exact .append (.cons (by decide) h.noControl) (.cons (by decide) .nil)

theorem IsWhole.noControl (h : IsWhole ds) : NoControl ds := .of_digits h.isDigit

theorem SpellsFraction.noControl {fraction : Option (List Char)} (h : SpellsFraction text fraction) :
    NoControl text := by
  cases h with
  | absent => exact .nil
  | present hdigits => exact .cons (by decide) (.of_digits hdigits.2)

theorem SpellsSign.noControl {negative : Bool} (h : SpellsSign text negative) : NoControl text := by
  cases h with
  | absent => exact .nil
  | plus | minus => exact .cons (by decide) .nil

theorem SpellsExponent.noControl {exponent? : Option Exponent} (h : SpellsExponent text exponent?) :
    NoControl text := by
  cases h with
  | absent => exact .nil
  | present hmark hsign hdigits =>
    refine .cons ?_ (hsign.noControl.append (.of_digits hdigits.2))
    rcases hmark with rfl | rfl <;> decide

theorem SpellsUnsigned.noControl (h : SpellsUnsigned text l) : NoControl text := by
  cases h with
  | mk hwhole hfraction hexponent =>
    exact (hwhole.noControl.append hfraction.noControl).append hexponent.noControl

theorem SpellsNumber.noControl (h : SpellsNumber text l) : NoControl text := by
  cases h with
  | positive _ h => exact h.noControl
  | negative _ h => exact .cons (by decide) h.noControl

/-! ## White space and parts -/

theorem Spaces.flat (h : Spaces cs) : Spaces (cs.map flatten) := by
  intro c hc
  obtain ⟨b, hb, rfl⟩ := List.mem_map.mp hc
  unfold flatten
  split
  · rfl
  · exact h b hb

/-- A text on one line with the white space around it. -/
def Padded.flat (p : Padded) : Padded where
  lead := p.lead.map flatten
  core := p.core.map flatten
  trail := p.trail.map flatten
  spaces_lead := p.spaces_lead.flat
  spaces_trail := p.spaces_trail.flat

def Item.flat (p : Item) : Item := { p with source := p.source.flat }

def Member.flat (m : Member) : Member :=
  { m with keySource := m.keySource.flat, source := m.source.flat }

theorem Padded.text_flat (p : Padded) : p.flat.text = p.text.map flatten := by
  simp only [text, flat, List.map_append]

theorem Member.text_flat (m : Member) : m.flat.text = m.text.map flatten := by
  simp only [text, flat, Padded.text_flat, List.map_append, List.map_cons]
  rfl

theorem map_value_flat (parts : List Item) :
    (parts.map Item.flat).map (·.value) = parts.map (·.value) := List.map_map

theorem map_pair_flat (parts : List Member) :
    (parts.map Member.flat).map (·.pair) = parts.map (·.pair) := List.map_map

theorem map_flatten_between {α : Type} {part : α → List Char} {flat : α → α}
    (hpart : ∀ p, part (flat p) = (part p).map flatten) (spaces : List Char) (parts : List α) :
    (between spaces (parts.map part)).map flatten =
      between (spaces.map flatten) ((parts.map flat).map part) := by
  have hcomma : flatten ',' = ',' := rfl
  cases parts with
  | nil => rfl
  | cons p parts =>
    simp only [between, List.map_append, List.map_flatMap, List.flatMap_map, List.map_cons, hpart,
      hcomma]

/-! ## Values -/

/-- A text on one line spells what it spells over several. -/
theorem Spells.flat (h : Spells fits d text v) : Spells fits d (text.map flatten) v := by
  induction h with
  | null => exact .null
  | isTrue => exact .isTrue
  | isFalse => exact .isFalse
  | number h hfits => exact h.noControl.map_flatten.symm ▸ .number h hfits
  | string h => exact h.noControl.map_flatten.symm ▸ .string h
  | @array d spaces parts hspaces _ ih =>
    have hparts : ∀ p ∈ parts.map Item.flat, Spells fits d p.source.core p.value :=
      List.forall_mem_map.mpr ih
    have hitem : ∀ p : Item, p.flat.source.text = p.source.text.map flatten :=
      fun p => p.source.text_flat
    rw [List.map_append, List.map_cons, map_flatten_between hitem, ← map_value_flat]
    exact .array hspaces.flat hparts
  | @object d spaces parts hspaces hkeys _ ih =>
    have hparts : ∀ p ∈ parts.map Member.flat, Spells fits d p.source.core p.value :=
      List.forall_mem_map.mpr ih
    have hkeys : ∀ p ∈ parts.map Member.flat, SpellsString p.keySource.core p.key := by
      rw [List.forall_mem_map]
      intro p hp
      change SpellsString (p.keySource.core.map flatten) p.key
      rw [(hkeys p hp).noControl.map_flatten]
      exact hkeys p hp
    rw [List.map_append, List.map_cons, map_flatten_between Member.text_flat, ← map_pair_flat]
    exact .object hspaces.flat hkeys hparts

/-- A text on one line is read as the same value. -/
theorem read_flat (h : read text = .ok v) : read (text.map flatten) = .ok v := by
  obtain ⟨source, rfl, hspells⟩ := read_eq_ok_iff.mp h
  exact read_eq_ok_iff.mpr ⟨source.flat, source.text_flat.symm, hspells.flat⟩

end EntityGen.Json
