import EntityGen.Json.Printer
import EntityGen.Proofs.Json.Members
import EntityGen.Proofs.Json.Reading

/-!
# What is printed is read back

The written form of a value spells it in every layout that sets its parts apart by white space
(`Printable.spells_write`), so it is read back as the same value (`Printable.read_write`).
-/

namespace EntityGen.Json

variable {fits : Literal → Prop} {d : Nat} {v : Json} {l : Layout} {c : Char} {cs : List Char}

/-- Values that can be told from their written form: no object has a key twice, and numbers are
written as they may be read. Arrays and objects nest at most `d` deep. -/
inductive Printable (fits : Literal → Prop) : Nat → Json → Prop where
  | null {d : Nat} : Printable fits d .null
  | bool {d : Nat} (b : Bool) : Printable fits d (.bool b)
  | number {d : Nat} {l : Literal} {n : Number} (h : SpellsNumber n.text.toList l) (hfits : fits l)
      (hn : l.number = n) : Printable fits d (.number n)
  | string {d : Nat} (s : String) : Printable fits d (.string s)
  | array {d : Nat} {items : List Json} (h : ∀ v ∈ items, Printable fits d v) :
      Printable fits (d + 1) (.array items)
  | object {d : Nat} {members : List (String × Json)} (hkeys : (members.map (·.1)).Nodup)
      (h : ∀ m ∈ members, Printable fits d m.2) : Printable fits (d + 1) (.object members)

/-- A layout that writes nothing but white space between the parts. -/
structure Layout.Blank (l : Layout) : Prop where
  lead : ∀ level, Spaces (l.lead level)
  trail : ∀ level, Spaces (l.trail level)
  colon : ∃ spaces, Spaces spaces ∧ l.colon = ':' :: spaces

theorem Layout.blank_compact : Layout.compact.Blank :=
  ⟨fun _ => .nil, fun _ => .nil, [], .nil, rfl⟩

theorem spaces_indent (n : Nat) : Spaces ('\n' :: List.replicate n ' ') := by
  intro c hc
  rcases List.mem_cons.mp hc with rfl | hc
  · rfl
  · rw [List.eq_of_mem_replicate hc]
    rfl

theorem Layout.blank_pretty : Layout.pretty.Blank :=
  ⟨fun _ => spaces_indent _, fun _ => spaces_indent _, [' '], by simp [Spaces, isSpace], rfl⟩

/-! ## Strings -/

theorem fourHex?_control :
    ∀ n < 0x20, fourHex? ['0', '0', hexDigit (n / 16), hexDigit (n % 16)] = some (n, []) := by
  decide

theorem spellsChar_control {n : Nat} (h : n < 0x20) :
    SpellsChar ['\\', 'u', '0', '0', hexDigit (n / 16), hexDigit (n % 16)] (Char.ofNat n) := by
  refine .unit (fourHex?_control n h) ?_ ?_
  all_goals
    simp only [isHighSurrogate, isLowSurrogate, Bool.and_eq_false_iff, decide_eq_false_iff_not]
    omega

/-- Every character is escaped in a way that stands for it. -/
theorem spellsChar_escapedChar (c : Char) : SpellsChar (escapedChar c) c := by
  by_cases hshort : c ∈ ['\x22', '\\', '\x08', '\t', '\n', '\x0c', '\r']
  · simp only [List.mem_cons, List.not_mem_nil, or_false] at hshort
    rcases hshort with rfl | rfl | rfl | rfl | rfl | rfl | rfl <;> exact .letter rfl
  · simp only [List.mem_cons, List.not_mem_nil, or_false, not_or] at hshort
    obtain ⟨hquote, hslash, hb, ht, hn, hf, hr⟩ := hshort
    simp only [escapedChar, hquote, hslash, hb, ht, hn, hf, hr, if_false]
    split
    · rename_i hcontrol
      have h := spellsChar_control hcontrol
      rwa [Char.ofNat_toNat] at h
    · rename_i hcontrol
      exact .plain hquote hslash (by omega)

theorem spellsChars_escaped (cs : List Char) : SpellsChars (cs.flatMap escapedChar) cs := by
  induction cs with
  | nil => exact .nil
  | cons c cs ih => exact .cons (spellsChar_escapedChar c) ih

theorem spellsString_quoted (s : String) : SpellsString (quoted s) s := by
  have h := SpellsString.mk (spellsChars_escaped s.toList)
  rwa [String.ofList_toList] at h

/-! ## Arrays and objects -/

section Parts

variable {α γ : Type} {trail : List Char}

/-- Pieces between commas are parts of which the last one takes the white space at the end. -/
theorem exists_parts (text : γ → List Char) (result : γ → α) (good : γ → Prop)
    (piece : α → List Char) (a : α) (rest : List α) (htrail : Spaces trail)
    (hpart : ∀ b ∈ a :: rest, ∀ spaces, Spaces spaces →
      ∃ p, text p = piece b ++ spaces ∧ result p = b ∧ good p) :
    ∃ parts : List γ, parts.map result = a :: rest ∧ (∀ p ∈ parts, good p) ∧
      between [] (parts.map text) = piece a ++ (rest.flatMap (',' :: piece ·) ++ trail) := by
  induction rest generalizing a with
  | nil =>
    obtain ⟨p, htext, hresult, hgood⟩ := hpart a List.mem_cons_self trail htrail
    exact ⟨[p], by simp [hresult], by simpa using hgood, by simp [between, htext]⟩
  | cons b rest ih =>
    obtain ⟨parts, hresults, hgoods, htexts⟩ := ih b fun b hb => hpart b (List.mem_cons_of_mem _ hb)
    obtain ⟨p, htext, hresult, hgood⟩ := hpart a List.mem_cons_self [] .nil
    refine ⟨p :: parts, by simp [hresult, hresults], List.forall_mem_cons.mpr ⟨hgood, hgoods⟩, ?_⟩
    cases parts with
    | nil => cases hresults
    | cons q parts =>
      simp only [List.map_cons, between, List.flatMap_cons, htext, List.append_nil,
        List.cons_append, List.append_assoc] at htexts ⊢
      rw [htexts]

end Parts

theorem writeItems_eq (l : Layout) (level : Nat) (items : List Json) :
    writeItems l level items =
      items.flatMap fun v => ',' :: (l.lead level ++ write l (level + 1) v) := by
  induction items with
  | nil => rfl
  | cons v items ih => simp [writeItems, ih]

theorem writeMembers_eq (l : Layout) (level : Nat) (members : List (String × Json)) :
    writeMembers l level members = members.flatMap fun m =>
      ',' :: (l.lead level ++ quoted m.1 ++ l.colon ++ write l (level + 1) m.2) := by
  induction members with
  | nil => rfl
  | cons m members ih =>
    obtain ⟨key, v⟩ := m
    simp [writeMembers, ih]

/-- The written form of a value spells it. -/
theorem Printable.spells_write (hl : l.Blank) (h : Printable fits d v) (level : Nat) :
    Spells fits d (write l level v) v := by
  induction h generalizing level with
  | null => exact .null
  | bool b =>
    cases b with
    | false => exact .isFalse
    | true => exact .isTrue
  | @number d literal n h hfits hn =>
    subst hn
    exact .number h hfits
  | string s => exact .string (spellsString_quoted s)
  | @array d items _ ih =>
    cases items with
    | nil => exact @Spells.array fits d [] [] .nil fun _ hp => nomatch hp
    | cons v items =>
      obtain ⟨parts, hresults, hgoods, htexts⟩ := exists_parts (·.source.text) Item.value
        (fun p => Spells fits d p.source.core p.value)
        (fun v => l.lead level ++ write l (level + 1) v) v items (hl.trail level)
        fun w hw spaces hspaces =>
          ⟨⟨⟨l.lead level, write l (level + 1) w, spaces, hl.lead level, hspaces⟩, w⟩, rfl, rfl,
            ih w hw (level + 1)⟩
      have harray := Spells.array .nil hgoods
      rw [hresults, htexts] at harray
      simpa [write, writeItems_eq] using harray
  | @object d members hkeys _ ih =>
    obtain ⟨spaces, hspaces, hcolon⟩ := hl.colon
    cases members with
    | nil => exact @Spells.object fits d [] [] .nil (fun _ hp => nomatch hp) fun _ hp => nomatch hp
    | cons m members =>
      obtain ⟨parts, hresults, hgoods, htexts⟩ := exists_parts Member.text Member.pair
        (fun p => SpellsString p.keySource.core p.key ∧ Spells fits d p.source.core p.value)
        (fun m => l.lead level ++ quoted m.1 ++ l.colon ++ write l (level + 1) m.2) m members
        (hl.trail level) fun m hm trail htrail =>
          ⟨⟨⟨l.lead level, quoted m.1, [], hl.lead level, .nil⟩, m.1,
            ⟨spaces, write l (level + 1) m.2, trail, hspaces, htrail⟩, m.2⟩,
            by simp [Member.text, Padded.text, hcolon], rfl, spellsString_quoted m.1,
            ih m hm (level + 1)⟩
      have hobject := Spells.object .nil (fun p hp => (hgoods p hp).1) fun p hp => (hgoods p hp).2
      rw [hresults, htexts, membersOf_eq_self hkeys] at hobject
      simpa [write, writeMembers_eq] using hobject

/-- A written value is read back, whatever white space follows it. -/
theorem Printable.read_write (hl : l.Blank) (h : Printable Literal.Fits maxDepth v)
    {trail : List Char} (htrail : Spaces trail) : Json.read (write l 0 v ++ trail) = .ok v := by
  have := read_of_spells ⟨[], write l 0 v, trail, .nil, htrail⟩ (h.spells_write hl 0)
  simpa [Padded.text] using this

end EntityGen.Json
