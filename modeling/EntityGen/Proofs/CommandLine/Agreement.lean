import EntityGen.CommandLine.Request

/-!
# Arguments of an accepted command line

What a request tells of the arguments that were given (`read_inv`, `has_eq_isSome_lookup`), and what
the checks for agreement leave: no two given arguments exclude each other
(`not_excludes_of_agreed`), so a request for a schema has no name (`name_eq_none_of_schema`).
-/

namespace EntityGen.CommandLine

variable {given : Given} {a b : Argument} {words : List String} {target : Option String}
  {r : Request}

/-- Work that succeeds in two stages succeeds in each. -/
theorem ok_of_bind {ε α β : Type} {e : Except ε α} {f : α → Except ε β} {y : β}
    (h : e >>= f = .ok y) : ∃ x, e = .ok x ∧ f x = .ok y := by
  cases e with
  | error cause => cases h
  | ok x => exact ⟨x, rfl, h⟩

namespace Given

theorem has_eq_isSome_lookup (given : Given) (a : Argument) :
    given.has a = (given.lookup a).isSome := by
  induction given with
  | nil => rfl
  | cons x given ih =>
    obtain ⟨b, v⟩ := x
    by_cases h : a = b
    · simp [has, h]
    · have h' : (a == b) = false := by simpa using h
      have h'' : (b == a) = false := by simpa using Ne.symm h
      rw [List.lookup_cons, h', ← ih]
      simp [has, h'']

theorem has_iff_mem_keys : given.has a = true ↔ a ∈ given.map (·.1) := by
  simp only [has, List.any_eq_true, List.mem_map, beq_iff_eq]

theorem exclusion?_of_disagreement? (h : given.disagreement? = none) :
    given.exclusion? = none := by
  unfold disagreement? at h
  split at h
  · cases h
  · assumption

/-- Of arguments that agree no two exclude each other. -/
theorem not_excludes_of_agreed (h : given.disagreement? = none) (ha : given.has a = true)
    (hb : given.has b = true) : a.excludes b = false := by
  have hnone := List.findSome?_eq_none_iff.mp (exclusion?_of_disagreement? h) a
    (has_iff_mem_keys.mp ha)
  have hnil : given.excluded a = [] := by
    split at hnone
    · assumption
    · cases hnone
  cases hex : a.excludes b with
  | false => rfl
  | true =>
    have : b ∈ given.excluded a := List.mem_filter.mpr ⟨has_iff_mem_keys.mp hb, hex⟩
    simp [hnil] at this

end Given

/-- A request is made of given arguments that agree. -/
theorem read_inv (h : read words target = .ok r) :
    ∃ given₀ given, readWords .start words = .ok given₀ ∧ given₀.withDefault target = .ok given ∧
      given.disagreement? = none ∧ r = .ofGiven given := by
  obtain ⟨given₀, h₀, h⟩ := ok_of_bind h
  obtain ⟨given, hgiven, h⟩ := ok_of_bind h
  split at h
  · cases h
  · rename_i hnone
    exact ⟨given₀, given, h₀, hgiven, hnone, by injection h with h; exact h.symm⟩

theorem name_eq_none_of_schema (h : read words target = .ok r) (hs : r.schema = true) :
    r.name = none := by
  obtain ⟨_, given, _, _, hagreed, rfl⟩ := read_inv h
  cases hname : (Request.ofGiven given).name with
  | none => rfl
  | some name =>
    have hn : given.has .name = true := by
      rw [Given.has_eq_isSome_lookup]
      exact Option.isSome_of_eq_some hname
    exact absurd (Given.not_excludes_of_agreed hagreed hs hn) (by decide)

end EntityGen.CommandLine
