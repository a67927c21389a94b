import EntityGen.Json.Value
import Mathlib.Data.List.Induction
import Mathlib.Data.List.Nodup

/-!
# The members of an object that count

Of the members spelled in an object those of `membersOf` count: its keys are the ones spelled,
without their repetitions (`keys_membersOf`), and each has the value of its last appearance
(`mem_membersOf`). Nothing is lost if no key is spelled twice (`membersOf_eq_self`).
-/

namespace EntityGen.Json

variable {α : Type} {key k : String} {value v : α} {ms : List (String × α)}

theorem membersOf_concat (ms : List (String × α)) (key : String) (value : α) :
    membersOf (ms ++ [(key, value)]) = setMember key value (membersOf ms) := by
  simp [membersOf, List.foldl_append]

theorem keys_membersOf (ms : List (String × α)) :
    (membersOf ms).map (·.1) = (ms.map (·.1)).eraseDups := by
  induction ms using List.reverseRecOn with
  | nil => rfl
  | append_singleton ms m ih =>
    obtain ⟨key, value⟩ := m
    rw [membersOf_concat, keys_setMember, ih, List.map_append, List.eraseDups_append]
    by_cases h : key ∈ ms.map (·.1)
    · rw [if_pos (List.mem_eraseDups.mpr h)]
      simp [List.removeAll, h]
    · rw [if_neg (mt List.mem_eraseDups.mp h)]
      simp [List.removeAll, h, List.eraseDups_cons]

theorem nodup_keys_setMember (h : (ms.map (·.1)).Nodup) :
    ((setMember key value ms).map (·.1)).Nodup := by
  rw [keys_setMember]
  split
  · exact h
  · rename_i hkey
    exact h.append (List.nodup_singleton key) (List.disjoint_singleton.mpr hkey)

theorem nodup_keys_membersOf (ms : List (String × α)) : ((membersOf ms).map (·.1)).Nodup := by
  induction ms using List.reverseRecOn with
  | nil => exact .nil
  | append_singleton ms m ih =>
    rw [membersOf_concat]
    exact nodup_keys_setMember ih

theorem mem_setMember (hnodup : (ms.map (·.1)).Nodup) (h : (k, v) ∈ setMember key value ms) :
    k = key ∧ v = value ∨ k ≠ key ∧ (k, v) ∈ ms := by
  induction ms with
  | nil => simpa [setMember] using h
  | cons m ms ih =>
    obtain ⟨k', v'⟩ := m
    obtain ⟨hfirst, hnodup⟩ := List.nodup_cons.mp hnodup
    by_cases hk : k' = key
    · subst hk
      rw [setMember, if_pos rfl] at h
      rcases List.mem_cons.mp h with heq | hmem
      · exact .inl (Prod.mk.inj heq)
      · refine .inr ⟨?_, List.mem_cons_of_mem _ hmem⟩
        rintro rfl
        exact hfirst (List.mem_map.mpr ⟨_, hmem, rfl⟩)
    · rw [setMember, if_neg hk] at h
      rcases List.mem_cons.mp h with h | h
      · obtain ⟨rfl, rfl⟩ := Prod.mk.inj h
        exact .inr ⟨hk, List.mem_cons_self⟩
      · exact (ih hnodup h).imp_right (And.imp_right (List.mem_cons_of_mem _))

/-- A member that counts is the last one of its key. -/
theorem mem_membersOf (h : (k, v) ∈ membersOf ms) :
    ∃ before after, ms = before ++ (k, v) :: after ∧ k ∉ after.map (·.1) := by
  induction ms using List.reverseRecOn with
  | nil => exact nomatch h
  | append_singleton ms m ih =>
    obtain ⟨key, value⟩ := m
    rw [membersOf_concat] at h
    rcases mem_setMember (nodup_keys_membersOf ms) h with ⟨rfl, rfl⟩ | ⟨hne, h⟩
    · exact ⟨ms, [], rfl, by simp⟩
    · obtain ⟨before, after, rfl, hafter⟩ := ih h
      refine ⟨before, after ++ [(key, value)], by simp, ?_⟩
      simpa [hne] using hafter

theorem setMember_of_notMem (h : key ∉ ms.map (·.1)) :
    setMember key value ms = ms ++ [(key, value)] := by
  induction ms with
  | nil => rfl
  | cons m ms ih =>
    obtain ⟨k, v⟩ := m
    rw [List.map_cons, List.mem_cons, not_or] at h
    rw [setMember, if_neg (Ne.symm h.1), ih h.2, List.cons_append]

theorem membersOf_eq_self (h : (ms.map (·.1)).Nodup) : membersOf ms = ms := by
  induction ms using List.reverseRecOn with
  | nil => rfl
  | append_singleton ms m ih =>
    rw [List.map_append, List.map_singleton, List.nodup_append] at h
    obtain ⟨hms, _, hdisjoint⟩ := h
    rw [membersOf_concat, ih hms, setMember_of_notMem]
    exact fun hmem => hdisjoint _ hmem _ (List.mem_singleton_self _) rfl

end EntityGen.Json
