import EntityGen.Proofs.Json.OneLine
import EntityGen.Proofs.Pasting
import EntityGen.Proofs.SampleFields

/-!
# Samples that are pasted

A sample that is pasted at a prompt is put on one line, where it is the same sample
(`pasted_sample_is_kept`): a line break stands between its parts only. Unlike a table it has no
comments and no names over several lines.
-/

namespace EntityGen

open Prompt (Editor Session)

namespace Entity

variable {name text : String} {e : Entity}

/-- A sample on one line makes the same entity. -/
theorem ofSample_flat (h : ofSample name text = .ok e) :
    ofSample name (String.ofList (text.toList.map Editor.flatten)) = .ok e := by
  obtain ⟨members, hmembers, rfl⟩ := ofSample_eq_ok_iff.mp h
  have hread := Json.read_flat (read_eq_object_iff.mpr ⟨members, hmembers, rfl⟩)
  simp only [ofSample, String.toList_ofList, hread]

/-- A sample is more than white space. -/
theorem not_blank_of_ofSample (h : ofSample name text = .ok e) :
    text.toList.all Text.isBlank = false := by
  obtain ⟨_, ⟨source, spaces, parts, htext, -, hcore, -, -⟩, -⟩ := ofSample_eq_ok_iff.mp h
  have hbrace : '\x7b' ∈ text.toList := by
    rw [htext, Json.Padded.text, hcore]
    simp
  rw [List.all_eq_false]
  exact ⟨'\x7b', hbrace, by decide⟩

end Entity

/-- A sample that is pasted at a prompt and submitted makes the same entity. -/
theorem pasted_sample_is_kept {name text : String} {e : Entity}
    (h : Entity.ofSample name text = .ok e) :
    ∃ entered, Session.pasted? text = some entered ∧ Entity.ofSample name entered = .ok e := by
  have hflat := Entity.ofSample_flat h
  have hblank := Entity.not_blank_of_ofSample hflat
  rw [String.toList_ofList] at hblank
  exact ⟨_, Session.pasted?_eq_some_iff.mpr ⟨hblank, rfl⟩, hflat⟩

/-- Line breaks of both kinds between the parts, also inside an array, of which only the kind
counts, and an escaped one in a key. -/
theorem pasted_event_is_kept :
    let text := "\r\n\x7b\n  \"a\\nb\": [1,\r\n\t\x7b\"c\"\n:\r null\x7d ] ,\n \"d\" : -2e+3\n\x7d\n"
    let e : Entity := ⟨"event", "Event", [⟨"a\nb", .string⟩, ⟨"d", .f64⟩]⟩
    Entity.ofSample "event" text = .ok e ∧
      ∃ entered, Session.pasted? text = some entered ∧ Entity.ofSample "event" entered = .ok e := by
  intro text e
  have hsample : Entity.ofSample "event" text = .ok e := by decide +kernel
  exact ⟨hsample, pasted_sample_is_kept hsample⟩

/-- The converse fails: in a string a line break is refused, but not the space that it becomes. -/
example :
    let text := "\x7b\"a\nb\": 1\x7d"
    (Entity.ofSample "event" text).toOption = none ∧
      (Session.pasted? text).map (fun entered => (Entity.ofSample "event" entered).toOption) =
        some (some ⟨"event", "Event", [⟨"a b", .i64⟩]⟩) := by
  decide +kernel

end EntityGen
