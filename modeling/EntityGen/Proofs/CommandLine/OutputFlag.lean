import EntityGen.Proofs.CommandLine.FirstArgument

/-!
# A flag for the output in front

A command line that writes a file turns into one that prints the entity, or the schema, when the
flag for it is given before all other arguments (`read_print`, `read_schema`).
-/

namespace EntityGen.CommandLine

variable {a : Argument} {given : Given} {words : List String} {target : Option String} {r : Request}

namespace Request

/-- The request with its entity printed. -/
def printing (r : Request) : Request := { r with print := true }

/-- The request with its schema printed. -/
def describing (r : Request) : Request := { r with schema := true }

end Request

theorem readWords_flag (ha : a = .print ∨ a = .schema) (words : List String) :
    readWords .start (("--" ++ a.long) :: words) =
      readWords (Progress.start.prepend (a, "")) words := by
  obtain rfl | rfl := ha <;> rfl

/-- A flag for the output that excludes no argument goes in front of the others. -/
theorem read_flag (ha : a = .print ∨ a = .schema) (h : read words target = .ok r)
    (hprint : r.print = false) (hschema : r.schema = false) (hname : a = .schema → r.name = none) :
    ∃ given, r = .ofGiven given ∧
      read (("--" ++ a.long) :: words) target = .ok (.ofGiven ((a, "") :: given)) := by
  obtain ⟨given₀, given, hwords, hdefault, hagreed, rfl⟩ := read_inv h
  have hlacks : given.has a = false := by
    obtain rfl | rfl := ha
    · exact hprint
    · exact hschema
  have hagreed' : Given.disagreement? ((a, "") :: given) = none := by
    refine Given.disagreement?_cons hagreed (fun b hb => ?_) ?_ (fun hjson => ?_) ""
    · have hother : a = .schema → given.has .name = false := fun heq => by
        rw [Given.has_eq_isSome_lookup]
        exact congrArg Option.isSome (hname heq)
      obtain rfl | rfl := ha <;> cases b <;>
        simp_all [Argument.excludes, Argument.exclusions, Request.ofGiven]
    · obtain rfl | rfl := ha <;> decide
    · obtain rfl | rfl := ha <;> cases hjson
  obtain ⟨hlacks₀, hdefault'⟩ := Given.withDefault_cons hdefault hlacks ""
  obtain ⟨_, hwords'⟩ := readWords_prepend hwords hlacks₀ ""
  refine ⟨given, rfl, ?_⟩
  simp only [read, readWords_flag ha, hwords', bind, Except.bind, hdefault', hagreed']

theorem read_print (h : read words target = .ok r) (hprint : r.print = false)
    (hschema : r.schema = false) : read ("--print" :: words) target = .ok r.printing := by
  obtain ⟨given, rfl, hread⟩ := read_flag (.inl rfl) h hprint hschema (by simp)
  exact hread

theorem read_schema (h : read words target = .ok r) (hprint : r.print = false)
    (hschema : r.schema = false) (hname : r.name = none) :
    read ("--schema" :: words) target = .ok r.describing := by
  obtain ⟨given, rfl, hread⟩ := read_flag (.inr rfl) h hprint hschema fun _ => hname
  exact hread

end EntityGen.CommandLine
