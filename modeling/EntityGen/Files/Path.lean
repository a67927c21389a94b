/-! Paths. A written path is split into steps; a place in a file system is the list of names that
lead to it from the root. `stepsOf_join` says that joining a name to a path adds one step. -/

namespace EntityGen.Files

/-- A place: the names from the root down to it. -/
abbrev Path := List String

/-- The written form of a place. -/
def Path.text (p : Path) : String := "/" ++ "/".intercalate p

/-- The place around a place. Nothing is around the root. -/
def Path.parent? (p : Path) : Option Path := if p = [] then none else some p.dropLast

/-- One step of a written path. -/
inductive Step where
  | name (n : String)
  /-- A period, which stays. -/
  | here
  | up
  /-- A slash too many, which stays too. -/
  | slash
  deriving DecidableEq, Repr

/-- The parts of a text between slashes. -/
def splitSlashes : List Char → List (List Char)
  | [] => [[]]
  | '/' :: cs => [] :: splitSlashes cs
  | c :: cs =>
    match splitSlashes cs with
    | [] => [[c]]
    | part :: rest => (c :: part) :: rest

/-- The step that a part of a path is. -/
def Step.ofPart (part : List Char) : Step :=
  if part = [] then .slash
  else if part = ['.'] then .here
  else if part = ['.', '.'] then .up
  else .name (String.ofList part)

/-- The steps of a written path. A slash at the end is a step, so what comes before it must be a
directory. -/
def stepsOf (written : String) : List Step := (splitSlashes written.toList).map Step.ofPart

/-- The place that the names of a written path lead to. -/
def Path.ofText (written : String) : Path :=
  (stepsOf written).filterMap fun
    | .name n => some n
    | _ => none

def isAbsolute (written : String) : Bool := written.toList.head? == some '/'

/-- A path inside a directory, or the path itself if it is absolute. -/
def join (directory written : String) : String :=
  if isAbsolute written then written
  else if directory.toList.getLast? = some '/' ∨ directory = "" then directory ++ written
  else directory ++ "/" ++ written

theorem splitSlashes_ne_nil (cs : List Char) : splitSlashes cs ≠ [] := by
  fun_induction splitSlashes cs with
  | case1 | case2 | case3 | case4 => simp

theorem splitSlashes_append_slash (xs ys : List Char) :
    splitSlashes (xs ++ '/' :: ys) = splitSlashes xs ++ splitSlashes ys := by
  fun_induction splitSlashes xs with
  | case1 => simp [splitSlashes]
  | case2 cs ih => simp [splitSlashes, ih]
  | case3 c cs hc h ih => exact absurd h (splitSlashes_ne_nil cs)
  | case4 c cs hc part rest h ih => simp [splitSlashes, ih, h]

/-- A text without a slash is a single part. -/
theorem splitSlashes_of_not_mem {xs : List Char} (h : '/' ∉ xs) : splitSlashes xs = [xs] := by
  fun_induction splitSlashes xs with
  | case1 => rfl
  | case2 cs _ => simp at h
  | case3 c cs _ hs _ => exact absurd hs (splitSlashes_ne_nil cs)
  | case4 c cs _ part rest hs ih =>
    simp only [List.mem_cons, not_or] at h
    have := ih h.2
    rw [hs] at this
    simp_all

theorem stepsOf_join {directory name : String} (hd : directory ≠ "")
    (hl : directory.toList.getLast? ≠ some '/') (hn : '/' ∉ name.toList) :
    stepsOf (join directory name) = stepsOf directory ++ [Step.ofPart name.toList] := by
  have relative : isAbsolute name = false := by
    simp only [isAbsolute, beq_eq_false_iff_ne, ne_eq]
    exact fun h => hn (List.mem_of_head? h)
  simp [join, relative, hd, hl, stepsOf, splitSlashes_append_slash, splitSlashes_of_not_mem hn]

end EntityGen.Files
