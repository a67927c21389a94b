import EntityGen.Files.Path

/-! File systems with directories, files and symbolic links. `FileSystem.resolve` follows a path to
the place that it leads to; nothing is ever found behind a link that leads nowhere or in circles.
`find?_put` and `find?_put_of_ne` say what a change leaves as it was. -/

namespace EntityGen.Files

/-- What stands at a place. -/
inductive Entry where
  | directory
  | file (content : String)
  | link (target : String)
  deriving DecidableEq, Repr

/-- A file system: what stands where. The root is always a directory. -/
structure FileSystem where
  entries : List (Path × Entry)
  deriving DecidableEq, Repr

/-- Why a path cannot be used. -/
inductive FileFault where
  | notFound
  | notDirectory
  | isDirectory
  | nameTooLong
  | tooManyLinks
  /-- A text that is no valid UTF-8. -/
  | invalidText
  /-- Something that only a real disk can tell. -/
  | other (reason : String)
  deriving DecidableEq, Repr

def FileFault.text : FileFault → String
  | .notFound => "No such file or directory (os error 2)"
  | .notDirectory => "Not a directory (os error 20)"
  | .isDirectory => "Is a directory (os error 21)"
  | .nameTooLong => "File name too long (os error 36)"
  | .tooManyLinks => "Too many levels of symbolic links (os error 40)"
  | .invalidText => "stream did not contain valid UTF-8"
  | .other reason => reason

/-- Where a path leads. -/
inductive Resolution where
  | found (place : Path)
  /-- Only the last name is missing. -/
  | absent (place : Path)
  | fault (f : FileFault)
  deriving DecidableEq, Repr

/-- The most bytes of a name. -/
def maxNameBytes : Nat := 255

/-- The most links that one path may lead through. -/
def maxLinks : Nat := 40

namespace FileSystem

def find? (fs : FileSystem) (p : Path) : Option Entry :=
  if p = [] then some .directory else fs.entries.lookup p

private def putEntry (p : Path) (e : Entry) : List (Path × Entry) → List (Path × Entry)
  | [] => [(p, e)]
  | (q, f) :: rest => if q = p then (p, e) :: rest else (q, f) :: putEntry p e rest

/-- Puts something at a place, instead of what may stand there. -/
def put (fs : FileSystem) (p : Path) (e : Entry) : FileSystem := ⟨putEntry p e fs.entries⟩

/-- Takes away what stands at a place. -/
def remove (fs : FileSystem) (p : Path) : FileSystem := ⟨fs.entries.filter (·.1 ≠ p)⟩

theorem lookup_putEntry (p q : Path) (e : Entry) (es : List (Path × Entry)) :
    (putEntry p e es).lookup q = if q = p then some e else es.lookup q := by
  induction es with
  | nil =>
    by_cases h : q = p
    · simp [putEntry, h]
    · have : (q == p) = false := by simp [h]
      simp [putEntry, List.lookup_cons, this, h]
  | cons x es ih =>
    obtain ⟨r, f⟩ := x
    by_cases hr : r = p
    · subst hr
      by_cases h : q = r
      · simp [putEntry, h]
      · have : (q == r) = false := by simp [h]
        simp [putEntry, List.lookup_cons, this, h]
    · by_cases h : q = r
      · subst h
        simp [putEntry, hr]
      · have : (q == r) = false := by simp [h]
        simp [putEntry, hr, List.lookup_cons, this, ih]

theorem find?_put {p : Path} (fs : FileSystem) (e : Entry) (h : p ≠ []) :
    (fs.put p e).find? p = some e := by
  simp [find?, h, put, lookup_putEntry]

theorem find?_put_of_ne {p q : Path} (fs : FileSystem) (e : Entry) (h : q ≠ p) :
    (fs.put p e).find? q = fs.find? q := by
  simp [find?, put, lookup_putEntry, h]

/-- The steps of a link, and the place where they start. -/
def linkSteps (place : Path) (target : String) : Path × List Step :=
  (if isAbsolute target then [] else place, stepsOf target)

/-- Why nothing stands at a name that the rest of a path follows. A slash after the last name asks
for a directory, which is never made. -/
def missing (rest : List Step) : FileFault :=
  if rest.all (· = .slash) then .isDirectory else .notFound

/-- Why a path cannot go on from a file. -/
def blocked (rest : List Step) : FileFault :=
  if rest.all (· = .slash) then .isDirectory else .notDirectory

/-- Follows steps from a place; `follow` goes on behind a link. -/
def walkWith (fs : FileSystem) (follow : Path → List Step → Resolution) (place : Path) :
    List Step → Resolution
  | [] => .found place
  | step :: rest =>
    if fs.find? place ≠ some .directory then .fault (blocked (step :: rest))
    else
      match step with
      | .here | .slash => walkWith fs follow place rest
      | .up => walkWith fs follow place.dropLast rest
      | .name n =>
        if maxNameBytes < n.utf8ByteSize then .fault .nameTooLong
        else
          match fs.find? (place ++ [n]) with
          | none => if rest = [] then .absent (place ++ [n]) else .fault (missing rest)
          | some (.link target) =>
            let (start, steps) := linkSteps place target
            follow start (steps ++ rest)
          | some _ => walkWith fs follow (place ++ [n]) rest

/-- Follows steps from a place through so many links at most. -/
def walk (fs : FileSystem) : Nat → Path → List Step → Resolution
  | 0 => walkWith fs fun _ _ => .fault .tooManyLinks
  | links + 1 => walkWith fs (walk fs links)

/-- Where an absolute path leads. Its names and the links on it are bounded (`maxNameBytes`,
`maxLinks`), but not its own length, nor that of a path that a link is written with. -/
def resolve (fs : FileSystem) (written : String) : Resolution :=
  fs.walk maxLinks [] (stepsOf written)

/-- Whether a path leads to something. -/
def exists? (fs : FileSystem) (written : String) : Bool :=
  match fs.resolve written with
  | .found _ => true
  | _ => false

/-- Why nothing can be read at a path that leads nowhere. Nothing is created for the period after
the path, so this is what is missing for reading. -/
def readFault (fs : FileSystem) (written : String) : FileFault :=
  match fs.walk maxLinks [] (stepsOf written ++ [.here]) with
  | .fault cause => cause
  | _ => .notFound

/-- Writes a file at a path: into the file that it leads to, or a new one where only the last name
is missing. -/
def write (fs : FileSystem) (written content : String) : Except FileFault FileSystem :=
  match fs.resolve written with
  | .fault f => .error f
  | .absent place => .ok (fs.put place (.file content))
  | .found place =>
    match fs.find? place with
    | some (.file _) => .ok (fs.put place (.file content))
    | _ => .error .isDirectory

end FileSystem

end EntityGen.Files
