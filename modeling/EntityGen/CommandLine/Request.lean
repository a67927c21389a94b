import EntityGen.CommandLine.Refusal

/-! Requests: what a command line asks for. The words are read from left to right into the
arguments that are given, each with its value; a request is made of them once they are found to
agree with each other.

An option whose value has not come yet is waiting. What it lacks or has too much of is only
reported when the next argument is known to be one, so a word that is no argument is reported in
its stead. -/

namespace EntityGen.CommandLine

/-- What a command line asks for. -/
structure Request where
  target : Option String
  ddl : Option String
  name : Option String
  json : Option String
  dialect : Sql.Dialect
  print : Bool
  schema : Bool
  noColor : Bool
  verbose : Bool
  deriving DecidableEq, Repr

/-- Why reading ends without a request. -/
inductive Ending where
  | refused (cause : Refusal)
  /-- Help is asked for, in its long form or its short one. -/
  | help (long : Bool)
  | version
  deriving DecidableEq, Repr

/-- The arguments that are given, in order, with their values. The value of a flag is empty. -/
abbrev Given := List (Argument × String)

namespace Given

def has (given : Given) (a : Argument) : Bool := given.any (·.1 == a)

/-- Why a text is no value of an argument. -/
def fault? (a : Argument) (value : String) : Option Refusal :=
  match a with
  | .target => if value = "" then some (.missingValue a) else none
  | .dialect =>
    if value = "" then some (.missingValue a)
    else if (dialects.lookup value).isNone then some (.unknownDialect value)
    else none
  | _ => none

/-- Adds an argument. No argument is given twice. -/
def add (given : Given) (a : Argument) (value : String) : Except Ending Given :=
  if given.has a then .error (.refused (.repeated a))
  else
    match fault? a value with
    | some cause => .error (.refused cause)
    | none => .ok (given ++ [(a, value)])

/-- Adds an option, which needs a value. -/
def addOption (given : Given) (a : Argument) : Option String → Except Ending Given
  | none => .error (.refused (.missingValue a))
  | some value => given.add a value

/-- Adds a flag. Help and version end the reading. -/
def addFlag (given : Given) (a : Argument) (written : Bool) : Except Ending Given :=
  match a with
  | .help => .error (.help written)
  | .version => .error .version
  | a => given.add a ""

end Given

/-- How far a command line is read: what is given, and the option that waits, with its value once
that has come. -/
structure Progress where
  given : Given
  waiting : Option (Argument × Option String)
  deriving DecidableEq, Repr

namespace Progress

def start : Progress := ⟨[], none⟩

/-- Adds the option that waits. -/
def settle (p : Progress) : Except Ending Given :=
  match p.waiting with
  | none => .ok p.given
  | some (a, value) => p.given.addOption a value

/-- Takes an option with its value, or lets it wait for one. -/
def option (p : Progress) (a : Argument) (value : Option String) : Except Ending Progress := do
  let given ← p.settle
  match value with
  | none => .ok ⟨given, some (a, none)⟩
  | some value => do
    let given ← given.add a value
    .ok ⟨given, none⟩

/-- Takes a flag, written by its long name or by its letter. -/
def flag (p : Progress) (a : Argument) (long : Bool) : Except Ending Progress := do
  let given ← p.settle
  let given ← given.addFlag a long
  .ok ⟨given, none⟩

/-- Takes what follows two hyphens: a name, and a value behind an equals sign. -/
def long (p : Progress) (name : List Char) (value : Option String) : Except Ending Progress :=
  match Argument.ofLong? name with
  | none => .error (.refused (.unexpected ("--" ++ String.ofList name)))
  | some a =>
    if a.takesValue then p.option a value
    else
      match value with
      | none => p.flag a true
      | some value => .error (.refused (.unexpectedValue a value))

/-- The value that follows a letter in one word. An equals sign may stand before it. -/
def attached : List Char → Option String
  | [] => none
  | '=' :: rest => some (String.ofList rest)
  | rest => some (String.ofList rest)

/-- Takes the letters that follow one hyphen. An option takes what is left as its value. -/
def short (p : Progress) : List Char → Except Ending Progress
  | [] => .ok p
  | letter :: rest =>
    match Argument.ofShort? letter with
    | none => .error (.refused (.unexpected ("-" ++ String.ofList [letter])))
    | some a =>
      if a.takesValue then p.option a (attached rest)
      else
        match p.flag a false with
        | .error ending => .error ending
        | .ok p => p.short rest

/-- Takes a word that is no argument, as the value of the option that waits. -/
def plain (p : Progress) (word : String) : Except Ending Progress :=
  match p.waiting with
  | some (a, none) => .ok ⟨p.given, some (a, some word)⟩
  | _ => .error (.refused (.unexpected word))

end Progress

/-- What a word is. -/
inductive Word where
  /-- Two hyphens alone: no argument follows. -/
  | separator
  | long (name : List Char) (value : Option String)
  | short (letters : List Char)
  | plain
  deriving DecidableEq, Repr

/-- What follows two hyphens. -/
def Word.ofLong (cs : List Char) : Word :=
  let name := cs.takeWhile (· ≠ '=')
  match cs.dropWhile (· ≠ '=') with
  | [] => .long name none
  | _ :: value => .long name (some (String.ofList value))

/-- What a word is. A hyphen alone is none of an argument. -/
def Word.of (word : String) : Word :=
  match word.toList with
  | ['-', '-'] => .separator
  | '-' :: '-' :: cs => .ofLong cs
  | '-' :: c :: cs => .short (c :: cs)
  | _ => .plain

/-- Reads words from left to right. -/
def readWords (p : Progress) : List String → Except Ending Given
  | [] => p.settle
  | word :: rest =>
    match Word.of word with
    | .separator =>
      match rest with
      | [] => p.settle
      | next :: _ => .error (.refused (.unexpected next))
    | .long name value =>
      match p.long name value with
      | .error ending => .error ending
      | .ok p => readWords p rest
    | .short letters =>
      match p.short letters with
      | .error ending => .error ending
      | .ok p => readWords p rest
    | .plain =>
      match p.plain word with
      | .error ending => .error ending
      | .ok p => readWords p rest

namespace Given

/-- Adds the target that is set from outside, unless one is given. -/
def withDefault (given : Given) (target : Option String) : Except Ending Given :=
  match target with
  | some value => if given.has .target then .ok given else given.add .target value
  | none => .ok given

/-- The given arguments that one of them excludes. -/
def excluded (given : Given) (a : Argument) : List Argument :=
  (given.map (·.1)).filter a.excludes

/-- The first argument that excludes others, with these. -/
def exclusion? (given : Given) : Option Refusal :=
  (given.map (·.1)).findSome? fun a =>
    match given.excluded a with
    | [] => none
    | others => some (.excluded a others)

/-- A sample needs a name. That is not asked for if an argument is given that excludes one. -/
def lacksName (given : Given) : Bool :=
  given.has .json && !given.has .name && !given.has .ddl && !given.has .schema

/-- Why the given arguments do not agree with each other. -/
def disagreement? (given : Given) : Option Refusal :=
  match given.exclusion? with
  | some cause => some cause
  | none => if given.lacksName then some (.missing .name) else none

end Given

/-- The request of arguments that agree with each other. -/
def Request.ofGiven (given : Given) : Request where
  target := given.lookup .target
  ddl := given.lookup .ddl
  name := given.lookup .name
  json := given.lookup .json
  dialect := ((given.lookup .dialect).bind fun v => dialects.lookup v).getD defaultDialect
  print := given.has .print
  schema := given.has .schema
  noColor := given.has .noColor
  verbose := given.has .verbose

/-- Reads a command line, with the target that is set from outside. -/
def read (words : List String) (target : Option String) : Except Ending Request := do
  let given ← readWords .start words
  let given ← given.withDefault target
  match given.disagreement? with
  | some cause => .error (.refused cause)
  | none => .ok (.ofGiven given)

end EntityGen.CommandLine
