import EntityGen.Text.UpperCase
import EntityGen.Text.WordChar

/-! Names in camel and Pascal case. An underscore before a word character is dropped and the
character upper-cased; nothing is ever lower-cased. -/

namespace EntityGen.Casing

/-- Drops each underscore that stands before a word character, and upper-cases the character. Of
two underscores the second counts as the character. -/
def joinWords : List Char → List Char
  | [] => []
  | '_' :: c :: cs =>
    if Text.isWordChar c then c.toUpper :: joinWords cs else '_' :: joinWords (c :: cs)
  | c :: cs => c :: joinWords cs

/-- A text with its first character in upper case, which may be several characters. -/
def capitalize : List Char → List Char
  | [] => []
  | c :: cs => Text.upperCase c ++ cs

/-- A name in camel case. -/
def camel (name : String) : String := String.ofList (joinWords name.toList)

/-- A name in Pascal case. -/
def pascal (name : String) : String := String.ofList (capitalize (joinWords name.toList))

/-- What holds of all characters, and of each in upper case, holds of them when words are joined. -/
theorem forall_mem_joinWords {p : Char → Prop} {cs : List Char} (hp : ∀ c, p c → p c.toUpper)
    (h : ∀ c ∈ cs, p c) : ∀ c ∈ joinWords cs, p c := by
  fun_induction joinWords cs with
  | case1 => exact h
  | case2 c cs _ ih =>
    rw [List.forall_mem_cons, List.forall_mem_cons] at h
    exact List.forall_mem_cons.mpr ⟨hp c h.2.1, ih h.2.2⟩
  | case3 c cs _ ih =>
    rw [List.forall_mem_cons] at h
    exact List.forall_mem_cons.mpr ⟨h.1, ih h.2⟩
  | case4 c cs _ ih =>
    rw [List.forall_mem_cons] at h
    exact List.forall_mem_cons.mpr ⟨h.1, ih h.2⟩

end EntityGen.Casing
