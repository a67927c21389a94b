import EntityGen.Sql.Parser

/-!
# What parsers give

`Gives T p P` says that whatever a parser finds in tokens that all have the property `T` has the
property `P`. A parser leaves some of the tokens that it is given, so a sequence of parsers gives
what its parts give, and parts that do not matter are passed over (`Gives.seq`).
-/

namespace EntityGen.Sql.Parser

variable {α β : Type} {T : Token → Prop} {p : Parser α} {P : α → Prop} {Q : β → Prop}

/-- On tokens with the property `T` a parser finds only what has the property `P`. -/
def Gives (T : Token → Prop) (p : Parser α) (P : α → Prop) : Prop :=
  ∀ ⦃cx ts a rest⦄, (∀ l ∈ ts, T l.token) → p cx ts = (.ok a, rest) → P a

theorem gives_true : Gives T p fun _ => True := fun _ _ _ _ _ _ => trivial

theorem bind_eq_ok {f : α → Parser β} {cx : Context} {ts rest : List Located} {b : β}
    (h : (p >>= f) cx ts = (.ok b, rest)) :
    ∃ a between, p cx ts = (.ok a, between) ∧ f a cx between = (.ok b, rest) := by
  rw [bind_run] at h
  split at h
  · rename_i a between hfirst
    exact ⟨a, between, hfirst, h⟩
  · cases h

namespace Gives

protected theorem pure {a : α} (h : P a) : Gives T (pure a) P := by
  intro cx ts b rest _ hrun
  cases hrun
  exact h

protected theorem fail {e : Failure} : Gives T (fail e) P := by
  intro cx ts a rest _ hrun
  cases hrun

protected theorem bind {f : α → Parser β} (hp : Gives T p P) (hf : ∀ a, P a → Gives T (f a) Q) :
    Gives T (p >>= f) Q := by
  intro cx ts b rest hts hrun
  obtain ⟨a, between, hfirst, hrun⟩ := bind_eq_ok hrun
  have hbetween : ∀ l ∈ between, T l.token :=
    fun l hl => hts l ((suffix_of_eq hfirst).subset hl)
  exact hf a (hp hts hfirst) hbetween hrun

/-- What a sequence gives, whatever its first part finds. -/
protected theorem seq {f : α → Parser β} (hf : ∀ a, Gives T (f a) Q) : Gives T (p >>= f) Q :=
  gives_true.bind fun a _ => hf a

protected theorem map {f : α → β} (hp : Gives T p P) (h : ∀ a, P a → Q (f a)) :
    Gives T (f <$> p) Q := hp.bind fun a ha => .pure (h a ha)

protected theorem expectedAt {w : Wanted} {found : Option Located} :
    Gives T (expectedAt w found) P := .fail

protected theorem expected {w : Wanted} : Gives T (expected w) P := .seq fun _ => .expectedAt

protected theorem nested (hp : Gives T p P) : Gives T (nested p) P := by
  intro cx ts a rest hts hrun
  simp only [Parser.nested] at hrun
  split at hrun
  · cases hrun
  · exact hp hts hrun

end Gives

end EntityGen.Sql.Parser
