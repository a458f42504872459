import Tr069Manager.Parameters.Answers
import Tr069Manager.Parameters.GetValues

/-!
# Values that are not to be read

What the rules deny may have no influence on the answer to a `GetParameterValues`: two states
that differ in nothing else give the same answer, and every value that is returned is one the
rules allow. This is so exactly if the request can show no parameter that is denied, and no
alias that is (`ValuesCondition`) – and in one of the implementations, if a request that finds
nothing but denied objects cannot be told from one that finds nothing.

All implementations go over what the bus answers to one request, filtered if the path is the
one of an object; they differ in whether they pass over the objects without data, and in how
they make a list of it. What is shown in a list is therefore stated once (`ShowsValues`).
-/

namespace Tr069.Parameters

variable {env : ReadEnv} {d d' : Device} {path : DmPath} {depth : ℤ} {o : List Component}
  {n : String} {v : Value} {has : List Component → Bool}

/-! ### The values that can be shown -/

/-- A request can show the value of the parameter in some state; `has` is whether the
implementation looks at the object. -/
structure MayShowValue (env : ReadEnv) (has : List Component → Bool) (path : DmPath) (depth : ℤ)
    (o : List Component) (n : String) : Prop where
  ne_nil : o ≠ []
  concrete : ∀ c ∈ o, c.IsConcrete
  has : has o = true
  selects : SelectsParam path depth o n
  allowed : path.isPartial = true → env.amxaIsGetAllowed ⟨o, some n⟩ = true

/-- **The condition on a request for values**: the rules allow the parameters it can show, and
the aliases in their names. -/
def ValuesCondition (env : ReadEnv) (has : List Component → Bool) (path : DmPath) (depth : ℤ) :
    Prop :=
  ∀ o n, MayShowValue env has path depth o n →
    env.amxaIsGetAllowed ⟨o, some n⟩ = true ∧ AliasesAllowed env path o

/-- What a list of values has of the state. -/
def ShowsValues (env : ReadEnv) (has : List Component → Bool) (path : DmPath) (depth : ℤ)
    (entry : Device → DmPath → String → Prop) : Prop :=
  ∀ d k x, entry d k x ↔ ∃ o n v, d.objects.value o n = some v ∧
    MayShowValue env has path depth o n ∧ k = returnedName env d path ⟨o, some n⟩ ∧ x = v.text

theorem MayShowValue.under (h : MayShowValue env has path depth o n) : Under path o :=
  h.selects.1.under

/-- **What is shown of one state is shown of the other**, where the condition is met. -/
theorem ValuesCondition.same (hcond : ValuesCondition env has path depth)
    (hsame : SameForAcs env d d') (hmay : MayShowValue env has path depth o n)
    (hv : d.objects.value o n = some v) :
    d'.objects.value o n = some v ∧
      returnedName env d path ⟨o, some n⟩ = returnedName env d' path ⟨o, some n⟩ := by
  obtain ⟨hallowed, halias⟩ := hcond o n hmay
  have hunder : Under path (DmPath.mk o (some n)).object := hmay.under
  exact ⟨(hsame.value o n hallowed).symm.trans hv, hsame.returnedName hunder halias⟩

/-! ### The condition is needed -/

section Needed

variable {entry : Device → DmPath → String → Prop}

theorem ShowsValues.shows (hshows : ShowsValues env has path depth entry)
    (hv : d.objects.value o n = some v) (hmay : MayShowValue env has path depth o n) :
    entry d (returnedName env d path ⟨o, some n⟩) v.text :=
  (hshows d _ _).mpr ⟨o, n, v, hv, hmay, rfl, rfl⟩

/-- A parameter that is shown is allowed, or two states differ in its value. -/
theorem ShowsValues.allowed (hshows : ShowsValues env has path depth entry)
    (hsame : ∀ d d', SameForAcs env d d' → ∀ k x, entry d k x → entry d' k x)
    (hmay : MayShowValue env has path depth o n) :
    env.amxaIsGetAllowed ⟨o, some n⟩ = true := by
  by_contra hdenied
  have hconcrete : ∀ c ∈ (DmPath.mk o (some n)).object, c.IsConcrete := hmay.concrete
  have hvalue : (supportDevice ⟨o, some n⟩ hconcrete "").objects.value o n =
      some ⟨.cstring, ""⟩ :=
    value_supportDevice.mpr ⟨⟨List.prefix_rfl, hmay.ne_nil⟩, rfl, rfl, rfl⟩
  have hstates : SameForAcs env (supportDevice ⟨o, some n⟩ hconcrete "")
      (supportDevice ⟨o, some n⟩ hconcrete "b") := sameForAcs_supportDevice hdenied
  have hentry := hsame _ _ hstates _ _ (hshows.shows hvalue hmay)
  obtain ⟨p, m, w, hw, -, -, htext⟩ := (hshows _ _ _).mp hentry
  rw [(value_supportDevice.mp hw).2.2.2] at htext
  exact absurd htext (by decide)

/-- An alias in the name of what is shown is allowed, or two states differ in the name. -/
theorem ShowsValues.aliasesAllowed (hshows : ShowsValues env has path depth entry)
    (hsame : ∀ d d', SameForAcs env d d' → ∀ k x, entry d k x → entry d' k x)
    (hmay : MayShowValue env has path depth o n) : AliasesAllowed env path o := by
  intro hmode q k hfixed hpre
  by_contra hdenied
  have hconcrete : ∀ c ∈ (DmPath.mk o (some n)).object, c.IsConcrete := hmay.concrete
  have hne : DmPath.mk o (some n) ≠ ⟨q ++ [.index k], some "Alias"⟩ := fun he =>
    hdenied (he ▸ hshows.allowed hsame hmay)
  have hvalue : (aliasDevice ⟨o, some n⟩ hconcrete (q ++ [.index k]) "b").objects.value o n =
      some ⟨.cstring, ""⟩ :=
    (value_aliasDevice hne).mpr ⟨⟨List.prefix_rfl, hmay.ne_nil⟩, Or.inr ⟨rfl, rfl, rfl⟩⟩
  have hstates : SameForAcs env (aliasDevice ⟨o, some n⟩ hconcrete (q ++ [.index k]) "b")
      (aliasDevice ⟨o, some n⟩ hconcrete (q ++ [.index k]) "") :=
    sameForAcs_aliasDevice hne hdenied
  have hentry := hsame _ _ hstates _ _ (hshows.shows hvalue hmay)
  obtain ⟨p, m, w, -, hmay', hname, -⟩ := (hshows _ _ _).mp hentry
  have hmem : Component.aliased "b" ∈ (returnedName env (aliasDevice ⟨o, some n⟩ hconcrete
      (q ++ [.index k]) "b") path ⟨o, some n⟩).object :=
    aliased_mem_aliasDevice hmode hfixed hpre hpre hne (by decide)
  have hunder : Under path (DmPath.mk p (some m)).object := hmay'.under
  rw [hname, returnedName_aliasDevice hne hunder] at hmem
  exact hmay'.concrete _ hmem

/-- **The condition is needed**: an answer that is the same for states that differ in what is
denied can show no parameter that is denied, and no alias that is. -/
theorem ShowsValues.condition (hshows : ShowsValues env has path depth entry)
    (hsame : ∀ d d', SameForAcs env d d' → ∀ k x, entry d k x → entry d' k x) :
    ValuesCondition env has path depth := fun _ _ hmay =>
  ⟨hshows.allowed hsame hmay, hshows.aliasesAllowed hsame hmay⟩

end Needed

end Tr069.Parameters
