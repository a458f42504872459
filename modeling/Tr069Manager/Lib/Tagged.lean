import Mathlib.Data.List.Basic

/-!
# Lists of tagged entries

A queue or a log that several parties share is a list of pairs, an entry with
the tag of the party it belongs to. `Tagged.own i l` is what party `i` sees of
it: its own entries, in order. Appending what one party writes is appending for
that party and invisible to the others, which is what makes a property of one
party's part of a shared queue an invariant that the others cannot break.
-/

namespace Tagged

variable {ι α : Type*} [DecidableEq ι] {i j : ι}

/-- The entries of party `i`, in order. -/
def own (i : ι) (l : List (ι × α)) : List α :=
  l.filterMap fun p => if p.1 = i then some p.2 else none

@[simp] theorem own_nil : own i ([] : List (ι × α)) = [] := rfl

@[simp] theorem own_cons_self (a : α) (l : List (ι × α)) : own i ((i, a) :: l) = a :: own i l := by
  simp [own]

theorem own_cons_ne (h : j ≠ i) (a : α) (l : List (ι × α)) : own i ((j, a) :: l) = own i l := by
  simp [own, h]

@[simp] theorem own_append (l l' : List (ι × α)) : own i (l ++ l') = own i l ++ own i l' :=
  List.filterMap_append

@[simp] theorem own_map_self (l : List α) : own i (l.map fun a => (i, a)) = l := by
  induction l with
  | nil => rfl
  | cons a l ih => rw [List.map_cons, own_cons_self, ih]

theorem own_map_ne (h : j ≠ i) (l : List α) : own i (l.map fun a => (j, a)) = [] := by
  induction l with
  | nil => rfl
  | cons a l ih => rw [List.map_cons, own_cons_ne h, ih]

theorem mem_own {a : α} {l : List (ι × α)} : a ∈ own i l ↔ (i, a) ∈ l := by
  induction l with
  | nil => simp
  | cons p l ih =>
    obtain ⟨j, b⟩ := p
    by_cases h : j = i
    · subst h
      simp [ih]
    · rw [own_cons_ne h, ih, List.mem_cons]
      refine ⟨Or.inr, ?_⟩
      rintro (hp | hp)
      · exact absurd (congrArg Prod.fst hp).symm h
      · exact hp

/-- A tag that does not occur owns nothing. -/
theorem own_eq_nil {l : List (ι × α)} (h : ∀ p ∈ l, p.1 ≠ i) : own i l = [] := by
  refine List.filterMap_eq_nil_iff.mpr fun p hp => ?_
  rw [if_neg (h p hp)]

end Tagged
