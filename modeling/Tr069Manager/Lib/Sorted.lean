import Mathlib.Data.List.Nodup
import Mathlib.Data.List.Perm.Lattice
import Mathlib.Data.List.Sort

/-!
# Lists that are sorted by a key

A list that is sorted by a key that no two elements share is determined by its elements, in
whatever order they came (`List.mergeSort_congr`). Where each key has a list of its own, and
these are put one behind the other, the keys with empty lists do not count
(`List.flatMap_mergeSort_congr`).
-/

namespace List

variable {α κ γ : Type*}

/-- Sorting forgets the order, if no two different elements are equal in the order. -/
theorem mergeSort_congr {le : α → α → Bool} {l l' : List α}
    (htrans : ∀ a b c, le a b → le b c → le a c) (htotal : ∀ a b, le a b || le b a)
    (hanti : ∀ a ∈ l, ∀ b ∈ l, le a b → le b a → a = b) (h : l.Perm l') :
    l.mergeSort le = l'.mergeSort le := by
  refine Perm.eq_of_pairwise (fun a b ha hb => hanti a ?_ b ?_)
    (pairwise_mergeSort htrans htotal l) (pairwise_mergeSort htrans htotal l')
    (((mergeSort_perm l le).trans h).trans (mergeSort_perm l' le).symm)
  · exact (mergeSort_perm l le).mem_iff.mp ha
  · exact h.mem_iff.mpr ((mergeSort_perm l' le).mem_iff.mp hb)

/-- Sorting and leaving out can be exchanged. -/
theorem filter_mergeSort {le : α → α → Bool} {l : List α} (p : α → Bool)
    (htrans : ∀ a b c, le a b → le b c → le a c) (htotal : ∀ a b, le a b || le b a)
    (hanti : ∀ a ∈ l, ∀ b ∈ l, le a b → le b a → a = b) :
    (l.mergeSort le).filter p = (l.filter p).mergeSort le := by
  refine Perm.eq_of_pairwise (fun a b ha hb => hanti a ?_ b ?_)
    ((pairwise_mergeSort htrans htotal l).sublist filter_sublist)
    (pairwise_mergeSort htrans htotal _)
    (((mergeSort_perm l le).filter p).trans (mergeSort_perm (l.filter p) le).symm)
  · exact (mergeSort_perm l le).mem_iff.mp (mem_of_mem_filter ha)
  · exact mem_of_mem_filter ((mergeSort_perm (l.filter p) le).mem_iff.mp hb)

/-- Two entries with one key are one, if the keys are different. -/
theorem eq_of_fst_eq {l : List (κ × γ)} (hl : (l.map Prod.fst).Nodup) {a b : κ × γ} (ha : a ∈ l)
    (hb : b ∈ l) (h : a.1 = b.1) : a = b := inj_on_of_nodup_map hl ha hb h

/-- Empty lists do not count. -/
theorem flatMap_filter_ne_nil {l : List (κ × List γ)} :
    (l.filter fun e => !e.2.isEmpty).flatMap Prod.snd = l.flatMap Prod.snd := by
  induction l with
  | nil => rfl
  | cons e l ih =>
    rw [filter_cons]
    split
    · rw [flatMap_cons, flatMap_cons, ih]
    · next he =>
      have hnil : e.2 = [] := by simpa using he
      rw [ih, flatMap_cons, hnil, nil_append]

/-- **The lists of the keys, in the order of the keys**, are determined by those that are not
empty. -/
theorem flatMap_mergeSort_congr {le : κ → κ → Bool} {l l' : List (κ × List γ)}
    (htrans : ∀ a b c, le a b → le b c → le a c) (htotal : ∀ a b, le a b || le b a)
    (hanti : ∀ a b, le a b → le b a → a = b) (hl : (l.map Prod.fst).Nodup)
    (hl' : (l'.map Prod.fst).Nodup)
    (h : ∀ k c, c ≠ [] → ((k, c) ∈ l ↔ (k, c) ∈ l')) :
    (l.mergeSort fun a b => le a.1 b.1).flatMap Prod.snd =
      (l'.mergeSort fun a b => le a.1 b.1).flatMap Prod.snd := by
  have htrans' : ∀ a b c : κ × List γ, le a.1 b.1 → le b.1 c.1 → le a.1 c.1 :=
    fun a b c => htrans a.1 b.1 c.1
  have htotal' : ∀ a b : κ × List γ, le a.1 b.1 || le b.1 a.1 := fun a b => htotal a.1 b.1
  have hanti' : ∀ m : List (κ × List γ), (m.map Prod.fst).Nodup → ∀ a ∈ m, ∀ b ∈ m,
      le a.1 b.1 → le b.1 a.1 → a = b := fun m hm a ha b hb hab hba =>
    eq_of_fst_eq hm ha hb (hanti _ _ hab hba)
  have hperm : (l.filter fun e => !e.2.isEmpty).Perm (l'.filter fun e => !e.2.isEmpty) := by
    refine (perm_ext_iff_of_nodup (hl.of_map _ |>.filter _) (hl'.of_map _ |>.filter _)).mpr ?_
    rintro ⟨k, c⟩
    rw [mem_filter, mem_filter]
    refine and_congr_left fun hc => h k c ?_
    simpa using hc
  have hfilter : ((l.filter fun e => !e.2.isEmpty).map Prod.fst).Nodup :=
    hl.sublist (filter_sublist.map Prod.fst)
  rw [← flatMap_filter_ne_nil, filter_mergeSort _ htrans' htotal' (hanti' l hl),
    mergeSort_congr htrans' htotal' (hanti' _ hfilter) hperm,
    ← filter_mergeSort _ htrans' htotal' (hanti' l' hl'), flatMap_filter_ne_nil]

end List
