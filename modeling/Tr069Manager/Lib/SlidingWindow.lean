import Mathlib.Data.List.Induction
import Mathlib.Algebra.Order.Ring.Int

/-!
# A limit on what is admitted in a sliding window

A gate is asked to admit one visit after the other. It admits a visit if it has admitted at most
`limit` of the earlier ones in the last `width` units of time, so that there may be `limit + 1` of
them in a window once it has (`SlidingWindow.length_within_admitted_le`). The clock is read twice
for a visit, when it comes and when it is admitted; it does not go back (`InOrder`).

What the gate decides is stated with all it has ever admitted (`SlidingWindow.admitted`), in order.
A gate that keeps only the times that are still in the window decides the same, for what is out of
the window once stays out of it (`SlidingWindow.within_kept`).
-/

namespace SlidingWindow

/-- A visit: the time at which it comes, and the time it has when it is admitted. -/
structure Visit where
  seen : ℤ
  stamp : ℤ
  deriving DecidableEq

/-- The clock does not go back. -/
structure InOrder (visits : List Visit) : Prop where
  each : ∀ v ∈ visits, v.seen ≤ v.stamp
  next : visits.Pairwise fun v v' => v.stamp ≤ v'.seen

/-- The times from one time to another, both included. -/
def within (first last : ℤ) (times : List ℤ) : List ℤ :=
  times.filter fun t => first ≤ t ∧ t ≤ last

variable {width : ℤ} {limit : ℕ} {visits pre post : List Visit} {v : Visit} {ts ts' : List ℤ}
  {first last t : ℤ}

theorem within_append : within first last (ts ++ ts') =
    within first last ts ++ within first last ts' := List.filter_append ..

theorem within_sublist : (within first last ts).Sublist ts := List.filter_sublist

theorem length_within_le_of_sublist (h : ts.Sublist ts') :
    (within first last ts).length ≤ (within first last ts').length :=
  (h.filter _).length_le

/-- More times are in a period that has those of another one. -/
theorem length_within_le {first' last' : ℤ}
    (h : ∀ t ∈ ts, first ≤ t → t ≤ last → first' ≤ t ∧ t ≤ last') :
    (within first last ts).length ≤ (within first' last' ts).length := by
  rw [within, within, ← List.countP_eq_length_filter, ← List.countP_eq_length_filter]
  refine List.countP_mono_left fun t ht hin => ?_
  have hin' := of_decide_eq_true hin
  exact decide_eq_true (h t ht hin'.1 hin'.2)

/-- The gate admits a visit after the times it has admitted. -/
def Admits (width : ℤ) (limit : ℕ) (admitted : List ℤ) (v : Visit) : Prop :=
  (within (v.seen - width) v.seen admitted).length ≤ limit

instance (admitted : List ℤ) (v : Visit) : Decidable (Admits width limit admitted v) :=
  inferInstanceAs (Decidable (_ ≤ _))

/-- The times at which visits have been admitted. -/
def admitted (width : ℤ) (limit : ℕ) (visits : List Visit) : List ℤ :=
  visits.foldl (fun ts v => if Admits width limit ts v then ts ++ [v.stamp] else ts) []

theorem admitted_concat : admitted width limit (visits ++ [v]) =
    if Admits width limit (admitted width limit visits) v then
      admitted width limit visits ++ [v.stamp]
    else admitted width limit visits := by
  rw [admitted, List.foldl_append]
  rfl

/-- Only visits are admitted, in their order. -/
theorem admitted_sublist : (admitted width limit visits).Sublist (visits.map Visit.stamp) := by
  induction visits using List.reverseRecOn with
  | nil => exact List.Sublist.slnil
  | append_singleton visits v ih =>
    rw [admitted_concat, List.map_append]
    split
    · exact ih.append (List.Sublist.refl _)
    · exact ih.trans (List.sublist_append_left _ _)

theorem admitted_sublist_append {visits' : List Visit} :
    (admitted width limit visits).Sublist (admitted width limit (visits ++ visits')) := by
  induction visits' using List.reverseRecOn with
  | nil => exact (List.append_nil visits).symm ▸ List.Sublist.refl _
  | append_singleton visits' v ih =>
    rw [← List.append_assoc, admitted_concat]
    split
    · exact ih.trans (List.sublist_append_left _ _)
    · exact ih

theorem InOrder.left {visits' : List Visit} (h : InOrder (visits ++ visits')) : InOrder visits :=
  ⟨fun u hu => h.each u (List.mem_append_left _ hu), (List.pairwise_append.mp h.next).1⟩

/-- The clock does not go back up to some visit. -/
theorem InOrder.upTo (h : InOrder (pre ++ v :: post)) : InOrder (pre ++ [v]) := by
  rw [List.append_cons] at h
  exact h.left

/-- What has been admitted has been before the next visit. -/
theorem le_seen_of_mem_admitted (h : InOrder (visits ++ [v]))
    (ht : t ∈ admitted width limit visits) : t ≤ v.seen := by
  obtain ⟨u, hu, rfl⟩ := List.mem_map.mp (admitted_sublist.subset ht)
  exact (List.pairwise_append.mp h.next).2.2 u hu v (List.mem_singleton_self v)

/-- **The limit**: at most one more than `limit` are admitted in any window. -/
theorem length_within_admitted_le (h : InOrder visits) (first : ℤ) :
    (within first (first + width) (admitted width limit visits)).length ≤ limit + 1 := by
  induction visits using List.reverseRecOn with
  | nil => exact Nat.zero_le _
  | append_singleton visits v ih =>
    have hold := ih h.left
    rw [admitted_concat]
    split
    · next hadmits =>
      rw [within_append, List.length_append]
      by_cases hin : v.stamp ≤ first + width
      · -- what is in this window is in the one the gate has looked at
        have hseen : v.seen ≤ v.stamp := h.each v (List.mem_concat_self)
        have hle : (within first (first + width) (admitted width limit visits)).length ≤ limit := by
          refine le_trans (length_within_le fun t ht hfirst _ => ⟨?_, ?_⟩) hadmits
          · omega
          · exact le_seen_of_mem_admitted h ht
        have hone : (within first (first + width) [v.stamp]).length ≤ 1 :=
          within_sublist.length_le
        omega
      · have hnone : within first (first + width) [v.stamp] = [] := by
          rw [within, List.filter_cons_of_neg (by simp [hin]), List.filter_nil]
        rw [hnone]
        exact hold
    · exact hold

/-- Every visit is admitted, if each finds a place once all before it have been. -/
theorem admitted_eq_of_forall (h : ∀ pre v post, visits = pre ++ v :: post →
    admitted width limit pre = pre.map Visit.stamp → Admits width limit (pre.map Visit.stamp) v) :
    admitted width limit visits = visits.map Visit.stamp := by
  induction visits using List.reverseRecOn with
  | nil => rfl
  | append_singleton visits v ih =>
    have hvisits : admitted width limit visits = visits.map Visit.stamp := by
      refine ih fun pre u post hu => h pre u (post ++ [v]) ?_
      rw [hu, List.append_assoc, List.cons_append]
    rw [admitted_concat, hvisits, if_pos (h visits v [] rfl hvisits), List.map_append]
    rfl

/-- If every visit has been admitted, the times are those of the visits. -/
theorem admitted_eq_of_admits (h : ∀ pre v post, visits = pre ++ v :: post →
    Admits width limit (admitted width limit pre) v) :
    admitted width limit visits = visits.map Visit.stamp := by
  refine admitted_eq_of_forall fun pre v post hvisits hpre => ?_
  rw [← hpre]
  exact h pre v post hvisits

/-! ### A gate that forgets -/

/-- The times a gate keeps that throws away what is out of the window when a visit comes. -/
def kept (width : ℤ) (limit : ℕ) (visits : List Visit) : List ℤ :=
  visits.foldl (fun ts v =>
    let pruned := within (v.seen - width) v.seen ts
    if pruned.length ≤ limit then pruned ++ [v.stamp] else pruned) []

theorem kept_concat : kept width limit (visits ++ [v]) =
    if (within (v.seen - width) v.seen (kept width limit visits)).length ≤ limit then
      within (v.seen - width) v.seen (kept width limit visits) ++ [v.stamp]
    else within (v.seen - width) v.seen (kept width limit visits) := by
  rw [kept, List.foldl_append]
  rfl

/-- **Nothing that counts is forgotten**: in the window of a later visit, what is kept is what has
been admitted. -/
theorem within_kept (h : InOrder (visits ++ [v])) :
    within (v.seen - width) v.seen (kept width limit visits) =
      within (v.seen - width) v.seen (admitted width limit visits) := by
  induction visits using List.reverseRecOn generalizing v with
  | nil => rfl
  | append_singleton visits u ih =>
    have hu := ih h.left
    have huv : u.stamp ≤ v.seen :=
      (List.pairwise_append.mp h.next).2.2 u List.mem_concat_self v (List.mem_singleton_self v)
    have hseen : u.seen ≤ u.stamp := h.left.each u List.mem_concat_self
    -- the window of `v` does not reach further back than that of `u`
    have hold : within (v.seen - width) v.seen
          (within (u.seen - width) u.seen (kept width limit visits)) =
        within (v.seen - width) v.seen (admitted width limit visits) := by
      rw [hu, within, within, within, List.filter_filter]
      refine List.filter_congr fun t ht => ?_
      have hle : t ≤ u.seen := le_seen_of_mem_admitted h.left ht
      rw [← Bool.decide_and, decide_eq_decide]
      omega
    rw [kept_concat, admitted_concat, hu]
    by_cases hplace : (within (u.seen - width) u.seen (admitted width limit visits)).length ≤ limit
    · have hadmits : Admits width limit (admitted width limit visits) u := hplace
      rw [if_pos hplace, if_pos hadmits, within_append, within_append, ← hu, hold]
    · have hadmits : ¬Admits width limit (admitted width limit visits) u := hplace
      rw [if_neg hplace, if_neg hadmits, ← hu, hold]

/-- What is kept has been admitted. -/
theorem kept_subset_admitted (h : InOrder visits) :
    kept width limit visits ⊆ admitted width limit visits := by
  rcases List.eq_nil_or_concat visits with rfl | ⟨visits, v, rfl⟩
  · exact List.Subset.refl _
  · have hpruned : within (v.seen - width) v.seen (admitted width limit visits) ⊆
        admitted width limit visits := within_sublist.subset
    rw [List.concat_eq_append] at h ⊢
    rw [kept_concat, admitted_concat, within_kept h]
    by_cases hplace : Admits width limit (admitted width limit visits) v
    · have hlength : (within (v.seen - width) v.seen (admitted width limit visits)).length ≤
        limit := hplace
      rw [if_pos hplace, if_pos hlength]
      exact List.append_subset.mpr ⟨List.Subset.trans hpruned (List.subset_append_left _ _),
        List.subset_append_right _ _⟩
    · have hlength : ¬(within (v.seen - width) v.seen (admitted width limit visits)).length ≤
        limit := hplace
      rw [if_neg hplace, if_neg hlength]
      exact hpruned

end SlidingWindow
