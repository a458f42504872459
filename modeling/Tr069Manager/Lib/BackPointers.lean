import Mathlib.Logic.Function.Basic

/-!
# Handles and the objects that know them

A table has handles of objects under keys, and a heap has the objects at their handles. An object
knows the key its handle is under, so that the two can be changed from either side – and have to be
changed together. `Linked` says that they agree: the handle in the table is that of an object that
knows its key, and the key of every object in the heap has its handle in the table.

Objects are added to both (`Linked.link`), and taken out of both (`Linked.unlink`), even at the
handle of an object that was taken out before. What the two are together is the partial function
`value` from keys to objects; `Linked` makes it as good as the heap (`Linked.value_eq_some`), and
adding and taking out change it at one key.
-/

namespace BackPointers

variable {κ α ε : Type*} {table : κ → Option α} {heap : α → Option ε} {key : ε → κ} {k : κ}
  {a b : α} {e : ε}

/-- Each handle in the table is that of an object that knows its key, and the other way round. -/
structure Linked (table : κ → Option α) (heap : α → Option ε) (key : ε → κ) : Prop where
  found : ∀ k a, table k = some a → ∃ e, heap a = some e ∧ key e = k
  held : ∀ a e, heap a = some e → table (key e) = some a

/-- The object whose handle is under a key. -/
def value (table : κ → Option α) (heap : α → Option ε) (k : κ) : Option ε := (table k).bind heap

/-- No two objects know one key. -/
theorem Linked.handle_inj (h : Linked table heap key) {e' : ε} (ha : heap a = some e)
    (hb : heap b = some e') (hkey : key e = key e') : a = b := by
  have htable := h.held b e' hb
  rw [← hkey, h.held a e ha] at htable
  exact Option.some.inj htable

/-- **The objects in the heap** are those whose handles are in the table. -/
theorem Linked.value_eq_some (h : Linked table heap key) :
    value table heap k = some e ↔ key e = k ∧ ∃ a, heap a = some e := by
  constructor
  · intro hvalue
    obtain ⟨a, hk, ha⟩ := Option.bind_eq_some_iff.mp hvalue
    obtain ⟨e', ha', hkey⟩ := h.found k a hk
    obtain rfl := Option.some.inj (ha.symm.trans ha')
    exact ⟨hkey, a, ha⟩
  · rintro ⟨rfl, a, ha⟩
    rw [value, h.held a e ha]
    exact ha

variable [DecidableEq κ] [DecidableEq α]

/-- **Taking out**: the handle and the object go together. -/
theorem Linked.unlink (h : Linked table heap key) (hk : table k = some a) :
    Linked (Function.update table k none) (Function.update heap a none) key := by
  obtain ⟨e, ha, rfl⟩ := h.found k a hk
  constructor
  · intro j b hb
    by_cases hj : j = key e
    · rw [hj, Function.update_self] at hb
      cases hb
    · rw [Function.update_of_ne hj] at hb
      obtain ⟨e', hb', rfl⟩ := h.found j b hb
      have hne : b ≠ a := by
        rintro rfl
        exact hj (congrArg key (Option.some.inj (hb'.symm.trans ha)))
      exact ⟨e', (Function.update_of_ne hne _ _).trans hb', rfl⟩
  · intro b e' hb
    by_cases hba : b = a
    · rw [hba, Function.update_self] at hb
      cases hb
    · rw [Function.update_of_ne hba] at hb
      rw [Function.update_of_ne fun hkey => hba (h.handle_inj hb ha hkey)]
      exact h.held b e' hb

/-- **Adding** an object at a handle that no object has, if there is no handle under its key. -/
theorem Linked.link (h : Linked table heap key) (hfree : heap a = none)
    (hnone : table (key e) = none) :
    Linked (Function.update table (key e) (some a)) (Function.update heap a (some e)) key := by
  constructor
  · intro j b hb
    by_cases hj : j = key e
    · rw [hj, Function.update_self] at hb
      obtain rfl := Option.some.inj hb
      exact ⟨e, Function.update_self .., hj.symm⟩
    · rw [Function.update_of_ne hj] at hb
      obtain ⟨e', hb', hkey⟩ := h.found j b hb
      have hne : b ≠ a := by
        rintro rfl
        exact Option.some_ne_none _ (hb'.symm.trans hfree)
      exact ⟨e', (Function.update_of_ne hne _ _).trans hb', hkey⟩
  · intro b e' hb
    by_cases hba : b = a
    · rw [hba, Function.update_self] at hb
      obtain rfl := Option.some.inj hb
      rw [hba, Function.update_self]
    · rw [Function.update_of_ne hba] at hb
      have hheld := h.held b e' hb
      have hne : key e' ≠ key e := by
        intro hkey
        rw [hkey, hnone] at hheld
        cases hheld
      rw [Function.update_of_ne hne]
      exact hheld

theorem Linked.value_unlink (h : Linked table heap key) (hk : table k = some a) :
    value (Function.update table k none) (Function.update heap a none) =
      Function.update (value table heap) k none := by
  funext j
  by_cases hj : j = k
  · rw [hj, value, Function.update_self, Function.update_self]
    rfl
  · rw [value, Function.update_of_ne hj, Function.update_of_ne hj, value]
    rcases hb : table j with - | b
    · rfl
    · obtain ⟨e, ha, rfl⟩ := h.found k a hk
      obtain ⟨e', hb', rfl⟩ := h.found j b hb
      have hne : b ≠ a := by
        rintro rfl
        exact hj (congrArg key (Option.some.inj (hb'.symm.trans ha)))
      exact Function.update_of_ne hne _ _

theorem Linked.value_link (h : Linked table heap key) (hfree : heap a = none) :
    value (Function.update table (key e) (some a)) (Function.update heap a (some e)) =
      Function.update (value table heap) (key e) (some e) := by
  funext j
  by_cases hj : j = key e
  · rw [hj, value, Function.update_self, Function.update_self]
    exact Function.update_self ..
  · rw [value, Function.update_of_ne hj, Function.update_of_ne hj, value]
    rcases hb : table j with - | b
    · rfl
    · obtain ⟨e', hb', -⟩ := h.found j b hb
      have hne : b ≠ a := by
        rintro rfl
        exact Option.some_ne_none _ (hb'.symm.trans hfree)
      exact Function.update_of_ne hne _ _

end BackPointers
