import Mathlib.Data.Nat.Init

/-!
# Loops whose body moves the index

A loop `for(i = 0; i < len; i++) body(&i)` hands its index to the body, which may move it
on before the loop adds one. The loop runs on fuel here, and says nothing when the fuel
ends before the index is past `len`. If the body never moves the index backwards, then as
much fuel as there are indices left is enough (`indexLoop_ends`, and `indexLoop_total` with
an invariant); and what holds of the index and the state is carried from one round to the
next (`indexLoop_rule`).
-/

/-- The loop, with the body as a function of the index and a state: what it makes of both,
before the loop adds one to the index. -/
def indexLoop {S : Type*} (len : Nat) (body : Nat → S → Nat × S) :
    Nat → Nat → S → Option (Nat × S)
  | 0, i, s => if i < len then none else some (i, s)
  | fuel + 1, i, s =>
    if i < len then indexLoop len body fuel ((body i s).1 + 1) (body i s).2 else some (i, s)

variable {S : Type*} {len : Nat} {body : Nat → S → Nat × S}

/-- **The loop comes to its end**, past the last index, if on the states it meets the body
does not move the index backwards; and what every round keeps holds there. -/
theorem indexLoop_total {I : Nat → S → Prop}
    (hround : ∀ i s, i < len → I i s →
      i ≤ (body i s).1 ∧ I ((body i s).1 + 1) (body i s).2)
    {fuel i : Nat} {s : S} (hfuel : len - i ≤ fuel) (hI : I i s) :
    ∃ j t, indexLoop len body fuel i s = some (j, t) ∧ I j t ∧ len ≤ j := by
  induction fuel generalizing i s with
  | zero => exact ⟨i, s, if_neg (by omega), hI, by omega⟩
  | succ fuel ih =>
    by_cases hi : i < len
    · obtain ⟨hle, hnext⟩ := hround i s hi hI
      rw [indexLoop, if_pos hi]
      exact ih (by omega) hnext
    · exact ⟨i, s, if_neg hi, hI, by omega⟩

/-- The loop comes to its end if the body never moves the index backwards. -/
theorem indexLoop_ends (hbody : ∀ i s, i < len → i ≤ (body i s).1) {fuel i : Nat} {s : S}
    (hfuel : len - i ≤ fuel) : ∃ r, indexLoop len body fuel i s = some r := by
  obtain ⟨j, t, h, -⟩ := indexLoop_total (I := fun _ _ => True)
    (fun i s hi _ => ⟨hbody i s hi, trivial⟩) hfuel trivial
  exact ⟨(j, t), h⟩

/-- **What every round keeps holds at the end**, where the index is past the last one. -/
theorem indexLoop_rule {I : Nat → S → Prop}
    (hround : ∀ i s, i < len → I i s → I ((body i s).1 + 1) (body i s).2)
    {fuel i j : Nat} {s t : S} (hI : I i s) (h : indexLoop len body fuel i s = some (j, t)) :
    I j t ∧ len ≤ j := by
  induction fuel generalizing i s with
  | zero =>
    by_cases hi : i < len
    · rw [indexLoop, if_pos hi] at h
      cases h
    · rw [indexLoop, if_neg hi] at h
      obtain ⟨rfl, rfl⟩ := Prod.mk.inj (Option.some.inj h)
      exact ⟨hI, by omega⟩
  | succ fuel ih =>
    by_cases hi : i < len
    · rw [indexLoop, if_pos hi] at h
      exact ih (hround i s hi hI) h
    · rw [indexLoop, if_neg hi] at h
      obtain ⟨rfl, rfl⟩ := Prod.mk.inj (Option.some.inj h)
      exact ⟨hI, by omega⟩
