import Tr069Manager.Lib.Runs

/-!
# A system that is told what another one does

A *producer* goes its way, and a *consumer* is told of every step of it: `feed p q` are the events
of the consumer that a step of the producer from `p` to `q` comes to. Between these the consumer
takes steps of its own, those that `own` lets it take; what it is told it cannot refuse, so that a
step of the producer which the consumer has no answer to is not one of the two together.

The two rules of the file say that this never happens, and what the run is to each of the two. If
producer and consumer agree, and the consumer can follow from what they agree on, they agree in
every run and nothing is refused (`Feed.agree_of_reaches`, `Feed.follows`). The run of the two is a
run of the producer (`Feed.producer_of_reaches`), and a run of the consumer that meets whatever
guard is met by what it is told (`Feed.consumer_of_reaches`).
-/

namespace Runs.Feed

variable {π κ ε δ : Type*}

section Step

variable (producer : π → ε → Option π) (consumer : κ → δ → Option κ) (feed : π → π → List δ)
  (own : κ → δ → Bool)

/-- One step of the two: the producer takes one, and the consumer is told of it, or the consumer
takes one of its own. -/
def step (s : π × κ) : ε ⊕ δ → Option (π × κ)
  | .inl e => (producer s.1 e).bind fun q => (exec consumer s.2 (feed s.1 q)).map fun c => (q, c)
  | .inr d => if own s.2 d then (consumer s.2 d).map fun c => (s.1, c) else none

end Step

variable {producer : π → ε → Option π} {consumer : κ → δ → Option κ} {feed : π → π → List δ}
  {own : κ → δ → Bool} {G : π × κ → ε ⊕ δ → Prop} {s t : π × κ}

/-- A step is one of the producer that the consumer follows, or one of the consumer. -/
theorem step_cases {e : ε ⊕ δ} (h : step producer consumer feed own s e = some t) :
    (∃ x, e = .inl x ∧ producer s.1 x = some t.1 ∧
      exec consumer s.2 (feed s.1 t.1) = some t.2) ∨
    ∃ d, e = .inr d ∧ own s.2 d = true ∧ consumer s.2 d = some t.2 ∧ t.1 = s.1 := by
  rcases e with x | d
  · obtain ⟨q, hq, hrest⟩ := Option.bind_eq_some_iff.mp h
    obtain ⟨c, hc, rfl⟩ := Option.map_eq_some_iff.mp hrest
    exact Or.inl ⟨x, rfl, hq, hc⟩
  · rw [step, Option.ite_none_right_eq_some] at h
    obtain ⟨c, hc, rfl⟩ := Option.map_eq_some_iff.mp h.2
    exact Or.inr ⟨d, rfl, h.1, hc, rfl⟩

/-! ### What the run is to each of the two -/

/-- **The producer does not notice the consumer.** -/
theorem producer_of_reaches (GP : π → ε → Prop) (hG : ∀ s e, G s (.inl e) → GP s.1 e)
    (h : Reaches (step producer consumer feed own) G s t) : Reaches producer GP s.1 t.1 := by
  refine h.invariant (I := fun u => Reaches producer GP s.1 u.1) (fun a e b ha hg he => ?_)
    Relation.ReflTransGen.refl
  rcases step_cases he with ⟨x, rfl, hx, -⟩ | ⟨d, rfl, -, -, hsame⟩
  · exact ha.tail ⟨x, hG a x hg, hx⟩
  · exact hsame ▸ ha

/-- **The consumer takes steps of its own**, whatever it is told: if its guard is met by what it is
told and by what it does, in all states of the run, the run is one of the consumer. -/
theorem consumer_of_reaches {GC : κ → δ → Prop} {r : π × κ}
    (hr : Reaches (step producer consumer feed own) G r s)
    (htold : ∀ u e q, Reaches (step producer consumer feed own) G r u → G u (.inl e) →
      producer u.1 e = some q → Meets consumer GC u.2 (feed u.1 q))
    (hown : ∀ u d, G u (.inr d) → own u.2 d = true → GC u.2 d)
    (h : Reaches (step producer consumer feed own) G s t) : Reaches consumer GC s.2 t.2 := by
  induction h with
  | refl => exact Relation.ReflTransGen.refl
  | @tail b c hrun hlast ih =>
    obtain ⟨e, hg, he⟩ := hlast
    rcases step_cases he with ⟨x, rfl, hx, hc⟩ | ⟨d, rfl, hd, hc, -⟩
    · exact ih.trans (reaches_of_exec hc (htold b x c.1 (hr.trans hrun) hg hx))
    · exact ih.tail ⟨d, hown b d hg hd, hc⟩

/-! ### Agreement -/

/-- From what the two agree on, the consumer can follow, and they agree again; and the consumer on
its own keeps to it. -/
structure Follows (producer : π → ε → Option π) (consumer : κ → δ → Option κ)
    (feed : π → π → List δ) (own : κ → δ → Bool) (G : π × κ → ε ⊕ δ → Prop)
    (Agree : π × κ → Prop) : Prop where
  told : ∀ s e q, Agree s → G s (.inl e) → producer s.1 e = some q →
    ∃ c, exec consumer s.2 (feed s.1 q) = some c ∧ Agree (q, c)
  own : ∀ s d c, Agree s → G s (.inr d) → own s.2 d = true → consumer s.2 d = some c →
    Agree (s.1, c)

variable {Agree : π × κ → Prop}

/-- **What the two agree on holds in every run.** -/
theorem agree_of_reaches (hfollows : Follows producer consumer feed own G Agree) (hs : Agree s)
    (h : Reaches (step producer consumer feed own) G s t) : Agree t := by
  refine h.invariant (I := Agree) (fun a e ⟨q, c⟩ ha hg he => ?_) hs
  rcases step_cases he with ⟨x, rfl, hx, hc⟩ | ⟨d, rfl, hd, hc, hsame⟩
  · obtain ⟨c', hexec, hagree⟩ := hfollows.told a x q ha hg hx
    obtain rfl := Option.some.inj (hc.symm.trans hexec)
    exact hagree
  · obtain rfl : q = a.1 := hsame
    exact hfollows.own a d c ha hg hd hc

/-- **Nothing the producer does is refused**: where the two agree, a step of the producer is one of
both. -/
theorem follows (hfollows : Follows producer consumer feed own G Agree) (hs : Agree s) {e : ε}
    {q : π} (hg : G s (.inl e)) (he : producer s.1 e = some q) :
    ∃ c, step producer consumer feed own s (.inl e) = some (q, c) := by
  obtain ⟨c, hc, -⟩ := hfollows.told s e q hs hg he
  refine ⟨c, ?_⟩
  rw [step, he, Option.bind_some, hc, Option.map_some]

/-! ### Lists of events -/

section Append

variable {σ : Type*} {next : σ → δ → Option σ} {H : σ → δ → Prop} {a b c : σ} {xs ys : List δ}

/-- A run on one list and then on another. -/
theorem exec_append (hxs : exec next a xs = some b) (hys : exec next b ys = some c) :
    exec next a (xs ++ ys) = some c := by
  induction xs generalizing a with
  | nil =>
    obtain rfl := Option.some.inj hxs
    exact hys
  | cons x xs ih =>
    obtain ⟨u, hu, hrest⟩ := Option.bind_eq_some_iff.mp hxs
    rw [List.cons_append, exec, hu, Option.bind_some]
    exact ih hrest

theorem meets_append (hxs : exec next a xs = some b) (hmx : Meets next H a xs)
    (hmy : Meets next H b ys) : Meets next H a (xs ++ ys) := by
  induction xs generalizing a with
  | nil =>
    obtain rfl := Option.some.inj hxs
    exact hmy
  | cons x xs ih =>
    obtain ⟨u, hu, hrest⟩ := Option.bind_eq_some_iff.mp hxs
    refine ⟨hmx.1, fun t ht => ?_⟩
    obtain rfl := Option.some.inj (hu.symm.trans ht)
    exact ih hrest (hmx.2 u hu)

end Append

/-- The events of the producer in those of the two. -/
def ofProducer (es : List (ε ⊕ δ)) : List ε := es.filterMap Sum.getLeft?

/-- The run of the two on a list of events is the run of the producer on its own. -/
theorem exec_producer {es : List (ε ⊕ δ)}
    (h : exec (step producer consumer feed own) s es = some t) :
    exec producer s.1 (ofProducer es) = some t.1 := by
  induction es generalizing s with
  | nil => exact congrArg (Option.map Prod.fst) h
  | cons e es ih =>
    obtain ⟨u, hu, hrest⟩ := Option.bind_eq_some_iff.mp h
    have hrun := ih hrest
    rcases step_cases hu with ⟨x, rfl, hx, -⟩ | ⟨d, rfl, -, -, hsame⟩
    · show exec producer s.1 (x :: ofProducer es) = some t.1
      rw [exec, hx, Option.bind_some, hrun]
    · show exec producer s.1 (ofProducer es) = some t.1
      rw [← hsame, hrun]

/-- The guard along the run of the two, for the producer. -/
theorem meets_producer (GP : π → ε → Prop) (hG : ∀ s e, G s (.inl e) → GP s.1 e)
    {es : List (ε ⊕ δ)} (h : exec (step producer consumer feed own) s es = some t)
    (hm : Meets (step producer consumer feed own) G s es) :
    Meets producer GP s.1 (ofProducer es) := by
  induction es generalizing s with
  | nil => trivial
  | cons e es ih =>
    obtain ⟨u, hu, hrest⟩ := Option.bind_eq_some_iff.mp h
    have hmeets := ih hrest (hm.2 u hu)
    rcases step_cases hu with ⟨x, rfl, hx, -⟩ | ⟨d, rfl, -, -, hsame⟩
    · refine ⟨hG s x hm.1, fun q hq => ?_⟩
      rw [hx] at hq
      exact Option.some.inj hq ▸ hmeets
    · show Meets producer GP s.1 (ofProducer es)
      rw [← hsame]
      exact hmeets

end Runs.Feed
