import Tr069Manager.AcsAddress.Dns

/-!
# A bootstrap for every change of the URL

When the URL of the ACS changes, a bootstrap has to be sent, and it is asked for when the host has
been resolved. What is due is kept in one flag. The module sees it as an `Obligation`: a change
makes the bootstrap due, if it is noticed, and a resolution that comes to its end asks for it. Every
event of the module is one of the two, both, or neither (`Dns.obligation_step`).

There is never a bootstrap too many. But a change is noticed only if its URL can be read and parsed:
a request that fails before leaves the flag as it is, and the retry of the timer does not know of
the change any more, so that its bootstrap is lost (`not_kept_of_unreadable`). There is one for
every change in each run in which this happens only while a bootstrap is due already
(`kept_of_reaches`); where it happens otherwise, the bootstrap is lost as soon as the URL is an
address (`lost_of_unnoticed`).
-/

namespace Tr069

/-! ### The obligation -/

/-- What has to be done for the changes of the URL: whether a bootstrap is `due`; how many changes
and bootstraps there have been; whether there has been none since the last change (`owed`), and
whether a resolution has come to its end since. -/
structure Obligation where
  due : Bool
  changes : ℕ
  bootstraps : ℕ
  owed : Bool
  completed : Bool

namespace Obligation

/-- The URL changes, which is noticed or not. -/
def changed (o : Obligation) (noticed : Bool) : Obligation :=
  { o with due := noticed || o.due, changes := o.changes + 1, owed := true, completed := false }

/-- A resolution comes to its end. -/
def complete (o : Obligation) : Obligation :=
  if o.due then
    { o with due := false, bootstraps := o.bootstraps + 1, owed := false, completed := true }
  else { o with completed := true }

/-- A request comes, for a changed URL or not. -/
def requested (o : Obligation) (urlChanged noticed : Bool) : Obligation :=
  if urlChanged then o.changed noticed else o

/-- There is a change for every bootstrap, and for the one that is due. -/
def Counted (o : Obligation) : Prop :=
  o.bootstraps + (if o.due then 1 else 0) ≤ o.changes

/-- What is owed is due, and no resolution has come to its end. -/
def Owes (o : Obligation) : Prop :=
  o.owed = true → o.due = true ∧ o.completed = false

variable {o : Obligation} {noticed : Bool}

theorem Counted.changed (h : o.Counted) : (o.changed noticed).Counted := by
  rw [Counted] at h
  rw [Counted, Obligation.changed]
  show o.bootstraps + _ ≤ o.changes + 1
  split <;> split at h <;> omega

theorem Counted.complete (h : o.Counted) : o.complete.Counted := by
  rw [Counted] at h
  rw [Obligation.complete]
  split
  · next hdue =>
    rw [if_pos hdue] at h
    exact h
  · next hdue =>
    rw [Counted, if_neg hdue]
    rwa [if_neg hdue] at h

/-- A change that is noticed, or that comes while a bootstrap is due. -/
theorem Owes.changed (h : noticed = true ∨ o.due = true) : (o.changed noticed).Owes := by
  refine fun _ => ⟨?_, rfl⟩
  rcases h with hnoticed | hdue
  · exact Bool.or_eq_true_iff.mpr (Or.inl hnoticed)
  · exact Bool.or_eq_true_iff.mpr (Or.inr hdue)

theorem Counted.requested {urlChanged : Bool} (h : o.Counted) :
    (o.requested urlChanged noticed).Counted := by
  rcases urlChanged with - | -
  · exact h
  · exact h.changed

theorem Owes.requested {urlChanged : Bool} (h : o.Owes)
    (hchanged : urlChanged = true → noticed = true ∨ o.due = true) :
    (o.requested urlChanged noticed).Owes := by
  rcases urlChanged with - | -
  · exact h
  · exact Owes.changed (hchanged rfl)

theorem Owes.complete (h : o.Owes) : o.complete.Owes := by
  rw [Obligation.complete]
  split
  · intro howed
    cases howed
  · next hdue => exact fun howed => absurd (h howed).1 hdue

end Obligation

/-! ### What the events do to it -/

namespace Dns

variable {lib : UriLibrary} {s t : Dns} {e : DnsEvent}

/-- The obligation of a state. -/
def obligation (s : Dns) : Obligation :=
  ⟨s.sendBootstrap, s.history.changes, s.history.bootstraps, s.history.owed, s.history.completed⟩

/-- What is done last when a resolution comes to its end. -/
theorem obligation_bootstrapInform (h : s.history.completed = true) :
    s.bootstrapInform.obligation = s.obligation.complete := by
  rw [bootstrapInform, Obligation.complete]
  by_cases hdue : s.sendBootstrap = true
  · rw [if_pos hdue, if_pos (show s.obligation.due = true from hdue), obligation, obligation, h]
  · rw [if_neg hdue, if_neg (show ¬s.obligation.due = true from hdue), obligation, h]

/-- A resolution has come to its end: asking for the bootstrap is what is left to do. -/
theorem obligation_completed (h : t.sendBootstrap = s.sendBootstrap)
    (hhistory : ∃ host, t.history = { s.history with publishedFor := host, completed := true }) :
    t.bootstrapInform.obligation = s.obligation.complete := by
  obtain ⟨host, hhistory⟩ := hhistory
  have hobligation : t.obligation = { s.obligation with completed := true } := by
    rw [obligation, hhistory, h]
    rfl
  rw [obligation_bootstrapInform (by rw [hhistory]), hobligation]
  rw [Obligation.complete, Obligation.complete]

theorem obligation_resolveCb {r : Resolver} {success : Bool} {ai : Option (List AddrinfoNode)} :
    (s.resolveCb r success ai).obligation = s.obligation ∨
      (s.resolveCb r success ai).obligation = s.obligation.complete := by
  rcases hdirty : r.dirty with - | -
  · obtain ⟨val, timer, hcalled⟩ := resolveCb_eq s success ai hdirty
    rw [hcalled]
    refine Or.inr ?_
    split
    · exact obligation_completed rfl ⟨_, rfl⟩
    · exact obligation_completed rfl ⟨_, rfl⟩
  · rw [resolveCb_of_dirty hdirty]
    exact Or.inl rfl

/-- **A request**, which may come to its end at once. -/
theorem obligation_resolve {urlChanged : Bool} {place : Option ℕ}
    (hstep : s.cwmpDnsResolve lib urlChanged place = some t) :
    t.obligation = s.obligation.requested urlChanged (s.acsHost lib).isSome ∨
      t.obligation = (s.obligation.requested urlChanged (s.acsHost lib).isSome).complete := by
  have hprepared : (s.acsHost lib).isSome = true →
      ((s.requested lib urlChanged).prepared urlChanged).obligation =
        s.obligation.requested urlChanged (s.acsHost lib).isSome := by
    intro hsome
    rw [hsome]
    rcases urlChanged with - | -
    · rfl
    · rfl
  rcases resolve_cases hstep with ⟨hunread, rfl⟩ | ⟨host, hhost, hways⟩
  · refine Or.inl ?_
    rw [hunread]
    rcases urlChanged with - | -
    · rfl
    · rfl
  have hsome : (s.acsHost lib).isSome = true := by
    rw [hhost]
    rfl
  rcases hways with ⟨-, rfl⟩ | ⟨-, -, rfl⟩ | ⟨-, -, rfl⟩ | ⟨-, id, hid, -, rfl⟩
  · exact Or.inl (hprepared hsome)
  · -- an address is published at once, which is the end of the resolution
    rw [← hprepared hsome]
    exact Or.inr (obligation_completed rfl ⟨_, rfl⟩)
  · exact Or.inl (hprepared hsome)
  · exact Or.inl (hprepared hsome)

/-- The requests of an event: none, or one of the two kinds. -/
def noticedBy (lib : UriLibrary) (s : Dns) : DnsEvent → Obligation
  | .resolve urlChanged _ => s.obligation.requested urlChanged (s.acsHost lib).isSome
  | _ => s.obligation

/-- **Every event** makes the changes it brings, and a resolution may come to its end. -/
theorem obligation_step (hstep : s.step lib e = some t) :
    t.obligation = s.noticedBy lib e ∨ t.obligation = (s.noticedBy lib e).complete := by
  cases stepped_of_step hstep with
  | resolve hresolve => exact obligation_resolve hresolve
  | ttl hresolve =>
    -- the timer asks again, and not for a changed URL
    exact obligation_resolve (s := { s with dnsTtlTimer := none }) hresolve
  | @answer id r hr hopen success ai =>
    exact obligation_resolveCb
      (s := { s with resolverList := s.resolverList.modify id Resolver.called })
  | @clean id r hr hopen =>
    exact obligation_resolveCb (s := { s with resolverList := s.resolverList.remove id })
  | _ => exact Or.inl rfl

end Dns

/-! ### Runs -/

variable {lib : UriLibrary} {s t : Dns} {e : DnsEvent}

/-- **The condition on the events**: a URL changes to one that cannot be read only while a bootstrap
is due. -/
def Noticed (lib : UriLibrary) (s : Dns) : DnsEvent → Prop
  | .resolve true _ => s.acsHost lib = none → s.sendBootstrap = true
  | _ => True

theorem Obligation.Counted.step (h : s.obligation.Counted) (hstep : s.step lib e = some t) :
    t.obligation.Counted := by
  have hbrought : (s.noticedBy lib e).Counted := by
    rcases e with _ | ⟨urlChanged, place⟩ | _ | _ | _ | _ | _ | _
    case resolve => exact h.requested
    all_goals exact h
  rcases Dns.obligation_step hstep with hsame | hcompleted
  · exact hsame ▸ hbrought
  · exact hcompleted ▸ hbrought.complete

theorem Obligation.Owes.step (h : s.obligation.Owes) (hnoticed : Noticed lib s e)
    (hstep : s.step lib e = some t) : t.obligation.Owes := by
  have hbrought : (s.noticedBy lib e).Owes := by
    rcases e with _ | ⟨urlChanged, place⟩ | _ | _ | _ | _ | _ | _
    case resolve =>
      refine h.requested fun hchanged => ?_
      rcases hhost : s.acsHost lib with - | host
      · rw [hchanged] at hnoticed
        exact Or.inr (hnoticed hhost)
      · exact Or.inl rfl
    all_goals exact h
  rcases Dns.obligation_step hstep with hsame | hcompleted
  · exact hsame ▸ hbrought
  · exact hcompleted ▸ hbrought.complete

/-- **A bootstrap for every change**: never more bootstraps than changes, in every run; and none is
owed when a resolution has come to its end, where the events meet the condition. -/
theorem kept_of_reaches (lib : UriLibrary) (reads : DnsReads) (s : Dns)
    (h : Runs.Reaches (Dns.step lib) Runs.free (Dns.initial reads) s) :
    s.history.bootstraps ≤ s.history.changes ∧
      (Runs.Reaches (Dns.step lib) (Noticed lib) (Dns.initial reads) s →
        s.history.completed = true → s.history.owed = false) := by
  refine ⟨?_, fun hnoticed hcompleted => ?_⟩
  · have hcounted : s.obligation.Counted := by
      refine Runs.Reaches.invariant (I := fun u => u.obligation.Counted)
        (fun u e v hu _ hv => hu.step hv) h ?_
      exact Nat.le_refl 0
    exact (Nat.le_add_right _ _).trans hcounted
  · have howes : s.obligation.Owes := by
      refine Runs.Reaches.invariant (I := fun u => u.obligation.Owes)
        (fun u e v hu he hv => hu.step he hv) hnoticed ?_
      intro howed
      cases howed
    refine Bool.eq_false_iff.mpr fun howed => ?_
    exact Bool.false_ne_true ((howes howed).2.symm.trans hcompleted)

/-- A run that meets the condition: the URL changes to a host that is looked up, and again, to one
that cannot be read, before the answer. -/
def noticedRun : List DnsEvent :=
  [.resolve true (some 0), .read ⟨none, none⟩, .resolve true none, .answer 0 false none]

theorem kept_of_noticedRun :
    ∃ s, Runs.exec (Dns.step exampleLibrary) (Dns.initial ⟨some "acs.example".toList, none⟩)
      noticedRun = some s ∧ s.history.completed = true ∧ s.history.owed = false := by
  have hmeets : Runs.Meets (Dns.step exampleLibrary) (Noticed exampleLibrary)
      (Dns.initial ⟨some "acs.example".toList, none⟩) noticedRun := by
    refine ⟨fun hunread => ?_, fun s₁ h₁ => ?_⟩
    · cases hunread
    obtain rfl := Option.some.inj h₁
    refine ⟨trivial, fun s₂ h₂ => ?_⟩
    obtain rfl := Option.some.inj h₂
    exact ⟨fun _ => rfl, fun _ _ => ⟨trivial, fun _ _ => trivial⟩⟩
  exact ⟨_, rfl, rfl, (kept_of_reaches exampleLibrary ⟨some "acs.example".toList, none⟩ _
    (Runs.reaches_free_of_exec noticedRun rfl)).2 (Runs.reaches_of_exec rfl hmeets) rfl⟩

/-- The URL changes to one that cannot be read, and is an address when the timer tries again: the
bootstrap for the change is not asked for. -/
theorem not_kept_of_unreadable :
    ¬∀ (lib : UriLibrary) (reads : DnsReads) (s : Dns),
      Runs.Reaches (Dns.step lib) Runs.free (Dns.initial reads) s →
      s.history.bootstraps ≤ s.history.changes ∧
        (s.history.completed = true → s.history.owed = false) := by
  intro h
  have hkept := (h exampleLibrary ⟨none, none⟩ _ (Runs.reaches_free_of_exec
    [.resolve true none, .read ⟨some "192.0.2.1".toList, none⟩, .elapse 5000, .ttl none]
    rfl)).2 rfl
  cases hkept

theorem resolve_of_address {host : CString} (hhost : s.acsHost lib = some host)
    (haddress : lib.IsAddress host) (urlChanged : Bool) (place : Option ℕ) :
    s.cwmpDnsResolve lib urlChanged place = some (((s.requested lib urlChanged).prepared
      urlChanged).setStaticIp host).bootstrapInform := by
  have hrequested : (s.requested lib urlChanged).acsHost lib = some host := hhost
  rw [Dns.requested] at hrequested ⊢
  rw [Dns.cwmpDnsResolve]
  dsimp only
  rw [hrequested]
  dsimp only
  rw [if_neg haddress.1, if_pos haddress.2]

/-- **Where the condition is not met**, the bootstrap is lost: when the URL is an address later on,
a resolution comes to its end, and the bootstrap is still owed. -/
theorem lost_of_unnoticed {place : Option ℕ} {url host : CString}
    (hparse : lib.lwsParseUri url = some host) (haddress : lib.IsAddress host)
    (hnot : ¬Noticed lib s (.resolve true place))
    (hstep : s.step lib (.resolve true place) = some t) :
    ∃ u, Runs.Reaches (Dns.step lib) Runs.free t u ∧ u.history.completed = true ∧
      u.history.owed = true := by
  obtain ⟨hunread, hdue⟩ := Classical.not_imp.mp hnot
  have ht : t = (s.requested lib true).retryLater := by
    rcases Dns.resolve_cases hstep with ⟨-, ht⟩ | ⟨host', hhost', -⟩
    · exact ht
    · rw [hunread] at hhost'
      cases hhost'
  -- the URL is an address, and there is another request, which publishes it
  have hhost : ({ t with reads := ⟨some url, none⟩ } : Dns).acsHost lib = some host := hparse
  have hresolve := resolve_of_address hhost haddress false none
  have hdue' : ¬t.sendBootstrap = true := by
    rw [ht]
    exact hdue
  have hlost : t.obligation.complete = { t.obligation with completed := true } := if_neg hdue'
  have howed : t.history.owed = true := by
    rw [ht]
    rfl
  refine ⟨_, (Runs.Reaches.single trivial (e := .read ⟨some url, none⟩) rfl).trans
    (Runs.Reaches.single trivial (e := .resolve false none) hresolve), ?_⟩
  have hobligation := (Dns.obligation_completed
    (s := (({ t with reads := ⟨some url, none⟩ } : Dns).requested lib false).prepared false)
    (t := ((({ t with reads := ⟨some url, none⟩ } : Dns).requested lib false).prepared
      false).setStaticIp host) rfl ⟨some host, rfl⟩).trans hlost
  exact ⟨congrArg Obligation.completed hobligation,
    (congrArg Obligation.owed hobligation).trans howed⟩

end Tr069
