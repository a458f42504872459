import Tr069Manager.ConnRequestAddress.Changes

/-!
# What is under way comes to an end

What the plugin has begun goes on by itself: changes are handled, timers run out, the deferred
initialisation comes. Each of these events spends some of what is still to be done
(`ConnReqPlugin.toDo_lt_of_underWay`), so that they end. And where they have ended, a daemon runs for
an address that can be used, because the address was handled as a change of the host and the daemon
started for it, at the deferred initialisation at the latest (`ConnReqPlugin.DaemonComes`).
-/

namespace Tr069

open Runs

namespace ConnReqPlugin

variable {isAddressIpV6 : CString → Bool} {s t u v : ConnReqPlugin} {e : Event}

/-! ### What is under way -/

/-- **The events that come by themselves.** -/
def UnderWay : Event → Prop
  | .dispatch _ _ | .restartTimer | .deferredInit _ | .ipv6Timer | .lostTimer _ => True
  | .write _ _ _ | .updateConnectionRequestUrl _ _ _ | .setInterface _ |
    .setPreferredIpVersion _ | .ipv4Changed _ | .ipv6Changed _ | .elapse _ | .cwmpdExit => False

theorem sum_toHandle {new : List ConnReqChange}
    (h : ∀ c ∈ new, ∃ host path port, c = .connRequest host path port) :
    (new.map ConnReqChange.toHandle).sum = new.length := by
  have hone : new.map ConnReqChange.toHandle = new.map fun _ => 1 := by
    refine List.map_congr_left fun c hc => ?_
    obtain ⟨host, path, port, rfl⟩ := h c hc
    rfl
  rw [hone, List.map_const', List.sum_replicate_nat, Nat.mul_one]

/-- What is spent from a state on with less to do than before. -/
theorem Spends.toDo {n : ℕ} (h : Spends n v t) (hless : v.toDo + n < s.toDo) :
    ∃ new, t.queue = v.queue ++ new ∧
      (∀ c ∈ new, ∃ host path port, c = .connRequest host path port) ∧
      t.toDo + 7 * new.length < s.toDo := by
  obtain ⟨new, hqueue, hnew, hspent⟩ := h
  refine ⟨new, hqueue, hnew, ?_⟩
  rw [ConnReqPlugin.toDo, hqueue, List.map_append, List.sum_append, sum_toHandle hnew]
  rw [ConnReqPlugin.toDo] at hless
  omega

/-- The queries of the deferred initialisation. -/
theorem Spends.queriesOpened (s : ConnReqPlugin) (results : QueryResults) :
    Spends 17 { s with initDone := true, deferredInitTimer := false }
      (s.queriesOpened results) := by
  unfold ConnReqPlugin.queriesOpened
  dsimp only
  split
  · exact (Spends.refl _).mono (Nat.zero_le 17)
  · exact Spends.openQueries _ results

/-- Starting the daemon does not lead to fewer processes, and where it is not run by hand there is
one then. -/
theorem startCwmpd_processes (s : ConnReqPlugin) :
    s.processes ≤ (s.startCwmpd isAddressIpV6).processes ∧
      (s.cwmpdStandalone = false → (s.startCwmpd isAddressIpV6).cwmpdProc = true) := by
  unfold ConnReqPlugin.startCwmpd
  split
  · next hhand => exact ⟨Nat.le_refl _, fun hnot => absurd (hhand.symm.trans hnot) (by decide)⟩
  · split
    · next hproc => exact ⟨Nat.le_refl _, fun _ => hproc⟩
    · exact ⟨Nat.le_succ _, fun _ => rfl⟩

theorem connRequestChanged_processes (s : ConnReqPlugin) (created : Option CString)
    (a b c : Bool) :
    s.processes ≤ (s.connRequestChanged isAddressIpV6 created a b c).processes ∧
      (s.cwmpdProc = true →
        (s.connRequestChanged isAddressIpV6 created a b c).cwmpdProc = true) := by
  obtain ⟨-, hdaemon, -⟩ := @connRequestChanged_spec isAddressIpV6 s created a b c
  have hprocess := congrArg Prod.snd hdaemon
  change (_, _) = _ at hprocess
  rcases @changedDaemon_process isAddressIpV6 s a c with hsame | ⟨hnone, -, hstarted⟩
  · obtain ⟨hproc, hprocesses⟩ := Prod.mk.inj (hprocess.trans hsame)
    exact ⟨hprocesses.ge, fun h => hproc.trans h⟩
  · obtain ⟨hproc, hprocesses⟩ := Prod.mk.inj (hprocess.trans hstarted)
    exact ⟨hprocesses.ge.trans' (Nat.le_succ _), fun _ => hproc⟩

/-- A change of the host is still to be handled. -/
def HostPending (s : ConnReqPlugin) : Prop := ∃ path port, .connRequest true path port ∈ s.queue

/-- **The invariant**: for an address that can be used, a daemon runs or comes. -/
structure DaemonComes (s : ConnReqPlugin) : Prop where
  standalone : s.cwmpdStandalone = false
  init : s.initDone = true ∨ s.deferredInitTimer = true
  comes : Usable s.connRequestHost → s.HostPending ∨ s.cwmpdProc = true ∨ 0 < s.restartTimers ∨
    s.cwmpdStartAvoided = true ∧ s.deferredInitTimer = true
  touched : s.untouched = true → s.connRequestHost = defaultCrh

/-- From `s` to `t` no daemon has come or gone, and another host is a change to be handled. -/
structure HostTold (s t : ConnReqPlugin) : Prop where
  queue : ∀ c ∈ s.queue, c ∈ t.queue
  host : t.connRequestHost = s.connRequestHost ∨ t.HostPending ∧ t.untouched = false
  untouched : t.untouched = true → s.untouched = true
  standalone : t.cwmpdStandalone = s.cwmpdStandalone
  initDone : t.initDone = s.initDone
  initTimer : t.deferredInitTimer = s.deferredInitTimer
  proc : t.cwmpdProc = s.cwmpdProc
  restartTimers : t.restartTimers = s.restartTimers
  avoided : t.cwmpdStartAvoided = s.cwmpdStartAvoided

theorem HostPending.mono (h : s.HostPending) (hqueue : ∀ c ∈ s.queue, c ∈ t.queue) :
    t.HostPending := by
  obtain ⟨path, port, hmem⟩ := h
  exact ⟨path, port, hqueue _ hmem⟩

namespace HostTold

theorem refl (s : ConnReqPlugin) : s.HostTold s :=
  ⟨fun _ hc => hc, Or.inl rfl, id, rfl, rfl, rfl, rfl, rfl, rfl⟩

theorem trans (h : s.HostTold t) (h' : t.HostTold u) : s.HostTold u where
  queue c hc := h'.queue c (h.queue c hc)
  host := by
    rcases h'.host with hsame | hpending
    · refine h.host.imp hsame.trans fun ⟨hpending, htouched⟩ => ⟨hpending.mono h'.queue, ?_⟩
      refine Bool.eq_false_iff.mpr fun hnot => ?_
      exact absurd (htouched.symm.trans (h'.untouched hnot)) (by decide)
    · exact Or.inr hpending
  untouched hu := h.untouched (h'.untouched hu)
  standalone := h'.standalone.trans h.standalone
  initDone := h'.initDone.trans h.initDone
  initTimer := h'.initTimer.trans h.initTimer
  proc := h'.proc.trans h.proc
  restartTimers := h'.restartTimers.trans h.restartTimers
  avoided := h'.avoided.trans h.avoided

/-- A transaction that changes the host is a change of the host. -/
theorem writeConnRequest (s : ConnReqPlugin) (host path : Option CString) (port : Option UInt16) :
    s.HostTold (s.writeConnRequest host path port) := by
  rcases writeConnRequest_told s host path port with ⟨hsame, -, -, -⟩ | ⟨a, b, c, ha, -, -, heq⟩
  · rw [hsame]
    exact refl s
  · rw [heq]
    refine ⟨fun _ hd => List.mem_append_left _ hd, ?_, nofun, rfl, rfl, rfl, rfl, rfl, rfl⟩
    by_cases hhost : host.getD s.connRequestHost = s.connRequestHost
    · exact Or.inl hhost
    · refine Or.inr ⟨⟨b, c, List.mem_append_right _ ?_⟩, rfl⟩
      rw [ha.mpr hhost]
      exact List.mem_singleton_self _

theorem addressClosed (s : ConnReqPlugin) : AddressClosed s.HostTold where
  addresses _ _ _ _ _ _ _ h := ⟨h.queue, h.host, h.untouched, h.standalone, h.initDone,
    h.initTimer, h.proc, h.restartTimers, h.avoided⟩
  host t ip h := by
    have hlocal : s.HostTold { t with localIpAddress := ip } := ⟨h.queue, h.host, h.untouched,
      h.standalone, h.initDone, h.initTimer, h.proc, h.restartTimers, h.avoided⟩
    unfold ConnReqPlugin.updateConreqHost
    dsimp only
    split
    · exact hlocal.trans (writeConnRequest _ (some ip) none none)
    · exact hlocal

end HostTold

namespace DaemonComes

/-- Where no daemon has come or gone, and a change of the host is to be handled if there is one. -/
theorem hostTold (h : s.DaemonComes) (htold : s.HostTold t) : t.DaemonComes where
  standalone := htold.standalone.trans h.standalone
  init := by
    rw [htold.initDone, htold.initTimer]
    exact h.init
  comes husable := by
    rw [htold.proc, htold.restartTimers, htold.avoided, htold.initTimer]
    rcases htold.host with hsame | ⟨hpending, -⟩
    · exact (h.comes (hsame ▸ husable)).imp_left fun hpending => hpending.mono htold.queue
    · exact Or.inl hpending
  touched hnot := by
    rcases htold.host with hsame | ⟨-, htouched⟩
    · exact hsame.trans (h.touched (htold.untouched hnot))
    · exact absurd (htouched.symm.trans hnot) (by decide)

/-- A change that is not one of the connection request is taken from the queue. -/
theorem withQueue (h : s.DaemonComes) {change : ConnReqChange} {rest : List ConnReqChange}
    (hqueue : s.queue = change :: rest) (hother : ∀ path port, change ≠ .connRequest true path port) :
    (s.withQueue rest).DaemonComes := by
  refine ⟨h.standalone, h.init, fun husable => (h.comes husable).imp_left ?_, h.touched⟩
  rintro ⟨path, port, hmem⟩
  rw [hqueue] at hmem
  refine ⟨path, port, (List.mem_cons.mp hmem).resolve_left fun heq => ?_⟩
  exact hother path port heq.symm

/-- The daemon is started for the address, or is going to be. -/
theorem served (hstandalone : s.cwmpdStandalone = false) :
    (s.serve isAddressIpV6).cwmpdProc = true ∨
      (s.serve isAddressIpV6).cwmpdStartAvoided = true ∧ s.initDone = false := by
  unfold serve
  split
  · split
    · exact Or.inl ((startCwmpd_processes s).2 hstandalone)
    · next hinit => exact Or.inr ⟨rfl, Bool.eq_false_iff.mpr hinit⟩
  · next hproc => exact Or.inl (not_not.mp hproc)

/-- The handler of the host. -/
theorem hostHandled (hon : s.updateConnRequestUrl = true) (hstandalone : s.cwmpdStandalone = false)
    (husable : Usable s.connRequestHost) (created : Option CString) :
    (s.updateConnectionRequestUrl isAddressIpV6 created).cwmpdProc = true ∨
      (s.updateConnectionRequestUrl isAddressIpV6 created).cwmpdStartAvoided = true ∧
        s.initDone = false := by
  have hurl := (@Same.updateConnReqUrl isAddressIpV6 s).1
  have hpath := (withPath_spec (s.updateConnReqUrl isAddressIpV6) created).1
  have hunfold : s.updateConnectionRequestUrl isAddressIpV6 created =
      if Usable (s.updateConnReqUrl isAddressIpV6).connRequestHost then
        ((s.updateConnReqUrl isAddressIpV6).withPath created).serve isAddressIpV6
      else (s.updateConnReqUrl isAddressIpV6).closeCwmpdListeningPort := by
    rw [ConnReqPlugin.updateConnectionRequestUrl, if_neg (not_not_intro hon)]
    rfl
  rw [hunfold, hurl.host, if_pos husable, ← hurl.initDone, ← hpath.initDone]
  exact served (hpath.standalone.trans (hurl.standalone.trans hstandalone))

/-- **A change of the connection request is handled**: if it is one of the host, a daemon runs or
comes for it. -/
theorem changed (h : s.DaemonComes) (hon : s.updateConnRequestUrl = true) {a b c : Bool}
    {rest : List ConnReqChange} (hqueue : s.queue = .connRequest a b c :: rest)
    (created : Option CString) :
    ((s.withQueue rest).connRequestChanged isAddressIpV6 created a b c).DaemonComes := by
  obtain ⟨hsame, -, -⟩ := @connRequestChanged_spec isAddressIpV6 (s.withQueue rest) created a b c
  have hhandled := @Handled.connRequestChanged isAddressIpV6 (s.withQueue rest) created a b c
  refine ⟨hsame.standalone.trans h.standalone, ?_, fun husable => ?_,
    fun hnot => hsame.host.trans (h.touched (hhandled.touched hnot))⟩
  · rw [hsame.initDone, hhandled.initTimer]
    exact h.init
  rw [hsame.host] at husable
  rcases a with - | -
  · -- a change of the host that is pending is not this one
    have hrest := (h.withQueue hqueue nofun).comes husable
    obtain ⟨new, hnew, -⟩ := hhandled.told
    rw [hhandled.restartTimers, hhandled.initTimer]
    rcases hrest with hpending | hproc | hrestart | ⟨havoided, htimer⟩
    · refine Or.inl (hpending.mono fun d hd => ?_)
      rw [hnew]
      exact List.mem_append_left _ hd
    · exact Or.inr (Or.inl ((connRequestChanged_processes _ created false b c).2 hproc))
    · exact Or.inr (Or.inr (Or.inl hrestart))
    · exact Or.inr (Or.inr (Or.inr ⟨hhandled.avoided havoided, htimer⟩))
  · -- the other handlers keep what the one of the host has done
    let w := (s.withQueue rest).updateConnectionRequestUrl isAddressIpV6 created
    have hother := @Handled.connRequestChanged isAddressIpV6 w created false b c
    refine Or.inr ?_
    rcases @hostHandled isAddressIpV6 (s.withQueue rest) hon h.standalone husable created with
      hproc | ⟨havoided, hinit⟩
    · exact Or.inl ((@connRequestChanged_processes isAddressIpV6 w created false b c).2 hproc)
    · refine Or.inr (Or.inr ⟨hother.avoided havoided, ?_⟩)
      rw [hhandled.initTimer]
      exact h.init.resolve_left (Bool.eq_false_iff.mp hinit)

/-- The daemon is started. -/
theorem startCwmpd (hstandalone : s.cwmpdStandalone = false)
    (hinit : s.initDone = true ∨ s.deferredInitTimer = true)
    (htouched : s.untouched = true → s.connRequestHost = defaultCrh) :
    (s.startCwmpd isAddressIpV6).DaemonComes := by
  unfold ConnReqPlugin.startCwmpd
  rw [if_neg (Bool.eq_false_iff.mp hstandalone)]
  split
  · next hproc => exact ⟨hstandalone, hinit, fun _ => Or.inr (Or.inl hproc), htouched⟩
  · exact ⟨hstandalone, hinit, fun _ => Or.inr (Or.inl rfl), htouched⟩

/-- The deferred initialisation starts the daemon that has been avoided so far. -/
theorem deferredInit (h : s.DaemonComes) (results : QueryResults) :
    (s.deferredInitTimerCb isAddressIpV6 results).DaemonComes := by
  have htold : { s with initDone := true, deferredInitTimer := false }.HostTold
      (s.queriesOpened results) := by
    unfold queriesOpened
    dsimp only
    split
    · exact .refl _
    · exact (HostTold.addressClosed _).openQueries (.refl _) results
  rw [deferredInitTimerCb_eq]
  by_cases havoided : s.cwmpdStartAvoided = true
  · rw [if_pos (htold.avoided.trans havoided)]
    refine startCwmpd (htold.standalone.trans h.standalone) (Or.inl htold.initDone) fun hnot => ?_
    rcases htold.host with hsame | ⟨-, htouched⟩
    · exact hsame.trans (h.touched (htold.untouched hnot))
    · exact absurd (htouched.symm.trans hnot) (by decide)
  · -- no start has been avoided, so that it is not the timer that the daemon comes from
    have hdone : { s with initDone := true, deferredInitTimer := false }.DaemonComes := by
      refine ⟨h.standalone, Or.inl rfl, fun husable => ?_, h.touched⟩
      refine (h.comes husable).imp_right fun hcomes => hcomes.imp_right fun hlater => ?_
      exact hlater.imp_right fun hstart => absurd hstart.1 havoided
    rw [if_neg fun hnot => havoided (htold.avoided.symm.trans hnot)]
    exact hdone.hostTold htold

end DaemonComes

/-- **One event** that meets the condition keeps the invariant. -/
theorem DaemonComes.step (h : s.DaemonComes) (hown : s.OwnAddress) (hok : s.Untampered e)
    (hstep : s.step isAddressIpV6 e = some t) : t.DaemonComes := by
  have hself := HostTold.refl s
  have hclosed := HostTold.addressClosed s
  rcases stepped_of_step hstep with ⟨host, path, port⟩ | ⟨update, host, port⟩ | - | @⟨intf, -⟩ | - |
    @⟨mode, -⟩ | newIp | newIp | ms | @⟨timer, htimer, -⟩ | @⟨n, timer, htimer, -⟩ |
    @⟨a, b, c, rest, hqueue, created, results⟩ | @⟨intf, rest, hqueue, created, results⟩ |
    @⟨mode, rest, hqueue, created, results⟩ | hrun | htimer | ⟨htimer, results⟩
  case write => exact h.hostTold (.writeConnRequest s host path port)
  case called =>
    obtain rfl := hok
    exact ⟨h.standalone, h.init, h.comes, h.touched⟩
  case sameInterface | samePreferred => exact h
  case setInterface | setPreferred =>
    refine ⟨h.standalone, h.init, fun husable => (h.comes husable).imp_left ?_, h.touched⟩
    exact fun hpending => hpending.mono fun _ hc => List.mem_append_left _ hc
  case ipv4Changed => exact h.hostTold (hclosed.ipv4addressChangedCb hself newIp)
  case ipv6Changed => exact h.hostTold (hclosed.ipv6addressChangedCb hself newIp)
  case elapsed => exact ⟨h.standalone, h.init, h.comes, h.touched⟩
  case ipv6Timer => exact h.hostTold (hclosed.updateLocalIp hself)
  case lostTimer => exact h.hostTold (hclosed.lostTimer hself n)
  case changed => exact h.changed hown.on hqueue created
  case interfaceChanged =>
    exact (h.withQueue hqueue nofun).hostTold
      ((HostTold.addressClosed _).writeInterface (.refl _) intf results)
  case preferredChanged =>
    exact (h.withQueue hqueue nofun).hostTold
      ((HostTold.addressClosed _).writePreferredIpVersion (.refl _) mode)
  case exited =>
    exact ⟨h.standalone, h.init, fun _ => Or.inr (Or.inr (Or.inl (Nat.succ_pos _))), h.touched⟩
  case restarted =>
    exact .startCwmpd h.standalone h.init h.touched
  case deferredInit => exact h.deferredInit results

theorem daemonComes_initial (port : UInt16) (path interface preferred : CString)
    (waitTime : UInt32) :
    (initial port path interface preferred waitTime false).DaemonComes :=
  ⟨rfl, Or.inr rfl, fun husable => absurd rfl husable.2, fun _ => rfl⟩

end ConnReqPlugin

end Tr069
