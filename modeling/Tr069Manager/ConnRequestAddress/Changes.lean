import Tr069Manager.ConnRequestAddress.ToDo
import Tr069Manager.ConnRequestAddress.Url

/-!
# What is told of a change

Whoever wants to know where connection requests go – the handlers of the plugin and the daemon
itself – learns of it from the changes the data model tells, and these do not tell everything:
`LocalIPAddress` is written without a transaction, and the generated path tells of the path only.
As long as automatic updates are on and nobody else writes the host, the address is told of all the
same, because the host is always the address (`Tr069.ConnReqPlugin.OwnAddress`), and the path is
generated before there is a daemon. One event then either leaves the values alone, or tells of a
change of the host or the port, or comes where no daemon runs
(`Tr069.ConnReqPlugin.OwnAddress.step`).
-/

namespace Tr069

open Runs

/-- A change of the host or of the port. -/
def ConnReqChange.Noticed : ConnReqChange → Prop
  | .connRequest host _ port => host = true ∨ port = true
  | _ => False

namespace ConnReqPlugin

variable {isAddressIpV6 : CString → Bool} {s t u : ConnReqPlugin} {e : Event}

/-! ### The property and the condition -/

/-- The values a daemon is started with are the same. -/
structure SameValues (s t : ConnReqPlugin) : Prop where
  localIp : t.localIpAddress = s.localIpAddress
  port : t.connRequestPort = s.connRequestPort
  path : t.connRequestPath = s.connRequestPath

/-- The changes that an event leaves in the queue. -/
def remaining (s : ConnReqPlugin) : Event → List ConnReqChange
  | .dispatch _ _ => s.queue.tail
  | _ => s.queue

/-- **An event tells of what it changes**: what is new in the queue has a change of the host or the
port, unless the values are the same or no daemon runs. -/
def Tells (s : ConnReqPlugin) (e : Event) (t : ConnReqPlugin) : Prop :=
  ∃ new, t.queue = s.remaining e ++ new ∧
    ((∃ c ∈ new, c.Noticed) ∨ s.SameValues t ∨ s.processes = 0)

/-- **The condition on the events**: nobody else writes the host or turns automatic updates off, and
another path is written only with another port, or while no daemon runs. -/
def Untampered (s : ConnReqPlugin) : Event → Prop
  | .write host path port =>
    host = none ∧ (path.getD s.connRequestPath = s.connRequestPath ∨
      port.getD s.connRequestPort ≠ s.connRequestPort ∨ s.processes = 0)
  | .updateConnectionRequestUrl update _ _ => update = false
  | _ => True

instance (s : ConnReqPlugin) (e : Event) : Decidable (s.Untampered e) :=
  match e with
  | .write _ _ _ => inferInstanceAs (Decidable (_ ∧ _))
  | .updateConnectionRequestUrl update _ _ => inferInstanceAs (Decidable (update = false))
  | .setInterface _ | .setPreferredIpVersion _ | .ipv4Changed _ | .ipv6Changed _ | .elapse _ |
    .ipv6Timer | .lostTimer _ | .dispatch _ _ | .cwmpdExit | .restartTimer | .deferredInit _ =>
    isTrue trivial

/-- **The invariant**: updates are on, the host is the local address, and a daemon has been started
or is going to be only with the path generated. -/
structure OwnAddress (s : ConnReqPlugin) : Prop where
  on : s.updateConnRequestUrl = true
  host : s.localIpAddress = s.connRequestHost
  process : s.OneProcess
  started : s.cwmpdProc = true ∨ s.cwmpdStartAvoided = true ∨ 0 < s.restartTimers →
    s.connReqPathCreated = true

/-! ### Transactions -/

/-- **A transaction** changes nothing, or it tells exactly of what it changes. -/
theorem writeConnRequest_told (s : ConnReqPlugin) (host path : Option CString)
    (port : Option UInt16) :
    s.writeConnRequest host path port = s ∧ host.getD s.connRequestHost = s.connRequestHost ∧
        path.getD s.connRequestPath = s.connRequestPath ∧
        port.getD s.connRequestPort = s.connRequestPort ∨
      ∃ h q p, (h = true ↔ host.getD s.connRequestHost ≠ s.connRequestHost) ∧
        (q = true ↔ path.getD s.connRequestPath ≠ s.connRequestPath) ∧
        (p = true ↔ port.getD s.connRequestPort ≠ s.connRequestPort) ∧
        s.writeConnRequest host path port = { s with
          connRequestHost := host.getD s.connRequestHost
          connRequestPath := path.getD s.connRequestPath
          connRequestPort := port.getD s.connRequestPort
          queue := s.queue ++ [.connRequest h q p]
          untouched := false } := by
  unfold writeConnRequest
  dsimp only
  split
  · exact Or.inr ⟨_, _, _, decide_eq_true_iff, decide_eq_true_iff, decide_eq_true_iff, rfl⟩
  · next hnone =>
    obtain ⟨hhost, hrest⟩ := not_or.mp hnone
    obtain ⟨hpath, hport⟩ := not_or.mp hrest
    exact Or.inl ⟨rfl, not_not.mp hhost, not_not.mp hpath, not_not.mp hport⟩

/-! ### What follows of an address -/

/-- From `s` to `t` an address has come or gone: the daemon and what is on its way to it are as they
were, and another local address is told of as another host. -/
structure AddressTold (s t : ConnReqPlugin) : Prop where
  on : t.updateConnRequestUrl = true
  host : t.localIpAddress = t.connRequestHost
  told : ∃ new, t.queue = s.queue ++ new ∧ ((∃ c ∈ new, c.Noticed) ∨ s.SameValues t)
  proc : t.cwmpdProc = s.cwmpdProc
  processes : t.processes = s.processes
  standalone : t.cwmpdStandalone = s.cwmpdStandalone
  avoided : t.cwmpdStartAvoided = s.cwmpdStartAvoided
  created : t.connReqPathCreated = s.connReqPathCreated
  restartTimers : t.restartTimers = s.restartTimers
  service : t.service = s.service
  port : t.connRequestPort = s.connRequestPort

namespace AddressTold

theorem refl (h : s.OwnAddress) : s.AddressTold s :=
  ⟨h.on, h.host, ⟨[], (List.append_nil _).symm, Or.inr ⟨rfl, rfl, rfl⟩⟩, rfl, rfl, rfl, rfl, rfl,
    rfl, rfl, rfl⟩

/-- The local address is another one: so is the host, because it was the address before. -/
theorem updateConreqHost (h : s.AddressTold t) (ip : CString) :
    s.AddressTold (t.updateConreqHost ip) := by
  obtain ⟨new, hqueue, htold⟩ := h.told
  unfold ConnReqPlugin.updateConreqHost
  dsimp only
  rw [if_pos h.on]
  rcases writeConnRequest_told { t with localIpAddress := ip } (some ip) none none with
    ⟨hsame, hhost, -, -⟩ | ⟨a, b, c, ha, -, -, heq⟩
  · rw [hsame]
    have hip : ip = t.localIpAddress := Eq.trans hhost h.host.symm
    refine ⟨h.on, hhost, ⟨new, hqueue, htold.imp_right fun hv => ?_⟩, h.proc, h.processes,
      h.standalone, h.avoided, h.created, h.restartTimers, h.service, h.port⟩
    exact ⟨hip.trans hv.localIp, hv.port, hv.path⟩
  · rw [heq]
    refine ⟨h.on, rfl, ⟨new ++ [.connRequest a b c], ?_, ?_⟩, h.proc, h.processes, h.standalone,
      h.avoided, h.created, h.restartTimers, h.service, h.port⟩
    · show t.queue ++ [ConnReqChange.connRequest a b c] = _
      rw [hqueue, List.append_assoc]
    · by_cases hhost : ip = t.connRequestHost
      · -- something has changed, but it is not the host
        have hip : ip = t.localIpAddress := hhost.trans h.host.symm
        refine htold.imp (fun ⟨d, hd, hnoticed⟩ => ⟨d, List.mem_append_left _ hd, hnoticed⟩)
          fun hv => ⟨hip.trans hv.localIp, hv.port, hv.path⟩
      · exact Or.inl ⟨_, List.mem_append_right _ List.mem_cons_self, Or.inl (ha.mpr hhost)⟩

theorem addressClosed (s : ConnReqPlugin) : AddressClosed s.AddressTold where
  addresses _ _ _ _ _ _ _ h := by
    obtain ⟨new, hqueue, htold⟩ := h.told
    exact ⟨h.on, h.host, ⟨new, hqueue, htold.imp_right fun hv => ⟨hv.localIp, hv.port, hv.path⟩⟩,
      h.proc, h.processes, h.standalone, h.avoided, h.created, h.restartTimers, h.service, h.port⟩
  host _ ip h := h.updateConreqHost ip

/-- The invariant is kept. -/
theorem ownAddress (h : s.AddressTold t) (hs : s.OwnAddress) : t.OwnAddress where
  on := h.on
  host := h.host
  process := by
    refine ⟨?_, fun hproc => ?_⟩
    · rw [h.processes, h.proc, hs.process.processes]
    · rw [h.standalone]
      exact hs.process.supervised (h.proc ▸ hproc)
  started hstart := by
    rw [h.created]
    refine hs.started ?_
    rw [h.proc, h.avoided, h.restartTimers] at hstart
    exact hstart

theorem tells (h : s.AddressTold t) (he : s.remaining e = s.queue) : s.Tells e t := by
  obtain ⟨new, hqueue, htold⟩ := h.told
  exact ⟨new, hqueue.trans (congrArg (· ++ new) he.symm), htold.imp_right Or.inl⟩

end AddressTold

/-! ### What the handlers of a change do -/

/-- From `s` to `t` a handler has run: the address and the port are as they were, a change is told
of only if the path is generated, and a daemon is started only if it has been. -/
structure Handled (s t : ConnReqPlugin) : Prop where
  on : t.updateConnRequestUrl = s.updateConnRequestUrl
  host : t.connRequestHost = s.connRequestHost
  port : t.connRequestPort = s.connRequestPort
  localIp : t.localIpAddress = s.localIpAddress
  restartTimers : t.restartTimers = s.restartTimers
  initTimer : t.deferredInitTimer = s.deferredInitTimer
  created : s.connReqPathCreated = true → t.connReqPathCreated = true
  told : ∃ new, t.queue = s.queue ++ new ∧ (t.connRequestPath ≠ s.connRequestPath →
    s.connReqPathCreated = false ∧ t.connReqPathCreated = true)
  spends : Spends 0 s t
  started : t.cwmpdProc = true ∨ t.cwmpdStartAvoided = true →
    (s.cwmpdProc = true ∨ s.cwmpdStartAvoided = true) ∨ t.connReqPathCreated = true
  avoided : s.cwmpdStartAvoided = true → t.cwmpdStartAvoided = true
  touched : t.untouched = true → s.untouched = true
  service : t.service = s.service ∨ t.service = none ∨
    ∃ svc, t.service = some svc ∧ svc.destinationPort = t.connRequestPort

namespace Handled

/-- A handler that touches the URL, the port of the firewall and the process only. -/
theorem of_daemon {url : CString} {service : Option FwService} {proc avoided : Bool}
    {processes : ℕ}
    (hstarted : proc = true ∨ avoided = true →
      (s.cwmpdProc = true ∨ s.cwmpdStartAvoided = true) ∨ s.connReqPathCreated = true)
    (havoided : s.cwmpdStartAvoided = true → avoided = true)
    (hservice : service = s.service ∨ service = none ∨
      ∃ svc, service = some svc ∧ svc.destinationPort = s.connRequestPort) :
    s.Handled { s with
      connectionRequestUrl := url
      service := service
      cwmpdProc := proc
      processes := processes
      cwmpdStartAvoided := avoided } where
  on := rfl
  host := rfl
  port := rfl
  localIp := rfl
  restartTimers := rfl
  initTimer := rfl
  created := id
  told := ⟨[], (List.append_nil _).symm, fun h => absurd rfl h⟩
  spends := .of_queue rfl (Nat.le_refl _)
  started := hstarted
  avoided := havoided
  touched := id
  service := hservice

theorem refl (s : ConnReqPlugin) : s.Handled s := of_daemon Or.inl id (Or.inl rfl)

theorem trans (h : s.Handled t) (h' : t.Handled u) : s.Handled u where
  on := h'.on.trans h.on
  host := h'.host.trans h.host
  port := h'.port.trans h.port
  localIp := h'.localIp.trans h.localIp
  restartTimers := h'.restartTimers.trans h.restartTimers
  initTimer := h'.initTimer.trans h.initTimer
  created hs := h'.created (h.created hs)
  told := by
    obtain ⟨new, hqueue, hpath⟩ := h.told
    obtain ⟨new', hqueue', hpath'⟩ := h'.told
    refine ⟨new ++ new', by rw [hqueue', hqueue, List.append_assoc], fun hne => ?_⟩
    by_cases hfirst : t.connRequestPath = s.connRequestPath
    · -- the path is generated by the second handler, and so not before
      obtain ⟨hnot, hcreated⟩ := hpath' (by rw [hfirst]; exact hne)
      refine ⟨Bool.eq_false_iff.mpr fun hs => ?_, hcreated⟩
      exact absurd (hnot.symm.trans (h.created hs)) (by decide)
    · obtain ⟨hnot, hcreated⟩ := hpath hfirst
      exact ⟨hnot, h'.created hcreated⟩
  spends := h.spends.trans h'.spends
  started hu := by
    rcases h'.started hu with ht | hcreated
    · exact (h.started ht).imp_right h'.created
    · exact Or.inr hcreated
  avoided hs := h'.avoided (h.avoided hs)
  touched hu := h.touched (h'.touched hu)
  service := by
    rcases h'.service with hsame | hnone | hopened
    · rcases h.service with hsame' | hnone | ⟨svc, hsvc, hport⟩
      · exact Or.inl (hsame.trans hsame')
      · exact Or.inr (Or.inl (hsame.trans hnone))
      · exact Or.inr (Or.inr ⟨svc, hsame.trans hsvc, hport.trans h'.port.symm⟩)
    · exact Or.inr (Or.inl hnone)
    · exact Or.inr (Or.inr hopened)

theorem updateConnReqUrl (s : ConnReqPlugin) : s.Handled (s.updateConnReqUrl isAddressIpV6) := by
  unfold ConnReqPlugin.updateConnReqUrl
  split
  · exact of_daemon Or.inl id (Or.inl rfl)
  · exact refl s

theorem openPort (s : ConnReqPlugin) : s.Handled (s.openCwmpdListeningPort isAddressIpV6) :=
  of_daemon Or.inl id (Or.inr (Or.inr ⟨_, rfl, rfl⟩))

theorem closePort (s : ConnReqPlugin) : s.Handled s.closeCwmpdListeningPort := by
  unfold closeCwmpdListeningPort
  split
  · exact of_daemon Or.inl id (Or.inr (Or.inl rfl))
  · exact refl s

/-- A daemon is started with the path generated. -/
theorem startCwmpd (hcreated : s.connReqPathCreated = true) :
    s.Handled (s.startCwmpd isAddressIpV6) := by
  unfold ConnReqPlugin.startCwmpd
  split
  · exact openPort s
  · split
    · exact refl s
    · exact of_daemon (fun _ => Or.inr hcreated) id (Or.inr (Or.inr ⟨_, rfl, rfl⟩))

/-- The path is generated, if it has not been. -/
theorem withPath (s : ConnReqPlugin) (created : Option CString) :
    s.Handled (s.withPath created) ∧ (s.withPath created).connReqPathCreated = true := by
  unfold ConnReqPlugin.withPath
  split
  · next hcreated => exact ⟨refl s, hcreated⟩
  · next hnot =>
    have hnot : s.connReqPathCreated = false := Bool.eq_false_iff.mpr hnot
    refine ⟨?_, rfl⟩
    unfold cwmpPluginCreateConreqPath
    have hlatent := latent_of_not_created hnot
    rcases writeConnRequest_told s none created none with ⟨hsame, -, -, -⟩ | ⟨a, b, c, -, -, -, heq⟩
    · rw [hsame]
      refine ⟨rfl, rfl, rfl, rfl, rfl, rfl, fun _ => rfl,
        ⟨[], (List.append_nil _).symm, fun h => absurd rfl h⟩, ?_, Or.inl, id, id, Or.inl rfl⟩
      exact .of_queue rfl (hlatent ▸ Nat.le_add_right _ 8)
    · rw [heq]
      refine ⟨rfl, rfl, rfl, rfl, rfl, rfl, fun _ => rfl, ⟨_, rfl, fun _ => ⟨hnot, rfl⟩⟩, ?_,
        Or.inl, id, nofun, Or.inl rfl⟩
      refine ⟨_, rfl, fun d hd => ⟨a, b, c, List.mem_singleton.mp hd⟩, ?_⟩
      exact hlatent.le

theorem serve (hcreated : s.connReqPathCreated = true) : s.Handled (s.serve isAddressIpV6) := by
  unfold ConnReqPlugin.serve
  split
  · split
    · exact startCwmpd hcreated
    · exact of_daemon (fun _ => Or.inr hcreated) (fun _ => rfl) (Or.inl rfl)
  · exact openPort s

/-- The handler of the host. -/
theorem updateConnectionRequestUrl (s : ConnReqPlugin) (created : Option CString) :
    s.Handled (s.updateConnectionRequestUrl isAddressIpV6 created) := by
  by_cases hon : s.updateConnRequestUrl = true
  · have hunfold : s.updateConnectionRequestUrl isAddressIpV6 created =
        if Usable (s.updateConnReqUrl isAddressIpV6).connRequestHost then
          ((s.updateConnReqUrl isAddressIpV6).withPath created).serve isAddressIpV6
        else (s.updateConnReqUrl isAddressIpV6).closeCwmpdListeningPort := by
      rw [ConnReqPlugin.updateConnectionRequestUrl, if_neg (not_not_intro hon)]
      rfl
    rw [hunfold]
    split
    · obtain ⟨hpath, hcreated⟩ := withPath (s.updateConnReqUrl isAddressIpV6) created
      exact ((updateConnReqUrl s).trans hpath).trans (serve hcreated)
    · exact (updateConnReqUrl s).trans (closePort _)
  · rw [ConnReqPlugin.updateConnectionRequestUrl, if_pos hon]
    exact refl s

/-- **The handlers of a change.** -/
theorem connRequestChanged (s : ConnReqPlugin) (created : Option CString) (a b c : Bool) :
    s.Handled (s.connRequestChanged isAddressIpV6 created a b c) := by
  have hhost : s.Handled
      (if a then s.updateConnectionRequestUrl isAddressIpV6 created else s) := by
    split
    · exact updateConnectionRequestUrl s created
    · exact refl s
  unfold ConnReqPlugin.connRequestChanged
  dsimp only
  generalize (if a then s.updateConnectionRequestUrl isAddressIpV6 created else s) = v at hhost ⊢
  have hpath : s.Handled (if b then v.updateConnectionRequestPath isAddressIpV6 else v) := by
    split
    · exact hhost.trans (updateConnReqUrl v)
    · exact hhost
  generalize (if b then v.updateConnectionRequestPath isAddressIpV6 else v) = w at hpath ⊢
  split
  · exact (hpath.trans (updateConnReqUrl w)).trans (openPort _)
  · exact hpath

/-- The invariant is kept, for a process that is. -/
theorem ownAddress (h : s.Handled t) (hs : s.OwnAddress) (hprocess : t.OneProcess) :
    t.OwnAddress where
  on := h.on.trans hs.on
  host := by rw [h.localIp, h.host, hs.host]
  process := hprocess
  started := by
    rintro (hproc | havoided | htimer)
    · exact (h.started (Or.inl hproc)).elim
        (fun hs' => h.created (hs.started (hs'.imp_right Or.inl))) id
    · exact (h.started (Or.inr havoided)).elim
        (fun hs' => h.created (hs.started (hs'.imp_right Or.inl))) id
    · rw [h.restartTimers] at htimer
      exact h.created (hs.started (Or.inr (Or.inr htimer)))

/-- Where a daemon runs, the path has been generated, and the values stay. -/
theorem sameValues (h : s.Handled t) (hs : s.OwnAddress) : s.SameValues t ∨ s.processes = 0 := by
  by_cases hpath : t.connRequestPath = s.connRequestPath
  · exact Or.inl ⟨h.localIp, h.port, hpath⟩
  · obtain ⟨-, -, hnew⟩ := h.told
    obtain ⟨hnot, -⟩ := hnew hpath
    refine Or.inr ?_
    rw [hs.process.processes]
    rcases hproc : s.cwmpdProc with - | -
    · rfl
    · exact absurd (hnot.symm.trans (hs.started (Or.inl hproc))) (by decide)

/-- What an address and then a handler tell. -/
theorem tells (h : t.Handled u) (ht : t.OwnAddress) (htold : s.AddressTold t)
    (he : s.remaining e = s.queue) : s.Tells e u := by
  obtain ⟨new, hqueue, hnew⟩ := htold.told
  obtain ⟨new', hqueue', -⟩ := h.told
  refine ⟨new ++ new', by rw [hqueue', hqueue, he, List.append_assoc], ?_⟩
  rcases hnew with ⟨c, hc, hnoticed⟩ | hsame
  · exact Or.inl ⟨c, List.mem_append_left _ hc, hnoticed⟩
  · rcases h.sameValues ht with hsame' | hnone
    · exact Or.inr (Or.inl ⟨hsame'.localIp.trans hsame.localIp, hsame'.port.trans hsame.port,
        hsame'.path.trans hsame.path⟩)
    · exact Or.inr (Or.inr (htold.processes ▸ hnone))

end Handled

/-! ### One event -/

/-- A transaction of somebody else. -/
theorem OwnAddress.written (h : s.OwnAddress) {host path : Option CString} {port : Option UInt16}
    (hok : s.Untampered (.write host path port)) :
    (s.writeConnRequest host path port).OwnAddress ∧
      s.Tells (.write host path port) (s.writeConnRequest host path port) := by
  obtain ⟨rfl, hpath⟩ := hok
  rcases writeConnRequest_told s none path port with ⟨hsame, -, -, -⟩ | ⟨a, b, c, -, -, hc, heq⟩
  · rw [hsame]
    exact ⟨h, [], (List.append_nil _).symm, Or.inr (Or.inl ⟨rfl, rfl, rfl⟩)⟩
  · rw [heq]
    refine ⟨⟨h.on, h.host, ⟨h.process.processes, h.process.supervised⟩, h.started⟩, _, rfl, ?_⟩
    by_cases hport : port.getD s.connRequestPort = s.connRequestPort
    · rcases hpath with hpath | hne | hnone
      · exact Or.inr (Or.inl ⟨rfl, hport, hpath⟩)
      · exact absurd hport hne
      · exact Or.inr (Or.inr hnone)
    · exact Or.inl ⟨_, List.mem_cons_self, Or.inr (hc.mpr hport)⟩

/-- The queries of the deferred initialisation. -/
theorem AddressTold.queriesOpened (h : s.OwnAddress) (results : QueryResults) :
    s.AddressTold (s.queriesOpened results) := by
  have h' : s.AddressTold { s with initDone := true, deferredInitTimer := false } :=
    ⟨h.on, h.host, ⟨[], (List.append_nil _).symm, Or.inr ⟨rfl, rfl, rfl⟩⟩, rfl, rfl, rfl, rfl, rfl,
      rfl, rfl, rfl⟩
  unfold ConnReqPlugin.queriesOpened
  dsimp only
  split
  · exact h'
  · exact (addressClosed s).openQueries h' results

/-- The deferred initialisation. -/
theorem OwnAddress.deferredInit (h : s.OwnAddress) (results : QueryResults) :
    (s.deferredInitTimerCb isAddressIpV6 results).OwnAddress ∧
      s.Tells (.deferredInit results) (s.deferredInitTimerCb isAddressIpV6 results) := by
  have htold := AddressTold.queriesOpened h results
  have hopened := htold.ownAddress h
  rw [deferredInitTimerCb_eq]
  split
  · next havoided =>
    have hstart : (s.queriesOpened results).Handled _ :=
      @Handled.startCwmpd isAddressIpV6 _
        (hopened.started (Or.inr (Or.inl havoided)))
    exact ⟨hstart.ownAddress hopened hopened.process.startCwmpd, hstart.tells hopened htold rfl⟩
  · exact ⟨hopened, htold.tells rfl⟩

/-- The timer of a restart. -/
theorem OwnAddress.restarted (h : s.OwnAddress) (htimer : 0 < s.restartTimers) :
    ({ s with restartTimers := s.restartTimers - 1 }.startCwmpd isAddressIpV6).OwnAddress ∧
      s.Tells .restartTimer
        ({ s with restartTimers := s.restartTimers - 1 }.startCwmpd isAddressIpV6) := by
  have hcreated := h.started (Or.inr (Or.inr htimer))
  have hless : { s with restartTimers := s.restartTimers - 1 }.OwnAddress :=
    ⟨h.on, h.host, ⟨h.process.processes, h.process.supervised⟩, fun _ => hcreated⟩
  have hstart : { s with restartTimers := s.restartTimers - 1 }.Handled _ :=
    @Handled.startCwmpd isAddressIpV6 _ hcreated
  refine ⟨hstart.ownAddress hless hless.process.startCwmpd, ?_⟩
  obtain ⟨new, hqueue, -⟩ := hstart.told
  refine ⟨new, hqueue, Or.inr ((hstart.sameValues hless).imp_left fun hsame => ?_)⟩
  exact ⟨hsame.localIp, hsame.port, hsame.path⟩

/-- The next change is handled. -/
theorem OwnAddress.changed (h : s.OwnAddress) {a b c : Bool} {rest : List ConnReqChange}
    (hqueue : s.queue = .connRequest a b c :: rest) (created : Option CString)
    (results : QueryResults) :
    ((s.withQueue rest).connRequestChanged isAddressIpV6 created a b c).OwnAddress ∧
      s.Tells (.dispatch created results)
        ((s.withQueue rest).connRequestChanged isAddressIpV6 created a b c) := by
  have hrest : (s.withQueue rest).OwnAddress :=
    ⟨h.on, h.host, ⟨h.process.processes, h.process.supervised⟩, h.started⟩
  have hhandled := @Handled.connRequestChanged isAddressIpV6 (s.withQueue rest) created a b c
  refine ⟨hhandled.ownAddress hrest (hrest.process.changed created a b c), ?_⟩
  obtain ⟨new, hnew, -⟩ := hhandled.told
  refine ⟨new, ?_, Or.inr ((hhandled.sameValues hrest).imp_left fun hsame => ?_)⟩
  · rw [remaining, hqueue]
    exact hnew
  · exact ⟨hsame.localIp, hsame.port, hsame.path⟩

/-- The next change is one of the interface or of the preferred version. -/
theorem OwnAddress.addressHandled (h : s.OwnAddress) {change : ConnReqChange}
    {rest : List ConnReqChange} (hqueue : s.queue = change :: rest)
    (htold : (s.withQueue rest).OwnAddress → (s.withQueue rest).AddressTold t)
    (created : Option CString) (results : QueryResults) :
    t.OwnAddress ∧ s.Tells (.dispatch created results) t := by
  have hrest : (s.withQueue rest).OwnAddress :=
    ⟨h.on, h.host, ⟨h.process.processes, h.process.supervised⟩, h.started⟩
  refine ⟨(htold hrest).ownAddress hrest, ?_⟩
  obtain ⟨new, hnew, hnoticed⟩ := (htold hrest).told
  refine ⟨new, ?_, hnoticed.imp_right fun hsame => Or.inl ?_⟩
  · rw [remaining, hqueue]
    exact hnew
  · exact ⟨hsame.localIp, hsame.port, hsame.path⟩

/-- **One event** that meets the condition keeps the invariant, and tells of what it changes. -/
theorem OwnAddress.step (h : s.OwnAddress) (hok : s.Untampered e)
    (hstep : s.step isAddressIpV6 e = some t) : t.OwnAddress ∧ s.Tells e t := by
  have hclosed := AddressTold.addressClosed s
  have hself := AddressTold.refl h
  have hkept : ∀ {u}, s.AddressTold u → s.remaining e = s.queue → u.OwnAddress ∧ s.Tells e u :=
    fun hu he => ⟨hu.ownAddress h, hu.tells he⟩
  rcases stepped_of_step hstep with ⟨host, path, port⟩ | ⟨update, host, port⟩ | - | @⟨intf, -⟩ | - |
    @⟨mode, -⟩ | newIp | newIp | ms | - | - | @⟨a, b, c, rest, hqueue, created, results⟩ |
    @⟨intf, rest, hqueue, created, results⟩ | @⟨mode, rest, hqueue, created, results⟩ | hrun |
    htimer | ⟨-, results⟩
  case write => exact h.written hok
  case called =>
    -- updates are turned on, and they are
    obtain rfl := hok
    exact ⟨⟨rfl, h.host, ⟨h.process.processes, h.process.supervised⟩, h.started⟩, [],
      (List.append_nil _).symm, Or.inr (Or.inl ⟨rfl, rfl, rfl⟩)⟩
  case sameInterface => exact hkept hself rfl
  case samePreferred => exact hkept hself rfl
  case setInterface | setPreferred =>
    exact ⟨⟨h.on, h.host, ⟨h.process.processes, h.process.supervised⟩, h.started⟩, _, rfl,
      Or.inr (Or.inl ⟨rfl, rfl, rfl⟩)⟩
  case ipv4Changed => exact hkept (hclosed.ipv4addressChangedCb hself newIp) rfl
  case ipv6Changed => exact hkept (hclosed.ipv6addressChangedCb hself newIp) rfl
  case elapsed =>
    exact hkept ⟨h.on, h.host, ⟨[], (List.append_nil _).symm, Or.inr ⟨rfl, rfl, rfl⟩⟩, rfl, rfl,
      rfl, rfl, rfl, rfl, rfl, rfl⟩ rfl
  case ipv6Timer => exact hkept (hclosed.updateLocalIp hself) rfl
  case lostTimer => exact hkept (hclosed.lostTimer hself _) rfl
  case changed => exact h.changed hqueue created results
  case interfaceChanged =>
    exact h.addressHandled hqueue (fun hrest => (AddressTold.addressClosed _).writeInterface
      (AddressTold.refl hrest) intf results) created results
  case preferredChanged =>
    exact h.addressHandled hqueue (fun hrest => (AddressTold.addressClosed _).writePreferredIpVersion
      (AddressTold.refl hrest) mode) created results
  case exited =>
    -- the path has been generated for the daemon that was there
    have hcreated : s.connReqPathCreated = true := by
      refine h.started (Or.inl ?_)
      rcases hproc : s.cwmpdProc with - | -
      · have hprocesses := h.process.processes
        rw [hproc] at hprocesses
        exact absurd hrun (by rw [hprocesses]; decide)
      · rfl
    refine ⟨⟨h.on, h.host, h.process.exited hrun, fun _ => hcreated⟩, [],
      (List.append_nil _).symm, Or.inr (Or.inl ⟨rfl, rfl, rfl⟩)⟩
  case restarted => exact h.restarted htimer
  case deferredInit => exact h.deferredInit results

theorem ownAddress_initial (port : UInt16) (path interface preferred : CString) (waitTime : UInt32)
    (standalone : Bool) :
    (initial port path interface preferred waitTime standalone).OwnAddress :=
  ⟨rfl, rfl, ⟨rfl, nofun⟩, fun h => by
    rcases h with h | h | h
    · cases h
    · cases h
    · exact absurd h (Nat.lt_irrefl 0)⟩

/-! ### The port of the firewall -/

/-- **The service has the current port**, unless a change of the port is still to be handled. -/
def PortFollows (s : ConnReqPlugin) : Prop :=
  ∀ svc, s.service = some svc →
    svc.destinationPort = s.connRequestPort ∨ ∃ h q, .connRequest h q true ∈ s.queue

/-- The service and the port stay, and what is pending is. -/
theorem PortFollows.mono (h : s.PortFollows) (hservice : t.service = s.service)
    (hport : t.connRequestPort = s.connRequestPort) (hqueue : ∀ c ∈ s.queue, c ∈ t.queue) :
    t.PortFollows := by
  intro svc hsvc
  rw [hport]
  refine (h svc (hservice ▸ hsvc)).imp_right fun ⟨a, b, hmem⟩ => ⟨a, b, hqueue _ hmem⟩

/-- A handler leaves the service alone, closes the port or opens the current one. -/
theorem PortFollows.handled (h : s.PortFollows) (hhandled : s.Handled t) : t.PortFollows := by
  intro svc hsvc
  rcases hhandled.service with hsame | hnone | ⟨svc', hsvc', hport⟩
  · obtain ⟨new, hqueue, -⟩ := hhandled.told
    rw [hhandled.port]
    refine (h svc (hsame ▸ hsvc)).imp_right fun ⟨a, b, hmem⟩ => ⟨a, b, ?_⟩
    rw [hqueue]
    exact List.mem_append_left _ hmem
  · rw [hnone] at hsvc
    cases hsvc
  · obtain rfl := Option.some.inj (hsvc'.symm.trans hsvc)
    exact Or.inl hport

/-- The handlers of a change of the port open the current one. -/
theorem PortFollows.changed (h : s.PortFollows) {a b c : Bool} {rest : List ConnReqChange}
    (hqueue : s.queue = .connRequest a b c :: rest) (created : Option CString) :
    ((s.withQueue rest).connRequestChanged isAddressIpV6 created a b c).PortFollows := by
  rcases c with - | -
  · -- a change of the port that is pending is not this one
    refine PortFollows.handled (s := s.withQueue rest) (fun svc hsvc => ?_)
      (Handled.connRequestChanged _ created a b false)
    refine (h svc hsvc).imp_right fun ⟨a', b', hmem⟩ => ⟨a', b', ?_⟩
    rw [hqueue] at hmem
    exact (List.mem_cons.mp hmem).resolve_left nofun
  · intro svc hsvc
    refine Or.inl ?_
    unfold connRequestChanged updateConnectionRequestPort openCwmpdListeningPort at hsvc ⊢
    exact Option.some.inj hsvc ▸ rfl

/-- **One event** keeps the port. -/
theorem PortFollows.step (h : s.PortFollows) (hown : s.OwnAddress) (hok : s.Untampered e)
    (hstep : s.step isAddressIpV6 e = some t) : t.PortFollows := by
  have haddress : ∀ {v u : ConnReqPlugin}, v.PortFollows → v.AddressTold u → u.PortFollows := by
    intro v u hv hu
    obtain ⟨new, hqueue, -⟩ := hu.told
    refine hv.mono hu.service hu.port fun c hc => ?_
    rw [hqueue]
    exact List.mem_append_left _ hc
  have hclosed := AddressTold.addressClosed s
  have hself := AddressTold.refl hown
  rcases stepped_of_step hstep with ⟨host, path, port⟩ | ⟨update, host, port⟩ | - | @⟨intf, -⟩ | - |
    @⟨mode, -⟩ | newIp | newIp | ms | - | - | @⟨a, b, c, rest, hqueue, created, results⟩ |
    @⟨intf, rest, hqueue, created, results⟩ | @⟨mode, rest, hqueue, created, results⟩ | hrun |
    htimer | ⟨-, results⟩
  case write =>
    rcases writeConnRequest_told s host path port with
      ⟨hsame, -, -, -⟩ | ⟨a, b, c, -, -, hc, heq⟩
    · rw [hsame]
      exact h
    · rw [heq]
      intro svc hsvc
      by_cases hport : port.getD s.connRequestPort = s.connRequestPort
      · refine (h svc hsvc).imp (fun hsvcport => hsvcport.trans hport.symm) ?_
        exact fun ⟨a', b', hmem⟩ => ⟨a', b', List.mem_append_left _ hmem⟩
      · refine Or.inr ⟨a, b, List.mem_append_right _ ?_⟩
        rw [hc.mpr hport]
        exact List.mem_cons_self
  case called =>
    obtain rfl := hok
    exact h.mono rfl rfl fun _ hc => hc
  case sameInterface | samePreferred => exact h
  case setInterface | setPreferred => exact h.mono rfl rfl fun _ hc => List.mem_append_left _ hc
  case ipv4Changed => exact haddress h (hclosed.ipv4addressChangedCb hself newIp)
  case ipv6Changed => exact haddress h (hclosed.ipv6addressChangedCb hself newIp)
  case elapsed => exact h.mono rfl rfl fun _ hc => hc
  case ipv6Timer => exact haddress h (hclosed.updateLocalIp hself)
  case lostTimer => exact haddress h (hclosed.lostTimer hself _)
  case changed => exact h.changed hqueue created
  case interfaceChanged =>
    have hrest : (s.withQueue rest).PortFollows := fun svc hsvc =>
      (h svc hsvc).imp_right fun ⟨a, b, hmem⟩ => ⟨a, b, by
        rw [hqueue] at hmem
        exact (List.mem_cons.mp hmem).resolve_left nofun⟩
    have hown' : (s.withQueue rest).OwnAddress :=
      ⟨hown.on, hown.host, ⟨hown.process.processes, hown.process.supervised⟩, hown.started⟩
    exact haddress hrest ((AddressTold.addressClosed _).writeInterface (AddressTold.refl hown') intf
      results)
  case preferredChanged =>
    refine PortFollows.mono (s := s.withQueue rest) (fun svc hsvc => ?_) rfl rfl fun _ hc => hc
    refine (h svc hsvc).imp_right fun ⟨a, b, hmem⟩ => ⟨a, b, ?_⟩
    rw [hqueue] at hmem
    exact (List.mem_cons.mp hmem).resolve_left nofun
  case exited => exact h.mono rfl rfl fun _ hc => hc
  case restarted =>
    have hless : { s with restartTimers := s.restartTimers - 1 }.PortFollows := h
    exact hless.handled (Handled.startCwmpd (hown.started (Or.inr (Or.inr htimer))))
  case deferredInit =>
    have hopened := haddress h (AddressTold.queriesOpened hown results)
    rw [deferredInitTimerCb_eq]
    split
    · next havoided =>
      have hown' := (AddressTold.queriesOpened hown results).ownAddress hown
      exact hopened.handled (Handled.startCwmpd (hown'.started (Or.inr (Or.inl havoided))))
    · exact hopened

end ConnReqPlugin

end Tr069
