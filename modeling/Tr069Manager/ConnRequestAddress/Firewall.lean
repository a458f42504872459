import Tr069Manager.ConnRequestAddress.Plugin

/-!
# The port of the firewall

The service `cwmpd_conn_request` is to be set while the daemon runs and connection
requests have an address to go to, and only then (`Tr069.ConnReqPlugin.wanted`).

The functions that open and close the port do not look at both. When the daemon exits,
its handle is gone before the port is closed, and closing is done with the handle only;
a change of the port, the timer of a restart and the deferred initialisation open the
port whatever the address is; and with automatic updates off a change of the address is
not handled at all. And every exit makes another restart timer.
`Tr069.ConnReqPlugin.followsDaemon_of_reaches` says what runs are left when these do not
happen. That there is one process at most holds in any run
(`Tr069.ConnReqPlugin.processes_le_one`).
-/

namespace Tr069

open Runs

namespace ConnReqPlugin

variable {isAddressIpV6 : CString → Bool} {s t u : ConnReqPlugin} {e : Event}

/-! ### The property and the condition -/

/-- The service there should be. -/
def wanted (isAddressIpV6 : CString → Bool) (s : ConnReqPlugin) : Option FwService :=
  if 0 < s.processes ∧ Usable s.connRequestHost then
    some ⟨s.connRequestPort, s.localIpVersion isAddressIpV6⟩
  else none

/-- **The firewall follows the daemon**: once the changes have been handled the service is the
one there should be, and there is one process and one restart timer at most. -/
structure FollowsDaemon (isAddressIpV6 : CString → Bool) (s : ConnReqPlugin) : Prop where
  service : ¬s.Pending → s.service = s.wanted isAddressIpV6
  processes : s.processes ≤ 1
  restartTimers : s.restartTimers ≤ 1

/-- After the address functions, a change of the host is pending, or there is no service, or the
local address is of the same IP version. -/
def VersionKept (isAddressIpV6 : CString → Bool) (s t : ConnReqPlugin) : Prop :=
  t.Pending ∨ s.service = none ∨ t.localIpVersion isAddressIpV6 = s.localIpVersion isAddressIpV6

/-- The daemon is not there and may be started: for an address to go to, and not by hand. -/
def MayStart (s : ConnReqPlugin) : Prop :=
  Usable s.connRequestHost ∧ s.cwmpdStandalone = false

/-- The host handler generates another path. -/
def PathChanges (s : ConnReqPlugin) (created : Option CString) : Prop :=
  Usable s.connRequestHost ∧ s.connReqPathCreated = false ∧
    created.getD s.connRequestPath ≠ s.connRequestPath

/-- **The last change is handled well**: the port is opened for a change of the port, so the
daemon has to run and have an address; the host handler starts the daemon, if it may and the
plugin is initialised, and closes the port of a daemon that runs; and where no handler looks,
the service has to be right already. -/
def HandledWell (isAddressIpV6 : CString → Bool) (s : ConnReqPlugin) (host port : Bool) : Prop :=
  if port then
    Usable s.connRequestHost ∧ (s.cwmpdProc = true ∨
      host = true ∧ s.updateConnRequestUrl = true ∧ s.initDone = true ∧ s.MayStart)
  else if host ∧ s.updateConnRequestUrl then
    s.cwmpdProc = true ∨
      if Usable s.connRequestHost ∧ s.initDone then s.MayStart else s.service = none
  else s.service = s.wanted isAddressIpV6

/-- The queries of the deferred initialisation are open. -/
def queriesOpened (s : ConnReqPlugin) (results : QueryResults) : ConnReqPlugin :=
  let s := { s with initDone := true, deferredInitTimer := false }
  if s.interface = [] then s else s.cwmpPluginNetmodelOpenQueries results

/-- **The condition on the events**: changes are handled well, unless more are pending; the
daemon exits with the port closed and no restart timer running; a timer starts a daemon only
with an address; and no address function changes the IP version under an open port. -/
def KeepsService (isAddressIpV6 : CString → Bool) (s : ConnReqPlugin) : Event → Prop
  | .dispatch created results =>
    match s.queue with
    | .connRequest host _ port :: rest =>
      (s.withQueue rest).Pending ∨
        host = true ∧ s.updateConnRequestUrl = true ∧ s.PathChanges created ∨
        s.HandledWell isAddressIpV6 host port
    | .interface intf :: rest =>
      s.VersionKept isAddressIpV6 ((s.withQueue rest).writeInterface intf results)
    | _ => True
  | .ipv4Changed newIp => s.VersionKept isAddressIpV6 (s.ipv4addressChangedCb newIp)
  | .ipv6Changed newIp => s.VersionKept isAddressIpV6 (s.ipv6addressChangedCb newIp)
  | .ipv6Timer => s.VersionKept isAddressIpV6 s.updateLocalIp
  | .lostTimer n =>
    s.VersionKept isAddressIpV6 { s with lostTimers := s.lostTimers.eraseIdx n }.updateLocalIp
  | .cwmpdExit => (s.Pending ∨ s.service = none) ∧ s.restartTimers = 0
  | .restartTimer => s.Pending ∨ s.cwmpdProc = true ∨ s.MayStart
  | .deferredInit results =>
    (s.queriesOpened results).Pending ∨
      if s.cwmpdStartAvoided = true ∧ s.cwmpdProc = false then s.MayStart
      else s.VersionKept isAddressIpV6 (s.queriesOpened results)
  | _ => True

/-! ### The invariant -/

/-- The handle of the process says whether there is one, and there is none by hand. -/
structure OneProcess (s : ConnReqPlugin) : Prop where
  processes : s.processes = s.cwmpdProc.toNat
  supervised : s.cwmpdProc = true → s.cwmpdStandalone = false

/-- **The invariant**. -/
structure FwInv (isAddressIpV6 : CString → Bool) (s : ConnReqPlugin) : Prop where
  service : ¬s.Pending → s.service = s.wanted isAddressIpV6
  process : s.OneProcess
  restartTimers : s.restartTimers ≤ 1

theorem FwInv.followsDaemon (h : s.FwInv isAddressIpV6) : s.FollowsDaemon isAddressIpV6 := by
  refine ⟨h.service, ?_, h.restartTimers⟩
  rw [h.process.processes]
  exact Bool.toNat_le _

/-- There should be a service exactly if there is a process and an address. -/
theorem wanted_of_proc (h : s.OneProcess) (hproc : s.cwmpdProc = true)
    (husable : Usable s.connRequestHost) :
    s.wanted isAddressIpV6 = some ⟨s.connRequestPort, s.localIpVersion isAddressIpV6⟩ := by
  have hpos : 0 < s.processes := by
    rw [h.processes, hproc]
    decide
  rw [wanted, if_pos ⟨hpos, husable⟩]

theorem wanted_of_not_proc (h : s.OneProcess) (hproc : s.cwmpdProc = false) :
    s.wanted isAddressIpV6 = none := by
  have hzero : s.processes = 0 := by
    rw [h.processes, hproc]
    rfl
  rw [wanted, if_neg]
  rintro ⟨hpos, -⟩
  omega

/-! ### What the address functions leave alone -/

/-- From `s` to `t` nothing has happened to the daemon and its port, and a change of the host is
pending or there was none. -/
structure Beside (s t : ConnReqPlugin) : Prop where
  service : t.service = s.service
  proc : t.cwmpdProc = s.cwmpdProc
  processes : t.processes = s.processes
  restartTimers : t.restartTimers = s.restartTimers
  standalone : t.cwmpdStandalone = s.cwmpdStandalone
  avoided : t.cwmpdStartAvoided = s.cwmpdStartAvoided
  port : t.connRequestPort = s.connRequestPort
  quiet : ¬t.Pending → ¬s.Pending ∧ t.connRequestHost = s.connRequestHost

namespace Beside

theorem refl (s : ConnReqPlugin) : s.Beside s :=
  ⟨rfl, rfl, rfl, rfl, rfl, rfl, rfl, fun h => ⟨h, rfl⟩⟩

/-- A transaction on the host. -/
theorem writeHost (h : s.Beside t) (host : CString) :
    s.Beside (t.writeConnRequest (some host) none none) := by
  rcases t.writeConnRequest_cases (some host) none none with hsame | ⟨a, b, c, -, heq⟩
  · rw [hsame]
    exact h
  · rw [heq]
    exact ⟨h.service, h.proc, h.processes, h.restartTimers, h.standalone, h.avoided, h.port,
      fun hnone => absurd (pending_append rfl) hnone⟩

theorem addressClosed (s : ConnReqPlugin) : AddressClosed s.Beside where
  addresses _ _ _ _ _ _ _ h := ⟨h.service, h.proc, h.processes, h.restartTimers, h.standalone,
    h.avoided, h.port, h.quiet⟩
  host t ip h := by
    have h' : s.Beside { t with localIpAddress := ip } := ⟨h.service, h.proc, h.processes,
      h.restartTimers, h.standalone, h.avoided, h.port, h.quiet⟩
    unfold updateConreqHost
    dsimp only
    split
    · exact h'.writeHost ip
    · exact h'

theorem oneProcess (h : s.Beside t) (hs : s.OneProcess) : t.OneProcess := by
  refine ⟨?_, fun hproc => ?_⟩
  · rw [h.processes, h.proc, hs.processes]
  · rw [h.standalone]
    exact hs.supervised (h.proc ▸ hproc)

/-- The address functions keep the invariant if they keep the IP version. -/
theorem fwInv (h : s.Beside t) (hs : s.FwInv isAddressIpV6) (hv : s.VersionKept isAddressIpV6 t) :
    t.FwInv isAddressIpV6 := by
  refine ⟨fun hnone => ?_, h.oneProcess hs.process, h.restartTimers ▸ hs.restartTimers⟩
  obtain ⟨hnone', hhost⟩ := h.quiet hnone
  have hservice := hs.service hnone'
  rw [h.service]
  rcases hv.resolve_left hnone with hno | hversion
  · rw [hno] at hservice ⊢
    rw [wanted] at hservice ⊢
    rw [h.processes, hhost]
    split at hservice
    · cases hservice
    · next hneg => rw [if_neg hneg]
  · rw [hservice, wanted, wanted, h.processes, hhost, h.port, hversion]

end Beside

/-! ### What the handlers leave alone -/

/-- From `s` to `t` the address and what goes with it stay, and so does what is pending. -/
structure Same (s t : ConnReqPlugin) : Prop where
  host : t.connRequestHost = s.connRequestHost
  port : t.connRequestPort = s.connRequestPort
  localIp : t.localIpAddress = s.localIpAddress
  standalone : t.cwmpdStandalone = s.cwmpdStandalone
  restartTimers : t.restartTimers = s.restartTimers
  initDone : t.initDone = s.initDone
  pending : s.Pending → t.Pending

/-- The daemon and its port: the service, the handle and the processes. -/
def daemon (s : ConnReqPlugin) : Option FwService × Bool × ℕ :=
  (s.service, s.cwmpdProc, s.processes)

/-- The service that opening the port sets. -/
def openService (isAddressIpV6 : CString → Bool) (s : ConnReqPlugin) : FwService :=
  ⟨s.connRequestPort, s.localIpVersion isAddressIpV6⟩

namespace Same

theorem refl (s : ConnReqPlugin) : s.Same s := ⟨rfl, rfl, rfl, rfl, rfl, rfl, id⟩

theorem trans (h : s.Same t) (h' : t.Same u) : s.Same u :=
  ⟨h'.host.trans h.host, h'.port.trans h.port, h'.localIp.trans h.localIp,
    h'.standalone.trans h.standalone, h'.restartTimers.trans h.restartTimers,
    h'.initDone.trans h.initDone, fun hp => h'.pending (h.pending hp)⟩

theorem openService (h : s.Same t) :
    t.openService isAddressIpV6 = s.openService isAddressIpV6 := by
  rw [ConnReqPlugin.openService, ConnReqPlugin.openService, localIpVersion, localIpVersion, h.port,
    h.localIp]

theorem updateConnReqUrl (s : ConnReqPlugin) :
    s.Same (s.updateConnReqUrl isAddressIpV6) ∧
      (s.updateConnReqUrl isAddressIpV6).daemon = s.daemon := by
  unfold ConnReqPlugin.updateConnReqUrl
  split
  · exact ⟨⟨rfl, rfl, rfl, rfl, rfl, rfl, id⟩, rfl⟩
  · exact ⟨refl s, rfl⟩

theorem openPort (s : ConnReqPlugin) :
    s.Same (s.openCwmpdListeningPort isAddressIpV6) ∧
      (s.openCwmpdListeningPort isAddressIpV6).daemon =
        (some (s.openService isAddressIpV6), s.cwmpdProc, s.processes) :=
  ⟨⟨rfl, rfl, rfl, rfl, rfl, rfl, id⟩, rfl⟩

theorem closePort (s : ConnReqPlugin) :
    s.Same s.closeCwmpdListeningPort ∧
      s.closeCwmpdListeningPort.daemon =
        (if s.cwmpdProc then none else s.service, s.cwmpdProc, s.processes) := by
  unfold closeCwmpdListeningPort daemon
  split
  · exact ⟨⟨rfl, rfl, rfl, rfl, rfl, rfl, id⟩, rfl⟩
  · exact ⟨refl s, rfl⟩

/-- The daemon is started by hand, runs already, or is started. -/
theorem startCwmpd (s : ConnReqPlugin) :
    s.Same (s.startCwmpd isAddressIpV6) ∧
      (s.startCwmpd isAddressIpV6).daemon =
        if s.cwmpdStandalone then (some (s.openService isAddressIpV6), s.cwmpdProc, s.processes)
        else if s.cwmpdProc then s.daemon
        else (some (s.openService isAddressIpV6), true, s.processes + 1) := by
  unfold ConnReqPlugin.startCwmpd
  split
  · exact openPort s
  · split
    · exact ⟨refl s, rfl⟩
    · exact ⟨⟨rfl, rfl, rfl, rfl, rfl, rfl, id⟩, rfl⟩

/-- The path is generated, and if it is another one a change is pending. -/
theorem createPath (s : ConnReqPlugin) (created : Option CString) :
    s.Same { s.cwmpPluginCreateConreqPath created with connReqPathCreated := true } ∧
      (s.cwmpPluginCreateConreqPath created).daemon = s.daemon ∧
      (created.getD s.connRequestPath ≠ s.connRequestPath →
        (s.cwmpPluginCreateConreqPath created).Pending) := by
  unfold cwmpPluginCreateConreqPath
  rcases hcases : s.writeConnRequest_cases none created none with hsame | ⟨a, b, c, -, heq⟩
  · refine ⟨?_, ?_, fun hne => ?_⟩
    · rw [hsame]
      exact ⟨rfl, rfl, rfl, rfl, rfl, rfl, id⟩
    · rw [hsame]
    · -- another path is a change
      rw [writeConnRequest]
      dsimp only
      rw [if_pos (Or.inr (Or.inl hne))]
      exact pending_append rfl
  · rw [heq]
    refine ⟨⟨rfl, rfl, rfl, rfl, rfl, rfl, ?_⟩, rfl, fun _ => pending_append rfl⟩
    exact fun _ => pending_append rfl

end Same

/-- The path is generated for the first address. -/
def withPath (s : ConnReqPlugin) (created : Option CString) : ConnReqPlugin :=
  if s.connReqPathCreated then s
  else { s.cwmpPluginCreateConreqPath created with connReqPathCreated := true }

theorem withPath_spec (s : ConnReqPlugin) (created : Option CString) :
    s.Same (s.withPath created) ∧ (s.withPath created).daemon = s.daemon ∧
      (s.connReqPathCreated = false → created.getD s.connRequestPath ≠ s.connRequestPath →
        (s.withPath created).Pending) := by
  unfold withPath
  split
  · next hcreated =>
    exact ⟨.refl s, rfl, fun hnot => absurd (hcreated.symm.trans hnot) (by decide)⟩
  · obtain ⟨hsame, hdaemon, hpending⟩ := Same.createPath s created
    exact ⟨hsame, hdaemon, fun _ => hpending⟩

/-- The daemon is made to serve an address: started, once the plugin is initialised, or its port
opened. -/
def serve (isAddressIpV6 : CString → Bool) (s : ConnReqPlugin) : ConnReqPlugin :=
  if ¬s.cwmpdProc then
    if s.initDone then s.startCwmpd isAddressIpV6 else { s with cwmpdStartAvoided := true }
  else s.openCwmpdListeningPort isAddressIpV6

/-- What comes of that. -/
def servedDaemon (isAddressIpV6 : CString → Bool) (s : ConnReqPlugin) :
    Option FwService × Bool × ℕ :=
  if s.cwmpdProc then (some (s.openService isAddressIpV6), s.cwmpdProc, s.processes)
  else if s.initDone then
    if s.cwmpdStandalone then (some (s.openService isAddressIpV6), s.cwmpdProc, s.processes)
    else (some (s.openService isAddressIpV6), true, s.processes + 1)
  else s.daemon

theorem serve_spec (s : ConnReqPlugin) :
    s.Same (s.serve isAddressIpV6) ∧
      (s.serve isAddressIpV6).daemon = s.servedDaemon isAddressIpV6 := by
  unfold serve servedDaemon
  by_cases hproc : s.cwmpdProc = true
  · rw [if_neg (not_not_intro hproc), if_pos hproc]
    exact Same.openPort s
  · rw [if_pos hproc, if_neg hproc]
    split
    · have hstart := @Same.startCwmpd isAddressIpV6 s
      rw [if_neg hproc] at hstart
      exact hstart
    · exact ⟨⟨rfl, rfl, rfl, rfl, rfl, rfl, id⟩, rfl⟩

/-- It depends on what stays, and on the daemon. -/
theorem Same.servedDaemon (h : s.Same t) (hdaemon : t.daemon = s.daemon) :
    t.servedDaemon isAddressIpV6 = s.servedDaemon isAddressIpV6 := by
  have hproc : t.cwmpdProc = s.cwmpdProc := congrArg (fun d => d.2.1) hdaemon
  have hprocesses : t.processes = s.processes := congrArg (fun d => d.2.2) hdaemon
  rw [ConnReqPlugin.servedDaemon, ConnReqPlugin.servedDaemon, hproc, hprocesses, hdaemon,
    h.initDone, h.standalone, h.openService]

/-- What the host handler makes of the daemon and its port. -/
def hostDaemon (isAddressIpV6 : CString → Bool) (s : ConnReqPlugin) : Option FwService × Bool × ℕ :=
  if Usable s.connRequestHost then s.servedDaemon isAddressIpV6
  else (if s.cwmpdProc then none else s.service, s.cwmpdProc, s.processes)

/-- **The host handler**, while updates are on. -/
theorem updateConnectionRequestUrl_spec (s : ConnReqPlugin) (created : Option CString)
    (hon : s.updateConnRequestUrl = true) :
    s.Same (s.updateConnectionRequestUrl isAddressIpV6 created) ∧
      (s.updateConnectionRequestUrl isAddressIpV6 created).daemon = s.hostDaemon isAddressIpV6 ∧
      (s.PathChanges created →
        (s.updateConnectionRequestUrl isAddressIpV6 created).Pending) := by
  have hunfold : s.updateConnectionRequestUrl isAddressIpV6 created =
      if Usable (s.updateConnReqUrl isAddressIpV6).connRequestHost then
        ((s.updateConnReqUrl isAddressIpV6).withPath created).serve isAddressIpV6
      else (s.updateConnReqUrl isAddressIpV6).closeCwmpdListeningPort := by
    rw [updateConnectionRequestUrl, if_neg (not_not_intro hon)]
    rfl
  obtain ⟨hw, hwdaemon⟩ := @Same.updateConnReqUrl isAddressIpV6 s
  have hwpath : (s.updateConnReqUrl isAddressIpV6).connReqPathCreated = s.connReqPathCreated ∧
      (s.updateConnReqUrl isAddressIpV6).connRequestPath = s.connRequestPath := by
    rw [updateConnReqUrl, if_pos hon]
    exact ⟨rfl, rfl⟩
  rw [hunfold, hostDaemon, hw.host]
  generalize s.updateConnReqUrl isAddressIpV6 = w at hw hwdaemon hwpath ⊢
  by_cases husable : Usable s.connRequestHost
  · rw [if_pos husable, if_pos husable]
    obtain ⟨hv, hvdaemon, hvpending⟩ := withPath_spec w created
    obtain ⟨hserve, hserved⟩ := @serve_spec isAddressIpV6 (w.withPath created)
    refine ⟨(hw.trans hv).trans hserve, ?_, ?_⟩
    · rw [hserved, (hw.trans hv).servedDaemon (hvdaemon.trans hwdaemon)]
    · rintro ⟨-, hcreated, hne⟩
      exact hserve.pending (hvpending (hwpath.1 ▸ hcreated) (hwpath.2 ▸ hne))
  · rw [if_neg husable, if_neg husable]
    obtain ⟨hclose, hclosed⟩ := Same.closePort w
    have hservice : w.service = s.service := congrArg (fun d => d.1) hwdaemon
    have hproc : w.cwmpdProc = s.cwmpdProc := congrArg (fun d => d.2.1) hwdaemon
    have hprocesses : w.processes = s.processes := congrArg (fun d => d.2.2) hwdaemon
    rw [hservice, hproc, hprocesses] at hclosed
    exact ⟨hw.trans hclose, hclosed, fun hp => absurd hp.1 husable⟩

/-- What the handlers of a change make of the daemon and its port. -/
def changedDaemon (isAddressIpV6 : CString → Bool) (s : ConnReqPlugin) (host port : Bool) :
    Option FwService × Bool × ℕ :=
  let d := if host ∧ s.updateConnRequestUrl then s.hostDaemon isAddressIpV6 else s.daemon
  if port then (some (s.openService isAddressIpV6), d.2) else d

/-- **The handlers of a change.** -/
theorem connRequestChanged_spec (s : ConnReqPlugin) (created : Option CString) (a b c : Bool) :
    s.Same (s.connRequestChanged isAddressIpV6 created a b c) ∧
      (s.connRequestChanged isAddressIpV6 created a b c).daemon =
        s.changedDaemon isAddressIpV6 a c ∧
      (a = true → s.updateConnRequestUrl = true → s.PathChanges created →
        (s.connRequestChanged isAddressIpV6 created a b c).Pending) := by
  have hhost : ∃ w, w = (if a then s.updateConnectionRequestUrl isAddressIpV6 created else s) ∧
      s.Same w ∧
      w.daemon = (if a ∧ s.updateConnRequestUrl then s.hostDaemon isAddressIpV6 else s.daemon) ∧
      (a = true → s.updateConnRequestUrl = true → s.PathChanges created → w.Pending) := by
    refine ⟨_, rfl, ?_⟩
    rcases a with - | -
    · exact ⟨.refl s, rfl, nofun⟩
    · by_cases hon : s.updateConnRequestUrl = true
      · obtain ⟨hsame, hdaemon, hpath⟩ :=
          @updateConnectionRequestUrl_spec isAddressIpV6 s created hon
        rw [if_pos rfl, if_pos ⟨rfl, hon⟩]
        exact ⟨hsame, hdaemon, fun _ _ => hpath⟩
      · rw [if_pos rfl, if_neg fun h => hon h.2, updateConnectionRequestUrl, if_pos hon]
        exact ⟨.refl s, rfl, fun _ h => absurd h hon⟩
  obtain ⟨w, hweq, hw, hwdaemon, hwpath⟩ := hhost
  have hpathstep : ∃ v, v = (if b then w.updateConnectionRequestPath isAddressIpV6 else w) ∧
      w.Same v ∧ v.daemon = w.daemon := by
    refine ⟨_, rfl, ?_⟩
    rcases b with - | -
    · exact ⟨.refl w, rfl⟩
    · exact Same.updateConnReqUrl w
  obtain ⟨v, hveq, hv, hvdaemon⟩ := hpathstep
  have hresult : s.connRequestChanged isAddressIpV6 created a b c =
      if c then v.updateConnectionRequestPort isAddressIpV6 else v := by
    rw [hveq, hweq]
    rfl
  rw [hresult, changedDaemon, ← hwdaemon, ← hvdaemon]
  have hsv := hw.trans hv
  rcases c with - | -
  · exact ⟨hsv, rfl, fun h1 h2 h3 => hv.pending (hwpath h1 h2 h3)⟩
  · obtain ⟨hurl, hurldaemon⟩ := @Same.updateConnReqUrl isAddressIpV6 v
    have hopen : v.Same (v.updateConnectionRequestPort isAddressIpV6) :=
      ⟨hurl.host, hurl.port, hurl.localIp, hurl.standalone, hurl.restartTimers, hurl.initDone,
        hurl.pending⟩
    refine ⟨hsv.trans hopen, ?_, fun h1 h2 h3 => hopen.pending (hv.pending (hwpath h1 h2 h3))⟩
    have hservice := @Same.openService isAddressIpV6 _ _ (hsv.trans hurl)
    have hproc := congrArg (fun d => d.2) hurldaemon
    rw [if_pos rfl, ← hservice, ← hproc]
    rfl

/-- The process is left alone, or one is started where there is none. -/
theorem changedDaemon_process (s : ConnReqPlugin) (a c : Bool) :
    (s.changedDaemon isAddressIpV6 a c).2 = (s.cwmpdProc, s.processes) ∨
      s.cwmpdProc = false ∧ s.cwmpdStandalone = false ∧
        (s.changedDaemon isAddressIpV6 a c).2 = (true, s.processes + 1) := by
  have hhost : (s.hostDaemon isAddressIpV6).2 = (s.cwmpdProc, s.processes) ∨
      s.cwmpdProc = false ∧ s.cwmpdStandalone = false ∧
        (s.hostDaemon isAddressIpV6).2 = (true, s.processes + 1) := by
    unfold hostDaemon servedDaemon
    split
    · split
      · exact Or.inl rfl
      · next hproc =>
        split
        · split
          · exact Or.inl rfl
          · next hhand =>
            exact Or.inr ⟨Bool.eq_false_iff.mpr hproc, Bool.eq_false_iff.mpr hhand, rfl⟩
        · exact Or.inl rfl
    · exact Or.inl rfl
  have hd : (s.changedDaemon isAddressIpV6 a c).2 =
      (if a ∧ s.updateConnRequestUrl then s.hostDaemon isAddressIpV6 else s.daemon).2 := by
    unfold changedDaemon
    dsimp only
    split <;> rfl
  rw [hd]
  split
  · exact hhost
  · exact Or.inl rfl

/-- One process stays one process. -/
theorem OneProcess.of_process (h : s.OneProcess) (hsame : s.Same t)
    (hprocess : (t.cwmpdProc, t.processes) = (s.cwmpdProc, s.processes) ∨
      s.cwmpdProc = false ∧ s.cwmpdStandalone = false ∧
        (t.cwmpdProc, t.processes) = (true, s.processes + 1)) : t.OneProcess := by
  rcases hprocess with hsameproc | ⟨hproc, hhand, hstarted⟩
  · obtain ⟨hproc, hprocesses⟩ := Prod.mk.inj hsameproc
    refine ⟨by rw [hproc, hprocesses, h.processes], fun hrun => ?_⟩
    rw [hsame.standalone]
    exact h.supervised (hproc ▸ hrun)
  · obtain ⟨hproc', hprocesses⟩ := Prod.mk.inj hstarted
    refine ⟨?_, fun _ => hsame.standalone.trans hhand⟩
    rw [hprocesses, hproc', h.processes, hproc]
    rfl

/-! ### One step -/

/-- What a handler that leaves the address alone keeps of one process. -/
theorem OneProcess.changed (h : s.OneProcess) (created : Option CString) (a b c : Bool) :
    (s.connRequestChanged isAddressIpV6 created a b c).OneProcess := by
  obtain ⟨hsame, hdaemon, -⟩ := @connRequestChanged_spec isAddressIpV6 s created a b c
  refine h.of_process hsame ?_
  have hprocess := congrArg (fun d => d.2) hdaemon
  change (_, _) = _ at hprocess
  rw [hprocess]
  exact s.changedDaemon_process a c

theorem OneProcess.startCwmpd (h : s.OneProcess) : (s.startCwmpd isAddressIpV6).OneProcess := by
  obtain ⟨hsame, hdaemon⟩ := @Same.startCwmpd isAddressIpV6 s
  refine h.of_process hsame ?_
  have hprocess := congrArg (fun d => d.2) hdaemon
  change (_, _) = _ at hprocess
  rw [hprocess]
  split
  · exact Or.inl rfl
  · next hhand =>
    split
    · exact Or.inl rfl
    · next hproc => exact Or.inr ⟨Bool.eq_false_iff.mpr hproc, Bool.eq_false_iff.mpr hhand, rfl⟩

/-- The process is gone, and its handle is. -/
theorem OneProcess.exited (h : s.OneProcess) (hrun : 0 < s.processes) :
    { s with processes := s.processes - 1 }.cwmpdProcStopped.OneProcess := by
  have hle := Bool.toNat_le s.cwmpdProc
  have hzero : s.processes - 1 = 0 := by
    have hprocesses := h.processes
    omega
  exact ⟨hzero, nofun⟩

/-- **A change that is handled well** leaves the service there should be. -/
theorem HandledWell.service {a c : Bool} (h : s.HandledWell isAddressIpV6 a c)
    (hs : s.OneProcess) :
    (s.changedDaemon isAddressIpV6 a c).1 =
      if 0 < (s.changedDaemon isAddressIpV6 a c).2.2 ∧ Usable s.connRequestHost then
        some (s.openService isAddressIpV6)
      else none := by
  have hpos : s.cwmpdProc = true → 0 < s.processes := by
    intro hproc
    rw [hs.processes, hproc]
    decide
  have hzero : s.cwmpdProc = false → s.processes = 0 := by
    intro hproc
    rw [hs.processes, hproc]
    rfl
  unfold HandledWell at h
  split at h
  · -- the port is opened: there is a process before the change or after it
    next hport =>
    obtain ⟨husable, hrun⟩ := h
    have hafter : 0 < (s.changedDaemon isAddressIpV6 a c).2.2 := by
      rcases hrun with hproc | ⟨hhost, hon, hinit, -, hhand⟩
      · rcases @changedDaemon_process isAddressIpV6 s a c with hkept | ⟨hnot, -⟩
        · rw [hkept]
          exact hpos hproc
        · exact absurd (hproc.symm.trans hnot) (by decide)
      · rcases hproc : s.cwmpdProc with - | -
        · simp [changedDaemon, hport, hhost, hon, hostDaemon, husable, servedDaemon, hinit, hhand,
            hproc]
        · simpa [changedDaemon, hport, hhost, hon, hostDaemon, husable, servedDaemon, hproc]
            using hpos hproc
    rw [if_pos ⟨hafter, husable⟩, changedDaemon, if_pos hport]
  · next hport =>
    split at h
    · -- the host handler looks
      next hhost =>
      rw [changedDaemon, if_neg hport, if_pos hhost, hostDaemon]
      by_cases husable : Usable s.connRequestHost
      · rw [if_pos husable, servedDaemon]
        by_cases hproc : s.cwmpdProc = true
        · rw [if_pos hproc, if_pos ⟨hpos hproc, husable⟩]
        · have hkept := h.resolve_left hproc
          rw [if_neg hproc]
          by_cases hinit : s.initDone = true
          · rw [if_pos ⟨husable, hinit⟩] at hkept
            rw [if_pos hinit, if_neg (by rw [hkept.2]; decide), if_pos ⟨Nat.succ_pos _, husable⟩]
          · rw [if_neg fun hboth => hinit hboth.2] at hkept
            rw [if_neg hinit, if_neg]
            · exact hkept
            · rintro ⟨hrun, -⟩
              have hnone := hzero (Bool.eq_false_iff.mpr hproc)
              exact absurd hnone (Nat.pos_iff_ne_zero.mp hrun)
      · have hno : ¬(0 < s.processes ∧ Usable s.connRequestHost) := fun hboth => husable hboth.2
        rw [if_neg husable, if_neg hno]
        by_cases hproc : s.cwmpdProc = true
        · rw [if_pos hproc]
        · have hkept := h.resolve_left hproc
          rw [if_neg fun hboth => husable hboth.1] at hkept
          rw [if_neg hproc, hkept]
    · -- no handler looks
      next hhost =>
      rw [changedDaemon, if_neg hport, if_neg hhost]
      exact h

/-- The last change, if it is handled well. -/
theorem FwInv.of_changed (hprocess : s.OneProcess) (htimers : s.restartTimers ≤ 1)
    {created : Option CString} {a c : Bool}
    (hok : s.Pending ∨ a = true ∧ s.updateConnRequestUrl = true ∧ s.PathChanges created ∨
      s.HandledWell isAddressIpV6 a c) (b : Bool) :
    (s.connRequestChanged isAddressIpV6 created a b c).FwInv isAddressIpV6 := by
  obtain ⟨hsame, hdaemon, hpath⟩ := @connRequestChanged_spec isAddressIpV6 s created a b c
  refine ⟨fun hnone => ?_, hprocess.changed created a b c, hsame.restartTimers ▸ htimers⟩
  rcases hok with hp | ⟨hhost, hon, hp⟩ | hwell
  · exact absurd (hsame.pending hp) hnone
  · exact absurd (hpath hhost hon hp) hnone
  · have hservice := congrArg (fun d => d.1) hdaemon
    have hprocesses := congrArg (fun d => d.2.2) hdaemon
    change _ = _ at hservice hprocesses
    have heq := hwell.service hprocess
    rw [← hservice, ← hprocesses, ← hsame.openService, ← hsame.host] at heq
    exact heq

/-- The daemon is started where it may be, or runs behind the service there should be. -/
theorem FwInv.of_startCwmpd (hprocess : s.OneProcess) (htimers : s.restartTimers ≤ 1)
    (hok : s.Pending ∨ s.cwmpdProc = true ∧ s.service = s.wanted isAddressIpV6 ∨
      s.cwmpdProc = false ∧ s.MayStart) :
    (s.startCwmpd isAddressIpV6).FwInv isAddressIpV6 := by
  obtain ⟨hsame, hdaemon⟩ := @Same.startCwmpd isAddressIpV6 s
  refine ⟨fun hnone => ?_, hprocess.startCwmpd, hsame.restartTimers ▸ htimers⟩
  rcases hok with hp | ⟨hproc, hservice⟩ | ⟨hproc, husable, hhand⟩
  · exact absurd (hsame.pending hp) hnone
  · have hstay : s.startCwmpd isAddressIpV6 = s := by
      rw [startCwmpd, if_neg (by rw [hprocess.supervised hproc]; decide), if_pos hproc]
    rw [hstay]
    exact hservice
  · rw [if_neg (by rw [hhand]; decide), if_neg (by rw [hproc]; decide)] at hdaemon
    have hservice := congrArg (fun d => d.1) hdaemon
    have hrun := congrArg (fun d => d.2.1) hdaemon
    exact hservice.trans ((congrArg some hsame.openService).symm.trans
      (wanted_of_proc hprocess.startCwmpd hrun (hsame.host ▸ husable)).symm)

/-- A queue with the same changes of the connection request, or more. -/
theorem FwInv.of_withQueue (hs : s.FwInv isAddressIpV6) {queue : List ConnReqChange}
    (hqueue : ∀ h q p, .connRequest h q p ∈ s.queue → .connRequest h q p ∈ queue) :
    (s.withQueue queue).FwInv isAddressIpV6 := by
  refine ⟨fun hnone => ?_, ⟨hs.process.processes, hs.process.supervised⟩, hs.restartTimers⟩
  refine hs.service fun ⟨h, q, p, hmem⟩ => hnone ⟨h, q, p, hqueue h q p hmem⟩

/-- A call from outside changes the URL, and neither the address nor the daemon. -/
theorem Beside.called (s : ConnReqPlugin) (update : Bool) (host : Option CString) (port : UInt16) :
    s.Beside (s.managementServerUpdateConnectionRequestUrl isAddressIpV6 update host port) ∧
      (s.managementServerUpdateConnectionRequestUrl isAddressIpV6 update host port).localIpAddress =
        s.localIpAddress := by
  unfold managementServerUpdateConnectionRequestUrl
  dsimp only
  split
  · exact ⟨⟨rfl, rfl, rfl, rfl, rfl, rfl, rfl, fun h => ⟨h, rfl⟩⟩, rfl⟩
  · split
    · exact ⟨⟨rfl, rfl, rfl, rfl, rfl, rfl, rfl, fun h => ⟨h, rfl⟩⟩, rfl⟩
    · exact ⟨⟨rfl, rfl, rfl, rfl, rfl, rfl, rfl, fun h => ⟨h, rfl⟩⟩, rfl⟩

theorem deferredInitTimerCb_eq (s : ConnReqPlugin) (results : QueryResults) :
    s.deferredInitTimerCb isAddressIpV6 results =
      if (s.queriesOpened results).cwmpdStartAvoided then
        (s.queriesOpened results).startCwmpd isAddressIpV6
      else s.queriesOpened results :=
  rfl

/-- The queries are opened. -/
theorem Beside.queriesOpened (s : ConnReqPlugin) (results : QueryResults) :
    s.Beside (s.queriesOpened results) := by
  have h : s.Beside { s with initDone := true, deferredInitTimer := false } :=
    ⟨rfl, rfl, rfl, rfl, rfl, rfl, rfl, fun h => ⟨h, rfl⟩⟩
  unfold ConnReqPlugin.queriesOpened
  dsimp only
  split
  · exact h
  · exact (Beside.addressClosed s).openQueries h results

/-- The deferred initialisation. -/
theorem FwInv.deferredInit (hs : s.FwInv isAddressIpV6) {results : QueryResults}
    (hok : s.KeepsService isAddressIpV6 (.deferredInit results)) :
    (s.deferredInitTimerCb isAddressIpV6 results).FwInv isAddressIpV6 := by
  have hbeside := Beside.queriesOpened s results
  change (s.queriesOpened results).Pending ∨
    if s.cwmpdStartAvoided = true ∧ s.cwmpdProc = false then s.MayStart
    else s.VersionKept isAddressIpV6 (s.queriesOpened results) at hok
  rw [deferredInitTimerCb_eq, hbeside.avoided]
  generalize s.queriesOpened results = w at hbeside hok ⊢
  have htimers : w.restartTimers ≤ 1 := hbeside.restartTimers ▸ hs.restartTimers
  by_cases hmay : s.cwmpdStartAvoided = true ∧ s.cwmpdProc = false
  · rw [if_pos hmay] at hok
    rw [if_pos hmay.1]
    refine .of_startCwmpd (hbeside.oneProcess hs.process) htimers ?_
    by_cases hp : w.Pending
    · exact Or.inl hp
    · have hhost := (hbeside.quiet hp).2
      obtain ⟨husable, hhand⟩ := hok.resolve_left hp
      exact Or.inr (Or.inr ⟨hbeside.proc.trans hmay.2, hhost ▸ husable,
        hbeside.standalone.trans hhand⟩)
  · rw [if_neg hmay] at hok
    have hv : s.VersionKept isAddressIpV6 w := hok.elim Or.inl id
    have hinv := hbeside.fwInv hs hv
    split
    · next havoided =>
      have hproc : w.cwmpdProc = true := by
        rw [hbeside.proc]
        exact Bool.not_eq_false _ |>.mp fun hnot => hmay ⟨havoided, hnot⟩
      refine .of_startCwmpd hinv.process htimers ?_
      by_cases hp : w.Pending
      · exact Or.inl hp
      · exact Or.inr (Or.inl ⟨hproc, hinv.service hp⟩)
    · exact hinv

/-- **One event keeps the invariant**, under the condition. -/
theorem FwInv.step (hs : s.FwInv isAddressIpV6) (hok : s.KeepsService isAddressIpV6 e)
    (h : s.step isAddressIpV6 e = some t) : t.FwInv isAddressIpV6 := by
  have hclosed := Beside.addressClosed s
  rcases stepped_of_step h with ⟨host, path, port⟩ | ⟨update, host, port⟩ | - | @⟨intf, -⟩ | - |
    @⟨mode, -⟩ | newIp | newIp | ms | - | - | @⟨a, b, c, rest, hqueue, created, results⟩ |
    @⟨intf, rest, hqueue, created, results⟩ | @⟨mode, rest, hqueue, created, results⟩ | hrun |
    htimer | ⟨-, results⟩
  case write =>
    rcases s.writeConnRequest_cases host path port with hsame | ⟨a, b, c, -, heq⟩
    · rw [hsame]
      exact hs
    · rw [heq]
      exact ⟨fun hnone => absurd (pending_append rfl) hnone,
        ⟨hs.process.processes, hs.process.supervised⟩, hs.restartTimers⟩
  case called =>
    obtain ⟨hbeside, hlocal⟩ := Beside.called s update host port
    exact hbeside.fwInv hs (Or.inr (Or.inr (by rw [localIpVersion, localIpVersion, hlocal])))
  case sameInterface => exact hs
  case samePreferred => exact hs
  case setInterface =>
    have h' : { s with interface := intf }.FwInv isAddressIpV6 :=
      ⟨hs.service, ⟨hs.process.processes, hs.process.supervised⟩, hs.restartTimers⟩
    exact h'.of_withQueue fun _ _ _ hmem => List.mem_append_left _ hmem
  case setPreferred =>
    have h' : { s with preferredIpVersion := mode }.FwInv isAddressIpV6 :=
      ⟨hs.service, ⟨hs.process.processes, hs.process.supervised⟩, hs.restartTimers⟩
    exact h'.of_withQueue fun _ _ _ hmem => List.mem_append_left _ hmem
  case ipv4Changed => exact (hclosed.ipv4addressChangedCb (.refl s) newIp).fwInv hs hok
  case ipv6Changed => exact (hclosed.ipv6addressChangedCb (.refl s) newIp).fwInv hs hok
  case elapsed =>
    exact ⟨hs.service, ⟨hs.process.processes, hs.process.supervised⟩, hs.restartTimers⟩
  case ipv6Timer => exact (hclosed.updateLocalIp (.refl s)).fwInv hs hok
  case lostTimer => exact (hclosed.lostTimer (.refl s) _).fwInv hs hok
  case changed =>
    rw [KeepsService, hqueue] at hok
    have hrest : (s.withQueue rest).OneProcess :=
      ⟨hs.process.processes, hs.process.supervised⟩
    exact FwInv.of_changed hrest hs.restartTimers hok b
  case interfaceChanged =>
    rw [KeepsService, hqueue] at hok
    have hrest : (s.withQueue rest).FwInv isAddressIpV6 := hs.of_withQueue fun a b c hmem => by
      rw [hqueue] at hmem
      exact (List.mem_cons.mp hmem).resolve_left nofun
    exact ((Beside.addressClosed _).writeInterface (.refl _) intf results).fwInv hrest hok
  case preferredChanged =>
    have hrest : (s.withQueue rest).FwInv isAddressIpV6 := hs.of_withQueue fun a b c hmem => by
      rw [hqueue] at hmem
      exact (List.mem_cons.mp hmem).resolve_left nofun
    exact ⟨hrest.service, ⟨hrest.process.processes, hrest.process.supervised⟩, hrest.restartTimers⟩
  case exited =>
    obtain ⟨hservice, hnone⟩ := hok
    refine ⟨fun hquiet => ?_, hs.process.exited hrun, ?_⟩
    · rw [wanted_of_not_proc (hs.process.exited hrun) rfl]
      exact hservice.resolve_left hquiet
    · change s.restartTimers + 1 ≤ 1
      rw [hnone]
  case restarted =>
    refine .of_startCwmpd ⟨hs.process.processes, hs.process.supervised⟩
      (Nat.le_trans (Nat.sub_le _ _) hs.restartTimers) ?_
    rcases hok with hp | hproc | hmay
    · exact Or.inl hp
    · by_cases hp : s.Pending
      · exact Or.inl hp
      · exact Or.inr (Or.inl ⟨hproc, hs.service hp⟩)
    · by_cases hproc : s.cwmpdProc = true
      · by_cases hp : s.Pending
        · exact Or.inl hp
        · exact Or.inr (Or.inl ⟨hproc, hs.service hp⟩)
      · exact Or.inr (Or.inr ⟨Bool.eq_false_iff.mpr hproc, hmay⟩)
  case deferredInit => exact hs.deferredInit hok

/-- **One event keeps one process**, whatever it is. -/
theorem OneProcess.step (hs : s.OneProcess) (h : s.step isAddressIpV6 e = some t) :
    t.OneProcess := by
  have hclosed := Beside.addressClosed s
  rcases stepped_of_step h with ⟨host, path, port⟩ | ⟨update, host, port⟩ | - | - | - | - | newIp |
    newIp | - | - | - | @⟨a, b, c, rest, -, created, -⟩ | @⟨intf, rest, -, -, results⟩ | - | hrun |
    - | ⟨-, results⟩
  case write =>
    rcases s.writeConnRequest_cases host path port with hsame | ⟨a, b, c, -, heq⟩
    · rw [hsame]
      exact hs
    · rw [heq]
      exact ⟨hs.processes, hs.supervised⟩
  case called => exact (Beside.called s update host port).1.oneProcess hs
  case ipv4Changed => exact (hclosed.ipv4addressChangedCb (.refl s) newIp).oneProcess hs
  case ipv6Changed => exact (hclosed.ipv6addressChangedCb (.refl s) newIp).oneProcess hs
  case ipv6Timer => exact (hclosed.updateLocalIp (.refl s)).oneProcess hs
  case lostTimer => exact (hclosed.lostTimer (.refl s) _).oneProcess hs
  case changed =>
    have hrest : (s.withQueue rest).OneProcess := ⟨hs.processes, hs.supervised⟩
    exact hrest.changed created a b c
  case interfaceChanged =>
    have hrest : (s.withQueue rest).OneProcess := ⟨hs.processes, hs.supervised⟩
    exact ((Beside.addressClosed _).writeInterface (.refl _) intf results).oneProcess hrest
  case exited => exact hs.exited hrun
  case restarted => exact OneProcess.startCwmpd ⟨hs.processes, hs.supervised⟩
  case deferredInit =>
    have hopened := (Beside.queriesOpened s results).oneProcess hs
    rw [deferredInitTimerCb_eq]
    split
    · exact hopened.startCwmpd
    · exact hopened
  all_goals exact ⟨hs.processes, hs.supervised⟩

/-! ### The main results -/

theorem fwInv_initial (port : UInt16) (path interface preferred : CString) (waitTime : UInt32)
    (standalone : Bool) :
    (initial port path interface preferred waitTime standalone).FwInv isAddressIpV6 :=
  ⟨fun _ => rfl, ⟨rfl, nofun⟩, Nat.zero_le 1⟩

/-- **The firewall follows the daemon** in every run whose events meet the condition. -/
theorem followsDaemon_of_reaches {port : UInt16} {path interface preferred : CString}
    {waitTime : UInt32} {standalone : Bool}
    (h : Reaches (step isAddressIpV6) (KeepsService isAddressIpV6)
      (initial port path interface preferred waitTime standalone) s) :
    s.FollowsDaemon isAddressIpV6 :=
  (h.invariant (fun _ _ _ hs hok hstep => hs.step hok hstep) (fwInv_initial ..)).followsDaemon

/-- The daemon is started by the deferred initialisation and serves the first address. -/
theorem followsDaemon_started :
    ∃ s : ConnReqPlugin, Reaches (step fun _ => false) (KeepsService fun _ => false)
        (initial 7547 "p".toList "lan".toList [] 0 false) s ∧
      s.service = some ⟨7547, 4⟩ ∧ s.FollowsDaemon fun _ => false := by
  have hrun : (exec (step fun _ => false) (initial 7547 "p".toList "lan".toList [] 0 false)
      [.deferredInit ⟨none, none⟩, .ipv4Changed "i".toList, .dispatch none ⟨none, none⟩]).map
        service = some (some ⟨7547, 4⟩) := by
    decide
  obtain ⟨s, hs, hservice⟩ := Option.map_eq_some_iff.mp hrun
  have hreach := reaches_of_exec hs (G := KeepsService fun _ => false) <| by
    refine ⟨Or.inr ?_, fun t ht => ?_⟩
    · exact Or.inr (Or.inl rfl)
    · obtain rfl := Option.some.inj ht
      refine ⟨Or.inr (Or.inl rfl), fun u hu => ?_⟩
      obtain rfl := Option.some.inj hu
      refine ⟨Or.inr (Or.inr (Or.inr ?_)), fun _ _ => trivial⟩
      exact ⟨⟨nofun, by decide⟩, rfl⟩
  exact ⟨s, hreach, hservice, followsDaemon_of_reaches hreach⟩

/-- Not in every run: the service is not deleted when the daemon exits. -/
theorem not_followsDaemon_exited :
    ¬∀ (isAddressIpV6 : CString → Bool) (port : UInt16) (path interface preferred : CString)
      (waitTime : UInt32) (standalone : Bool) (s : ConnReqPlugin),
      Reaches (step isAddressIpV6) free
        (initial port path interface preferred waitTime standalone) s →
      s.FollowsDaemon isAddressIpV6 := by
  intro h
  have hrun : (exec (step fun _ => false) (initial 7547 "p".toList "lan".toList [] 0 false)
      [.deferredInit ⟨none, none⟩, .ipv4Changed "i".toList, .dispatch none ⟨none, none⟩,
        .cwmpdExit]).map (fun s => (s.queue, s.service, s.processes)) =
      some ([], some ⟨7547, 4⟩, 0) := by
    decide
  obtain ⟨s, hs, heq⟩ := Option.map_eq_some_iff.mp hrun
  obtain ⟨hqueue, hrest⟩ := Prod.mk.inj heq
  obtain ⟨hservice, hprocesses⟩ := Prod.mk.inj hrest
  have hquiet : ¬s.Pending := by
    rintro ⟨a, b, c, hmem⟩
    rw [hqueue] at hmem
    cases hmem
  have hwanted := (h _ 7547 "p".toList "lan".toList [] 0 false s
    (reaches_free_of_exec _ hs)).service hquiet
  rw [hservice, wanted, hprocesses, if_neg fun hboth => absurd hboth.1 (by decide)] at hwanted
  cases hwanted

/-- **One process**: there is one at most in any run. -/
theorem processes_le_one {port : UInt16} {path interface preferred : CString} {waitTime : UInt32}
    {standalone : Bool}
    (h : Reaches (step isAddressIpV6) free
      (initial port path interface preferred waitTime standalone) s) : s.processes ≤ 1 := by
  have hprocess := h.invariant (I := OneProcess) (fun _ _ _ hs _ hstep => hs.step hstep)
    ⟨rfl, nofun⟩
  rw [hprocess.processes]
  exact Bool.toNat_le _

end ConnReqPlugin

end Tr069
