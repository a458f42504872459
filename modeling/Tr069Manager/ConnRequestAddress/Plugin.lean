import Tr069Manager.Lib.CString
import Tr069Manager.Lib.Runs

/-!
# Where connection requests go

The part of the plugin that follows the address of the device
(`cwmp_plugin_intf_queries.c`), makes the URL for connection requests of it
(`cwmp_plugin_connection_request.c`), and runs the daemon that serves them behind a
port of the firewall (`cwmp_plugin_service.c`).

The parameters of `ManagementServer.ConnRequest.` are written by the plugin and by
others. A transaction that changes some of them queues one event, and the handlers of
that event – for the host, the path and the port, in this order – read the parameters
as they are when they run. The queries of the network model call back when an address
changes, and possibly while they are opened. What stands outside is a parameter:
`isAddressIpV6`, which is `inet_pton`, and the path that is generated once. The firewall
and the control of the process do what they are told, as long as the process runs.
-/

namespace Tr069

/-! ### The data -/

/-- `wan_ip_mode_t`. -/
inductive WanIpMode where
  | ipv4Only
  | ipv6Preferred
  | ipAny
  deriving DecidableEq

/-- A timer that waits for an IPv6 address: the milliseconds it was started with, and those
that have gone by. -/
structure WaitTimer where
  wait : ℕ
  elapsed : ℕ
  deriving DecidableEq

/-- The firewall service `cwmpd_conn_request`, as far as it depends on the address. -/
structure FwService where
  destinationPort : UInt16
  ipversion : ℕ
  deriving DecidableEq

/-- The changes the data model queues: of the host, the path and the port in one
transaction, of the interface and of the preferred version. -/
inductive ConnReqChange where
  | connRequest (host path port : Bool)
  | interface (intf : CString)
  | preferredIpVersion (mode : CString)
  deriving DecidableEq

/-- What the queries call back with while they are opened, if they do. -/
structure QueryResults where
  ipv6 : Option CString
  ipv4 : Option CString

/-- The plugin, as far as connection requests are concerned: the parameters, the static
variables with their timers and the process, and the queue of changes. A wait timer that
`ipv6_timer` no longer points to runs on (`lostTimers`). `waitTime` is what is read of
`IPV4IPV6WANMaxWaitTime`, which is zero for want of such a parameter. The history has
whether the address has been left alone so far, the last call that was accepted, and the
time since the IPv4 address changed. -/
structure ConnReqPlugin where
  connectionRequestUrl : CString
  connRequestHost : CString
  localIpAddress : CString
  connRequestPort : UInt16
  connRequestPath : CString
  updateConnRequestUrl : Bool
  interface : CString
  preferredIpVersion : CString
  waitTime : UInt32
  connReqPathCreated : Bool
  cwmpdStartAvoided : Bool
  initDone : Bool
  deferredInitTimer : Bool
  cwmpdStandalone : Bool
  cwmpdProc : Bool
  processes : ℕ
  restartTimers : ℕ
  service : Option FwService
  wanIpMode : WanIpMode
  ipv4address : CString
  ipv6address : CString
  ipv6Timer : Option WaitTimer
  lostTimers : List WaitTimer
  queue : List ConnReqChange
  untouched : Bool
  lastCall : Option (CString × UInt16)
  sinceIpv4 : ℕ

namespace ConnReqPlugin

/-- `DEFAULT_CRH`, and the default of both addresses. -/
def defaultCrh : CString := "0.0.0.0".toList

/-- When the plugin comes up, with the port, the path and the interface it has stored. -/
def initial (port : UInt16) (path interface preferred : CString) (waitTime : UInt32)
    (standalone : Bool) : ConnReqPlugin where
  connectionRequestUrl := []
  connRequestHost := defaultCrh
  localIpAddress := defaultCrh
  connRequestPort := port
  connRequestPath := path
  updateConnRequestUrl := true
  interface := interface
  preferredIpVersion := preferred
  waitTime := waitTime
  connReqPathCreated := false
  cwmpdStartAvoided := false
  initDone := false
  deferredInitTimer := true
  cwmpdStandalone := standalone
  cwmpdProc := false
  processes := 0
  restartTimers := 0
  service := none
  wanIpMode := .ipAny
  ipv4address := []
  ipv6address := []
  ipv6Timer := none
  lostTimers := []
  queue := []
  untouched := true
  lastCall := none
  sinceIpv4 := 0

/-! ### Writing the parameters -/

/-- A transaction on `ManagementServer.ConnRequest.`: one event tells what has changed. -/
def writeConnRequest (s : ConnReqPlugin) (host path : Option CString) (port : Option UInt16) :
    ConnReqPlugin :=
  let t := { s with
    connRequestHost := host.getD s.connRequestHost
    connRequestPath := path.getD s.connRequestPath
    connRequestPort := port.getD s.connRequestPort }
  let h := t.connRequestHost ≠ s.connRequestHost
  let q := t.connRequestPath ≠ s.connRequestPath
  let p := t.connRequestPort ≠ s.connRequestPort
  if h ∨ q ∨ p then { t with queue := s.queue ++ [.connRequest h q p], untouched := false } else s

/-- `cwmp_plugin_update_conreq_host`. -/
def updateConreqHost (s : ConnReqPlugin) (ip : CString) : ConnReqPlugin :=
  let t := { s with localIpAddress := ip }
  if t.updateConnRequestUrl then t.writeConnRequest (some ip) none none else t

/-! ### The URL -/

/-- `assembleConnectionRequestURL`. -/
def assembleConnectionRequestUrl (isAddressIpV6 : CString → Bool) (s : ConnReqPlugin)
    (host : CString) (port : UInt16) : CString :=
  "http://".toList ++ (if isAddressIpV6 host then "[".toList ++ host ++ "]".toList else host) ++
    ":".toList ++ (toString port.toNat).toList ++ "/".toList ++ s.connRequestPath

/-- `update_conn_req_url`. -/
def updateConnReqUrl (isAddressIpV6 : CString → Bool) (s : ConnReqPlugin) : ConnReqPlugin :=
  if s.updateConnRequestUrl then
    { s with
      connectionRequestUrl :=
        s.assembleConnectionRequestUrl isAddressIpV6 s.connRequestHost s.connRequestPort }
  else s

/-- The arguments of a call that are refused. -/
def InvalidArgs (host : Option CString) (port : UInt16) : Prop :=
  host.getD [] = [] ∨ port = 0

instance (host : Option CString) (port : UInt16) : Decidable (InvalidArgs host port) :=
  inferInstanceAs (Decidable (_ ∨ _))

/-- `_ManagementServer_updateConnectionRequestURL`. -/
def managementServerUpdateConnectionRequestUrl (isAddressIpV6 : CString → Bool)
    (s : ConnReqPlugin) (update : Bool) (host : Option CString) (port : UInt16) : ConnReqPlugin :=
  let s := { s with updateConnRequestUrl := !update }
  if ¬update then s
  else if InvalidArgs host port then s
  else
    { s with
      connectionRequestUrl := s.assembleConnectionRequestUrl isAddressIpV6 (host.getD []) port
      untouched := false
      lastCall := some (host.getD [], port) }

/-! ### The daemon and its port -/

/-- The IP version of the local address. -/
def localIpVersion (isAddressIpV6 : CString → Bool) (s : ConnReqPlugin) : ℕ :=
  if isAddressIpV6 s.localIpAddress then 6 else 4

/-- `open_cwmpd_listening_port`. -/
def openCwmpdListeningPort (isAddressIpV6 : CString → Bool) (s : ConnReqPlugin) : ConnReqPlugin :=
  { s with service := some ⟨s.connRequestPort, s.localIpVersion isAddressIpV6⟩ }

/-- `close_cwmpd_listening_port`. -/
def closeCwmpdListeningPort (s : ConnReqPlugin) : ConnReqPlugin :=
  if s.cwmpdProc then { s with service := none } else s

/-- `start_cwmpd`. -/
def startCwmpd (isAddressIpV6 : CString → Bool) (s : ConnReqPlugin) : ConnReqPlugin :=
  if s.cwmpdStandalone then s.openCwmpdListeningPort isAddressIpV6
  else if s.cwmpdProc then s
  else
    { s with cwmpdProc := true, processes := s.processes + 1 }.openCwmpdListeningPort isAddressIpV6

/-- `cwmpd_proc_stopped`. -/
def cwmpdProcStopped (s : ConnReqPlugin) : ConnReqPlugin :=
  let t := { s with cwmpdProc := false }.closeCwmpdListeningPort
  { t with restartTimers := t.restartTimers + 1 }

/-- An address connection requests can go to. -/
def Usable (host : CString) : Prop := host ≠ [] ∧ host ≠ defaultCrh

instance (host : CString) : Decidable (Usable host) := inferInstanceAs (Decidable (_ ∧ _))

/-- `cwmp_plugin_create_conreq_path`, with the path that is generated, if one is. -/
def cwmpPluginCreateConreqPath (s : ConnReqPlugin) (created : Option CString) : ConnReqPlugin :=
  s.writeConnRequest none created none

/-- `_updateConnectionRequestURL`. -/
def updateConnectionRequestUrl (isAddressIpV6 : CString → Bool) (s : ConnReqPlugin)
    (created : Option CString) : ConnReqPlugin :=
  if ¬s.updateConnRequestUrl then s
  else
    let s := s.updateConnReqUrl isAddressIpV6
    if Usable s.connRequestHost then
      let s :=
        if s.connReqPathCreated then s
        else { s.cwmpPluginCreateConreqPath created with connReqPathCreated := true }
      if ¬s.cwmpdProc then
        if s.initDone then s.startCwmpd isAddressIpV6 else { s with cwmpdStartAvoided := true }
      else s.openCwmpdListeningPort isAddressIpV6
    else s.closeCwmpdListeningPort

/-- `_updateConnectionRequestPath`. -/
def updateConnectionRequestPath (isAddressIpV6 : CString → Bool) (s : ConnReqPlugin) :
    ConnReqPlugin :=
  s.updateConnReqUrl isAddressIpV6

/-- `_updateConnectionRequestPort`. -/
def updateConnectionRequestPort (isAddressIpV6 : CString → Bool) (s : ConnReqPlugin) :
    ConnReqPlugin :=
  (s.updateConnReqUrl isAddressIpV6).openCwmpdListeningPort isAddressIpV6

/-- The handlers of a change of the connection request, as `cwmp_plugin.odl` orders them. -/
def connRequestChanged (isAddressIpV6 : CString → Bool) (s : ConnReqPlugin)
    (created : Option CString) (host path port : Bool) : ConnReqPlugin :=
  let s := if host then s.updateConnectionRequestUrl isAddressIpV6 created else s
  let s := if path then s.updateConnectionRequestPath isAddressIpV6 else s
  if port then s.updateConnectionRequestPort isAddressIpV6 else s

/-! ### The addresses of the interface -/

/-- `getLocalIP`, for a mode and two addresses. -/
def getLocalIp (mode : WanIpMode) (ipv4 ipv6 : CString) : CString :=
  match mode with
  | .ipv4Only => if ipv4 ≠ [] then ipv4 else defaultCrh
  | .ipv6Preferred => if ipv6 ≠ [] then ipv6 else if ipv4 ≠ [] then ipv4 else defaultCrh
  | .ipAny => if ipv4 ≠ [] then ipv4 else if ipv6 ≠ [] then ipv6 else defaultCrh

/-- The address preferred under the current mode among those that are known. -/
def preferred (s : ConnReqPlugin) : CString := getLocalIp s.wanIpMode s.ipv4address s.ipv6address

/-- `updateLocalIP`. -/
def updateLocalIp (s : ConnReqPlugin) : ConnReqPlugin :=
  { s with ipv6Timer := none }.updateConreqHost s.preferred

/-- `ipv6address_changed_cb`. -/
def ipv6addressChangedCb (s : ConnReqPlugin) (newIp : CString) : ConnReqPlugin :=
  let s := { s with ipv6address := newIp }
  match s.wanIpMode with
  | .ipv4Only => s
  | .ipv6Preferred => s.updateLocalIp
  | .ipAny => s.updateLocalIp

/-- `amxp_timer_new` and `amxp_timer_start` of `ipv6_timer`, whatever it points to. -/
def startIpv6Timer (s : ConnReqPlugin) : ConnReqPlugin :=
  { s with
    ipv6Timer := some ⟨(s.waitTime * 1000).toNat, 0⟩
    lostTimers := s.lostTimers ++ s.ipv6Timer.toList }

/-- `ipv4address_changed_cb`. -/
def ipv4addressChangedCb (s : ConnReqPlugin) (newIp : CString) : ConnReqPlugin :=
  let s := { s with ipv4address := newIp, sinceIpv4 := 0 }
  match s.wanIpMode with
  | .ipv4Only => s.updateLocalIp
  | .ipAny => s.updateLocalIp
  | .ipv6Preferred => if s.ipv6address ≠ [] then s.updateLocalIp else s.startIpv6Timer

/-- `cwmp_plugin_netmodel_close_queries`. -/
def cwmpPluginNetmodelCloseQueries (s : ConnReqPlugin) : ConnReqPlugin :=
  { s with ipv6Timer := none, ipv4address := [], ipv6address := [] }

/-- `cwmp_plugin_netmodel_open_queries`. -/
def cwmpPluginNetmodelOpenQueries (s : ConnReqPlugin) (results : QueryResults) : ConnReqPlugin :=
  let s := match results.ipv6 with
    | none => s
    | some ip => s.ipv6addressChangedCb ip
  match results.ipv4 with
  | none => s
  | some ip => s.ipv4addressChangedCb ip

/-- `_writeInterface`. -/
def writeInterface (s : ConnReqPlugin) (intf : CString) (results : QueryResults) : ConnReqPlugin :=
  if intf = [] then s
  else s.cwmpPluginNetmodelCloseQueries.cwmpPluginNetmodelOpenQueries results

/-- The mode `_writePreferredIPVersion` reads. -/
def wanIpModeOf (mode : CString) : WanIpMode :=
  if mode = "IPV4ONLY".toList then .ipv4Only
  else if mode = "IPV6PREFERRED".toList then .ipv6Preferred
  else .ipAny

/-- `_writePreferredIPVersion`. -/
def writePreferredIpVersion (s : ConnReqPlugin) (mode : CString) : ConnReqPlugin :=
  { s with wanIpMode := wanIpModeOf mode }

/-- `deferred_init_timer_cb`, with `cwmp_plugin_netmodel_find_ip`. -/
def deferredInitTimerCb (isAddressIpV6 : CString → Bool) (s : ConnReqPlugin)
    (results : QueryResults) : ConnReqPlugin :=
  let s := { s with initDone := true, deferredInitTimer := false }
  let s := if s.interface = [] then s else s.cwmpPluginNetmodelOpenQueries results
  if s.cwmpdStartAvoided then s.startCwmpd isAddressIpV6 else s

/-! ### The system -/

/-- What can happen. -/
inductive Event where
  /-- somebody writes the host, the path or the port -/
  | write (host path : Option CString) (port : Option UInt16)
  /-- somebody calls `updateConnectionRequestURL` -/
  | updateConnectionRequestUrl (update : Bool) (host : Option CString) (port : UInt16)
  /-- somebody sets the interface -/
  | setInterface (intf : CString)
  /-- somebody sets the preferred version -/
  | setPreferredIpVersion (mode : CString)
  /-- the query for an IPv4 address has another result -/
  | ipv4Changed (newIp : CString)
  /-- the query for an IPv6 address has another result -/
  | ipv6Changed (newIp : CString)
  /-- time goes by, in milliseconds -/
  | elapse (ms : ℕ)
  /-- the timer of the wait expires -/
  | ipv6Timer
  /-- a timer of a wait expires that `ipv6_timer` no longer points to -/
  | lostTimer (n : ℕ)
  /-- the next change is handled -/
  | dispatch (created : Option CString) (results : QueryResults)
  /-- the daemon exits -/
  | cwmpdExit
  /-- a restart timer expires -/
  | restartTimer
  /-- the timer of the deferred initialisation expires -/
  | deferredInit (results : QueryResults)

/-- The timer has waited as long as it was to. -/
def waitDue (t : WaitTimer) : Bool := t.wait ≤ t.elapsed

/-- The timer after some milliseconds have gone by. -/
def waitElapse (ms : ℕ) (t : WaitTimer) : WaitTimer := { t with elapsed := t.elapsed + ms }

/-- The handlers of a change. -/
def handleChange (isAddressIpV6 : CString → Bool) (s : ConnReqPlugin) (created : Option CString)
    (results : QueryResults) : ConnReqChange → ConnReqPlugin
  | .connRequest host path port => s.connRequestChanged isAddressIpV6 created host path port
  | .interface intf => s.writeInterface intf results
  | .preferredIpVersion mode => s.writePreferredIpVersion mode

/-- The state with another queue. -/
def withQueue (s : ConnReqPlugin) (queue : List ConnReqChange) : ConnReqPlugin :=
  { s with queue := queue }

/-- The state after some milliseconds have gone by. -/
def elapse (s : ConnReqPlugin) (ms : ℕ) : ConnReqPlugin :=
  { s with
    ipv6Timer := s.ipv6Timer.map (waitElapse ms)
    lostTimers := s.lostTimers.map (waitElapse ms)
    sinceIpv4 := s.sinceIpv4 + ms }

/-- One event, if it is possible. -/
def step (isAddressIpV6 : CString → Bool) (s : ConnReqPlugin) : Event → Option ConnReqPlugin
  | .write host path port => some (s.writeConnRequest host path port)
  | .updateConnectionRequestUrl update host port =>
    some (s.managementServerUpdateConnectionRequestUrl isAddressIpV6 update host port)
  | .setInterface intf =>
    if intf = s.interface then some s
    else some ({ s with interface := intf }.withQueue (s.queue ++ [ConnReqChange.interface intf]))
  | .setPreferredIpVersion mode =>
    if mode = s.preferredIpVersion then some s
    else
      some ({ s with preferredIpVersion := mode }.withQueue
        (s.queue ++ [ConnReqChange.preferredIpVersion mode]))
  | .ipv4Changed newIp => some (s.ipv4addressChangedCb newIp)
  | .ipv6Changed newIp => some (s.ipv6addressChangedCb newIp)
  | .elapse ms => some (s.elapse ms)
  | .ipv6Timer => if s.ipv6Timer.any waitDue then some s.updateLocalIp else none
  | .lostTimer n =>
    if s.lostTimers[n]?.any waitDue then
      some { s with lostTimers := s.lostTimers.eraseIdx n }.updateLocalIp
    else none
  | .dispatch created results =>
    match s.queue with
    | [] => none
    | change :: rest =>
      some ((s.withQueue rest).handleChange isAddressIpV6 created results change)
  | .cwmpdExit =>
    if 0 < s.processes then some { s with processes := s.processes - 1 }.cwmpdProcStopped else none
  | .restartTimer =>
    if 0 < s.restartTimers then
      some ({ s with restartTimers := s.restartTimers - 1 }.startCwmpd isAddressIpV6)
    else none
  | .deferredInit results =>
    if s.deferredInitTimer then some (s.deferredInitTimerCb isAddressIpV6 results) else none

/-- **The events**, one by one, with what is known when they happen. -/
inductive Stepped (isAddressIpV6 : CString → Bool) (s : ConnReqPlugin) :
    Event → ConnReqPlugin → Prop where
  | write (host path : Option CString) (port : Option UInt16) :
      Stepped isAddressIpV6 s (.write host path port) (s.writeConnRequest host path port)
  | called (update : Bool) (host : Option CString) (port : UInt16) :
      Stepped isAddressIpV6 s (.updateConnectionRequestUrl update host port)
        (s.managementServerUpdateConnectionRequestUrl isAddressIpV6 update host port)
  | sameInterface : Stepped isAddressIpV6 s (.setInterface s.interface) s
  | setInterface {intf : CString} (hne : intf ≠ s.interface) :
      Stepped isAddressIpV6 s (.setInterface intf)
        ({ s with interface := intf }.withQueue (s.queue ++ [ConnReqChange.interface intf]))
  | samePreferred : Stepped isAddressIpV6 s (.setPreferredIpVersion s.preferredIpVersion) s
  | setPreferred {mode : CString} (hne : mode ≠ s.preferredIpVersion) :
      Stepped isAddressIpV6 s (.setPreferredIpVersion mode)
        ({ s with preferredIpVersion := mode }.withQueue
          (s.queue ++ [ConnReqChange.preferredIpVersion mode]))
  | ipv4Changed (newIp : CString) :
      Stepped isAddressIpV6 s (.ipv4Changed newIp) (s.ipv4addressChangedCb newIp)
  | ipv6Changed (newIp : CString) :
      Stepped isAddressIpV6 s (.ipv6Changed newIp) (s.ipv6addressChangedCb newIp)
  | elapsed (ms : ℕ) : Stepped isAddressIpV6 s (.elapse ms) (s.elapse ms)
  | ipv6Timer {timer : WaitTimer} (htimer : s.ipv6Timer = some timer)
      (hdue : timer.wait ≤ timer.elapsed) : Stepped isAddressIpV6 s .ipv6Timer s.updateLocalIp
  | lostTimer {n : ℕ} {timer : WaitTimer} (htimer : s.lostTimers[n]? = some timer)
      (hdue : timer.wait ≤ timer.elapsed) :
      Stepped isAddressIpV6 s (.lostTimer n)
        { s with lostTimers := s.lostTimers.eraseIdx n }.updateLocalIp
  | changed {a b c : Bool} {rest : List ConnReqChange}
      (hqueue : s.queue = .connRequest a b c :: rest) (created : Option CString)
      (results : QueryResults) :
      Stepped isAddressIpV6 s (.dispatch created results)
        ((s.withQueue rest).connRequestChanged isAddressIpV6 created a b c)
  | interfaceChanged {intf : CString} {rest : List ConnReqChange}
      (hqueue : s.queue = .interface intf :: rest) (created : Option CString)
      (results : QueryResults) :
      Stepped isAddressIpV6 s (.dispatch created results)
        ((s.withQueue rest).writeInterface intf results)
  | preferredChanged {mode : CString} {rest : List ConnReqChange}
      (hqueue : s.queue = .preferredIpVersion mode :: rest) (created : Option CString)
      (results : QueryResults) :
      Stepped isAddressIpV6 s (.dispatch created results)
        ((s.withQueue rest).writePreferredIpVersion mode)
  | exited (hrun : 0 < s.processes) :
      Stepped isAddressIpV6 s .cwmpdExit { s with processes := s.processes - 1 }.cwmpdProcStopped
  | restarted (htimer : 0 < s.restartTimers) :
      Stepped isAddressIpV6 s .restartTimer
        ({ s with restartTimers := s.restartTimers - 1 }.startCwmpd isAddressIpV6)
  | deferredInit (htimer : s.deferredInitTimer = true) (results : QueryResults) :
      Stepped isAddressIpV6 s (.deferredInit results) (s.deferredInitTimerCb isAddressIpV6 results)

/-- **One event is one of those.** -/
theorem stepped_of_step {isAddressIpV6 : CString → Bool} {s t : ConnReqPlugin} {e : Event}
    (h : s.step isAddressIpV6 e = some t) : Stepped isAddressIpV6 s e t := by
  rcases e with ⟨host, path, port⟩ | ⟨update, host, port⟩ | intf | mode | newIp | newIp | ms | - |
    n | ⟨created, results⟩ | - | - | results
  case write => exact Option.some.inj h ▸ .write host path port
  case updateConnectionRequestUrl => exact Option.some.inj h ▸ .called update host port
  case ipv4Changed => exact Option.some.inj h ▸ .ipv4Changed newIp
  case ipv6Changed => exact Option.some.inj h ▸ .ipv6Changed newIp
  case elapse => exact Option.some.inj h ▸ .elapsed ms
  case dispatch =>
    rw [step] at h
    rcases hqueue : s.queue with - | ⟨⟨a, b, c⟩ | intf | mode, rest⟩
    · rw [hqueue] at h
      cases h
    · rw [hqueue] at h
      exact Option.some.inj h ▸ .changed hqueue created results
    · rw [hqueue] at h
      exact Option.some.inj h ▸ .interfaceChanged hqueue created results
    · rw [hqueue] at h
      exact Option.some.inj h ▸ .preferredChanged hqueue created results
  all_goals
    rw [step] at h
    split at h
  case setInterface.isTrue hsame =>
    obtain rfl := Option.some.inj h
    exact hsame ▸ .sameInterface
  case setInterface.isFalse hne => exact Option.some.inj h ▸ .setInterface hne
  case setPreferredIpVersion.isTrue hsame =>
    obtain rfl := Option.some.inj h
    exact hsame ▸ .samePreferred
  case setPreferredIpVersion.isFalse hne => exact Option.some.inj h ▸ .setPreferred hne
  case ipv6Timer.isTrue hany =>
    obtain ⟨timer, htimer, hdue⟩ := (Option.any_eq_true _ _).mp hany
    exact Option.some.inj h ▸ .ipv6Timer htimer (of_decide_eq_true hdue)
  case lostTimer.isTrue hany =>
    obtain ⟨timer, htimer, hdue⟩ := (Option.any_eq_true _ _).mp hany
    exact Option.some.inj h ▸ .lostTimer htimer (of_decide_eq_true hdue)
  case cwmpdExit.isTrue hrun => exact Option.some.inj h ▸ .exited hrun
  case restartTimer.isTrue htimer => exact Option.some.inj h ▸ .restarted htimer
  case deferredInit.isTrue htimer => exact Option.some.inj h ▸ .deferredInit htimer results
  all_goals cases h

/-- A change of the connection request is still to be handled. -/
def Pending (s : ConnReqPlugin) : Prop := ∃ h q p, .connRequest h q p ∈ s.queue

/-! ### What follows of an address -/

/-- The state with other values of what only the address functions keep: the mode, the
addresses and the timers of the wait. -/
def withAddresses (s : ConnReqPlugin) (mode : WanIpMode) (ipv4 ipv6 : CString)
    (timer : Option WaitTimer) (lost : List WaitTimer) (since : ℕ) : ConnReqPlugin :=
  { s with
    wanIpMode := mode
    ipv4address := ipv4
    ipv6address := ipv6
    ipv6Timer := timer
    lostTimers := lost
    sinceIpv4 := since }

/-- **A predicate that the address functions keep**: it does not depend on the addresses, and
an update of the host keeps it. -/
structure AddressClosed (I : ConnReqPlugin → Prop) : Prop where
  addresses : ∀ s mode ipv4 ipv6 timer lost since, I s →
    I (s.withAddresses mode ipv4 ipv6 timer lost since)
  host : ∀ s ip, I s → I (s.updateConreqHost ip)

namespace AddressClosed

variable {I : ConnReqPlugin → Prop} (hI : AddressClosed I) {s : ConnReqPlugin}
include hI

theorem updateLocalIp (h : I s) : I s.updateLocalIp :=
  hI.host _ _ (hI.addresses s s.wanIpMode s.ipv4address s.ipv6address none s.lostTimers
    s.sinceIpv4 h)

/-- A timer that is no longer pointed to runs out. -/
theorem lostTimer (h : I s) (n : ℕ) :
    I { s with lostTimers := s.lostTimers.eraseIdx n }.updateLocalIp :=
  hI.updateLocalIp (hI.addresses s s.wanIpMode s.ipv4address s.ipv6address s.ipv6Timer
    (s.lostTimers.eraseIdx n) s.sinceIpv4 h)

theorem ipv6addressChangedCb (h : I s) (newIp : CString) : I (s.ipv6addressChangedCb newIp) := by
  have h' : I { s with ipv6address := newIp } :=
    hI.addresses s s.wanIpMode s.ipv4address newIp s.ipv6Timer s.lostTimers s.sinceIpv4 h
  unfold ConnReqPlugin.ipv6addressChangedCb
  dsimp only
  split
  · exact h'
  · exact hI.updateLocalIp h'
  · exact hI.updateLocalIp h'

theorem ipv4addressChangedCb (h : I s) (newIp : CString) : I (s.ipv4addressChangedCb newIp) := by
  have h' : I { s with ipv4address := newIp, sinceIpv4 := 0 } :=
    hI.addresses s s.wanIpMode newIp s.ipv6address s.ipv6Timer s.lostTimers 0 h
  unfold ConnReqPlugin.ipv4addressChangedCb
  dsimp only
  split
  · exact hI.updateLocalIp h'
  · exact hI.updateLocalIp h'
  · split
    · exact hI.updateLocalIp h'
    · exact hI.addresses _ _ _ _ _ _ _ h'

theorem openQueries (h : I s) (results : QueryResults) :
    I (s.cwmpPluginNetmodelOpenQueries results) := by
  obtain ⟨ipv6, ipv4⟩ := results
  rcases ipv6 with - | a <;> rcases ipv4 with - | b
  · exact h
  · exact hI.ipv4addressChangedCb h b
  · exact hI.ipv6addressChangedCb h a
  · exact hI.ipv4addressChangedCb (hI.ipv6addressChangedCb h a) b

theorem writeInterface (h : I s) (intf : CString) (results : QueryResults) :
    I (s.writeInterface intf results) := by
  unfold ConnReqPlugin.writeInterface
  split
  · exact h
  · exact hI.openQueries (hI.addresses s s.wanIpMode [] [] none s.lostTimers s.sinceIpv4 h) results

theorem writePreferredIpVersion (h : I s) (mode : CString) : I (s.writePreferredIpVersion mode) :=
  hI.addresses s (wanIpModeOf mode) s.ipv4address s.ipv6address s.ipv6Timer s.lostTimers
    s.sinceIpv4 h

end AddressClosed

/-- A transaction that changes something is pending, and one that does not does nothing. -/
theorem writeConnRequest_cases (s : ConnReqPlugin) (host path : Option CString)
    (port : Option UInt16) :
    s.writeConnRequest host path port = s ∨
      ∃ h q p, (h = true ∨ q = true ∨ p = true) ∧
        s.writeConnRequest host path port = { s with
          connRequestHost := host.getD s.connRequestHost
          connRequestPath := path.getD s.connRequestPath
          connRequestPort := port.getD s.connRequestPort
          queue := s.queue ++ [.connRequest h q p]
          untouched := false } := by
  unfold writeConnRequest
  dsimp only
  split
  · next h => exact Or.inr ⟨_, _, _, by simpa using h, rfl⟩
  · exact Or.inl rfl

/-- A change at the end of the queue is pending. -/
theorem pending_append {s : ConnReqPlugin} {queue : List ConnReqChange} {h q p : Bool}
    (hq : s.queue = queue ++ [.connRequest h q p]) : s.Pending :=
  ⟨h, q, p, by rw [hq]; exact List.mem_append_right _ List.mem_cons_self⟩

end ConnReqPlugin

end Tr069
