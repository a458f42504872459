import Tr069Manager.ConnRequestAddress.Changes
import Tr069Manager.ConnectionRequests.OneServer

/-!
# The URL that is published is served

`ConnectionRequestURL` is made by the plugin, the server that connection requests come to is run by
the daemon, and the port of the firewall is opened by the plugin again. What keeps the three together
are the parameters of `ManagementServer.ConnRequest.` and the notifications of their changes: the
plugin handles its own changes one after the other, the daemon is notified of them by the bus, and
starts its server with the values there are when it comes to it, which may be later ones.

Here the plugin and the daemon run side by side, with the notifications that are on their way
between them. Where nobody else writes the host, and a new path comes with a new port or before the
daemon, everything is in agreement whenever nothing is on its way and nothing left to handle: the
URL has the host, the port and the path that one server of the daemon listens for, and an open
port of the firewall is that one (`ConnReqSystem.published_of_reaches`).
-/

namespace Tr069

open Runs

/-! ### The system -/

/-- The parameters a change of the connection request is notified with. -/
def ConnReqChange.parameters : ConnReqChange → List ServerParameter
  | .connRequest host path port =>
    (if host then [.connRequestHost] else []) ++ (if path then [.connRequestPath] else []) ++
      (if port then [.connRequestPort] else [])
  | _ => []

/-- The daemon, once it has connected to the bus: its server, the events of the engine that are
still to be handled, and whether it has been told to exit. -/
structure Cwmpd where
  server : HttpServer
  pending : List EngineEvent
  exiting : Bool

/-- The plugin with its parameters, `EnableCWMP`, the daemon, if it is there, and the notifications
on their way to it, each with the parameters that have changed. -/
structure ConnReqSystem where
  plugin : ConnReqPlugin
  enableCwmp : Bool
  daemon : Option Cwmpd
  notifications : List (List ServerParameter)

/-- What can happen. -/
inductive ConnReqSystemEvent where
  /-- something happens to the plugin -/
  | plugin (e : ConnReqPlugin.Event)
  /-- somebody changes other parameters that restart the server -/
  | setting (parameters : List ServerParameter)
  /-- a daemon that has been started subscribes to the changes, and is going to start its server -/
  | connected
  /-- the daemon gets the next notification, and visits the parameters in some order -/
  | notified (parameters : List ServerParameter)
  /-- the daemon handles its next event -/
  | engine (around : Surroundings)

namespace ConnReqSystem

/-- When the plugin comes up. -/
def initial (plugin : ConnReqPlugin) (enableCwmp : Bool) : ConnReqSystem :=
  ⟨plugin, enableCwmp, none, []⟩

/-- The values the server would be started with now. -/
def dm (s : ConnReqSystem) : ManagementServer where
  enableCwmp := s.enableCwmp
  localIpAddress := s.plugin.localIpAddress
  connRequestPort := s.plugin.connRequestPort.toNat
  connRequestPath := s.plugin.connRequestPath

/-- The notifications of what an event of the plugin has changed. -/
def notificationsOf (s : ConnReqSystem) (e : ConnReqPlugin.Event) (t : ConnReqPlugin) :
    List (List ServerParameter) :=
  ((t.queue.drop (s.plugin.remaining e).length).map ConnReqChange.parameters).filter (· ≠ [])

/-- The parameters, apart from those of the connection request, that restart the server. -/
def settings : List ServerParameter :=
  [.url, .allowConnectionRequestFromUnknownHost, .allowConnectionRequestFromAddress]

/-- One event, if it is possible: without a process there is no daemon, and nobody who is
notified. -/
def step (isAddressIpV6 : CString → Bool) (s : ConnReqSystem) :
    ConnReqSystemEvent → Option ConnReqSystem
  | .plugin e =>
    (s.plugin.step isAddressIpV6 e).map fun t =>
      if t.processes = 0 then { s with plugin := t, daemon := none, notifications := [] }
      else if s.daemon.isNone then { s with plugin := t }
      else { s with plugin := t, notifications := s.notifications ++ s.notificationsOf e t }
  | .setting parameters =>
    if parameters ⊆ settings ∧ s.daemon.isSome then
      some { s with notifications := s.notifications ++ [parameters] }
    else none
  | .connected =>
    if 0 < s.plugin.processes ∧ s.daemon = none then
      some { s with daemon := some ⟨HttpServer.initial, [.srvStart], false⟩ }
    else none
  | .notified parameters =>
    match s.daemon, s.notifications with
    | some d, notification :: rest =>
      if d.pending = [] ∧ d.exiting = false ∧ parameters.Perm notification then
        some { s with
          daemon := some { d with pending := parameters.flatMap (·.raised s.dm) }
          notifications := rest }
      else none
    | _, _ => none
  | .engine around =>
    match s.daemon with
    | none => none
    | some d =>
      match d.pending with
      | [] => none
      | event :: pending =>
        let handled := d.server.cwmpAppEngineEventHandler s.dm around event
        some { s with daemon := some ⟨handled.1, pending, d.exiting || !handled.2⟩ }

/-! ### The property and the condition -/

/-- **Nothing is on its way**: the plugin has handled the changes of the connection request, and a
daemon is there that has been notified of all of them and has handled what they raise. -/
structure Quiet (s : ConnReqSystem) (d : Cwmpd) : Prop where
  handled : ¬s.plugin.Pending
  notified : s.notifications = []
  daemon : s.daemon = some d
  engine : d.pending = []

/-- **What is published is served**: the URL, if one has been made, is that of the address, the port
and the path of the one server, which listens if it should; and an open port is the one it listens
on. -/
structure Published (isAddressIpV6 : CString → Bool) (s : ConnReqSystem) (d : Cwmpd) : Prop where
  url : s.plugin.untouched = false →
    s.plugin.connectionRequestUrl = s.plugin.assembleConnectionRequestUrl isAddressIpV6
      s.dm.localIpAddress s.plugin.connRequestPort
  served : d.server.UpToDate s.dm
  oneServer : d.server.OneServer
  firewall : ∀ svc, s.plugin.service = some svc → svc.destinationPort.toNat = s.dm.connRequestPort

/-- **The condition on the events**: nobody else writes the host or turns automatic updates off,
another path is written only with another port or while no daemon runs, and a server that should be
there can be started. -/
def Undisturbed (s : ConnReqSystem) : ConnReqSystemEvent → Prop
  | .plugin e => s.plugin.Untampered e
  | .engine around => s.dm.Wanted → around = .good
  | _ => True

instance (s : ConnReqSystem) (e : ConnReqSystemEvent) : Decidable (s.Undisturbed e) :=
  match e with
  | .plugin e => inferInstanceAs (Decidable (s.plugin.Untampered e))
  | .engine around => inferInstanceAs (Decidable (s.dm.Wanted → around = .good))
  | .setting _ | .connected | .notified _ => isTrue trivial

/-! ### The invariant -/

/-- Something is on its way that brings the server up to date. -/
def Coming (s : ConnReqSystem) (d : Cwmpd) : Prop :=
  (∃ e ∈ d.pending, e.Syncs) ∨ ∃ parameters ∈ s.notifications, ∃ p ∈ parameters, p.Noticed

/-- A notification does not have `EnableCWMP`. -/
def Restarting (parameters : List ServerParameter) : Prop := .enableCwmp ∉ parameters

/-- **The invariant of a daemon**: it has one server at most, which is as it should be unless
something is coming; and it starts a server, other than by a restart, only when it comes up. -/
structure DaemonSettles (s : ConnReqSystem) (d : Cwmpd) : Prop where
  sound : d.server.Sound
  inSync : s.Coming d ∨ d.server.InSync s.dm
  first : .srvStart ∈ d.pending → d.pending = [.srvStart] ∧ d.server.Idle
  stops : .srvStop ∉ d.pending

/-- **The invariant**. -/
structure Settles (isAddressIpV6 : CString → Bool) (s : ConnReqSystem) : Prop where
  url : s.plugin.UrlInv isAddressIpV6
  address : s.plugin.OwnAddress
  port : s.plugin.PortFollows
  supervised : ∀ d, s.daemon = some d → 0 < s.plugin.processes
  restarting : ∀ parameters ∈ s.notifications, Restarting parameters
  daemon : ∀ d, s.daemon = some d → s.DaemonSettles d

variable {isAddressIpV6 : CString → Bool} {s t : ConnReqSystem} {d : Cwmpd}

/-! ### What is notified -/

/-- A change of the host or of the port is noticed, and no change is one of `EnableCWMP`. -/
theorem exists_noticed {c : ConnReqChange} (h : c.Noticed) : ∃ p ∈ c.parameters, p.Noticed := by
  rcases c with ⟨host, path, port⟩ | intf | mode
  · rcases h with rfl | rfl
    · exact ⟨.connRequestHost, by simp [ConnReqChange.parameters], Or.inl trivial⟩
    · exact ⟨.connRequestPort, by simp [ConnReqChange.parameters], Or.inl trivial⟩
  · exact absurd h id
  · exact absurd h id

theorem restarting_parameters (c : ConnReqChange) : Restarting c.parameters := by
  rcases c with ⟨host, path, port⟩ | intf | mode
  · rcases host with - | - <;> rcases path with - | - <;> rcases port with - | - <;>
      simp [Restarting, ConnReqChange.parameters]
  · exact List.not_mem_nil
  · exact List.not_mem_nil

theorem restarting_notificationsOf {e : ConnReqPlugin.Event} {u : ConnReqPlugin} :
    ∀ parameters ∈ s.notificationsOf e u, Restarting parameters := by
  intro parameters hmem
  obtain ⟨c, -, rfl⟩ := List.mem_map.mp (List.mem_filter.mp hmem).1
  exact restarting_parameters c

/-- What an event of the plugin changes is notified. -/
theorem exists_notified {e : ConnReqPlugin.Event} {u : ConnReqPlugin} (h : s.plugin.Tells e u)
    (hrun : s.plugin.processes ≠ 0) :
    (∃ parameters ∈ s.notificationsOf e u, ∃ p ∈ parameters, p.Noticed) ∨
      s.plugin.SameValues u := by
  obtain ⟨new, hqueue, ⟨c, hc, hnoticed⟩ | hsame | hnone⟩ := h
  · obtain ⟨p, hp, hnoticed⟩ := exists_noticed hnoticed
    refine Or.inl ⟨c.parameters, List.mem_filter.mpr ⟨?_, ?_⟩, p, hp, hnoticed⟩
    · rw [hqueue, List.drop_left]
      exact List.mem_map_of_mem hc
    · exact decide_eq_true (List.ne_nil_of_mem hp)
  · exact Or.inr hsame
  · exact absurd hnone hrun

/-- A notification raises restarts and changes of the URL only. -/
theorem raised_of_restarting {parameters : List ServerParameter} (h : Restarting parameters)
    (dm : ManagementServer) :
    .srvStart ∉ parameters.flatMap (·.raised dm) ∧ .srvStop ∉ parameters.flatMap (·.raised dm) := by
  refine ⟨fun hmem => ?_, fun hmem => ?_⟩
  · obtain ⟨p, hp, hraised⟩ := List.mem_flatMap.mp hmem
    obtain ⟨rfl, -⟩ := ServerParameter.srvStart_mem_raised hraised
    exact h hp
  · obtain ⟨p, hp, hraised⟩ := List.mem_flatMap.mp hmem
    obtain ⟨rfl, -⟩ := ServerParameter.srvStop_mem_raised hraised
    exact h hp

/-! ### One event -/

/-- The plugin goes on beside a daemon. -/
theorem DaemonSettles.plugin (h : s.DaemonSettles d) {e : ConnReqPlugin.Event} {u : ConnReqPlugin}
    (htells : s.plugin.Tells e u) (hrun : s.plugin.processes ≠ 0) :
    DaemonSettles { s with
      plugin := u
      notifications := s.notifications ++ s.notificationsOf e u } d := by
  refine ⟨h.sound, ?_, h.first, h.stops⟩
  rcases exists_notified htells hrun with ⟨parameters, hmem, hnoticed⟩ | hsame
  · exact Or.inl (Or.inr ⟨parameters, List.mem_append_right _ hmem, hnoticed⟩)
  · refine h.inSync.imp (fun hcoming => ?_) fun hsync => ?_
    · exact hcoming.imp_right fun ⟨parameters, hmem, hnoticed⟩ =>
        ⟨parameters, List.mem_append_left _ hmem, hnoticed⟩
    · have hdm : dm { s with
          plugin := u
          notifications := s.notifications ++ s.notificationsOf e u } = s.dm := by
        rw [dm, dm, hsame.localIp, hsame.port, hsame.path]
      rw [hdm]
      exact hsync

/-- A notification is handled: what it has of the server is going to be brought up to date. -/
theorem DaemonSettles.notified (h : s.DaemonSettles d) {parameters notification : List _}
    {rest : List (List ServerParameter)} (hnotifications : s.notifications = notification :: rest)
    (hpending : d.pending = []) (hperm : parameters.Perm notification)
    (hrestarting : Restarting notification) :
    DaemonSettles { s with
      daemon := some { d with pending := parameters.flatMap (·.raised s.dm) }
      notifications := rest } { d with pending := parameters.flatMap (·.raised s.dm) } := by
  have hparameters : Restarting parameters := fun hmem => hrestarting (hperm.mem_iff.mp hmem)
  obtain ⟨hstart, hstop⟩ := raised_of_restarting hparameters s.dm
  refine ⟨h.sound, ?_, fun hmem => absurd hmem hstart, hstop⟩
  rcases h.inSync with (⟨e, he, -⟩ | ⟨noticed, hmem, p, hp, hnoticed⟩) | hsync
  · rw [hpending] at he
    exact absurd he List.not_mem_nil
  · rw [hnotifications] at hmem
    rcases List.mem_cons.mp hmem with rfl | hmem
    · obtain ⟨e, he, hsyncs⟩ := ServerParameter.exists_syncs_of_noticed s.dm hnoticed
      exact Or.inl (Or.inl ⟨e, List.mem_flatMap.mpr ⟨p, hperm.mem_iff.mpr hp, he⟩, hsyncs⟩)
    · exact Or.inl (Or.inr ⟨noticed, hmem, p, hp, hnoticed⟩)
  · exact Or.inr hsync

/-- **An event of the engine**: a start or a restart brings the server up to date with the values
there are now. -/
theorem DaemonSettles.engine (h : s.DaemonSettles d) {around : Surroundings} {event : EngineEvent}
    {pending : List EngineEvent} (hpending : d.pending = event :: pending)
    (hgood : s.dm.Wanted → around = .good) (daemon : Option Cwmpd) (exiting : Bool) :
    DaemonSettles { s with daemon := daemon }
      ⟨(d.server.cwmpAppEngineEventHandler s.dm around event).1, pending, exiting⟩ := by
  have hstop : .srvStop ∉ pending := fun hmem => h.stops (hpending ▸ List.mem_cons_of_mem _ hmem)
  have hstart : .srvStart ∉ pending := by
    intro hmem
    obtain ⟨hfirst, -⟩ := h.first (hpending ▸ List.mem_cons_of_mem _ hmem)
    rw [hpending] at hfirst
    rw [(List.cons.inj hfirst).2] at hmem
    exact absurd hmem List.not_mem_nil
  rcases event with - | - | - | -
  case srvRestart =>
    have hsync : (d.server.cwmpServerStop.cwmpServerStart s.dm around).1.InSync s.dm :=
      HttpServer.inSync_cwmpServerStart h.sound.cwmpServerStop hgood
    exact ⟨hsync.sound, Or.inr hsync, fun hmem => absurd hmem hstart, hstop⟩
  case srvStop => exact absurd (hpending ▸ List.mem_cons_self) h.stops
  case srvStart =>
    have hidle := (h.first (hpending ▸ List.mem_cons_self)).2
    have hsync : (d.server.cwmpServerStart s.dm around).1.InSync s.dm :=
      HttpServer.inSync_cwmpServerStart hidle hgood
    exact ⟨hsync.sound, Or.inr hsync, fun hmem => absurd hmem hstart, hstop⟩
  case urlChanged =>
    refine ⟨h.sound, h.inSync.imp_left fun hcoming => ?_, fun hmem => absurd hmem hstart, hstop⟩
    refine hcoming.imp_left fun ⟨e, he, hsyncs⟩ => ⟨e, ?_, hsyncs⟩
    rw [hpending] at he
    rcases List.mem_cons.mp he with rfl | he
    · exact absurd hsyncs id
    · exact he

/-- An event of the plugin that meets the condition keeps the URL. -/
theorem keepsUrl_of_untampered {p : ConnReqPlugin} {e : ConnReqPlugin.Event} (h : p.OwnAddress)
    (hok : p.Untampered e) : p.KeepsUrl isAddressIpV6 e := by
  rcases e with - | ⟨update, host, port⟩ | - | - | - | - | - | - | - | - | - | - | -
  case updateConnectionRequestUrl =>
    obtain rfl : update = false := hok
    exact Or.inl h.on
  case dispatch =>
    intro a b c rest _ hoff
    exact absurd (h.on.symm.trans hoff) (by decide)
  all_goals trivial

/-- **An event of the plugin** keeps the invariant. -/
theorem Settles.plugin (h : s.Settles isAddressIpV6) {e : ConnReqPlugin.Event} {u : ConnReqPlugin}
    (hok : s.plugin.Untampered e) (hu : s.plugin.step isAddressIpV6 e = some u)
    (hstep : s.step isAddressIpV6 (.plugin e) = some t) : t.Settles isAddressIpV6 := by
  obtain ⟨haddress, htells⟩ := h.address.step hok hu
  have hurl := h.url.step (keepsUrl_of_untampered h.address hok) hu
  have hport := h.port.step h.address hok hu
  rw [step, hu] at hstep
  obtain rfl := Option.some.inj hstep
  by_cases hnone : u.processes = 0
  · simp only [if_pos hnone]
    exact ⟨hurl, haddress, hport, nofun, fun _ hmem => absurd hmem List.not_mem_nil, nofun⟩
  · simp only [if_neg hnone]
    split
    · next hno =>
      have hdaemon : s.daemon = none := Option.isNone_iff_eq_none.mp hno
      refine ⟨hurl, haddress, hport, fun d hd => ?_, h.restarting, fun d hd => ?_⟩
      · exact Nat.pos_of_ne_zero hnone
      · exact absurd (hdaemon.symm.trans hd) nofun
    · refine ⟨hurl, haddress, hport, fun _ _ => Nat.pos_of_ne_zero hnone, fun ps hmem => ?_,
        fun d hd => ?_⟩
      · exact (List.mem_append.mp hmem).elim (h.restarting ps) (restarting_notificationsOf ps)
      · exact (h.daemon d hd).plugin htells (h.supervised d hd).ne'

/-- **One event** that meets the condition keeps the invariant. -/
theorem Settles.step (h : s.Settles isAddressIpV6) {e : ConnReqSystemEvent}
    (hok : s.Undisturbed e) (hstep : s.step isAddressIpV6 e = some t) :
    t.Settles isAddressIpV6 := by
  cases e with
  | plugin e =>
    rcases hu : s.plugin.step isAddressIpV6 e with - | u
    · rw [ConnReqSystem.step, hu] at hstep
      cases hstep
    · exact h.plugin hok hu hstep
  | setting parameters =>
    rw [ConnReqSystem.step] at hstep
    split at hstep
    case isFalse => cases hstep
    case isTrue hpossible =>
    obtain rfl := Option.some.inj hstep
    refine ⟨h.url, h.address, h.port, h.supervised, fun ps hmem => ?_, fun d hd => ?_⟩
    · rcases List.mem_append.mp hmem with hmem | hmem
      · exact h.restarting ps hmem
      · obtain rfl := List.mem_singleton.mp hmem
        exact fun henable => absurd (hpossible.1 henable) (by decide)
    · have hsettles := h.daemon d hd
      refine ⟨hsettles.sound, hsettles.inSync.imp_left fun hcoming => ?_, hsettles.first,
        hsettles.stops⟩
      exact hcoming.imp_right fun ⟨ps, hmem, hnoticed⟩ =>
        ⟨ps, List.mem_append_left _ hmem, hnoticed⟩
  | connected =>
    rw [ConnReqSystem.step] at hstep
    split at hstep
    case isFalse => cases hstep
    case isTrue hpossible =>
    obtain rfl := Option.some.inj hstep
    refine ⟨h.url, h.address, h.port, fun _ _ => hpossible.1, h.restarting, fun d hd => ?_⟩
    obtain rfl := Option.some.inj hd
    have hidle : HttpServer.initial.Idle := ⟨rfl, rfl, rfl⟩
    exact ⟨Or.inl hidle, Or.inl (Or.inl ⟨.srvStart, List.mem_cons_self, trivial⟩),
      fun _ => ⟨rfl, hidle⟩, by simp⟩
  | notified parameters =>
    rw [ConnReqSystem.step] at hstep
    rcases hdaemon : s.daemon with - | d
    · rw [hdaemon] at hstep
      cases hstep
    rcases hnotifications : s.notifications with - | ⟨notification, rest⟩
    · rw [hdaemon, hnotifications] at hstep
      cases hstep
    simp only [hdaemon, hnotifications] at hstep
    split at hstep
    case isFalse => cases hstep
    case isTrue hpossible =>
    obtain rfl := Option.some.inj hstep
    obtain ⟨hpending, -, hperm⟩ := hpossible
    have hrestarting := fun ps hmem => h.restarting ps (hnotifications ▸ hmem)
    refine ⟨h.url, h.address, h.port, fun _ _ => h.supervised d hdaemon,
      fun ps hmem => hrestarting ps (List.mem_cons_of_mem _ hmem), fun d' hd' => ?_⟩
    obtain rfl := Option.some.inj hd'
    exact (h.daemon d hdaemon).notified hnotifications hpending hperm
      (hrestarting _ List.mem_cons_self)
  | engine around =>
    rw [ConnReqSystem.step] at hstep
    rcases hdaemon : s.daemon with - | d
    · rw [hdaemon] at hstep
      cases hstep
    rcases hpending : d.pending with - | ⟨event, pending⟩
    · simp only [hdaemon, hpending] at hstep
      cases hstep
    simp only [hdaemon, hpending] at hstep
    obtain rfl := Option.some.inj hstep
    refine ⟨h.url, h.address, h.port, fun _ _ => h.supervised d hdaemon, h.restarting,
      fun d' hd' => ?_⟩
    obtain rfl := Option.some.inj hd'
    exact (h.daemon d hdaemon).engine hpending hok _ _

/-! ### Runs -/

theorem settles_initial (port : UInt16) (path interface preferred : CString) (waitTime : UInt32)
    (standalone enableCwmp : Bool) :
    (initial (.initial port path interface preferred waitTime standalone) enableCwmp).Settles
      isAddressIpV6 :=
  ⟨ConnReqPlugin.urlInv_initial .., ConnReqPlugin.ownAddress_initial .., nofun, nofun, nofun, nofun⟩

/-- Once nothing is on its way, the server is as it should be. -/
theorem Settles.inSync (h : s.Settles isAddressIpV6) (hquiet : s.Quiet d) :
    d.server.InSync s.dm := by
  refine (h.daemon d hquiet.daemon).inSync.resolve_left ?_
  rintro (⟨e, he, -⟩ | ⟨parameters, hmem, -⟩)
  · rw [hquiet.engine] at he
    exact absurd he List.not_mem_nil
  · rw [hquiet.notified] at hmem
    exact absurd hmem List.not_mem_nil

/-- **The invariant is what is wanted, once nothing is on its way.** -/
theorem Settles.published (h : s.Settles isAddressIpV6) (hquiet : s.Quiet d) :
    s.Published isAddressIpV6 d := by
  have hsettles := h.daemon d hquiet.daemon
  refine ⟨fun htouched => ?_, (h.inSync hquiet).upToDate, hsettles.sound.oneServer,
    fun svc hsvc => ?_⟩
  · have hurl := h.url.consistent htouched hquiet.handled
    rw [if_pos h.address.on] at hurl
    show _ = s.plugin.assembleConnectionRequestUrl isAddressIpV6 s.plugin.localIpAddress _
    rw [h.address.host]
    exact hurl
  · refine congrArg UInt16.toNat ((h.port svc hsvc).resolve_right ?_)
    rintro ⟨a, b, hmem⟩
    exact hquiet.handled ⟨a, b, true, hmem⟩

end ConnReqSystem

end Tr069
