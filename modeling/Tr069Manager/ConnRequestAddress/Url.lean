import Tr069Manager.ConnRequestAddress.Plugin

/-!
# The URL for connection requests

`ConnectionRequestURL` is to be made of the host, the port and the path – of the
current host and port as long as it is updated automatically, of those of the last
call that was accepted while it is not. It is made when a change of one of the three
is handled, and by a call that is accepted.

What keeps it from being so is that the flag is written before the arguments of a call
are looked at, that nothing is made when the flag is set again, and that a change of
the path is handled while the flag is off. Without these, the URL is what it should be
in every state in which no change is pending (`Tr069.ConnReqPlugin.urlConsistent_of_reaches`).
-/

namespace Tr069

open Runs

namespace ConnReqPlugin

variable {isAddressIpV6 : CString → Bool} {s t : ConnReqPlugin} {e : Event}

/-! ### The property and the condition -/

/-- The URL is made of a host and a port, and of the current path. -/
def UrlOf (isAddressIpV6 : CString → Bool) (s : ConnReqPlugin) (host : CString) (port : UInt16) :
    Prop :=
  s.connectionRequestUrl = s.assembleConnectionRequestUrl isAddressIpV6 host port

/-- The URL is that of the last call that was accepted. -/
def UrlOfLastCall (isAddressIpV6 : CString → Bool) (s : ConnReqPlugin) : Prop :=
  ∃ host port, s.lastCall = some (host, port) ∧ s.UrlOf isAddressIpV6 host port

/-- **The URL is consistent**: once there has been a change and all changes have been handled,
it is that of the current host and port, or of the last call while updates are off. -/
def UrlConsistent (isAddressIpV6 : CString → Bool) (s : ConnReqPlugin) : Prop :=
  s.untouched = false → ¬s.Pending →
    if s.updateConnRequestUrl then s.UrlOf isAddressIpV6 s.connRequestHost s.connRequestPort
    else s.UrlOfLastCall isAddressIpV6

/-- A call that is refused leaves everything as it was. -/
def RefusalsHarmless (isAddressIpV6 : CString → Bool) (s : ConnReqPlugin) : Event → Prop
  | .updateConnectionRequestUrl update host port =>
    update = true → InvalidArgs host port →
      s.managementServerUpdateConnectionRequestUrl isAddressIpV6 update host port = s
  | _ => True

/-- **The condition on the events**: a call is refused only while updates are off anyway; they
are turned on again only with the URL as it would be made, unless it will be made for a
change that is pending or none has been made yet; and while they are off, the last change
that is pending is handled only with the URL as the last call would make it. -/
def KeepsUrl (isAddressIpV6 : CString → Bool) (s : ConnReqPlugin) : Event → Prop
  | .updateConnectionRequestUrl update host port =>
    if update then InvalidArgs host port → s.updateConnRequestUrl = false
    else s.updateConnRequestUrl = true ∨ s.untouched = true ∨ s.Pending ∨
      s.UrlOf isAddressIpV6 s.connRequestHost s.connRequestPort
  | .dispatch _ _ =>
    ∀ h q p rest, s.queue = .connRequest h q p :: rest → s.updateConnRequestUrl = false →
      (∃ h q p, .connRequest h q p ∈ rest) ∨ s.UrlOfLastCall isAddressIpV6
  | _ => True

/-! ### The invariant -/

/-- A change that is pending is a change of something, and has been made. -/
def Queued (s : ConnReqPlugin) : Prop :=
  (∀ h q p, .connRequest h q p ∈ s.queue → h = true ∨ q = true ∨ p = true) ∧
    (s.Pending → s.untouched = false)

/-- **The invariant**: the URL is consistent, and the queue is what it is to be. -/
structure UrlInv (isAddressIpV6 : CString → Bool) (s : ConnReqPlugin) : Prop where
  consistent : s.UrlConsistent isAddressIpV6
  queued : s.Queued

namespace UrlInv

/-- A transaction: nothing changes, or the change is pending. -/
theorem writeConnRequest (h : s.UrlInv isAddressIpV6) (host path : Option CString)
    (port : Option UInt16) : (s.writeConnRequest host path port).UrlInv isAddressIpV6 := by
  rcases s.writeConnRequest_cases host path port with hsame | ⟨a, b, c, hchange, heq⟩
  · rw [hsame]
    exact h
  · rw [heq]
    refine ⟨fun _ hnone => absurd (pending_append rfl) hnone, fun a' b' c' hmem => ?_, fun _ => rfl⟩
    rcases List.mem_append.mp hmem with hold | hnew
    · exact h.queued.1 a' b' c' hold
    · obtain ⟨rfl, rfl, rfl⟩ := ConnReqChange.connRequest.inj (List.mem_singleton.mp hnew)
      exact hchange

theorem addressClosed : AddressClosed (UrlInv isAddressIpV6) where
  addresses _ _ _ _ _ _ _ h := ⟨h.consistent, h.queued⟩
  host s ip h := by
    have h' : { s with localIpAddress := ip }.UrlInv isAddressIpV6 := ⟨h.consistent, h.queued⟩
    unfold updateConreqHost
    dsimp only
    split
    · exact h'.writeConnRequest _ _ _
    · exact h'

/-- The port and the process play no part in the URL. -/
theorem startCwmpd (h : s.UrlInv isAddressIpV6) :
    (s.startCwmpd isAddressIpV6).UrlInv isAddressIpV6 := by
  unfold ConnReqPlugin.startCwmpd
  split
  · exact ⟨h.consistent, h.queued⟩
  · split
    · exact h
    · exact ⟨h.consistent, h.queued⟩

theorem deferredInitTimerCb (h : s.UrlInv isAddressIpV6) (results : QueryResults) :
    (s.deferredInitTimerCb isAddressIpV6 results).UrlInv isAddressIpV6 := by
  have h' : { s with initDone := true, deferredInitTimer := false }.UrlInv isAddressIpV6 :=
    ⟨h.consistent, h.queued⟩
  unfold ConnReqPlugin.deferredInitTimerCb
  dsimp only
  by_cases hintf : s.interface = []
  · rw [if_pos hintf]
    split
    · exact h'.startCwmpd
    · exact h'
  · rw [if_neg hintf]
    split
    · exact (addressClosed.openQueries h' results).startCwmpd
    · exact addressClosed.openQueries h' results

end UrlInv

/-! ### A change is handled -/

/-- The URL is automatically that of the current host and port, or will be. -/
structure Current (isAddressIpV6 : CString → Bool) (s : ConnReqPlugin) : Prop where
  on : s.updateConnRequestUrl = true
  url : s.Pending ∨ s.UrlOf isAddressIpV6 s.connRequestHost s.connRequestPort
  queued : s.Queued

namespace Current

theorem urlInv (h : s.Current isAddressIpV6) : s.UrlInv isAddressIpV6 := by
  refine ⟨fun _ hnone => ?_, h.queued⟩
  rw [if_pos h.on]
  exact h.url.resolve_left hnone

/-- What `update_conn_req_url` is for. -/
theorem updateConnReqUrl (hq : s.Queued) (hon : s.updateConnRequestUrl = true) :
    (s.updateConnReqUrl isAddressIpV6).Current isAddressIpV6 := by
  rw [ConnReqPlugin.updateConnReqUrl, if_pos hon]
  exact ⟨hon, Or.inr rfl, hq⟩

theorem openPort (h : s.Current isAddressIpV6) :
    (s.openCwmpdListeningPort isAddressIpV6).Current isAddressIpV6 := ⟨h.on, h.url, h.queued⟩

theorem closePort (h : s.Current isAddressIpV6) :
    s.closeCwmpdListeningPort.Current isAddressIpV6 := by
  unfold closeCwmpdListeningPort
  split
  · exact ⟨h.on, h.url, h.queued⟩
  · exact h

theorem startCwmpd (h : s.Current isAddressIpV6) :
    (s.startCwmpd isAddressIpV6).Current isAddressIpV6 := by
  unfold ConnReqPlugin.startCwmpd
  split
  · exact h.openPort
  · split
    · exact h
    · exact ⟨h.on, h.url, h.queued⟩

/-- The path is generated: then a change of the path is pending. -/
theorem createPath (h : s.Current isAddressIpV6) (created : Option CString) :
    { s.cwmpPluginCreateConreqPath created with connReqPathCreated := true }.Current
      isAddressIpV6 := by
  have hinv := h.urlInv.writeConnRequest none created none
  unfold cwmpPluginCreateConreqPath
  rcases s.writeConnRequest_cases none created none with hsame | ⟨a, b, c, -, heq⟩
  · rw [hsame]
    exact ⟨h.on, h.url, h.queued⟩
  · rw [heq] at hinv ⊢
    exact ⟨h.on, Or.inl (pending_append rfl), hinv.queued⟩

theorem updateConnectionRequestUrl (hq : s.Queued) (hon : s.updateConnRequestUrl = true)
    (created : Option CString) :
    (s.updateConnectionRequestUrl isAddressIpV6 created).Current isAddressIpV6 := by
  have hurl := @updateConnReqUrl isAddressIpV6 s hq hon
  unfold ConnReqPlugin.updateConnectionRequestUrl
  rw [if_neg (not_not_intro hon)]
  dsimp only
  generalize s.updateConnReqUrl isAddressIpV6 = u at hurl ⊢
  split
  · have hpath : (if u.connReqPathCreated then u
        else { u.cwmpPluginCreateConreqPath created with connReqPathCreated := true }).Current
          isAddressIpV6 := by
      split
      · exact hurl
      · exact hurl.createPath created
    generalize (if u.connReqPathCreated then u
      else { u.cwmpPluginCreateConreqPath created with connReqPathCreated := true }) = v at hpath ⊢
    split
    · split
      · exact hpath.startCwmpd
      · exact ⟨hpath.on, hpath.url, hpath.queued⟩
    · exact hpath.openPort
  · exact hurl.closePort

end Current

/-- While updates are off, the handlers only open the port. -/
theorem connRequestChanged_of_off (hoff : s.updateConnRequestUrl = false)
    (created : Option CString) (a b c : Bool) :
    s.connRequestChanged isAddressIpV6 created a b c =
      if c then s.openCwmpdListeningPort isAddressIpV6 else s := by
  have hupdate : s.updateConnReqUrl isAddressIpV6 = s := by
    rw [updateConnReqUrl, hoff]
    rfl
  have hhost : s.updateConnectionRequestUrl isAddressIpV6 created = s := by
    rw [updateConnectionRequestUrl, hoff]
    rfl
  unfold connRequestChanged updateConnectionRequestPath updateConnectionRequestPort
  simp only [hhost, hupdate, ite_self]

theorem urlInv_connRequestChanged_of_off (hoff : s.updateConnRequestUrl = false)
    (h : s.UrlInv isAddressIpV6) (created : Option CString) (a b c : Bool) :
    (s.connRequestChanged isAddressIpV6 created a b c).UrlInv isAddressIpV6 := by
  rw [connRequestChanged_of_off hoff]
  split
  · exact ⟨h.consistent, h.queued⟩
  · exact h

/-- While they are on, they make the URL. -/
theorem current_connRequestChanged (hq : s.Queued) (hon : s.updateConnRequestUrl = true)
    (created : Option CString) {a b c : Bool} (hsome : a = true ∨ b = true ∨ c = true) :
    (s.connRequestChanged isAddressIpV6 created a b c).Current isAddressIpV6 := by
  have hagain : ∀ u : ConnReqPlugin, u.Current isAddressIpV6 →
      (u.updateConnReqUrl isAddressIpV6).Current isAddressIpV6 :=
    fun u hu => Current.updateConnReqUrl hu.queued hu.on
  have hfirst := @Current.updateConnReqUrl isAddressIpV6 s hq hon
  have hhost := @Current.updateConnectionRequestUrl isAddressIpV6 s hq hon created
  unfold connRequestChanged updateConnectionRequestPath updateConnectionRequestPort
  rcases a with - | - <;> rcases b with - | - <;> rcases c with - | -
  · simp at hsome
  · exact hfirst.openPort
  · exact hfirst
  · exact (hagain _ hfirst).openPort
  · exact hhost
  · exact (hagain _ hhost).openPort
  · exact hagain _ hhost
  · exact (hagain _ (hagain _ hhost)).openPort

/-- A change of the connection request is handled. -/
theorem UrlInv.connRequestChanged (h : s.UrlInv isAddressIpV6) {a b c : Bool}
    {rest : List ConnReqChange} (hqueue : s.queue = .connRequest a b c :: rest)
    (hcond : s.updateConnRequestUrl = false →
      (∃ h q p, .connRequest h q p ∈ rest) ∨ s.UrlOfLastCall isAddressIpV6)
    (created : Option CString) :
    ((s.withQueue rest).connRequestChanged isAddressIpV6 created a b c).UrlInv isAddressIpV6 := by
  have hpending : s.Pending := ⟨a, b, c, by rw [hqueue]; exact List.mem_cons_self⟩
  have hq : (s.withQueue rest).Queued := by
    refine ⟨fun a' b' c' hmem => ?_, fun _ => h.queued.2 hpending⟩
    exact h.queued.1 a' b' c' (by rw [hqueue]; exact List.mem_cons_of_mem _ hmem)
  by_cases hflag : s.updateConnRequestUrl = true
  · refine (current_connRequestChanged hq hflag created ?_).urlInv
    exact h.queued.1 a b c (by rw [hqueue]; exact List.mem_cons_self)
  · have hoff : (s.withQueue rest).updateConnRequestUrl = false := Bool.eq_false_iff.mpr hflag
    refine urlInv_connRequestChanged_of_off hoff ⟨fun _ hnone => ?_, hq⟩ created a b c
    have hlast : s.UrlOfLastCall isAddressIpV6 := (hcond hoff).resolve_left hnone
    rw [if_neg (Bool.eq_false_iff.mp hoff)]
    exact hlast

/-- Another change is queued, or taken from the queue. -/
theorem UrlInv.of_queue (h : s.UrlInv isAddressIpV6) {queue : List ConnReqChange}
    (hqueue : ∀ a b c, .connRequest a b c ∈ queue ↔ .connRequest a b c ∈ s.queue) :
    (s.withQueue queue).UrlInv isAddressIpV6 := by
  have hpending : (s.withQueue queue).Pending ↔ s.Pending :=
    exists_congr fun a => exists_congr fun b => exists_congr fun c => hqueue a b c
  exact ⟨fun htouched hnone => h.consistent htouched fun hp => hnone (hpending.mpr hp),
    fun a b c hmem => h.queued.1 a b c ((hqueue a b c).mp hmem),
    fun hp => h.queued.2 (hpending.mp hp)⟩

/-! ### Calls -/

/-- A call that is refused while updates are off changes nothing. -/
theorem refused_of_off {host : Option CString} {port : UInt16} (hargs : InvalidArgs host port)
    (hoff : s.updateConnRequestUrl = false) :
    s.managementServerUpdateConnectionRequestUrl isAddressIpV6 true host port = s := by
  unfold managementServerUpdateConnectionRequestUrl
  simp only [not_true_eq_false, if_false, if_pos hargs, Bool.not_true, ← hoff]

/-- A call that is accepted makes the URL. -/
theorem UrlInv.accepted (h : s.UrlInv isAddressIpV6) {host : Option CString} {port : UInt16}
    (hargs : ¬InvalidArgs host port) :
    (s.managementServerUpdateConnectionRequestUrl isAddressIpV6 true host port).UrlInv
      isAddressIpV6 := by
  unfold managementServerUpdateConnectionRequestUrl
  simp only [not_true_eq_false, if_false, if_neg hargs, Bool.not_true]
  exact ⟨fun _ _ => ⟨_, _, rfl, rfl⟩, h.queued.1, fun _ => rfl⟩

/-- Updates are turned on again. -/
theorem UrlInv.turnedOn (h : s.UrlInv isAddressIpV6) (host : Option CString) (port : UInt16)
    (hcond : s.updateConnRequestUrl = true ∨ s.untouched = true ∨ s.Pending ∨
      s.UrlOf isAddressIpV6 s.connRequestHost s.connRequestPort) :
    (s.managementServerUpdateConnectionRequestUrl isAddressIpV6 false host port).UrlInv
      isAddressIpV6 := by
  refine ⟨fun htouched hnone => ?_, h.queued⟩
  have hurl : s.UrlOf isAddressIpV6 s.connRequestHost s.connRequestPort := by
    rcases hcond with hon | hun | hpending | hurl
    · have hcons := h.consistent htouched hnone
      rw [if_pos hon] at hcons
      exact hcons
    · exact absurd (hun.symm.trans htouched) (by decide)
    · exact absurd hpending hnone
    · exact hurl
  exact hurl

/-! ### Runs -/

theorem urlInv_initial (port : UInt16) (path interface preferred : CString) (waitTime : UInt32)
    (standalone : Bool) :
    (initial port path interface preferred waitTime standalone).UrlInv isAddressIpV6 := by
  have hnone : ¬(initial port path interface preferred waitTime standalone).Pending := by
    rintro ⟨h, q, p, hmem⟩
    cases hmem
  exact ⟨nofun, nofun, fun hp => absurd hp hnone⟩

/-- **One event** that meets the condition keeps the invariant. -/
theorem UrlInv.step (h : s.UrlInv isAddressIpV6) (hcond : s.KeepsUrl isAddressIpV6 e)
    (hstep : s.step isAddressIpV6 e = some t) : t.UrlInv isAddressIpV6 := by
  rcases stepped_of_step hstep
  case write => exact h.writeConnRequest _ _ _
  case called update host port =>
    rcases update with - | -
    · exact h.turnedOn host port hcond
    · by_cases hargs : InvalidArgs host port
      · rw [refused_of_off hargs (hcond hargs)]
        exact h
      · exact h.accepted hargs
  case sameInterface => exact h
  case setInterface intf _ =>
    have h' : { s with interface := intf }.UrlInv isAddressIpV6 := ⟨h.consistent, h.queued⟩
    exact h'.of_queue fun a b c => by simp
  case samePreferred => exact h
  case setPreferred mode _ =>
    have h' : { s with preferredIpVersion := mode }.UrlInv isAddressIpV6 := ⟨h.consistent, h.queued⟩
    exact h'.of_queue fun a b c => by simp
  case ipv4Changed newIp => exact addressClosed.ipv4addressChangedCb h newIp
  case ipv6Changed newIp => exact addressClosed.ipv6addressChangedCb h newIp
  case elapsed ms => exact ⟨h.consistent, h.queued⟩
  case ipv6Timer => exact addressClosed.updateLocalIp h
  case lostTimer n _ _ _ => exact addressClosed.lostTimer h n
  case changed a b c rest hqueue created _ =>
    exact h.connRequestChanged hqueue (hcond a b c rest hqueue) created
  case interfaceChanged intf rest hqueue _ results =>
    exact addressClosed.writeInterface (h.of_queue fun a b c => by simp [hqueue]) intf results
  case preferredChanged mode rest hqueue _ _ =>
    exact addressClosed.writePreferredIpVersion (h.of_queue fun a b c => by simp [hqueue]) mode
  case exited _ =>
    unfold cwmpdProcStopped closeCwmpdListeningPort
    exact ⟨h.consistent, h.queued⟩
  case restarted _ =>
    have h' : { s with restartTimers := s.restartTimers - 1 }.UrlInv isAddressIpV6 :=
      ⟨h.consistent, h.queued⟩
    exact h'.startCwmpd
  case deferredInit _ results => exact h.deferredInitTimerCb results

/-- **The URL for connection requests** is consistent in every run whose events meet the
condition, and a call that is refused changes nothing. -/
theorem urlConsistent_of_reaches {port : UInt16} {path interface preferred : CString}
    {waitTime : UInt32} {standalone : Bool}
    (h : Reaches (step isAddressIpV6) (KeepsUrl isAddressIpV6)
      (initial port path interface preferred waitTime standalone) s) :
    s.UrlConsistent isAddressIpV6 ∧
      ∀ e, s.KeepsUrl isAddressIpV6 e → s.RefusalsHarmless isAddressIpV6 e := by
  refine ⟨(h.invariant (fun _ _ _ hs hcond hstep => hs.step hcond hstep)
    (urlInv_initial ..)).consistent, ?_⟩
  rintro (- | ⟨update, host, port⟩ | -) hcond
  case updateConnectionRequestUrl =>
    rintro rfl hargs
    exact refused_of_off hargs (hcond hargs)
  all_goals trivial

/-- **The condition leaves out nothing else**: an event that does not meet it breaks the property,
or is a call whose refusal does harm. -/
theorem keepsUrl_of_consistent (h : s.UrlInv isAddressIpV6)
    (hstep : s.step isAddressIpV6 e = some t) (ht : t.UrlConsistent isAddressIpV6)
    (hharmless : s.RefusalsHarmless isAddressIpV6 e) : s.KeepsUrl isAddressIpV6 e := by
  rcases e with - | ⟨update, host, port⟩ | - | - | - | - | - | - | - | ⟨created, results⟩ | - | - |
    -
  case updateConnectionRequestUrl =>
    obtain rfl := Option.some.inj hstep
    rcases update with - | -
    · refine or_iff_not_imp_left.mpr fun _ => or_iff_not_imp_left.mpr fun hun =>
        or_iff_not_imp_left.mpr fun hnone => ?_
      exact ht (Bool.eq_false_iff.mpr hun) hnone
    · intro hargs
      have hsame := congrArg updateConnRequestUrl (hharmless rfl hargs)
      rw [← hsame, managementServerUpdateConnectionRequestUrl]
      simp only [not_true_eq_false, if_false, if_pos hargs, Bool.not_true]
  case dispatch =>
    intro a b c rest hqueue hoff
    rw [ConnReqPlugin.step, hqueue] at hstep
    obtain rfl := Option.some.inj hstep
    have hoff' : (s.withQueue rest).updateConnRequestUrl = false := hoff
    have htouched : s.untouched = false :=
      h.queued.2 ⟨a, b, c, by rw [hqueue]; exact List.mem_cons_self⟩
    have hcons : (s.withQueue rest).UrlConsistent isAddressIpV6 := by
      rw [handleChange, connRequestChanged_of_off hoff'] at ht
      rcases c with - | - <;> exact ht
    refine or_iff_not_imp_left.mpr fun hnone => ?_
    have hafter := hcons htouched hnone
    rw [if_neg (Bool.eq_false_iff.mp hoff')] at hafter
    exact hafter
  all_goals trivial

/-- The URL of a call, while updates are off, and with an address of the interface after that. -/
theorem urlConsistent_call :
    ∃ s : ConnReqPlugin, Reaches (step fun _ => false) (KeepsUrl fun _ => false)
        (initial 7547 "p".toList "lan".toList [] 0 false) s ∧
      s.connectionRequestUrl = "http://h:80/p".toList ∧
      s.UrlConsistent (fun _ => false) ∧
      ∀ e, s.KeepsUrl (fun _ => false) e → s.RefusalsHarmless (fun _ => false) e := by
  have hrun : (exec (step fun _ => false) (initial 7547 "p".toList "lan".toList [] 0 false)
      [.updateConnectionRequestUrl true (some "h".toList) 80, .ipv4Changed "i".toList]).map
        connectionRequestUrl = some "http://h:80/p".toList := by
    decide
  obtain ⟨s, hs, hurl⟩ := Option.map_eq_some_iff.mp hrun
  have hreach := reaches_of_exec hs (G := KeepsUrl fun _ => false)
    ⟨fun hargs => absurd hargs (by decide), fun _ _ => ⟨trivial, fun _ _ => trivial⟩⟩
  exact ⟨s, hreach, hurl, urlConsistent_of_reaches hreach⟩

/-- Not in every run: a call that is refused turns the updates off. -/
theorem not_urlConsistent_refused :
    ¬∀ (isAddressIpV6 : CString → Bool) (port : UInt16) (path interface preferred : CString)
      (waitTime : UInt32) (standalone : Bool) (s : ConnReqPlugin),
      Reaches (step isAddressIpV6) free
        (initial port path interface preferred waitTime standalone) s →
      s.UrlConsistent isAddressIpV6 ∧ ∀ e, s.RefusalsHarmless isAddressIpV6 e := by
  intro h
  have hharmless := (h (fun _ => false) 7547 "p".toList [] [] 0 false _ .refl).2
    (.updateConnectionRequestUrl true (some []) 0) rfl (by decide)
  exact absurd (congrArg updateConnRequestUrl hharmless) (by decide)

end ConnReqPlugin

end Tr069
