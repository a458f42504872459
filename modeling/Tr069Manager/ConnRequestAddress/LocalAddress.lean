import Tr069Manager.ConnRequestAddress.Plugin

/-!
# The local address

`LocalIPAddress`, and the host for connection requests with it, is a copy of the address
that is preferred among those the queries have reported. Four handlers change what the
copy is made of – the mode and two addresses – and each of them refreshes it only in some
cases. Under `IPV6PREFERRED` a new IPv4 address is not published at once but after a wait
for an IPv6 address.

Two things are left to chance.

* **The copy is not refreshed** when the mode changes, nor when the interface does: the
  addresses are cleared with the timer of the wait, and it is up to the queries to call
  back.
* **A timer is lost** when another IPv4 address comes during a wait: the wait is started
  again with a new timer, and the old one runs on.

Without these the copy is the preferred address whenever there is no wait, and the one
wait counts from the last IPv4 change (`Tr069.ConnReqPlugin.followsPreference_of_reaches`).
-/

namespace Tr069

open Runs

namespace ConnReqPlugin

variable {isAddressIpV6 : CString → Bool} {s t : ConnReqPlugin} {e : Event}

/-! ### The property and the condition -/

/-- The timers of a wait, with those that `ipv6_timer` no longer points to. -/
def waitTimers (s : ConnReqPlugin) : List WaitTimer := s.ipv6Timer.toList ++ s.lostTimers

/-- **The local address follows the preference**: without a wait it is the preferred address, and
so is the host if updates are on; and there is one wait at most, from the last IPv4 change. -/
structure FollowsPreference (s : ConnReqPlugin) : Prop where
  address : s.waitTimers = [] → s.localIpAddress = s.preferred ∧
    (s.updateConnRequestUrl = true → s.connRequestHost = s.preferred)
  timers : s.waitTimers.length ≤ 1
  counted : ∀ timer ∈ s.waitTimers, timer.elapsed = s.sinceIpv4

/-- A wait may be started: if the next IPv4 address starts one, there is none. -/
def MayWait (s : ConnReqPlugin) : Prop :=
  s.wanIpMode = .ipv6Preferred → s.ipv6address = [] → s.ipv6Timer = none

/-- What the queries call back with is published, or waited with. -/
def Refreshes (s : ConnReqPlugin) (results : QueryResults) : Prop :=
  results.ipv4 ≠ none ∨ results.ipv6 ≠ none ∧ s.wanIpMode ≠ .ipv4Only

/-- **The condition on the events**: a change of the mode is handled during a wait, or the same
address is preferred after it; for another interface the queries call back at once with
an address that counts, or there was none before; and an IPv4 address does not come
during a wait it would start again. Others do not write the host while updates are on, and do
not turn them on with another host. -/
def KeepsPreference (s : ConnReqPlugin) : Event → Prop
  | .write host _ _ => host = none ∨ s.updateConnRequestUrl = false
  | .updateConnectionRequestUrl update _ _ =>
    update = true ∨ s.updateConnRequestUrl = true ∨ s.connRequestHost = s.localIpAddress
  | .ipv4Changed _ => s.MayWait
  | .dispatch _ results =>
    match s.queue with
    | .interface intf :: _ => intf = [] ∨ s.Refreshes results ∨ s.localIpAddress = defaultCrh
    | .preferredIpVersion mode :: _ =>
      s.ipv6Timer ≠ none ∨
        getLocalIp (wanIpModeOf mode) s.ipv4address s.ipv6address = s.preferred
    | _ => True
  | .deferredInit results =>
    s.interface = [] ∨ results.ipv4 = none ∨ results.ipv6 ≠ none ∨ s.MayWait
  | _ => True

/-! ### The invariant -/

/-- What holds even while the copy is not refreshed: no timer is lost, the wait counts from the
last IPv4 change, and the host is the local address while updates are on. -/
structure WaitInv (s : ConnReqPlugin) : Prop where
  host : s.updateConnRequestUrl = true → s.connRequestHost = s.localIpAddress
  lost : s.lostTimers = []
  counted : ∀ timer, s.ipv6Timer = some timer → timer.elapsed = s.sinceIpv4

/-- **The invariant**: and the copy is fresh, or will be after the wait. -/
structure PrefInv (s : ConnReqPlugin) : Prop where
  wait : s.WaitInv
  address : s.ipv6Timer = none → s.localIpAddress = s.preferred

/-- The part of the state the invariant is about. -/
def published (s : ConnReqPlugin) :
    (CString × CString × Bool) × (WanIpMode × CString × CString) ×
      Option WaitTimer × List WaitTimer × ℕ :=
  ((s.localIpAddress, s.connRequestHost, s.updateConnRequestUrl),
    (s.wanIpMode, s.ipv4address, s.ipv6address), s.ipv6Timer, s.lostTimers, s.sinceIpv4)

theorem PrefInv.of_published (h : s.PrefInv) (heq : t.published = s.published) : t.PrefInv := by
  obtain ⟨hcopy, hrest⟩ := Prod.mk.inj heq
  obtain ⟨haddresses, hwait⟩ := Prod.mk.inj hrest
  obtain ⟨hlocal, hcopy⟩ := Prod.mk.inj hcopy
  obtain ⟨hhost, hflag⟩ := Prod.mk.inj hcopy
  obtain ⟨htimer, hwait⟩ := Prod.mk.inj hwait
  obtain ⟨hlost, hsince⟩ := Prod.mk.inj hwait
  have hpreferred : t.preferred = s.preferred :=
    congrArg (fun a : WanIpMode × CString × CString => getLocalIp a.1 a.2.1 a.2.2) haddresses
  refine ⟨⟨fun hon => ?_, hlost.trans h.wait.lost, fun timer hsome => ?_⟩, fun hnone => ?_⟩
  · rw [hhost, hlocal]
    exact h.wait.host (hflag ▸ hon)
  · rw [hsince]
    exact h.wait.counted timer (htimer ▸ hsome)
  · rw [hlocal, hpreferred]
    exact h.address (htimer ▸ hnone)

/-! ### What refreshes the copy -/

theorem published_writeHost (s : ConnReqPlugin) (ip : CString) :
    (s.writeConnRequest (some ip) none none).published =
      { s with connRequestHost := ip }.published := by
  unfold writeConnRequest
  dsimp only [Option.getD_some, Option.getD_none]
  split
  · rfl
  · next hsame =>
    have hip : ip = s.connRequestHost := not_not.mp fun hne => hsame (Or.inl hne)
    rw [hip]

/-- The state with a fresh copy, and without a wait. -/
def refreshed (s : ConnReqPlugin) : ConnReqPlugin :=
  { s with
    localIpAddress := s.preferred
    connRequestHost := if s.updateConnRequestUrl then s.preferred else s.connRequestHost
    ipv6Timer := none }

theorem published_updateLocalIp (s : ConnReqPlugin) :
    s.updateLocalIp.published = s.refreshed.published := by
  unfold updateLocalIp updateConreqHost refreshed
  dsimp only
  by_cases hon : s.updateConnRequestUrl = true
  · rw [if_pos hon, if_pos hon, published_writeHost]
  · rw [if_neg hon, if_neg hon]

/-- **An update of the local address** makes the copy fresh and ends the wait. -/
theorem prefInv_updateLocalIp (hlost : s.lostTimers = []) :
    s.updateLocalIp.PrefInv ∧ s.updateLocalIp.ipv6Timer = none := by
  have hfresh : s.refreshed.PrefInv :=
    ⟨⟨fun hon => if_pos hon, hlost, nofun⟩, fun _ => rfl⟩
  have heq := published_updateLocalIp s
  exact ⟨hfresh.of_published heq, congrArg (fun p => p.2.2.1) heq⟩

/-- An IPv6 address is published, unless it does not count. -/
theorem WaitInv.ipv6addressChangedCb (h : s.WaitInv) (newIp : CString) :
    (s.ipv6addressChangedCb newIp).WaitInv ∧
      (s.PrefInv ∨ s.wanIpMode ≠ .ipv4Only → (s.ipv6addressChangedCb newIp).PrefInv) ∧
      (s.ipv6addressChangedCb newIp).MayWait := by
  have h' : { s with ipv6address := newIp }.WaitInv := ⟨h.host, h.lost, h.counted⟩
  have hupdate := @prefInv_updateLocalIp { s with ipv6address := newIp } h.lost
  unfold ConnReqPlugin.ipv6addressChangedCb
  dsimp only
  split
  · next hmode =>
    refine ⟨h', fun hpref => ⟨h', fun hnone => ?_⟩, fun hother => ?_⟩
    · -- under this mode the IPv6 address does not count
      have haddress := (hpref.resolve_right (not_not_intro hmode)).address hnone
      dsimp only [preferred] at haddress ⊢
      rw [hmode] at haddress ⊢
      exact haddress
    · cases hmode.symm.trans hother
  · exact ⟨hupdate.1.wait, fun _ => hupdate.1, fun _ _ => hupdate.2⟩
  · exact ⟨hupdate.1.wait, fun _ => hupdate.1, fun _ _ => hupdate.2⟩

/-- An IPv4 address is published, or waited with. -/
theorem WaitInv.ipv4addressChangedCb (h : s.WaitInv) (hmay : s.MayWait) (newIp : CString) :
    (s.ipv4addressChangedCb newIp).PrefInv := by
  have hupdate := @prefInv_updateLocalIp { s with ipv4address := newIp, sinceIpv4 := 0 } h.lost
  unfold ConnReqPlugin.ipv4addressChangedCb
  dsimp only
  split
  · exact hupdate.1
  · exact hupdate.1
  · next hmode =>
    split
    · exact hupdate.1
    · next hnone =>
      have htimer := hmay hmode (not_not.mp hnone)
      refine ⟨⟨h.host, ?_, fun timer hsome => ?_⟩, nofun⟩
      · change s.lostTimers ++ s.ipv6Timer.toList = []
        rw [h.lost, htimer]
        rfl
      · obtain rfl := Option.some.inj hsome
        rfl

/-- The queries are opened: what they call back with is published or waited with, or the copy was
fresh before. -/
theorem WaitInv.openQueries (h : s.WaitInv) {results : QueryResults}
    (hmay : results.ipv4 = none ∨ results.ipv6 ≠ none ∨ s.MayWait)
    (hfresh : s.PrefInv ∨ s.Refreshes results) :
    (s.cwmpPluginNetmodelOpenQueries results).PrefInv := by
  obtain ⟨ipv6, ipv4⟩ := results
  rcases ipv6 with - | a <;> rcases ipv4 with - | b
  · refine hfresh.resolve_right ?_
    rintro (h4 | ⟨h6, -⟩)
    · exact h4 rfl
    · exact h6 rfl
  · refine h.ipv4addressChangedCb ?_ b
    exact (hmay.resolve_left nofun).resolve_left (not_not_intro rfl)
  · refine (h.ipv6addressChangedCb a).2.1 (hfresh.imp_right ?_)
    rintro (h4 | ⟨-, hmode⟩)
    · exact absurd rfl h4
    · exact hmode
  · obtain ⟨h6, -, hmay6⟩ := h.ipv6addressChangedCb a
    exact h6.ipv4addressChangedCb hmay6 b

/-- Another interface. -/
theorem PrefInv.writeInterface (h : s.PrefInv) {intf : CString} {results : QueryResults}
    (hok : intf = [] ∨ s.Refreshes results ∨ s.localIpAddress = defaultCrh) :
    (s.writeInterface intf results).PrefInv := by
  unfold ConnReqPlugin.writeInterface
  split
  · exact h
  · next hne =>
    have hwait : s.cwmpPluginNetmodelCloseQueries.WaitInv := ⟨h.wait.host, h.wait.lost, nofun⟩
    refine hwait.openQueries (Or.inr (Or.inr fun _ _ => rfl)) ?_
    refine (hok.resolve_left hne).symm.imp (fun hdefault => ⟨hwait, fun _ => ?_⟩) id
    -- nothing is known, so nothing but the default is preferred
    refine hdefault.trans ?_
    change _ = getLocalIp s.wanIpMode [] []
    rcases s.wanIpMode <;> rfl

/-! ### What the handlers of a change leave alone -/

@[simp] theorem published_createConreqPath (s : ConnReqPlugin) (created : Option CString) :
    (s.cwmpPluginCreateConreqPath created).published = s.published := by
  unfold cwmpPluginCreateConreqPath
  rcases s.writeConnRequest_cases none created none with hsame | ⟨a, b, c, -, heq⟩
  · rw [hsame]
  · rw [heq]
    rfl

@[simp] theorem published_updateConnReqUrl (s : ConnReqPlugin) :
    (s.updateConnReqUrl isAddressIpV6).published = s.published := by
  unfold updateConnReqUrl
  split <;> rfl

@[simp] theorem published_openPort (s : ConnReqPlugin) :
    (s.openCwmpdListeningPort isAddressIpV6).published = s.published :=
  rfl

@[simp] theorem published_closePort (s : ConnReqPlugin) :
    s.closeCwmpdListeningPort.published = s.published := by
  unfold closeCwmpdListeningPort
  split <;> rfl

@[simp] theorem published_startCwmpd (s : ConnReqPlugin) :
    (s.startCwmpd isAddressIpV6).published = s.published := by
  unfold startCwmpd
  split
  · rfl
  · split <;> rfl

theorem published_updateConnectionRequestUrl (s : ConnReqPlugin) (created : Option CString) :
    (s.updateConnectionRequestUrl isAddressIpV6 created).published = s.published := by
  have hserve : ∀ w : ConnReqPlugin,
      (if ¬w.cwmpdProc then
        if w.initDone then w.startCwmpd isAddressIpV6 else { w with cwmpdStartAvoided := true }
      else w.openCwmpdListeningPort isAddressIpV6).published = w.published := by
    intro w
    split
    · split
      · exact published_startCwmpd w
      · rfl
    · rfl
  unfold updateConnectionRequestUrl
  split
  · rfl
  · dsimp only
    split
    · rw [hserve]
      split
      · exact published_updateConnReqUrl s
      · exact (published_createConreqPath _ created).trans (published_updateConnReqUrl s)
    · exact (published_closePort _).trans (published_updateConnReqUrl s)

theorem published_connRequestChanged (s : ConnReqPlugin) (created : Option CString)
    (a b c : Bool) :
    (s.connRequestChanged isAddressIpV6 created a b c).published = s.published := by
  have hhost := @published_updateConnectionRequestUrl isAddressIpV6 s created
  rcases a with - | - <;> rcases b with - | - <;> rcases c with - | - <;>
    simp [connRequestChanged, updateConnectionRequestPath, updateConnectionRequestPort, hhost]

/-! ### One step -/

/-- Time goes by. -/
theorem PrefInv.elapse (h : s.PrefInv) (ms : ℕ) : (s.elapse ms).PrefInv := by
  refine ⟨⟨h.wait.host, ?_, fun timer hsome => ?_⟩, fun hnone => ?_⟩
  · change s.lostTimers.map _ = []
    rw [h.wait.lost, List.map_nil]
  · obtain ⟨before, hbefore, rfl⟩ := Option.map_eq_some_iff.mp hsome
    exact congrArg (· + ms) (h.wait.counted before hbefore)
  · exact h.address (Option.map_eq_none_iff.mp hnone)

/-- Another mode. -/
theorem PrefInv.writePreferredIpVersion (h : s.PrefInv) {mode : CString}
    (hok : s.ipv6Timer ≠ none ∨
      getLocalIp (wanIpModeOf mode) s.ipv4address s.ipv6address = s.preferred) :
    (s.writePreferredIpVersion mode).PrefInv := by
  refine ⟨⟨h.wait.host, h.wait.lost, h.wait.counted⟩, fun hnone => ?_⟩
  have hsame := hok.resolve_left (not_not_intro hnone)
  exact (h.address hnone).trans hsame.symm

/-- The deferred initialisation. -/
theorem PrefInv.deferredInit (h : s.PrefInv) {results : QueryResults}
    (hok : s.interface = [] ∨ results.ipv4 = none ∨ results.ipv6 ≠ none ∨ s.MayWait) :
    (s.deferredInitTimerCb isAddressIpV6 results).PrefInv := by
  have h' : { s with initDone := true, deferredInitTimer := false }.PrefInv := h.of_published rfl
  unfold deferredInitTimerCb
  dsimp only
  have hqueries : (if s.interface = [] then { s with initDone := true, deferredInitTimer := false }
      else { s with initDone := true, deferredInitTimer := false }.cwmpPluginNetmodelOpenQueries
        results).PrefInv := by
    split
    · exact h'
    · next hne => exact h'.wait.openQueries (hok.resolve_left hne) (Or.inl h')
  generalize (if s.interface = [] then { s with initDone := true, deferredInitTimer := false }
      else { s with initDone := true, deferredInitTimer := false }.cwmpPluginNetmodelOpenQueries
        results) = w at hqueries ⊢
  split
  · exact hqueries.of_published (published_startCwmpd w)
  · exact hqueries

/-- **One event keeps the invariant**, under the condition. -/
theorem PrefInv.step (h : s.PrefInv) (hok : s.KeepsPreference e)
    (hstep : s.step isAddressIpV6 e = some t) : t.PrefInv := by
  rcases stepped_of_step hstep with ⟨host, path, port⟩ | ⟨update, host, port⟩ | - | - | - | - |
    newIp | newIp | ms | - | @⟨n, -, -, -⟩ | @⟨a, b, c, rest, -, created, -⟩ |
    @⟨intf, rest, hqueue, created, results⟩ | @⟨mode, rest, hqueue, created, results⟩ | - | - |
    ⟨-, results⟩
  case write =>
    rcases s.writeConnRequest_cases host path port with hsame | ⟨a, b, c, -, heq⟩
    · rw [hsame]
      exact h
    · rw [heq]
      rcases hok with rfl | hoff
      · exact h.of_published rfl
      · exact ⟨⟨fun hon => absurd (hoff.symm.trans hon) (by decide), h.wait.lost, h.wait.counted⟩,
          h.address⟩
  case called =>
    have hset : { s with updateConnRequestUrl := !update }.PrefInv := by
      refine ⟨⟨fun hon => ?_, h.wait.lost, h.wait.counted⟩, h.address⟩
      rcases hok with rfl | hwas | hsame
      · cases hon
      · exact h.wait.host hwas
      · exact hsame
    unfold managementServerUpdateConnectionRequestUrl
    dsimp only
    split
    · exact hset.of_published rfl
    · split
      · exact hset.of_published rfl
      · exact hset.of_published rfl
  case sameInterface => exact h
  case samePreferred => exact h
  case setInterface => exact h.of_published rfl
  case setPreferred => exact h.of_published rfl
  case ipv4Changed => exact h.wait.ipv4addressChangedCb hok newIp
  case ipv6Changed => exact (h.wait.ipv6addressChangedCb newIp).2.1 (Or.inl h)
  case elapsed => exact h.elapse ms
  case ipv6Timer => exact (prefInv_updateLocalIp h.wait.lost).1
  case lostTimer =>
    refine (prefInv_updateLocalIp ?_).1
    change s.lostTimers.eraseIdx n = []
    rw [h.wait.lost]
    rfl
  case changed =>
    have hrest : (s.withQueue rest).PrefInv := h.of_published rfl
    exact hrest.of_published (published_connRequestChanged _ created a b c)
  case interfaceChanged =>
    have hrest : (s.withQueue rest).PrefInv := h.of_published rfl
    rw [KeepsPreference, hqueue] at hok
    exact hrest.writeInterface hok
  case preferredChanged =>
    have hrest : (s.withQueue rest).PrefInv := h.of_published rfl
    rw [KeepsPreference, hqueue] at hok
    exact hrest.writePreferredIpVersion hok
  case exited =>
    refine h.of_published ?_
    unfold cwmpdProcStopped
    exact (published_closePort { s with processes := s.processes - 1, cwmpdProc := false })
  case restarted =>
    exact h.of_published (published_startCwmpd { s with restartTimers := s.restartTimers - 1 })
  case deferredInit => exact h.deferredInit hok

/-! ### The main results -/

/-- An IPv4 address that comes during a wait and starts one again leaves two timers. -/
theorem mayWait_of_timers {newIp : CString}
    (ht : (s.ipv4addressChangedCb newIp).waitTimers.length ≤ 1) : s.MayWait := by
  intro hmode hnone
  have hstart : s.ipv4addressChangedCb newIp =
      { s with ipv4address := newIp, sinceIpv4 := 0 }.startIpv6Timer := by
    unfold ipv4addressChangedCb
    dsimp only
    split
    · next hother => cases hmode.symm.trans hother
    · next hother => cases hmode.symm.trans hother
    · exact if_neg (not_not_intro hnone)
  rw [hstart] at ht
  rcases htimer : s.ipv6Timer with - | timer
  · rfl
  · have htwo : 2 ≤ ({ s with
        ipv4address := newIp, sinceIpv4 := 0 }.startIpv6Timer).waitTimers.length := by
      simp [waitTimers, startIpv6Timer, htimer]
    omega

/-- The address functions that do not refresh the copy leave it, without a wait. -/
theorem PrefInv.localIpAddress_of_stale {intf : CString} {results : QueryResults} (h : s.PrefInv)
    (hne : intf ≠ []) (hstale : ¬s.Refreshes results)
    (ht : (s.writeInterface intf results).FollowsPreference) : s.localIpAddress = defaultCrh := by
  obtain ⟨ipv6, ipv4⟩ := results
  obtain ⟨h4, h6⟩ := not_or.mp hstale
  obtain rfl := not_not.mp h4
  have hlost := h.wait.lost
  have hknown : ∃ known, s.writeInterface intf ⟨ipv6, none⟩ =
      { s.cwmpPluginNetmodelCloseQueries with ipv6address := known } ∧
      (known = [] ∨ s.wanIpMode = .ipv4Only) := by
    rw [ConnReqPlugin.writeInterface, if_neg hne]
    rcases ipv6 with - | a
    · exact ⟨[], rfl, Or.inl rfl⟩
    · have hmode : s.wanIpMode = .ipv4Only := not_not.mp fun hother => h6 ⟨nofun, hother⟩
      refine ⟨a, ?_, Or.inr hmode⟩
      unfold cwmpPluginNetmodelOpenQueries ipv6addressChangedCb
      dsimp only
      split
      · rfl
      · next hother => cases hmode.symm.trans hother
      · next hother => cases hmode.symm.trans hother
  obtain ⟨known, heq, hcounts⟩ := hknown
  rw [heq] at ht
  have hlocal : s.localIpAddress = getLocalIp s.wanIpMode [] known := (ht.address hlost).1
  rw [hlocal]
  rcases hcounts with rfl | hmode
  · rcases s.wanIpMode <;> rfl
  · rw [hmode]
    rfl

/-- **The condition leaves out nothing else**: an event of the addresses that does not meet it
breaks the property. -/
theorem keepsPreference_of_follows (h : s.PrefInv) (hstep : s.step isAddressIpV6 e = some t)
    (ht : t.FollowsPreference) (hwrite : ∀ host path port, e ≠ .write host path port)
    (hcall : ∀ update host port, e ≠ .updateConnectionRequestUrl update host port) :
    s.KeepsPreference e := by
  rcases stepped_of_step hstep with ⟨host, path, port⟩ | ⟨update, host, port⟩ | - | - | - | - |
    newIp | newIp | ms | - | - | @⟨a, b, c, rest, hqueue, created, results⟩ |
    @⟨intf, rest, hqueue, created, results⟩ | @⟨mode, rest, hqueue, created, results⟩ | - | - |
    ⟨-, results⟩
  case write => exact absurd rfl (hwrite host path port)
  case called => exact absurd rfl (hcall update host port)
  case ipv4Changed => exact mayWait_of_timers ht.timers
  case changed => rw [KeepsPreference, hqueue]; trivial
  case interfaceChanged =>
    have hrest : (s.withQueue rest).PrefInv := h.of_published rfl
    rw [KeepsPreference, hqueue]
    refine or_iff_not_imp_left.mpr fun hne => or_iff_not_imp_left.mpr fun hstale => ?_
    exact hrest.localIpAddress_of_stale hne hstale ht
  case preferredChanged =>
    rw [KeepsPreference, hqueue]
    refine or_iff_not_imp_left.mpr fun hnone => ?_
    have htimer := not_not.mp hnone
    have hwait : ((s.withQueue rest).writePreferredIpVersion mode).waitTimers = [] := by
      change s.ipv6Timer.toList ++ s.lostTimers = []
      rw [htimer, h.wait.lost]
      rfl
    exact (ht.address hwait).1.symm.trans (h.address htimer)
  case deferredInit =>
    refine or_iff_not_imp_left.mpr fun hne => or_iff_not_imp_left.mpr fun h4 =>
      or_iff_not_imp_left.mpr fun h6 => ?_
    obtain ⟨ipv6, ipv4⟩ := results
    obtain rfl : ipv6 = none := not_not.mp h6
    rcases ipv4 with - | b
    · exact absurd rfl h4
    · have hsame : (s.deferredInitTimerCb isAddressIpV6 ⟨none, some b⟩).published =
          ({ s with initDone := true, deferredInitTimer := false }.ipv4addressChangedCb
            b).published := by
        unfold deferredInitTimerCb
        dsimp only
        rw [if_neg hne]
        split
        · exact published_startCwmpd _
        · rfl
      have htimers := congrArg (fun p => (p.2.2.1.toList ++ p.2.2.2.1).length) hsame
      exact @mayWait_of_timers { s with initDone := true, deferredInitTimer := false } b
        (htimers ▸ ht.timers)
  all_goals trivial

end ConnReqPlugin

end Tr069
