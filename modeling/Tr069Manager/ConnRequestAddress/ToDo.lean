import Mathlib.Algebra.GroupWithZero.Nat
import Tr069Manager.ConnRequestAddress.Firewall

/-!
# What is still to be done

A change of the connection request is handled, and a daemon is notified of it; and what is
done for one may make another. This counts what the plugin has still to do, with all that may come
of it (`ConnReqPlugin.toDo`): a change that is queued, the path that is still to be generated, the
timers that wait for an address, the deferred initialisation and the restarts. Whatever the functions
of the address and the handlers do, they spend it: no more changes are made than it allows for
(`ConnReqPlugin.Spends`).
-/

namespace Tr069

/-- What it takes to handle a change, with what may come of it. -/
def ConnReqChange.toHandle : ConnReqChange → ℕ
  | .connRequest _ _ _ => 1
  -- the queries may call back with two addresses: one is a change, the other starts a timer
  | .interface _ => 18
  | .preferredIpVersion _ => 1

namespace ConnReqPlugin

/-- The timers that wait for an IPv6 address. -/
def runningWaits (s : ConnReqPlugin) : ℕ := s.ipv6Timer.toList.length + s.lostTimers.length

/-- What may still come, besides what is queued. A change of the connection request counts for 8: it
is handled, and its notification has three parameters at most, each of which raises two events of
the engine at most. -/
def latent (s : ConnReqPlugin) : ℕ :=
  (if s.connReqPathCreated then 0 else 8) + 9 * s.runningWaits +
    (if s.deferredInitTimer then 18 else 0) + s.restartTimers

/-- **What the plugin has still to do.** -/
def toDo (s : ConnReqPlugin) : ℕ := (s.queue.map ConnReqChange.toHandle).sum + s.latent

/-- Once the path is generated, it makes no change any more. -/
theorem latent_of_not_created {s : ConnReqPlugin} (h : s.connReqPathCreated = false) :
    { s with connReqPathCreated := true }.latent + 8 = s.latent := by
  rw [latent, latent, h]
  show 0 + 9 * s.runningWaits + (if s.deferredInitTimer then 18 else 0) + s.restartTimers + 8 =
    8 + 9 * s.runningWaits + (if s.deferredInitTimer then 18 else 0) + s.restartTimers
  omega

/-- From `s` to `t` some changes of the connection request have been queued, and with them no more
than `n` has been added to what is still to be done. -/
def Spends (n : ℕ) (s t : ConnReqPlugin) : Prop :=
  ∃ new : List ConnReqChange, t.queue = s.queue ++ new ∧
    (∀ c ∈ new, ∃ host path port, c = .connRequest host path port) ∧
    t.latent + 8 * new.length ≤ s.latent + n

variable {s t u : ConnReqPlugin} {m n : ℕ}

namespace Spends

theorem of_queue (hqueue : t.queue = s.queue) (hlatent : t.latent ≤ s.latent + n) :
    Spends n s t :=
  ⟨[], by rw [hqueue, List.append_nil], fun _ h => absurd h List.not_mem_nil, hlatent⟩

theorem refl (s : ConnReqPlugin) : Spends 0 s s := of_queue rfl (Nat.le_refl _)

theorem trans (h : Spends m s t) (h' : Spends n t u) : Spends (m + n) s u := by
  obtain ⟨new, hqueue, hnew, hle⟩ := h
  obtain ⟨new', hqueue', hnew', hle'⟩ := h'
  refine ⟨new ++ new', by rw [hqueue', hqueue, List.append_assoc], fun c hc => ?_, ?_⟩
  · exact (List.mem_append.mp hc).elim (hnew c) (hnew' c)
  · rw [List.length_append]
    omega

theorem mono (h : Spends m s t) (hle : m ≤ n) : Spends n s t := by
  obtain ⟨new, hqueue, hnew, hspent⟩ := h
  exact ⟨new, hqueue, hnew, Nat.le_trans hspent (Nat.add_le_add_left hle _)⟩

/-- Only the timers that wait are other ones. -/
theorem of_runningWaits (hqueue : t.queue = s.queue)
    (hcreated : t.connReqPathCreated = s.connReqPathCreated)
    (htimer : t.deferredInitTimer = s.deferredInitTimer)
    (hrestart : t.restartTimers = s.restartTimers) (hle : t.runningWaits ≤ s.runningWaits + n) :
    Spends (9 * n) s t := by
  refine of_queue hqueue ?_
  rw [latent, latent, hcreated, htimer, hrestart]
  omega

/-! ### The address functions -/

/-- A transaction is one change. -/
theorem writeConnRequest (s : ConnReqPlugin) (host path : Option CString) (port : Option UInt16) :
    Spends 8 s (s.writeConnRequest host path port) := by
  rcases s.writeConnRequest_cases host path port with hsame | ⟨a, b, c, -, heq⟩
  · rw [hsame]
    exact (refl s).mono (Nat.zero_le 8)
  · rw [heq]
    refine ⟨[.connRequest a b c], rfl, fun d hd => ?_, Nat.le_refl _⟩
    exact ⟨a, b, c, List.mem_singleton.mp hd⟩

theorem updateConreqHost (s : ConnReqPlugin) (ip : CString) :
    Spends 8 s (s.updateConreqHost ip) := by
  unfold ConnReqPlugin.updateConreqHost
  dsimp only
  split
  · exact writeConnRequest { s with localIpAddress := ip } (some ip) none none
  · exact of_queue rfl (Nat.le_add_right _ 8)

/-- The timer that waits is stopped. -/
theorem updateLocalIp (s : ConnReqPlugin) : Spends 8 s s.updateLocalIp := by
  have hstopped : Spends (9 * 0) s { s with ipv6Timer := none } :=
    of_runningWaits rfl rfl rfl rfl (Nat.add_le_add_right (Nat.zero_le _) _)
  exact (hstopped.trans (updateConreqHost _ s.preferred)).mono (Nat.le_refl 8)

theorem ipv6addressChangedCb (s : ConnReqPlugin) (newIp : CString) :
    Spends 8 s (s.ipv6addressChangedCb newIp) := by
  have hupdate : Spends 8 s { s with ipv6address := newIp }.updateLocalIp :=
    updateLocalIp { s with ipv6address := newIp }
  unfold ConnReqPlugin.ipv6addressChangedCb
  dsimp only
  split
  · exact of_queue rfl (Nat.le_add_right _ 8)
  · exact hupdate
  · exact hupdate

/-- An IPv4 address is a change, or it starts a timer. -/
theorem ipv4addressChangedCb (s : ConnReqPlugin) (newIp : CString) :
    Spends 9 s (s.ipv4addressChangedCb newIp) := by
  have hupdate : Spends 9 s { s with ipv4address := newIp, sinceIpv4 := 0 }.updateLocalIp :=
    (updateLocalIp { s with ipv4address := newIp, sinceIpv4 := 0 }).mono (Nat.le_succ 8)
  unfold ConnReqPlugin.ipv4addressChangedCb
  dsimp only
  split
  · exact hupdate
  · exact hupdate
  · split
    · exact hupdate
    · refine of_runningWaits (n := 1) rfl rfl rfl rfl ?_
      simp only [startIpv6Timer, runningWaits, List.length_append, Option.toList_some,
        List.length_singleton]
      omega

/-- The queries call back with both addresses at most. -/
theorem openQueries (s : ConnReqPlugin) (results : QueryResults) :
    Spends 17 s (s.cwmpPluginNetmodelOpenQueries results) := by
  obtain ⟨ipv6, ipv4⟩ := results
  rcases ipv6 with - | a <;> rcases ipv4 with - | b
  · exact (refl s).mono (Nat.zero_le 17)
  · exact (ipv4addressChangedCb s b).mono (by omega)
  · exact (ipv6addressChangedCb s a).mono (by omega)
  · exact (ipv6addressChangedCb s a).trans (ipv4addressChangedCb _ b)

theorem writeInterface (s : ConnReqPlugin) (intf : CString) (results : QueryResults) :
    Spends 17 s (s.writeInterface intf results) := by
  have hclosed : Spends (9 * 0) s s.cwmpPluginNetmodelCloseQueries :=
    of_runningWaits rfl rfl rfl rfl (Nat.add_le_add_right (Nat.zero_le _) _)
  unfold ConnReqPlugin.writeInterface
  split
  · exact (refl s).mono (Nat.zero_le 17)
  · exact (hclosed.trans (openQueries _ results)).mono (Nat.le_refl 17)

end Spends

end ConnReqPlugin

end Tr069
