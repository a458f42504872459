import Tr069Manager.Lib.SlidingWindow

/-!
# The limit on connection requests

`cwmp_server_check_availability` (`dmmain/cwmpd_server.c`) lets a connection request through
unless too many have come (`dmmain/cwmpd_connectionsecurity.c`): the times of the requests that
were let through are in a list, those older than `FreqConnectionRequest` seconds are thrown away,
and what is left is compared with twice `MaxConnectionRequest`. The clock is read once for the
comparison and once more for the time that goes into the list.

The arithmetic is that of the machine: the limit is twice an `unsigned int`, and the seconds are
compared as an `int`. The two limits are those the data model has, or the defaults if they cannot
be read; the text of a number goes through `atoi`, which leaves its 32 bits as they are.

The comparison asks for more than the limit, and so one request more than the limit gets through
(`rateLimited_iff_quiet`): the gate does what it should exactly if no period has
more requests than it may let through, so that it never has to refuse one.
-/

namespace Tr069

open SlidingWindow

/-! ### The source -/

/-- `MaxConnectionRequest` and `FreqConnectionRequest`. -/
structure ConnectionLimits where
  maxConnectionRequest : UInt32
  freqConnectionRequest : UInt32

/-- `cwmp_server_maxConnectionsAdd`. -/
def cwmpServerMaxConnectionsAdd (timestamps : List ℤ) (now : ℤ) : List ℤ := timestamps ++ [now]

/-- `cwmp_server_maxConnectionsReached`, with the list after the loop that takes the old times
out, and those that are still to come. -/
def cwmpServerMaxConnectionsReached (limits : ConnectionLimits) (timestamps : List ℤ) (now : ℤ) :
    List ℤ × Bool :=
  let mc := limits.maxConnectionRequest
  let fc := limits.freqConnectionRequest
  let timestamps := timestamps.filter fun t =>
    ¬((now > t ∧ now - t > fc.toInt32.toInt) ∨ t > now)
  (timestamps, decide (timestamps.length > (2 * mc).toNat))

/-- `cwmp_server_check_availability`: the list, and whether it is `cwmp_status_ok`. A visit has
the two readings of the clock. -/
def cwmpServerCheckAvailability (limits : ConnectionLimits) (timestamps : List ℤ)
    (request : Visit) : List ℤ × Bool :=
  let reached := cwmpServerMaxConnectionsReached limits timestamps request.seen
  if reached.2 then (reached.1, false)
  else (cwmpServerMaxConnectionsAdd reached.1 request.stamp, true)

/-- The gate: the list, and the times of all requests that have been accepted. -/
structure ConnectionGate where
  timestamps : List ℤ
  acceptedTimes : List ℤ

/-- A request comes. -/
def ConnectionGate.request (limits : ConnectionLimits) (gate : ConnectionGate) (request : Visit) :
    ConnectionGate :=
  let available := cwmpServerCheckAvailability limits gate.timestamps request
  { timestamps := available.1
    acceptedTimes :=
      if available.2 then gate.acceptedTimes ++ [request.stamp] else gate.acceptedTimes }

/-- The gate after some requests, from `cwmp_server_initConnectionTimestampList` on. -/
def gateAfter (limits : ConnectionLimits) (requests : List Visit) : ConnectionGate :=
  requests.foldl (ConnectionGate.request limits) ⟨[], []⟩

/-- A request is accepted after the earlier ones. -/
def accepted (limits : ConnectionLimits) (earlier : List Visit) (request : Visit) : Bool :=
  (cwmpServerCheckAvailability limits (gateAfter limits earlier).timestamps request).2

/-- **What the limit should do**: in any period of `FreqConnectionRequest` seconds at most twice
`MaxConnectionRequest` requests are accepted, a request is refused only if that many have been in
the last ones, and the times in the list are those of accepted requests. -/
structure RateLimited (limits : ConnectionLimits) (requests : List Visit) : Prop where
  atMost : ∀ first, (within first (first + limits.freqConnectionRequest.toNat)
    (gateAfter limits requests).acceptedTimes).length ≤ 2 * limits.maxConnectionRequest.toNat
  refused : ∀ earlier request later, requests = earlier ++ request :: later →
    accepted limits earlier request = false →
      2 * limits.maxConnectionRequest.toNat ≤
        (within (request.seen - limits.freqConnectionRequest.toNat) request.seen
          (gateAfter limits earlier).acceptedTimes).length
  counted : ∀ t ∈ (gateAfter limits requests).timestamps,
    t ∈ (gateAfter limits requests).acceptedTimes

/-! ### The list as a sliding window -/

variable {limits : ConnectionLimits} {requests earlier later : List Visit} {request : Visit}
  {timestamps : List ℤ}

/-- The seconds a time stays in the list: none beyond its own if they do not fit an `int`. -/
def width (limits : ConnectionLimits) : ℤ := max limits.freqConnectionRequest.toInt32.toInt 0

/-- The length of the list up to which a request is accepted. -/
def limit (limits : ConnectionLimits) : ℕ := (2 * limits.maxConnectionRequest).toNat

/-- The loop leaves the times of the window. -/
theorem maxConnectionsReached_eq (timestamps : List ℤ) (now : ℤ) :
    cwmpServerMaxConnectionsReached limits timestamps now =
      (within (now - width limits) now timestamps,
        decide (limit limits < (within (now - width limits) now timestamps).length)) := by
  have hkeep : timestamps.filter (fun t =>
      ¬((now > t ∧ now - t > limits.freqConnectionRequest.toInt32.toInt) ∨ t > now)) =
      within (now - width limits) now timestamps := by
    refine List.filter_congr fun t _ => ?_
    rw [decide_eq_decide, width]
    omega
  rw [cwmpServerMaxConnectionsReached]
  simp only [hkeep, limit]
  rfl

theorem checkAvailability_eq : cwmpServerCheckAvailability limits timestamps request =
    let pruned := within (request.seen - width limits) request.seen timestamps
    if pruned.length ≤ limit limits then (pruned ++ [request.stamp], true)
    else (pruned, false) := by
  rw [cwmpServerCheckAvailability, maxConnectionsReached_eq]
  simp only [decide_eq_true_eq]
  split
  · next h => rw [if_neg (by omega)]
  · next h => rw [if_pos (by omega), cwmpServerMaxConnectionsAdd]

theorem gateAfter_concat : gateAfter limits (requests ++ [request]) =
    (gateAfter limits requests).request limits request := by
  rw [gateAfter, List.foldl_append]
  rfl

/-- The list is what a gate keeps that forgets what is out of the window. -/
theorem timestamps_eq : (gateAfter limits requests).timestamps =
    kept (width limits) (limit limits) requests := by
  induction requests using List.reverseRecOn with
  | nil => rfl
  | append_singleton requests request ih =>
    rw [gateAfter_concat, kept_concat, ConnectionGate.request]
    simp only [checkAvailability_eq, ih]
    split <;> rfl

/-- A request is accepted if the window has a place. -/
theorem accepted_iff (h : InOrder (earlier ++ [request])) : accepted limits earlier request = true ↔
    Admits (width limits) (limit limits) (admitted (width limits) (limit limits) earlier)
      request := by
  rw [accepted, timestamps_eq, checkAvailability_eq, within_kept h, Admits]
  simp only
  split
  · next hplace => exact iff_of_true rfl hplace
  · next hplace => exact iff_of_false Bool.false_ne_true hplace

/-- The requests that are accepted are those the window admits. -/
theorem acceptedTimes_eq (h : InOrder requests) : (gateAfter limits requests).acceptedTimes =
    admitted (width limits) (limit limits) requests := by
  induction requests using List.reverseRecOn with
  | nil => rfl
  | append_singleton requests request ih =>
    have haccepted : accepted limits requests request = true ↔ _ := accepted_iff h
    rw [gateAfter_concat, admitted_concat, ← ih h.left]
    rw [← ih h.left] at haccepted
    exact if_congr haccepted rfl rfl

/-! ### When the limit is what it should be -/

theorem width_eq_if (limits : ConnectionLimits) : width limits =
    if limits.freqConnectionRequest.toNat < 2 ^ 31 then limits.freqConnectionRequest.toNat
    else 0 := by
  have hsigned : limits.freqConnectionRequest.toInt32.toInt =
      limits.freqConnectionRequest.toBitVec.toInt := rfl
  have hlt := limits.freqConnectionRequest.toNat_lt
  -- from 2 ^ 31 on the seconds are negative as an `int`
  rw [width, hsigned, BitVec.toInt_eq_toNat_cond]
  simp only [UInt32.toNat_toBitVec]
  split <;> split <;> omega

theorem width_le (limits : ConnectionLimits) :
    width limits ≤ limits.freqConnectionRequest.toNat := by
  rw [width_eq_if]
  split <;> omega

theorem limit_eq (limits : ConnectionLimits) :
    limit limits = 2 * limits.maxConnectionRequest.toNat % 2 ^ 32 := by
  rw [limit, UInt32.toNat_mul]
  rfl

/-- **The condition**: no period has more requests than may be accepted, and where the limit does
not fit the machine's, no request finds the smaller one in its way. -/
structure Quiet (limits : ConnectionLimits) (requests : List Visit) : Prop where
  period : ∀ first, (within first (first + limits.freqConnectionRequest.toNat)
    (requests.map Visit.stamp)).length ≤ 2 * limits.maxConnectionRequest.toNat
  wrapped : 2 ^ 31 ≤ limits.maxConnectionRequest.toNat → ∀ earlier request later,
    requests = earlier ++ request :: later →
      (within (request.seen - width limits) request.seen (earlier.map Visit.stamp)).length ≤
        2 * limits.maxConnectionRequest.toNat - 2 ^ 32

/-- In a quiet sequence every request finds a place. -/
theorem Quiet.admits (h : Quiet limits requests) (hsplit : requests = earlier ++ request :: later) :
    Admits (width limits) (limit limits) (earlier.map Visit.stamp) request := by
  have hlt := limits.maxConnectionRequest.toNat_lt
  rw [Admits, limit_eq]
  by_cases hmc : 2 ^ 31 ≤ limits.maxConnectionRequest.toNat
  · have hwrapped := h.wrapped hmc earlier request later hsplit
    omega
  · -- the window is in the period that ends with the request
    have hperiod := h.period (request.seen - limits.freqConnectionRequest.toNat)
    rw [sub_add_cancel] at hperiod
    have hwidth := width_le limits
    have hmore : (within (request.seen - width limits) request.seen
        (earlier.map Visit.stamp)).length ≤
        (within (request.seen - limits.freqConnectionRequest.toNat) request.seen
          (requests.map Visit.stamp)).length := by
      refine le_trans (length_within_le fun t _ hfirst hlast => ?_)
        (length_within_le_of_sublist ?_)
      · omega
      · rw [hsplit, List.map_append]
        exact List.sublist_append_left _ _
    omega

/-- A quiet sequence is limited as it should be. -/
theorem Quiet.rateLimited (hord : InOrder requests) (h : Quiet limits requests) :
    RateLimited limits requests := by
  have hall : (gateAfter limits requests).acceptedTimes = requests.map Visit.stamp := by
    rw [acceptedTimes_eq hord]
    exact admitted_eq_of_forall fun pre v post hsplit _ => h.admits hsplit
  refine ⟨fun first => ?_, fun earlier request later hsplit hrefused => ?_, fun t ht => ?_⟩
  · rw [hall]
    exact h.period first
  · -- nothing is refused
    have hearlier : admitted (width limits) (limit limits) earlier = earlier.map Visit.stamp := by
      refine admitted_eq_of_forall fun pre v post hpre _ => ?_
      have hsplit' : requests = pre ++ v :: (post ++ request :: later) := by
        rw [hsplit, hpre, List.append_assoc, List.cons_append]
      exact h.admits hsplit'
    have hadmits := h.admits hsplit
    rw [← hearlier] at hadmits
    rw [(accepted_iff (hsplit ▸ hord).upTo).mpr hadmits] at hrefused
    cases hrefused
  · rw [timestamps_eq] at ht
    rw [acceptedTimes_eq hord]
    exact kept_subset_admitted hord ht

/-- Where a sequence is limited as it should be, nothing is refused. -/
theorem RateLimited.admits (hord : InOrder requests) (h : RateLimited limits requests)
    (hfit : limits.maxConnectionRequest.toNat < 2 ^ 31 ∨
      limits.freqConnectionRequest.toNat < 2 ^ 31)
    (hsplit : requests = earlier ++ request :: later) :
    Admits (width limits) (limit limits) (admitted (width limits) (limit limits) earlier)
      request := by
  by_contra hrefused
  have hupTo : InOrder (earlier ++ [request]) := (hsplit ▸ hord).upTo
  have hmany : limit limits < (within (request.seen - width limits) request.seen
      (admitted (width limits) (limit limits) earlier)).length := not_le.mp hrefused
  have hlimit := limit_eq limits
  have hlt := limits.maxConnectionRequest.toNat_lt
  by_cases hmc : limits.maxConnectionRequest.toNat < 2 ^ 31
  · -- those that have been accepted are too many
    have hatMost := h.atMost (request.seen - limits.freqConnectionRequest.toNat)
    rw [acceptedTimes_eq hord, sub_add_cancel] at hatMost
    have hsub : (admitted (width limits) (limit limits) earlier).Sublist
        (admitted (width limits) (limit limits) requests) := by
      rw [hsplit]
      exact admitted_sublist_append
    have hmore : (within (request.seen - width limits) request.seen
        (admitted (width limits) (limit limits) earlier)).length ≤
        (within (request.seen - limits.freqConnectionRequest.toNat) request.seen
          (admitted (width limits) (limit limits) requests)).length := by
      refine le_trans (length_within_le fun t _ hfirst hlast => ?_)
        (length_within_le_of_sublist hsub)
      have hwidth := width_le limits
      omega
    omega
  · -- the window never has the number the limit should be
    have hwidth : width limits = limits.freqConnectionRequest.toNat := by
      rw [width_eq_if, if_pos (hfit.resolve_left hmc)]
    have hnot : ¬accepted limits earlier request = true := fun haccepted =>
      hrefused ((accepted_iff hupTo).mp haccepted)
    have hfew := h.refused earlier request later hsplit (Bool.eq_false_iff.mpr hnot)
    have hlength : (within (request.seen - width limits)
        (request.seen - width limits + width limits)
        (admitted (width limits) (limit limits) earlier)).length ≤ limit limits + 1 :=
      length_within_admitted_le hupTo.left _
    rw [sub_add_cancel] at hlength
    rw [acceptedTimes_eq hupTo.left, ← hwidth] at hfew
    omega

/-- A sequence that is limited as it should be is quiet, unless neither limit fits an `int`. -/
theorem RateLimited.quiet (hord : InOrder requests) (h : RateLimited limits requests)
    (hfit : limits.maxConnectionRequest.toNat < 2 ^ 31 ∨
      limits.freqConnectionRequest.toNat < 2 ^ 31) : Quiet limits requests := by
  have hall : ∀ earlier later, requests = earlier ++ later →
      admitted (width limits) (limit limits) earlier = earlier.map Visit.stamp := by
    intro earlier later hsplit
    refine admitted_eq_of_admits fun pre v post hpre => ?_
    have hsplit' : requests = pre ++ v :: (post ++ later) := by
      rw [hsplit, hpre, List.append_assoc, List.cons_append]
    exact h.admits hord hfit hsplit'
  refine ⟨fun first => ?_, fun hmc earlier request later hsplit => ?_⟩
  · have hatMost := h.atMost first
    rwa [acceptedTimes_eq hord, hall requests [] (List.append_nil _).symm] at hatMost
  · have hadmits := h.admits hord hfit hsplit
    have hlt := limits.maxConnectionRequest.toNat_lt
    rw [hall earlier _ hsplit, Admits, limit_eq] at hadmits
    omega

/-- **The limit on connection requests** is what it should be for a quiet sequence, and, unless
neither limit fits an `int`, only for a quiet one. -/
theorem rateLimited_iff_quiet (limits : ConnectionLimits) (requests : List Visit)
    (hord : InOrder requests) :
    (Quiet limits requests → RateLimited limits requests) ∧
      (limits.maxConnectionRequest.toNat < 2 ^ 31 ∨ limits.freqConnectionRequest.toNat < 2 ^ 31 →
        RateLimited limits requests → Quiet limits requests) :=
  ⟨Quiet.rateLimited hord, fun hfit h => h.quiet hord hfit⟩

/-- Two requests in a minute. -/
theorem rateLimited_two_requests : RateLimited ⟨1, 60⟩ [⟨0, 0⟩, ⟨59, 60⟩] :=
  (rateLimited_iff_quiet ⟨1, 60⟩ [⟨0, 0⟩, ⟨59, 60⟩] ⟨by decide, by decide⟩).1
    ⟨fun _ => within_sublist.length_le, fun hmc => absurd hmc (by decide)⟩

/-- A third request in one second is accepted. -/
theorem not_rateLimited_three_requests :
    InOrder [⟨0, 0⟩, ⟨0, 0⟩, ⟨0, 0⟩] ∧ ¬RateLimited ⟨1, 60⟩ [⟨0, 0⟩, ⟨0, 0⟩, ⟨0, 0⟩] := by
  refine ⟨⟨by decide, by decide⟩, fun h => ?_⟩
  have hatMost := h.atMost 0
  revert hatMost
  decide

end Tr069
