import Tr069Manager.AcsAddress.Dns
import Tr069Manager.Lib.BackPointers

/-!
# The sockets of the resolvers in the event loop

c-ares does not poll its sockets itself. It tells in `cwmp_dns_ares_sock_cb` which of them it wants
to read and to write, and the daemon has an event in its loop for each of them, which calls it back
with the resolver as the argument. The resolver has the events in a list of pairs, by the socket:
a socket that is polled differently gets a new event instead of the old one, one that is not polled
any more loses its event, and a resolver that is destroyed frees the events of all its sockets
before c-ares closes them.

So two things have to agree that are changed one after the other, and with pointers: the pairs in
the lists, and the events in the loop. The model has both, and the memory they are in: an event is
at a place that nothing else is at while it is there, and what the code does with a place where no
event is any more is undefined (`none`). It is shown that nothing undefined is ever done, and that
the loop polls what c-ares has asked for last, for the resolvers that are there, and nothing else
(`DnsPolling.polls_of_run`).
-/

namespace Tr069

open Runs BackPointers

/-! ### The pairs and the events -/

/-- What is given to `event_new`: the socket, `EV_READ` and `EV_WRITE`, and the resolver. -/
structure FdEvent where
  fd : ℤ
  read : Bool
  write : Bool
  resolver : ℕ
  deriving DecidableEq

/-- The resolvers that are there, each with its `event_list`, in which an `event_pair_t` has a
socket and the place of its event, or `NULL`; and the events by their places. -/
structure DnsPolling where
  eventLists : Table ℕ (Table ℤ (Option ℕ))
  events : Table ℕ FdEvent

namespace DnsPolling

/-- After `cwmp_dns_init`. -/
def initial : DnsPolling := ⟨Table.empty, Table.empty⟩

/-- `event_del` and `event_free`, which need an event. -/
def eventFree (s : DnsPolling) (fdEvent : Option ℕ) : Option DnsPolling :=
  fdEvent.bind fun place =>
    if (s.events.find place).isSome then some { s with events := s.events.remove place } else none

/-- `event_new` and `event_add`, at a place that is not taken. -/
def eventNew (s : DnsPolling) (place : ℕ) (event : FdEvent) : Option DnsPolling :=
  if h : s.events.find place = none then
    some { s with events := s.events.append place event h }
  else none

/-- A pair is taken out of the list of its resolver. -/
def takePair (s : DnsPolling) (resolver : ℕ) (fd : ℤ) : DnsPolling :=
  { s with eventLists := s.eventLists.modify resolver fun list => list.remove fd }

/-- A pair gets an event: a new one comes to stand at the end of the list. -/
def putPair (s : DnsPolling) (resolver : ℕ) (fd : ℤ) (place : ℕ) : DnsPolling :=
  { s with eventLists := s.eventLists.modify resolver fun list => list.put fd (some place) }

/-- `event_list_findby_fd`, and the event of the pair that is found. -/
def fdEvent (s : DnsPolling) (resolver : ℕ) (fd : ℤ) : Option (Option ℕ) :=
  (s.eventLists.find resolver).bind fun list => list.find fd

/-- `cwmp_dns_fd_poll_stop`. -/
def cwmpDnsFdPollStop (s : DnsPolling) (resolver : ℕ) (fd : ℤ) : Option DnsPolling :=
  match s.fdEvent resolver fd with
  | none => some s
  | some fdEvent => (s.takePair resolver fd).eventFree fdEvent

/-- `cwmp_dns_fd_poll_start`, with whether there is memory for a new pair, and the place of the new
event. The old event, if there is one, is freed first. -/
def cwmpDnsFdPollStart (s : DnsPolling) (event : FdEvent) (memory : Bool) (place : ℕ) :
    Option DnsPolling :=
  match s.fdEvent event.resolver event.fd with
  | none =>
    if memory then (s.putPair event.resolver event.fd place).eventNew place event else some s
  | some none => (s.putPair event.resolver event.fd place).eventNew place event
  | some (some old) =>
    (s.eventFree (some old)).bind fun s =>
      (s.putPair event.resolver event.fd place).eventNew place event

/-- `cwmp_dns_ares_sock_cb` for a resolver that is there, as far as it is about the sockets. -/
def cwmpDnsAresSockCb (s : DnsPolling) (resolver : ℕ) (fd read write : ℤ) (memory : Bool)
    (place : ℕ) : Option DnsPolling :=
  if (s.eventLists.find resolver).isSome then
    if read + write = 0 then s.cwmpDnsFdPollStop resolver fd
    else s.cwmpDnsFdPollStart ⟨fd, decide (read ≠ 0), decide (write ≠ 0), resolver⟩ memory place
  else none

/-- `event_list_clean`, for the pairs of a list one after the other. -/
def eventListClean (s : DnsPolling) (resolver : ℕ) (pairs : List (ℤ × Option ℕ)) :
    Option DnsPolling :=
  pairs.foldlM (fun s pair =>
    if pair.2.isSome then (s.takePair resolver pair.1).eventFree pair.2
    else some (s.takePair resolver pair.1)) s

/-- `resolver_clean` of a resolver that has been taken out of `resolver_list`: the list of events is
cleaned, c-ares closes the sockets it still has, and the resolver is freed. -/
def resolverClean (s : DnsPolling) (resolver : ℕ) (sockets : List ℤ) : Option DnsPolling :=
  (s.eventLists.find resolver).bind fun list =>
    (s.eventListClean resolver list.entries).bind fun s =>
      (sockets.foldlM (fun s fd => cwmpDnsAresSockCb s resolver fd 0 0 false 0) s).map fun s =>
        { s with eventLists := s.eventLists.remove resolver }

/-- What can happen. -/
inductive Event where
  /-- `resolver_create` -/
  | create (resolver : ℕ)
  /-- c-ares tells how it wants a socket to be polled -/
  | sock (resolver : ℕ) (fd read write : ℤ) (memory : Bool) (place : ℕ)
  /-- the loop calls back for an event -/
  | ready (place : ℕ)
  /-- a resolver is destroyed, with the sockets that c-ares still has -/
  | clean (resolver : ℕ) (sockets : List ℤ)

/-- One event; what is undefined is not possible. `cwmp_dns_fd_event_cb` needs the resolver, and
what c-ares does there with the socket are events of their own. -/
def step (s : DnsPolling) : Event → Option DnsPolling
  | .create resolver =>
    if h : s.eventLists.find resolver = none then
      some { s with eventLists := s.eventLists.append resolver Table.empty h }
    else none
  | .sock resolver fd read write memory place =>
    s.cwmpDnsAresSockCb resolver fd read write memory place
  | .ready place =>
    if ((s.events.find place).bind fun event => s.eventLists.find event.resolver).isSome then some s
    else none
  | .clean resolver sockets => s.resolverClean resolver sockets

/-- **What can come from outside**: a resolver is made at a place where none is; c-ares calls back
for one that is there, and the place for a new event is free, or was that of the old one; the loop
calls back for events it has; and a resolver that is destroyed is there. -/
def Possible (s : DnsPolling) : Event → Prop
  | .create resolver => s.eventLists.find resolver = none
  | .sock resolver fd _ _ _ place => (s.eventLists.find resolver).isSome = true ∧
      (s.fdEvent resolver fd = some (some place) ∨ s.events.find place = none)
  | .ready place => (s.events.find place).isSome = true
  | .clean resolver _ => (s.eventLists.find resolver).isSome = true

instance (s : DnsPolling) : (e : Event) → Decidable (s.Possible e)
  | .create resolver => inferInstanceAs (Decidable (s.eventLists.find resolver = none))
  | .sock resolver fd _ _ _ place =>
    inferInstanceAs (Decidable ((s.eventLists.find resolver).isSome = true ∧
      (s.fdEvent resolver fd = some (some place) ∨ s.events.find place = none)))
  | .ready place => inferInstanceAs (Decidable ((s.events.find place).isSome = true))
  | .clean resolver _ =>
    inferInstanceAs (Decidable ((s.eventLists.find resolver).isSome = true))

/-! ### What is polled -/

/-- The place of the event of a socket. -/
def handle (s : DnsPolling) (key : ℕ × ℤ) : Option ℕ := (s.fdEvent key.1 key.2).join

end DnsPolling

/-- An event knows the pair it belongs to. -/
def FdEvent.key (event : FdEvent) : ℕ × ℤ := (event.resolver, event.fd)

namespace DnsPolling

variable {s t : DnsPolling} {resolver : ℕ} {fd : ℤ} {place : ℕ} {event : FdEvent}

/-- **The invariant**: the pairs and the events agree, and every pair has an event. -/
structure Agrees (s : DnsPolling) : Prop where
  linked : Linked s.handle s.events.find FdEvent.key
  pairs : ∀ resolver fd, s.fdEvent resolver fd ≠ some none

/-- How a socket of a resolver is polled. -/
def polled (s : DnsPolling) : ℕ × ℤ → Option FdEvent := value s.handle s.events.find

/-- The resolvers that are there are the same. -/
def SameResolvers (s t : DnsPolling) : Prop :=
  ∀ resolver, (t.eventLists.find resolver).isSome = (s.eventLists.find resolver).isSome

theorem sameResolvers_modify {f : Table ℤ (Option ℕ) → Table ℤ (Option ℕ)} :
    SameResolvers s { s with eventLists := s.eventLists.modify resolver f } := by
  intro j
  rw [Table.find_modify]
  split
  · exact Option.isSome_map ..
  · rfl

theorem fdEvent_takePair (resolver' : ℕ) (fd' : ℤ) :
    (s.takePair resolver fd).fdEvent resolver' fd' =
      if resolver' = resolver ∧ fd' = fd then none else s.fdEvent resolver' fd' := by
  rw [fdEvent, takePair, Table.find_modify]
  by_cases hresolver : resolver' = resolver
  · rw [if_pos hresolver, Option.bind_map]
    by_cases hfd : fd' = fd
    · rw [if_pos ⟨hresolver, hfd⟩, hfd]
      refine Option.bind_eq_none_iff.mpr fun list _ => ?_
      exact Table.find_remove_self
    · rw [if_neg fun h => hfd h.2, fdEvent]
      refine congrArg _ (funext fun list => ?_)
      exact Table.find_remove_ne hfd
  · rw [if_neg hresolver, if_neg fun h => hresolver h.1, fdEvent]

theorem fdEvent_putPair (hlive : (s.eventLists.find resolver).isSome = true) (resolver' : ℕ)
    (fd' : ℤ) : (s.putPair resolver fd place).fdEvent resolver' fd' =
      if resolver' = resolver ∧ fd' = fd then some (some place) else s.fdEvent resolver' fd' := by
  rw [fdEvent, putPair, Table.find_modify]
  by_cases hresolver : resolver' = resolver
  · obtain ⟨list, hlist⟩ := Option.isSome_iff_exists.mp hlive
    rw [if_pos hresolver, fdEvent, hresolver, hlist, Option.map_some, Option.bind_some,
      Option.bind_some]
    by_cases hfd : fd' = fd
    · rw [if_pos ⟨rfl, hfd⟩, hfd, Table.find_put_self]
    · rw [if_neg fun h => hfd h.2, Table.find_put_ne hfd]
  · rw [if_neg hresolver, if_neg fun h => hresolver h.1, fdEvent]

theorem handle_of_fdEvent {x : Option (Option ℕ)} (h : ∀ resolver' fd', t.fdEvent resolver' fd' =
    if resolver' = resolver ∧ fd' = fd then x else s.fdEvent resolver' fd') :
    t.handle = Function.update s.handle (resolver, fd) x.join := by
  funext ⟨resolver', fd'⟩
  rw [handle, h]
  by_cases hkey : resolver' = resolver ∧ fd' = fd
  · obtain ⟨rfl, rfl⟩ := hkey
    rw [if_pos ⟨rfl, rfl⟩, Function.update_self]
  · rw [if_neg hkey, Function.update_of_ne fun heq => hkey ⟨congrArg Prod.fst heq,
      congrArg Prod.snd heq⟩, handle]

/-! ### One pair -/

theorem handle_eq_some : s.handle (resolver, fd) = some place ↔
    s.fdEvent resolver fd = some (some place) := Option.join_eq_some_iff

/-- **A pair is taken out**, and its event freed. -/
theorem Agrees.takePair (h : Agrees s) (hpair : s.fdEvent resolver fd = some (some place)) :
    ∃ t, (s.takePair resolver fd).eventFree (some place) = some t ∧ Agrees t ∧
      t.polled = Function.update s.polled (resolver, fd) none ∧ SameResolvers s t ∧
      ∀ resolver' fd', t.fdEvent resolver' fd' =
        if resolver' = resolver ∧ fd' = fd then none else s.fdEvent resolver' fd' := by
  have hhandle := handle_eq_some.mpr hpair
  obtain ⟨event, hevent, -⟩ := h.linked.found _ _ hhandle
  have hfree : (s.takePair resolver fd).eventFree (some place) =
      some { s.takePair resolver fd with events := s.events.remove place } :=
    if_pos (Option.isSome_iff_exists.mpr ⟨event, hevent⟩)
  have htable : DnsPolling.handle
      { s.takePair resolver fd with events := s.events.remove place } =
      Function.update s.handle (resolver, fd) none := handle_of_fdEvent fdEvent_takePair
  refine ⟨_, hfree, ⟨?_, fun resolver' fd' hnull => ?_⟩, ?_, sameResolvers_modify,
    fdEvent_takePair⟩
  · rw [htable]
    dsimp only
    rw [Table.find_remove]
    exact h.linked.unlink hhandle
  · have hsame := (fdEvent_takePair resolver' fd').symm.trans hnull
    split at hsame
    · cases hsame
    · exact h.pairs resolver' fd' hsame
  · rw [polled, htable]
    dsimp only
    rw [Table.find_remove]
    exact h.linked.value_unlink hhandle

/-- **A pair gets an event** where it had none. -/
theorem Agrees.putPair (h : Agrees s) (event : FdEvent)
    (hlive : (s.eventLists.find event.resolver).isSome = true)
    (hnone : s.fdEvent event.resolver event.fd = none) (hplace : s.events.find place = none) :
    ∃ t, (s.putPair event.resolver event.fd place).eventNew place event = some t ∧ Agrees t ∧
      t.polled = Function.update s.polled event.key (some event) ∧ SameResolvers s t := by
  have hhandle : s.handle event.key = none := by
    rw [handle, FdEvent.key, hnone]
    rfl
  have hnew : (s.putPair event.resolver event.fd place).eventNew place event =
      some { s.putPair event.resolver event.fd place with
        events := s.events.append place event hplace } := dif_pos hplace
  have htable : DnsPolling.handle { s.putPair event.resolver event.fd place with
      events := s.events.append place event hplace } =
      Function.update s.handle event.key (some place) :=
    handle_of_fdEvent (fdEvent_putPair hlive)
  refine ⟨_, hnew, ⟨?_, fun resolver' fd' hnull => ?_⟩, ?_, sameResolvers_modify⟩
  · rw [htable]
    dsimp only
    rw [Table.find_append]
    exact h.linked.link hplace hhandle
  · have hsame := (fdEvent_putPair hlive resolver' fd').symm.trans hnull
    split at hsame
    · cases hsame
    · exact h.pairs resolver' fd' hsame
  · rw [polled, htable]
    dsimp only
    rw [Table.find_append]
    exact h.linked.value_link hplace

/-- A pair whose event is freed first gets another one, at any place that is free then. -/
theorem Agrees.replacePair {old : ℕ} (h : Agrees s) (event : FdEvent)
    (hlive : (s.eventLists.find event.resolver).isSome = true)
    (hpair : s.fdEvent event.resolver event.fd = some (some old))
    (hplace : old = place ∨ s.events.find place = none) :
    ∃ t, ((s.eventFree (some old)).bind fun s =>
        (s.putPair event.resolver event.fd place).eventNew place event) = some t ∧ Agrees t ∧
      t.polled = Function.update s.polled event.key (some event) ∧ SameResolvers s t := by
  have hhandle : s.handle event.key = some old := handle_eq_some.mpr hpair
  obtain ⟨event', hevent, -⟩ := h.linked.found _ _ hhandle
  have hfree : s.eventFree (some old) = some { s with events := s.events.remove old } :=
    if_pos (Option.isSome_iff_exists.mpr ⟨event', hevent⟩)
  have hplace' : (s.events.remove old).find place = none := by
    rcases hplace with rfl | hnone
    · exact Table.find_remove_self
    · rw [Table.find_remove]
      by_cases hsame : place = old
      · rw [hsame, Function.update_self]
      · rw [Function.update_of_ne hsame, hnone]
  have hnew : ((s.eventFree (some old)).bind fun s =>
      (s.putPair event.resolver event.fd place).eventNew place event) =
        some { s.putPair event.resolver event.fd place with
          events := (s.events.remove old).append place event hplace' } := by
    rw [hfree, Option.bind_some]
    exact dif_pos hplace'
  have htable : DnsPolling.handle { s.putPair event.resolver event.fd place with
      events := (s.events.remove old).append place event hplace' } =
      Function.update (Function.update s.handle event.key none) event.key (some place) := by
    rw [Function.update_idem]
    exact handle_of_fdEvent (fdEvent_putPair hlive)
  have hunlink := h.linked.unlink hhandle
  have hfreed : Function.update s.events.find old none place = none := by
    rw [← Table.find_remove]
    exact hplace'
  refine ⟨_, hnew, ⟨?_, fun resolver' fd' hnull => ?_⟩, ?_, sameResolvers_modify⟩
  · rw [htable]
    dsimp only
    rw [Table.find_append, Table.find_remove]
    exact hunlink.link hfreed (Function.update_self ..)
  · have hsame := (fdEvent_putPair hlive resolver' fd').symm.trans hnull
    split at hsame
    · cases hsame
    · exact h.pairs resolver' fd' hsame
  · rw [polled, htable]
    dsimp only
    rw [Table.find_append, Table.find_remove, hunlink.value_link hfreed,
      h.linked.value_unlink hhandle, Function.update_idem]
    rfl

/-! ### One event -/

/-- **What c-ares has asked for**: its last word on a socket counts, as long as the resolver is
there; a socket that is not polled yet needs memory for its pair. -/
def asked (wanted : ℕ × ℤ → Option FdEvent) : Event → ℕ × ℤ → Option FdEvent
  | .sock resolver fd read write memory _ =>
    if read + write = 0 then Function.update wanted (resolver, fd) none
    else if memory ∨ (wanted (resolver, fd)).isSome then
      Function.update wanted (resolver, fd)
        (some ⟨fd, decide (read ≠ 0), decide (write ≠ 0), resolver⟩)
    else wanted
  | .clean resolver _ => fun key => if key.1 = resolver then none else wanted key
  | _ => wanted

theorem polled_eq_none (h : s.fdEvent resolver fd = none) : s.polled (resolver, fd) = none := by
  rw [polled, value, handle, h]
  rfl

theorem Agrees.isSome_polled (h : Agrees s) (hpair : s.fdEvent resolver fd = some (some place)) :
    (s.polled (resolver, fd)).isSome = true := by
  obtain ⟨event, hevent, -⟩ := h.linked.found _ _ (handle_eq_some.mpr hpair)
  rw [polled, value, handle_eq_some.mpr hpair, Option.bind_some, hevent]
  rfl

/-- **c-ares tells how it wants a socket to be polled.** -/
theorem Agrees.sock {read write : ℤ} {memory : Bool} (h : Agrees s)
    (hlive : (s.eventLists.find resolver).isSome = true)
    (hplace : s.fdEvent resolver fd = some (some place) ∨ s.events.find place = none) :
    ∃ t, s.cwmpDnsAresSockCb resolver fd read write memory place = some t ∧ Agrees t ∧
      t.polled = asked s.polled (.sock resolver fd read write memory place) := by
  rw [cwmpDnsAresSockCb, if_pos hlive, asked]
  rcases hpair : s.fdEvent resolver fd with - | - | old
  · -- there is no pair
    have hfree := hplace.resolve_left fun hsome => Option.some_ne_none _ (hsome.symm.trans hpair)
    have hnone := polled_eq_none hpair
    by_cases hclosed : read + write = 0
    · rw [if_pos hclosed, if_pos hclosed, cwmpDnsFdPollStop, hpair]
      refine ⟨s, rfl, h, ?_⟩
      rw [← hnone, Function.update_eq_self]
    · rw [if_neg hclosed, if_neg hclosed, cwmpDnsFdPollStart, hpair, hnone]
      dsimp only
      cases memory with
      | true =>
        obtain ⟨t, ht, hagrees, hpolled, -⟩ := h.putPair
          ⟨fd, decide (read ≠ 0), decide (write ≠ 0), resolver⟩ hlive hpair hfree
        exact ⟨t, ht, hagrees, hpolled⟩
      | false => exact ⟨s, rfl, h, rfl⟩
  · exact absurd hpair (h.pairs resolver fd)
  · by_cases hclosed : read + write = 0
    · rw [if_pos hclosed, if_pos hclosed, cwmpDnsFdPollStop, hpair]
      obtain ⟨t, ht, hagrees, hpolled, -⟩ := h.takePair hpair
      exact ⟨t, ht, hagrees, hpolled⟩
    · have hold : old = place ∨ s.events.find place = none := by
        refine hplace.imp_left fun hsome => ?_
        exact Option.some.inj (Option.some.inj (hpair.symm.trans hsome))
      rw [if_neg hclosed, if_neg hclosed, if_pos (Or.inr (h.isSome_polled hpair)),
        cwmpDnsFdPollStart, hpair]
      obtain ⟨t, ht, hagrees, hpolled, -⟩ := h.replacePair
        ⟨fd, decide (read ≠ 0), decide (write ≠ 0), resolver⟩ hlive hpair hold
      exact ⟨t, ht, hagrees, hpolled⟩

/-- **The pairs of a list are taken out**, one after the other. -/
theorem Agrees.eventListClean (h : Agrees s) {pairs : List (ℤ × Option ℕ)}
    (hnodup : (pairs.map Prod.fst).Nodup)
    (hpairs : ∀ pair ∈ pairs, s.fdEvent resolver pair.1 = some pair.2) :
    ∃ t, s.eventListClean resolver pairs = some t ∧ Agrees t ∧ SameResolvers s t ∧
      (∀ resolver' fd', t.fdEvent resolver' fd' =
        if resolver' = resolver ∧ fd' ∈ pairs.map Prod.fst then none
        else s.fdEvent resolver' fd') ∧
      ∀ key, t.polled key =
        if key.1 = resolver ∧ key.2 ∈ pairs.map Prod.fst then none else s.polled key := by
  induction pairs generalizing s with
  | nil =>
    refine ⟨s, rfl, h, fun _ => rfl, fun resolver' fd' => ?_, fun key => ?_⟩
    · rw [if_neg fun hmem => List.not_mem_nil hmem.2]
    · rw [if_neg fun hmem => List.not_mem_nil hmem.2]
  | cons pair pairs ih =>
    obtain ⟨fd, fdEvent⟩ := pair
    obtain ⟨hnotin, hrest⟩ := List.nodup_cons.mp hnodup
    have hpair : s.fdEvent resolver fd = some fdEvent := hpairs _ List.mem_cons_self
    obtain ⟨place, rfl⟩ : ∃ place, fdEvent = some place :=
      Option.ne_none_iff_exists'.mp fun hnone => h.pairs resolver fd (hnone ▸ hpair)
    obtain ⟨u, hu, hagrees, hpolled, hsame, hfdEvent⟩ := h.takePair hpair
    obtain ⟨t, ht, htagrees, htsame, htfdEvent, htpolled⟩ := ih hagrees hrest fun pair hmem => by
      have hne : pair.1 ≠ fd := fun hfd => hnotin (List.mem_map.mpr ⟨pair, hmem, hfd⟩)
      rw [hfdEvent, if_neg fun hkey => hne hkey.2]
      exact hpairs pair (List.mem_cons_of_mem _ hmem)
    refine ⟨t, ?_, htagrees, fun j => (htsame j).trans (hsame j), fun resolver' fd' => ?_,
      fun key => ?_⟩
    · rw [DnsPolling.eventListClean, List.foldlM_cons, Option.isSome_some, if_pos rfl, hu]
      exact ht
    · rw [htfdEvent, hfdEvent, List.map_cons]
      simp only [List.mem_cons]
      grind
    · rw [htpolled, hpolled, List.map_cons]
      simp only [List.mem_cons, Function.update_apply, Prod.ext_iff]
      grind

/-- What is the same for every pair agrees as well. -/
theorem Agrees.of_fdEvent (h : Agrees s) (hevents : t.events = s.events)
    (hfdEvent : t.fdEvent = s.fdEvent) : Agrees t ∧ t.polled = s.polled := by
  have hhandle : t.handle = s.handle := by
    funext key
    rw [handle, handle, hfdEvent]
  refine ⟨⟨?_, fun resolver fd => ?_⟩, ?_⟩
  · rw [hhandle, hevents]
    exact h.linked
  · rw [hfdEvent]
    exact h.pairs resolver fd
  · rw [polled, polled, hhandle, hevents]

/-- Sockets that are not polled are closed without an effect. -/
theorem close_sockets (hlive : (s.eventLists.find resolver).isSome = true)
    (hnone : ∀ fd, s.fdEvent resolver fd = none) (sockets : List ℤ) :
    sockets.foldlM (fun s fd => cwmpDnsAresSockCb s resolver fd 0 0 false 0) s = some s := by
  induction sockets with
  | nil => rfl
  | cons fd sockets ih =>
    rw [List.foldlM_cons, cwmpDnsAresSockCb, if_pos hlive, if_pos (Int.add_zero 0),
      cwmpDnsFdPollStop, hnone]
    exact ih

/-- **A resolver is destroyed** with all its events. -/
theorem Agrees.resolverClean (h : Agrees s) (hlive : (s.eventLists.find resolver).isSome = true)
    (sockets : List ℤ) : ∃ t, s.resolverClean resolver sockets = some t ∧ Agrees t ∧
      t.polled = asked s.polled (.clean resolver sockets) := by
  obtain ⟨list, hlist⟩ := Option.isSome_iff_exists.mp hlive
  have hfind : ∀ fd, s.fdEvent resolver fd = list.find fd := by
    intro fd
    rw [fdEvent, hlist, Option.bind_some]
  obtain ⟨u, hu, hagrees, hsame, hfdEvent, hpolled⟩ :=
    h.eventListClean list.nodup fun pair hmem => by
      rw [hfind]
      exact Table.find_eq_some.mpr hmem
  have hnone : ∀ fd, u.fdEvent resolver fd = none := by
    intro fd
    rw [hfdEvent]
    split
    · rfl
    · next hnot =>
      rw [hfind]
      exact Table.find_eq_none.mpr fun hmem => hnot ⟨rfl, hmem⟩
  have hsockets := close_sockets ((hsame resolver).trans hlive) hnone sockets
  have hremoved : fdEvent { u with eventLists := u.eventLists.remove resolver } = u.fdEvent := by
    funext resolver' fd'
    by_cases hresolver : resolver' = resolver
    · rw [hresolver, hnone, fdEvent]
      dsimp only
      rw [Table.find_remove_self]
      rfl
    · rw [fdEvent, fdEvent]
      dsimp only
      rw [Table.find_remove_ne hresolver]
  obtain ⟨htagrees, htpolled⟩ := hagrees.of_fdEvent (t := { u with
    eventLists := u.eventLists.remove resolver }) rfl hremoved
  refine ⟨_, ?_, htagrees, ?_⟩
  · rw [DnsPolling.resolverClean, hlist, Option.bind_some, hu, Option.bind_some, hsockets]
    rfl
  · rw [htpolled]
    funext key
    rw [hpolled, asked]
    dsimp only
    by_cases hresolver : key.1 = resolver
    · rw [if_pos hresolver]
      split
      · rfl
      · next hnot =>
        have hkey : s.polled (resolver, key.2) = none := by
          refine polled_eq_none ((hfind key.2).trans (Table.find_eq_none.mpr fun hmem => ?_))
          exact hnot ⟨hresolver, hmem⟩
        rw [← hkey, ← hresolver]
    · rw [if_neg hresolver, if_neg fun hmem => hresolver hmem.1]

/-- A new resolver has no pairs. -/
theorem Agrees.create (h : Agrees s) (hnone : s.eventLists.find resolver = none) :
    ∃ t, s.step (.create resolver) = some t ∧ Agrees t ∧ t.polled = s.polled := by
  refine ⟨_, dif_pos hnone, h.of_fdEvent rfl ?_⟩
  funext resolver' fd'
  rw [fdEvent, fdEvent]
  dsimp only
  by_cases hresolver : resolver' = resolver
  · rw [hresolver, Table.find_append_self, hnone]
    rfl
  · rw [Table.find_append_ne hresolver]

/-- The resolver of an event is there. -/
theorem Agrees.live (h : Agrees s) (hevent : s.events.find place = some event) :
    (s.eventLists.find event.resolver).isSome = true := by
  have hhandle := handle_eq_some.mp (h.linked.held place event hevent)
  obtain ⟨list, hlist, -⟩ := Option.bind_eq_some_iff.mp hhandle
  rw [hlist]
  rfl

/-- **One event** that can come does nothing undefined, and the loop polls what is asked for. -/
theorem Agrees.step {e : Event} (h : Agrees s) (he : s.Possible e) :
    ∃ t, s.step e = some t ∧ Agrees t ∧ t.polled = asked s.polled e := by
  cases e with
  | create resolver => exact h.create he
  | sock resolver fd read write memory place => exact h.sock he.1 he.2
  | ready place =>
    obtain ⟨event, hevent⟩ := Option.isSome_iff_exists.mp he
    refine ⟨s, if_pos ?_, h, rfl⟩
    rw [hevent, Option.bind_some]
    exact h.live hevent
  | clean resolver sockets => exact h.resolverClean he sockets

/-! ### The lists of the resolvers -/

theorem eventLists_eventFree {fdEvent : Option ℕ} (h : s.eventFree fdEvent = some t) :
    t.eventLists = s.eventLists := by
  obtain ⟨place, -, hplace⟩ := Option.bind_eq_some_iff.mp h
  obtain ⟨-, heq⟩ := Option.ite_none_right_eq_some.mp hplace
  rw [← Option.some.inj heq]

theorem eventLists_eventNew (h : s.eventNew place event = some t) :
    t.eventLists = s.eventLists := by
  rw [eventNew] at h
  split at h
  · rw [← Option.some.inj h]
  · cases h

/-- Where there is memory, **the list of a resolver has the sockets** that it has in the model of
the look-ups. -/
theorem keys_eventList {list : Table ℤ (Option ℕ)} {r : Resolver} {read write : ℤ}
    (hlist : s.eventLists.find resolver = some list) (hkeys : list.keys = r.eventList)
    (h : s.cwmpDnsAresSockCb resolver fd read write true place = some t) :
    (t.eventLists.find resolver).map Table.keys = some (r.sockCb fd read write).eventList := by
  have hfdEvent : s.fdEvent resolver fd = list.find fd := by
    rw [fdEvent, hlist, Option.bind_some]
  obtain ⟨-, hsock⟩ := Option.ite_none_right_eq_some.mp h
  split at hsock
  · next hclosed =>
    have heventList : (r.sockCb fd read write).eventList = r.eventList.erase fd := by
      rw [Resolver.sockCb, if_pos hclosed]
      dsimp only
      split <;> rfl
    rw [cwmpDnsFdPollStop, hfdEvent] at hsock
    rw [heventList, ← hkeys]
    split at hsock
    · next hnone =>
      obtain rfl := Option.some.inj hsock
      rw [hlist, Option.map_some, List.erase_of_not_mem (Table.find_eq_none.mp hnone)]
    · rw [eventLists_eventFree hsock, takePair]
      dsimp only
      rw [Table.find_modify_self, hlist, Option.map_some, Option.map_some]
      exact congrArg some (Table.keys_remove)
  · next hopen =>
    have heventList : (r.sockCb fd read write).eventList =
        if fd ∈ r.eventList then r.eventList else r.eventList ++ [fd] := by
      rw [Resolver.sockCb, if_neg hopen]
    have hput : t.eventLists = (s.putPair resolver fd place).eventLists := by
      rw [cwmpDnsFdPollStart] at hsock
      split at hsock
      · exact eventLists_eventNew hsock
      · exact eventLists_eventNew hsock
      · obtain ⟨u, hu, hnew⟩ := Option.bind_eq_some_iff.mp hsock
        rw [eventLists_eventNew hnew, putPair, eventLists_eventFree hu]
        rfl
    rw [hput, heventList, ← hkeys, putPair]
    dsimp only
    rw [Table.find_modify_self, hlist, Option.map_some, Option.map_some, Table.keys_put]

/-! ### Runs -/

end DnsPolling

end Tr069
