import Mathlib.Data.Int.Notation
import Tr069Manager.AcsAddress.Selection
import Tr069Manager.Lib.Runs
import Tr069Manager.Lib.Table

/-!
# The resolution of the host of the ACS

`dmmain/cwmpd_dns.c`. A request to resolve the host of the ACS URL makes a resolver of its own and
marks the earlier ones as dirty, for their answers are not to be used any more. The resolver stays
in a list until a timer cleans it up some time after its answer, or after it has no socket left;
c-ares calls back once for a query, at the latest when the resolver is destroyed. An answer puts the
addresses into the data model and arms the timer for the next look-up; a failure, of the query or of
the request, arms it for a retry in five seconds. The change of the URL leaves a bootstrap to be
sent, which is asked for when the resolution comes to its end.

The model is a system of the daemon and what goes on around it: what the data model answers, the
callbacks of c-ares and the timers, in any order. Resolvers are known by their addresses in memory,
so that a new one has one that no other has. The history of a state is not read by the daemon.
-/

namespace Tr069

/-! ### The data -/

/-- What is not in the source: the host in the text of a URL (`lws_parse_uri`), and whether a text
is an address (`inet_pton`). -/
structure UriLibrary where
  lwsParseUri : CString → Option CString
  isIpaddr : CString → Bool

/-- A library for the examples: a URL is its host, and one host is an address. -/
def exampleLibrary : UriLibrary where
  lwsParseUri := some
  isIpaddr := fun host => host = "192.0.2.1".toList

/-- What the data model answers: the URL of the ACS and the number in `PeriodicInformInterval`,
or nothing where a read fails. -/
structure DnsReads where
  acsurl : Option CString
  periodicInformInterval : Option Int32

/-- `resolver_t`: `queried` until c-ares has called back, the sockets in its event list, whether
there is a timer to clean it up, and the timer for time-outs, which runs or is stopped, if there is
one. -/
structure Resolver where
  host : CString
  dirty : Bool
  queried : Bool
  eventList : List ℤ
  cleanTimer : Bool
  timeoutTimer : Option Bool

namespace Resolver

/-- `resolver_clean_timer_start`. -/
def cleanTimerStart (r : Resolver) : Resolver := { r with cleanTimer := true }

/-- `amxp_timer_stop` of the timer for time-outs, if there is one. -/
def timeoutTimerStop (r : Resolver) : Resolver :=
  { r with timeoutTimer := r.timeoutTimer.map fun _ => false }

/-- `cwmp_dns_ares_sock_cb`: a socket that is neither read nor written is not polled any more. -/
def sockCb (r : Resolver) (fd read write : ℤ) : Resolver :=
  if read + write = 0 then
    let r := { r with eventList := r.eventList.erase fd }
    if r.eventList = [] then r.timeoutTimerStop.cleanTimerStart else r
  else
    { r with
      eventList := if fd ∈ r.eventList then r.eventList else r.eventList ++ [fd]
      timeoutTimer := r.timeoutTimer.or (some true) }

/-- The first lines of `cwmp_dns_resolve_cb`; the query is over. -/
def called (r : Resolver) : Resolver :=
  { r.timeoutTimerStop.cleanTimerStart with queried := false }

end Resolver

/-- An address of an answer. -/
structure AddrinfoNode where
  ip : CString
  ttl : Int32

/-- What has happened: the host the latest request to resolve has seen, if the URL has not changed
to one that cannot be read since, and the latest that was seen at all; the host the addresses in the
data model are for; how often the URL has changed and a bootstrap has been asked for; whether one
is owed, for there has been none since the last change; and whether a resolution has come to its end
since. -/
structure DnsHistory where
  seen : Option CString
  parsed : Option CString
  publishedFor : Option CString
  changes : ℕ
  bootstraps : ℕ
  owed : Bool
  completed : Bool

/-- The history when a request to resolve comes, with the host it sees. -/
def DnsHistory.requested (h : DnsHistory) (urlChanged : Bool) (host : Option CString) :
    DnsHistory :=
  { h with
    seen := if urlChanged then host else host.or h.seen
    parsed := host.or h.parsed
    changes := if urlChanged then h.changes + 1 else h.changes
    owed := urlChanged || h.owed
    completed := !urlChanged && h.completed }

/-- The static variables of the module, the two parameters it sets and reads, and the history. The
timer for the next look-up has the milliseconds it still waits, if it is armed. -/
structure Dns where
  reads : DnsReads
  acsiplist : CString
  dnsTtlTimer : Option ℕ
  dnsTtlVal : Int32
  ainfoList : List CString
  resolverList : Table ℕ Resolver
  sendBootstrap : Bool
  history : DnsHistory

namespace Dns

/-- After `cwmp_dns_init`. -/
def initial (reads : DnsReads) : Dns where
  reads := reads
  acsiplist := []
  dnsTtlTimer := none
  dnsTtlVal := 0
  ainfoList := []
  resolverList := Table.empty
  sendBootstrap := false
  history := ⟨none, none, none, 0, 0, false, false⟩

/-! ### Publishing addresses -/

/-- `amxp_timer_start` of the timer for the next look-up. -/
def startTtlTimer (s : Dns) (ms : UInt32) : Dns := { s with dnsTtlTimer := some ms.toNat }

/-- `cwmp_dns_update_dm`. -/
def updateDm (s : Dns) : Dns := { s with acsiplist := addrListStr s.ainfoList, ainfoList := [] }

/-- `cwmp_dns_schedule`. -/
def schedule (s : Dns) : Dns :=
  let val :=
    if s.dnsTtlVal ≤ 0 ∨ s.dnsTtlVal = Int32.maxValue then
      s.reads.periodicInformInterval.getD 300
    else s.dnsTtlVal
  { s with dnsTtlVal := val }.startTtlTimer (val * 1000).toUInt32

/-- One round of the loop of `cwmp_dns_read_ai`: a node without an address is passed over. -/
def readNode (s : Dns) (node : AddrinfoNode) : Dns :=
  if node.ip = [] then s
  else
    { s with
      ainfoList := s.ainfoList ++ [node.ip]
      dnsTtlVal := if s.dnsTtlVal > node.ttl then node.ttl else s.dnsTtlVal }

/-- `cwmp_dns_read_ai`: the addresses, and the lowest TTL. -/
def readAi (s : Dns) (nodes : List AddrinfoNode) : Dns :=
  nodes.foldl readNode { s with ainfoList := [], dnsTtlVal := Int32.maxValue }

/-- `if(send_bootstrap)`, and `DM_ENG_InformMessageScheduler_bootstrapInform` in it. -/
def bootstrapInform (s : Dns) : Dns :=
  if s.sendBootstrap then
    { s with
      sendBootstrap := false
      history := { s.history with bootstraps := s.history.bootstraps + 1, owed := false } }
  else s

/-- `cwmp_dns_set_static_ip`; the address stays in the list. -/
def setStaticIp (s : Dns) (host : CString) : Dns :=
  { s with
    ainfoList := [host]
    acsiplist := host
    history := { s.history with publishedFor := some host, completed := true } }

/-! ### The callbacks -/

/-- The rest of `cwmp_dns_resolve_cb`, for a resolver that is dirty or not: a success needs a node
in the answer. -/
def resolveCb (s : Dns) (r : Resolver) (success : Bool) (ai : Option (List AddrinfoNode)) : Dns :=
  if r.dirty then s
  else
    let nodes := ai.getD []
    let s :=
      if success ∧ nodes ≠ [] then
        let s := ((s.readAi nodes).updateDm).schedule
        { s with history := { s.history with publishedFor := some r.host } }
      else s.startTtlTimer (5 * 1000)
    { s with history := { s.history with completed := true } }.bootstrapInform

/-- c-ares calls back for the query of a resolver in the list. -/
def answered (s : Dns) (id : ℕ) (success : Bool) (ai : Option (List AddrinfoNode)) : Option Dns :=
  match s.resolverList.find id with
  | some r =>
    if r.queried then
      let s := { s with resolverList := s.resolverList.modify id Resolver.called }
      some (s.resolveCb r success ai)
    else none
  | none => none

/-- `resolver_clean_timer_cb`: the resolver is taken out of the list and destroyed, and c-ares
calls back for a query that is still open. -/
def cleaned (s : Dns) (id : ℕ) : Option Dns :=
  match s.resolverList.find id with
  | some r =>
    if r.cleanTimer then
      let s := { s with resolverList := s.resolverList.remove id }
      some (if r.queried then s.resolveCb r false none else s)
    else none
  | none => none

/-! ### Requests -/

/-- `mark_resolvers_as_dirty`. -/
def markResolversAsDirty (s : Dns) : Dns :=
  { s with resolverList := s.resolverList.mapValues fun r => { r with dirty := true } }

/-- A resolver with a query, as `resolver_create` and `ares_getaddrinfo` make it. -/
def newResolver (host : CString) : Resolver := ⟨host, false, true, [], false, none⟩

/-- What is done first for a URL that has changed and can be read. -/
def urlChangedTo (s : Dns) : Dns :=
  { s with ainfoList := [], acsiplist := [], sendBootstrap := true }

/-- A timer that still has time to wait is stopped. -/
def stopTtlTimer (s : Dns) : Dns :=
  { s with dnsTtlTimer := s.dnsTtlTimer.filter fun ms => ms = 0 }

/-- The end of `cwmp_dns_resolve` where it has failed. -/
def retryLater (s : Dns) : Dns := s.startTtlTimer (5 * 1000)

/-- `cwmp_dns_get_host` of the URL, if that can be read. -/
def acsHost (lib : UriLibrary) (s : Dns) : Option CString := s.reads.acsurl.bind lib.lwsParseUri

/-- What a request does before it looks at the host. -/
def prepared (s : Dns) (urlChanged : Bool) : Dns :=
  ((if urlChanged then s.urlChangedTo else s).stopTtlTimer).markResolversAsDirty

/-- `cwmp_dns_ares_resolution`, with the place of the new resolver in memory, or none if it cannot
be made. A place that is taken is not possible. -/
def aresResolution (s : Dns) (host : CString) (place : Option ℕ) : Option Dns :=
  match place with
  | none => some s.retryLater
  | some id =>
    if h : s.resolverList.find id = none then
      some { s with resolverList := s.resolverList.append id (newResolver host) h }
    else none

/-- `cwmp_dns_resolve`. -/
def cwmpDnsResolve (lib : UriLibrary) (s : Dns) (urlChanged : Bool) (place : Option ℕ) :
    Option Dns :=
  let s := { s with history := s.history.requested urlChanged (s.acsHost lib) }
  match s.acsHost lib with
  | none => some s.retryLater
  | some host =>
    let s := s.prepared urlChanged
    if host = [] then some s
    else if lib.isIpaddr host then some (s.setStaticIp host).bootstrapInform
    else s.aresResolution host place

end Dns

/-! ### The system -/

/-- What can happen. -/
inductive DnsEvent where
  /-- the data model answers differently from now on -/
  | read (reads : DnsReads)
  /-- a request to resolve; a changed URL is one of the causes -/
  | resolve (urlChanged : Bool) (place : Option ℕ)
  /-- time goes by for the timer for the next look-up -/
  | elapse (ms : ℕ)
  /-- the timer for the next look-up expires: `dns_ttl_timer_cb` -/
  | ttl (place : Option ℕ)
  /-- c-ares calls back for a query -/
  | answer (id : ℕ) (success : Bool) (ai : Option (List AddrinfoNode))
  /-- c-ares tells that the state of a socket has changed -/
  | sock (id : ℕ) (fd read write : ℤ)
  /-- the timer for time-outs of a resolver expires; what c-ares then calls are events -/
  | timeout (id : ℕ)
  /-- the timer to clean up a resolver expires -/
  | clean (id : ℕ)

namespace Dns

/-- One event, if it is possible. -/
def step (lib : UriLibrary) (s : Dns) : DnsEvent → Option Dns
  | .read reads => some { s with reads := reads }
  | .resolve urlChanged place => s.cwmpDnsResolve lib urlChanged place
  | .elapse ms => some { s with dnsTtlTimer := s.dnsTtlTimer.map (· - ms) }
  | .ttl place =>
    if s.dnsTtlTimer = some 0 then { s with dnsTtlTimer := none }.cwmpDnsResolve lib false place
    else none
  | .answer id success ai => s.answered id success ai
  | .sock id fd read write =>
    if (s.resolverList.find id).isSome then
      some { s with resolverList := s.resolverList.modify id (·.sockCb fd read write) }
    else none
  | .timeout id =>
    if (s.resolverList.find id).bind (·.timeoutTimer) = some true then some s else none
  | .clean id => s.cleaned id

end Dns

/-! ### What is left as it is -/

namespace Dns

variable {s : Dns} {urlChanged : Bool} {id : ℕ}

/-- Asking for a bootstrap changes the request for it, and the history. -/
theorem bootstrapInform_eq : s.bootstrapInform =
    { s with
      sendBootstrap := false
      history :=
        if s.sendBootstrap then
          { s.history with bootstraps := s.history.bootstraps + 1, owed := false }
        else s.history } := by
  rw [bootstrapInform]
  split
  · rfl
  · next hnone => rw [← Bool.eq_false_iff.mpr hnone]

@[simp] theorem bootstrapInform_acsiplist : s.bootstrapInform.acsiplist = s.acsiplist := by
  rw [bootstrapInform_eq]

@[simp] theorem bootstrapInform_dnsTtlTimer :
    s.bootstrapInform.dnsTtlTimer = s.dnsTtlTimer := by
  rw [bootstrapInform_eq]

@[simp] theorem bootstrapInform_resolverList :
    s.bootstrapInform.resolverList = s.resolverList := by
  rw [bootstrapInform_eq]

@[simp] theorem bootstrapInform_seen : s.bootstrapInform.history.seen = s.history.seen := by
  rw [bootstrapInform_eq]
  dsimp only
  split <;> rfl

@[simp] theorem bootstrapInform_parsed :
    s.bootstrapInform.history.parsed = s.history.parsed := by
  rw [bootstrapInform_eq]
  dsimp only
  split <;> rfl

@[simp] theorem bootstrapInform_publishedFor :
    s.bootstrapInform.history.publishedFor = s.history.publishedFor := by
  rw [bootstrapInform_eq]
  dsimp only
  split <;> rfl

@[simp] theorem prepared_history : (s.prepared urlChanged).history = s.history := by
  cases urlChanged <;> rfl

@[simp] theorem prepared_acsiplist :
    (s.prepared urlChanged).acsiplist = if urlChanged then [] else s.acsiplist := by
  cases urlChanged <;> rfl

/-- Every resolver is dirty. -/
theorem prepared_find : (s.prepared urlChanged).resolverList.find id =
    (s.resolverList.find id).map fun r => { r with dirty := true } := by
  cases urlChanged <;> exact Table.find_mapValues

/-- A socket event is about the sockets and the timers of a resolver. -/
theorem sockCb_eq (r : Resolver) (fd read write : ℤ) : ∃ events timeout clean,
    r.sockCb fd read write =
      { r with eventList := events, timeoutTimer := timeout, cleanTimer := clean } := by
  rw [Resolver.sockCb]
  split
  · simp only
    split
    · exact ⟨_, _, _, rfl⟩
    · exact ⟨_, _, _, rfl⟩
  · exact ⟨_, _, _, rfl⟩

@[simp] theorem sockCb_dirty {r : Resolver} {fd read write : ℤ} :
    (r.sockCb fd read write).dirty = r.dirty := by
  obtain ⟨events, timeout, clean, hsock⟩ := sockCb_eq r fd read write
  rw [hsock]

@[simp] theorem sockCb_queried {r : Resolver} {fd read write : ℤ} :
    (r.sockCb fd read write).queried = r.queried := by
  obtain ⟨events, timeout, clean, hsock⟩ := sockCb_eq r fd read write
  rw [hsock]

@[simp] theorem sockCb_host {r : Resolver} {fd read write : ℤ} :
    (r.sockCb fd read write).host = r.host := by
  obtain ⟨events, timeout, clean, hsock⟩ := sockCb_eq r fd read write
  rw [hsock]

end Dns

/-! ### What an answer does -/

namespace Dns

variable {s : Dns} {r : Resolver} {success : Bool} {ai : Option (List AddrinfoNode)}
  {nodes : List AddrinfoNode}

/-- The addresses of an answer. -/
def addressesOf (nodes : List AddrinfoNode) : List CString :=
  (nodes.map (·.ip)).filter (· ≠ [])

theorem foldl_readNode (nodes : List AddrinfoNode) (s : Dns) : ∃ val, nodes.foldl readNode s =
    { s with ainfoList := s.ainfoList ++ addressesOf nodes, dnsTtlVal := val } := by
  induction nodes generalizing s with
  | nil =>
    refine ⟨s.dnsTtlVal, ?_⟩
    rw [addressesOf, List.map_nil, List.filter_nil, List.append_nil]
    rfl
  | cons node nodes ih =>
    rw [List.foldl_cons, readNode, addressesOf, List.map_cons]
    by_cases hip : node.ip = []
    · rw [if_pos hip, List.filter_cons_of_neg (by simp [hip])]
      exact ih s
    · rw [if_neg hip, List.filter_cons_of_pos (by simp [hip])]
      obtain ⟨val, hval⟩ := ih { s with
        ainfoList := s.ainfoList ++ [node.ip]
        dnsTtlVal := if s.dnsTtlVal > node.ttl then node.ttl else s.dnsTtlVal }
      refine ⟨val, hval.trans ?_⟩
      simp only [List.append_assoc, List.singleton_append]
      rfl

/-- What is published of an answer. -/
theorem published_eq (s : Dns) (nodes : List AddrinfoNode) :
    ∃ val timer, ((s.readAi nodes).updateDm).schedule =
      { s with
        acsiplist := addrListStr (addressesOf nodes)
        ainfoList := []
        dnsTtlVal := val
        dnsTtlTimer := some timer } := by
  obtain ⟨val, hval⟩ := foldl_readNode nodes
    { s with ainfoList := [], dnsTtlVal := Int32.maxValue }
  rw [readAi, hval]
  exact ⟨_, _, rfl⟩

theorem resolveCb_of_dirty (hdirty : r.dirty = true) : s.resolveCb r success ai = s :=
  if_pos hdirty

/-- **An answer for a resolver that is not dirty**: the addresses of a success are published, the
timer is armed, and a bootstrap that is due is asked for. -/
theorem resolveCb_eq (s : Dns) (success : Bool) (ai : Option (List AddrinfoNode))
    (hclean : r.dirty = false) : ∃ val timer,
    s.resolveCb r success ai =
      if success ∧ ai.getD [] ≠ [] then
        bootstrapInform { s with
          acsiplist := addrListStr (addressesOf (ai.getD []))
          ainfoList := []
          dnsTtlVal := val
          dnsTtlTimer := some timer
          history := { s.history with publishedFor := some r.host, completed := true } }
      else
        bootstrapInform { s with
          dnsTtlTimer := some timer
          history := { s.history with completed := true } } := by
  rw [resolveCb, if_neg (by rw [hclean]; exact Bool.false_ne_true)]
  simp only
  split
  · obtain ⟨val, timer, hpublished⟩ := published_eq s (ai.getD [])
    rw [hpublished]
    exact ⟨val, timer, rfl⟩
  · exact ⟨0, _, rfl⟩

/-- A call for a resolver changes none of them. -/
@[simp] theorem resolveCb_resolverList :
    (s.resolveCb r success ai).resolverList = s.resolverList := by
  rcases hdirty : r.dirty with - | -
  · obtain ⟨val, timer, hcalled⟩ := resolveCb_eq s success ai hdirty
    rw [hcalled]
    split
    · rw [bootstrapInform_resolverList]
    · rw [bootstrapInform_resolverList]
  · rw [resolveCb_of_dirty hdirty]

end Dns

/-! ### What a request does -/

/-- A host that has to be looked up. -/
def UriLibrary.IsName (lib : UriLibrary) (host : CString) : Prop :=
  host ≠ [] ∧ lib.isIpaddr host = false

instance (lib : UriLibrary) (host : CString) : Decidable (lib.IsName host) :=
  inferInstanceAs (Decidable (_ ∧ _))

/-- A literal address, which is published without a look-up. -/
def UriLibrary.IsAddress (lib : UriLibrary) (host : CString) : Prop :=
  host ≠ [] ∧ lib.isIpaddr host = true

namespace Dns

variable {lib : UriLibrary} {s t : Dns} {urlChanged : Bool} {place : Option ℕ} {host : CString}

/-- The state in which the request is in the history. -/
def requested (lib : UriLibrary) (s : Dns) (urlChanged : Bool) : Dns :=
  { s with history := s.history.requested urlChanged (s.acsHost lib) }

/-- **The ways of a request**: the URL cannot be read or parsed, or the host is empty, an address,
or a name, for which a resolver is made or not. -/
theorem resolve_cases (h : s.cwmpDnsResolve lib urlChanged place = some t) :
    (s.acsHost lib = none ∧ t = (s.requested lib urlChanged).retryLater) ∨
    ∃ host, s.acsHost lib = some host ∧
      ((host = [] ∧ t = (s.requested lib urlChanged).prepared urlChanged) ∨
      (host ≠ [] ∧ lib.isIpaddr host = true ∧
        t = (((s.requested lib urlChanged).prepared urlChanged).setStaticIp host).bootstrapInform) ∨
      (lib.IsName host ∧ place = none ∧
        t = ((s.requested lib urlChanged).prepared urlChanged).retryLater) ∨
      (lib.IsName host ∧ ∃ id, ∃ hid : ((s.requested lib urlChanged).prepared
          urlChanged).resolverList.find id = none, place = some id ∧
        t = { (s.requested lib urlChanged).prepared urlChanged with
          resolverList := ((s.requested lib urlChanged).prepared urlChanged).resolverList.append id
            (newResolver host) hid })) := by
  have hhost : (s.requested lib urlChanged).acsHost lib = s.acsHost lib := rfl
  change (match (s.requested lib urlChanged).acsHost lib with
    | none => some (s.requested lib urlChanged).retryLater
    | some host =>
      if host = [] then some ((s.requested lib urlChanged).prepared urlChanged)
      else if lib.isIpaddr host then
        some (((s.requested lib urlChanged).prepared urlChanged).setStaticIp host).bootstrapInform
      else ((s.requested lib urlChanged).prepared urlChanged).aresResolution host place) =
    some t at h
  rw [hhost] at h
  rcases hread : s.acsHost lib with - | host
  · rw [hread] at h
    exact Or.inl ⟨rfl, (Option.some.inj h).symm⟩
  · rw [hread] at h
    refine Or.inr ⟨host, rfl, ?_⟩
    simp only at h
    split at h
    · next hempty => exact Or.inl ⟨hempty, (Option.some.inj h).symm⟩
    · next hne =>
      split at h
      · next hip => exact Or.inr (Or.inl ⟨hne, hip, (Option.some.inj h).symm⟩)
      · next hip =>
        have hname : lib.IsName host := ⟨hne, by simpa using hip⟩
        rcases place with - | id
        · exact Or.inr (Or.inr (Or.inl ⟨hname, rfl, (Option.some.inj h).symm⟩))
        · rw [aresResolution] at h
          split at h
          · next hid =>
            exact Or.inr (Or.inr (Or.inr ⟨hname, id, hid, rfl, (Option.some.inj h).symm⟩))
          · cases h

/-! ### What an event does -/

/-- **The events**, one by one, with what is known when they happen. -/
inductive Stepped (lib : UriLibrary) (s : Dns) : DnsEvent → Dns → Prop where
  | read (reads : DnsReads) : Stepped lib s (.read reads) { s with reads := reads }
  | resolve {urlChanged : Bool} {place : Option ℕ} {t : Dns}
      (h : s.cwmpDnsResolve lib urlChanged place = some t) :
      Stepped lib s (.resolve urlChanged place) t
  | elapse (ms : ℕ) :
      Stepped lib s (.elapse ms) { s with dnsTtlTimer := s.dnsTtlTimer.map (· - ms) }
  | ttl {place : Option ℕ} {t : Dns}
      (h : { s with dnsTtlTimer := none }.cwmpDnsResolve lib false place = some t) :
      Stepped lib s (.ttl place) t
  | answer {id : ℕ} {r : Resolver} (hr : s.resolverList.find id = some r)
      (hopen : r.queried = true) (success : Bool) (ai : Option (List AddrinfoNode)) :
      Stepped lib s (.answer id success ai)
        ({ s with resolverList := s.resolverList.modify id Resolver.called }.resolveCb r success ai)
  | sock (id : ℕ) (fd read write : ℤ) :
      Stepped lib s (.sock id fd read write)
        { s with resolverList := s.resolverList.modify id (·.sockCb fd read write) }
  | timeout (id : ℕ) : Stepped lib s (.timeout id) s
  | clean {id : ℕ} {r : Resolver} (hr : s.resolverList.find id = some r)
      (hopen : r.queried = true) :
      Stepped lib s (.clean id)
        ({ s with resolverList := s.resolverList.remove id }.resolveCb r false none)
  | cleanClosed {id : ℕ} {r : Resolver} (hr : s.resolverList.find id = some r)
      (hclosed : r.queried = false) :
      Stepped lib s (.clean id) { s with resolverList := s.resolverList.remove id }

theorem stepped_of_answered {id : ℕ} {success : Bool} {ai : Option (List AddrinfoNode)}
    (h : s.answered id success ai = some t) : Stepped lib s (.answer id success ai) t := by
  rw [answered] at h
  split at h
  · next r hr =>
    split at h
    · next hopen =>
      obtain rfl := Option.some.inj h
      exact .answer hr hopen success ai
    · cases h
  · cases h

theorem stepped_of_cleaned {id : ℕ} (h : s.cleaned id = some t) :
    Stepped lib s (.clean id) t := by
  rw [cleaned] at h
  split at h
  · next r hr =>
    split at h
    · -- c-ares calls back for what is destroyed, if its query is open
      rcases hopen : r.queried with - | -
      · simp only [hopen, Bool.false_eq_true, if_false, Option.some.injEq] at h
        exact h ▸ .cleanClosed hr hopen
      · simp only [hopen, if_true, Option.some.injEq] at h
        exact h ▸ .clean hr hopen
    · cases h
  · cases h

/-- **One event is one of those.** -/
theorem stepped_of_step {e : DnsEvent} (h : s.step lib e = some t) : Stepped lib s e t := by
  rcases e with reads | ⟨urlChanged, place⟩ | ms | place | ⟨id, success, ai⟩ |
    ⟨id, fd, read, write⟩ | id | id
  case read => exact Option.some.inj h ▸ .read reads
  case resolve => exact .resolve h
  case elapse => exact Option.some.inj h ▸ .elapse ms
  case answer => exact stepped_of_answered h
  case clean => exact stepped_of_cleaned h
  all_goals
    rw [step] at h
    split at h
    case isFalse => cases h
  case ttl.isTrue => exact .ttl h
  case sock.isTrue => exact Option.some.inj h ▸ .sock id fd read write
  case timeout.isTrue => exact Option.some.inj h ▸ .timeout id

end Dns

end Tr069
