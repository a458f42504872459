import Tr069Manager.AcsAddress.Dns

/-!
# The addresses are those of the current host

A request to resolve the host makes all the earlier resolvers dirty, so that there is never more
than one resolver that is not (`atMostOneClean_of_reaches`), and an answer for an earlier host comes
to nothing. But a request whose URL cannot be read or parsed ends before that, and before the
addresses of the old host are taken out of the data model. After a URL has changed to one that
cannot be read these addresses are still offered (`not_current_of_unreadable`), and a late answer
for the old host would put them there. A look-up that is not for a changed URL keeps the addresses
as well, whatever host it sees.

The addresses are those of the host seen last in every run in which a URL changes to an unreadable
one only while there is no address and no query whose answer counts, and in which the other requests
do not see another host while there are addresses (`current_of_reaches`). Where a run does not meet
this, it can go on to a state that has addresses of another host (`not_current_of_not_inStep`).
-/

namespace Tr069

variable {lib : UriLibrary} {s t u : Dns} {e : DnsEvent}

/-! ### What holds of the resolvers -/

/-- At most one resolver is not dirty. -/
def AtMostOneClean (s : Dns) : Prop :=
  ∀ i j r r', s.resolverList.find i = some r → s.resolverList.find j = some r' →
    r.dirty = false → r'.dirty = false → i = j

/-- The open queries whose answers count are for the host that was seen last. -/
def QueriesCurrent (s : Dns) : Prop :=
  ∀ id r, s.resolverList.find id = some r → r.dirty = false → r.queried = true →
    s.history.seen = some r.host

/-- The resolvers that are not dirty were there before, and their queries were open before. -/
def Inherits (s t : Dns) : Prop :=
  ∀ id r', t.resolverList.find id = some r' → r'.dirty = false →
    ∃ r, s.resolverList.find id = some r ∧ r.dirty = false ∧ r.host = r'.host ∧
      (r'.queried = true → r.queried = true)

theorem inherits_of_eq (h : t.resolverList = s.resolverList) : Inherits s t :=
  fun _ r' hfind hclean => ⟨r', h ▸ hfind, hclean, rfl, fun hopen => hopen⟩

theorem Inherits.trans (h : Inherits s t) (h' : Inherits t u) : Inherits s u := by
  intro id r'' hfind hclean
  obtain ⟨r', hfind', hclean', hhost', hopen'⟩ := h' id r'' hfind hclean
  obtain ⟨r, hr, hrclean, hhost, hopen⟩ := h id r' hfind' hclean'
  exact ⟨r, hr, hrclean, hhost.trans hhost', fun hqueried => hopen (hopen' hqueried)⟩

/-- Changing a resolver without making it clean, without another host and without a new query. -/
theorem inherits_modify {id : ℕ} {f : Resolver → Resolver} (hdirty : ∀ r, (f r).dirty = r.dirty)
    (hhost : ∀ r, (f r).host = r.host) (hqueried : ∀ r, (f r).queried = true → r.queried = true) :
    Inherits s { s with resolverList := s.resolverList.modify id f } := by
  intro j r' hfind hclean
  by_cases hj : j = id
  · rw [hj] at hfind
    obtain ⟨r, hr, rfl⟩ := Option.map_eq_some_iff.mp (Table.find_modify_self.symm.trans hfind)
    rw [hdirty] at hclean
    exact ⟨r, hj ▸ hr, hclean, (hhost r).symm, hqueried r⟩
  · exact ⟨r', (Table.find_modify_ne hj).symm.trans hfind, hclean, rfl, fun hopen => hopen⟩

theorem inherits_remove {id : ℕ} :
    Inherits s { s with resolverList := s.resolverList.remove id } := by
  intro j r' hfind hclean
  refine ⟨r', ?_, hclean, rfl, fun hopen => hopen⟩
  by_cases hj : j = id
  · rw [hj, Table.find_remove_self] at hfind
    cases hfind
  · exact (Table.find_remove_ne hj).symm.trans hfind

theorem AtMostOneClean.inherits (h : AtMostOneClean s) (hst : Inherits s t) :
    AtMostOneClean t := by
  intro i j r r' hi hj hclean hclean'
  obtain ⟨ri, hri, hriclean, -⟩ := hst i r hi hclean
  obtain ⟨rj, hrj, hrjclean, -⟩ := hst j r' hj hclean'
  exact h i j ri rj hri hrj hriclean hrjclean

theorem QueriesCurrent.inherits (h : QueriesCurrent s) (hst : Inherits s t)
    (hseen : t.history.seen = s.history.seen) : QueriesCurrent t := by
  intro id r' hfind hclean hopen
  obtain ⟨r, hr, hrclean, hhost, hqueried⟩ := hst id r' hfind hclean
  rw [hseen, h id r hr hrclean (hqueried hopen), hhost]

/-! ### What a request does to them -/

/-- After a request that sees a host, the resolver that is not dirty is the new one, for it. -/
theorem find_of_resolve {urlChanged : Bool} {place : Option ℕ} {host : CString}
    (hstep : s.cwmpDnsResolve lib urlChanged place = some t) (hhost : s.acsHost lib = some host)
    {id : ℕ} {r : Resolver} (hfind : t.resolverList.find id = some r) (hclean : r.dirty = false) :
    place = some id ∧ r.host = host := by
  have hdirty : ∀ {j : ℕ} {r' : Resolver},
      ((s.requested lib urlChanged).prepared urlChanged).resolverList.find j = some r' →
      r'.dirty = true := by
    intro j r' hr'
    rw [Dns.prepared_find] at hr'
    obtain ⟨r'', -, rfl⟩ := Option.map_eq_some_iff.mp hr'
    rfl
  have hnone : ¬((s.requested lib urlChanged).prepared urlChanged).resolverList.find id = some r :=
    fun hr => Bool.false_ne_true (hclean.symm.trans (hdirty hr))
  rcases Dns.resolve_cases hstep with ⟨hunread, -⟩ | ⟨host', hhost', hways⟩
  · rw [hunread] at hhost
    cases hhost
  obtain rfl : host' = host := Option.some.inj (hhost'.symm.trans hhost)
  -- a resolver that is not dirty has been made by the request
  rcases hways with ⟨-, rfl⟩ | ⟨-, -, rfl⟩ | ⟨-, -, rfl⟩ | ⟨-, j, hj, hplace, rfl⟩
  · exact absurd hfind hnone
  · rw [Dns.bootstrapInform_resolverList] at hfind
    exact absurd hfind hnone
  · exact absurd hfind hnone
  · by_cases hid : id = j
    · rw [hid, Table.find_append_self] at hfind
      obtain rfl := Option.some.inj hfind
      exact ⟨hid ▸ hplace, rfl⟩
    · exact absurd ((Table.find_append_ne (h := hj) hid).symm.trans hfind) hnone

theorem AtMostOneClean.resolve {urlChanged : Bool} {place : Option ℕ} (h : AtMostOneClean s)
    (hstep : s.cwmpDnsResolve lib urlChanged place = some t) : AtMostOneClean t := by
  rcases hhost : s.acsHost lib with - | host
  · rcases Dns.resolve_cases hstep with ⟨-, rfl⟩ | ⟨host, hhost', -⟩
    · exact h
    · rw [hhost] at hhost'
      cases hhost'
  · intro i j r r' hi hj hclean hclean'
    have hplace := (find_of_resolve hstep hhost hi hclean).1
    have hplace' := (find_of_resolve hstep hhost hj hclean').1
    exact Option.some.inj (hplace.symm.trans hplace')

/-- **What a request publishes** and sees. -/
theorem resolve_published {urlChanged : Bool} {place : Option ℕ}
    (hstep : s.cwmpDnsResolve lib urlChanged place = some t) :
    (s.acsHost lib = none ∧ t.resolverList = s.resolverList ∧ t.acsiplist = s.acsiplist ∧
      t.history.publishedFor = s.history.publishedFor ∧
      t.history.seen = if urlChanged then none else s.history.seen) ∨
    ∃ host, s.acsHost lib = some host ∧ t.history.seen = some host ∧
      ((lib.IsAddress host ∧ t.history.publishedFor = some host) ∨
      (¬lib.IsAddress host ∧ t.history.publishedFor = s.history.publishedFor ∧
        t.acsiplist = if urlChanged then [] else s.acsiplist)) := by
  rcases Dns.resolve_cases hstep with ⟨hunread, rfl⟩ | ⟨host, hhost, hways⟩
  · refine Or.inl ⟨hunread, rfl, rfl, rfl, ?_⟩
    show (if urlChanged then s.acsHost lib else (s.acsHost lib).or s.history.seen) = _
    rw [hunread, Option.none_or]
  refine Or.inr ⟨host, hhost, ?_⟩
  have hseen : ((s.requested lib urlChanged).prepared urlChanged).history.seen = some host := by
    rw [Dns.prepared_history]
    show (if urlChanged then s.acsHost lib else (s.acsHost lib).or s.history.seen) = _
    rw [hhost, Option.some_or, ite_self]
  have hsame : ((s.requested lib urlChanged).prepared urlChanged).history.publishedFor =
      s.history.publishedFor := by
    rw [Dns.prepared_history]
    rfl
  have hlist : ((s.requested lib urlChanged).prepared urlChanged).acsiplist =
      if urlChanged then [] else s.acsiplist := Dns.prepared_acsiplist
  rcases hways with ⟨hempty, rfl⟩ | ⟨hne, hip, rfl⟩ | ⟨hname, -, rfl⟩ | ⟨hname, id, hid, -, rfl⟩
  · exact ⟨hseen, Or.inr ⟨fun haddress => haddress.1 hempty, hsame, hlist⟩⟩
  · refine ⟨?_, Or.inl ⟨⟨hne, hip⟩, ?_⟩⟩
    · rw [Dns.bootstrapInform_seen]
      exact hseen
    · rw [Dns.bootstrapInform_publishedFor]
      rfl
  · refine ⟨hseen, Or.inr ⟨fun haddress => ?_, hsame, hlist⟩⟩
    exact Bool.false_ne_true (hname.2.symm.trans haddress.2)
  · refine ⟨hseen, Or.inr ⟨fun haddress => ?_, hsame, hlist⟩⟩
    exact Bool.false_ne_true (hname.2.symm.trans haddress.2)

/-! ### The property -/

/-- The addresses that are offered are those of the host seen last, if there are any. -/
def Current (s : Dns) : Prop :=
  s.acsiplist = [] ∨ ∃ host, s.history.seen = some host ∧ s.history.publishedFor = some host

/-- A request that is not for a changed URL sees the host seen last, or an address, or there are no
addresses. -/
def SameHost (lib : UriLibrary) (s : Dns) : Prop :=
  ∀ host, s.acsHost lib = some host →
    s.acsiplist = [] ∨ s.history.seen = some host ∨ lib.IsAddress host

/-- **The condition on the events**: a URL changes to one that cannot be read only while there is
no address and no open query whose answer counts. -/
def InStep (lib : UriLibrary) (s : Dns) : DnsEvent → Prop
  | .resolve true _ => s.acsHost lib = none → s.acsiplist = [] ∧
      ∀ id r, s.resolverList.find id = some r → r.dirty = false → r.queried = false
  | .resolve false _ => SameHost lib s
  | .ttl _ => SameHost lib s
  | _ => True

/-- What does not touch the addresses and what is seen keeps the property. -/
theorem Current.mono (h : Current s) (hlist : t.acsiplist = s.acsiplist)
    (hfor : t.history.publishedFor = s.history.publishedFor)
    (hseen : t.history.seen = s.history.seen) : Current t := by
  rw [Current, hlist, hfor, hseen]
  exact h

/-- **What a call for a resolver publishes**: nothing, or the answer for its host. -/
theorem resolveCb_published (s : Dns) (r : Resolver) (success : Bool)
    (ai : Option (List AddrinfoNode)) :
    (s.resolveCb r success ai).history.seen = s.history.seen ∧
      (((s.resolveCb r success ai).acsiplist = s.acsiplist ∧
        (s.resolveCb r success ai).history.publishedFor = s.history.publishedFor) ∨
      (r.dirty = false ∧ success = true ∧
        (s.resolveCb r success ai).history.publishedFor = some r.host)) := by
  rcases hdirty : r.dirty with - | -
  · obtain ⟨val, timer, hcalled⟩ := Dns.resolveCb_eq s success ai hdirty
    rw [hcalled]
    split
    · next hsuccess =>
      rw [Dns.bootstrapInform_seen, Dns.bootstrapInform_publishedFor]
      exact ⟨rfl, Or.inr ⟨rfl, hsuccess.1, rfl⟩⟩
    · rw [Dns.bootstrapInform_seen, Dns.bootstrapInform_publishedFor,
        Dns.bootstrapInform_acsiplist]
      exact ⟨rfl, Or.inl ⟨rfl, rfl⟩⟩
  · rw [Dns.resolveCb_of_dirty hdirty]
    exact ⟨rfl, Or.inl ⟨rfl, rfl⟩⟩

/-- **The invariant**: the addresses and the queries are for the host seen last. -/
structure AddressesCurrent (s : Dns) : Prop where
  queries : QueriesCurrent s
  current : Current s

theorem AddressesCurrent.resolve {urlChanged : Bool} {place : Option ℕ} (h : AddressesCurrent s)
    (hin : InStep lib s (.resolve urlChanged place))
    (hstep : s.cwmpDnsResolve lib urlChanged place = some t) : AddressesCurrent t := by
  rcases resolve_published hstep with ⟨hunread, hlist, haddresses, hfor, hseen⟩ |
    ⟨host, hhost, hseen, hways⟩
  · rcases urlChanged with - | -
    · exact ⟨h.queries.inherits (inherits_of_eq hlist) hseen, h.current.mono haddresses hfor hseen⟩
    · -- the URL cannot be read: there is nothing that was for the old one
      obtain ⟨hempty, hclosed⟩ := hin hunread
      refine ⟨fun id r hfind hclean hopen => ?_, Or.inl (haddresses.trans hempty)⟩
      rw [hclosed id r (hlist ▸ hfind) hclean] at hopen
      cases hopen
  · refine ⟨fun id r hfind hclean _ => ?_, ?_⟩
    · rw [hseen, (find_of_resolve hstep hhost hfind hclean).2]
    · rcases hways with ⟨-, hfor⟩ | ⟨hnot, hfor, haddresses⟩
      · exact Or.inr ⟨host, hseen, hfor⟩
      · rcases urlChanged with - | -
        · -- the addresses are left, and were for the same host
          rcases hin host hhost with hempty | hsame | haddress
          · exact Or.inl (haddresses.trans hempty)
          · exact h.current.mono haddresses hfor (hseen.trans hsame.symm)
          · exact absurd haddress hnot
        · exact Or.inl haddresses

/-! ### What the other events do -/

/-- What an event does that is not a request: there is no new query and no new host, and what is
published is the answer to an open query, if it is anything. -/
structure Serves (s t : Dns) : Prop where
  inherits : Inherits s t
  seen : t.history.seen = s.history.seen
  published : (t.acsiplist = s.acsiplist ∧ t.history.publishedFor = s.history.publishedFor) ∨
    ∃ id r, s.resolverList.find id = some r ∧ r.dirty = false ∧ r.queried = true ∧
      t.history.publishedFor = some r.host

theorem serves_answer {id : ℕ} {r : Resolver} (hr : s.resolverList.find id = some r)
    (hopen : r.queried = true) (success : Bool) (ai : Option (List AddrinfoNode)) :
    Serves s ({ s with resolverList := s.resolverList.modify id Resolver.called }.resolveCb r
      success ai) := by
  have hcalled : Inherits s { s with resolverList := s.resolverList.modify id Resolver.called } :=
    inherits_modify (fun _ => rfl) (fun _ => rfl) fun r hopen => by cases hopen
  obtain ⟨hseen, hways⟩ := resolveCb_published
    { s with resolverList := s.resolverList.modify id Resolver.called } r success ai
  refine ⟨hcalled.trans (inherits_of_eq Dns.resolveCb_resolverList), hseen, ?_⟩
  rcases hways with hsame | ⟨hclean, -, hfor⟩
  · exact Or.inl hsame
  · exact Or.inr ⟨id, r, hr, hclean, hopen, hfor⟩

theorem serves_clean {id : ℕ} {r : Resolver} :
    Serves s ({ s with resolverList := s.resolverList.remove id }.resolveCb r false none) := by
  -- the call for a query that is destroyed is a failure, which publishes nothing
  obtain ⟨hseen, hways⟩ := resolveCb_published
    { s with resolverList := s.resolverList.remove id } r false none
  refine ⟨inherits_remove.trans (inherits_of_eq Dns.resolveCb_resolverList), hseen, Or.inl ?_⟩
  rcases hways with hsame | ⟨-, hsuccess, -⟩
  · exact hsame
  · cases hsuccess

/-- **The events**: a request, of its own or by the timer, or one that is not a request. -/
theorem step_cases (hstep : s.step lib e = some t) :
    Serves s t ∨
    (∃ urlChanged place, e = .resolve urlChanged place ∧
      s.cwmpDnsResolve lib urlChanged place = some t) ∨
    ∃ place, e = .ttl place ∧
      { s with dnsTtlTimer := none }.cwmpDnsResolve lib false place = some t := by
  cases Dns.stepped_of_step hstep with
  | resolve hresolve => exact Or.inr (Or.inl ⟨_, _, rfl, hresolve⟩)
  | ttl hresolve => exact Or.inr (Or.inr ⟨_, rfl, hresolve⟩)
  | answer hr hopen success ai => exact Or.inl (serves_answer hr hopen success ai)
  | sock id fd read write =>
    refine Or.inl ⟨?_, rfl, Or.inl ⟨rfl, rfl⟩⟩
    refine inherits_modify (fun _ => Dns.sockCb_dirty) (fun _ => Dns.sockCb_host) fun r hopen => ?_
    rwa [Dns.sockCb_queried] at hopen
  | clean _ _ => exact Or.inl serves_clean
  | cleanClosed _ _ => exact Or.inl ⟨inherits_remove, rfl, Or.inl ⟨rfl, rfl⟩⟩
  | _ => exact Or.inl ⟨inherits_of_eq rfl, rfl, Or.inl ⟨rfl, rfl⟩⟩

/-! ### Runs -/

/-- **One event** leaves at most one resolver that is not dirty. -/
theorem AtMostOneClean.step (h : AtMostOneClean s) (hstep : s.step lib e = some t) :
    AtMostOneClean t := by
  rcases step_cases hstep with hserves | ⟨urlChanged, place, -, hresolve⟩ | ⟨place, -, hresolve⟩
  · exact h.inherits hserves.inherits
  · exact h.resolve hresolve
  · have hstopped : AtMostOneClean { s with dnsTtlTimer := none } := h
    exact hstopped.resolve hresolve

theorem AddressesCurrent.serves (h : AddressesCurrent s) (hserves : Serves s t) :
    AddressesCurrent t := by
  refine ⟨h.queries.inherits hserves.inherits hserves.seen, ?_⟩
  rcases hserves.published with ⟨haddresses, hfor⟩ | ⟨id, r, hr, hclean, hopen, hfor⟩
  · exact h.current.mono haddresses hfor hserves.seen
  · exact Or.inr ⟨r.host, hserves.seen.trans (h.queries id r hr hclean hopen), hfor⟩

/-- **One event** that meets the condition keeps the invariant. -/
theorem AddressesCurrent.step (h : AddressesCurrent s) (hin : InStep lib s e)
    (hstep : s.step lib e = some t) : AddressesCurrent t := by
  rcases step_cases hstep with hserves | ⟨urlChanged, place, rfl, hresolve⟩ |
    ⟨place, rfl, hresolve⟩
  · exact h.serves hserves
  · exact h.resolve hin hresolve
  · have hstopped : AddressesCurrent { s with dnsTtlTimer := none } := ⟨h.queries, h.current⟩
    have hsame : InStep lib { s with dnsTtlTimer := none } (.resolve false place) := hin
    exact hstopped.resolve hsame hresolve

/-- **The addresses are those of the host seen last**, and at most one resolver is not dirty – the
second in every run, the first where the events meet the condition. -/
theorem current_of_reaches (lib : UriLibrary) (reads : DnsReads) (s : Dns)
    (h : Runs.Reaches (Dns.step lib) Runs.free (Dns.initial reads) s) :
    AtMostOneClean s ∧
      (Runs.Reaches (Dns.step lib) (InStep lib) (Dns.initial reads) s → Current s) := by
  refine ⟨?_, fun hin => ?_⟩
  · refine Runs.Reaches.invariant (I := AtMostOneClean) (fun u e v hu _ hv => hu.step hv) h ?_
    intro i j r r' hi
    cases hi
  · have hcurrent : AddressesCurrent s := by
      refine Runs.Reaches.invariant (I := AddressesCurrent)
        (fun u e v hu he hv => hu.step he hv) hin ⟨?_, Or.inl rfl⟩
      intro id r hfind
      cases hfind
    exact hcurrent.current

/-- A run in step: a host is looked up, and the URL changes to one with another host. -/
def inStepRun : List DnsEvent :=
  [.resolve false (some 0), .answer 0 true (some [⟨"192.0.2.7".toList, 60⟩]),
    .read ⟨some "acs2.example".toList, none⟩, .resolve true (some 1)]

theorem current_of_inStepRun :
    ∃ s, Runs.exec (Dns.step exampleLibrary) (Dns.initial ⟨some "acs.example".toList, none⟩)
      inStepRun = some s ∧ Current s := by
  have hmeets : Runs.Meets (Dns.step exampleLibrary) (InStep exampleLibrary)
      (Dns.initial ⟨some "acs.example".toList, none⟩) inStepRun := by
    -- only the two requests have a condition: there are no addresses, and the new URL can be read
    refine ⟨fun _ _ => Or.inl rfl, fun s₁ h₁ => ?_⟩
    obtain rfl := Option.some.inj h₁
    refine ⟨trivial, fun s₂ h₂ => ?_⟩
    obtain rfl := Option.some.inj h₂
    refine ⟨trivial, fun s₃ h₃ => ?_⟩
    obtain rfl := Option.some.inj h₃
    refine ⟨fun hunread => ?_, fun _ _ => trivial⟩
    cases hunread
  exact ⟨_, rfl, (current_of_reaches exampleLibrary ⟨some "acs.example".toList, none⟩ _
    (Runs.reaches_free_of_exec inStepRun rfl)).2 (Runs.reaches_of_exec rfl hmeets)⟩

/-- After a URL has changed to one that cannot be read, the addresses of the old host are still
offered. -/
theorem not_current_of_unreadable :
    ¬∀ (lib : UriLibrary) (reads : DnsReads) (s : Dns),
      Runs.Reaches (Dns.step lib) Runs.free (Dns.initial reads) s →
      AtMostOneClean s ∧ Current s := by
  intro h
  have hcurrent := (h exampleLibrary ⟨some "acs.example".toList, none⟩ _
    (Runs.reaches_free_of_exec [.resolve false (some 0),
      .answer 0 true (some [⟨"192.0.2.7".toList, 60⟩]), .read ⟨none, none⟩,
      .resolve true none] rfl)).2
  rcases hcurrent with hempty | ⟨host, hseen, -⟩
  · cases hempty
  · cases hseen

/-! ### The condition is needed -/

/-- An answer with an address, for a resolver that is not dirty. -/
theorem answered_with (lib : UriLibrary) {id : ℕ} {r : Resolver} (node : AddrinfoNode)
    (hip : node.ip ≠ [])
    (hfind : s.resolverList.find id = some r) (hclean : r.dirty = false)
    (hopen : r.queried = true) :
    ∃ u, s.step lib (.answer id true (some [node])) = some u ∧ u.acsiplist = node.ip ∧
      u.history.seen = s.history.seen := by
  refine ⟨_, ?_, ?_, (resolveCb_published
    { s with resolverList := s.resolverList.modify id Resolver.called } r true (some [node])).1⟩
  · rw [Dns.step, Dns.answered, hfind]
    exact if_pos hopen
  · obtain ⟨val, timer, hcalled⟩ := Dns.resolveCb_eq
      { s with resolverList := s.resolverList.modify id Resolver.called } true (some [node]) hclean
    have haddresses : Dns.addressesOf [node] = [node.ip] := by
      rw [Dns.addressesOf, List.map_singleton, List.filter_cons_of_pos (by simp [hip])]
      rfl
    rw [hcalled, if_pos ⟨rfl, List.cons_ne_nil _ _⟩, Dns.bootstrapInform_acsiplist]
    show addrListStr (Dns.addressesOf [node]) = node.ip
    rw [haddresses]
    rfl

/-- A request that sees another host, with addresses that are not taken out. -/
theorem not_current_of_not_sameHost {place : Option ℕ} (hcurrent : Current s)
    (hnot : ¬SameHost lib s) (hstep : s.cwmpDnsResolve lib false place = some t) : ¬Current t := by
  intro ht
  refine hnot fun host hhost => ?_
  rcases resolve_published hstep with ⟨hunread, -⟩ | ⟨host', hhost', hseen, hways⟩
  · rw [hunread] at hhost
    cases hhost
  obtain rfl : host' = host := Option.some.inj (hhost'.symm.trans hhost)
  rcases hways with ⟨haddress, -⟩ | ⟨-, hfor, haddresses⟩
  · exact Or.inr (Or.inr haddress)
  · rcases ht with hempty | ⟨host, hsees, hfor'⟩
    · exact Or.inl (haddresses.symm.trans hempty)
    · rcases hcurrent with hnone | ⟨before, hbefore, hbeforeFor⟩
      · exact Or.inl hnone
      · -- what is published was for the host seen before, and is for the one seen now
        have hsame : before = host :=
          Option.some.inj (hbeforeFor.symm.trans (hfor.symm.trans hfor'))
        rw [hsame, ← hsees, hseen] at hbefore
        exact Or.inr (Or.inl hbefore)

/-- **Where the condition is not met**, the state after the event, or one after an answer, has
addresses of another host. -/
theorem not_current_of_not_inStep (hcurrent : Current s) (hstep : s.step lib e = some t)
    (hnot : ¬InStep lib s e) :
    ∃ u, Runs.Reaches (Dns.step lib) Runs.free t u ∧ ¬Current u := by
  rcases e with reads | ⟨urlChanged, place⟩ | ms | place | ⟨id, success, ai⟩ |
    ⟨id, fd, read, write⟩ | id | id
  case resolve =>
    rcases urlChanged with - | -
    · exact ⟨t, Relation.ReflTransGen.refl, not_current_of_not_sameHost hcurrent hnot hstep⟩
    · obtain ⟨hunread, hleft⟩ := Classical.not_imp.mp hnot
      rcases resolve_published hstep with ⟨-, hlist, haddresses, -, hseen⟩ | ⟨host, hhost, -⟩
      · by_cases hempty : s.acsiplist = []
        · -- an answer for the old host is still to come
          have hquery : ∃ id r, s.resolverList.find id = some r ∧ r.dirty = false ∧
              r.queried = true := by
            by_contra hnone
            refine hleft ⟨hempty, fun id r hfind hclean => Bool.eq_false_iff.mpr fun hopen => ?_⟩
            exact hnone ⟨id, r, hfind, hclean, hopen⟩
          obtain ⟨id, r, hfind, hclean, hopen⟩ := hquery
          obtain ⟨u, hu, hu', huseen⟩ := answered_with lib ⟨"0".toList, 60⟩
            (List.cons_ne_nil _ _) (hlist ▸ hfind : t.resolverList.find id = some r) hclean hopen
          refine ⟨u, Runs.Reaches.single trivial hu, fun hcurrent' => ?_⟩
          rcases hcurrent' with hnone | ⟨host, hsees, -⟩
          · cases hu'.symm.trans hnone
          · cases hseen.symm.trans (huseen.symm.trans hsees)
        · refine ⟨t, Relation.ReflTransGen.refl, fun ht => ?_⟩
          rcases ht with hnone | ⟨host, hsees, -⟩
          · exact hempty (haddresses.symm.trans hnone)
          · cases hseen.symm.trans hsees
      · rw [hunread] at hhost
        cases hhost
  case ttl =>
    cases Dns.stepped_of_step hstep with
    | ttl hresolve =>
      have hstopped : Current { s with dnsTtlTimer := none } := hcurrent
      exact ⟨t, Relation.ReflTransGen.refl, not_current_of_not_sameHost hstopped hnot hresolve⟩
  all_goals exact absurd trivial hnot

end Tr069
