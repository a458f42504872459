import Tr069Manager.AcsAddress.Dns

/-!
# Another look-up always follows

The timer for the next look-up is armed by an answer, by a failure and where a request fails; a
request stops it, and the answer of a dirty resolver does not arm it. Still, as long as the host of
the URL is a name, the timer is armed or c-ares has a query to call back for whose resolver is not
dirty (`lookupFollows_of_reaches`). For a request makes a resolver that is not dirty or arms the
timer, and the call for that resolver, which comes when it is destroyed at the latest, arms it.

A host that is an address, and an empty one, need no look-up: the timer is stopped, the earlier
resolvers become dirty, and nothing is armed until the next request (`stalls_at_address`).
-/

namespace Tr069

/-- The timer for the next look-up is armed, or the query of a resolver that is not dirty is
open. -/
def LookupFollows (s : Dns) : Prop :=
  s.dnsTtlTimer ≠ none ∨
    ∃ id r, s.resolverList.find id = some r ∧ r.dirty = false ∧ r.queried = true

variable {lib : UriLibrary} {s t : Dns} {e : DnsEvent}

theorem lookupFollows_startTtlTimer (s : Dns) (ms : UInt32) : LookupFollows (s.startTtlTimer ms) :=
  Or.inl (Option.some_ne_none _)

/-- A state in which the timer is the same, and the open queries are, is as good. -/
theorem LookupFollows.mono (h : LookupFollows s) (htimer : t.dnsTtlTimer = none →
      s.dnsTtlTimer = none)
    (hqueries : ∀ id r, s.resolverList.find id = some r → r.dirty = false → r.queried = true →
      ∃ r', t.resolverList.find id = some r' ∧ r'.dirty = false ∧ r'.queried = true) :
    LookupFollows t := by
  rcases h with harmed | ⟨id, r, hfind, hclean, hqueried⟩
  · exact Or.inl fun hnone => harmed (htimer hnone)
  · exact Or.inr ⟨id, hqueries id r hfind hclean hqueried⟩

/-- The call for a resolver that is not dirty arms the timer. -/
theorem lookupFollows_resolveCb {r : Resolver} {success : Bool} {ai : Option (List AddrinfoNode)}
    (hclean : r.dirty = false) : LookupFollows (s.resolveCb r success ai) := by
  obtain ⟨val, timer, hcalled⟩ := Dns.resolveCb_eq s success ai hclean
  rw [hcalled]
  refine Or.inl ?_
  split
  · rw [Dns.bootstrapInform_dnsTtlTimer]
    exact Option.some_ne_none timer
  · rw [Dns.bootstrapInform_dnsTtlTimer]
    exact Option.some_ne_none timer

theorem resolveCb_parsed {r : Resolver} {success : Bool} {ai : Option (List AddrinfoNode)} :
    (s.resolveCb r success ai).history.parsed = s.history.parsed := by
  rcases hdirty : r.dirty with - | -
  · obtain ⟨val, timer, hcalled⟩ := Dns.resolveCb_eq s success ai hdirty
    rw [hcalled]
    split
    · rw [Dns.bootstrapInform_parsed]
    · rw [Dns.bootstrapInform_parsed]
  · rw [Dns.resolveCb_of_dirty hdirty]

/-- What is called back for a query that another resolver had, or that was dirty, leaves the other
queries open. -/
theorem lookupFollows_answer {id : ℕ} {r : Resolver} {success : Bool}
    {ai : Option (List AddrinfoNode)} (h : LookupFollows s)
    (hr : s.resolverList.find id = some r) :
    LookupFollows ({ s with resolverList := s.resolverList.modify id Resolver.called }.resolveCb r
      success ai) := by
  rcases hdirty : r.dirty with - | -
  · exact lookupFollows_resolveCb hdirty
  · -- the query that follows is not that of a dirty resolver
    rw [Dns.resolveCb_of_dirty hdirty]
    refine h.mono (fun hnone => hnone) fun j r' hfind hclean hopen => ⟨r', ?_, hclean, hopen⟩
    have hj : j ≠ id := by
      rintro rfl
      rw [hr] at hfind
      obtain rfl := Option.some.inj hfind
      rw [hdirty] at hclean
      cases hclean
    rw [Table.find_modify_ne hj]
    exact hfind

/-- A resolver that was not one of those with an open query may go. -/
theorem lookupFollows_remove {id : ℕ} {r : Resolver} (h : LookupFollows s)
    (hr : s.resolverList.find id = some r) (hidle : r.dirty = true ∨ r.queried = false) :
    LookupFollows { s with resolverList := s.resolverList.remove id } := by
  refine h.mono (fun hnone => hnone) fun j r' hfind hclean hopen => ⟨r', ?_, hclean, hopen⟩
  have hj : j ≠ id := by
    rintro rfl
    rw [hr] at hfind
    obtain rfl := Option.some.inj hfind
    rcases hidle with hdirty | hclosed
    · rw [hdirty] at hclean
      cases hclean
    · rw [hclosed] at hopen
      cases hopen
  exact (Table.find_remove_ne hj).trans hfind

theorem lookupFollows_clean {id : ℕ} {r : Resolver} (h : LookupFollows s)
    (hr : s.resolverList.find id = some r) :
    LookupFollows ({ s with resolverList := s.resolverList.remove id }.resolveCb r false none) := by
  rcases hdirty : r.dirty with - | -
  · exact lookupFollows_resolveCb hdirty
  · rw [Dns.resolveCb_of_dirty hdirty]
    exact lookupFollows_remove h hr (Or.inl hdirty)

/-- A socket event is about none of the queries. -/
theorem lookupFollows_sock {id : ℕ} {fd read write : ℤ} (h : LookupFollows s) :
    LookupFollows
      { s with resolverList := s.resolverList.modify id (·.sockCb fd read write) } := by
  refine h.mono (fun hnone => hnone) fun j r hfind hclean hqueried => ?_
  refine ⟨if j = id then r.sockCb fd read write else r, ?_, ?_, ?_⟩
  · rw [Table.find_modify, hfind]
    split <;> rfl
  · split
    · rw [Dns.sockCb_dirty, hclean]
    · exact hclean
  · split
    · rw [Dns.sockCb_queried, hqueried]
    · exact hqueried

/-- **The invariant**: another look-up follows, as long as the host seen last is a name. -/
def LookupFollowsName (lib : UriLibrary) (s : Dns) : Prop :=
  ∀ host, s.history.parsed = some host → lib.IsName host → LookupFollows s

/-- A request establishes it. -/
theorem lookupFollowsName_resolve {urlChanged : Bool} {place : Option ℕ}
    (hstep : s.cwmpDnsResolve lib urlChanged place = some t) : LookupFollowsName lib t := by
  intro host hparsed hname
  rcases Dns.resolve_cases hstep with ⟨-, rfl⟩ | ⟨host', hhost, hways⟩
  · exact lookupFollows_startTtlTimer _ _
  have hrequested : (s.requested lib urlChanged).history.parsed = some host' := by
    show (s.acsHost lib).or s.history.parsed = some host'
    rw [hhost, Option.some_or]
  -- where nothing is armed, the host is no name
  rcases hways with ⟨hempty, rfl⟩ | ⟨-, hip, rfl⟩ | ⟨-, -, rfl⟩ | ⟨-, id, hid, -, rfl⟩
  · rw [Dns.prepared_history, hrequested] at hparsed
    obtain rfl := Option.some.inj hparsed
    exact absurd hempty hname.1
  · have hsame : (((s.requested lib urlChanged).prepared urlChanged).setStaticIp
        host').history.parsed = some host' := by
      show ((s.requested lib urlChanged).prepared urlChanged).history.parsed = some host'
      rw [Dns.prepared_history, hrequested]
    rw [Dns.bootstrapInform_parsed, hsame] at hparsed
    obtain rfl := Option.some.inj hparsed
    rw [hname.2] at hip
    cases hip
  · exact lookupFollows_startTtlTimer _ _
  · exact Or.inr ⟨id, _, Table.find_append_self (h := hid), rfl, rfl⟩

/-- What does not change the history keeps the invariant, if another look-up still follows. -/
theorem LookupFollowsName.mono (h : LookupFollowsName lib s)
    (hparsed : t.history.parsed = s.history.parsed) (hfollows : LookupFollows s → LookupFollows t) :
    LookupFollowsName lib t := fun host hhost hname => hfollows (h host (hparsed ▸ hhost) hname)

/-- **One event** keeps the invariant. -/
theorem LookupFollowsName.step (h : LookupFollowsName lib s) (hstep : s.step lib e = some t) :
    LookupFollowsName lib t := by
  cases Dns.stepped_of_step hstep with
  | read reads => exact h.mono rfl fun hfollows => hfollows
  | resolve hresolve => exact lookupFollowsName_resolve hresolve
  | elapse ms =>
    refine h.mono rfl fun hfollows => hfollows.mono (fun hnone => ?_)
      fun id r hfind hclean hqueried => ⟨r, hfind, hclean, hqueried⟩
    exact Option.map_eq_none_iff.mp hnone
  | ttl hresolve => exact lookupFollowsName_resolve hresolve
  | answer hr _ success ai =>
    exact h.mono resolveCb_parsed fun hfollows => lookupFollows_answer hfollows hr
  | sock id fd read write => exact h.mono rfl lookupFollows_sock
  | timeout id => exact h
  | clean hr _ => exact h.mono resolveCb_parsed fun hfollows => lookupFollows_clean hfollows hr
  | cleanClosed hr hclosed =>
    exact h.mono rfl fun hfollows => lookupFollows_remove hfollows hr (Or.inr hclosed)

/-- **Another look-up always follows** where the host that was seen last is a name. -/
theorem lookupFollows_of_reaches (lib : UriLibrary) (reads : DnsReads) (s : Dns)
    (h : Runs.Reaches (Dns.step lib) Runs.free (Dns.initial reads) s) (host : CString)
    (hparsed : s.history.parsed = some host) (hname : lib.IsName host) : LookupFollows s := by
  have hinv : LookupFollowsName lib s := by
    refine Runs.Reaches.invariant (I := LookupFollowsName lib)
      (fun u e v hu _ hv => hu.step hv) h ?_
    intro host' hnone
    cases hnone
  exact hinv host hparsed hname

/-- What happens: a name is looked up, and the URL changes to one that cannot be read. -/
def unreadableRun : List DnsEvent :=
  [.resolve false (some 0), .read ⟨none, none⟩, .resolve true none, .elapse 5000]

/-- The timer for the next look-up is armed then. -/
theorem lookupFollows_unreadable :
    ∃ s, Runs.exec (Dns.step exampleLibrary) (Dns.initial ⟨some "acs.example".toList, none⟩)
      unreadableRun = some s ∧ LookupFollows s := by
  refine ⟨_, rfl, lookupFollows_of_reaches exampleLibrary ⟨some "acs.example".toList, none⟩ _
    (Runs.reaches_free_of_exec unreadableRun rfl) "acs.example".toList rfl (by decide)⟩

/-- Where the URL changes to an address, nothing follows. -/
theorem stalls_at_address :
    ¬∀ s t, (Dns.initial ⟨some "acs.example".toList, none⟩).step exampleLibrary
        (.resolve false (some 0)) = some s →
      Runs.Reaches (Dns.step exampleLibrary) Runs.free s t → LookupFollows t := by
  intro h
  rcases h _ _ rfl (Runs.reaches_free_of_exec
    [.read ⟨some "192.0.2.1".toList, none⟩, .resolve true none] rfl) with
    harmed | ⟨id, r, hfind, hclean, -⟩
  · exact harmed rfl
  · -- the only resolver is the first one, and it is dirty
    by_cases hid : id = 0
    · rw [hid] at hfind
      obtain rfl := Option.some.inj hfind
      cases hclean
    · have hnone : (Table.empty.append 0 (Dns.newResolver "acs.example".toList) rfl).find id =
          none := Table.find_append_ne hid
      obtain ⟨r', hr', -⟩ := Option.map_eq_some_iff.mp
        (Table.find_mapValues.symm.trans hfind)
      cases hnone.symm.trans hr'

end Tr069
