import Tr069Manager.AcsAddress.NextLookup

/-!
# A look-up comes to its end

A request for a name makes a resolver, and nobody but the timer to clean it up takes it out of the
list again. That timer is started when c-ares calls back, and when the last socket is not polled any
more; what is still to come of a resolver is therefore its call and its cleaning up, whatever
happens with its sockets in between. Requests add resolvers, and mark the ones there are as dirty,
but take none away.

So if no request comes, there are no more calls and clean-ups than are counted for the resolvers in
the list (`Dns.toSettle`), there is always one that can come as long as there is a resolver, and in
the end the list is empty (`Dns.settles_of_reaches`). What is left then is the timer for the next
look-up: it is armed if the host that was seen last is a name, and a bootstrap that has not been
asked for yet waits for it – or for a request, if that host is empty.
-/

namespace Tr069

open Runs

/-- c-ares calls back for a query, or a resolver is cleaned up. -/
def DnsEvent.settles : DnsEvent → Bool
  | .answer _ _ _ => true
  | .clean _ => true
  | _ => false

namespace Dns

variable {lib : UriLibrary} {s t : Dns} {e : DnsEvent}

/-- No request comes, neither from outside nor by the timer for the next look-up. -/
def NoRequest (_ : Dns) : DnsEvent → Prop
  | .resolve _ _ => False
  | .ttl _ => False
  | _ => True

/-- Only calls and clean-ups come. -/
def Settling (_ : Dns) (e : DnsEvent) : Prop := e.settles = true

theorem noRequest_of_settling (h : s.Settling e) : s.NoRequest e := by
  cases e with
  | resolve => exact absurd h Bool.false_ne_true
  | ttl => exact absurd h Bool.false_ne_true
  | _ => exact trivial

/-! ### What is still to come of a resolver -/

/-- Each resolver has a query that is open, or a timer to clean it up. -/
def Tended (s : Dns) : Prop :=
  ∀ id r, s.resolverList.find id = some r → r.queried = true ∨ r.cleanTimer = true

/-- **What is still to come**: for each resolver its cleaning up, and the call if its query is
open. -/
def toSettle (s : Dns) : ℕ :=
  s.resolverList.entries.length + s.resolverList.entries.countP fun e => e.2.queried

/-- A socket event does not stop the timer to clean up. -/
theorem sockCb_cleanTimer {r : Resolver} {fd read write : ℤ} (h : r.cleanTimer = true) :
    (r.sockCb fd read write).cleanTimer = true := by
  rw [Resolver.sockCb]
  split
  · simp only
    split
    · rfl
    · exact h
  · exact h

theorem Tended.of_eq (h : Tended s) (hlist : t.resolverList = s.resolverList) : Tended t :=
  fun id r hfind => h id r (hlist ▸ hfind)

theorem Tended.modify {id : ℕ} {f : Resolver → Resolver} (h : Tended s)
    (hf : ∀ r, r.queried = true ∨ r.cleanTimer = true →
      (f r).queried = true ∨ (f r).cleanTimer = true) :
    Tended { s with resolverList := s.resolverList.modify id f } := by
  intro j r' hfind
  have hmodify : (if j = id then (s.resolverList.find j).map f else s.resolverList.find j) =
      some r' := Table.find_modify.symm.trans hfind
  split at hmodify
  · obtain ⟨r, hr, rfl⟩ := Option.map_eq_some_iff.mp hmodify
    exact hf r (h j r hr)
  · exact h j r' hmodify

theorem Tended.remove {id : ℕ} (h : Tended s) :
    Tended { s with resolverList := s.resolverList.remove id } := by
  intro j r hfind
  by_cases hj : j = id
  · rw [hj, Table.find_remove_self] at hfind
    cases hfind
  · exact h j r ((Table.find_remove_ne hj).symm.trans hfind)

/-- A new resolver has an open query. -/
theorem Tended.resolve {urlChanged : Bool} {place : Option ℕ} (h : Tended s)
    (hstep : s.cwmpDnsResolve lib urlChanged place = some t) : Tended t := by
  have hprepared : Tended ((s.requested lib urlChanged).prepared urlChanged) := by
    intro id r' hfind
    rw [prepared_find] at hfind
    obtain ⟨r, hr, rfl⟩ := Option.map_eq_some_iff.mp hfind
    exact h id r hr
  rcases resolve_cases hstep with ⟨-, rfl⟩ | ⟨host, -, hways⟩
  · exact h
  rcases hways with ⟨-, rfl⟩ | ⟨-, -, rfl⟩ | ⟨-, -, rfl⟩ | ⟨-, id, hid, -, rfl⟩
  · exact hprepared
  · exact hprepared.of_eq bootstrapInform_resolverList
  · exact hprepared
  · intro j r hfind
    by_cases hj : j = id
    · rw [hj, Table.find_append_self] at hfind
      obtain rfl := Option.some.inj hfind
      exact Or.inl rfl
    · exact hprepared j r ((Table.find_append_ne (h := hid) hj).symm.trans hfind)

/-- **One event** leaves none of them behind. -/
theorem Tended.step (h : Tended s) (hstep : s.step lib e = some t) : Tended t := by
  cases stepped_of_step hstep with
  | resolve hresolve => exact h.resolve hresolve
  | ttl hresolve =>
    have hstopped : Tended { s with dnsTtlTimer := none } := h
    exact hstopped.resolve hresolve
  | answer hr _ success ai =>
    exact (h.modify (f := Resolver.called) fun r _ => Or.inr rfl).of_eq resolveCb_resolverList
  | sock id fd read write =>
    refine h.modify fun r hr => ?_
    rw [sockCb_queried]
    exact hr.imp_right sockCb_cleanTimer
  | clean hr _ => exact h.remove.of_eq resolveCb_resolverList
  | cleanClosed hr _ => exact h.remove
  | _ => exact h

theorem toSettle_of_eq (hlist : t.resolverList = s.resolverList) : t.toSettle = s.toSettle := by
  rw [toSettle, hlist, toSettle]

/-- A change that does not open or close a query. -/
theorem toSettle_modify {id : ℕ} {f : Resolver → Resolver} (hf : ∀ r, (f r).queried = r.queried) :
    { s with resolverList := s.resolverList.modify id f }.toSettle = s.toSettle := by
  have hagree : Table.Agree Resolver.queried (s.resolverList.modify id f) s.resolverList :=
    Table.agree_modify hf
  have hlength := congrArg List.length hagree
  have hcount := hagree.countP fun queried => queried
  rw [List.length_map, List.length_map] at hlength
  rw [toSettle, hlength, hcount, toSettle]

/-- The call for a query leaves the resolver to be cleaned up. -/
theorem toSettle_called {id : ℕ} {r : Resolver} (hr : s.resolverList.find id = some r)
    (hopen : r.queried = true) :
    { s with resolverList := s.resolverList.modify id Resolver.called }.toSettle + 1 =
      s.toSettle := by
  obtain ⟨pre, post, hsplit, -, hmodify⟩ := Table.exists_split hr
  have hclosed : r.called.queried = false := rfl
  rw [toSettle, toSettle, hsplit, hmodify]
  simp only [List.length_append, List.length_cons, List.countP_append, List.countP_cons, hopen,
    hclosed, if_true, Bool.false_eq_true, if_false]
  omega

theorem toSettle_remove {id : ℕ} {r : Resolver} (hr : s.resolverList.find id = some r) :
    { s with resolverList := s.resolverList.remove id }.toSettle + 1 ≤ s.toSettle := by
  obtain ⟨pre, post, hsplit, hremove, -⟩ := Table.exists_split hr
  rw [toSettle, toSettle, hsplit, hremove]
  simp only [List.length_append, List.length_cons, List.countP_append, List.countP_cons]
  omega

/-- **One event that is not a request** adds nothing, and a call and a clean-up take one away. -/
theorem toSettle_step (hnone : s.NoRequest e) (hstep : s.step lib e = some t) :
    t.toSettle + (if e.settles then 1 else 0) ≤ s.toSettle := by
  cases stepped_of_step hstep with
  | resolve => exact absurd hnone id
  | ttl => exact absurd hnone id
  | answer hr hopen success ai =>
    rw [toSettle_of_eq resolveCb_resolverList]
    exact (toSettle_called hr hopen).le
  | sock id fd read write => exact (toSettle_modify fun _ => sockCb_queried).le
  | clean hr _ =>
    rw [toSettle_of_eq resolveCb_resolverList]
    exact toSettle_remove hr
  | cleanClosed hr _ => exact toSettle_remove hr
  | _ => exact Nat.le_refl _

/-- **As long as there is a resolver**, a call or a clean-up can come. -/
theorem Tended.entries_eq_nil (h : Tended s) (hrest : AtRest (Dns.step lib) Settling s) :
    s.resolverList.entries = [] := by
  rcases hentries : s.resolverList.entries with - | ⟨⟨id, r⟩, rest⟩
  · rfl
  have hr : s.resolverList.find id = some r := by
    rw [Table.find_eq_some, hentries]
    exact List.mem_cons_self
  rcases h id r hr with hopen | htimer
  · have hnot := hrest (.answer id false none) rfl
    simp only [Dns.step, answered, hr, if_pos hopen] at hnot
    cases hnot
  · have hnot := hrest (.clean id) rfl
    simp only [Dns.step, cleaned, hr, if_pos htimer] at hnot
    cases hnot

/-! ### What a bootstrap waits for -/

/-- A bootstrap that is to be asked for at the end of a resolution: another one follows, or the host
is empty. -/
def BootstrapFollows (s : Dns) : Prop :=
  s.sendBootstrap = true → LookupFollows s ∨ s.history.parsed = some []

theorem BootstrapFollows.mono (h : BootstrapFollows s) (hsend : t.sendBootstrap = s.sendBootstrap)
    (hparsed : t.history.parsed = s.history.parsed) (hfollows : LookupFollows s → LookupFollows t) :
    BootstrapFollows t := by
  intro hwaits
  rw [hparsed]
  exact (h (hsend ▸ hwaits)).imp_left hfollows

theorem bootstrapFollows_resolve {urlChanged : Bool} {place : Option ℕ}
    (hstep : s.cwmpDnsResolve lib urlChanged place = some t) : BootstrapFollows t := by
  intro hwaits
  rcases resolve_cases hstep with ⟨-, rfl⟩ | ⟨host, hhost, hways⟩
  · exact Or.inl (lookupFollows_startTtlTimer _ _)
  rcases hways with ⟨rfl, rfl⟩ | ⟨-, -, rfl⟩ | ⟨-, -, rfl⟩ | ⟨-, id, hid, -, rfl⟩
  · refine Or.inr ?_
    rw [prepared_history]
    show (s.acsHost lib).or s.history.parsed = some []
    rw [hhost, Option.some_or]
  · rw [bootstrapInform_eq] at hwaits
    cases hwaits
  · exact Or.inl (lookupFollows_startTtlTimer _ _)
  · exact Or.inl (Or.inr ⟨id, _, Table.find_append_self (h := hid), rfl, rfl⟩)

/-- The call for a resolver leaves none to be asked for, unless it is dirty. -/
theorem resolveCb_sendBootstrap {r : Resolver} {success : Bool} {ai : Option (List AddrinfoNode)} :
    (s.resolveCb r success ai).sendBootstrap = (r.dirty && s.sendBootstrap) := by
  rcases hdirty : r.dirty with - | -
  · obtain ⟨val, timer, hcalled⟩ := resolveCb_eq s success ai hdirty
    rw [hcalled]
    split
    · rw [bootstrapInform_eq, Bool.false_and]
    · rw [bootstrapInform_eq, Bool.false_and]
  · rw [resolveCb_of_dirty hdirty, Bool.true_and]

theorem BootstrapFollows.called {u : Dns} {r : Resolver} {success : Bool}
    {ai : Option (List AddrinfoNode)} (h : BootstrapFollows s)
    (hsend : u.sendBootstrap = s.sendBootstrap) (hparsed : u.history.parsed = s.history.parsed)
    (hfollows : LookupFollows s → LookupFollows (u.resolveCb r success ai)) :
    BootstrapFollows (u.resolveCb r success ai) := by
  intro hwaits
  rw [resolveCb_sendBootstrap, Bool.and_eq_true, hsend] at hwaits
  rw [resolveCb_parsed, hparsed]
  exact (h hwaits.2).imp_left hfollows

/-- **One event** keeps it. -/
theorem BootstrapFollows.step (h : BootstrapFollows s) (hstep : s.step lib e = some t) :
    BootstrapFollows t := by
  cases stepped_of_step hstep with
  | read reads => exact h.mono rfl rfl id
  | resolve hresolve => exact bootstrapFollows_resolve hresolve
  | elapse ms =>
    refine h.mono rfl rfl fun hfollows => hfollows.mono (fun hnone => ?_)
      fun id r hfind hclean hqueried => ⟨r, hfind, hclean, hqueried⟩
    exact Option.map_eq_none_iff.mp hnone
  | ttl hresolve => exact bootstrapFollows_resolve hresolve
  | answer hr _ success ai =>
    exact h.called rfl rfl fun hfollows => lookupFollows_answer hfollows hr
  | sock id fd read write => exact h.mono rfl rfl lookupFollows_sock
  | timeout id => exact h
  | clean hr _ => exact h.called rfl rfl fun hfollows => lookupFollows_clean hfollows hr
  | cleanClosed hr hclosed =>
    exact h.mono rfl rfl fun hfollows => lookupFollows_remove hfollows hr (Or.inr hclosed)

/-! ### Runs -/

/-- **The invariant**: no resolver is left behind, and the next look-up follows where it has to. -/
structure Underway (lib : UriLibrary) (s : Dns) : Prop where
  tended : Tended s
  name : LookupFollowsName lib s
  bootstrap : BootstrapFollows s

theorem underway_initial (reads : DnsReads) : Underway lib (initial reads) :=
  ⟨fun _ _ hfind => absurd hfind (Option.some_ne_none _).symm,
    fun _ hnone => absurd hnone (Option.some_ne_none _).symm,
    fun hwaits => absurd hwaits Bool.false_ne_true⟩

theorem Underway.step (h : Underway lib s) (hstep : s.step lib e = some t) : Underway lib t :=
  ⟨h.tended.step hstep, h.name.step hstep, h.bootstrap.step hstep⟩

/-- Without a resolver the next look-up is that of the timer. -/
theorem dnsTtlTimer_of_lookupFollows (h : LookupFollows s)
    (hempty : s.resolverList.entries = []) : s.dnsTtlTimer ≠ none := by
  rcases h with harmed | ⟨id, r, hfind, -, -⟩
  · exact harmed
  · rw [Table.find_eq_some, hempty] at hfind
    exact absurd hfind List.not_mem_nil

/-- **A look-up comes to its end**: from every state that can be reached, as long as no request
comes, there are no more calls and clean-ups than are counted for it; they can go on until no
resolver is left; and where they cannot go on, none is left, and the timer is armed for a host that
is a name and for a bootstrap that is still to be asked for, unless the host is empty. -/
theorem settles_of_reaches (lib : UriLibrary) (reads : DnsReads) (s : Dns)
    (h : Reaches (Dns.step lib) free (initial reads) s) :
    (∀ es t, exec (Dns.step lib) s es = some t → Meets (Dns.step lib) NoRequest s es →
      es.countP DnsEvent.settles + t.toSettle ≤ s.toSettle) ∧
    (∃ t, Reaches (Dns.step lib) Settling s t ∧ t.resolverList.entries = []) ∧
    ∀ t, Reaches (Dns.step lib) NoRequest s t → AtRest (Dns.step lib) Settling t →
      t.resolverList.entries = [] ∧
        (∀ host, t.history.parsed = some host → lib.IsName host → t.dnsTtlTimer ≠ none) ∧
        (t.sendBootstrap = true → t.dnsTtlTimer ≠ none ∨ t.history.parsed = some []) := by
  have hunderway : ∀ {t}, Reaches (Dns.step lib) free s t → Underway lib t := by
    intro t ht
    exact Reaches.invariant (fun _ _ _ hu _ hv => hu.step hv) (h.trans ht) (underway_initial reads)
  have hs := hunderway Relation.ReflTransGen.refl
  have hinv : ∀ {G : Dns → DnsEvent → Prop} (u : Dns) (e : DnsEvent) (v : Dns), Underway lib u →
      G u e → u.step lib e = some v → Underway lib v := fun _ _ _ hu _ hv => hu.step hv
  have hcount : ∀ (u : Dns) (e : DnsEvent) (v : Dns), Underway lib u → u.NoRequest e →
      u.step lib e = some v → v.toSettle + (if e.settles then 1 else 0) ≤ u.toSettle :=
    fun _ _ _ _ hnone hv => toSettle_step hnone hv
  have hlower : ∀ (u : Dns) (e : DnsEvent) (v : Dns), Underway lib u → u.Settling e →
      u.step lib e = some v → v.toSettle < u.toSettle := by
    intro u e v hu hsettling hv
    have hsettles : e.settles = true := hsettling
    have hle := hcount u e v hu (noRequest_of_settling hsettling) hv
    rw [if_pos hsettles] at hle
    omega
  refine ⟨fun es t hrun hmeets => countP_add_rank_le hinv hcount hs hrun hmeets, ?_,
    fun t ht hrest => ?_⟩
  · obtain ⟨t, ht, hrest⟩ := exists_atRest hinv hlower hs
    exact ⟨t, ht, (hunderway (ht.mono fun _ _ _ => trivial)).tended.entries_eq_nil hrest⟩
  · have ht' := hunderway (ht.mono fun _ _ _ => trivial)
    have hempty := ht'.tended.entries_eq_nil hrest
    refine ⟨hempty, fun host hparsed hname => ?_, fun hwaits => ?_⟩
    · exact dnsTtlTimer_of_lookupFollows (ht'.name host hparsed hname) hempty
    · exact (ht'.bootstrap hwaits).imp_left fun hfollows =>
        dnsTtlTimer_of_lookupFollows hfollows hempty

/-- A name is looked up for a changed URL, and once more before the answer: two calls and two
clean-ups are to come, and no resolver is left in the end. -/
theorem settles_of_reaches_twice :
    ∃ s, exec (Dns.step exampleLibrary) (initial ⟨some "acs.example".toList, none⟩)
        [.resolve true (some 0), .sock 0 7 1 0, .resolve false (some 1)] = some s ∧
      s.toSettle = 4 ∧
      ∃ t, Reaches (Dns.step exampleLibrary) Settling s t ∧ t.resolverList.entries = [] :=
  ⟨_, rfl, rfl, (settles_of_reaches exampleLibrary ⟨some "acs.example".toList, none⟩ _
    (reaches_free_of_exec [.resolve true (some 0), .sock 0 7 1 0, .resolve false (some 1)]
      rfl)).2.1⟩

end Dns

end Tr069
