import Mathlib.Data.List.Nodup
import Mathlib.Data.List.Perm.Basic
import Tr069Manager.Lib.Runs
import Tr069Manager.Reports.Daemon

/-!
# Every finished result is handed over once

For the path of an instance, count the timers with its name, the notifications on their way
that say it is Done, and the reports of it made since the daemon started. The daemon turns
one of the first two into one of the third when it runs them, and nothing else moves between
the three: their sum (`Tr069.Reporter.tokens`) is 1 for an instance that is finished and 0
for one that is not, and it is never more than 1. This holds in every run in which no
instance becomes Done between the read and the subscription, and none is written after it is
Done (`Tr069.Reporter.NoneMissed`); so each result is handed over exactly once
(`Tr069.results_reported_once`), with what its instance says.

The first condition is the gap of the two `_init` functions: they read before they
subscribe, and an instance that becomes Done in between is in neither
(`Tr069.results_missed`).
-/

namespace Tr069

open Runs

namespace Reporter

/-! ### What the two processes agree on -/

/-- The path the slot of a kind works on. -/
def objectPath : ResultKind → String → String
  | .scheduleDownload, object => transferPathOf object
  | .duStateChangeComplete, object => object

end Reporter

/-- The notification says that the instance of a path is Done. -/
def Notification.Names (n : Notification) (p : String) : Prop :=
  n.status = "Done" ∧ Reporter.objectPath n.kind n.object = p

instance (n : Notification) (p : String) : Decidable (n.Names p) :=
  inferInstanceAs (Decidable (_ ∧ _))

namespace Reporter

/-- The work of the daemon that is about the instance of a path: timers that run under its
name, and notifications that it is Done. -/
def pending (s : Reporter) (p : String) : ℕ :=
  s.timers.countP (·.1 = p) + s.notifications.countP (·.Names p)

/-- How often the instance of a path has been handed to the engine. -/
def handed (s : Reporter) (p : String) : ℕ := s.reported.countP (·.path = p)

/-- The reports of an instance, made or still to be made. -/
def tokens (s : Reporter) (p : String) : ℕ := s.pending p + s.handed p

/-- The steps that lose no result: no instance becomes Done between the read and the
subscription, and none that is Done is written. -/
structure NoneMissed (s : Reporter) (e : ReportEvent) : Prop where
  gap : ∀ p r, e = .written p r → r.Due → s.phase r.kind ≠ .reading
  final : ∀ p r r', e = .written p r' → s.dm p = some r → r.status ≠ "Done"

/-- **Nothing is lost and nothing is said twice**: each instance has at most one report, made
or to be made; a finished one has one, as soon as the daemon has read; and every report
says what its instance says. -/
structure Once (amxcTcToTimeUtc : ℤ → ℤ) (s : Reporter) : Prop where
  once : ∀ (k : ResultKind) n, s.tokens (k.instancePath n) ≤ 1
  due : ∀ p r, s.dm p = some r → r.Due → s.phase r.kind ≠ .stopped → s.tokens p = 1
  own : ∀ x ∈ s.reported, ∀ r, s.dm x.path = some r → r.Due ∧ x = r.report amxcTcToTimeUtc x.path

/-- The invariant `Once` is part of. -/
structure Sound (amxcTcToTimeUtc : ℤ → ℤ) (s : Reporter) : Prop
    extends Once amxcTcToTimeUtc s where
  nodup : s.used.Nodup
  keyed : ∀ p r, s.dm p = some r → p ∈ s.used ∧ ∃ n, p = r.kind.instancePath n
  fresh : ∀ (k : ResultKind) n, k.instancePath n ∉ s.used → s.tokens (k.instancePath n) = 0
  undue : ∀ p r, s.dm p = some r → ¬r.Due ∨ s.phase r.kind = .stopped → s.tokens p = 0
  timer : ∀ x ∈ s.timers, ∃ n, x.1 = x.2.instancePath n
  notification : ∀ n ∈ s.notifications, n.status = "Done" →
    ∃ m sub, objectPath n.kind n.object = n.kind.instancePath m ++ sub

variable {amxcTcToTimeUtc : ℤ → ℤ} {s t : Reporter} {p : String} {k : ResultKind} {r : Record}

theorem instancePath_ne_empty (k : ResultKind) (n : ℕ) : k.instancePath n ≠ "" := by
  intro h
  have h := congrArg String.toList h
  rw [ResultKind.toList_instancePath] at h
  cases k <;> cases h

theorem objectPath_statusObject (k : ResultKind) (n : ℕ) :
    objectPath k (statusObject k (k.instancePath n)) = k.instancePath n := by
  cases k with
  | scheduleDownload => exact transferPathOf_transferCompletePath n
  | duStateChangeComplete => rfl

/-! ### The handlers -/

/-- Handing over the instance of a path: it is read, and sent to the engine. -/
def handOver (amxcTcToTimeUtc : ℤ → ℤ) (s : Reporter) (p : String) : Reporter :=
  match s.dm p with
  | none => s
  | some r => s.send (r.report amxcTcToTimeUtc p)

/-- **The handlers of the two kinds do the same**, each for its instances. -/
theorem handle_eq (hp : p ≠ "") (hkind : ∀ r, s.dm p = some r → r.kind = k) :
    handle amxcTcToTimeUtc k s p = handOver amxcTcToTimeUtc s p := by
  cases hr : s.dm p with
  | none =>
    cases k <;>
      simp [handle, handleTransfercomplete, handleDustatechangecomplete, handOver, hr]
  | some r =>
    have hk := hkind r hr
    subst hk
    cases r with
    | transferComplete tc =>
      simp [Record.kind, handle, handleTransfercomplete, handOver, hr, hp, tc.2]
    | duStateChangeComplete d =>
      simp [Record.kind, handle, handleDustatechangecomplete, handOver, hr, hp]

theorem notified_eq (k : ResultKind) (s : Reporter) (status object : String) :
    notified amxcTcToTimeUtc k s status object =
      if status = "Done" then handle amxcTcToTimeUtc k s (objectPath k object) else s := by
  cases k <;> rfl

theorem handle_of_none (hr : s.dm p = none) : handle amxcTcToTimeUtc k s p = s := by
  cases k with
  | scheduleDownload =>
    rw [handle, handleTransfercomplete, hr]
    exact ite_self s
  | duStateChangeComplete =>
    rw [handle, handleDustatechangecomplete, hr]
    exact ite_self s

theorem differ_eq (hp : p ≠ "") : differ k s p = s.timerStart p k := by
  cases k with
  | scheduleDownload => rw [differ, differTransfercompleteHandling, if_neg hp]
  | duStateChangeComplete => rw [differ, differDustatechangecompleteHandling, if_neg hp]

/-- The read starts a timer for each finished instance, if none of them has one. -/
theorem foldl_differ {paths : List String} (hne : ∀ p ∈ paths, p ≠ "") (hnodup : paths.Nodup)
    (hnone : ∀ p ∈ paths, s.timers.countP (·.1 = p) = 0) :
    paths.foldl (differ k) s = { s with timers := s.timers ++ paths.map (·, k) } := by
  induction paths generalizing s with
  | nil => simp
  | cons q paths ih =>
    obtain ⟨hq, hnodup⟩ := List.nodup_cons.mp hnodup
    have hstart : differ k s q = { s with timers := s.timers ++ [(q, k)] } := by
      have hany : s.timers.any (·.1 = q) = false := by
        have hzero := List.countP_eq_zero.mp (hnone q List.mem_cons_self)
        exact List.any_eq_false.mpr fun x hx => hzero x hx
      rw [differ_eq (hne q List.mem_cons_self), timerStart, hany, if_neg Bool.false_ne_true]
    rw [List.foldl_cons, hstart, ih (fun p hp => hne p (List.mem_cons_of_mem _ hp)) hnodup]
    · simp
    · intro p hp
      have hpq : q ≠ p := fun h => hq (h ▸ hp)
      simp [hnone p (List.mem_cons_of_mem _ hp), hpq]

/-! ### Counting -/

@[simp] theorem path_report (r : Record) (p : String) :
    (r.report amxcTcToTimeUtc p).path = p := by
  cases r <;> rfl

theorem tokens_send (x : Report) (q : String) :
    (s.send x).tokens q = s.tokens q + if x.path = q then 1 else 0 := by
  have hone : List.countP (fun y : Report => decide (y.path = q)) [x] =
      if x.path = q then 1 else 0 := by
    by_cases h : x.path = q
    · simp [h]
    · simp [h]
  rw [tokens, tokens, handed, send, List.countP_append, hone, ← Nat.add_assoc]
  rfl

/-- A report that is on record is counted. -/
theorem one_le_tokens {x : Report} (hx : x ∈ s.reported) : 1 ≤ s.tokens x.path := by
  have hpos : 0 < s.handed x.path := List.countP_pos_iff.mpr ⟨x, hx, decide_eq_true rfl⟩
  rw [tokens]
  omega

theorem tokens_erase (hmem : (p, k) ∈ s.timers) (q : String) :
    s.tokens q = { s with timers := s.timers.erase (p, k) }.tokens q + if p = q then 1 else 0 := by
  have hperm := (List.perm_cons_erase hmem).countP_eq (fun x : String × ResultKind => x.1 = q)
  rw [List.countP_cons] at hperm
  simp only [decide_eq_true_eq] at hperm
  simp only [tokens, pending, handed]
  omega

theorem tokens_dequeue {n : Notification} {rest : List Notification}
    (hn : s.notifications = n :: rest) (q : String) :
    s.tokens q = { s with notifications := rest }.tokens q + if n.Names q then 1 else 0 := by
  simp only [tokens, pending, handed, hn, List.countP_cons, decide_eq_true_eq]
  omega

theorem tokens_notify (ns : List Notification) (q : String) :
    { s with notifications := s.notifications ++ ns }.tokens q =
      s.tokens q + ns.countP (·.Names q) := by
  simp only [tokens, pending, handed, List.countP_append]
  omega

/-! ### What a step preserves -/

namespace Sound

/-- The data model and the phases are left alone; no instance has gained or lost a report, and no
other path has gained one; what is new on record is the report of its instance, and what is new in
the queue names an instance if it is handled at all. -/
theorem of_tokens (hs : s.Sound amxcTcToTimeUtc) (hdm : t.dm = s.dm) (hused : t.used = s.used)
    (hphase : t.phase = s.phase)
    (hreported : ∀ x ∈ t.reported, x ∈ s.reported ∨
      ∀ r, s.dm x.path = some r → r.Due ∧ x = r.report amxcTcToTimeUtc x.path)
    (htimers : t.timers ⊆ s.timers)
    (hnotifications : ∀ n ∈ t.notifications, n ∈ s.notifications ∨
      (n.status = "Done" → ∃ m sub, objectPath n.kind n.object = n.kind.instancePath m ++ sub))
    (hle : ∀ (k : ResultKind) n, t.tokens (k.instancePath n) ≤ s.tokens (k.instancePath n))
    (hsame : ∀ q r, s.dm q = some r → t.tokens q = s.tokens q) : t.Sound amxcTcToTimeUtc where
  once k n := Nat.le_trans (hle k n) (hs.once k n)
  due q r hr hdue hph := by
    rw [hdm] at hr
    rw [hphase] at hph
    rw [hsame q r hr]
    exact hs.due q r hr hdue hph
  own x hx r hr := by
    rw [hdm] at hr
    rcases hreported x hx with hx | hnew
    · exact hs.own x hx r hr
    · exact hnew r hr
  nodup := hused ▸ hs.nodup
  keyed q r hr := by
    rw [hdm] at hr
    rw [hused]
    exact hs.keyed q r hr
  fresh k n hn := by
    rw [hused] at hn
    have hzero := hs.fresh k n hn
    have hle := hle k n
    omega
  undue q r hr h := by
    rw [hdm] at hr
    rw [hphase] at h
    rw [hsame q r hr]
    exact hs.undue q r hr h
  timer x hx := hs.timer x (htimers hx)
  notification n hn hdone := by
    rcases hnotifications n hn with hn | hnew
    · exact hs.notification n hn hdone
    · exact hnew hdone

/-- The kind of an instance is in its path. -/
theorem kind_eq (hs : s.Sound amxcTcToTimeUtc) (hr : s.dm p = some r) {m : ℕ} {sub : String}
    (hp : p = k.instancePath m ++ sub) : r.kind = k := by
  obtain ⟨-, n, hn⟩ := hs.keyed p r hr
  exact (ResultKind.kind_of_instancePath_append (hp.symm.trans hn)).symm

/-- **The daemon runs one piece of work** for a path: what was to be reported has been, or
the instance is gone. -/
theorem handled (hs : s.Sound amxcTcToTimeUtc) (hdm : t.dm = s.dm) (hused : t.used = s.used)
    (hphase : t.phase = s.phase) (hreported : t.reported = s.reported)
    (htimers : t.timers ⊆ s.timers) (hnotifications : t.notifications ⊆ s.notifications)
    {m : ℕ} {sub : String} (hp : p = k.instancePath m ++ sub)
    (htokens : ∀ q, s.tokens q = t.tokens q + if p = q then 1 else 0) :
    (handle amxcTcToTimeUtc k t p).Sound amxcTcToTimeUtc := by
  cases hr : s.dm p with
  | none =>
    rw [handle_of_none (hdm ▸ hr)]
    refine hs.of_tokens hdm hused hphase (fun x hx => Or.inl (hreported ▸ hx)) htimers
      (fun n hn => Or.inl (hnotifications hn)) (fun k n => ?_) fun q r hq => ?_
    · rw [htokens]
      omega
    · -- no instance is at this path, so no count that matters goes down
      have hne : p ≠ q := by
        rintro rfl
        rw [hr] at hq
        cases hq
      rw [htokens q, if_neg hne, Nat.add_zero]
  | some r =>
    have hkind : ∀ r', t.dm p = some r' → r'.kind = k := by
      intro r' hr'
      rw [hdm] at hr'
      exact hs.kind_eq hr' hp
    obtain ⟨-, n, hn⟩ := hs.keyed p r hr
    have hpne : p ≠ "" := hn ▸ instancePath_ne_empty r.kind n
    have hsend : handle amxcTcToTimeUtc k t p = t.send (r.report amxcTcToTimeUtc p) := by
      rw [handle_eq hpne hkind, handOver, hdm, hr]
    have hsame : ∀ q, (t.send (r.report amxcTcToTimeUtc p)).tokens q = s.tokens q := fun q => by
      rw [tokens_send, path_report, htokens q]
    -- there was something to report for the path, so its instance is finished
    have hdue : r.Due := by
      by_contra hnot
      have hzero := hs.undue p r hr (Or.inl hnot)
      have hone := htokens p
      rw [if_pos rfl] at hone
      omega
    rw [hsend]
    refine hs.of_tokens hdm hused hphase (fun x hx => ?_) htimers
      (fun n hn => Or.inl (hnotifications hn)) (fun k n => (hsame _).le) fun q _ _ => hsame q
    rcases List.mem_append.mp hx with hx | hx
    · exact Or.inl (hreported ▸ hx)
    · obtain rfl := List.mem_singleton.mp hx
      refine Or.inr fun r' hr' => ?_
      rw [path_report] at hr' ⊢
      obtain rfl := Option.some.inj (hr.symm.trans hr')
      exact ⟨hdue, rfl⟩

/-- An instance is added. -/
theorem added (hs : s.Sound amxcTcToTimeUtc) {n : ℕ} (hfresh : r.kind.instancePath n ∉ s.used)
    (hst : r.status ≠ "Done") :
    ({ s with
      dm := Function.update s.dm (r.kind.instancePath n) (some r)
      used := r.kind.instancePath n :: s.used } : Reporter).Sound amxcTcToTimeUtc := by
  have hzero := hs.fresh r.kind n hfresh
  -- an instance is the new one, or one that was there
  have hcases : ∀ q r', Function.update s.dm (r.kind.instancePath n) (some r) q = some r' →
      (q = r.kind.instancePath n ∧ r' = r) ∨ s.dm q = some r' := by
    intro q r' hq
    by_cases hqp : q = r.kind.instancePath n
    · subst hqp
      rw [Function.update_self] at hq
      exact Or.inl ⟨rfl, (Option.some.inj hq).symm⟩
    · rw [Function.update_of_ne hqp] at hq
      exact Or.inr hq
  refine ⟨⟨hs.once, fun q r' hq hdue hph => ?_, fun x hx r' hr' => ?_⟩,
    List.nodup_cons.mpr ⟨hfresh, hs.nodup⟩, fun q r' hq => ?_, fun k m hm => ?_,
    fun q r' hq h => ?_, hs.timer, hs.notification⟩
  · rcases hcases q r' hq with ⟨-, rfl⟩ | hq
    · exact absurd hdue.2 hst
    · exact hs.due q r' hq hdue hph
  · rcases hcases x.path r' hr' with ⟨hpath, -⟩ | hr'
    · have hone : 1 ≤ s.tokens x.path := one_le_tokens hx
      have hpath : x.path = r.kind.instancePath n := hpath
      rw [hpath] at hone
      omega
    · exact hs.own x hx r' hr'
  · rcases hcases q r' hq with ⟨rfl, rfl⟩ | hq
    · exact ⟨List.mem_cons_self, n, rfl⟩
    · obtain ⟨hmem, hpath⟩ := hs.keyed q r' hq
      exact ⟨List.mem_cons_of_mem _ hmem, hpath⟩
  · exact hs.fresh k m fun h => hm (List.mem_cons_of_mem _ h)
  · rcases hcases q r' hq with ⟨rfl, -⟩ | hq
    · exact hzero
    · exact hs.undue q r' hq h

/-- An instance is deleted. -/
theorem deleted (hs : s.Sound amxcTcToTimeUtc) (p : String) :
    ({ s with dm := Function.update s.dm p none } : Reporter).Sound amxcTcToTimeUtc := by
  have hold : ∀ q r', Function.update s.dm p none q = some r' → s.dm q = some r' := by
    intro q r' hq
    by_cases hqp : q = p
    · subst hqp
      rw [Function.update_self] at hq
      cases hq
    · rwa [Function.update_of_ne hqp] at hq
  exact ⟨⟨hs.once, fun q r' hq => hs.due q r' (hold q r' hq),
    fun x hx r' hr' => hs.own x hx r' (hold _ r' hr')⟩, hs.nodup,
    fun q r' hq => hs.keyed q r' (hold q r' hq), hs.fresh,
    fun q r' hq => hs.undue q r' (hold q r' hq), hs.timer, hs.notification⟩

/-- The daemon restarts. -/
theorem restarted (hs : s.Sound amxcTcToTimeUtc) :
    ({ s with phase := fun _ => .stopped, timers := [], notifications := [], reported := [] } :
      Reporter).Sound amxcTcToTimeUtc := by
  refine ⟨⟨fun _ _ => Nat.zero_le 1, fun _ _ _ _ h => absurd rfl h, fun x hx => ?_⟩, hs.nodup,
    hs.keyed, fun _ _ _ => rfl, fun _ _ _ _ => rfl, fun x hx => ?_, fun n hn => ?_⟩
  · exact absurd hx List.not_mem_nil
  · exact absurd hx List.not_mem_nil
  · exact absurd hn List.not_mem_nil

/-- The daemon subscribes. -/
theorem subscribed (hs : s.Sound amxcTcToTimeUtc) (hk : s.phase k = .reading) :
    (s.initSubscribe k).Sound amxcTcToTimeUtc := by
  -- for the invariant the phase is the same
  have hphase : ∀ k', Function.update s.phase k .running k' = .stopped ↔ s.phase k' = .stopped := by
    intro k'
    by_cases h : k' = k
    · subst h
      rw [Function.update_self, hk]
      decide
    · rw [Function.update_of_ne h]
  refine ⟨⟨hs.once, fun q r hq hdue hph => ?_, hs.own⟩, hs.nodup, hs.keyed, hs.fresh,
    fun q r hq h => ?_, hs.timer, hs.notification⟩
  · exact hs.due q r hq hdue (mt (hphase r.kind).mpr hph)
  · exact hs.undue q r hq (h.imp_right (hphase r.kind).mp)

theorem mem_donePaths :
    p ∈ s.donePaths k ↔ p ∈ s.used ∧ ∃ r, s.dm p = some r ∧ r.kind = k ∧ r.Due := by
  rw [donePaths, List.mem_filter, Option.any_eq_true]
  simp only [decide_eq_true_eq]

/-- Before a kind is read, nothing is to be reported for its finished instances. -/
theorem tokens_of_mem_donePaths (hs : s.Sound amxcTcToTimeUtc) (hk : s.phase k = .stopped)
    (hp : p ∈ s.donePaths k) : s.tokens p = 0 := by
  obtain ⟨-, r, hr, rfl, -⟩ := mem_donePaths.mp hp
  exact hs.undue p r hr (Or.inr hk)

theorem path_of_mem_donePaths (hs : s.Sound amxcTcToTimeUtc) (hp : p ∈ s.donePaths k) :
    ∃ n, p = k.instancePath n := by
  obtain ⟨-, r, hr, rfl, -⟩ := mem_donePaths.mp hp
  exact (hs.keyed p r hr).2

/-- The read gives each finished instance of the kind one timer, in the order of the answer. -/
theorem initRead_eq (hs : s.Sound amxcTcToTimeUtc) (hk : s.phase k = .stopped)
    {paths : List String} (hperm : paths.Perm (s.donePaths k)) :
    s.initRead k paths = { s with
      timers := s.timers ++ paths.map (·, k)
      phase := Function.update s.phase k .reading } := by
  have hnodup : paths.Nodup := hperm.nodup_iff.mpr (hs.nodup.filter _)
  rw [initRead, foldl_differ _ hnodup]
  · intro q hq
    have hq0 := hs.tokens_of_mem_donePaths hk (hperm.mem_iff.mp hq)
    rw [tokens, pending] at hq0
    omega
  · intro q hq
    obtain ⟨n, rfl⟩ := hs.path_of_mem_donePaths (hperm.mem_iff.mp hq)
    exact instancePath_ne_empty k n

theorem tokens_initRead (hs : s.Sound amxcTcToTimeUtc) (hk : s.phase k = .stopped)
    {paths : List String} (hperm : paths.Perm (s.donePaths k)) (q : String) :
    (s.initRead k paths).tokens q = s.tokens q + if q ∈ s.donePaths k then 1 else 0 := by
  have hnodup : paths.Nodup := hperm.nodup_iff.mpr (hs.nodup.filter _)
  have hcount : (paths.map (·, k)).countP (fun x => x.1 = q) =
      if q ∈ s.donePaths k then 1 else 0 := by
    rw [List.countP_map, ← if_congr hperm.mem_iff rfl rfl, ← hnodup.count, List.count]
    rfl
  rw [hs.initRead_eq hk hperm]
  simp only [tokens, pending, handed, List.countP_append, hcount]
  omega

/-- The daemon reads the finished instances of a kind. -/
theorem read (hs : s.Sound amxcTcToTimeUtc) (hk : s.phase k = .stopped) {paths : List String}
    (hperm : paths.Perm (s.donePaths k)) : (s.initRead k paths).Sound amxcTcToTimeUtc := by
  have htokens := hs.tokens_initRead hk hperm
  have heq := hs.initRead_eq hk hperm
  have hphase : ∀ k', (s.initRead k paths).phase k' = if k' = k then .reading else s.phase k' := by
    intro k'
    rw [heq]
    by_cases h : k' = k
    · subst h
      rw [if_pos rfl]
      exact Function.update_self ..
    · rw [if_neg h]
      exact Function.update_of_ne h ..
  have hdm : (s.initRead k paths).dm = s.dm := by rw [heq]
  have hused : (s.initRead k paths).used = s.used := by rw [heq]
  have hreported : (s.initRead k paths).reported = s.reported := by rw [heq]
  refine ⟨⟨fun k' n => ?_, fun q r hq hdue hph => ?_, ?_⟩, hused ▸ hs.nodup, ?_, fun k' n hn => ?_,
    fun q r hq h => ?_, ?_, ?_⟩
  · rw [htokens]
    by_cases hq : k'.instancePath n ∈ s.donePaths k
    · rw [hs.tokens_of_mem_donePaths hk hq, if_pos hq]
    · rw [if_neg hq]
      exact hs.once k' n
  · rw [hdm] at hq
    rw [hphase] at hph
    rw [htokens]
    by_cases hkind : r.kind = k
    · have hin : q ∈ s.donePaths k := mem_donePaths.mpr ⟨(hs.keyed q r hq).1, r, hq, hkind, hdue⟩
      rw [hs.tokens_of_mem_donePaths hk hin, if_pos hin]
    · rw [if_neg hkind] at hph
      have hout : q ∉ s.donePaths k := by
        intro hin
        obtain ⟨-, r', hr', hk', -⟩ := mem_donePaths.mp hin
        rw [hq] at hr'
        exact hkind (Option.some.inj hr' ▸ hk')
      rw [if_neg hout, Nat.add_zero]
      exact hs.due q r hq hdue hph
  · rw [hreported, hdm]
    exact hs.own
  · rw [hdm, hused]
    exact hs.keyed
  · rw [hused] at hn
    have hout : k'.instancePath n ∉ s.donePaths k := fun hin => hn (mem_donePaths.mp hin).1
    rw [htokens, if_neg hout, Nat.add_zero]
    exact hs.fresh k' n hn
  · rw [hdm] at hq
    rw [hphase] at h
    -- an instance of this kind is not stopped any more, so it is not finished
    have hout : q ∉ s.donePaths k := by
      intro hin
      obtain ⟨-, r', hr', hk', hdue⟩ := mem_donePaths.mp hin
      obtain rfl := Option.some.inj (hq.symm.trans hr')
      rcases h with h | h
      · exact h hdue
      · rw [if_pos hk'] at h
        cases h
    have hold : ¬r.Due ∨ s.phase r.kind = .stopped := by
      refine h.imp_right fun h => ?_
      by_cases hkind : r.kind = k
      · exact hkind ▸ hk
      · rwa [if_neg hkind] at h
    rw [htokens, if_neg hout, Nat.add_zero]
    exact hs.undue q r hq hold
  · rw [heq]
    intro x hx
    rcases List.mem_append.mp hx with hx | hx
    · exact hs.timer x hx
    · obtain ⟨q, hq, rfl⟩ := List.mem_map.mp hx
      exact hs.path_of_mem_donePaths (hperm.mem_iff.mp hq)
  · rw [heq]
    exact hs.notification

theorem countP_changed (hs : s.Sound amxcTcToTimeUtc) {r r' : Record} (hr : s.dm p = some r)
    (hkind : r'.kind = r.kind) (hst : r.status ≠ "Done") (q : String) :
    (s.changed p r r').countP (·.Names q) =
      if p = q ∧ r'.Due ∧ s.phase r'.kind = .running then 1 else 0 := by
  obtain ⟨-, n, hn⟩ := hs.keyed p r hr
  have hobject : objectPath r'.kind (statusObject r'.kind p) = p := by
    rw [hn, hkind]
    exact objectPath_statusObject r.kind n
  rw [changed]
  by_cases hnote : s.phase r'.kind = .running ∧ r'.initiator = "ACS" ∧ r'.status ≠ r.status
  · rw [if_pos hnote, List.countP_singleton]
    simp only [decide_eq_true_eq]
    refine if_congr ?_ rfl rfl
    constructor
    · rintro ⟨hdone, hq⟩
      exact ⟨hobject.symm.trans hq, ⟨hnote.2.1, hdone⟩, hnote.1⟩
    · rintro ⟨hq, hdue, -⟩
      exact ⟨hdue.2, hobject.trans hq⟩
  · rw [if_neg hnote, List.countP_nil, if_neg]
    rintro ⟨-, hdue, hrun⟩
    exact hnote ⟨hrun, hdue.1, fun h => hst (h ▸ hdue.2)⟩

/-- The plugin writes an instance that is not finished. -/
theorem written (hs : s.Sound amxcTcToTimeUtc) {r r' : Record} (hr : s.dm p = some r)
    (hkind : r'.kind = r.kind) (hst : r.status ≠ "Done")
    (hgap : r'.Due → s.phase r'.kind ≠ .reading) :
    ({ s with
      dm := Function.update s.dm p (some r')
      notifications := s.notifications ++ s.changed p r r' } : Reporter).Sound amxcTcToTimeUtc := by
  obtain ⟨hmem, n, hn⟩ := hs.keyed p r hr
  have hzero : s.tokens p = 0 := hs.undue p r hr (Or.inl fun hdue => hst hdue.2)
  have htokens : ∀ q, ({ s with
      dm := Function.update s.dm p (some r')
      notifications := s.notifications ++ s.changed p r r' } : Reporter).tokens q =
      s.tokens q + if p = q ∧ r'.Due ∧ s.phase r'.kind = .running then 1 else 0 := by
    intro q
    have hnotify := tokens_notify (s := s) (s.changed p r r') q
    rw [hs.countP_changed hr hkind hst] at hnotify
    exact hnotify
  have hcases : ∀ q r'', Function.update s.dm p (some r') q = some r'' →
      (q = p ∧ r'' = r') ∨ q ≠ p ∧ s.dm q = some r'' := by
    intro q r'' hq
    by_cases hqp : q = p
    · subst hqp
      rw [Function.update_self] at hq
      exact Or.inl ⟨rfl, (Option.some.inj hq).symm⟩
    · rw [Function.update_of_ne hqp] at hq
      exact Or.inr ⟨hqp, hq⟩
  -- the other instances are what they were
  have hother : ∀ q, q ≠ p → ({ s with
      dm := Function.update s.dm p (some r')
      notifications := s.notifications ++ s.changed p r r' } : Reporter).tokens q = s.tokens q := by
    intro q hq
    rw [htokens, if_neg fun h => hq h.1.symm, Nat.add_zero]
  refine ⟨⟨fun k m => ?_, fun q r'' hq hdue hph => ?_, fun x hx r'' hr'' => ?_⟩, hs.nodup,
    fun q r'' hq => ?_, fun k m hm => ?_, fun q r'' hq h => ?_, hs.timer, fun x hx hdone => ?_⟩
  · by_cases hq : k.instancePath m = p
    · rw [htokens, hq, hzero]
      split <;> omega
    · rw [hother _ hq]
      exact hs.once k m
  · rcases hcases q r'' hq with ⟨rfl, rfl⟩ | ⟨hqp, hq⟩
    · have hrun : s.phase r''.kind = .running := by
        have hgap := hgap hdue
        have hph : s.phase r''.kind ≠ .stopped := hph
        cases hphase : s.phase r''.kind with
        | stopped => exact absurd hphase hph
        | reading => exact absurd hphase hgap
        | running => rfl
      rw [htokens, hzero, if_pos ⟨rfl, hdue, hrun⟩]
    · rw [hother q hqp]
      exact hs.due q r'' hq hdue hph
  · rcases hcases x.path r'' hr'' with ⟨hpath, -⟩ | ⟨-, hr''⟩
    · have hone : 1 ≤ s.tokens x.path := one_le_tokens hx
      rw [hpath] at hone
      omega
    · exact hs.own x hx r'' hr''
  · rcases hcases q r'' hq with ⟨rfl, rfl⟩ | ⟨-, hq⟩
    · exact ⟨hmem, n, hkind ▸ hn⟩
    · exact hs.keyed q r'' hq
  · have hne : k.instancePath m ≠ p := by
      rintro rfl
      exact hm hmem
    rw [hother _ hne]
    exact hs.fresh k m hm
  · rcases hcases q r'' hq with ⟨rfl, rfl⟩ | ⟨hqp, hq⟩
    · rw [htokens, hzero, if_neg]
      rintro ⟨-, hdue, hrun⟩
      rcases h with h | h
      · exact h hdue
      · have h : s.phase r''.kind = .stopped := h
        rw [hrun] at h
        cases h
    · rw [hother q hqp]
      exact hs.undue q r'' hq h
  · rcases List.mem_append.mp hx with hx | hx
    · exact hs.notification x hx hdone
    · rw [changed] at hx
      split at hx
      · obtain rfl := List.mem_singleton.mp hx
        refine ⟨n, "", ?_⟩
        rw [String.append_empty, hn, hkind]
        exact objectPath_statusObject r.kind n
      · exact absurd hx List.not_mem_nil

theorem below_ne_empty (k : ResultKind) (j : ℕ) : k.below j ≠ "" := by
  intro h
  cases k with
  | scheduleDownload =>
    obtain ⟨hleft, -⟩ := String.append_eq_empty_iff.mp h
    exact absurd (String.append_eq_empty_iff.mp hleft).1 (by decide)
  | duStateChangeComplete =>
    obtain ⟨hleft, -⟩ := String.append_eq_empty_iff.mp h
    exact absurd (String.append_eq_empty_iff.mp hleft).1 (by decide)

/-- The Status of an object below an instance changes, which concerns no instance. -/
theorem belowChanged (hs : s.Sound amxcTcToTimeUtc) {j : ℕ} {status : String}
    (hr : s.dm p = some r) (hst : r.kind.belowStatus status) :
    ({ s with notifications := s.notifications ++ [⟨r.kind, p ++ r.kind.below j, status⟩] } :
      Reporter).Sound amxcTcToTimeUtc := by
  obtain ⟨-, n, rfl⟩ := hs.keyed p r hr
  have hdu : status = "Done" → r.kind = .duStateChangeComplete := by
    rintro rfl
    cases hk : r.kind with
    | scheduleDownload => exact absurd (hst hk) (by decide)
    | duStateChangeComplete => rfl
  have hnames : ∀ (k : ResultKind) m,
      List.countP (fun x : Notification => decide (x.Names (k.instancePath m)))
        [⟨r.kind, r.kind.instancePath n ++ r.kind.below j, status⟩] = 0 := by
    intro k m
    refine List.countP_eq_zero.mpr fun x hx => ?_
    obtain rfl := List.mem_singleton.mp hx
    rw [decide_eq_true_eq]
    rintro ⟨hdone, hobject⟩
    have hobject : objectPath r.kind (r.kind.instancePath n ++ r.kind.below j) = k.instancePath m :=
      hobject
    rw [hdu hdone] at hobject
    have hobject : ResultKind.duStateChangeComplete.instancePath n ++
      ResultKind.duStateChangeComplete.below j = k.instancePath m := hobject
    obtain rfl := ResultKind.kind_of_instancePath_append hobject
    exact ResultKind.instancePath_append_ne _ n m (below_ne_empty _ j) hobject
  have htokens : ∀ (k : ResultKind) m, ({ s with
      notifications := s.notifications ++
        [⟨r.kind, r.kind.instancePath n ++ r.kind.below j, status⟩] } : Reporter).tokens
      (k.instancePath m) = s.tokens (k.instancePath m) := by
    intro k m
    rw [tokens_notify, hnames, Nat.add_zero]
  refine hs.of_tokens rfl rfl rfl (fun x hx => Or.inl hx) (List.Subset.refl _) (fun x hx => ?_)
    (fun k m => (htokens k m).le) fun q r' hq => ?_
  · rcases List.mem_append.mp hx with hx | hx
    · exact Or.inl hx
    · obtain rfl := List.mem_singleton.mp hx
      refine Or.inr fun hdone => ⟨n, r.kind.below j, ?_⟩
      have hobject : ∀ k, k = .duStateChangeComplete → ∀ o, objectPath k o = o := by
        rintro k rfl o
        rfl
      exact hobject r.kind (hdu hdone) _
  · obtain ⟨-, m, rfl⟩ := hs.keyed q r' hq
    exact htokens r'.kind m

/-- A timer of the daemon fires. -/
theorem timerFired (hs : s.Sound amxcTcToTimeUtc) (hmem : (p, k) ∈ s.timers) :
    (handle amxcTcToTimeUtc k { s with timers := s.timers.erase (p, k) } p).Sound
      amxcTcToTimeUtc := by
  obtain ⟨n, hn⟩ := hs.timer (p, k) hmem
  have hp : p = k.instancePath n ++ "" := by rw [String.append_empty, ← hn]
  exact hs.handled rfl rfl rfl rfl List.erase_subset (List.Subset.refl _) hp (tokens_erase hmem)

/-- The daemon is given a notification. -/
theorem notificationHandled (hs : s.Sound amxcTcToTimeUtc) {n : Notification}
    {rest : List Notification} (hn : s.notifications = n :: rest) :
    (notified amxcTcToTimeUtc n.kind { s with notifications := rest } n.status n.object).Sound
      amxcTcToTimeUtc := by
  have hmem : n ∈ s.notifications := hn ▸ List.mem_cons_self
  have hsub : rest ⊆ s.notifications := hn ▸ List.subset_cons_self n rest
  rw [notified_eq]
  by_cases hdone : n.status = "Done"
  · rw [if_pos hdone]
    obtain ⟨m, sub, hobject⟩ := hs.notification n hmem hdone
    refine hs.handled rfl rfl rfl rfl (List.Subset.refl _) hsub hobject fun q => ?_
    rw [tokens_dequeue hn]
    congr 1
    exact if_congr ⟨fun h => h.2, fun h => ⟨hdone, h⟩⟩ rfl rfl
  · rw [if_neg hdone]
    have hsame : ∀ q, s.tokens q = { s with notifications := rest }.tokens q := fun q => by
      rw [tokens_dequeue hn, if_neg fun h => hdone h.1, Nat.add_zero]
    exact hs.of_tokens rfl rfl rfl (fun x hx => Or.inl hx) (List.Subset.refl _)
      (fun x hx => Or.inl (hsub hx)) (fun k m => (hsame _).ge) fun q _ _ => (hsame q).symm

theorem init : Reporter.init.Sound amxcTcToTimeUtc where
  once _ _ := Nat.zero_le 1
  due _ _ hr := nomatch hr
  own _ hx := absurd hx List.not_mem_nil
  nodup := List.nodup_nil
  keyed _ _ hr := nomatch hr
  fresh _ _ _ := rfl
  undue _ _ hr := nomatch hr
  timer _ hx := absurd hx List.not_mem_nil
  notification _ hn := absurd hn List.not_mem_nil

/-- **One step** that misses nothing. -/
theorem step {e : ReportEvent} (hs : s.Sound amxcTcToTimeUtc) (hG : s.NoneMissed e)
    (h : Reporter.step amxcTcToTimeUtc s e = some t) : t.Sound amxcTcToTimeUtc := by
  cases e with
  | added n r =>
    simp only [Reporter.step, Option.ite_none_left_eq_some, Option.some.injEq] at h
    obtain ⟨hnot, rfl⟩ := h
    obtain ⟨hfresh, hst⟩ := not_or.mp hnot
    exact hs.added hfresh hst
  | written path r' =>
    simp only [Reporter.step] at h
    split at h
    · cases h
    · next r hr =>
      simp only [Option.ite_none_right_eq_some, Option.some.injEq] at h
      obtain ⟨hkind, rfl⟩ := h
      exact hs.written hr hkind (hG.final path r r' rfl hr) (hG.gap path r' rfl)
  | belowChanged path j status =>
    simp only [Reporter.step] at h
    split at h
    · cases h
    · next r hr =>
      simp only [Option.ite_none_right_eq_some] at h
      obtain ⟨hst, h⟩ := h
      split at h
      · cases h
        exact hs.belowChanged hr hst
      · cases h
        exact hs
  | deleted path =>
    simp only [Reporter.step, Option.ite_none_right_eq_some, Option.some.injEq] at h
    obtain ⟨-, rfl⟩ := h
    exact hs.deleted path
  | read k paths =>
    simp only [Reporter.step, Option.ite_none_right_eq_some, Option.some.injEq] at h
    obtain ⟨⟨hk, hperm⟩, rfl⟩ := h
    exact hs.read hk hperm
  | subscribe k =>
    simp only [Reporter.step, Option.ite_none_right_eq_some, Option.some.injEq] at h
    obtain ⟨hk, rfl⟩ := h
    exact hs.subscribed hk
  | timer path k =>
    simp only [Reporter.step, Option.ite_none_right_eq_some, Option.some.injEq] at h
    obtain ⟨⟨hmem, -⟩, rfl⟩ := h
    exact hs.timerFired hmem
  | notification =>
    simp only [Reporter.step] at h
    split at h
    · cases h
    · next n rest hn =>
      cases h
      exact hs.notificationHandled hn
  | restart =>
    cases h
    exact hs.restarted

end Sound

theorem sound_of_reaches (hs : Reaches (step amxcTcToTimeUtc) NoneMissed Reporter.init s) :
    s.Sound amxcTcToTimeUtc :=
  hs.invariant (fun _ _ _ h hG he => h.step hG he) Sound.init

/-! ### The daemon gets to an end -/

section Progress

variable (amxcTcToTimeUtc)

/-- What the daemon does by itself misses nothing. -/
theorem noneMissed_of_ne {e : ReportEvent} (h : ∀ p r, e ≠ .written p r) : s.NoneMissed e :=
  ⟨fun p r he => absurd he (h p r), fun p _ r he => absurd he (h p r)⟩

theorem handle_frame (k : ResultKind) (s : Reporter) (p : String) :
    (handle amxcTcToTimeUtc k s p).dm = s.dm ∧ (handle amxcTcToTimeUtc k s p).phase = s.phase ∧
      (handle amxcTcToTimeUtc k s p).timers = s.timers ∧
      (handle amxcTcToTimeUtc k s p).notifications = s.notifications := by
  cases k with
  | scheduleDownload =>
    rw [handle, handleTransfercomplete]
    split
    · exact ⟨rfl, rfl, rfl, rfl⟩
    · split
      · split <;> exact ⟨rfl, rfl, rfl, rfl⟩
      · exact ⟨rfl, rfl, rfl, rfl⟩
  | duStateChangeComplete =>
    rw [handle, handleDustatechangecomplete]
    split
    · exact ⟨rfl, rfl, rfl, rfl⟩
    · split <;> exact ⟨rfl, rfl, rfl, rfl⟩

/-- The daemon can get up for a kind, whatever it has done for it. -/
theorem exists_started (s : Reporter) (k : ResultKind) :
    ∃ t, Reaches (step amxcTcToTimeUtc) NoneMissed s t ∧ t.dm = s.dm ∧
      t.phase = Function.update s.phase k .running := by
  have hsub : ∀ u : Reporter, u.phase k = .reading →
      Reaches (step amxcTcToTimeUtc) NoneMissed u (u.initSubscribe k) := fun u hu =>
    Reaches.single (noneMissed_of_ne (e := .subscribe k) fun _ _ => nofun) (if_pos hu)
  cases hk : s.phase k with
  | stopped =>
    have hread : Reaches (step amxcTcToTimeUtc) NoneMissed s (s.initRead k (s.donePaths k)) :=
      Reaches.single (noneMissed_of_ne (e := .read k (s.donePaths k)) fun _ _ => nofun)
        (if_pos ⟨hk, List.Perm.refl _⟩)
    have hdm : ∀ (paths : List String) (u : Reporter),
        (paths.foldl (differ k) u).dm = u.dm := by
      intro paths
      induction paths with
      | nil => exact fun _ => rfl
      | cons q paths ih =>
        intro u
        rw [List.foldl_cons, ih]
        cases k with
        | scheduleDownload =>
          rw [differ, differTransfercompleteHandling, timerStart]
          split
          · rfl
          · split <;> rfl
        | duStateChangeComplete =>
          rw [differ, differDustatechangecompleteHandling, timerStart]
          split
          · rfl
          · split <;> rfl
    refine ⟨_, hread.trans (hsub _ (Function.update_self ..)), hdm _ s, ?_⟩
    exact Function.update_idem ..
  | reading => exact ⟨_, hsub s hk, rfl, rfl⟩
  | running =>
    refine ⟨s, Relation.ReflTransGen.refl, rfl, ?_⟩
    rw [← hk, Function.update_eq_self]

/-- Once it is up, the daemon can do all it has to do. -/
theorem exists_idle (n : ℕ) (s : Reporter) (hrun : ∀ k, s.phase k = .running)
    (hn : s.timers.length + s.notifications.length = n) :
    ∃ t, Reaches (step amxcTcToTimeUtc) NoneMissed s t ∧ t.dm = s.dm ∧ t.phase = s.phase ∧
      t.timers = [] ∧ t.notifications = [] := by
  induction n generalizing s with
  | zero =>
    refine ⟨s, Relation.ReflTransGen.refl, rfl, rfl, ?_, ?_⟩
    · exact List.length_eq_zero_iff.mp (by omega)
    · exact List.length_eq_zero_iff.mp (by omega)
  | succ n ih =>
    -- one piece of work is done, and the rest by induction
    obtain ⟨u, hu, hdm, hphase, hlen⟩ : ∃ u, Reaches (step amxcTcToTimeUtc) NoneMissed s u ∧
        u.dm = s.dm ∧ u.phase = s.phase ∧ u.timers.length + u.notifications.length = n := by
      cases ht : s.timers with
      | cons x timers =>
        have hmem : (x.1, x.2) ∈ s.timers := ht ▸ List.mem_cons_self
        obtain ⟨hdm, hphase, htimers, hnotifications⟩ := handle_frame
          amxcTcToTimeUtc x.2
          { s with timers := s.timers.erase (x.1, x.2) } x.1
        refine ⟨_, Reaches.single (noneMissed_of_ne (e := .timer x.1 x.2) fun _ _ => nofun)
          (if_pos ⟨hmem, hrun x.2⟩), hdm, hphase, ?_⟩
        rw [htimers, hnotifications]
        change (s.timers.erase (x.1, x.2)).length + s.notifications.length = n
        have hlen := List.length_erase_of_mem hmem
        have hpos := List.length_pos_of_mem hmem
        omega
      | nil =>
        cases hnote : s.notifications with
        | nil =>
          rw [ht, hnote] at hn
          cases hn
        | cons x rest =>
          obtain ⟨hdm, hphase, htimers, hnotifications⟩ := handle_frame
            amxcTcToTimeUtc x.kind { s with notifications := rest }
            (objectPath x.kind x.object)
          have hstep : step amxcTcToTimeUtc s .notification = some (notified amxcTcToTimeUtc x.kind
              { s with notifications := rest } x.status x.object) := by
            rw [step, hnote]
          refine ⟨_,
            Reaches.single (noneMissed_of_ne (e := .notification) fun _ _ => nofun) hstep, ?_⟩
          have hlen : s.timers.length + rest.length = n := by
            rw [hnote, List.length_cons] at hn
            omega
          rw [notified_eq]
          split
          · refine ⟨hdm, hphase, ?_⟩
            rw [htimers, hnotifications]
            exact hlen
          · exact ⟨rfl, rfl, hlen⟩
    obtain ⟨t, ht, hdm', hphase', htimers, hnotifications⟩ := ih u (fun k => hphase ▸ hrun k) hlen
    exact ⟨t, hu.trans ht, hdm'.trans hdm, hphase'.trans hphase, htimers, hnotifications⟩

end Progress

end Reporter

/-- **Every finished result is reported exactly once** in each run of the daemon, in every
run of the two processes that misses none: each instance has at most one report, made or
to be made; a finished one has exactly one as soon as the daemon has read it; a report says
what its instance says; and what is to be reported will be, if the daemon goes on. -/
theorem results_reported_once (amxcTcToTimeUtc : ℤ → ℤ) {s : Reporter}
    (hs : Reaches (Reporter.step amxcTcToTimeUtc) Reporter.NoneMissed Reporter.init s) :
    s.Once amxcTcToTimeUtc ∧
      ∃ t, Reaches (Reporter.step amxcTcToTimeUtc) Reporter.NoneMissed s t ∧ t.dm = s.dm ∧
        ∀ p r, s.dm p = some r → r.Due → t.handed p = 1 := by
  refine ⟨(Reporter.sound_of_reaches hs).toOnce, ?_⟩
  obtain ⟨u, hu, hudm, huphase⟩ := Reporter.exists_started amxcTcToTimeUtc s
    .scheduleDownload
  obtain ⟨v, hv, hvdm, hvphase⟩ := Reporter.exists_started amxcTcToTimeUtc u
    .duStateChangeComplete
  have hrun : ∀ k, v.phase k = .running := by
    intro k
    rw [hvphase, huphase]
    cases k <;> rfl
  obtain ⟨t, ht, htdm, htphase, htimers, hnotifications⟩ := Reporter.exists_idle
    amxcTcToTimeUtc _ v hrun rfl
  have hrest := hu.trans (hv.trans ht)
  have hdm : t.dm = s.dm := htdm.trans (hvdm.trans hudm)
  refine ⟨t, hrest, hdm, fun p r hr hdue => ?_⟩
  have hone := (Reporter.sound_of_reaches (hs.trans hrest)).due p r (hdm ▸ hr) hdue (by
    rw [htphase, hrun]
    decide)
  rw [Reporter.tokens, Reporter.pending, htimers, hnotifications] at hone
  simpa using hone

/-- A test for `NoneMissed`. -/
def Reporter.noneMissed (s : Reporter) : ReportEvent → Bool
  | .written p r => (!decide r.Due || s.phase r.kind ≠ .reading) &&
      (s.dm p).all fun r => r.status ≠ "Done"
  | _ => true

theorem Reporter.noneMissed_sound (s : Reporter) (e : ReportEvent) (h : s.noneMissed e = true) :
    s.NoneMissed e := by
  constructor
  · rintro p r rfl hdue
    have hgap := ((Bool.and_eq_true _ _).mp h).1
    simpa [hdue] using hgap
  · rintro p r r' rfl hr
    have hfinal := ((Bool.and_eq_true _ _).mp h).2
    simpa [hr] using hfinal

/-- The result of a transfer the ACS has asked for. -/
def scheduledResult (status : TransferStatus) (faultCode : ℕ) (faultString : String) : Record :=
  .transferComplete
    ⟨⟨status, "ACS", "1234", "ScheduleDownload", faultCode, faultString, 0, 0⟩, rfl⟩

/-- A change of deployment units the ACS has asked for. -/
def duResult (status : String) (results : List OpResult) : Record :=
  .duStateChangeComplete ⟨status, "ACS", "5678", results⟩

/-- The path of the first instance of a kind. -/
def firstPath (k : ResultKind) : String := k.instancePath 1

/-- A transfer is Done before the daemon starts, and a change of deployment units afterwards. -/
def beforeAndAfter : List ReportEvent :=
  [.added 1 (scheduledResult .idle 0 ""), .added 1 (duResult "" []),
    .written (firstPath .scheduleDownload) (scheduledResult .done 9010 "Timeout"),
    .read .scheduleDownload [firstPath .scheduleDownload], .subscribe .scheduleDownload,
    .read .duStateChangeComplete [], .subscribe .duStateChangeComplete,
    .timer (firstPath .scheduleDownload) .scheduleDownload,
    .belowChanged (firstPath .duStateChangeComplete) 1 "Done", .notification,
    .written (firstPath .duStateChangeComplete) (duResult "Done" []), .notification]

theorem results_reported_once_beforeAndAfter :
    ∃ s, exec (Reporter.step id) Reporter.init beforeAndAfter = some s ∧
      s.handed (firstPath .scheduleDownload) = 1 ∧
      s.handed (firstPath .duStateChangeComplete) = 1 ∧ s.Once id := by
  have hrun : (exec (Reporter.step id) Reporter.init beforeAndAfter).map (fun s =>
      (s.handed (firstPath .scheduleDownload), s.handed (firstPath .duStateChangeComplete))) =
      some (1, 1) := by
    decide
  obtain ⟨s, hs, hcounts⟩ := Option.map_eq_some_iff.mp hrun
  obtain ⟨hscheduled, hdu⟩ := Prod.mk.inj hcounts
  have hmeets : Meets (Reporter.step id) Reporter.NoneMissed Reporter.init beforeAndAfter :=
    meets_of_checks Reporter.noneMissed_sound (by decide)
  exact ⟨s, hs, hscheduled, hdu, (results_reported_once id (reaches_of_exec hs hmeets)).1⟩

/-- A transfer is Done after the daemon has read, and before it subscribes. -/
def inBetween : List ReportEvent :=
  [.added 1 (scheduledResult .idle 0 ""), .read .scheduleDownload [],
    .written (firstPath .scheduleDownload) (scheduledResult .done 9010 "Timeout"),
    .subscribe .scheduleDownload]

theorem results_missed :
    ¬∀ s, Reaches (Reporter.step id) free Reporter.init s → s.Once id := by
  intro honce
  have hrun : (exec (Reporter.step id) Reporter.init inBetween).map (fun s =>
      ((s.dm (firstPath .scheduleDownload)).map (fun r => (r.kind, decide r.Due)),
        s.phase .scheduleDownload, s.tokens (firstPath .scheduleDownload))) =
      some (some (.scheduleDownload, true), .running, 0) := by
    decide
  obtain ⟨s, hs, h⟩ := Option.map_eq_some_iff.mp hrun
  obtain ⟨hr, h⟩ := Prod.mk.inj h
  obtain ⟨hphase, hzero⟩ := Prod.mk.inj h
  obtain ⟨r, hr, hrecord⟩ := Option.map_eq_some_iff.mp hr
  obtain ⟨hkind, hdue⟩ := Prod.mk.inj hrecord
  have hup : s.phase r.kind ≠ .stopped := by
    rw [hkind, hphase]
    decide
  have hone := (honce s (reaches_of_exec hs (meets_free _ _))).due _ r hr
    (of_decide_eq_true hdue) hup
  omega

end Tr069
