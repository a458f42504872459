import Tr069Manager.Lib.Feed
import Tr069Manager.Reports.Once

/-!
# A plugin that keeps results, and the daemon that reports them

The model of the daemon (`Tr069.Reporter`) leaves open what the plugin writes. Here it is put
together with a plugin: the transfers of `transfers.c`, or the changes of software modules of
`smm.c`. What the two have in common is all the daemon sees (`Tr069.ResultPlugin`): numbered
instances with a result, and objects below them with a Status of their own. After each step of the
plugin the daemon is told of it as the bus tells it (`Tr069.ResultPlugin.feed`): an instance that is
new, one that is gone, one that is another now, a Status below one.

A text that a step writes and overwrites is not told; the daemon passes over every text that is not
`Done`, and no step writes anything after it.

What a plugin has to keep to (`Tr069.ResultPlugin.Lawful`) is that numbers are not used again, that
a new instance is not `Done`, and that one that is `Done` is not written again. Then the two agree in
every run, the daemon misses nothing, and whatever the plugin does, the daemon can follow
(`Tr069.ResultPlugin.system_agrees`).
-/

namespace Tr069

open Runs

deriving instance DecidableEq for Record

/-- What becomes of a call over the bus: it gets to the other process or not, and the answer is
back in time or not. -/
structure CallAnswers where
  reached : Bool
  answered : Bool

/-- `DM_ENG_FAULTCODE_9002`. -/
def dmEngFaultcode9002 : ℤ := 9002

/-- A plugin, by what the daemon sees of it: the results by number, up to the last number used, and
what a step says of the objects below an instance. If it `keeps` its instances, it is the daemon
that deletes one. -/
structure ResultPlugin (π ε : Type*) where
  step : π → ε → Option π
  kind : ResultKind
  last : π → ℕ
  record : π → ℕ → Option Record
  below : π → π → ℕ → List (ℕ × String)
  keeps : Bool

namespace ResultPlugin

variable {π ε : Type*} (P : ResultPlugin π ε)

/-! ### The system -/

/-- The path of an instance. -/
def path (n : ℕ) : String := P.kind.instancePath n

/-- What is told of an instance. -/
def told (s t : π) (n : ℕ) : List ReportEvent :=
  match P.record s n, P.record t n with
  | none, none => []
  | none, some r => [.added n r]
  | some _, none => [.deleted (P.path n)]
  | some r, some r' =>
    (if r' = r then [] else [.written (P.path n) r']) ++
      (P.below s t n).map fun b => .belowChanged (P.path n) b.1 b.2

/-- **What the daemon is told** of a step of the plugin. -/
def feed (s t : π) : List ReportEvent :=
  ((List.range (P.last t)).map (· + 1)).flatMap (P.told s t)

/-- What the daemon does on its own: not what it is told; and if it is the one that deletes, it does
so when the ACS has acknowledged a result, for which it must have handed it over. -/
def own (d : Reporter) : ReportEvent → Bool
  | .added _ _ => false
  | .written _ _ => false
  | .belowChanged _ _ _ => false
  | .deleted path => P.keeps && decide (0 < d.handed path)
  | _ => true

/-- One step of the plugin and the daemon. -/
def systemStep (amxcTcToTimeUtc : ℤ → ℤ) :
    π × Reporter → ε ⊕ ReportEvent → Option (π × Reporter) :=
  Feed.step P.step (Reporter.step amxcTcToTimeUtc) P.feed P.own

/-- **The condition on the steps**: a guard of the plugin, and that no result of the ACS becomes
`Done` between the read of the daemon and its subscription. -/
def Ordered (G : π → ε → Prop) (s : π × Reporter) : ε ⊕ ReportEvent → Prop
  | .inl e => G s.1 e ∧ ∀ t, P.step s.1 e = some t → ∀ n r, P.record t n = some r → r.Due →
      s.2.phase P.kind = .reading → P.record s.1 n = some r
  | .inr _ => True

/-- **What a plugin has to keep to**, with its guard and its invariant. -/
structure Lawful (G : π → ε → Prop) (I : π → Prop) : Prop where
  kind : ∀ {s n r}, I s → P.record s n = some r → r.kind = P.kind
  bounded : ∀ {s n r}, I s → P.record s n = some r → 1 ≤ n ∧ n ≤ P.last s
  inv : ∀ {s e t}, I s → G s e → P.step s e = some t → I t
  last : ∀ {s e t}, I s → G s e → P.step s e = some t → P.last s ≤ P.last t
  added : ∀ {s e t n r}, I s → G s e → P.step s e = some t → P.record s n = none →
    P.record t n = some r → P.last s < n ∧ r.status ≠ "Done"
  final : ∀ {s e t n r}, I s → G s e → P.step s e = some t → P.record s n = some r →
    r.status = "Done" → P.record t n = some r ∨ P.record t n = none
  removed : ∀ {s e t n r}, I s → G s e → P.step s e = some t → P.record s n = some r →
    P.record t n = none → P.keeps = false
  below : ∀ {s e t n b}, I s → G s e → P.step s e = some t → b ∈ P.below s t n →
    P.kind.belowStatus b.2 ∧
      (P.keeps = true → ∀ r, P.record s n = some r → r.status ≠ "Done")

/-- **What plugin and daemon agree on**: each result is at its path, or it is `Done` and the daemon
has deleted it; there is nothing else; and what has been reported of a result is what it says. -/
structure Agree (I : π → Prop) (amxcTcToTimeUtc : ℤ → ℤ) (s : π × Reporter) : Prop where
  plugin : I s.1
  sound : s.2.Sound amxcTcToTimeUtc
  record : ∀ n r, P.record s.1 n = some r → s.2.dm (P.path n) = some r ∨
    s.2.dm (P.path n) = none ∧ r.status = "Done" ∧ P.keeps = true
  missing : ∀ n, P.record s.1 n = none → s.2.dm (P.path n) = none
  used : ∀ p ∈ s.2.used, ∃ n, 1 ≤ n ∧ n ≤ P.last s.1 ∧ p = P.path n
  reported : ∀ x ∈ s.2.reported, ∀ n r, x.path = P.path n → P.record s.1 n = some r →
    r.Due ∧ x = r.report amxcTcToTimeUtc (P.path n)

end ResultPlugin

/-! ### The paths -/

theorem instancePath_injective {k : ResultKind} {n m : ℕ}
    (h : k.instancePath n = k.instancePath m) : n = m := by
  have h := congrArg String.toList h
  rw [ResultKind.toList_instancePath, ResultKind.toList_instancePath,
    List.append_cancel_left_eq, List.append_cancel_right_eq] at h
  exact CString.toDigits_inj h

/-! ### What the daemon makes of what it is told -/

namespace Reporter

variable {amxcTcToTimeUtc : ℤ → ℤ} {s c : Reporter} {p : String}

/-- The daemon has been told something: of its data model the instances at some paths may be others,
and what it has done and has to do up to then is as it was. -/
structure Told (s c : Reporter) (es : List ReportEvent) (amxcTcToTimeUtc : ℤ → ℤ) : Prop where
  run : exec (step amxcTcToTimeUtc) s es = some c
  meets : Meets (step amxcTcToTimeUtc) NoneMissed s es
  phase : c.phase = s.phase
  reported : c.reported = s.reported

theorem Told.refl (s : Reporter) : s.Told s [] amxcTcToTimeUtc := ⟨rfl, trivial, rfl, rfl⟩

theorem Told.trans {u : Reporter} {es es' : List ReportEvent} (h : s.Told c es amxcTcToTimeUtc)
    (h' : c.Told u es' amxcTcToTimeUtc) : s.Told u (es ++ es') amxcTcToTimeUtc where
  run := Feed.exec_append h.run h'.run
  meets := Feed.meets_append h.run h.meets h'.meets
  phase := h'.phase.trans h.phase
  reported := h'.reported.trans h.reported

/-- One thing that is told. -/
theorem Told.single {e : ReportEvent} (h : step amxcTcToTimeUtc s e = some c)
    (hmissed : s.NoneMissed e) (hphase : c.phase = s.phase) (hreported : c.reported = s.reported) :
    s.Told c [e] amxcTcToTimeUtc where
  run := by rw [exec, h, Option.bind_some, exec]
  meets := ⟨hmissed, fun _ _ => trivial⟩
  phase := hphase
  reported := hreported

/-- The changes below an instance are followed, and leave the instances alone. -/
theorem told_below (amxcTcToTimeUtc : ℤ → ℤ) {r : Record} (hr : s.dm p = some r)
    {bs : List (ℕ × String)} (hbs : ∀ b ∈ bs, r.kind.belowStatus b.2) :
    ∃ c, s.Told c (bs.map fun b => .belowChanged p b.1 b.2) amxcTcToTimeUtc ∧ c.dm = s.dm ∧
      c.used = s.used := by
  induction bs generalizing s with
  | nil => exact ⟨s, .refl s, rfl, rfl⟩
  | cons b bs ih =>
    obtain ⟨u, hu, hphase, hreported, hdm, hused⟩ :
        ∃ u, step amxcTcToTimeUtc s (.belowChanged p b.1 b.2) = some u ∧ u.phase = s.phase ∧
          u.reported = s.reported ∧ u.dm = s.dm ∧ u.used = s.used := by
      rw [step, hr]
      dsimp only
      rw [if_pos (hbs b List.mem_cons_self)]
      split
      · exact ⟨_, rfl, rfl, rfl, rfl, rfl⟩
      · exact ⟨s, rfl, rfl, rfl, rfl, rfl⟩
    obtain ⟨c, hc, hcdm, hcused⟩ := ih (hdm ▸ hr) fun b hb => hbs b (List.mem_cons_of_mem _ hb)
    have hmissed : s.NoneMissed (.belowChanged p b.1 b.2) :=
      noneMissed_of_ne fun _ _ h => ReportEvent.noConfusion h
    exact ⟨c, (Told.single hu hmissed hphase hreported).trans hc, hcdm.trans hdm,
      hcused.trans hused⟩

/-- The handlers read one instance, and report it or do nothing. -/
theorem handle_reports (amxcTcToTimeUtc : ℤ → ℤ) (k : ResultKind) (s : Reporter) (p : String) :
    handle amxcTcToTimeUtc k s p = s ∨
      ∃ r, s.dm p = some r ∧ handle amxcTcToTimeUtc k s p = s.send (r.report amxcTcToTimeUtc p) := by
  rcases k with - | -
  · rw [handle, handleTransfercomplete]
    split
    · exact Or.inl rfl
    · split
      · next tc htc =>
        split
        · exact Or.inr ⟨_, htc, rfl⟩
        · exact Or.inl rfl
      · exact Or.inl rfl
  · rw [handle, handleDustatechangecomplete]
    split
    · exact Or.inl rfl
    · split
      · next d hd => exact Or.inr ⟨_, hd, rfl⟩
      · exact Or.inl rfl

/-- The read starts timers, and leaves the rest alone. -/
theorem foldl_differ_frame (k : ResultKind) (paths : List String) (s : Reporter) :
    ∃ timers, paths.foldl (differ k) s = { s with timers := timers } := by
  have hdiffer : ∀ (u : Reporter) (p : String),
      ∃ timers, differ k u p = { u with timers := timers } := by
    intro u p
    have hstart : ∃ timers, u.timerStart p k = { u with timers := timers } := by
      rw [timerStart]
      split
      · exact ⟨u.timers, rfl⟩
      · exact ⟨_, rfl⟩
    by_cases hp : p = ""
    · refine ⟨u.timers, ?_⟩
      rcases k with - | - <;> exact if_pos hp
    · rw [differ_eq hp]
      exact hstart
  induction paths generalizing s with
  | nil => exact ⟨s.timers, rfl⟩
  | cons p paths ih =>
    obtain ⟨timers, h⟩ := hdiffer s p
    obtain ⟨timers', h'⟩ := ih (differ k s p)
    refine ⟨timers', ?_⟩
    rw [List.foldl_cons, h', h]

/-- **What the daemon does on its own** leaves the instances alone, but for one that it has handed
over and has deleted; and it reports what an instance says. -/
theorem own_frame {π ε : Type*} {P : ResultPlugin π ε} {e : ReportEvent}
    (hown : P.own s e = true) (h : step amxcTcToTimeUtc s e = some c) :
    c.used = s.used ∧
      ((∃ path, P.keeps = true ∧ 0 < s.handed path ∧ c.dm = Function.update s.dm path none ∧
          c.reported = s.reported) ∨
        c.dm = s.dm ∧ ∀ x ∈ c.reported, x ∈ s.reported ∨ ∃ r, s.dm x.path = some r) := by
  have hhandle : ∀ (k : ResultKind) (u : Reporter) (p : String), u.dm = s.dm → u.used = s.used →
      u.reported = s.reported → (handle amxcTcToTimeUtc k u p).used = s.used ∧
      (handle amxcTcToTimeUtc k u p).dm = s.dm ∧
      ∀ x ∈ (handle amxcTcToTimeUtc k u p).reported,
        x ∈ s.reported ∨ ∃ r, s.dm x.path = some r := by
    intro k u p hdm hused hreported
    rcases handle_reports amxcTcToTimeUtc k u p with hsame | ⟨r, hr, hsend⟩
    · rw [hsame]
      exact ⟨hused, hdm, fun x hx => Or.inl (hreported ▸ hx)⟩
    · rw [hsend]
      refine ⟨hused, hdm, fun x hx => ?_⟩
      rcases List.mem_append.mp hx with hx | hx
      · exact Or.inl (hreported ▸ hx)
      · obtain rfl := List.mem_singleton.mp hx
        exact Or.inr ⟨r, by rw [path_report, ← hdm, hr]⟩
  cases e with
  | added | written | belowChanged => cases hown
  | deleted path =>
    simp only [step, Option.ite_none_right_eq_some, Option.some.injEq] at h
    obtain ⟨-, rfl⟩ := h
    obtain ⟨hkeeps, hhanded⟩ := (Bool.and_eq_true _ _).mp hown
    exact ⟨rfl, Or.inl ⟨path, hkeeps, of_decide_eq_true hhanded, rfl, rfl⟩⟩
  | read k paths =>
    simp only [step, Option.ite_none_right_eq_some, Option.some.injEq] at h
    obtain ⟨-, rfl⟩ := h
    obtain ⟨timers, hread⟩ := foldl_differ_frame k paths s
    rw [initRead, hread]
    exact ⟨rfl, Or.inr ⟨rfl, fun x hx => Or.inl hx⟩⟩
  | subscribe k =>
    simp only [step, Option.ite_none_right_eq_some, Option.some.injEq] at h
    obtain ⟨-, rfl⟩ := h
    exact ⟨rfl, Or.inr ⟨rfl, fun x hx => Or.inl hx⟩⟩
  | timer path k =>
    simp only [step, Option.ite_none_right_eq_some, Option.some.injEq] at h
    obtain ⟨-, rfl⟩ := h
    obtain ⟨hused, hdm, hreported⟩ := hhandle k
      { s with timers := s.timers.erase (path, k) } path rfl rfl rfl
    exact ⟨hused, Or.inr ⟨hdm, hreported⟩⟩
  | notification =>
    simp only [step] at h
    split at h
    · cases h
    · next n rest hn =>
      obtain rfl := Option.some.inj h
      rw [notified_eq]
      split
      · obtain ⟨hused, hdm, hreported⟩ := hhandle n.kind { s with notifications := rest }
          (objectPath n.kind n.object) rfl rfl rfl
        exact ⟨hused, Or.inr ⟨hdm, hreported⟩⟩
      · exact ⟨rfl, Or.inr ⟨rfl, fun x hx => Or.inl hx⟩⟩
  | restart =>
    obtain rfl := Option.some.inj h
    exact ⟨rfl, Or.inr ⟨rfl, fun _ hx => absurd hx List.not_mem_nil⟩⟩

/-- The daemon can get to hand over what is finished. -/
theorem exists_handed {r : Record}
    (hs : Reaches (step amxcTcToTimeUtc) NoneMissed Reporter.init s) (hr : s.dm p = some r)
    (hdue : r.Due) :
    ∃ v, Reaches (step amxcTcToTimeUtc) NoneMissed s v ∧ v.dm = s.dm ∧ v.handed p = 1 := by
  obtain ⟨a, ha, hadm, haphase⟩ := exists_started amxcTcToTimeUtc s .scheduleDownload
  obtain ⟨b, hb, hbdm, hbphase⟩ := exists_started amxcTcToTimeUtc a .duStateChangeComplete
  have hrun : ∀ k, b.phase k = .running := by
    intro k
    rw [hbphase, haphase]
    rcases k with - | - <;> rfl
  obtain ⟨v, hv, hvdm, hvphase, htimers, hnotifications⟩ :=
    exists_idle amxcTcToTimeUtc _ b hrun rfl
  have hrest := ha.trans (hb.trans hv)
  have hdm : v.dm = s.dm := hvdm.trans (hbdm.trans hadm)
  refine ⟨v, hrest, hdm, ?_⟩
  -- nothing is left to be done, so what is to be reported has been
  have hup : v.phase r.kind ≠ .stopped := by
    rw [hvphase, hrun]
    decide
  have hone := (sound_of_reaches (hs.trans hrest)).due p r (hdm ▸ hr) hdue hup
  rw [tokens, pending, htimers, hnotifications] at hone
  simpa using hone

end Reporter

namespace ResultPlugin

variable {π ε : Type*} {P : ResultPlugin π ε} {G : π → ε → Prop} {I : π → Prop}
  {amxcTcToTimeUtc : ℤ → ℤ}

/-! ### A step of the plugin, for the daemon -/

/-- What one instance asks of the daemon that is told of a step. -/
structure Tellable (P : ResultPlugin π ε) (s t : π) (d : Reporter) (n : ℕ) : Prop where
  kind : ∀ r, P.record s n = some r ∨ P.record t n = some r → r.kind = P.kind
  there : ∀ r, P.record s n = some r → P.told s t n ≠ [] → d.dm (P.path n) = some r
  added : ∀ r, P.record s n = none → P.record t n = some r →
    P.path n ∉ d.used ∧ r.status ≠ "Done"
  written : ∀ r r', P.record s n = some r → P.record t n = some r' → r' ≠ r →
    r.status ≠ "Done" ∧ (r'.Due → d.phase P.kind ≠ .reading)
  below : ∀ b ∈ P.below s t n, P.kind.belowStatus b.2

/-- What the daemon's data model has of the instances that have been told of. -/
structure Shows (P : ResultPlugin π ε) (s t : π) (d c : Reporter) (ns : List ℕ) : Prop where
  dm : ∀ n ∈ ns, P.told s t n ≠ [] → c.dm (P.path n) = P.record t n
  quiet : ∀ n ∈ ns, P.told s t n = [] → c.dm (P.path n) = d.dm (P.path n)
  others : ∀ p, (∀ n ∈ ns, p ≠ P.path n) → c.dm p = d.dm p
  used : ∀ p ∈ c.used, p ∈ d.used ∨ ∃ n ∈ ns, (P.record t n).isSome ∧ p = P.path n

variable {s t : π} {d : Reporter} {n : ℕ}

theorem told_eq_nil_iff : P.told s t n = [] ↔ P.record s n = P.record t n ∧
    ((P.record s n).isSome → P.below s t n = []) := by
  unfold told
  rcases hs : P.record s n with - | r <;> rcases ht : P.record t n with - | r'
  · exact ⟨fun _ => ⟨rfl, nofun⟩, fun _ => rfl⟩
  · exact ⟨nofun, fun h => absurd h.1 nofun⟩
  · exact ⟨nofun, fun h => absurd h.1 nofun⟩
  · dsimp only
    by_cases hsame : r' = r
    · rw [if_pos hsame, List.nil_append, List.map_eq_nil_iff, hsame]
      exact ⟨fun h => ⟨rfl, fun _ => h⟩, fun h => h.2 rfl⟩
    · rw [if_neg hsame]
      exact ⟨nofun, fun h => absurd (Option.some.inj h.1).symm hsame⟩

/-- **One instance** is followed. -/
theorem told_one (amxcTcToTimeUtc : ℤ → ℤ) (h : P.Tellable s t d n) :
    ∃ c, d.Told c (P.told s t n) amxcTcToTimeUtc ∧ P.Shows s t d c [n] := by
  -- the data model, if the instance is written at its path
  have hshows : ∀ c : Reporter, c.dm = Function.update d.dm (P.path n) (P.record t n) →
      (∀ p ∈ c.used, p ∈ d.used ∨ (P.record t n).isSome ∧ p = P.path n) →
      P.told s t n ≠ [] → P.Shows s t d c [n] := by
    intro c hdm hused htold
    refine ⟨fun m hm _ => ?_, fun m hm hnil => ?_, fun p hp => ?_, fun p hp => ?_⟩
    · obtain rfl := List.mem_singleton.mp hm
      rw [hdm, Function.update_self]
    · obtain rfl := List.mem_singleton.mp hm
      exact absurd hnil htold
    · rw [hdm, Function.update_of_ne (hp n List.mem_cons_self)]
    · exact (hused p hp).imp_right fun ⟨hsome, hpath⟩ => ⟨n, List.mem_cons_self, hsome, hpath⟩
  have hall := hshows
  have hthere := h.there
  unfold told at hall hthere ⊢
  rcases hs : P.record s n with - | r <;> rcases ht : P.record t n with - | r' <;>
    rw [hs, ht] at hall hthere <;> dsimp only at hall hthere ⊢
  · have hnil : P.told s t n = [] := told_eq_nil_iff.mpr ⟨hs.trans ht.symm, by rw [hs]; nofun⟩
    refine ⟨d, .refl d, fun m hm hne => ?_, fun _ _ _ => rfl, fun _ _ => rfl,
      fun p hp => Or.inl hp⟩
    obtain rfl := List.mem_singleton.mp hm
    exact absurd hnil hne
  · obtain ⟨hfresh, hstatus⟩ := h.added r' hs ht
    have hpath : r'.kind.instancePath n = P.path n := by rw [h.kind r' (Or.inr ht)]; rfl
    obtain ⟨c, hc, hdm, hused, hphase, hreported⟩ : ∃ c,
        Reporter.step amxcTcToTimeUtc d (.added n r') = some c ∧
        c.dm = Function.update d.dm (P.path n) (some r') ∧ c.used = P.path n :: d.used ∧
        c.phase = d.phase ∧ c.reported = d.reported := by
      refine ⟨_, if_neg (not_or.mpr ⟨hpath ▸ hfresh, hstatus⟩), ?_, ?_, rfl, rfl⟩
      · exact congrArg (fun p => Function.update d.dm p (some r')) hpath
      · exact congrArg (fun p => p :: d.used) hpath
    refine ⟨c, .single hc (Reporter.noneMissed_of_ne fun _ _ => nofun) hphase hreported,
      hall c hdm (fun p hp => ?_) nofun⟩
    rw [hused] at hp
    exact (List.mem_cons.mp hp).symm.imp_right fun heq => ⟨rfl, heq⟩
  · have hat := hthere r rfl nofun
    obtain ⟨c, hc, hdm, hused, hphase, hreported⟩ : ∃ c,
        Reporter.step amxcTcToTimeUtc d (.deleted (P.path n)) = some c ∧
        c.dm = Function.update d.dm (P.path n) none ∧ c.used = d.used ∧
        c.phase = d.phase ∧ c.reported = d.reported :=
      ⟨_, if_pos (by rw [hat]; rfl), rfl, rfl, rfl, rfl⟩
    exact ⟨c, .single hc (Reporter.noneMissed_of_ne fun _ _ => nofun) hphase hreported,
      hall c hdm (fun p hp => Or.inl (hused ▸ hp)) nofun⟩
  · have hkind := h.kind r (Or.inl hs)
    have hkind' := h.kind r' (Or.inr ht)
    have hbelow : ∀ b ∈ P.below s t n, r'.kind.belowStatus b.2 := fun b hb =>
      hkind' ▸ h.below b hb
    by_cases hsame : r' = r
    · rw [if_pos hsame, List.nil_append] at hall hthere ⊢
      by_cases hnil : P.below s t n = []
      · have htold : P.told s t n = [] :=
          told_eq_nil_iff.mpr ⟨by rw [hs, ht, hsame], fun _ => hnil⟩
        rw [hnil]
        refine ⟨d, .refl d, fun m hm hne => ?_, fun _ _ _ => rfl, fun _ _ => rfl,
          fun p hp => Or.inl hp⟩
        obtain rfl := List.mem_singleton.mp hm
        exact absurd htold hne
      · have hne : (P.below s t n).map (fun b => ReportEvent.belowChanged (P.path n) b.1 b.2) ≠ [] :=
          fun h => hnil (List.map_eq_nil_iff.mp h)
        have hat := hthere r rfl hne
        obtain ⟨c, hc, hdm, hused⟩ := Reporter.told_below amxcTcToTimeUtc hat
          fun b hb => hsame ▸ hbelow b hb
        refine ⟨c, hc, hall c ?_ (fun p hp => Or.inl (hused ▸ hp)) hne⟩
        rw [hdm, hsame, ← hat, Function.update_eq_self]
    · obtain ⟨hnot, hgap⟩ := h.written r r' hs ht hsame
      rw [if_neg hsame] at hall hthere ⊢
      have hat := hthere r rfl nofun
      obtain ⟨u, hu, hdm, hused, hphase, hreported⟩ : ∃ u,
          Reporter.step amxcTcToTimeUtc d (.written (P.path n) r') = some u ∧
          u.dm = Function.update d.dm (P.path n) (some r') ∧ u.used = d.used ∧
          u.phase = d.phase ∧ u.reported = d.reported := by
        rw [Reporter.step, hat]
        exact ⟨_, if_pos (hkind'.trans hkind.symm), rfl, rfl, rfl, rfl⟩
      have hmissed : d.NoneMissed (.written (P.path n) r') := by
        constructor
        · rintro p x he hdue
          obtain ⟨-, rfl⟩ := ReportEvent.written.inj he
          exact hkind'.symm ▸ hgap hdue
        · rintro p x x' he hx
          obtain ⟨rfl, -⟩ := ReportEvent.written.inj he
          exact Option.some.inj (hat.symm.trans hx) ▸ hnot
      have hat' : u.dm (P.path n) = some r' := by rw [hdm, Function.update_self]
      obtain ⟨c, hc, hcdm, hcused⟩ := Reporter.told_below amxcTcToTimeUtc hat' hbelow
      exact ⟨c, (Reporter.Told.single hu hmissed hphase hreported).trans hc,
        hall c (hcdm.trans hdm) (fun p hp => Or.inl (hused ▸ hcused ▸ hp)) nofun⟩

theorem path_injective {n m : ℕ} (h : P.path n = P.path m) : n = m := instancePath_injective h

/-- **All instances** are followed, one after another. -/
theorem told_all (amxcTcToTimeUtc : ℤ → ℤ) {ns : List ℕ} (hnodup : ns.Nodup)
    (h : ∀ n ∈ ns, P.Tellable s t d n) :
    ∃ c, d.Told c (ns.flatMap (P.told s t)) amxcTcToTimeUtc ∧ P.Shows s t d c ns := by
  induction ns generalizing d with
  | nil =>
    exact ⟨d, .refl d, ⟨nofun, nofun, fun _ _ => rfl, fun p hp => Or.inl hp⟩⟩
  | cons n ns ih =>
    obtain ⟨hn, hnodup⟩ := List.nodup_cons.mp hnodup
    obtain ⟨u, hu, hone⟩ := told_one amxcTcToTimeUtc (h n List.mem_cons_self)
    -- what is told of one instance says nothing of another
    have hother : ∀ m ∈ ns, ∀ j ∈ [n], P.path m ≠ P.path j := by
      intro m hm j hj heq
      obtain rfl := List.mem_singleton.mp hj
      exact hn (path_injective heq ▸ hm)
    have hrest : ∀ m ∈ ns, P.Tellable s t u m := by
      intro m hm
      have hm' := h m (List.mem_cons_of_mem _ hm)
      refine ⟨hm'.kind, fun r hr htold => ?_, fun r hr hr' => ?_, fun r r' hr hr' hne => ?_,
        hm'.below⟩
      · rw [hone.others _ (hother m hm)]
        exact hm'.there r hr htold
      · obtain ⟨hfresh, hstatus⟩ := hm'.added r hr hr'
        refine ⟨fun hmem => ?_, hstatus⟩
        rcases hone.used _ hmem with hmem | ⟨j, hj, -, heq⟩
        · exact hfresh hmem
        · exact hother m hm j hj heq
      · obtain ⟨hstatus, hgap⟩ := hm'.written r r' hr hr' hne
        exact ⟨hstatus, fun hdue => hu.phase ▸ hgap hdue⟩
    obtain ⟨c, hc, hall⟩ := ih hnodup hrest
    refine ⟨c, hu.trans hc, fun m hm htold => ?_, fun m hm hnil => ?_, fun p hp => ?_,
      fun p hp => ?_⟩
    · rcases List.mem_cons.mp hm with rfl | hm
      · rw [hall.others _ fun j hj heq => hn ((path_injective heq : m = j) ▸ hj)]
        exact hone.dm m List.mem_cons_self htold
      · exact hall.dm m hm htold
    · rcases List.mem_cons.mp hm with rfl | hm
      · rw [hall.others _ fun j hj heq => hn ((path_injective heq : m = j) ▸ hj)]
        exact hone.quiet m List.mem_cons_self hnil
      · rw [hall.quiet m hm hnil]
        exact hone.others _ (hother m hm)
    · rw [hall.others p fun j hj => hp j (List.mem_cons_of_mem _ hj)]
      exact hone.others p fun j hj => List.mem_singleton.mp hj ▸ hp n List.mem_cons_self
    · rcases hall.used p hp with hp | ⟨j, hj, hsome, heq⟩
      · refine (hone.used p hp).imp_right ?_
        rintro ⟨j, hj, hsome, heq⟩
        obtain rfl := List.mem_singleton.mp hj
        exact ⟨j, List.mem_cons_self, hsome, heq⟩
      · exact Or.inr ⟨j, List.mem_cons_of_mem _ hj, hsome, heq⟩

/-! ### Plugin and daemon agree -/

theorem mem_numbers {m : ℕ} : n ∈ (List.range m).map (· + 1) ↔ 1 ≤ n ∧ n ≤ m := by
  rw [List.mem_map]
  constructor
  · rintro ⟨i, hi, rfl⟩
    have hi := List.mem_range.mp hi
    omega
  · rintro ⟨hpos, hle⟩
    exact ⟨n - 1, List.mem_range.mpr (by omega), by omega⟩

theorem nodup_numbers (m : ℕ) : ((List.range m).map (· + 1)).Nodup :=
  List.Nodup.map (fun _ _ h => Nat.succ.inj h) List.nodup_range

/-- **A step of the plugin** is one the daemon can follow, that it misses nothing of, and after
which the two agree. -/
theorem Agree.told {s : π × Reporter} (hs : P.Agree I amxcTcToTimeUtc s) (hP : P.Lawful G I) {e : ε}
    (hG : P.Ordered G s (.inl e)) {q : π} (h : P.step s.1 e = some q) :
    ∃ c, exec (Reporter.step amxcTcToTimeUtc) s.2 (P.feed s.1 q) = some c ∧
      Meets (Reporter.step amxcTcToTimeUtc) Reporter.NoneMissed s.2 (P.feed s.1 q) ∧
      P.Agree I amxcTcToTimeUtc (q, c) := by
  obtain ⟨hguard, hgap⟩ := hG
  have hq := hP.inv hs.plugin hguard h
  have hlast := hP.last hs.plugin hguard h
  -- a number that is not used yet has no path in the data model, and none was reported
  have hfresh : ∀ n, P.last s.1 < n → P.path n ∉ s.2.used := by
    intro n hn hmem
    obtain ⟨m, -, hm, heq⟩ := hs.used _ hmem
    obtain rfl := path_injective heq
    omega
  have htellable : ∀ n ∈ (List.range (P.last q)).map (· + 1), P.Tellable s.1 q s.2 n := by
    intro n _
    refine ⟨fun r hr => ?_, fun r hr htold => ?_, fun r hr hr' => ?_, fun r r' hr hr' hne => ?_,
      fun b hb => (hP.below hs.plugin hguard h hb).1⟩
    · exact hr.elim (hP.kind hs.plugin) (hP.kind hq)
    · refine (hs.record n r hr).resolve_right ?_
      rintro ⟨-, hdone, hkeeps⟩
      -- a result that the daemon has deleted stays as it is, and nothing is told of it
      refine htold (told_eq_nil_iff.mpr ⟨?_, fun _ => ?_⟩)
      · rcases hP.final hs.plugin hguard h hr hdone with hsame | hgone
        · exact hr.trans hsame.symm
        · rw [hP.removed hs.plugin hguard h hr hgone] at hkeeps
          cases hkeeps
      · refine List.eq_nil_iff_forall_not_mem.mpr fun b hb => ?_
        exact (hP.below hs.plugin hguard h hb).2 hkeeps r hr hdone
    · obtain ⟨hnew, hstatus⟩ := hP.added hs.plugin hguard h hr hr'
      exact ⟨hfresh n hnew, hstatus⟩
    · refine ⟨fun hdone => ?_, fun hdue hreading => ?_⟩
      · rcases hP.final hs.plugin hguard h hr hdone with hsame | hgone
        · exact hne (Option.some.inj (hr'.symm.trans hsame))
        · rw [hr'] at hgone
          cases hgone
      · have hsame := hgap q h n r' hr' hdue hreading
        exact hne (Option.some.inj (hsame.symm.trans hr))
  obtain ⟨c, hc, hshows⟩ := told_all amxcTcToTimeUtc (nodup_numbers (P.last q)) htellable
  have hnumber : ∀ n r, P.record s.1 n = some r ∨ P.record q n = some r →
      n ∈ (List.range (P.last q)).map (· + 1) := by
    rintro n r (hr | hr)
    · obtain ⟨hpos, hle⟩ := hP.bounded hs.plugin hr
      exact mem_numbers.mpr ⟨hpos, hle.trans hlast⟩
    · exact mem_numbers.mpr (hP.bounded hq hr)
  refine ⟨c, hc.run, hc.meets, hq, (reaches_of_exec hc.run hc.meets).invariant
    (fun _ _ _ hs hG he => hs.step hG he) hs.sound, fun n r hr => ?_, fun n hn => ?_,
    fun p hp => ?_, fun x hx n r hpath hr => ?_⟩
  · by_cases htold : P.told s.1 q n = []
    · obtain ⟨hsame, -⟩ := told_eq_nil_iff.mp htold
      show c.dm _ = _ ∨ c.dm _ = _ ∧ _
      rw [hshows.quiet n (hnumber n r (Or.inr hr)) htold]
      exact hs.record n r (hsame.trans hr)
    · exact Or.inl ((hshows.dm n (hnumber n r (Or.inr hr)) htold).trans hr)
  · show c.dm _ = _
    by_cases hmem : n ∈ (List.range (P.last q)).map (· + 1)
    · by_cases htold : P.told s.1 q n = []
      · rw [hshows.quiet n hmem htold]
        exact hs.missing n ((told_eq_nil_iff.mp htold).1.trans hn)
      · exact (hshows.dm n hmem htold).trans hn
    · rw [hshows.others _ fun m hm heq => hmem ((path_injective heq : n = m) ▸ hm)]
      refine hs.missing n ?_
      rcases hr : P.record s.1 n with - | r
      · rfl
      · exact absurd (hnumber n r (Or.inl hr)) hmem
  · rcases hshows.used p hp with hp | ⟨n, hmem, -, rfl⟩
    · obtain ⟨n, hpos, hle, rfl⟩ := hs.used p hp
      exact ⟨n, hpos, hle.trans hlast, rfl⟩
    · obtain ⟨hpos, hle⟩ := mem_numbers.mp hmem
      exact ⟨n, hpos, hle, rfl⟩
  · have hx : x ∈ s.2.reported := hc.reported ▸ hx
    rcases hold : P.record s.1 n with - | old
    · -- nothing has been reported of a path that was never used
      obtain ⟨hnew, -⟩ := hP.added hs.plugin hguard h hold hr
      have hzero : s.2.tokens (P.path n) = 0 := hs.sound.fresh P.kind n (hfresh n hnew)
      have hone := Reporter.one_le_tokens hx
      rw [hpath] at hone
      omega
    · obtain ⟨hdue, hsaid⟩ := hs.reported x hx n old hpath hold
      rcases hP.final hs.plugin hguard h hold hdue.2 with hsame | hgone
      · obtain rfl := Option.some.inj (hsame.symm.trans hr)
        exact ⟨hdue, hsaid⟩
      · rw [hr] at hgone
        cases hgone

/-- **What the daemon does** on its own misses nothing, and keeps to the agreement. -/
theorem Agree.own {s : π × Reporter} (hs : P.Agree I amxcTcToTimeUtc s) {d : ReportEvent}
    {c : Reporter} (hown : P.own s.2 d = true)
    (h : Reporter.step amxcTcToTimeUtc s.2 d = some c) : P.Agree I amxcTcToTimeUtc (s.1, c) := by
  have hnone : s.2.NoneMissed d := by
    refine Reporter.noneMissed_of_ne fun p r he => ?_
    rw [he] at hown
    cases hown
  have hsound := hs.sound.step hnone h
  obtain ⟨hused, hframe⟩ := Reporter.own_frame hown h
  have hpaths : ∀ p ∈ c.used, ∃ n, 1 ≤ n ∧ n ≤ P.last s.1 ∧ p = P.path n := fun p hp =>
    hs.used p (hused ▸ hp)
  rcases hframe with ⟨path, hkeeps, hhanded, hdm, hreported⟩ | ⟨hdm, hreported⟩
  · refine ⟨hs.plugin, hsound, fun n r hr => ?_, fun n hn => ?_, hpaths,
      fun x hx => hs.reported x (hreported ▸ hx)⟩
    · show c.dm _ = _ ∨ c.dm _ = _ ∧ _
      rw [hdm]
      by_cases hpath : P.path n = path
      · rw [hpath, Function.update_self]
        refine Or.inr ⟨rfl, ?_, hkeeps⟩
        -- what has been handed over is finished
        obtain ⟨x, hx, hxpath⟩ := List.countP_pos_iff.mp hhanded
        have hxpath : x.path = P.path n := (of_decide_eq_true hxpath).trans hpath.symm
        exact (hs.reported x hx n r hxpath hr).1.2
      · rw [Function.update_of_ne hpath]
        exact hs.record n r hr
    · show c.dm _ = _
      rw [hdm]
      by_cases hpath : P.path n = path
      · rw [hpath, Function.update_self]
      · rw [Function.update_of_ne hpath]
        exact hs.missing n hn
  · refine ⟨hs.plugin, hsound, fun n r hr => ?_, fun n hn => ?_, hpaths, fun x hx n r hpath hr => ?_⟩
    · show c.dm _ = _ ∨ c.dm _ = _ ∧ _
      rw [hdm]
      exact hs.record n r hr
    · show c.dm _ = _
      rw [hdm]
      exact hs.missing n hn
    · rcases hreported x hx with hold | ⟨r', hr'⟩
      · exact hs.reported x hold n r hpath hr
      · have hsame : r' = r := by
          rw [hpath] at hr'
          rcases hs.record n r hr with hat | ⟨hgone, -⟩
          · exact Option.some.inj (hr'.symm.trans hat)
          · rw [hgone] at hr'
            cases hr'
        obtain rfl := hsame
        obtain ⟨hdue, hsaid⟩ := hsound.own x hx r' (by rw [hdm, hr'])
        exact ⟨hdue, hpath ▸ hsaid⟩

/-- **Plugin and daemon follow one another.** -/
theorem follows (hP : P.Lawful G I) : Feed.Follows P.step (Reporter.step amxcTcToTimeUtc) P.feed
    P.own (P.Ordered G) (P.Agree I amxcTcToTimeUtc) where
  told s e q hs hG h := by
    obtain ⟨c, hc, -, hagree⟩ := hs.told hP hG h
    exact ⟨c, hc, hagree⟩
  own s d c hs _ hown h := hs.own hown h

/-- At the start there is nothing to agree on. -/
theorem agree_init {q : π} (hI : I q) (hnone : ∀ n, P.record q n = none) :
    P.Agree I amxcTcToTimeUtc (q, Reporter.init) where
  plugin := hI
  sound := Reporter.Sound.init
  record n r hr := by
    rw [hnone n] at hr
    cases hr
  missing _ _ := rfl
  used _ hp := by cases hp
  reported _ hx := by cases hx

/-- **The two agree in every run**, the daemon misses nothing, and whatever the plugin does, the
daemon can follow. -/
theorem system_agrees (hP : P.Lawful G I) {q : π} (hI : I q) (hnone : ∀ n, P.record q n = none)
    {s : π × Reporter}
    (hs : Reaches (P.systemStep amxcTcToTimeUtc) (P.Ordered G) (q, Reporter.init) s) :
    P.Agree I amxcTcToTimeUtc s ∧
      Reaches (Reporter.step amxcTcToTimeUtc) Reporter.NoneMissed Reporter.init s.2 ∧
      ∀ e t, P.Ordered G s (.inl e) → P.step s.1 e = some t →
        ∃ c, P.systemStep amxcTcToTimeUtc s (.inl e) = some (t, c) := by
  have hagree : ∀ u, Reaches (P.systemStep amxcTcToTimeUtc) (P.Ordered G) (q, Reporter.init) u →
      P.Agree I amxcTcToTimeUtc u := fun u hu =>
    Feed.agree_of_reaches (follows hP) (agree_init hI hnone) hu
  refine ⟨hagree s hs, ?_, fun e t hG he => Feed.follows (follows hP) (hagree s hs) hG he⟩
  refine Feed.consumer_of_reaches Relation.ReflTransGen.refl (fun u e t hu hG he => ?_)
    (fun u d _ hown => ?_) hs
  · obtain ⟨-, -, hmeets, -⟩ := (hagree u hu).told hP hG he
    exact hmeets
  · refine Reporter.noneMissed_of_ne fun p r he => ?_
    rw [he] at hown
    cases hown

/-! ### The run of the plugin in the run of the two -/

theorem systemStep_plugin {s t : π × Reporter} {e : ε}
    (h : P.systemStep amxcTcToTimeUtc s (.inl e) = some t) : P.step s.1 e = some t.1 := by
  rcases Feed.step_cases h with ⟨x, hx, hstep, -⟩ | ⟨d, hd, -⟩
  · obtain rfl := Sum.inl.inj hx
    exact hstep
  · cases hd

theorem exec_plugin {s t : π × Reporter} {es : List (ε ⊕ ReportEvent)}
    (h : exec (P.systemStep amxcTcToTimeUtc) s es = some t)
    (hm : Meets (P.systemStep amxcTcToTimeUtc) (P.Ordered G) s es) :
    exec P.step s.1 (Feed.ofProducer es) = some t.1 ∧ Meets P.step G s.1 (Feed.ofProducer es) :=
  ⟨Feed.exec_producer h, Feed.meets_producer G (fun _ _ hG => hG.1) h hm⟩

/-! ### What is handed over -/

/-- **What is handed over of a result**, in a state the two can reach: it is at most once, only if
the result is `Done`, and it says what the result says; and as long as the instance is there, the
daemon gets to hand over what the ACS has asked for. -/
structure HandedOnce (P : ResultPlugin π ε) (amxcTcToTimeUtc : ℤ → ℤ) (d : Reporter) (n : ℕ)
    (r : Record) : Prop where
  once : d.handed (P.path n) ≤ 1
  content : ∀ x ∈ d.reported, x.path = P.path n →
    r.Due ∧ x = r.report amxcTcToTimeUtc (P.path n)
  comes : r.Due → (d.dm (P.path n)).isSome →
    ∃ v, Reaches (Reporter.step amxcTcToTimeUtc) Reporter.NoneMissed d v ∧ v.dm = d.dm ∧
      v.handed (P.path n) = 1

theorem Agree.handedOnce {s : π × Reporter} (hs : P.Agree I amxcTcToTimeUtc s)
    (hdaemon : Reaches (Reporter.step amxcTcToTimeUtc) Reporter.NoneMissed Reporter.init s.2)
    {n : ℕ} {r : Record} (hr : P.record s.1 n = some r) :
    P.HandedOnce amxcTcToTimeUtc s.2 n r where
  once := by
    have htokens := hs.sound.once P.kind n
    rw [Reporter.tokens] at htokens
    exact Nat.le_trans (Nat.le_add_left _ _) htokens
  content x hx hpath := hs.reported x hx n r hpath hr
  comes hdue hsome := by
    have hat : s.2.dm (P.path n) = some r := by
      refine (hs.record n r hr).resolve_right ?_
      rintro ⟨hgone, -⟩
      rw [hgone] at hsome
      cases hsome
    exact Reporter.exists_handed hdaemon hat hdue

end ResultPlugin

end Tr069
