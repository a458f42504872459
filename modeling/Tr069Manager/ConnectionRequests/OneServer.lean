import Tr069Manager.ConnectionRequests.Server

/-!
# One server that is up to date

A restart stops the server before it starts it, with the values the data model has by then. But
`cwmp_server_start` does not look whether a server is running: when `EnableCWMP` and another
parameter change together and the other one is visited first, its restart has started the server
already, and the start for `EnableCWMP` makes a second context over the first, which nobody destroys
any more (`not_oneServer_of_urlFirst`). And a new path or a new local address does not lead to a
restart at all, so that the server goes on with the path it was started with
(`not_upToDate_of_unnoticed`), or does not come up when there is an address.

In every run in which `EnableCWMP` comes before what restarts the server, in which the path and the
usability of the address change only together with something that starts, stops or restarts it, and
in which what the server needs can be read and made, there is one server at most, and it is up to
date after each notification (`oneServer_of_reaches`).
-/

namespace Tr069

/-! ### The property -/

/-- There is at most one context, and the server has its pointer to it. -/
def HttpServer.OneServer (s : HttpServer) : Prop :=
  s.contexts.length ≤ 1 ∧ ∀ c ∈ s.contexts, s.lwsServerCtx = some c.number

/-- The server listens if it should, on the port and for the path the data model has. -/
structure HttpServer.UpToDate (s : HttpServer) (dm : ManagementServer) : Prop where
  listening : (∃ c ∈ s.contexts, c.listening ≠ none) ↔ dm.Wanted
  current : ∀ c ∈ s.contexts, ∀ port, c.listening = some port →
    port = dm.connRequestPort ∧ s.randomCpeUrl = some dm.connRequestPath

/-! ### The condition -/

/-- A parameter whose change restarts the server. -/
def ServerParameter.Restarts : ServerParameter → Prop
  | .url | .allowConnectionRequestFromUnknownHost | .allowConnectionRequestFromAddress |
    .connRequestHost | .connRequestPort => True
  | .enableCwmp | .connRequestPath | .localIpAddress => False

/-- A parameter whose change comes to the server at all. -/
def ServerParameter.Noticed (p : ServerParameter) : Prop := p.Restarts ∨ p = .enableCwmp

/-- **The condition on the events**: where a server is wanted, `EnableCWMP` is visited before what
restarts it; what does not come to the server does not make it wanted or unwanted, nor change its
path; and a server that is wanted can be started. -/
def ServerDaemon.InOrder (s : ServerDaemon) : ServerEvent → Prop
  | .changed dm parameters =>
    (dm.Wanted → parameters.Pairwise fun p q => q = .enableCwmp → ¬p.Restarts) ∧
      ((∀ p ∈ parameters, ¬p.Noticed) → (dm.Wanted ↔ s.dm.Wanted) ∧
        (dm.Wanted → dm.connRequestPath = s.dm.connRequestPath))
  | .engine around =>
    s.dm.Wanted → .srvStart ∈ s.pending.head? ∨ .srvRestart ∈ s.pending.head? →
      around = Surroundings.good

/-! ### Starting and stopping -/

namespace HttpServer

variable {dm : ManagementServer} {around : Surroundings} {s : HttpServer} {port : ℕ}
  {path : CString}

/-- There is no server. -/
def Idle (s : HttpServer) : Prop :=
  s.contexts = [] ∧ s.lwsServerCtx = none ∧ s.lwsServerVhost = none

/-- There is one server, for a port and a path. -/
def Serving (s : HttpServer) (port : ℕ) (path : CString) : Prop :=
  ∃ n, s.contexts = [⟨n, some port⟩] ∧ s.lwsServerCtx = some n ∧ s.lwsServerVhost = some n ∧
    s.randomCpeUrl = some path

/-- The server is as the data model wants it. -/
structure InSync (s : HttpServer) (dm : ManagementServer) : Prop where
  serving : dm.Wanted → s.Serving dm.connRequestPort dm.connRequestPath
  idle : ¬dm.Wanted → s.Idle

theorem cwmpServerStop_of_idle (h : s.Idle) : s.cwmpServerStop.Idle := by
  obtain ⟨hcontexts, -, -⟩ := h
  refine ⟨?_, rfl, rfl⟩
  show ((s.contexts.map _).filter _) = []
  rw [hcontexts]
  rfl

theorem cwmpServerStop_of_serving (h : s.Serving port path) : s.cwmpServerStop.Idle := by
  obtain ⟨n, hcontexts, hctx, -, -⟩ := h
  refine ⟨?_, rfl, rfl⟩
  show ((s.contexts.map fun c => if s.lwsServerVhost = some c.number then
    { c with listening := none } else c).filter fun c => s.lwsServerCtx ≠ some c.number) = []
  rw [hcontexts, hctx, List.map_singleton]
  split <;> simp

/-- Where no server is wanted, a start does nothing. -/
theorem cwmpServerStart_of_not_wanted (hnot : ¬dm.Wanted) :
    (s.cwmpServerStart dm around).1 = s := by
  rw [cwmpServerStart]
  split
  · rfl
  · split
    · rfl
    · next hone =>
      have henabled : dm.enableCwmp = true := by
        by_contra hdisabled
        exact hone (if_neg hdisabled)
      split
      · rfl
      · rw [if_pos fun husable => hnot ⟨henabled, husable⟩]

theorem cwmpServerInitLws_good {host : CString} (hhost : host ≠ []) :
    s.cwmpServerInitLws host .good =
      ({ s with vhostName := some host }.lwsCreateContext true, true) :=
  if_neg hhost

/-- **A start of a server that is wanted** creates a context and a vhost. -/
theorem cwmpServerStart_of_wanted (hwanted : dm.Wanted) :
    s.cwmpServerStart dm .good =
      (({ s with
        randomCpeUrl := some dm.connRequestPath
        connectionTimestampList := []
        vhostName := some dm.localIpAddress }.lwsCreateContext true).lwsCreateVhost
          dm.connRequestPort true, true) := by
  have henabled : ¬dm.enableCwmpText = "0".toList := by
    rw [ManagementServer.enableCwmpText, if_pos hwanted.1]
    decide
  have hhost : ¬dm.localIpAddress = [] := fun hempty => hwanted.2 (Or.inl hempty)
  rw [cwmpServerStart, if_neg (by decide), if_neg henabled, if_neg (by decide),
    if_neg (not_not.mpr hwanted.2), if_neg (by decide), if_neg (by decide)]
  simp only [cwmpServerInitLws_good hhost]
  rfl

/-- Where there is no server, there is one then. -/
theorem serving_cwmpServerStart (h : s.Idle) (hwanted : dm.Wanted) :
    (s.cwmpServerStart dm .good).1.Serving dm.connRequestPort dm.connRequestPath := by
  rw [cwmpServerStart_of_wanted hwanted]
  refine ⟨s.created, ?_, rfl, rfl, rfl⟩
  show (s.contexts ++ [(⟨s.created, none⟩ : LwsContext)]).map _ = _
  rw [h.1, List.nil_append, List.map_singleton]
  exact congrArg (fun c => [c]) (if_pos rfl)

/-- A start leads to what the data model wants, where there is no server. -/
theorem inSync_cwmpServerStart (h : s.Idle) (hgood : dm.Wanted → around = .good) :
    (s.cwmpServerStart dm around).1.InSync dm := by
  refine ⟨fun hwanted => ?_, fun hnot => ?_⟩
  · rw [hgood hwanted]
    exact serving_cwmpServerStart h hwanted
  · rw [cwmpServerStart_of_not_wanted hnot]
    exact h

/-- There is no server, or there is one. -/
def Sound (s : HttpServer) : Prop := s.Idle ∨ ∃ port path, s.Serving port path

theorem InSync.sound (h : s.InSync dm) : s.Sound := by
  by_cases hwanted : dm.Wanted
  · exact Or.inr ⟨_, _, h.serving hwanted⟩
  · exact Or.inl (h.idle hwanted)

theorem Sound.cwmpServerStop (h : s.Sound) : s.cwmpServerStop.Idle := by
  rcases h with hidle | ⟨port, path, hserving⟩
  · exact cwmpServerStop_of_idle hidle
  · exact cwmpServerStop_of_serving hserving

theorem Sound.oneServer (h : s.Sound) : s.OneServer := by
  rcases h with ⟨hcontexts, -, -⟩ | ⟨port, path, n, hcontexts, hctx, -, -⟩
  · rw [OneServer, hcontexts]
    exact ⟨Nat.zero_le 1, fun c hc => absurd hc List.not_mem_nil⟩
  · rw [OneServer, hcontexts]
    refine ⟨Nat.le_refl 1, fun c hc => ?_⟩
    rw [List.mem_singleton.mp hc]
    exact hctx

theorem InSync.upToDate (h : s.InSync dm) : s.UpToDate dm := by
  by_cases hwanted : dm.Wanted
  · obtain ⟨n, hcontexts, -, -, hpath⟩ := h.serving hwanted
    refine ⟨iff_of_true ⟨⟨n, some dm.connRequestPort⟩, ?_, Option.some_ne_none _⟩ hwanted,
      fun c hc port hport => ?_⟩
    · rw [hcontexts]
      exact List.mem_singleton_self _
    · rw [hcontexts, List.mem_singleton] at hc
      rw [hc] at hport
      exact ⟨(Option.some.inj hport).symm, hpath⟩
  · obtain ⟨hcontexts, -, -⟩ := h.idle hwanted
    refine ⟨iff_of_false ?_ hwanted, ?_⟩
    · rintro ⟨c, hc, -⟩
      rw [hcontexts] at hc
      exact absurd hc List.not_mem_nil
    · intro c hc
      rw [hcontexts] at hc
      exact absurd hc List.not_mem_nil

end HttpServer

/-! ### The events that are still to be handled -/

/-- An event after which the server is as the data model wants it. -/
def EngineEvent.Syncs : EngineEvent → Prop
  | .srvRestart | .srvStop | .srvStart => True
  | .urlChanged => False

/-- **The invariant**: there is one server at most; it is as it should be unless an event is still
to come after which it is; a start is only to come where there is no server, with no start before
it, and no restart either if a server is wanted; and a stop is only to come where none is wanted. -/
structure ServerDaemon.Settles (s : ServerDaemon) : Prop where
  sound : s.server.Sound
  inSync : (∀ e ∈ s.pending, ¬e.Syncs) → s.server.InSync s.dm
  fresh : .srvStart ∈ s.pending → s.server.Idle
  first : s.pending.Pairwise fun d e => e = .srvStart →
    d ≠ .srvStart ∧ (s.dm.Wanted → d ≠ .srvRestart)
  stops : .srvStop ∈ s.pending → ¬s.dm.Wanted

namespace ServerParameter

variable {dm : ManagementServer} {p : ServerParameter}

/-- Only `EnableCWMP` starts the server, when it becomes true. -/
theorem srvStart_mem_raised (h : .srvStart ∈ p.raised dm) :
    p = .enableCwmp ∧ dm.enableCwmp = true := by
  rcases p with - | - | - | - | - | - | - | -
  case enableCwmp =>
    refine ⟨rfl, ?_⟩
    by_contra hdisabled
    rw [raised, if_neg hdisabled, List.mem_singleton] at h
    cases h
  all_goals
    rw [raised] at h
    simp at h

/-- Only `EnableCWMP` stops it, when it becomes false. -/
theorem srvStop_mem_raised (h : .srvStop ∈ p.raised dm) :
    p = .enableCwmp ∧ ¬dm.enableCwmp = true := by
  rcases p with - | - | - | - | - | - | - | -
  case enableCwmp =>
    refine ⟨rfl, fun henabled => ?_⟩
    rw [raised, if_pos henabled, List.mem_singleton] at h
    cases h
  all_goals
    rw [raised] at h
    simp at h

theorem srvRestart_mem_raised (h : .srvRestart ∈ p.raised dm) : p.Restarts := by
  rcases p with - | - | - | - | - | - | - | -
  case enableCwmp =>
    rw [raised] at h
    split at h
    · simp at h
    · simp at h
  case connRequestPath | localIpAddress =>
    cases h
  all_goals trivial

/-- What comes to the server brings it up to date. -/
theorem exists_syncs_of_noticed (dm : ManagementServer) (h : p.Noticed) :
    ∃ e ∈ p.raised dm, e.Syncs := by
  rcases p with - | - | - | - | - | - | - | -
  case enableCwmp =>
    rw [raised]
    split
    · exact ⟨_, List.mem_singleton_self _, trivial⟩
    · exact ⟨_, List.mem_singleton_self _, trivial⟩
  case connRequestPath | localIpAddress =>
    rcases h with hrestarts | hsame
    · exact absurd hrestarts id
    · cases hsame
  all_goals exact ⟨.srvRestart, List.mem_cons_self, trivial⟩

theorem raised_of_not_noticed (h : ¬p.Noticed) : p.raised dm = [] := by
  rcases p with - | - | - | - | - | - | - | -
  case enableCwmp => exact absurd (Or.inr rfl) h
  case connRequestPath | localIpAddress => rfl
  all_goals exact absurd (Or.inl trivial) h

/-- The events of one parameter: at most one start, and no restart before it. -/
theorem raised_pairwise : (p.raised dm).Pairwise fun d e => e = .srvStart →
    d ≠ .srvStart ∧ (dm.Wanted → d ≠ .srvRestart) := by
  rcases p with - | - | - | - | - | - | - | -
  case url =>
    refine List.pairwise_pair.mpr fun h => ?_
    cases h
  case enableCwmp =>
    rw [raised]
    split
    · exact List.pairwise_singleton _ _
    · exact List.pairwise_singleton _ _
  case connRequestPath | localIpAddress => exact List.Pairwise.nil
  all_goals exact List.pairwise_singleton _ _

end ServerParameter

namespace ServerDaemon

variable {s t : ServerDaemon} {around : Surroundings} {dm : ManagementServer}
  {parameters : List ServerParameter}

/-- **An event of the engine** keeps the invariant. -/
theorem Settles.engine (h : s.Settles) (hin : s.InOrder (.engine around))
    (hstep : s.step (.engine around) = some t) : t.Settles := by
  rw [step] at hstep
  rcases hpending : s.pending with - | ⟨event, pending⟩
  · rw [hpending] at hstep
    cases hstep
  rw [hpending] at hstep
  obtain rfl := Option.some.inj hstep
  have hfirst := List.pairwise_cons.mp (hpending ▸ h.first)
  have hstops : EngineEvent.srvStop ∈ pending → ¬s.dm.Wanted := fun hmem =>
    h.stops (hpending ▸ List.mem_cons_of_mem event hmem)
  have hgood : ∀ e, event = e → e = .srvStart ∨ e = .srvRestart → s.dm.Wanted →
      around = .good := by
    rintro e rfl he hwanted
    refine hin hwanted ?_
    rw [hpending]
    rcases he with rfl | rfl
    · exact Or.inl rfl
    · exact Or.inr rfl
  rcases event with - | - | - | -
  case srvRestart =>
    have hsync : (s.server.cwmpServerStop.cwmpServerStart s.dm around).1.InSync s.dm :=
      HttpServer.inSync_cwmpServerStart h.sound.cwmpServerStop (hgood _ rfl (Or.inr rfl))
    refine ⟨hsync.sound, fun _ => hsync, fun hstart => hsync.idle fun hwanted => ?_, hfirst.2,
      hstops⟩
    exact (hfirst.1 _ hstart rfl).2 hwanted rfl
  case srvStop =>
    have hidle := h.sound.cwmpServerStop
    have hnot : ¬s.dm.Wanted := h.stops (hpending ▸ List.mem_cons_self)
    exact ⟨Or.inl hidle, fun _ => ⟨fun hwanted => absurd hwanted hnot, fun _ => hidle⟩,
      fun _ => hidle, hfirst.2, hstops⟩
  case srvStart =>
    have hidle : s.server.Idle := h.fresh (hpending ▸ List.mem_cons_self)
    have hsync : (s.server.cwmpServerStart s.dm around).1.InSync s.dm :=
      HttpServer.inSync_cwmpServerStart hidle (hgood _ rfl (Or.inl rfl))
    -- there is no other start
    refine ⟨hsync.sound, fun _ => hsync, fun hstart => ?_, hfirst.2, hstops⟩
    exact absurd rfl (hfirst.1 _ hstart rfl).1
  case urlChanged =>
    refine ⟨h.sound, fun hnone => h.inSync fun e he => ?_, fun hstart => h.fresh ?_, hfirst.2,
      hstops⟩
    · rw [hpending, List.mem_cons] at he
      rcases he with rfl | he
      · exact fun hsyncs => hsyncs
      · exact hnone e he
    · rw [hpending]
      exact List.mem_cons_of_mem _ hstart

/-- **A notification** establishes it again. -/
theorem Settles.changed (h : s.Settles) (hin : s.InOrder (.changed dm parameters))
    (hstep : s.step (.changed dm parameters) = some t) : t.Settles := by
  rw [step] at hstep
  split at hstep
  case isFalse => cases hstep
  case isTrue hpossible =>
  obtain ⟨hpending, -, hnotifies⟩ := hpossible
  obtain rfl := Option.some.inj hstep
  have hsync : s.server.InSync s.dm := h.inSync fun e he => by
    rw [hpending] at he
    exact absurd he List.not_mem_nil
  refine ⟨h.sound, fun hnone => ?_, fun hstart => ?_, ?_, fun hstop hwanted => ?_⟩
  · -- nothing comes to the server
    have hunnoticed : ∀ p ∈ parameters, ¬p.Noticed := by
      intro p hp hnoticed
      obtain ⟨e, he, hsyncs⟩ := ServerParameter.exists_syncs_of_noticed dm hnoticed
      exact hnone e (List.mem_flatMap.mpr ⟨p, hp, he⟩) hsyncs
    obtain ⟨hwanted, hpath⟩ := hin.2 hunnoticed
    have hport : s.dm.connRequestPort = dm.connRequestPort := by
      by_contra hne
      exact hunnoticed _ (hnotifies.connRequestPort.mpr hne) (Or.inl trivial)
    refine ⟨fun hnow => ?_, fun hnot => hsync.idle fun hbefore => hnot (hwanted.mpr hbefore)⟩
    have hserving := hsync.serving (hwanted.mp hnow)
    rwa [hport, ← hpath hnow] at hserving
  · -- `EnableCWMP` was false
    obtain ⟨p, hp, hmem⟩ := List.mem_flatMap.mp hstart
    obtain ⟨rfl, henabled⟩ := ServerParameter.srvStart_mem_raised hmem
    refine hsync.idle fun hwanted => hnotifies.enableCwmp.mp hp ?_
    rw [hwanted.1, henabled]
  · -- two parameters: the later one is `EnableCWMP`
    refine List.pairwise_flatMap.mpr ⟨fun p _ => ServerParameter.raised_pairwise, ?_⟩
    have hboth : parameters.Pairwise fun p q => p ≠ q ∧
        (dm.Wanted → q = .enableCwmp → ¬p.Restarts) := by
      refine hnotifies.nodup.and ?_
      by_cases hwanted : dm.Wanted
      · exact (hin.1 hwanted).imp fun hpq _ => hpq
      · exact List.pairwise_of_forall fun _ _ hnow => absurd hnow hwanted
    refine hboth.imp ?_
    rintro p q ⟨hne, horder⟩ d hd e he rfl
    obtain ⟨rfl, -⟩ := ServerParameter.srvStart_mem_raised he
    refine ⟨?_, fun hwanted => ?_⟩
    · rintro rfl
      exact hne (ServerParameter.srvStart_mem_raised hd).1
    · rintro rfl
      exact horder hwanted rfl (ServerParameter.srvRestart_mem_raised hd)
  · obtain ⟨p, -, hmem⟩ := List.mem_flatMap.mp hstop
    exact (ServerParameter.srvStop_mem_raised hmem).2 hwanted.1

theorem settles_initial : (initial dm).Settles := by
  have hidle : HttpServer.initial.Idle := ⟨rfl, rfl, rfl⟩
  refine ⟨Or.inl hidle, fun hnone => ?_, fun _ => hidle, List.pairwise_singleton _ _,
    fun hstop => ?_⟩
  · exact absurd trivial (hnone .srvStart (List.mem_singleton_self _))
  · cases List.mem_singleton.mp hstop

/-- **One event** keeps the invariant. -/
theorem Settles.step {e : ServerEvent} (h : s.Settles) (hin : s.InOrder e)
    (hstep : s.step e = some t) : t.Settles := by
  rcases e with ⟨dm, parameters⟩ | around
  · exact h.changed hin hstep
  · exact h.engine hin hstep

end ServerDaemon

/-! ### Runs -/

/-- **One server that is up to date**: at every moment there is at most one context, and after each
notification the server is as the data model wants it, where the events meet the condition. -/
theorem oneServer_of_reaches (dm : ManagementServer) (s : ServerDaemon)
    (h : Runs.Reaches ServerDaemon.step ServerDaemon.InOrder (ServerDaemon.initial dm) s) :
    s.server.OneServer ∧ (s.pending = [] → s.server.UpToDate s.dm) := by
  have hsettles : s.Settles := by
    refine Runs.Reaches.invariant (I := ServerDaemon.Settles)
      (fun u e v hu he hv => hu.step he hv) h ServerDaemon.settles_initial
  refine ⟨hsettles.sound.oneServer, fun hpending => (hsettles.inSync fun e he => ?_).upToDate⟩
  rw [hpending] at he
  exact absurd he List.not_mem_nil

/-- The server is started, and the port changes. -/
def portRun : List ServerEvent :=
  [.engine .good, .changed { exampleServer with connRequestPort := 7548 } [.connRequestPort],
    .engine .good]

theorem oneServer_of_portRun :
    ∃ s, Runs.exec ServerDaemon.step (ServerDaemon.initial exampleServer) portRun = some s ∧
      s.pending = [] ∧ s.server.OneServer ∧
      s.server.UpToDate { exampleServer with connRequestPort := 7548 } := by
  have hrun : Runs.Meets ServerDaemon.step ServerDaemon.InOrder
      (ServerDaemon.initial exampleServer) portRun := by
    refine ⟨fun _ _ => rfl, fun s₁ h₁ => ?_⟩
    obtain rfl := Option.some.inj h₁
    refine ⟨⟨fun _ => List.pairwise_singleton _ _, fun hnone => ?_⟩, fun s₂ h₂ => ?_⟩
    · exact absurd (Or.inl trivial) (hnone .connRequestPort (List.mem_singleton_self _))
    · obtain rfl := Option.some.inj h₂
      exact ⟨fun _ _ => rfl, fun _ _ => trivial⟩
  have hone := oneServer_of_reaches exampleServer _ (Runs.reaches_of_exec rfl hrun)
  exact ⟨_, rfl, rfl, hone.1, hone.2 rfl⟩

/-- `EnableCWMP` becomes true together with another URL, which is visited first: there are two
contexts. -/
theorem not_oneServer_of_urlFirst :
    ¬∀ (dm : ManagementServer) (s : ServerDaemon),
      Runs.Reaches ServerDaemon.step Runs.free (ServerDaemon.initial dm) s →
      s.server.OneServer ∧ (s.pending = [] → s.server.UpToDate s.dm) := by
  intro h
  have hone := (h exampleServer _ (Runs.reaches_free_of_exec [.engine .good,
    .changed { exampleServer with enableCwmp := false } [.enableCwmp], .engine .good,
    .changed exampleServer [.url, .enableCwmp], .engine .good, .engine .good, .engine .good]
    rfl)).1.1
  revert hone
  decide

/-! ### The condition is needed -/

/-- A start of a server that is wanted, where there is one already, makes a second context. -/
theorem not_oneServer_of_start {s : HttpServer} {dm : ManagementServer} {port : ℕ} {path : CString}
    (h : s.Serving port path) (hwanted : dm.Wanted) :
    ¬(s.cwmpServerStart dm .good).1.OneServer := by
  obtain ⟨n, hcontexts, -, -, -⟩ := h
  have hlength : (s.cwmpServerStart dm .good).1.contexts.length = 2 := by
    rw [HttpServer.cwmpServerStart_of_wanted hwanted]
    show ((s.contexts ++ [(⟨s.created, none⟩ : LwsContext)]).map _).length = 2
    rw [List.length_map, List.length_append, hcontexts]
    rfl
  intro hone
  have hle := hone.1
  omega

/-- **What does not come to the server** leaves it out of date, if it makes it wanted or unwanted or
changes its path. -/
theorem not_upToDate_of_unnoticed {s t : ServerDaemon} {dm : ManagementServer}
    {parameters : List ServerParameter} (h : s.Settles)
    (hunnoticed : ∀ p ∈ parameters, ¬p.Noticed)
    (hnot : ¬((dm.Wanted ↔ s.dm.Wanted) ∧
      (dm.Wanted → dm.connRequestPath = s.dm.connRequestPath)))
    (hstep : s.step (.changed dm parameters) = some t) :
    t.pending = [] ∧ ¬t.server.UpToDate t.dm := by
  rw [ServerDaemon.step] at hstep
  split at hstep
  case isFalse => cases hstep
  case isTrue hpossible =>
  obtain rfl := Option.some.inj hstep
  have hbefore : s.server.InSync s.dm := h.inSync fun e he => by
    rw [hpossible.1] at he
    exact absurd he List.not_mem_nil
  refine ⟨List.flatMap_eq_nil_iff.mpr fun p hp => ?_, fun hafter => hnot ?_⟩
  · exact ServerParameter.raised_of_not_noticed (hunnoticed p hp)
  · have hwanted : dm.Wanted ↔ s.dm.Wanted :=
      hafter.listening.symm.trans hbefore.upToDate.listening
    refine ⟨hwanted, fun hnow => ?_⟩
    obtain ⟨n, hcontexts, -, -, hpath⟩ := hbefore.serving (hwanted.mp hnow)
    have hcurrent := (hafter.current ⟨n, some s.dm.connRequestPort⟩
      (hcontexts ▸ List.mem_singleton_self _) _ rfl).2
    exact Option.some.inj (hcurrent.symm.trans hpath)

end Tr069
