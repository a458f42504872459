import Tr069Manager.Lib.CString
import Tr069Manager.Lib.Runs

/-!
# The server for connection requests

`dmmain/cwmpd_server.c`, from `cwmp_server_init_lws` on, with the events that start and stop it:
`DM_ENG_Device_SystemConnectionHandleParameterChanged` (`amx/adapter/DM_AmxSystemConnection.c`)
goes through the parameters that have changed together, in the order of a hash table, and raises
events of the engine, which `cwmp_app_engineEventHandler` (`dmmain/cwmpd_main.c`) handles.

The contexts and vhosts of libwebsockets are outside of the daemon: a context exists from its
creation to its destruction, and it listens on a port once it has a vhost. What the daemon has is
two pointers. A notification comes when the ones before have been handled, and the data model has
the new values then.
-/

namespace Tr069

/-! ### The data model -/

/-- The parameters of `ManagementServer.` that play a part here; the others raise no such event. -/
inductive ServerParameter where
  | url
  | allowConnectionRequestFromUnknownHost
  | allowConnectionRequestFromAddress
  | enableCwmp
  | connRequestHost
  | connRequestPort
  | connRequestPath
  | localIpAddress
  deriving DecidableEq

/-- The values the server is started with. -/
structure ManagementServer where
  enableCwmp : Bool
  localIpAddress : CString
  connRequestPort : ℕ
  connRequestPath : CString

namespace ManagementServer

/-- The text of `EnableCWMP`. -/
def enableCwmpText (dm : ManagementServer) : CString :=
  if dm.enableCwmp then "1".toList else "0".toList

/-- The address is not usable if there is no connection to the WAN. -/
def Usable (dm : ManagementServer) : Prop :=
  ¬(dm.localIpAddress = [] ∨ dm.localIpAddress = "0.0.0.0".toList)

/-- There should be a server. -/
def Wanted (dm : ManagementServer) : Prop := dm.enableCwmp = true ∧ dm.Usable

instance (dm : ManagementServer) : Decidable dm.Usable := inferInstanceAs (Decidable (¬_))

instance (dm : ManagementServer) : Decidable dm.Wanted := inferInstanceAs (Decidable (_ ∧ _))

end ManagementServer

/-- Values for the examples. -/
def exampleServer : ManagementServer := ⟨true, "192.0.2.1".toList, 7547, "path".toList⟩

/-- What succeeds when the server is started: the reads, and the creation of a context and of a
vhost. -/
structure Surroundings where
  enableCwmpRead : Bool
  localIpAddressRead : Bool
  connRequestPortRead : Bool
  connRequestPathRead : Bool
  contextCreated : Bool
  vhostCreated : Bool
  deriving DecidableEq

/-- Everything succeeds. -/
def Surroundings.good : Surroundings := ⟨true, true, true, true, true, true⟩

/-! ### The server -/

/-- A context of libwebsockets, and the port its vhost listens on, if it has one. -/
structure LwsContext where
  number : ℕ
  listening : Option ℕ

/-- The static variables of the server, and the contexts that exist; contexts are numbered as they
are created. -/
structure HttpServer where
  vhostName : Option CString
  lwsServerCtx : Option ℕ
  lwsServerVhost : Option ℕ
  randomCpeUrl : Option CString
  connectionTimestampList : List ℤ
  contexts : List LwsContext
  created : ℕ

namespace HttpServer

/-- When the daemon comes up. -/
def initial : HttpServer := ⟨none, none, none, none, [], [], 0⟩

/-- `lws_create_context`, for the pointer to the context. -/
def lwsCreateContext (s : HttpServer) (created : Bool) : HttpServer :=
  if created then
    { s with
      lwsServerCtx := some s.created
      contexts := s.contexts ++ [⟨s.created, none⟩]
      created := s.created + 1 }
  else { s with lwsServerCtx := none }

/-- `lws_create_vhost` in the context of the pointer. -/
def lwsCreateVhost (s : HttpServer) (port : ℕ) (created : Bool) : HttpServer :=
  if created then
    { s with
      lwsServerVhost := s.lwsServerCtx
      contexts := s.contexts.map fun c =>
        if s.lwsServerCtx = some c.number then { c with listening := some port } else c }
  else { s with lwsServerVhost := none }

/-- `lws_vhost_destroy`, if there is a vhost: its context does not listen any more. -/
def lwsVhostDestroy (s : HttpServer) : HttpServer :=
  { s with
    contexts := s.contexts.map fun c =>
      if s.lwsServerVhost = some c.number then { c with listening := none } else c }

/-- `lws_context_destroy`, which does nothing for `NULL`. -/
def lwsContextDestroy (s : HttpServer) : HttpServer :=
  { s with contexts := s.contexts.filter fun c => s.lwsServerCtx ≠ some c.number }

/-- `cwmp_server_init_lws`, and whether it is `cwmp_status_ok`. -/
def cwmpServerInitLws (s : HttpServer) (serverHost : CString) (around : Surroundings) :
    HttpServer × Bool :=
  let s := { s with vhostName := some serverHost }
  if serverHost = [] then (s, false)
  else
    let s := s.lwsCreateContext around.contextCreated
    (s, s.lwsServerCtx.isSome)

/-- `cwmp_server_start`, and whether it is `cwmp_status_ok`. -/
def cwmpServerStart (dm : ManagementServer) (around : Surroundings) (s : HttpServer) :
    HttpServer × Bool :=
  if ¬around.enableCwmpRead then (s, false)
  else if dm.enableCwmpText = "0".toList then (s, false)
  else if ¬around.localIpAddressRead then (s, false)
  -- the WAN is not connected
  else if ¬dm.Usable then (s, true)
  else if ¬around.connRequestPortRead then (s, false)
  else
    let s := { s with randomCpeUrl := none }
    if ¬around.connRequestPathRead then (s, false)
    else
      let s := { s with
        randomCpeUrl := some dm.connRequestPath
        connectionTimestampList := [] }
      let init := s.cwmpServerInitLws dm.localIpAddress around
      if ¬init.2 then (init.1, false)
      else
        let s := init.1.lwsCreateVhost dm.connRequestPort around.vhostCreated
        (s, s.lwsServerVhost.isSome)

/-- `cwmp_server_stop`. -/
def cwmpServerStop (s : HttpServer) : HttpServer :=
  let s := s.lwsVhostDestroy
  let s := { s with randomCpeUrl := none, lwsServerVhost := none }
  let s := s.lwsContextDestroy
  { s with lwsServerCtx := none, vhostName := none, connectionTimestampList := [] }

end HttpServer

/-! ### The events of the engine -/

/-- `EVENT_ENG_SRV_RESTART`, `EVENT_ENG_SRV_STOP`, `EVENT_ENG_SRV_START` and
`EVENT_ENG_URL_CHANGED`. -/
inductive EngineEvent where
  | srvRestart
  | srvStop
  | srvStart
  | urlChanged
  deriving DecidableEq

/-- What a changed parameter raises in `DM_ENG_Device_SystemConnectionHandleParameterChanged`. -/
def ServerParameter.raised (dm : ManagementServer) : ServerParameter → List EngineEvent
  | .url => [.srvRestart, .urlChanged]
  | .allowConnectionRequestFromUnknownHost => [.srvRestart]
  | .allowConnectionRequestFromAddress => [.srvRestart]
  | .enableCwmp => if dm.enableCwmp then [.srvStart] else [.srvStop]
  | .connRequestHost => [.srvRestart]
  | .connRequestPort => [.srvRestart]
  | .connRequestPath => []
  | .localIpAddress => []

/-- `cwmp_app_http_server_restart`. -/
def HttpServer.cwmpAppHttpServerRestart (dm : ManagementServer) (around : Surroundings)
    (s : HttpServer) : HttpServer × Bool :=
  s.cwmpServerStop.cwmpServerStart dm around

/-- `cwmp_app_engineEventHandler`; where it is not `true`, the daemon is told to exit. The change of
the URL is for the resolver. -/
def HttpServer.cwmpAppEngineEventHandler (dm : ManagementServer) (around : Surroundings)
    (s : HttpServer) : EngineEvent → HttpServer × Bool
  | .srvRestart => s.cwmpAppHttpServerRestart dm around
  | .srvStop => (s.cwmpServerStop, true)
  | .srvStart => s.cwmpServerStart dm around
  | .urlChanged => (s, true)

/-! ### The system -/

/-- The values of the data model, the server, the events of the engine that are still to be
handled, and whether the daemon has been told to exit. -/
structure ServerDaemon where
  dm : ManagementServer
  server : HttpServer
  pending : List EngineEvent
  exiting : Bool

/-- What can happen: parameters change together, and are visited in some order; or the next event of
the engine is handled. -/
inductive ServerEvent where
  | changed (dm : ManagementServer) (parameters : List ServerParameter)
  | engine (around : Surroundings)

namespace ServerDaemon

/-- `cwmp_app_init_services` starts the server first. -/
def initial (dm : ManagementServer) : ServerDaemon := ⟨dm, HttpServer.initial, [.srvStart], false⟩

/-- A notification has the parameters that have changed, each once. -/
structure Notifies (old dm : ManagementServer) (parameters : List ServerParameter) : Prop where
  nodup : parameters.Nodup
  enableCwmp : .enableCwmp ∈ parameters ↔ old.enableCwmp ≠ dm.enableCwmp
  localIpAddress : .localIpAddress ∈ parameters ↔ old.localIpAddress ≠ dm.localIpAddress
  connRequestPort : .connRequestPort ∈ parameters ↔ old.connRequestPort ≠ dm.connRequestPort
  connRequestPath : .connRequestPath ∈ parameters ↔ old.connRequestPath ≠ dm.connRequestPath

instance (old dm : ManagementServer) (parameters : List ServerParameter) :
    Decidable (Notifies old dm parameters) :=
  decidable_of_iff (parameters.Nodup ∧
    (.enableCwmp ∈ parameters ↔ old.enableCwmp ≠ dm.enableCwmp) ∧
    (.localIpAddress ∈ parameters ↔ old.localIpAddress ≠ dm.localIpAddress) ∧
    (.connRequestPort ∈ parameters ↔ old.connRequestPort ≠ dm.connRequestPort) ∧
    (.connRequestPath ∈ parameters ↔ old.connRequestPath ≠ dm.connRequestPath))
    ⟨fun ⟨h₁, h₂, h₃, h₄, h₅⟩ => ⟨h₁, h₂, h₃, h₄, h₅⟩, fun ⟨h₁, h₂, h₃, h₄, h₅⟩ =>
      ⟨h₁, h₂, h₃, h₄, h₅⟩⟩

/-- One event, if it is possible. -/
def step (s : ServerDaemon) : ServerEvent → Option ServerDaemon
  | .changed dm parameters =>
    if s.pending = [] ∧ s.exiting = false ∧ Notifies s.dm dm parameters then
      some { s with dm := dm, pending := parameters.flatMap (·.raised dm) }
    else none
  | .engine around =>
    match s.pending with
    | [] => none
    | event :: pending =>
      let handled := s.server.cwmpAppEngineEventHandler s.dm around event
      some { s with
        server := handled.1
        pending := pending
        exiting := s.exiting || !handled.2 }

end ServerDaemon

/-! ### The path of the server -/

namespace HttpServer

variable {dm : ManagementServer} {around : Surroundings} {s : HttpServer}

@[simp] theorem lwsCreateContext_randomCpeUrl {created : Bool} :
    (s.lwsCreateContext created).randomCpeUrl = s.randomCpeUrl := by
  rcases created with - | -
  · rfl
  · rfl

@[simp] theorem lwsCreateVhost_randomCpeUrl {port : ℕ} {created : Bool} :
    (s.lwsCreateVhost port created).randomCpeUrl = s.randomCpeUrl := by
  rcases created with - | -
  · rfl
  · rfl

@[simp] theorem cwmpServerInitLws_randomCpeUrl {host : CString} :
    (s.cwmpServerInitLws host around).1.randomCpeUrl = s.randomCpeUrl := by
  by_cases hhost : host = []
  · have hinit : s.cwmpServerInitLws host around = _ := if_pos hhost
    rw [hinit]
  · have hinit : s.cwmpServerInitLws host around = _ := if_neg hhost
    rw [hinit]
    exact lwsCreateContext_randomCpeUrl

/-- A server without a path has none after a start, or the one the data model has. -/
theorem randomCpeUrl_cwmpServerStart (h : s.randomCpeUrl = none) :
    (s.cwmpServerStart dm around).1.randomCpeUrl = none ∨
      (s.cwmpServerStart dm around).1.randomCpeUrl = some dm.connRequestPath := by
  rw [cwmpServerStart]
  split
  · exact Or.inl h
  · split
    · exact Or.inl h
    · split
      · exact Or.inl h
      · split
        · exact Or.inl h
        · split
          · exact Or.inl h
          · simp only
            split
            · exact Or.inl rfl
            · refine Or.inr ?_
              split
              · exact cwmpServerInitLws_randomCpeUrl
              · exact lwsCreateVhost_randomCpeUrl.trans cwmpServerInitLws_randomCpeUrl

theorem randomCpeUrl_restart :
    (s.cwmpAppHttpServerRestart dm around).1.randomCpeUrl = none ∨
      (s.cwmpAppHttpServerRestart dm around).1.randomCpeUrl = some dm.connRequestPath :=
  randomCpeUrl_cwmpServerStart rfl

end HttpServer

end Tr069
