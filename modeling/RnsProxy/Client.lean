import RnsProxy.Bookkeeping

/-!
# The client

The client has one multiplexer. Accept loops, one for the SOCKS5 listener or one for each forwarded
port, register a session for every connection they accept; the dispatch task feeds the packets of
the link to the multiplexer and, when the link is lost, resets it and establishes another. Every
point at which one of these tasks may be suspended is a step of its own, since any other task may
act there.
-/

namespace RnsProxy

/-- What an accept loop listens for. -/
inductive Listener
  /-- `run_sockets_proxy_handling`. -/
  | socks
  /-- `tcp_tunnel`. -/
  | forwardedTcp (serverPort : UInt16)
  /-- `udp_tunnel`. -/
  | forwardedUdp (serverPort : UInt16)
  deriving DecidableEq, Repr

/-- The session task an accept loop spawns. -/
def Listener.start : Listener → Start
  | socks => .socks
  | forwardedTcp serverPort => .forwardedTcp serverPort
  | forwardedUdp serverPort => .forwardedUdp serverPort

/-- Where an accept loop stands. -/
inductive AcceptStage
  /-- In `listener.accept()`. -/
  | accepting
  /-- In `mux.is_connected()`. -/
  | checking
  /-- In `mux.next_session_id()`. -/
  | numbering
  /-- In `mux.register_session(sid)`, after which the session task is spawned. -/
  | registering (sid : UInt32)
  deriving DecidableEq, Repr

/-- An accept loop. -/
structure AcceptLoop where
  /-- What it listens for. -/
  listener : Listener
  /-- Where it stands. -/
  stage : AcceptStage
  deriving DecidableEq, Repr

/-- Where the task of `dispatch_and_reconnect` stands. -/
inductive Dispatcher
  /-- In `rx.recv()` of the dispatch phase. -/
  | receiving
  /-- In `mux.dispatch(frame)`, with the frames still to be dispatched. -/
  | dispatching (frames : List Frame)
  /-- In `mux.reset()`, before the first lock. -/
  | resettingLinkId
  /-- In `mux.reset()`, before the second lock. -/
  | resettingSessions
  /-- In `mux.reset()`, before the third lock. -/
  | resettingRecvBuf
  /-- Between two attempts to reconnect, with the delay in seconds. -/
  | reconnecting (delay : ℕ)
  /-- In `rx.recv()` of `establish_link`. -/
  | establishing (link : LinkId) (delay : ℕ)
  /-- In `mux.set_link_id(link)`. -/
  | connecting (link : LinkId)
  /-- The event channel was closed. -/
  | stopped
  deriving DecidableEq, Repr

/-- What becomes of an attempt to reconnect. -/
inductive Attempt
  /-- `ensure_path` returns false. -/
  | pathNotFound
  /-- `recall_sig_pub` returns nothing. -/
  | identityUnknown
  /-- `create_link` fails. -/
  | createFailed
  /-- `create_link` returns a link. -/
  | created (link : LinkId)
  deriving DecidableEq, Repr

/-- The state of the client. -/
structure Client where
  /-- The multiplexer with its session tasks. -/
  endpoint : Endpoint
  /-- The accept loops. -/
  loops : List AcceptLoop
  /-- The dispatch task. -/
  dispatcher : Dispatcher
  /-- History: the links that have gone down. -/
  down : List LinkId

/-- The steps of the client. -/
inductive ClientAct
  /-- A session task acts. -/
  | session (chan : ChanId) (act : TaskAct)
  /-- The link sender acts. -/
  | sender (act : Mux.SenderAct)
  /-- `listener.accept()` returns a connection. -/
  | accept (loop : ℕ)
  /-- `mux.is_connected()` returns. -/
  | isConnected (loop : ℕ)
  /-- `mux.next_session_id()` returns. -/
  | nextSessionId (loop : ℕ)
  /-- `mux.register_session(sid)` returns and the session task is spawned. -/
  | registerSession (loop : ℕ)
  /-- `rx.recv()` returns an event, or nothing. -/
  | event (event : Option ProxyEvent)
  /-- `mux.dispatch(frame)` returns, or all frames of a packet are dispatched. -/
  | dispatch
  /-- `mux.reset()` takes its next lock. -/
  | reset
  /-- An attempt to reconnect gets as far as `create_link`. -/
  | attempt (outcome : Attempt)
  /-- `mux.set_link_id(link)` returns. -/
  | setLinkId
  /-- A link goes down. -/
  | linkDown (link : LinkId)
  deriving DecidableEq

namespace Client

/-- The client with its first link established. -/
def new (link : LinkId) (listeners : List Listener) : Client where
  endpoint := { Endpoint.new with mux := Mux.new.setLinkId link }
  loops := listeners.map fun listener => { listener, stage := .accepting }
  dispatcher := .receiving
  down := []

/-- Move an accept loop on. -/
def setStage (client : Client) (loop : ℕ) (listener : Listener) (stage : AcceptStage) : Client :=
  { client with loops := client.loops.set loop { listener, stage } }

/-- The delay after an attempt that did not get as far as `create_link`. -/
def retryDelay (delay : ℕ) : ℕ := min (delay * 2) 30

/-- The delay after a link could not be established. -/
def failedDelay (delay : ℕ) : ℕ := min (delay * 2 + 1) 30

/-- What the dispatch task does with an event: where it goes, and what it does to the
multiplexer. -/
def onEvent (client : Client) (event : Option ProxyEvent) :
    Option (Dispatcher × Option EndpointAct) :=
  match client.dispatcher, event with
  | .receiving, some (.linkData _ data) =>
      some (.dispatching (client.endpoint.mux.receiveData data).1, some (.receive data))
  | .receiving, some (.linkClosed _) => some (.resettingLinkId, none)
  | .receiving, some _ => some (.receiving, none)
  | .receiving, none => some (.stopped, none)
  | .establishing link delay, some (.linkEstablished established isInitiator) =>
      if established = link ∧ isInitiator = true then some (.connecting link, none)
      else some (.establishing link delay, none)
  | .establishing link delay, some (.linkClosed closed) =>
      if closed = link then some (.reconnecting (failedDelay delay), none)
      else some (.establishing link delay, none)
  | .establishing link delay, some _ => some (.establishing link delay, none)
  | .establishing _ delay, none => some (.reconnecting (failedDelay delay), none)
  | _, _ => none

/-- The node reports that a link is closed only after the link has gone down. -/
def mayArrive (client : Client) : Option ProxyEvent → Bool
  | some (.linkClosed link) => client.down.contains link
  | _ => true

/-- What a task of the client does in one step: where it goes, and what it does to the
multiplexer. -/
def control (client : Client) : ClientAct → Option (Client × Option EndpointAct)
  | .session chan act => some (client, some (.session true chan act))
  | .sender act => some (client, some (.sender act))
  | .accept loop =>
      match client.loops[loop]? with
      | some ⟨listener, .accepting⟩ => some (client.setStage loop listener .checking, none)
      | _ => none
  | .isConnected loop =>
      match client.loops[loop]? with
      | some ⟨listener, .checking⟩ =>
          let stage := if client.endpoint.mux.isConnected then .numbering else .accepting
          some (client.setStage loop listener stage, none)
      | _ => none
  | .nextSessionId loop =>
      match client.loops[loop]? with
      | some ⟨listener, .numbering⟩ =>
          let sid := client.endpoint.mux.nextSessionId.1
          some (client.setStage loop listener (.registering sid), some .nextSessionId)
      | _ => none
  | .registerSession loop =>
      match client.loops[loop]? with
      | some ⟨listener, .registering sid⟩ =>
          some (client.setStage loop listener .accepting, some (.spawn listener.start sid))
      | _ => none
  | .event event =>
      if client.mayArrive event then
        (client.onEvent event).map fun reaction =>
          ({ client with dispatcher := reaction.1 }, reaction.2)
      else none
  | .dispatch =>
      match client.dispatcher with
      | .dispatching (frame :: frames) =>
          some ({ client with dispatcher := .dispatching frames }, some (.dispatch frame))
      | .dispatching [] => some ({ client with dispatcher := .receiving }, none)
      | _ => none
  | .reset =>
      match client.dispatcher with
      | .resettingLinkId =>
          some ({ client with dispatcher := .resettingSessions }, some .resetLinkId)
      | .resettingSessions =>
          some ({ client with dispatcher := .resettingRecvBuf }, some .resetSessions)
      | .resettingRecvBuf =>
          some ({ client with dispatcher := .reconnecting 0 }, some .resetRecvBuf)
      | _ => none
  | .attempt outcome =>
      match client.dispatcher with
      | .reconnecting delay =>
          let dispatcher :=
            match outcome with
            | .pathNotFound => .reconnecting (retryDelay delay)
            | .identityUnknown => .reconnecting (retryDelay delay)
            | .createFailed => .reconnecting (failedDelay delay)
            | .created link => .establishing link delay
          some ({ client with dispatcher }, none)
      | _ => none
  | .setLinkId =>
      match client.dispatcher with
      | .connecting link =>
          some ({ client with dispatcher := .receiving }, some (.setLinkId link))
      | _ => none
  | .linkDown link => some ({ client with down := client.down ++ [link] }, none)

/-- One step of the client. -/
def step (linkMdu : ℕ+) (socks : FastSocks5) (client : Client) (act : ClientAct) : Option Client :=
  match client.control act with
  | some (next, some endpointAct) =>
      (client.endpoint.step linkMdu socks endpointAct).map fun endpoint => { next with endpoint }
  | some (next, none) => some next
  | none => none

/-! ## What each step can do -/

/-- What a step of the client does to its multiplexer, and which steps those are. -/
structure Controls (client : Client) (act : ClientAct) (next : Client)
    (endpointAct : Option EndpointAct) : Prop where
  /-- The task that acts leaves the rest to the multiplexer. -/
  endpoint : next.endpoint = client.endpoint
  /-- Links that are down stay down. -/
  down : ∀ link ∈ client.down, link ∈ next.down
  /-- The session tasks act on their own. -/
  session : ∀ held chan taskAct, endpointAct = some (.session held chan taskAct) ↔
    act = .session chan taskAct ∧ held = true
  /-- The accept loops spawn the session tasks. -/
  spawn : ∀ start sid, endpointAct = some (.spawn start sid) →
    ∃ listener : Listener, start = listener.start

/-- The only thing an event does to the multiplexer is to hand it a packet. -/
theorem onEvent_receives {client : Client} {event : Option ProxyEvent} {dispatcher : Dispatcher}
    {endpointAct : Option EndpointAct}
    (reacted : client.onEvent event = some (dispatcher, endpointAct)) :
    ∀ act, endpointAct = some act → ∃ data, act = .receive data := by
  rintro act rfl
  simp only [onEvent] at reacted
  split at reacted
  · cases reacted
    exact ⟨_, rfl⟩
  all_goals try split_ifs at reacted
  all_goals cases reacted

theorem control_cases {client next : Client} {act : ClientAct} {endpointAct : Option EndpointAct}
    (controlled : client.control act = some (next, endpointAct)) :
    Controls client act next endpointAct := by
  cases act with
  | session chan act =>
      cases controlled
      exact ⟨rfl, fun _ member => member, by simp [and_comm, eq_comm], by simp⟩
  | sender act =>
      cases controlled
      exact ⟨rfl, fun _ member => member, by simp, by simp⟩
  | accept loop =>
      simp only [control] at controlled
      split at controlled <;> cases controlled
      exact ⟨rfl, fun _ member => member, by simp, by simp⟩
  | isConnected loop =>
      simp only [control] at controlled
      split at controlled <;> cases controlled
      exact ⟨rfl, fun _ member => member, by simp, by simp⟩
  | nextSessionId loop =>
      simp only [control] at controlled
      split at controlled <;> cases controlled
      exact ⟨rfl, fun _ member => member, by simp, by simp⟩
  | registerSession loop =>
      simp only [control] at controlled
      split at controlled <;> cases controlled
      exact ⟨rfl, fun _ member => member, by simp, by simp +contextual [eq_comm]⟩
  | event event =>
      simp only [control, Option.ite_none_right_eq_some, Option.map_eq_some_iff] at controlled
      obtain ⟨_, ⟨dispatcher, reaction⟩, reacted, same⟩ := controlled
      cases same
      have received := onEvent_receives reacted
      refine ⟨rfl, fun _ member => member, ?_, ?_⟩
      · intro held chan taskAct
        constructor
        · intro same
          obtain ⟨_, impossible⟩ := received _ same
          cases impossible
        · simp
      · intro start sid same
        obtain ⟨_, impossible⟩ := received _ same
        cases impossible
  | dispatch =>
      simp only [control] at controlled
      split at controlled <;> cases controlled <;>
        exact ⟨rfl, fun _ member => member, by simp, by simp⟩
  | reset =>
      simp only [control] at controlled
      split at controlled <;> cases controlled <;>
        exact ⟨rfl, fun _ member => member, by simp, by simp⟩
  | attempt outcome =>
      simp only [control] at controlled
      split at controlled <;> cases controlled
      exact ⟨rfl, fun _ member => member, by simp, by simp⟩
  | setLinkId =>
      simp only [control] at controlled
      split at controlled <;> cases controlled
      exact ⟨rfl, fun _ member => member, by simp, by simp⟩
  | linkDown link =>
      cases controlled
      exact ⟨rfl, fun _ member => List.mem_append_left _ member, by simp, by simp⟩

/-- The steps of the client: those of one task alone, and those that act on the multiplexer. -/
inductive Step (linkMdu : ℕ+) (socks : FastSocks5) (client : Client) (act : ClientAct) :
    Client → Prop
  | control {next} (controlled : client.control act = some (next, none)) :
      Step linkMdu socks client act next
  | endpoint {next endpointAct endpoint}
      (controlled : client.control act = some (next, some endpointAct))
      (taken : client.endpoint.step linkMdu socks endpointAct = some endpoint) :
      Step linkMdu socks client act { next with endpoint }

theorem step_cases {linkMdu : ℕ+} {socks : FastSocks5} {client next : Client} {act : ClientAct}
    (taken : client.step linkMdu socks act = some next) : Step linkMdu socks client act next := by
  rw [step] at taken
  split at taken
  · obtain ⟨endpoint, stepped, rfl⟩ := Option.map_eq_some_iff.mp taken
    exact .endpoint ‹_› stepped
  · cases taken
    exact .control ‹_›
  · cases taken

/-! ## What holds in every run -/

section Steps

variable {linkMdu : ℕ+} {socks : FastSocks5} {client next : Client} {act : ClientAct}

theorem wellFormed_new (link : LinkId) (listeners : List Listener) :
    (new link listeners).endpoint.WellFormed :=
  Endpoint.wellFormed_new.of_tasks_eq rfl (fun _ _ found => found) (List.append_nil _).symm
    (by simp)

/-- A run of the client is a run of its endpoint. -/
theorem endpoint_reachable {link : LinkId} {listeners : List Listener}
    (reachable : Execution.Reachable (step linkMdu socks) (new link listeners) client) :
    Execution.Reachable (Endpoint.step linkMdu socks) Endpoint.new client.endpoint := by
  have kept : ∀ before act after,
      Execution.Reachable (Endpoint.step linkMdu socks) Endpoint.new (endpoint before) →
      step linkMdu socks before act = some after →
      Execution.Reachable (Endpoint.step linkMdu socks) Endpoint.new (endpoint after) := by
    intro before act after reached taken
    cases step_cases taken with
    | control controlled =>
        rw [(control_cases controlled).endpoint]
        exact reached
    | endpoint _ stepped => exact reached.tail stepped
  refine reachable.invariant ?_ kept
  exact (Execution.Reachable.refl Endpoint.new).tail
    (rfl : Endpoint.step linkMdu socks Endpoint.new (.setLinkId link) = some _)

end Steps

end Client

end RnsProxy
