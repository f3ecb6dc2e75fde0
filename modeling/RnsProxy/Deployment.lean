import RnsProxy.OrderlyClose

/-!
# A client and a server on one link

A tunnel leaves out what the two programs do beside serving their link: the accept loops and the
reconnection of the client, the other links of the server. This file puts the client and the server
together, with a link between them that stays up, and shows that whatever they do, the link and its
two ends behave as a tunnel.
-/

namespace RnsProxy

/-- A client, a server, and how many packets the link has delivered to each of them. -/
structure Deployment where
  /-- The client. -/
  client : Client
  /-- The server. Its first multiplexer is the one for the link. -/
  server : Server
  /-- The number of packets delivered. -/
  delivered : Side → ℕ

/-- The steps of either program. -/
inductive DeploymentAct
  /-- The client acts. -/
  | client (act : ClientAct)
  /-- The server acts. -/
  | server (act : ServerAct)
  deriving DecidableEq

namespace Deployment

/-- The client and the server once the link is up. -/
def new (filterConfig : FilterConfig) (link : LinkId) (listeners : List Listener) : Deployment where
  client := Client.new link listeners
  server := (Server.new filterConfig).onEvent (.linkEstablished link false)
  delivered _ := 0

/-- The packets the other program has handed to the link. -/
def packets (deployment : Deployment) : Side → List (LinkId × Bytes)
  | .client => (deployment.server.muxes 0).mux.wire
  | .server => deployment.client.endpoint.mux.wire

/-- The packet is the next one the link has to deliver to a program. -/
def isNext (deployment : Deployment) (side : Side) (packet : Bytes) : Bool :=
  ((deployment.packets side)[deployment.delivered side]?.map Prod.snd) == some packet

/-- A link that stays up takes every packet, delivers the packets of either end in order, and is
reported neither closed nor established again. -/
def linkStaysUp (link : LinkId) (deployment : Deployment) : DeploymentAct → Bool
  | .client (.event (some (.linkData _ packet))) => deployment.isNext .client packet
  | .client (.sender act) => act != .sent false
  | .client (.linkDown _) => false
  | .client _ => true
  | .server (.event (.linkData via packet)) => via != link || deployment.isNext .server packet
  | .server (.event (.linkClosed via)) => via != link
  | .server (.event (.linkEstablished via _)) => via != link
  | .server (.sender muxId act) => muxId != 0 || act != .sent false
  | .server _ => true

/-- The program a step delivers a packet of the link to. -/
def receiver (link : LinkId) : DeploymentAct → Option Side
  | .client (.event (some (.linkData _ _))) => some .client
  | .server (.event (.linkData via _)) => if via = link then some .server else none
  | _ => none

/-- Count a delivered packet. -/
def count (delivered : Side → ℕ) : Option Side → Side → ℕ
  | some side => Function.update delivered side (delivered side + 1)
  | none => delivered

/-- One step of either program. -/
def step (linkMdu : ℕ+) (socks : FastSocks5) (link : LinkId) (deployment : Deployment)
    (act : DeploymentAct) : Option Deployment :=
  if deployment.linkStaysUp link act then
    let delivered := count deployment.delivered (receiver link act)
    match act with
    | .client clientAct =>
        (deployment.client.step linkMdu socks clientAct).map fun client =>
          { deployment with client, delivered }
    | .server serverAct =>
        (deployment.server.step linkMdu socks serverAct).map fun server =>
          { deployment with server, delivered }
  else none

/-- The tunnel a deployment contains. -/
structure Contains (linkMdu : ℕ+) (socks : FastSocks5) (link : LinkId) (deployment : Deployment)
    (tunnel : Tunnel) : Prop where
  /-- The filter is that of the server. -/
  filterConfig : tunnel.filterConfig = deployment.server.filterConfig
  /-- One end is the multiplexer of the client. -/
  client : tunnel.ends .client = deployment.client.endpoint
  /-- The other end is the server's multiplexer for the link. -/
  server : tunnel.ends .server = deployment.server.muxes 0
  /-- The same packets have been delivered. -/
  delivered : ∀ side, (tunnel.inbound side).delivered = deployment.delivered side
  /-- The dispatch task has the same frames to handle. -/
  dispatcher : deployment.client.dispatcher = .dispatching (tunnel.inbound .client).pending ∨
    (tunnel.inbound .client).pending = [] ∧
      (deployment.client.dispatcher = .receiving ∨ deployment.client.dispatcher = .stopped)
  /-- No link of the client has gone down. -/
  down : deployment.client.down = []
  /-- The event loop of the server has the same frames to handle. -/
  handling : deployment.server.handling = some (0, (tunnel.inbound .server).pending) ∨
    (tunnel.inbound .server).pending = [] ∧ ∀ frames, deployment.server.handling ≠ some (0, frames)
  /-- The multiplexer for the link is in the table of the server. -/
  table : deployment.server.linkMuxes link = some 0
  /-- The tables of the server agree. -/
  well : deployment.server.WellFormed linkMdu socks

variable {linkMdu : ℕ+} {socks : FastSocks5} {link : LinkId}

theorem contains_new (filterConfig : FilterConfig) (listeners : List Listener) :
    Contains linkMdu socks link (new filterConfig link listeners)
      (Tunnel.new filterConfig link) where
  filterConfig := rfl
  client := rfl
  server := by simp [Tunnel.new, new, Server.onEvent, Server.new]
  delivered _ := rfl
  dispatcher := .inr ⟨rfl, .inl rfl⟩
  down := rfl
  handling := .inr ⟨rfl, by simp [new, Server.onEvent, Server.new]⟩
  table := by simp [new, Server.onEvent, Server.new]
  well := (Server.wellFormed_new filterConfig).step (.established rfl)

section Client

variable {deployment : Deployment} {tunnel : Tunnel} {client : Client}

/-- The client's end of the tunnel acts. -/
theorem Contains.client_acts (contains : Contains linkMdu socks link deployment tunnel)
    (dispatcher : client.dispatcher = deployment.client.dispatcher)
    (down : client.down = deployment.client.down) :
    Contains linkMdu socks link { deployment with client }
      (tunnel.setEnd .client client.endpoint) :=
  { contains with
    client := by simp [Tunnel.setEnd]
    server := by simpa [Tunnel.setEnd] using contains.server
    dispatcher := by simpa [Tunnel.setEnd, dispatcher] using contains.dispatcher
    down := down.trans contains.down }

/-- A task of the client acts aside of the tunnel. -/
theorem Contains.client_aside (contains : Contains linkMdu socks link deployment tunnel)
    (endpoint : client.endpoint = deployment.client.endpoint)
    (dispatcher : client.dispatcher = deployment.client.dispatcher ∨
      (tunnel.inbound .client).pending = [] ∧
        (client.dispatcher = .receiving ∨ client.dispatcher = .stopped))
    (down : client.down = deployment.client.down) :
    Contains linkMdu socks link { deployment with client } tunnel :=
  { contains with
    client := contains.client.trans endpoint.symm
    dispatcher := by
      rcases dispatcher with same | idle
      · rw [same]
        exact contains.dispatcher
      · exact .inr idle
    down := down.trans contains.down }

/-- The packet a step delivers is the next one of the other program. -/
theorem Contains.arrives (contains : Contains linkMdu socks link deployment tunnel) {side : Side}
    {packet : Bytes} (next : deployment.isNext side packet = true) :
    ∃ via, (tunnel.ends side.peer).mux.wire[(tunnel.inbound side).delivered]? =
      some (via, packet) := by
  have wire : (tunnel.ends side.peer).mux.wire = deployment.packets side := by
    cases side with
    | client => exact congrArg (fun ep => ep.mux.wire) contains.server
    | server => exact congrArg (fun ep => ep.mux.wire) contains.client
  simpa [isNext, wire, contains.delivered, Option.map_eq_some_iff] using next

theorem Contains.delivered_of_handled (contains : Contains linkMdu socks link deployment tunnel)
    {side : Side} {pending handled : List Frame} (other : Side) :
    ((tunnel.setInbound side
        { tunnel.inbound side with pending, handled }).inbound other).delivered =
      deployment.delivered other := by
  rw [← contains.delivered]
  by_cases same : other = side
  · subst same
    simp [Tunnel.setInbound]
  · simp [Tunnel.setInbound, same]

theorem Contains.delivered_of_delivered (contains : Contains linkMdu socks link deployment tunnel)
    {side : Side} {pending : List Frame} {ep : Endpoint} (other : Side) :
    (((tunnel.setEnd side ep).setInbound side
      { tunnel.inbound side with
        delivered := (tunnel.inbound side).delivered + 1
        pending }).inbound other).delivered = count deployment.delivered (some side) other := by
  by_cases same : other = side
  · subst same
    simp [Tunnel.setEnd, Tunnel.setInbound, count, contains.delivered]
  · simp [Tunnel.setEnd, Tunnel.setInbound, count, same, contains.delivered]

/-- The dispatch task is given a packet. -/
theorem Contains.client_delivered (contains : Contains linkMdu socks link deployment tunnel)
    (packet : Bytes) :
    Contains linkMdu socks link
      { deployment with
        client :=
          { deployment.client with
            dispatcher := .dispatching (deployment.client.endpoint.mux.receiveData packet).1
            endpoint :=
              { tunnel.ends .client with mux := ((tunnel.ends .client).mux.receiveData packet).2 } }
        delivered := count deployment.delivered (some .client) }
      ((tunnel.setEnd .client
          { tunnel.ends .client with
            mux := ((tunnel.ends .client).mux.receiveData packet).2 }).setInbound .client
        { tunnel.inbound .client with
          delivered := (tunnel.inbound .client).delivered + 1
          pending := ((tunnel.ends .client).mux.receiveData packet).1 }) :=
  { contains with
    client := by simp [Tunnel.setEnd, Tunnel.setInbound]
    server := by simpa [Tunnel.setEnd, Tunnel.setInbound] using contains.server
    delivered := contains.delivered_of_delivered
    dispatcher := .inl (by simp [Tunnel.setEnd, Tunnel.setInbound, contains.client])
    handling := by simpa [Tunnel.setEnd, Tunnel.setInbound] using contains.handling }

theorem Contains.pending_of_dispatching (contains : Contains linkMdu socks link deployment tunnel)
    {frames : List Frame} (busy : deployment.client.dispatcher = .dispatching frames) :
    (tunnel.inbound .client).pending = frames := by
  rcases contains.dispatcher with same | ⟨_, other | other⟩
  · exact Dispatcher.dispatching.inj (same.symm.trans busy)
  · cases other.symm.trans busy
  · cases other.symm.trans busy

/-- The client is in its dispatch phase. -/
theorem Contains.dispatching (contains : Contains linkMdu socks link deployment tunnel) :
    deployment.client.control .reset = none ∧ deployment.client.control .setLinkId = none ∧
      ∀ outcome, deployment.client.control (.attempt outcome) = none := by
  rcases contains.dispatcher with state | ⟨_, state | state⟩ <;> simp [Client.control, state]

/-- The dispatch task takes an event only when it is done with the last packet. It hands a packet to
the multiplexer and leaves the multiplexer alone with any other event. -/
theorem Contains.onEvent_cases (contains : Contains linkMdu socks link deployment tunnel)
    {event : Option ProxyEvent} {dispatcher : Dispatcher} {endpointAct : Option EndpointAct}
    (arrives : deployment.client.mayArrive event = true)
    (reacted : deployment.client.onEvent event = some (dispatcher, endpointAct)) :
    (tunnel.inbound .client).pending = [] ∧
      ((∃ via packet, event = some (.linkData via packet) ∧
          dispatcher = .dispatching (deployment.client.endpoint.mux.receiveData packet).1 ∧
          endpointAct = some (.receive packet)) ∨
        receiver link (.client (.event event)) = none ∧
          (dispatcher = .receiving ∨ dispatcher = .stopped) ∧ endpointAct = none) := by
  rcases contains.dispatcher with busy | ⟨idle, receiving | stopped⟩
  · simp [Client.onEvent, busy] at reacted
  · refine ⟨idle, ?_⟩
    cases event with
    | none =>
        simp only [Client.onEvent, receiving, Option.some.injEq, Prod.mk.injEq] at reacted
        exact .inr ⟨rfl, .inr reacted.1.symm, reacted.2.symm⟩
    | some event =>
        cases event with
        | linkData via packet =>
            simp only [Client.onEvent, receiving, Option.some.injEq, Prod.mk.injEq] at reacted
            exact .inl ⟨via, packet, rfl, reacted.1.symm, reacted.2.symm⟩
        | linkClosed via => simp [Client.mayArrive, contains.down] at arrives
        | linkEstablished via isInitiator =>
            simp only [Client.onEvent, receiving, Option.some.injEq, Prod.mk.injEq] at reacted
            exact .inr ⟨rfl, .inl reacted.1.symm, reacted.2.symm⟩
        | pathUpdated =>
            simp only [Client.onEvent, receiving, Option.some.injEq, Prod.mk.injEq] at reacted
            exact .inr ⟨rfl, .inl reacted.1.symm, reacted.2.symm⟩
  · simp [Client.onEvent, stopped] at reacted

/-- A step of the client that leaves its multiplexer alone does not concern the tunnel. -/
theorem Contains.client_control (contains : Contains linkMdu socks link deployment tunnel)
    {act : ClientAct} (up : deployment.linkStaysUp link (.client act) = true)
    (controlled : deployment.client.control act = some (client, none)) :
    receiver link (.client act) = none ∧
      Contains linkMdu socks link { deployment with client } tunnel := by
  obtain ⟨no_reset, no_setLinkId, no_attempt⟩ := contains.dispatching
  cases act with
  | session chan act => cases controlled
  | sender act => cases controlled
  | accept loop =>
      simp only [Client.control] at controlled
      split at controlled <;> cases controlled
      exact ⟨rfl, contains.client_aside rfl (.inl rfl) rfl⟩
  | isConnected loop =>
      simp only [Client.control] at controlled
      split at controlled <;> cases controlled
      exact ⟨rfl, contains.client_aside rfl (.inl rfl) rfl⟩
  | nextSessionId loop =>
      simp only [Client.control] at controlled
      split at controlled <;> cases controlled
  | registerSession loop =>
      simp only [Client.control] at controlled
      split at controlled <;> cases controlled
  | event event =>
      simp only [Client.control, Option.ite_none_right_eq_some,
        Option.map_eq_some_iff] at controlled
      obtain ⟨arrives, ⟨dispatcher, reaction⟩, reacted, same⟩ := controlled
      cases same
      obtain ⟨idle, ⟨via, packet, _, _, taken_up⟩ | ⟨uncounted, goes_on, _⟩⟩ :=
        contains.onEvent_cases arrives reacted
      · cases taken_up
      · exact ⟨uncounted, contains.client_aside rfl (.inr ⟨idle, goes_on⟩) rfl⟩
  | dispatch =>
      simp only [Client.control] at controlled
      split at controlled
      · cases controlled
      · rename_i finished
        cases controlled
        refine ⟨rfl, contains.client_aside rfl (.inr ⟨?_, .inl rfl⟩) rfl⟩
        exact contains.pending_of_dispatching finished
      · cases controlled
  | reset => cases no_reset.symm.trans controlled
  | attempt outcome => cases (no_attempt outcome).symm.trans controlled
  | setLinkId => cases no_setLinkId.symm.trans controlled
  | linkDown via => cases up

/-- The dispatch task dispatches a frame. -/
theorem Contains.client_handled (contains : Contains linkMdu socks link deployment tunnel)
    {frame : Frame} {frames : List Frame} {endpoint : Endpoint}
    (busy : deployment.client.dispatcher = .dispatching (frame :: frames))
    (taken : (tunnel.ends .client).step linkMdu socks (.dispatch frame) = some endpoint) :
    ∃ later, tunnel.step linkMdu socks (.handle .client) = some later ∧
      Contains linkMdu socks link
        { deployment with
          client := { deployment.client with dispatcher := .dispatching frames, endpoint } }
        later := by
  have decoded := contains.pending_of_dispatching busy
  have handles : tunnel.step linkMdu socks (.handle .client) = some
      ((tunnel.setInbound .client
          { tunnel.inbound .client with
            pending := frames
            handled := (tunnel.inbound .client).handled ++ [frame] }).setEnd .client endpoint) := by
    simp [Tunnel.step, decoded, Side.reaction, taken]
  refine ⟨_, handles, ?_⟩
  exact
    { contains with
      client := by simp [Tunnel.setEnd]
      server := by simpa [Tunnel.setEnd, Tunnel.setInbound] using contains.server
      delivered := contains.delivered_of_handled
      dispatcher := .inl (by simp [Tunnel.setEnd, Tunnel.setInbound])
      handling := by simpa [Tunnel.setEnd, Tunnel.setInbound] using contains.handling }

/-- A step of the client on its multiplexer is a step of the tunnel. -/
theorem Contains.client_endpoint (contains : Contains linkMdu socks link deployment tunnel)
    {act : ClientAct} {endpointAct : EndpointAct} {endpoint : Endpoint}
    (up : deployment.linkStaysUp link (.client act) = true)
    (controlled : deployment.client.control act = some (client, some endpointAct))
    (taken : deployment.client.endpoint.step linkMdu socks endpointAct = some endpoint) :
    ∃ tunnelAct later, tunnel.step linkMdu socks tunnelAct = some later ∧
      Contains linkMdu socks link
        { deployment with
          client := { client with endpoint }
          delivered := count deployment.delivered (receiver link (.client act)) }
        later := by
  obtain ⟨no_reset, no_setLinkId, no_attempt⟩ := contains.dispatching
  rw [← contains.client] at taken
  cases act with
  | session chan act =>
      cases controlled
      exact ⟨.session .client chan act, _, by simp [Tunnel.step, taken],
        contains.client_acts rfl rfl⟩
  | sender act =>
      cases controlled
      have takes : act ≠ .sent false := by simpa [linkStaysUp] using up
      exact ⟨.sender .client act, _, by simp [Tunnel.step, taken, takes],
        contains.client_acts rfl rfl⟩
  | accept loop =>
      simp only [Client.control] at controlled
      split at controlled <;> cases controlled
  | isConnected loop =>
      simp only [Client.control] at controlled
      split at controlled <;> cases controlled
  | nextSessionId loop =>
      simp only [Client.control] at controlled
      split at controlled <;> cases controlled
      exact ⟨.nextSessionId, _, by simp [Tunnel.step, taken], contains.client_acts rfl rfl⟩
  | registerSession loop =>
      simp only [Client.control] at controlled
      split at controlled
      · rename_i listener sid _
        cases controlled
        exact ⟨.accept listener sid, _, by simp [Tunnel.step, taken], contains.client_acts rfl rfl⟩
      · cases controlled
  | event event =>
      simp only [Client.control, Option.ite_none_right_eq_some,
        Option.map_eq_some_iff] at controlled
      obtain ⟨arrives, ⟨dispatcher, reaction⟩, reacted, same⟩ := controlled
      cases same
      obtain ⟨idle, ⟨via, packet, rfl, rfl, received⟩ | ⟨_, _, nothing⟩⟩ :=
        contains.onEvent_cases arrives reacted
      · cases received
        cases taken
        obtain ⟨via', next⟩ := contains.arrives up
        exact ⟨.deliver .client, _, Tunnel.step_deliver idle next, contains.client_delivered packet⟩
      · cases nothing
  | dispatch =>
      simp only [Client.control] at controlled
      split at controlled
      · rename_i frame frames busy
        cases controlled
        exact ⟨.handle .client, contains.client_handled busy taken⟩
      · cases controlled
      · cases controlled
  | reset => cases no_reset.symm.trans controlled
  | attempt outcome => cases (no_attempt outcome).symm.trans controlled
  | setLinkId => cases no_setLinkId.symm.trans controlled
  | linkDown via => cases up

/-- Every step of the client is matched by the tunnel. -/
theorem Contains.client_step (contains : Contains linkMdu socks link deployment tunnel)
    {act : ClientAct} (up : deployment.linkStaysUp link (.client act) = true)
    (taken : deployment.client.step linkMdu socks act = some client) :
    ∃ later, Execution.Reachable (Tunnel.step linkMdu socks) tunnel later ∧
      Contains linkMdu socks link
        { deployment with
          client
          delivered := count deployment.delivered (receiver link (.client act)) }
        later := by
  cases Client.step_cases taken with
  | control controlled =>
      obtain ⟨uncounted, contained⟩ := contains.client_control up controlled
      rw [uncounted]
      exact ⟨tunnel, .refl tunnel, contained⟩
  | endpoint controlled stepped =>
      obtain ⟨tunnelAct, later, acts, contained⟩ := contains.client_endpoint up controlled stepped
      exact ⟨later, (Execution.Reachable.refl tunnel).tail acts, contained⟩

end Client

section Server

variable {deployment : Deployment} {tunnel : Tunnel} {server : Server}

/-- The multiplexer for the link has been created. -/
theorem Contains.linked (contains : Contains linkMdu socks link deployment tunnel) :
    deployment.server.linkOf 0 = link ∧ 0 < deployment.server.nextMux :=
  contains.well.table link 0 contains.table

/-- Another link has another multiplexer. -/
theorem Contains.ne_zero (contains : Contains linkMdu socks link deployment tunnel) {via : LinkId}
    {muxId : MuxId} (other : via ≠ link) (known : deployment.server.linkMuxes via = some muxId) :
    muxId ≠ 0 := by
  rintro rfl
  exact other ((contains.well.table via 0 known).1.symm.trans contains.linked.1)

/-- Another multiplexer of the server acts, or the table changes for another link. -/
theorem Contains.server_aside (contains : Contains linkMdu socks link deployment tunnel)
    (well : server.WellFormed linkMdu socks)
    (filterConfig : server.filterConfig = deployment.server.filterConfig)
    (mux : server.muxes 0 = deployment.server.muxes 0)
    (table : server.linkMuxes link = some 0)
    (handling : server.handling = deployment.server.handling ∨
      (tunnel.inbound .server).pending = [] ∧ ∀ frames, server.handling ≠ some (0, frames)) :
    Contains linkMdu socks link { deployment with server } tunnel :=
  { contains with
    filterConfig := contains.filterConfig.trans filterConfig.symm
    server := contains.server.trans mux.symm
    handling := by
      rcases handling with same | idle
      · rw [same]
        exact contains.handling
      · exact .inr idle
    table
    well }

/-- The server's end of the tunnel acts. -/
theorem Contains.server_acts (contains : Contains linkMdu socks link deployment tunnel)
    (well : server.WellFormed linkMdu socks)
    (filterConfig : server.filterConfig = deployment.server.filterConfig)
    (table : server.linkMuxes = deployment.server.linkMuxes)
    (handling : server.handling = deployment.server.handling) :
    Contains linkMdu socks link { deployment with server }
      (tunnel.setEnd .server (server.muxes 0)) :=
  { contains with
    filterConfig := contains.filterConfig.trans filterConfig.symm
    client := by simpa [Tunnel.setEnd] using contains.client
    server := by simp [Tunnel.setEnd]
    handling := by simpa [Tunnel.setEnd, handling] using contains.handling
    table := by simpa [table] using contains.table
    well }

theorem Contains.pending_of_handling (contains : Contains linkMdu socks link deployment tunnel)
    {frames : List Frame} (handling : deployment.server.handling = some (0, frames)) :
    (tunnel.inbound .server).pending = frames := by
  rcases contains.handling with same | ⟨_, other⟩
  · exact (Prod.mk.inj (Option.some.inj (same.symm.trans handling))).2
  · exact absurd handling (other frames)

theorem Contains.idle_of_handling (contains : Contains linkMdu socks link deployment tunnel)
    (other : ∀ frames, deployment.server.handling ≠ some (0, frames)) :
    (tunnel.inbound .server).pending = [] := by
  rcases contains.handling with same | ⟨idle, _⟩
  · exact absurd same (other _)
  · exact idle

/-- The event loop is given a packet of the link. -/
theorem Contains.server_delivered (contains : Contains linkMdu socks link deployment tunnel)
    {packet : Bytes} (idle : deployment.server.handling = none)
    (next : deployment.isNext .server packet = true)
    (well : Server.WellFormed linkMdu socks
      { deployment.server with
        muxes :=
          Function.update deployment.server.muxes 0
            { deployment.server.muxes 0 with
              mux := ((deployment.server.muxes 0).mux.receiveData packet).2 }
        handling := some (0, ((deployment.server.muxes 0).mux.receiveData packet).1) }) :
    ∃ later, tunnel.step linkMdu socks (.deliver .server) = some later ∧
      Contains linkMdu socks link
        { deployment with
          server :=
            { deployment.server with
              muxes :=
                Function.update deployment.server.muxes 0
                  { deployment.server.muxes 0 with
                    mux := ((deployment.server.muxes 0).mux.receiveData packet).2 }
              handling := some (0, ((deployment.server.muxes 0).mux.receiveData packet).1) }
          delivered := count deployment.delivered (some .server) }
        later := by
  obtain ⟨via, arrives⟩ := contains.arrives next
  have done := contains.idle_of_handling (by simp [idle])
  refine ⟨_, Tunnel.step_deliver done arrives, ?_⟩
  exact
    { contains with
      client := by simpa [Tunnel.setEnd, Tunnel.setInbound] using contains.client
      server := by simp [Tunnel.setEnd, Tunnel.setInbound, contains.server]
      delivered := contains.delivered_of_delivered
      dispatcher := by simpa [Tunnel.setEnd, Tunnel.setInbound] using contains.dispatcher
      handling := .inl (by simp [Tunnel.setEnd, Tunnel.setInbound, contains.server])
      well }

/-- The event loop handles a frame of the link. -/
theorem Contains.server_handled (contains : Contains linkMdu socks link deployment tunnel)
    {frame : Frame} {rest : List Frame} {act : EndpointAct} {ep : Endpoint}
    (handling : deployment.server.handling = some (0, frame :: rest))
    (reaction : Server.onFrame deployment.server.filterConfig frame = some act)
    (taken : (deployment.server.muxes 0).step linkMdu socks act = some ep)
    (well : Server.WellFormed linkMdu socks
      { deployment.server with
        muxes := Function.update deployment.server.muxes 0 ep
        handling := some (0, rest) }) :
    ∃ later, tunnel.step linkMdu socks (.handle .server) = some later ∧
      Contains linkMdu socks link
        { deployment with
          server :=
            { deployment.server with
              muxes := Function.update deployment.server.muxes 0 ep
              handling := some (0, rest) } }
        later := by
  have decoded := contains.pending_of_handling handling
  have handles : tunnel.step linkMdu socks (.handle .server) = some
      ((tunnel.setInbound .server
          { tunnel.inbound .server with
            pending := rest
            handled := (tunnel.inbound .server).handled ++ [frame] }).setEnd .server ep) := by
    simp [Tunnel.step, decoded, Side.reaction, contains.filterConfig, reaction, contains.server,
      taken]
  refine ⟨_, handles, ?_⟩
  exact
    { contains with
      client := by simpa [Tunnel.setEnd, Tunnel.setInbound] using contains.client
      server := by simp [Tunnel.setEnd]
      delivered := contains.delivered_of_handled
      dispatcher := by simpa [Tunnel.setEnd, Tunnel.setInbound] using contains.dispatcher
      handling := .inl (by simp [Tunnel.setEnd, Tunnel.setInbound])
      well }

/-- The event loop leaves out a frame of the link. -/
theorem Contains.server_skipped (contains : Contains linkMdu socks link deployment tunnel)
    {frame : Frame} {rest : List Frame}
    (handling : deployment.server.handling = some (0, frame :: rest))
    (reaction : Server.onFrame deployment.server.filterConfig frame = none)
    (well : Server.WellFormed linkMdu socks
      { deployment.server with handling := some (0, rest) }) :
    ∃ later, tunnel.step linkMdu socks (.handle .server) = some later ∧
      Contains linkMdu socks link
        { deployment with server := { deployment.server with handling := some (0, rest) } }
        later := by
  have decoded := contains.pending_of_handling handling
  have skips : tunnel.step linkMdu socks (.handle .server) = some
      (tunnel.setInbound .server
        { tunnel.inbound .server with
          pending := rest
          handled := (tunnel.inbound .server).handled ++ [frame] }) := by
    simp [Tunnel.step, decoded, Side.reaction, contains.filterConfig, reaction]
  refine ⟨_, skips, ?_⟩
  exact
    { contains with
      delivered := contains.delivered_of_handled
      dispatcher := by simpa [Tunnel.setInbound] using contains.dispatcher
      handling := .inl (by simp [Tunnel.setInbound])
      well }

/-- The multiplexer of another link acts. -/
theorem Contains.server_elsewhere (contains : Contains linkMdu socks link deployment tunnel)
    {muxId : MuxId} (other : muxId ≠ 0) {ep : Endpoint} {handling : Option (MuxId × List Frame)}
    (busy : handling = deployment.server.handling ∨
      (tunnel.inbound .server).pending = [] ∧ ∀ frames, handling ≠ some (0, frames))
    (well : Server.WellFormed linkMdu socks
      { deployment.server with
        muxes := Function.update deployment.server.muxes muxId ep
        handling }) :
    Contains linkMdu socks link
      { deployment with
        server :=
          { deployment.server with
            muxes := Function.update deployment.server.muxes muxId ep
            handling } }
      tunnel :=
  contains.server_aside well rfl (Function.update_of_ne other.symm _ _) contains.table busy

/-- The event loop stays with the multiplexer of another link. -/
theorem Contains.busy_elsewhere (contains : Contains linkMdu socks link deployment tunnel)
    {muxId : MuxId} (other : muxId ≠ 0) {frames : List Frame}
    (handling : deployment.server.handling = some (muxId, frames)) (rest : List Frame) :
    (tunnel.inbound .server).pending = [] ∧
      ∀ pending, some (muxId, rest) ≠ some ((0 : MuxId), pending) :=
  ⟨contains.idle_of_handling (by simp [handling, other]), by simp [other]⟩

theorem Contains.receiver_of_ignored (contains : Contains linkMdu socks link deployment tunnel)
    {event : ProxyEvent} (idle : deployment.server.handling = none)
    (same : deployment.server.onEvent event = deployment.server) :
    receiver link (.server (.event event)) = none := by
  cases event with
  | linkData via packet =>
      apply if_neg
      rintro rfl
      have busy := congrArg Server.handling same
      simp [Server.onEvent, contains.table, idle] at busy
  | _ => rfl

/-- Every step of the server is matched by the tunnel. -/
theorem Contains.server_step (contains : Contains linkMdu socks link deployment tunnel)
    {act : ServerAct} (up : deployment.linkStaysUp link (.server act) = true)
    (taken : deployment.server.step linkMdu socks act = some server) :
    ∃ later, Execution.Reachable (Tunnel.step linkMdu socks) tunnel later ∧
      Contains linkMdu socks link
        { deployment with
          server
          delivered := count deployment.delivered (receiver link (.server act)) }
        later := by
  have well := contains.well.step (Server.step_cases taken)
  have reached : Execution.Reachable (Tunnel.step linkMdu socks) tunnel tunnel := .refl tunnel
  cases Server.step_cases taken with
  | @established via idle =>
      have other : via ≠ link := by simpa [linkStaysUp] using up
      refine ⟨tunnel, reached, contains.server_aside well rfl ?_ ?_ (.inl rfl)⟩
      · exact Function.update_of_ne contains.linked.2.ne _ _
      · simpa [other.symm] using contains.table
  | @closed via idle =>
      have other : via ≠ link := by simpa [linkStaysUp] using up
      refine ⟨tunnel, reached, contains.server_aside well rfl rfl ?_ (.inl rfl)⟩
      simpa [other.symm] using contains.table
  | @data via packet muxId idle known =>
      by_cases same : via = link
      · subst same
        obtain rfl : 0 = muxId := Option.some.inj (contains.table.symm.trans known)
        have next : deployment.isNext .server packet = true := by simpa [linkStaysUp] using up
        have counted : receiver via (.server (.event (.linkData via packet))) = some .server :=
          if_pos rfl
        obtain ⟨later, delivers, contained⟩ := contains.server_delivered idle next well
        rw [counted]
        exact ⟨later, reached.tail delivers, contained⟩
      · have unlinked := contains.ne_zero same known
        have uncounted : receiver link (.server (.event (.linkData via packet))) = none :=
          if_neg same
        have done := contains.idle_of_handling (by simp [idle])
        rw [uncounted]
        exact ⟨tunnel, reached,
          contains.server_elsewhere unlinked (.inr ⟨done, by simp [unlinked]⟩) well⟩
  | ignored idle same =>
      rw [contains.receiver_of_ignored idle same]
      exact ⟨tunnel, reached, contains⟩
  | @frame muxId frame rest act ep handling reaction stepped =>
      by_cases same : muxId = 0
      · subst same
        obtain ⟨later, handles, contained⟩ :=
          contains.server_handled handling reaction stepped well
        exact ⟨later, reached.tail handles, contained⟩
      · exact ⟨tunnel, reached,
          contains.server_elsewhere same (.inr (contains.busy_elsewhere same handling rest)) well⟩
  | @skipped muxId frame rest handling reaction =>
      by_cases same : muxId = 0
      · subst same
        obtain ⟨later, skips, contained⟩ := contains.server_skipped handling reaction well
        exact ⟨later, reached.tail skips, contained⟩
      · exact ⟨tunnel, reached, contains.server_aside well rfl rfl contains.table
          (.inr (contains.busy_elsewhere same handling rest))⟩
  | @handled muxId handling =>
      refine ⟨tunnel, reached,
        contains.server_aside well rfl rfl contains.table (.inr ⟨?_, by simp⟩)⟩
      by_cases same : muxId = 0
      · subst same
        exact contains.pending_of_handling handling
      · exact contains.idle_of_handling (by simp [handling, same])
  | @session muxId chan act ep stepped =>
      by_cases same : muxId = 0
      · subst same
        have held : deployment.server.held 0 = true := by
          simp [Server.held, contains.linked.1, contains.table]
        rw [held, ← contains.server] at stepped
        have acts : tunnel.step linkMdu socks (.session .server chan act) =
            some (tunnel.setEnd .server ep) := by
          simp [Tunnel.step, stepped]
        refine ⟨_, reached.tail acts, ?_⟩
        simpa [receiver, count] using contains.server_acts well rfl rfl rfl
      · exact ⟨tunnel, reached, contains.server_elsewhere same (.inl rfl) well⟩
  | @sender muxId act ep stepped =>
      by_cases same : muxId = 0
      · subst same
        have takes : act ≠ .sent false := by simpa [linkStaysUp] using up
        rw [← contains.server] at stepped
        have acts : tunnel.step linkMdu socks (.sender .server act) =
            some (tunnel.setEnd .server ep) := by
          simp [Tunnel.step, stepped, takes]
        refine ⟨_, reached.tail acts, ?_⟩
        simpa [receiver, count] using contains.server_acts well rfl rfl rfl
      · exact ⟨tunnel, reached, contains.server_elsewhere same (.inl rfl) well⟩

end Server

/-- Whatever the client and the server do while their link stays up, the link and its two ends have
been reached by the steps of a tunnel. -/
theorem contains_of_reachable {filterConfig : FilterConfig} {listeners : List Listener}
    {deployment : Deployment}
    (reachable : Execution.Reachable (step linkMdu socks link) (new filterConfig link listeners)
      deployment) :
    ∃ tunnel,
      Execution.Reachable (Tunnel.step linkMdu socks) (Tunnel.new filterConfig link) tunnel ∧
      Contains linkMdu socks link deployment tunnel := by
  refine reachable.simulate ?_ (contains_new filterConfig listeners)
  intro before act after tunnel contains taken
  simp only [step, Option.ite_none_right_eq_some] at taken
  obtain ⟨up, taken⟩ := taken
  cases act with
  | client clientAct =>
      obtain ⟨client, stepped, rfl⟩ := Option.map_eq_some_iff.mp taken
      exact contains.client_step up stepped
  | server serverAct =>
      obtain ⟨server, stepped, rfl⟩ := Option.map_eq_some_iff.mp taken
      exact contains.server_step up stepped

end Deployment

end RnsProxy
