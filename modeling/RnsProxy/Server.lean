import RnsProxy.Bookkeeping

/-!
# The server

The server keeps a multiplexer for each link. Its event loop creates one when a link comes up,
forgets it when the link goes down, and feeds it the packets in between; the handle it takes out of
the table while it works through the frames of a packet is a clone of its own. Every session task
holds a clone as well, so that a multiplexer lives until the last of them is gone.
-/

namespace RnsProxy

/-- A multiplexer, numbered in the order of creation. -/
abbrev MuxId := ℕ

/-- The state of `run_server` and of the session tasks it has spawned. -/
structure Server where
  /-- The configuration of the filter. -/
  filterConfig : FilterConfig
  /-- The table of multiplexers. -/
  linkMuxes : LinkId → Option MuxId
  /-- The multiplexers with their session tasks. -/
  muxes : MuxId → Endpoint
  /-- The number of multiplexers created so far. -/
  nextMux : MuxId
  /-- The multiplexer the event loop is working for, with the frames still to be handled. -/
  handling : Option (MuxId × List Frame)
  /-- History: the link each multiplexer was created for. -/
  linkOf : MuxId → LinkId
  /-- History: the multiplexers removed because their link was closed. -/
  closed : List MuxId

/-- The steps of the server. -/
inductive ServerAct
  /-- The event loop receives an event. -/
  | event (event : ProxyEvent)
  /-- The event loop handles the next frame of a packet, or is done with the packet. -/
  | frame
  /-- A session task acts. -/
  | session (muxId : MuxId) (chan : ChanId) (act : TaskAct)
  /-- A link sender acts. -/
  | sender (muxId : MuxId) (act : Mux.SenderAct)
  deriving DecidableEq

namespace Server

/-- The server as the event loop is entered. -/
def new (filterConfig : FilterConfig) : Server where
  filterConfig := filterConfig
  linkMuxes := fun _ => none
  muxes := fun _ => Endpoint.new
  nextMux := 0
  handling := none
  linkOf := fun _ => 0
  closed := []

/-- The event loop has a clone of a multiplexer in its hand. -/
def handles (server : Server) (muxId : MuxId) : Bool :=
  match server.handling with
  | some (handled, _) => handled == muxId
  | none => false

/-- Some session task has a clone of a multiplexer. -/
def tasksHold (ep : Endpoint) : Bool :=
  (List.range ep.mux.nextChan).any fun chan => (ep.tasks chan).any Task.holdsMux

/-- Some clone of a multiplexer is alive: in the table, in the hand of the event loop, or in a
session task. -/
def held (server : Server) (muxId : MuxId) : Bool :=
  server.linkMuxes (server.linkOf muxId) == some muxId || server.handles muxId ||
    tasksHold (server.muxes muxId)

/-- What the event loop does with an event. -/
def onEvent (server : Server) : ProxyEvent → Server
  | .linkEstablished link isInitiator =>
      if isInitiator then server
      else
        { server with
          linkMuxes := Function.update server.linkMuxes link (some server.nextMux)
          muxes :=
            Function.update server.muxes server.nextMux
              { Endpoint.new with mux := Mux.new.setLinkId link }
          nextMux := server.nextMux + 1
          linkOf := Function.update server.linkOf server.nextMux link }
  | .linkClosed link =>
      { server with
        linkMuxes := Function.update server.linkMuxes link none
        closed := server.closed ++ (server.linkMuxes link).toList }
  | .linkData link data =>
      match server.linkMuxes link with
      | none => server
      | some muxId =>
          let received := (server.muxes muxId).mux.receiveData data
          { server with
            muxes :=
              Function.update server.muxes muxId { server.muxes muxId with mux := received.2 }
            handling := some (muxId, received.1) }
  | .pathUpdated => server

/-- What the event loop does with a frame. -/
def onFrame (filterConfig : FilterConfig) (frame : Frame) : Option EndpointAct :=
  match frame.frameType with
  | .connect =>
      match decodeConnectPayload frame.payload with
      | some (host, port, udp) =>
          let addr := TargetAddr.domain host port
          let start := if udp then .serverUdp filterConfig else .serverTcp addr filterConfig
          some (.spawn start frame.sessionId)
      | none => some (.refuse frame.sessionId)
  | .data => some (.dispatch frame)
  | .close => some (.dispatch frame)
  | _ => none

/-- One step of the server. -/
def step (linkMdu : ℕ+) (socks : FastSocks5) (server : Server) : ServerAct → Option Server
  | .event event =>
      match server.handling with
      | none => some (server.onEvent event)
      | some _ => none
  | .frame =>
      match server.handling with
      | some (muxId, frame :: rest) =>
          match onFrame server.filterConfig frame with
          | some act =>
              ((server.muxes muxId).step linkMdu socks act).map fun ep =>
                { server with
                  muxes := Function.update server.muxes muxId ep
                  handling := some (muxId, rest) }
          | none => some { server with handling := some (muxId, rest) }
      | some (_, []) => some { server with handling := none }
      | none => none
  | .session muxId chan act =>
      ((server.muxes muxId).step linkMdu socks (.session (server.held muxId) chan act)).map
        fun ep => { server with muxes := Function.update server.muxes muxId ep }
  | .sender muxId act =>
      ((server.muxes muxId).step linkMdu socks (.sender act)).map
        fun ep => { server with muxes := Function.update server.muxes muxId ep }

/-! ## What each step can do -/

/-- The steps of the server, each with its guard and its effect. -/
inductive Step (linkMdu : ℕ+) (socks : FastSocks5) (server : Server) : ServerAct → Server → Prop
  | established {link} (idle : server.handling = none) :
      Step linkMdu socks server (.event (.linkEstablished link false))
        { server with
          linkMuxes := Function.update server.linkMuxes link (some server.nextMux)
          muxes :=
            Function.update server.muxes server.nextMux
              { Endpoint.new with mux := Mux.new.setLinkId link }
          nextMux := server.nextMux + 1
          linkOf := Function.update server.linkOf server.nextMux link }
  | closed {link} (idle : server.handling = none) :
      Step linkMdu socks server (.event (.linkClosed link))
        { server with
          linkMuxes := Function.update server.linkMuxes link none
          closed := server.closed ++ (server.linkMuxes link).toList }
  | data {link data muxId} (idle : server.handling = none)
      (known : server.linkMuxes link = some muxId) :
      Step linkMdu socks server (.event (.linkData link data))
        { server with
          muxes :=
            Function.update server.muxes muxId
              { server.muxes muxId with mux := ((server.muxes muxId).mux.receiveData data).2 }
          handling := some (muxId, ((server.muxes muxId).mux.receiveData data).1) }
  | ignored {event} (idle : server.handling = none) (same : server.onEvent event = server) :
      Step linkMdu socks server (.event event) server
  | frame {muxId frame rest act ep} (handling : server.handling = some (muxId, frame :: rest))
      (reaction : onFrame server.filterConfig frame = some act)
      (taken : (server.muxes muxId).step linkMdu socks act = some ep) :
      Step linkMdu socks server .frame
        { server with
          muxes := Function.update server.muxes muxId ep
          handling := some (muxId, rest) }
  | skipped {muxId frame rest} (handling : server.handling = some (muxId, frame :: rest))
      (reaction : onFrame server.filterConfig frame = none) :
      Step linkMdu socks server .frame { server with handling := some (muxId, rest) }
  | handled {muxId} (handling : server.handling = some (muxId, [])) :
      Step linkMdu socks server .frame { server with handling := none }
  | session {muxId chan act ep}
      (taken : (server.muxes muxId).step linkMdu socks
        (.session (server.held muxId) chan act) = some ep) :
      Step linkMdu socks server (.session muxId chan act)
        { server with muxes := Function.update server.muxes muxId ep }
  | sender {muxId act ep}
      (taken : (server.muxes muxId).step linkMdu socks (.sender act) = some ep) :
      Step linkMdu socks server (.sender muxId act)
        { server with muxes := Function.update server.muxes muxId ep }

theorem step_cases {linkMdu : ℕ+} {socks : FastSocks5} {server next : Server} {act : ServerAct}
    (taken : server.step linkMdu socks act = some next) : Step linkMdu socks server act next := by
  cases act with
  | event event =>
      simp only [step] at taken
      split at taken
      · rename_i idle
        obtain rfl := Option.some.inj taken
        cases event with
        | linkEstablished link isInitiator =>
            cases isInitiator with
            | false => exact .established idle
            | true => exact .ignored idle rfl
        | linkClosed link => exact .closed idle
        | linkData link data =>
            cases known : server.linkMuxes link with
            | none =>
                have same : server.onEvent (.linkData link data) = server := by
                  simp [onEvent, known]
                rw [same]
                exact .ignored idle same
            | some muxId =>
                simp only [onEvent, known]
                exact .data idle known
        | pathUpdated => exact .ignored idle rfl
      · cases taken
  | frame =>
      simp only [step] at taken
      split at taken
      · split at taken
        · obtain ⟨ep, stepped, rfl⟩ := Option.map_eq_some_iff.mp taken
          exact .frame ‹_› ‹_› stepped
        · cases taken
          exact .skipped ‹_› ‹_›
      · cases taken
        exact .handled ‹_›
      · cases taken
  | session muxId chan act =>
      obtain ⟨ep, stepped, rfl⟩ := Option.map_eq_some_iff.mp taken
      exact .session stepped
  | sender muxId act =>
      obtain ⟨ep, stepped, rfl⟩ := Option.map_eq_some_iff.mp taken
      exact .sender stepped

theorem onFrame_cases {filterConfig : FilterConfig} {frame : Frame} {act : EndpointAct}
    (reaction : onFrame filterConfig frame = some act) :
    (∃ start, act = .spawn start frame.sessionId ∧
      ((∃ host port, start = .serverTcp (.domain host port) filterConfig) ∨
        start = .serverUdp filterConfig)) ∨
      act = .refuse frame.sessionId ∨ act = .dispatch frame := by
  rw [onFrame] at reaction
  split at reaction
  · split at reaction
    · rename_i host port udp _
      cases reaction
      cases udp with
      | false => exact .inl ⟨_, rfl, .inl ⟨host, port, rfl⟩⟩
      | true => exact .inl ⟨_, rfl, .inr rfl⟩
    · cases reaction
      exact .inr (.inl rfl)
  · cases reaction
    exact .inr (.inr rfl)
  · cases reaction
    exact .inr (.inr rfl)
  · cases reaction

/-! ## What holds in every run -/

/-- The tables of the server agree, and every multiplexer is an endpoint in some state of a run. -/
structure WellFormed (linkMdu : ℕ+) (socks : FastSocks5) (server : Server) : Prop where
  /-- Every multiplexer has been reached by the steps of an endpoint. -/
  endpoint : ∀ muxId, Execution.Reachable (Endpoint.step linkMdu socks) Endpoint.new
    (server.muxes muxId)
  /-- No multiplexer is used before it is created. -/
  unused : ∀ muxId, server.nextMux ≤ muxId → server.muxes muxId = Endpoint.new
  /-- The table holds each multiplexer under the link it was created for. -/
  table : ∀ link muxId, server.linkMuxes link = some muxId →
    server.linkOf muxId = link ∧ muxId < server.nextMux
  /-- The event loop works for a multiplexer in the table. -/
  handling : ∀ muxId frames, server.handling = some (muxId, frames) →
    server.linkMuxes (server.linkOf muxId) = some muxId
  /-- A removed multiplexer is not in the table. -/
  closed : ∀ muxId ∈ server.closed,
    muxId < server.nextMux ∧ server.linkMuxes (server.linkOf muxId) ≠ some muxId

section Steps

variable {linkMdu : ℕ+} {socks : FastSocks5} {server next : Server} {act : ServerAct}

theorem wellFormed_new (filterConfig : FilterConfig) :
    WellFormed linkMdu socks (new filterConfig) where
  endpoint _ := .refl _
  unused _ _ := rfl
  table link muxId found := by simp [new] at found
  handling muxId frames found := by simp [new] at found
  closed muxId member := by simp [new] at member

theorem WellFormed.update (well : WellFormed linkMdu socks server) {muxId : MuxId}
    {act : EndpointAct} {ep : Endpoint}
    (taken : (server.muxes muxId).step linkMdu socks act = some ep)
    (used : muxId < server.nextMux) {handling : Option (MuxId × List Frame)}
    (handled : ∀ other frames, handling = some (other, frames) →
      server.linkMuxes (server.linkOf other) = some other) :
    WellFormed linkMdu socks
      { server with muxes := Function.update server.muxes muxId ep, handling } where
  endpoint := (Function.forall_update_iff server.muxes _).mpr
    ⟨(well.endpoint muxId).tail taken, fun other _ => well.endpoint other⟩
  unused other bound := by
    have bound : server.nextMux ≤ other := bound
    simpa [(used.trans_le bound).ne'] using well.unused other bound
  table := well.table
  handling := handled
  closed := well.closed

theorem WellFormed.established (well : WellFormed linkMdu socks server) (link : LinkId)
    (idle : server.handling = none) :
    WellFormed linkMdu socks
      { server with
        linkMuxes := Function.update server.linkMuxes link (some server.nextMux)
        muxes :=
          Function.update server.muxes server.nextMux
            { Endpoint.new with mux := Mux.new.setLinkId link }
        nextMux := server.nextMux + 1
        linkOf := Function.update server.linkOf server.nextMux link } where
  endpoint := by
    have created : Endpoint.step linkMdu socks Endpoint.new (.setLinkId link) =
      some { Endpoint.new with mux := Mux.new.setLinkId link } := rfl
    exact (Function.forall_update_iff server.muxes _).mpr
      ⟨(Execution.Reachable.refl Endpoint.new).tail created, fun other _ => well.endpoint other⟩
  unused other bound := by
    have bound : server.nextMux < other := bound
    simpa [bound.ne'] using well.unused other bound.le
  table other muxId found := by
    rcases update_some_cases found with ⟨rfl, rfl⟩ | ⟨_, found⟩
    · simp
    · obtain ⟨owner, used⟩ := well.table other muxId found
      exact ⟨by simp [used.ne, owner], used.trans (Nat.lt_succ_self _)⟩
  handling muxId frames busy := by simp [idle] at busy
  closed muxId member := by
    obtain ⟨used, absent⟩ := well.closed muxId member
    refine ⟨used.trans (Nat.lt_succ_self _), ?_⟩
    by_cases same : server.linkOf muxId = link
    · simp [used.ne, same, used.ne']
    · simpa [used.ne, same] using absent

theorem WellFormed.linkClosed (well : WellFormed linkMdu socks server) (link : LinkId)
    (idle : server.handling = none) :
    WellFormed linkMdu socks
      { server with
        linkMuxes := Function.update server.linkMuxes link none
        closed := server.closed ++ (server.linkMuxes link).toList } where
  endpoint := well.endpoint
  unused := well.unused
  table other muxId found := by
    by_cases same : other = link
    · simp [same] at found
    · exact well.table other muxId (by simpa [same] using found)
  handling muxId frames busy := by simp [idle] at busy
  closed muxId member := by
    simp only [List.mem_append, Option.mem_toList] at member
    rcases member with old | removed
    · obtain ⟨used, absent⟩ := well.closed muxId old
      refine ⟨used, ?_⟩
      by_cases same : server.linkOf muxId = link
      · simp [same]
      · simpa [same] using absent
    · obtain ⟨owner, used⟩ := well.table link muxId removed
      exact ⟨used, by simp [owner]⟩

theorem WellFormed.used_of_session (well : WellFormed linkMdu socks server) {muxId : MuxId}
    {held : Bool} {chan : ChanId} {act : TaskAct} {ep : Endpoint}
    (taken : (server.muxes muxId).step linkMdu socks (.session held chan act) = some ep) :
    muxId < server.nextMux := by
  by_contra unused
  simp [well.unused muxId (not_lt.mp unused), Endpoint.new, Endpoint.step] at taken

theorem WellFormed.used_of_sender (well : WellFormed linkMdu socks server) {muxId : MuxId}
    {act : Mux.SenderAct} {ep : Endpoint}
    (taken : (server.muxes muxId).step linkMdu socks (.sender act) = some ep) :
    muxId < server.nextMux := by
  by_contra unused
  rw [well.unused muxId (not_lt.mp unused)] at taken
  cases act <;> simp [Endpoint.step, Endpoint.new, Mux.new, Mux.senderStep] at taken

theorem WellFormed.step (well : WellFormed linkMdu socks server)
    (taken : Step linkMdu socks server act next) : WellFormed linkMdu socks next := by
  cases taken with
  | @established link idle => exact well.established link idle
  | @closed link idle => exact well.linkClosed link idle
  | @data link data muxId idle known =>
      obtain ⟨owner, used⟩ := well.table link muxId known
      refine well.update
        (rfl : (server.muxes muxId).step linkMdu socks (.receive data) = some _) used
        fun other frames same => ?_
      obtain ⟨rfl, _⟩ := Prod.mk.inj (Option.some.inj same)
      rw [owner, known]
  | ignored => exact well
  | @frame muxId frame rest act ep handling reaction taken =>
      have listed := well.handling muxId _ handling
      refine well.update taken (well.table _ muxId listed).2 fun other frames same => ?_
      obtain ⟨rfl, _⟩ := Prod.mk.inj (Option.some.inj same)
      exact listed
  | @skipped muxId frame rest handling reaction =>
      refine ⟨well.endpoint, well.unused, well.table, fun other frames same => ?_, well.closed⟩
      obtain ⟨rfl, _⟩ := Prod.mk.inj (Option.some.inj same)
      exact well.handling muxId _ handling
  | handled => exact ⟨well.endpoint, well.unused, well.table, by simp, well.closed⟩
  | session taken => exact well.update taken (well.used_of_session taken) well.handling
  | sender taken => exact well.update taken (well.used_of_sender taken) well.handling

/-- The session tasks the server spawns, with the filter of the server. -/
def Spawns (filterConfig : FilterConfig) (start : Start) : Prop :=
  (∃ addr, start = .serverTcp addr filterConfig) ∨ start = .serverUdp filterConfig

/-- A property of endpoints that a new one has, and that every step of an endpoint keeps which
spawns at most tasks of the server. -/
theorem Step.forall_endpoints {property : Endpoint → Prop}
    (taken : Step linkMdu socks server act next) (each : ∀ muxId, property (server.muxes muxId))
    (created : ∀ link, property { Endpoint.new with mux := Mux.new.setLinkId link })
    (kept : ∀ muxId act ep, (server.muxes muxId).step linkMdu socks act = some ep →
      (∀ start sid, act = .spawn start sid → Spawns server.filterConfig start) → property ep) :
    ∀ muxId, property (next.muxes muxId) := by
  have updated : ∀ muxId ep, property ep →
      ∀ other, property (Function.update server.muxes muxId ep other) := fun _ _ holds =>
    (Function.forall_update_iff server.muxes fun _ => property).mpr
      ⟨holds, fun other _ => each other⟩
  cases taken with
  | @established link idle => exact updated _ _ (created link)
  | @data link data muxId idle known =>
      exact updated _ _ (kept muxId (.receive data) _ rfl (by simp))
  | @frame muxId frame rest act ep handling reaction taken =>
      refine updated _ _ (kept muxId act ep taken fun start sid spawns => ?_)
      rcases onFrame_cases reaction with ⟨started, rfl, serves⟩ | rfl | rfl
      · obtain ⟨rfl, rfl⟩ := EndpointAct.spawn.inj spawns
        apply serves.imp_left
        rintro ⟨host, port, rfl⟩
        exact ⟨_, rfl⟩
      · cases spawns
      · cases spawns
  | session taken => exact updated _ _ (kept _ _ _ taken (by simp))
  | sender taken => exact updated _ _ (kept _ _ _ taken (by simp))
  | _ => exact each

theorem wellFormed_of_reachable {filterConfig : FilterConfig}
    (reachable : Execution.Reachable (step linkMdu socks) (new filterConfig) server) :
    WellFormed linkMdu socks server :=
  reachable.invariant (wellFormed_new filterConfig)
    fun _ _ _ well taken => well.step (step_cases taken)

theorem filterConfig_of_reachable {filterConfig : FilterConfig}
    (reachable : Execution.Reachable (Server.step linkMdu socks) (new filterConfig) server) :
    server.filterConfig = filterConfig := by
  have kept : ∀ before act after, before.filterConfig = filterConfig →
      Server.step linkMdu socks before act = some after → after.filterConfig = filterConfig := by
    intro before act after same taken
    rw [← same]
    cases step_cases taken <;> rfl
  exact reachable.invariant (by rfl) kept

end Steps

end Server

end RnsProxy
