import RnsProxy.Delivery

/-!
# How the two ends of a tunnel fit together

In every tunnel whose sessions have ids of their own, what one end has put on its way, the link and
the event loop at the other end convey to the session it belongs to. A session of the server exists
only after its CONNECT has been handled, and a session of the client is sent nothing before.
-/

namespace RnsProxy

/-- The frames of a session. -/
def framesOf (sid : UInt32) (frames : List Frame) : List Frame :=
  frames.filter fun frame => frame.sessionId == sid

@[simp]
theorem framesOf_append (sid : UInt32) (left right : List Frame) :
    framesOf sid (left ++ right) = framesOf sid left ++ framesOf sid right := by
  simp [framesOf]

theorem mem_framesOf {sid : UInt32} {frames : List Frame} {frame : Frame} :
    frame ∈ framesOf sid frames ↔ frame ∈ frames ∧ frame.sessionId = sid := by
  simp [framesOf]

/-- The frames of a session an event loop has dispatched. -/
def Side.dispatched (side : Side) (sid : UInt32) (handled : List Frame) : List Frame :=
  (framesOf sid handled).filter side.admits

namespace Side

theorem dispatched_concat (side : Side) (sid : UInt32) (handled : List Frame) (frame : Frame) :
    side.dispatched sid (handled ++ [frame]) = side.dispatched sid handled ++
      if frame.sessionId = sid ∧ side.admits frame = true then [frame] else [] := by
  by_cases same : frame.sessionId = sid
  · cases admits : side.admits frame <;> simp [dispatched, framesOf, same, admits]
  · simp [dispatched, framesOf, same]

theorem dispatched_eq_nil {side : Side} {sid : UInt32} {handled : List Frame}
    (unseen : ∀ frame ∈ handled, frame.sessionId ≠ sid) : side.dispatched sid handled = [] := by
  have nothing : framesOf sid handled = [] := by
    simpa [framesOf, List.filter_eq_nil_iff] using unseen
  simp [dispatched, nothing]

/-- An event loop dispatches every DATA frame. -/
theorem dataOf_dispatched (side : Side) (sid : UInt32) (handled : List Frame) :
    dataOf (side.dispatched sid handled) = dataOf (framesOf sid handled) := by
  rw [dataOf, dispatched]
  rw [List.filter_filter]
  congr 1
  refine List.filter_congr fun frame _ => ?_
  cases side with
  | client => simp [admits]
  | server => cases type : frame.frameType <;> simp [admits, type]

end Side

namespace Endpoint

/-- Every frame that has been dispatched to a session is taken by its task or in its channel, as
long as the session is registered. -/
def Delivers (ep : Endpoint) (side : Side) (handled : List Frame) : Prop :=
  ∀ chan task, ep.tasks chan = some task →
    ep.inbox chan task <+: side.dispatched task.sid handled ∧
      (ep.mux.sessions task.sid = some chan →
        ep.inbox chan task = side.dispatched task.sid handled)

/-- The session ids of the tasks are distinct. -/
def DistinctIds (ep : Endpoint) : Prop :=
  ∀ chan other task task', ep.tasks chan = some task → ep.tasks other = some task' →
    task.sid = task'.sid → chan = other

theorem Performs.received_append {ep : Endpoint} {held : Bool} {chan : ChanId} {sid : UInt32}
    {effect : Effect} {mux : Mux} (performs : Performs ep held chan sid effect mux) :
    effect.received ++ mux.channels chan = ep.mux.channels chan ∧
      ∀ other ≠ chan, mux.channels other = ep.mux.channels other := by
  cases performs with
  | recv queued => simp +contextual [Effect.received, queued]
  | _ => simp [Effect.received, Mux.dropSession]

section Steps

variable {linkMdu : ℕ+} {socks : FastSocks5} {ep next : Endpoint} {act : EndpointAct}
  {side : Side} {handled : List Frame}

theorem Delivers.of_same (delivers : ep.Delivers side handled) {mux : Mux}
    (sessions : mux.sessions = ep.mux.sessions) (channels : mux.channels = ep.mux.channels) :
    Delivers { ep with mux } side handled := by
  intro chan task found
  simpa [inbox, sessions, channels] using delivers chan task found

/-- A frame that is not admitted changes nothing. -/
theorem Delivers.skip (delivers : ep.Delivers side handled) {frame : Frame}
    (rejected : side.admits frame = false) : ep.Delivers side (handled ++ [frame]) := by
  intro chan task found
  simpa [Side.dispatched_concat, rejected] using delivers chan task found

theorem Delivers.dispatch (delivers : ep.Delivers side handled) (well : WellFormed ep)
    (fresh : ep.AllFresh) {frame : Frame} (admitted : side.admits frame = true) :
    Delivers { ep with mux := ep.mux.dispatch frame } side (handled ++ [frame]) := by
  intro chan task found
  obtain ⟨isPrefix, exact⟩ := delivers chan task found
  rw [Side.dispatched_concat]
  cases registered : ep.mux.sessions frame.sessionId with
  | none =>
      have same : ep.mux.dispatch frame = ep.mux := by simp [Mux.dispatch, registered]
      rw [same]
      refine ⟨isPrefix.trans (List.prefix_append _ _), fun still => ?_⟩
      have other : frame.sessionId ≠ task.sid := by
        rintro same_sid
        have still : ep.mux.sessions task.sid = some chan := still
        simp [← same_sid, registered] at still
      simpa [other] using exact still
  | some owner =>
      obtain ⟨owns, found_owner, owner_sid⟩ := well.registered _ _ registered
      have same : ep.mux.dispatch frame =
          { ep.mux with
            channels :=
              Function.update ep.mux.channels owner (ep.mux.channels owner ++ [frame]) } := by
        simp [Mux.dispatch, registered]
      rw [same]
      by_cases at_chan : chan = owner
      · subst at_chan
        obtain rfl := Option.some.inj (found.symm.trans found_owner)
        have now : ep.inbox chan task = side.dispatched task.sid handled :=
          exact (owner_sid ▸ registered)
        have later : task.taken ++ (ep.mux.channels chan ++ [frame]) =
            side.dispatched task.sid handled ++ [frame] := by
          rw [← List.append_assoc]
          exact congrArg (· ++ [frame]) now
        simp [inbox, owner_sid, admitted, later]
      · have other : frame.sessionId ≠ task.sid := by
          intro same_sid
          apply at_chan
          exact ((fresh chan task found).1 owner owns found_owner (owner_sid.trans same_sid)).symm
        simpa [inbox, at_chan, other] using And.intro isPrefix exact

theorem Delivers.spawn (delivers : ep.Delivers side handled) (start : Start) {sid : UInt32}
    (nothing : side.dispatched sid handled = []) :
    Delivers
      { mux := (ep.mux.registerSession sid).2
        tasks := Function.update ep.tasks ep.mux.nextChan (some (Task.spawn start sid)) }
      side handled := by
  intro chan task found
  rcases update_some_cases found with ⟨rfl, rfl⟩ | ⟨same, found⟩
  · have empty : inbox
        { mux := (ep.mux.registerSession sid).2
          tasks := Function.update ep.tasks ep.mux.nextChan (some (Task.spawn start sid)) }
        ep.mux.nextChan (Task.spawn start sid) = [] := by
      simp [inbox, Task.taken, Task.spawn, Mux.registerSession]
    have nothing : side.dispatched (Task.spawn start sid).sid handled = [] := nothing
    rw [empty, nothing]
    exact ⟨List.prefix_rfl, fun _ => rfl⟩
  · obtain ⟨isPrefix, exact⟩ := delivers chan task found
    refine ⟨by simpa [inbox, Mux.registerSession, same] using isPrefix, fun registered => ?_⟩
    have other : task.sid ≠ sid := by
      rintro rfl
      have owner : ep.mux.nextChan = chan := by simpa [Mux.registerSession] using registered
      exact same owner.symm
    have registered : ep.mux.sessions task.sid = some chan := by
      simpa [Mux.registerSession, other] using registered
    simpa [inbox, Mux.registerSession, same] using exact registered

/-- What the tasks of an end do on their own loses no frame. -/
theorem Delivers.step (delivers : ep.Delivers side handled) (sound : Sound side ep)
    (taken : Step linkMdu socks ep act next) (permits : side.Permits act)
    (not_dispatched : ∀ frame, act ≠ .dispatch frame)
    (spawns : ∀ start sid, act = .spawn start sid → side.dispatched sid handled = []) :
    next.Delivers side handled := by
  cases taken with
  | @session held owner act before after effect mux owned taken performs =>
      intro chan task found
      obtain ⟨received, others⟩ := performs.received_append
      rcases update_some_cases found with ⟨rfl, rfl⟩ | ⟨same, found⟩
      · obtain ⟨isPrefix, exact⟩ := delivers chan before owned
        have inbox_eq :
            inbox { mux, tasks := Function.update ep.tasks chan (some after) } chan after =
            ep.inbox chan before := by
          have inTime := (sound.tasks chan before owned).inTime
          simp [inbox, taken.taken_eq inTime, ← received]
        rw [inbox_eq, taken.identity.1]
        exact ⟨isPrefix, fun registered => exact (performs.sessions_of_some registered)⟩
      · obtain ⟨isPrefix, exact⟩ := delivers chan task found
        have inbox_eq :
            inbox { mux, tasks := Function.update ep.tasks owner (some after) } chan task =
            ep.inbox chan task := by
          simp [inbox, others chan same]
        rw [inbox_eq]
        exact ⟨isPrefix, fun registered => exact (performs.sessions_of_some registered)⟩
  | @spawn start sid => exact delivers.spawn start (spawns start sid rfl)
  | dispatch => exact absurd rfl (not_dispatched _)
  | sender taken =>
      obtain ⟨linkId, dataSenderBuf, sender, wire, handed, rfl⟩ := taken.frame
      exact delivers.of_same rfl rfl
  | resetSessions => exact permits.elim
  | _ => exact delivers.of_same rfl rfl

theorem Unused.step {sid : UInt32} (unused : ep.Unused sid) (taken : Step linkMdu socks ep act next)
    (spawns : ∀ start other, act = .spawn start other → other ≠ sid)
    (refuses : ∀ other, act = .refuse other → other ≠ sid) : next.Unused sid := by
  refine ⟨taken.forall_tasks unused.1 (fun start other same => spawns start other same)
    fun task act after effect other taken => taken.identity.1 ▸ other, fun out member origin => ?_⟩
  cases taken with
  | session _ _ performs =>
      rw [performs.log_eq, List.mem_append, List.mem_map] at member
      rcases member with old | ⟨frame, _, rfl⟩
      · exact unused.2 out old origin
      · cases origin
  | refuse =>
      rcases List.mem_append.mp member with old | new
      · exact unused.2 out old origin
      · obtain rfl := List.mem_singleton.mp new
        exact refuses _ rfl
  | @dispatch frame =>
      obtain ⟨channels, same⟩ := ep.mux.dispatch_frame frame
      rw [same] at member
      exact unused.2 out member origin
  | sender taken =>
      obtain ⟨linkId, dataSenderBuf, sender, wire, handed, rfl⟩ := taken.frame
      exact unused.2 out member origin
  | _ => exact unused.2 out member origin

theorem Sound.unused_of_distinctIds (sound : Sound .client ep) {start : Start} {sid : UInt32}
    (taken : Step linkMdu socks ep (.spawn start sid) next) (distinct : next.DistinctIds) :
    ep.Unused sid := by
  cases taken with
  | spawn =>
      refine ⟨fun chan task found same_sid => ?_, fun out member origin => ?_⟩
      · exact sound.well.ne_nextChan found (distinct chan ep.mux.nextChan task
          (Task.spawn start sid) (sound.well.tasks_spawn found) (by simp) same_sid)
      · cases (sound.log out member).1 origin

theorem DistinctIds.of_step (distinct : next.DistinctIds) (well : WellFormed ep)
    (taken : Step linkMdu socks ep act next) : ep.DistinctIds := by
  have kept : ∀ chan task, ep.tasks chan = some task →
      ∃ later, next.tasks chan = some later ∧ later.sid = task.sid := by
    intro chan task found
    cases taken with
    | session owned taken performs => exact tasks_session owned taken found
    | spawn => exact ⟨task, well.tasks_spawn found, rfl⟩
    | _ => exact ⟨task, found, rfl⟩
  intro chan other task task' found found' same_sid
  obtain ⟨later, found_later, later_sid⟩ := kept chan task found
  obtain ⟨later', found_later', later_sid'⟩ := kept other task' found'
  apply distinct chan other later later' found_later found_later'
  rw [later_sid, later_sid', same_sid]

end Steps

end Endpoint

/-! ## What an end puts on its way -/

/-- Whatever an end of a link that stays up does, the link conveys what it sends. -/
theorem Conveys.step {linkMdu : ℕ+} {socks : FastSocks5} {side : Side} {ep next : Endpoint}
    {act : EndpointAct} {recvBuf : Bytes} {inbound : Inbound} {inFlight : List Frame}
    (conveys : Conveys ep.mux recvBuf inbound inFlight)
    (taken : Endpoint.Step linkMdu socks ep act next) (permits : side.Permits act)
    (sound : Endpoint.Sound side next) : ∃ later, Conveys next.mux recvBuf inbound later := by
  cases taken with
  | @session held chan act task after effect mux found taken performs =>
      cases performs with
      | @send frame room =>
          have fits := (sound.log { origin := some chan, frame } (by simp)).2
          exact ⟨_, conveys.enqueue fits⟩
      | _ => exact ⟨_, conveys.of_same rfl rfl rfl rfl rfl⟩
  | @refuse sid room =>
      have fits := (sound.log { origin := none, frame := Endpoint.refusal sid } (by simp)).2
      exact ⟨_, conveys.enqueue fits⟩
  | @dispatch frame =>
      obtain ⟨channels, same⟩ := ep.mux.dispatch_frame frame
      rw [same]
      exact ⟨_, conveys.of_same rfl rfl rfl rfl rfl⟩
  | sender taken => exact ⟨_, conveys.senderStep permits taken⟩
  | setLinkId => exact permits.elim
  | resetLinkId => exact permits.elim
  | _ => exact ⟨_, conveys.of_same rfl rfl rfl rfl rfl⟩

/-- Only the event loop writes to the reassembly buffer. -/
theorem Endpoint.Step.recvBuf_eq {linkMdu : ℕ+} {socks : FastSocks5} {side : Side}
    {ep next : Endpoint} {act : EndpointAct} (taken : Endpoint.Step linkMdu socks ep act next)
    (permits : side.Permits act) (not_received : ∀ data, act ≠ .receive data) :
    next.mux.recvBuf = ep.mux.recvBuf := by
  cases taken with
  | session _ _ performs => cases performs <;> rfl
  | @dispatch frame =>
      obtain ⟨channels, same⟩ := ep.mux.dispatch_frame frame
      simp [same]
  | receive => exact absurd rfl (not_received _)
  | sender taken =>
      obtain ⟨linkId, dataSenderBuf, sender, wire, handed, rfl⟩ := taken.frame
      rfl
  | resetRecvBuf => exact permits.elim
  | _ => rfl

namespace Tunnel

/-- The sessions of the client have ids of their own. -/
def DistinctIds (tunnel : Tunnel) : Prop :=
  (tunnel.ends .client).DistinctIds

/-- The two ends of a tunnel and its event loops fit together. -/
structure Coherent (tunnel : Tunnel) : Prop where
  /-- Both ends are sound. -/
  sound : ∀ side, Endpoint.Sound side (tunnel.ends side)
  /-- The link conveys what either end sends. -/
  conveys : ∀ side, ∃ inFlight, Conveys (tunnel.ends side).mux (tunnel.ends side.peer).mux.recvBuf
    (tunnel.inbound side.peer) inFlight
  /-- The server knows only sessions it has been asked for. -/
  asked : ∀ sid, (∀ frame ∈ (tunnel.inbound .server).handled, frame.sessionId ≠ sid) →
    (tunnel.ends .server).Unused sid
  /-- The event loops deliver what they have handled. -/
  delivers : ∀ side, (tunnel.ends side).Delivers side (tunnel.inbound side).handled

theorem coherent_new (filterConfig : FilterConfig) (link : LinkId) :
    (new filterConfig link).Coherent where
  sound side := Endpoint.sound_new side link
  conveys side := ⟨[], Conveys.start link⟩
  asked sid _ := ⟨fun chan task found => by simp [new, Endpoint.new] at found,
    fun out member => by simp [new, Mux.new, Mux.setLinkId] at member⟩
  delivers side chan task found := by simp [new, Endpoint.new] at found

variable {tunnel : Tunnel}

theorem Coherent.task_of_mem (coherent : tunnel.Coherent) {frame : Frame}
    (sent : frame ∈ (tunnel.ends .client).mux.log.map Outgoing.frame) :
    ∃ chan task, (tunnel.ends .client).tasks chan = some task ∧ task.sid = frame.sessionId := by
  obtain ⟨out, member, rfl⟩ := List.mem_map.mp sent
  have sound := coherent.sound .client
  cases origin : out.origin with
  | none => cases (sound.log out member).1 origin
  | some chan =>
      obtain ⟨task, found, same_sid⟩ := sound.well.origin out member chan origin
      exact ⟨chan, task, found, same_sid⟩

theorem Coherent.mem_log_of_handled (coherent : tunnel.Coherent) (side : Side) {frame : Frame}
    (handled : frame ∈ (tunnel.inbound side.peer).handled) :
    frame ∈ (tunnel.ends side).mux.log.map Outgoing.frame := by
  obtain ⟨inFlight, conveys⟩ := coherent.conveys side
  simp [conveys.frames, handled]

/-- Nothing has been handled for a session id no task of the client has. -/
theorem Coherent.client_unseen (coherent : tunnel.Coherent) {sid : UInt32}
    (unused : ∀ chan task, (tunnel.ends .client).tasks chan = some task → task.sid ≠ sid) :
    ∀ frame ∈ (tunnel.inbound .client).handled, frame.sessionId ≠ sid := by
  intro frame handled same_sid
  have unused_server : (tunnel.ends .server).Unused sid := by
    refine coherent.asked sid fun request handled same_sid => ?_
    obtain ⟨chan, task, found, owner_sid⟩ :=
      coherent.task_of_mem (coherent.mem_log_of_handled .client handled)
    exact unused chan task found (owner_sid.trans same_sid)
  obtain ⟨out, member, rfl⟩ :=
    List.mem_map.mp (coherent.mem_log_of_handled .server handled)
  cases origin : out.origin with
  | none => exact unused_server.2 out member origin same_sid
  | some chan =>
      obtain ⟨task, found, owner_sid⟩ := (coherent.sound .server).well.origin out member chan origin
      exact unused_server.1 chan task found (owner_sid.trans same_sid)

theorem Coherent.sent_eq (coherent : tunnel.Coherent) {side : Side} {chan : ChanId} {task : Task}
    (found : (tunnel.ends side).tasks chan = some task) :
    framesOf task.sid ((tunnel.ends side).mux.log.map Outgoing.frame) = task.sent :=
  (coherent.sound side).well.enqueued_eq found ((coherent.sound side).fresh chan task found)

/-- The first frame the server handles for a session is its CONNECT frame. -/
theorem Coherent.server_unseen (coherent : tunnel.Coherent) {frame : Frame} {rest : List Frame}
    (decoded : (tunnel.inbound .server).pending = frame :: rest)
    (connects : frame.frameType = .connect) :
    ∀ earlier ∈ (tunnel.inbound .server).handled, earlier.sessionId ≠ frame.sessionId := by
  intro earlier handled same_sid
  obtain ⟨inFlight, conveys⟩ := coherent.conveys .client
  have frames : (tunnel.ends .client).mux.log.map Outgoing.frame =
      (tunnel.inbound .server).handled ++ (frame :: rest) ++ inFlight := by
    rw [conveys.frames, show Side.client.peer = .server from rfl, decoded]
  have sent : frame ∈ (tunnel.ends .client).mux.log.map Outgoing.frame := by simp [frames]
  obtain ⟨chan, task, found, owner_sid⟩ := coherent.task_of_mem sent
  have sent_eq := coherent.sent_eq found
  rw [frames, owner_sid, framesOf_append, framesOf_append] at sent_eq
  have later : frame ∈ framesOf frame.sessionId (frame :: rest) := by simp [framesOf]
  cases before : framesOf frame.sessionId (tunnel.inbound .server).handled with
  | nil =>
      have member := mem_framesOf.mpr ⟨handled, same_sid⟩
      simp [before] at member
  | cons first more =>
      have begins : task.sent = first :: (more ++ framesOf frame.sessionId (frame :: rest) ++
          framesOf frame.sessionId inFlight) := by
        simpa [before] using sent_eq.symm
      have shape := ((coherent.sound .client).tasks chan task found).phase.sent_cons begins
      simpa [connects] using shape.2 frame (by simp [later])

theorem Coherent.update (coherent : tunnel.Coherent) {side : Side} {ep : Endpoint}
    {inbound : Inbound} {next : Tunnel}
    (ends : next.ends = Function.update tunnel.ends side ep)
    (loops : next.inbound = Function.update tunnel.inbound side inbound)
    (sound : Endpoint.Sound side ep)
    (outgoing : ∃ later, Conveys ep.mux (tunnel.ends side.peer).mux.recvBuf
      (tunnel.inbound side.peer) later)
    (incoming : ∃ later, Conveys (tunnel.ends side.peer).mux ep.mux.recvBuf inbound later)
    (asked : side = .server → ∀ sid, (∀ frame ∈ inbound.handled, frame.sessionId ≠ sid) →
      ep.Unused sid)
    (delivers : ep.Delivers side inbound.handled) : next.Coherent where
  sound other := by
    rcases side.eq_or_eq_peer other with rfl | rfl
    · simpa [ends] using sound
    · simpa [ends] using coherent.sound side.peer
  conveys other := by
    rcases side.eq_or_eq_peer other with rfl | rfl
    · simpa [ends, loops] using outgoing
    · simpa [ends, loops] using incoming
  asked sid unseen := by
    rcases side.eq_or_eq_peer .server with rfl | other
    · simpa [ends] using asked rfl sid (by simpa [loops] using unseen)
    · have different : Side.server ≠ side := other ▸ side.peer_ne
      simpa [ends, different] using coherent.asked sid (by simpa [loops, different] using unseen)
  delivers other := by
    rcases side.eq_or_eq_peer other with rfl | rfl
    · simpa [ends, loops] using delivers
    · simpa [ends, loops] using coherent.delivers side.peer

section Steps

variable {linkMdu : ℕ+} {socks : FastSocks5} {next : Tunnel}

/-- What the event loop at one end receives from the other. -/
theorem Coherent.incoming (coherent : tunnel.Coherent) (side : Side) :
    ∃ inFlight, Conveys (tunnel.ends side.peer).mux (tunnel.ends side).mux.recvBuf
      (tunnel.inbound side) inFlight := by
  simpa using coherent.conveys side.peer

/-- The tasks at one end act on their own. -/
theorem Coherent.acts (coherent : tunnel.Coherent) {side : Side} {act : EndpointAct} {ep : Endpoint}
    (acts : Acts side act) (taken : Endpoint.Step linkMdu socks (tunnel.ends side) act ep)
    (distinct : (tunnel.setEnd side ep).DistinctIds) : (tunnel.setEnd side ep).Coherent := by
  have spawns : ∀ start sid, act = .spawn start sid →
      side = .client ∧ (tunnel.ends side).Unused sid := by
    rintro start sid rfl
    cases acts with
    | accept =>
        exact ⟨rfl, (coherent.sound .client).unused_of_distinctIds taken
          (by simpa [DistinctIds, setEnd] using distinct)⟩
  have refuses : ∀ sid, act ≠ .refuse sid := by
    rintro sid rfl
    cases acts
  have sound := (coherent.sound side).step acts.permits taken
    (fun start sid same => (spawns start sid same).2) fun sid same => absurd same (refuses sid)
  refine coherent.update rfl (Function.update_eq_self side tunnel.inbound).symm sound ?_ ?_ ?_ ?_
  · obtain ⟨inFlight, conveys⟩ := coherent.conveys side
    exact conveys.step taken acts.permits sound
  · obtain ⟨inFlight, conveys⟩ := coherent.incoming side
    rw [taken.recvBuf_eq acts.permits (by rintro data rfl; cases acts)]
    exact ⟨inFlight, conveys⟩
  · rintro rfl sid unseen
    refine (coherent.asked sid unseen).step taken (fun start other same => ?_)
      fun other same => absurd same (refuses other)
    cases (spawns start other same).1
  · refine (coherent.delivers side).step (coherent.sound side) taken acts.permits
      (by rintro frame rfl; cases acts) fun start sid same => ?_
    obtain ⟨rfl, unused⟩ := spawns start sid same
    exact Side.dispatched_eq_nil (coherent.client_unseen unused.1)

/-- A packet is delivered. -/
theorem Coherent.deliver (coherent : tunnel.Coherent) {side : Side} {link : LinkId} {packet : Bytes}
    (idle : (tunnel.inbound side).pending = [])
    (arrives : (tunnel.ends side.peer).mux.wire[(tunnel.inbound side).delivered]? =
      some (link, packet)) :
    ((tunnel.setEnd side
        { tunnel.ends side with mux := ((tunnel.ends side).mux.receiveData packet).2 }).setInbound
      side
      { tunnel.inbound side with
        delivered := (tunnel.inbound side).delivered + 1
        pending := ((tunnel.ends side).mux.receiveData packet).1 }).Coherent := by
  have taken : Endpoint.Step 1 .rfc1928 (tunnel.ends side) (.receive packet)
      { tunnel.ends side with mux := ((tunnel.ends side).mux.receiveData packet).2 } := .receive
  have permits : side.Permits (.receive packet) := trivial
  have sound := (coherent.sound side).step permits taken (by simp) (by simp)
  apply coherent.update rfl rfl sound
  · obtain ⟨inFlight, conveys⟩ := coherent.conveys side
    exact conveys.step taken permits sound
  · obtain ⟨inFlight, conveys⟩ := coherent.incoming side
    exact conveys.deliver idle arrives
  · rintro rfl sid unseen
    exact (coherent.asked sid unseen).step taken (by simp) (by simp)
  · exact (coherent.delivers side).of_same rfl rfl

theorem Coherent.dispatch (coherent : tunnel.Coherent) {side : Side} {frame : Frame}
    {rest : List Frame} (decoded : (tunnel.inbound side).pending = frame :: rest)
    (admitted : side.admits frame = true) :
    ((tunnel.setInbound side
        { tunnel.inbound side with
          pending := rest
          handled := (tunnel.inbound side).handled ++ [frame] }).setEnd side
      { tunnel.ends side with mux := (tunnel.ends side).mux.dispatch frame }).Coherent := by
  have taken : Endpoint.Step 1 .rfc1928 (tunnel.ends side) (.dispatch frame)
      { tunnel.ends side with mux := (tunnel.ends side).mux.dispatch frame } := .dispatch
  have permits : side.Permits (.dispatch frame) := trivial
  have sound := (coherent.sound side).step permits taken (by simp) (by simp)
  apply coherent.update rfl rfl sound
  · obtain ⟨inFlight, conveys⟩ := coherent.conveys side
    exact conveys.step taken permits sound
  · obtain ⟨inFlight, conveys⟩ := coherent.incoming side
    rw [taken.recvBuf_eq permits (by simp)]
    exact ⟨inFlight, conveys.handle decoded⟩
  · rintro rfl sid unseen
    have unused := coherent.asked sid fun earlier handled =>
      unseen earlier (List.mem_append_left _ handled)
    exact unused.step taken (by simp) (by simp)
  · exact (coherent.delivers side).dispatch (coherent.sound side).well (coherent.sound side).fresh
      admitted

/-- The server spawns or refuses the session a CONNECT frame asks for. -/
theorem Coherent.connect (coherent : tunnel.Coherent) {frame : Frame} {rest : List Frame}
    {act : EndpointAct} {ep : Endpoint}
    (decoded : (tunnel.inbound .server).pending = frame :: rest)
    (connects : frame.frameType = .connect)
    (asks : (∃ start, start.side = .server ∧ act = .spawn start frame.sessionId) ∨
      act = .refuse frame.sessionId)
    (taken : Endpoint.Step linkMdu socks (tunnel.ends .server) act ep) :
    ((tunnel.setInbound .server
        { tunnel.inbound .server with
          pending := rest
          handled :=
            (tunnel.inbound .server).handled ++ [frame] }).setEnd .server ep).Coherent := by
  have unseen := coherent.server_unseen decoded connects
  have unused := coherent.asked frame.sessionId unseen
  have permits : Side.server.Permits act := by
    rcases asks with ⟨start, serves, rfl⟩ | rfl
    · exact serves
    · rfl
  have spawns : ∀ start sid, act = .spawn start sid → sid = frame.sessionId := by
    rintro start sid rfl
    have same : start.side = .server ∧ sid = frame.sessionId := by simpa using asks
    exact same.2
  have refuses : ∀ sid, act = .refuse sid → sid = frame.sessionId := by
    rintro sid rfl
    simpa using asks
  have not_received : ∀ data, act ≠ .receive data := by
    rintro data rfl
    simp at asks
  have not_dispatched : ∀ other, act ≠ .dispatch other := by
    rintro other rfl
    simp at asks
  have sound := (coherent.sound .server).step permits taken
    (fun start sid same => spawns start sid same ▸ unused) fun sid same => refuses sid same ▸ unused
  apply coherent.update rfl rfl sound
  · obtain ⟨inFlight, conveys⟩ := coherent.conveys .server
    exact conveys.step taken permits sound
  · obtain ⟨inFlight, conveys⟩ := coherent.incoming .server
    rw [taken.recvBuf_eq permits not_received]
    exact ⟨inFlight, conveys.handle decoded⟩
  · intro _ sid unseen_later
    have other : frame.sessionId ≠ sid := unseen_later frame (by simp)
    have unused_before := coherent.asked sid fun earlier handled =>
      unseen_later earlier (List.mem_append_left _ handled)
    exact unused_before.step taken (fun start _ same => spawns start _ same ▸ other)
      fun _ same => refuses _ same ▸ other
  · refine Endpoint.Delivers.skip ?_ (by simp [Side.admits, connects])
    refine (coherent.delivers .server).step (coherent.sound .server) taken permits not_dispatched
      fun start sid same => ?_
    rw [spawns start sid same]
    exact Side.dispatched_eq_nil unseen

/-- An event loop ignores a frame. -/
theorem Coherent.skip (coherent : tunnel.Coherent) {side : Side} {frame : Frame} {rest : List Frame}
    (decoded : (tunnel.inbound side).pending = frame :: rest)
    (rejected : side.admits frame = false) :
    (tunnel.setInbound side
      { tunnel.inbound side with
        pending := rest
        handled := (tunnel.inbound side).handled ++ [frame] }).Coherent := by
  refine coherent.update (Function.update_eq_self side tunnel.ends).symm rfl
    (coherent.sound side) (coherent.conveys side) ?_ ?_ ((coherent.delivers side).skip rejected)
  · obtain ⟨inFlight, conveys⟩ := coherent.incoming side
    exact ⟨inFlight, conveys.handle decoded⟩
  · rintro rfl sid unseen
    exact coherent.asked sid fun earlier handled => unseen earlier (List.mem_append_left _ handled)

/-- Every step of a tunnel keeps its ends together. -/
theorem Coherent.step (coherent : tunnel.Coherent) (taken : Step linkMdu socks tunnel next)
    (distinct : next.DistinctIds) : next.Coherent := by
  cases taken with
  | acts acts taken => exact coherent.acts acts taken distinct
  | deliver idle arrives => exact coherent.deliver idle arrives
  | @handle side frame rest act ep decoded reaction taken =>
      rcases side.reaction_cases tunnel.filterConfig frame with
        ⟨admitted, dispatches⟩ | ⟨_, nothing | ⟨rfl, connects, asks⟩⟩
      · obtain rfl := Option.some.inj (dispatches.symm.trans reaction)
        cases taken with
        | dispatch => exact coherent.dispatch decoded admitted
      · cases nothing.symm.trans reaction
      · simp only [reaction, Option.some.injEq] at asks
        exact coherent.connect decoded connects asks taken
  | @skip side frame rest decoded reaction =>
      apply coherent.skip decoded
      rcases side.reaction_cases tunnel.filterConfig frame with ⟨_, dispatches⟩ | ⟨rejected, _⟩
      · cases dispatches.symm.trans reaction
      · exact rejected

theorem Step.ends_cases (taken : Step linkMdu socks tunnel next) (side : Side) :
    next.ends side = tunnel.ends side ∨
      ∃ act, Endpoint.Step linkMdu socks (tunnel.ends side) act (next.ends side) := by
  have updated {other : Side} {act : EndpointAct} {ep : Endpoint}
      (ends : next.ends = Function.update tunnel.ends other ep)
      (taken : Endpoint.Step linkMdu socks (tunnel.ends other) act ep) :
      next.ends side = tunnel.ends side ∨
        ∃ act, Endpoint.Step linkMdu socks (tunnel.ends side) act (next.ends side) := by
    by_cases same : side = other
    · subst same
      exact .inr ⟨act, by simpa [ends] using taken⟩
    · exact .inl (by simp [ends, same])
  cases taken with
  | acts _ taken => exact updated rfl taken
  | deliver => exact updated rfl .receive
  | handle _ _ taken => exact updated rfl taken
  | skip => exact .inl rfl

/-- The tables agree at either end, and the ends fit together if the session ids are distinct. -/
structure Kept (tunnel : Tunnel) : Prop where
  /-- The tables agree. -/
  well : ∀ side, (tunnel.ends side).WellFormed
  /-- The ends fit together. -/
  coherent : tunnel.DistinctIds → tunnel.Coherent

theorem Kept.step (kept : tunnel.Kept) (taken : Step linkMdu socks tunnel next) : next.Kept where
  well side := by
    rcases taken.ends_cases side with same | ⟨act, taken⟩
    · exact same ▸ kept.well side
    · exact (kept.well side).step taken
  coherent distinct := by
    refine (kept.coherent ?_).step taken distinct
    rcases taken.ends_cases .client with same | ⟨act, taken⟩
    · rwa [DistinctIds, same] at distinct
    · exact Endpoint.DistinctIds.of_step distinct (kept.well .client) taken

theorem kept_of_reachable {filterConfig : FilterConfig} {link : LinkId}
    (reachable : Execution.Reachable (Tunnel.step linkMdu socks) (new filterConfig link) tunnel) :
    tunnel.Kept := by
  have start : (new filterConfig link).Kept :=
    ⟨fun side => (Endpoint.sound_new side link).well, fun _ => coherent_new filterConfig link⟩
  exact reachable.invariant start fun _ _ _ kept taken => kept.step (step_cases taken)

/-- The ends of every tunnel a run reaches fit together, if the session ids are distinct. -/
theorem coherent_of_reachable {filterConfig : FilterConfig} {link : LinkId}
    (reachable : Execution.Reachable (Tunnel.step linkMdu socks) (new filterConfig link) tunnel)
    (distinct : tunnel.DistinctIds) : tunnel.Coherent :=
  (kept_of_reachable reachable).coherent distinct

theorem distinctIds_of_single {filterConfig : FilterConfig} {link : LinkId}
    (reachable : Execution.Reachable (Tunnel.step linkMdu socks) (new filterConfig link) tunnel)
    (single : (tunnel.ends .client).mux.nextChan = 1) : tunnel.DistinctIds := by
  have first : ∀ chan task, (tunnel.ends .client).tasks chan = some task → chan = 0 := by
    intro chan task found
    by_contra later
    have unused := ((kept_of_reachable reachable).well .client).unused chan
      (single ▸ Nat.one_le_iff_ne_zero.mpr later)
    simp [unused] at found
  intro chan other task task' found found' _
  rw [first chan task found, first other task' found']

end Steps

end Tunnel

end RnsProxy
