import RnsProxy.Library.Progress
import RnsProxy.Requests
import RnsProxy.Wire

/-!
# Draining a tunnel

The link senders and the event loops of a tunnel wait for nobody but each other. Left alone they
come to an end, whatever state the sessions are in, and then everything either end has sent is in
the hands of the sessions of the other. So no frame is ever stuck in the tunnel.
-/

namespace RnsProxy

/-- The steps of the link senders, of the link and of the event loops. -/
def TunnelAct.Transports : TunnelAct → Prop
  | sender _ _ => True
  | deliver _ => True
  | handle _ => True
  | _ => False

/-! ## The work that is left -/

/-- A packet on the link is delivered, and then holds no more frames than bytes. -/
def packetWork (packet : Bytes) : ℕ :=
  1 + packet.length

/-- Each chunk of a frame is sent before it is a packet. -/
def chunksWork (chunks : List Bytes) : ℕ :=
  (chunks.map fun chunk => 1 + packetWork chunk).sum

/-- The work with the frame in the hand of a link sender. -/
def LinkSender.work (linkMdu : ℕ+) : LinkSender → ℕ
  | idle => 0
  | picked out => 1 + chunksWork (linkChunks linkMdu out.frame)
  | sending _ _ rest => chunksWork rest
  | failed _ _ => 0

/-- The work with what one end has sent, of which some packets have been delivered. -/
def Mux.work (linkMdu : ℕ+) (mux : Mux) (delivered : ℕ) : ℕ :=
  (mux.dataSenderBuf.map fun out => 2 + chunksWork (linkChunks linkMdu out.frame)).sum +
    mux.sender.work linkMdu + ((mux.wire.drop delivered).map fun packet => packetWork packet.2).sum

/-- The work with what is on its way to one end. -/
def Tunnel.workTo (linkMdu : ℕ+) (tunnel : Tunnel) (side : Side) : ℕ :=
  (tunnel.ends side.peer).mux.work linkMdu (tunnel.inbound side).delivered +
    (tunnel.ends side).mux.recvBuf.length + (tunnel.inbound side).pending.length

/-- The work with what is on its way to either end. -/
def Tunnel.work (linkMdu : ℕ+) (tunnel : Tunnel) : ℕ :=
  tunnel.workTo linkMdu .client + tunnel.workTo linkMdu .server

theorem length_receiveData_le (recvBuf data : Bytes) :
    (receiveData recvBuf data).1.length + (receiveData recvBuf data).2.length ≤
      recvBuf.length + data.length := by
  obtain ⟨rest, split, kept⟩ := Frame.code.drain_split Frame.decode_sound (recvBuf ++ data)
  have frames : ∀ frames : List Frame, frames.length ≤ (Frame.code.encodeAll frames).length := by
    intro frames
    induction frames with
    | nil => exact le_rfl
    | cons frame frames ih =>
        have encoded : 0 < (Frame.code.encode frame).length := by
          change 0 < frame.encode.length
          rw [Frame.length_encode, HDR_SIZE]
          omega
        rw [Framing.Code.encodeAll_cons, List.length_append, List.length_cons]
        omega
  have lengths := congrArg List.length split
  rw [List.length_append, List.length_append] at lengths
  have bound := frames (receiveData recvBuf data).1
  change _ = (Frame.code.encodeAll (receiveData recvBuf data).1).length + _ at lengths
  have left : (receiveData recvBuf data).2.length ≤ rest.length := by
    rcases kept with ⟨same, _⟩ | ⟨nothing, _⟩
    · exact (congrArg List.length same).le
    · have nothing : (receiveData recvBuf data).2 = [] := nothing
      simp [nothing]
  omega

theorem Mux.work_senderStep {linkMdu : ℕ+} {mux next : Mux} {act : Mux.SenderAct} {delivered : ℕ}
    (up : act ≠ .sent false) (taken : SenderStep linkMdu mux act next)
    (active : mux.linkId ≠ none) (working : ∀ link held, mux.sender ≠ .failed link held)
    (bound : delivered ≤ mux.wire.length) :
    next.work linkMdu delivered < mux.work linkMdu delivered := by
  have carried (link : LinkId) (chunk : Bytes) :
      (((mux.wire ++ [(link, chunk)]).drop delivered).map fun packet => packetWork packet.2).sum =
        ((mux.wire.drop delivered).map fun packet => packetWork packet.2).sum +
          packetWork chunk := by
    simp [List.drop_append_of_le_length bound]
  cases taken with
  | recv idle queued =>
      simp only [work, queued, idle, LinkSender.work, List.map_cons, List.sum_cons]
      omega
  | readLink picked =>
      simp only [work, picked, LinkSender.work]
      omega
  | dropFrame _ inactive => exact absurd inactive active
  | sentLast sending =>
      simp only [work, sending, LinkSender.work, carried, chunksWork, List.map_cons, List.map_nil,
        List.sum_cons, List.sum_nil]
      omega
  | sentChunk sending =>
      simp only [work, sending, LinkSender.work, carried, chunksWork, List.map_cons, List.sum_cons]
      omega
  | sendFailed => exact absurd rfl up
  | clearLink failed => exact absurd failed (working _ _)

/-! ## What an end never does -/

/-- The reassembly buffer holds no complete frame, and the link sender holds no frame whose chunks
have all been sent. -/
structure Mux.Settled (mux : Mux) : Prop where
  /-- The buffer asks for more. -/
  incomplete : Frame.decode mux.recvBuf = .more
  /-- Some chunk is left. -/
  sending : ∀ link out, mux.sender ≠ .sending link out []

namespace Endpoint

variable {linkMdu : ℕ+} {socks : FastSocks5} {ep next : Endpoint} {act : EndpointAct}

theorem settled_step (settled : ep.mux.Settled) (taken : Step linkMdu socks ep act next) :
    next.mux.Settled := by
  cases taken with
  | session _ _ performs => cases performs <;> exact ⟨settled.incomplete, settled.sending⟩
  | @dispatch frame =>
      obtain ⟨channels, same⟩ := ep.mux.dispatch_frame frame
      rw [same]
      exact ⟨settled.incomplete, settled.sending⟩
  | @receive data =>
      exact ⟨Frame.code.decode_drain Frame.decode_sound Frame.decode_nil _, settled.sending⟩
  | sender taken =>
      cases taken with
      | @readLink out link =>
          refine ⟨settled.incomplete, fun other held same => ?_⟩
          exact Mux.linkChunks_ne_nil linkMdu out.frame (LinkSender.sending.inj same).2.2
      | _ => exact ⟨settled.incomplete, by simp⟩
  | resetRecvBuf => exact ⟨Frame.decode_nil, settled.sending⟩
  | _ => exact ⟨settled.incomplete, settled.sending⟩

theorem settled_of_run {acts : List EndpointAct}
    (execution : Execution.run (step linkMdu socks) new acts = some ep) : ep.mux.Settled := by
  have start : (new : Endpoint).mux.Settled := ⟨Frame.decode_nil, by simp [new, Mux.new]⟩
  exact Execution.run_invariant (fun _ _ _ settled taken => settled_step settled (step_cases taken))
    start execution

theorem idle_of_blocked (settled : ep.mux.Settled)
    (blocked : ∀ act, act ≠ .sent false → ep.step linkMdu socks (.sender act) = none) :
    ep.mux.sender = .idle := by
  cases sender : ep.mux.sender with
  | idle => rfl
  | picked out =>
      have disabled := blocked .readLink (by simp)
      cases active : ep.mux.linkId <;> simp [step, Mux.senderStep, sender, active] at disabled
  | sending link out rest =>
      have disabled := blocked (.sent true) (by simp)
      cases rest with
      | nil => exact absurd sender (settled.sending link out)
      | cons chunk rest => cases rest <;> simp [step, Mux.senderStep, sender] at disabled
  | failed link out =>
      have disabled := blocked .clearLink (by simp)
      simp [step, Mux.senderStep, sender] at disabled

theorem queue_of_blocked (settled : ep.mux.Settled)
    (blocked : ∀ act, act ≠ .sent false → ep.step linkMdu socks (.sender act) = none) :
    ep.mux.dataSenderBuf = [] := by
  cases queued : ep.mux.dataSenderBuf with
  | nil => rfl
  | cons out rest =>
      have disabled := blocked .recv (by simp)
      simp [step, Mux.senderStep, idle_of_blocked settled blocked, queued] at disabled

end Endpoint

namespace Tunnel

/-- Nothing is on its way to either end. -/
structure Drained (tunnel : Tunnel) : Prop where
  /-- The send queues are empty. -/
  queue : ∀ side, (tunnel.ends side).mux.dataSenderBuf = []
  /-- The link senders are idle. -/
  sender : ∀ side, (tunnel.ends side).mux.sender = .idle
  /-- Every packet has been delivered. -/
  delivered : ∀ side, (tunnel.inbound side).delivered = (tunnel.ends side.peer).mux.wire.length
  /-- Every frame has been handled. -/
  pending : ∀ side, (tunnel.inbound side).pending = []

section Runs

variable {linkMdu : ℕ+} {socks : FastSocks5} {filterConfig : FilterConfig} {link : LinkId}
  {tunnel next : Tunnel}

theorem settled_of_reachable
    (reachable : Execution.Reachable (step linkMdu socks) (new filterConfig link) tunnel)
    (side : Side) : (tunnel.ends side).mux.Settled := by
  obtain ⟨acts, execution⟩ := reachable
  exact Endpoint.settled_of_run (run_actsAt execution side)

/-- Where neither link sender nor event loop can go on, nothing is on its way. -/
theorem drained_of_stuck (coherent : tunnel.Coherent)
    (settled : ∀ side, (tunnel.ends side).mux.Settled)
    (stuck : Execution.Stuck (step linkMdu socks) TunnelAct.Transports tunnel) :
    tunnel.Drained := by
  have blocked (side : Side) (act : Mux.SenderAct) (up : act ≠ .sent false) :
      (tunnel.ends side).step linkMdu socks (.sender act) = none := by
    have disabled := stuck (.sender side act) trivial
    simpa [step, up] using disabled
  have idle (side : Side) : (tunnel.ends side).mux.sender = .idle :=
    Endpoint.idle_of_blocked (settled side) (blocked side)
  have queue (side : Side) : (tunnel.ends side).mux.dataSenderBuf = [] :=
    Endpoint.queue_of_blocked (settled side) (blocked side)
  have pending (side : Side) : (tunnel.inbound side).pending = [] := by
    cases decoded : (tunnel.inbound side).pending with
    | nil => rfl
    | cons frame rest =>
        have blocked := stuck (.handle side) trivial
        simp only [step, decoded] at blocked
        split at blocked
        · rename_i act reacts
          rcases side.reaction_cases tunnel.filterConfig frame with
            ⟨_, dispatches⟩ | ⟨_, nothing | ⟨_, _, ⟨start, _, spawns⟩ | refuses⟩⟩
          · cases dispatches.symm.trans reacts
            simp [Endpoint.step] at blocked
          · cases nothing.symm.trans reacts
          · cases spawns.symm.trans reacts
            simp [Endpoint.step] at blocked
          · cases refuses.symm.trans reacts
            simp [Endpoint.step, Mux.sendFrame, queue side, SEND_QUEUE_CAPACITY] at blocked
        · cases blocked
  refine ⟨queue, idle, fun side => ?_, pending⟩
  obtain ⟨inFlight, conveys⟩ := coherent.incoming side
  by_contra short
  have bound := lt_of_le_of_ne conveys.delivered short
  have blocked := stuck (.deliver side) trivial
  simp [step, pending side, List.getElem?_eq_getElem bound] at blocked

/-- Where nothing is on its way, everything either end has sent has been handled by the other. -/
theorem Drained.handled_eq (drained : tunnel.Drained) (coherent : tunnel.Coherent)
    (settled : ∀ side, (tunnel.ends side).mux.Settled) (side : Side) :
    (tunnel.inbound side).handled = (tunnel.ends side.peer).mux.log.map Outgoing.frame := by
  obtain ⟨inFlight, conveys⟩ := coherent.incoming side
  have nothing : (tunnel.ends side.peer).mux.underway (tunnel.inbound side) = [] := by
    simp [Mux.underway, Mux.queued, Inbound.onLink, LinkSender.rest, drained.queue, drained.sender,
      drained.delivered]
  have bytes : (tunnel.ends side).mux.recvBuf = inFlight.flatMap Frame.encode := by
    rw [← conveys.bytes, nothing, List.append_nil]
  have landed : inFlight = [] := by
    cases flying : inFlight with
    | nil => rfl
    | cons frame rest =>
        have incomplete := (settled side).incomplete
        have fits := conveys.fits frame (by simp [flying])
        rw [bytes, flying, List.flatMap_cons, Frame.decode_encode_append fits] at incomplete
        cases incomplete
  rw [conveys.frames, landed, drained.pending]
  simp

theorem work_lt (side : Side) (falls : next.workTo linkMdu side < tunnel.workTo linkMdu side)
    (same : next.workTo linkMdu side.peer = tunnel.workTo linkMdu side.peer) :
    next.work linkMdu < tunnel.work linkMdu := by
  cases side with
  | client => exact Nat.add_lt_add_of_lt_of_le falls same.le
  | server => exact Nat.add_lt_add_of_le_of_lt same.le falls

theorem work_sender (coherent : tunnel.Coherent) {side : Side} {act : Mux.SenderAct}
    (taken : tunnel.step linkMdu socks (.sender side act) = some next) :
    next.work linkMdu < tunnel.work linkMdu := by
  simp only [step, Option.ite_none_left_eq_some, Option.map_eq_some_iff] at taken
  obtain ⟨up, ep, stepped, rfl⟩ := taken
  obtain ⟨inFlight, conveys⟩ := coherent.conveys side
  obtain ⟨mux, moved, rfl⟩ := Option.map_eq_some_iff.mp stepped
  have sent := Mux.senderStep_cases moved
  have falls := Mux.work_senderStep up sent conveys.active conveys.working conveys.delivered
  obtain ⟨linkId, dataSenderBuf, sender, wire, handed, same⟩ := sent.frame
  have buffer : mux.recvBuf = (tunnel.ends side).mux.recvBuf := by rw [same]
  apply work_lt side.peer
  · simpa [workTo, setEnd] using falls
  · simp [workTo, setEnd, buffer]

theorem work_deliver {side : Side}
    (taken : tunnel.step linkMdu socks (.deliver side) = some next) :
    next.work linkMdu < tunnel.work linkMdu := by
  simp only [step] at taken
  split at taken
  · rename_i link packet idle arrives
    cases taken
    obtain ⟨bound, at_front⟩ := List.getElem?_eq_some_iff.mp arrives
    have decoded := length_receiveData_le (tunnel.ends side).mux.recvBuf packet
    have queue := List.drop_eq_getElem_cons bound
    apply work_lt side
    · simp only [workTo, setEnd, setInbound, Function.update_self, idle, List.length_nil,
        Function.update_of_ne (Side.peer_ne side), Mux.work, Mux.receiveData, queue, at_front,
        List.map_cons, List.sum_cons, packetWork]
      omega
    · simp [workTo, setEnd, setInbound, Mux.work, Mux.receiveData]
  · cases taken

theorem work_handle {side : Side} (parsed : ∀ sid,
      tunnel.actAt side (.handle side) ≠ some (.refuse sid))
    (taken : tunnel.step linkMdu socks (.handle side) = some next) :
    next.work linkMdu < tunnel.work linkMdu := by
  simp only [step] at taken
  split at taken
  · rename_i frame rest decoded
    -- the event loop takes a frame and sends nothing
    have handled {ep : Endpoint}
        (queue : ep.mux.dataSenderBuf = (tunnel.ends side).mux.dataSenderBuf)
        (sender : ep.mux.sender = (tunnel.ends side).mux.sender)
        (wire : ep.mux.wire = (tunnel.ends side).mux.wire)
        (buffer : ep.mux.recvBuf = (tunnel.ends side).mux.recvBuf) :
        ((tunnel.setInbound side
          { tunnel.inbound side with
            pending := rest
            handled := (tunnel.inbound side).handled ++ [frame] }).setEnd side ep).work linkMdu <
          tunnel.work linkMdu := by
      apply work_lt side
      · simp [workTo, setEnd, setInbound, decoded, buffer]
      · simp [workTo, setEnd, setInbound, Mux.work, queue, sender, wire]
    split at taken
    · rename_i act reacts
      obtain ⟨ep, stepped, rfl⟩ := Option.map_eq_some_iff.mp taken
      rcases side.reaction_cases tunnel.filterConfig frame with
        ⟨_, dispatches⟩ | ⟨_, nothing | ⟨_, _, ⟨start, _, spawns⟩ | refuses⟩⟩
      · cases dispatches.symm.trans reacts
        cases stepped
        obtain ⟨channels, same⟩ := (tunnel.ends side).mux.dispatch_frame frame
        rw [same]
        exact handled rfl rfl rfl rfl
      · cases nothing.symm.trans reacts
      · cases spawns.symm.trans reacts
        cases stepped
        exact handled rfl rfl rfl rfl
      · exact absurd (by simp [actAt, decoded, refuses]) (parsed frame.sessionId)
    · cases taken
      apply work_lt side
      · simp [workTo, setInbound, decoded]
      · simp [workTo, setInbound]
  · cases taken

/-! ## The sessions -/

/-- A step of the transport is not a step of a session, and spawns no session of the client. -/
theorem at_end {act : TunnelAct} (transports : act.Transports)
    {side : Side} {made : EndpointAct} (acts : tunnel.actAt side act = some made) :
    (∀ held chan taskAct, made ≠ .session held chan taskAct) ∧
      ∀ start sid, made = .spawn start sid → side = .server := by
  cases act with
  | sender other act =>
      obtain ⟨_, rfl⟩ := by simpa [actAt] using acts
      exact ⟨by simp, by simp⟩
  | deliver other =>
      simp only [actAt, Option.ite_none_right_eq_some, Option.map_eq_some_iff] at acts
      obtain ⟨_, packet, _, rfl⟩ := acts
      exact ⟨by simp, by simp⟩
  | handle other =>
      simp only [actAt, Option.ite_none_right_eq_some, Option.bind_eq_some_iff] at acts
      obtain ⟨_, frame, _, reacts⟩ := acts
      rcases side.reaction_cases tunnel.filterConfig frame with
        ⟨_, dispatches⟩ | ⟨_, nothing | ⟨rfl, _, ⟨start, _, spawns⟩ | refuses⟩⟩
      · cases dispatches.symm.trans reacts
        exact ⟨by simp, by simp⟩
      · cases nothing.symm.trans reacts
      · exact ⟨by cases spawns.symm.trans reacts; simp, fun _ _ _ => rfl⟩
      · exact ⟨by cases refuses.symm.trans reacts; simp, fun _ _ _ => rfl⟩
  | _ => exact transports.elim

theorem tasks_of_transports {act : TunnelAct} (transports : act.Transports)
    (taken : tunnel.step linkMdu socks act = some next) {side : Side}
    (well : (tunnel.ends side).WellFormed) :
    (∀ chan task, (tunnel.ends side).tasks chan = some task →
      (next.ends side).tasks chan = some task) ∧
    (side = .client → (next.ends side).tasks = (tunnel.ends side).tasks) := by
  have attempted := attempt_actAt taken side
  cases made : tunnel.actAt side act with
  | none =>
      rw [made] at attempted
      obtain same := Option.some.inj attempted
      exact ⟨fun _ _ found => same ▸ found, fun _ => by rw [same]⟩
  | some endpointAct =>
      rw [made] at attempted
      obtain ⟨not_session, serves⟩ := at_end transports made
      have moved := Endpoint.step_cases attempted
      generalize next.ends side = ep at moved
      cases moved with
      | session => exact absurd rfl (not_session _ _ _)
      | spawn =>
          refine ⟨fun _ _ found => well.tasks_spawn found, fun client => ?_⟩
          cases client.symm.trans (serves _ _ rfl)
      | _ => exact ⟨fun _ _ => id, fun _ => rfl⟩

/-- Only the transport has moved on. -/
structure MovedOn (linkMdu : ℕ+) (socks : FastSocks5) (start tunnel : Tunnel) : Prop where
  /-- The tunnel has gone on from where it started. -/
  reached : Execution.Reachable (step linkMdu socks) start tunnel
  /-- The sessions are as they were. -/
  sessions : ∀ side chan task, (start.ends side).tasks chan = some task →
    (tunnel.ends side).tasks chan = some task
  /-- The client has accepted no connection. -/
  client : (tunnel.ends .client).tasks = (start.ends .client).tasks

theorem MovedOn.distinctIds {start : Tunnel} (moved : MovedOn linkMdu socks start tunnel)
    (distinct : start.DistinctIds) : tunnel.DistinctIds := by
  rw [DistinctIds, Endpoint.DistinctIds, moved.client]
  exact distinct

theorem not_refused {side : Side} {act : TunnelAct}
    (reachable : Execution.Reachable (step linkMdu socks) (new filterConfig link) tunnel)
    (distinct : next.DistinctIds) (taken : tunnel.step linkMdu socks act = some next)
    (sid : UInt32) : tunnel.actAt side act ≠ some (.refuse sid) := by
  intro refuses
  cases side with
  | client =>
      cases act with
      | handle other =>
          simp only [actAt, Option.ite_none_right_eq_some, Option.bind_eq_some_iff] at refuses
          obtain ⟨_, frame, _, reacts⟩ := refuses
          cases reacts
      | _ => simp [actAt] at refuses
  | server =>
      have opens : (tunnel.actAt .server act).bind Endpoint.opens = some (sid, none) := by
        rw [refuses]
        rfl
      obtain ⟨frame, handles, connects, starts⟩ := refuses_of_actAt opens
      have handled : frame ∈ (next.inbound .server).handled := by
        simp [handled_step taken, handles]
      obtain ⟨acts, execution⟩ := reachable.tail taken
      obtain ⟨_, _, _, request, _, _, _, _, same, _⟩ :=
        request_of_handled execution distinct handled connects
      rw [same, request.starts_frame] at starts
      cases starts

/-- The transport has always less work to do. -/
theorem descends {start : Tunnel}
    (reachable : Execution.Reachable (step linkMdu socks) (new filterConfig link) start)
    (distinct : start.DistinctIds) :
    Execution.Descends (step linkMdu socks) TunnelAct.Transports (MovedOn linkMdu socks start)
      (work linkMdu) := by
  have kept : ∀ before act after, MovedOn linkMdu socks start before → act.Transports →
      step linkMdu socks before act = some after → MovedOn linkMdu socks start after := by
    intro before act after moved transports taken
    have well := (kept_of_reachable (reachable.trans moved.reached)).well
    refine ⟨moved.reached.tail taken, fun side chan task found => ?_, ?_⟩
    · exact (tasks_of_transports transports taken (well side)).1 chan task
        (moved.sessions side chan task found)
    · exact ((tasks_of_transports transports taken (well .client)).2 rfl).trans moved.client
  refine ⟨kept, fun before act after moved transports taken => ?_⟩
  have reached := reachable.trans moved.reached
  have coherent := coherent_of_reachable reached (moved.distinctIds distinct)
  have distinct_after := (kept before act after moved transports taken).distinctIds distinct
  cases act with
  | sender => exact work_sender coherent taken
  | deliver => exact work_deliver taken
  | handle => exact work_handle (not_refused reached distinct_after taken) taken
  | _ => exact transports.elim

/-- Everything the sessions have sent is in the hands of the sessions it was meant for. -/
structure Delivered (tunnel : Tunnel) : Prop where
  /-- The event loops have handled what the other end has sent. -/
  handled : ∀ side,
    (tunnel.inbound side).handled = (tunnel.ends side.peer).mux.log.map Outgoing.frame
  /-- A session of the client that has asked for a session of the server has got one. -/
  answered : ∀ chan source, (tunnel.ends .client).tasks chan = some source → source.sent ≠ [] →
    ∃ peer sink, (tunnel.ends .server).tasks peer = some sink ∧ sink.sid = source.sid
  /-- A session that has not ended has taken what the session at the other end has sent, or has it
  in its channel. -/
  inbox : ∀ side chan task peer other, (tunnel.ends side).tasks chan = some task →
    (tunnel.ends side.peer).tasks peer = some other → other.sid = task.sid →
    task.hasEnded = false →
    (tunnel.ends side).inbox chan task = other.sent.filter side.admits

theorem Drained.delivered_of_reachable (drained : tunnel.Drained)
    (reachable : Execution.Reachable (step linkMdu socks) (new filterConfig link) tunnel)
    (distinct : tunnel.DistinctIds) : tunnel.Delivered := by
  have coherent := coherent_of_reachable reachable distinct
  have handled := drained.handled_eq coherent (settled_of_reachable reachable)
  refine ⟨handled, fun chan source found sends => ?_,
    fun side chan task peer other found found_other same_sid running => ?_⟩
  · cases frames : source.sent with
    | nil => exact absurd frames sends
    | cons frame rest =>
        have sound := (coherent.sound .client).tasks chan source found
        have logged : frame ∈ framesOf source.sid
            ((tunnel.ends .client).mux.log.map Outgoing.frame) := by
          simp [coherent.sent_eq found, frames]
        obtain ⟨member, same_sid⟩ := mem_framesOf.mp logged
        have connects : frame.frameType = .connect := by
          simpa [sound.side, Side.opening] using (sound.phase.sent_cons frames).1
        obtain ⟨acts, execution⟩ := reachable
        obtain ⟨peer, sink, found_sink, sink_sid⟩ := server_of_handled execution distinct
          (handled .server ▸ member) connects
        exact ⟨peer, sink, found_sink, sink_sid.trans same_sid⟩
  · have registered := (coherent.sound side).registered chan task found running
    rw [((coherent.delivers side) chan task found).2 registered, Side.dispatched, handled side,
      ← same_sid, coherent.sent_eq found_other]

/-- From every state of a tunnel whose sessions have ids of their own, the link senders and the
event loops come to an end however they are scheduled, whatever the sessions do not do: their steps
are bounded by the work at hand. Where they end, nothing is on its way, every session is as it was,
each session of the client that has sent its request has a session at the server, and each session
that still runs has all that the other one has sent. -/
theorem transportDelivers
    (reachable : Execution.Reachable (step linkMdu socks) (new filterConfig link) tunnel)
    (distinct : tunnel.DistinctIds) :
    (∀ acts after, Execution.Only TunnelAct.Transports acts →
      Execution.run (step linkMdu socks) tunnel acts = some after →
      acts.length ≤ tunnel.work linkMdu) ∧
    (∃ acts after, Execution.Only TunnelAct.Transports acts ∧
      Execution.run (step linkMdu socks) tunnel acts = some after ∧
      Execution.Stuck (step linkMdu socks) TunnelAct.Transports after) ∧
    ∀ acts after, Execution.Only TunnelAct.Transports acts →
      Execution.run (step linkMdu socks) tunnel acts = some after →
      Execution.Stuck (step linkMdu socks) TunnelAct.Transports after →
      MovedOn linkMdu socks tunnel after ∧ after.Drained ∧ after.Delivered := by
  have descends := descends reachable distinct
  have start : MovedOn linkMdu socks tunnel tunnel := ⟨.refl tunnel, fun _ _ _ => id, rfl⟩
  refine ⟨fun acts after only execution => ?_, descends.exists_stuck start,
    fun acts after only execution stuck => ?_⟩
  · have bound := descends.length_le start only execution
    omega
  · have moved := descends.run_kept start only execution
    have reached := reachable.trans moved.reached
    have distinct_after := moved.distinctIds distinct
    have drained := drained_of_stuck (coherent_of_reachable reached distinct_after)
      (settled_of_reachable reached) stuck
    exact ⟨moved, drained, drained.delivered_of_reachable reached distinct_after⟩

/-- The request of a session that has been accepted reaches the server. -/
theorem transportDelivers_openSession :
    ∃ tunnel source, Execution.run (step 431 .rfc1928) (new (serverConfig false false) 1)
        (openSession.take 2) = some tunnel ∧
      (tunnel.ends .client).tasks 0 = some source ∧
      ∃ acts after peer sink, Execution.Only TunnelAct.Transports acts ∧
        Execution.run (step 431 .rfc1928) tunnel acts = some after ∧ after.Drained ∧
        (after.ends .server).tasks peer = some sink ∧ sink.sid = source.sid := by
  have ends : ∃ tunnel source, Execution.run (step 431 .rfc1928)
        (new (serverConfig false false) 1) (openSession.take 2) = some tunnel ∧
      (tunnel.ends .client).tasks 0 = some source ∧ (tunnel.ends .client).mux.nextChan = 1 ∧
      source.sent.length = 1 :=
    ⟨_, _, rfl, rfl, rfl, rfl⟩
  obtain ⟨tunnel, source, execution, found, single, sends⟩ := ends
  have reachable :
      Execution.Reachable (step 431 .rfc1928) (new (serverConfig false false) 1) tunnel :=
    ⟨_, execution⟩
  obtain ⟨_, ⟨acts, after, only, goes_on, stuck⟩, ended⟩ :=
    transportDelivers reachable (distinctIds_of_single reachable single)
  obtain ⟨moved, drained, delivered⟩ := ended acts after only goes_on stuck
  obtain ⟨peer, sink, found_sink, same_sid⟩ := delivered.answered 0 source
    (moved.sessions .client 0 source found) (List.ne_nil_of_length_eq_add_one sends)
  exact ⟨tunnel, source, execution, found, acts, after, peer, sink, only, goes_on, drained,
    found_sink, same_sid⟩

end Runs

end Tunnel

end RnsProxy
