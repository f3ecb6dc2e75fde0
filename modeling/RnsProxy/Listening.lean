import RnsProxy.Downstream
import RnsProxy.Reconnection

/-!
# What the sessions of the client hear

However often the client has lost its link and reconnected, each of its sessions hears one session
of the server at most: the one that was opened for it. What the session writes to its application
is a beginning of what the other has read from its target.
-/

namespace RnsProxy

theorem framesOf_heard {sid : UInt32} {link : LinkId} {heard : List (LinkId × Frame)}
    (one_link : ∀ entry ∈ heard, entry.2.sessionId = sid → entry.1 = link) :
    framesOf sid (heard.map Prod.snd) = framesOf sid (heardOn link heard) := by
  simp only [framesOf, heardOn, List.filter_map, List.filter_filter]
  congr 1
  refine List.filter_congr fun entry member => ?_
  by_cases same : entry.2.sessionId = sid
  · simp [same, one_link entry member same]
  · simp [same]

theorem Task.Steady.control_of_replies {source sink : Task} (hears : source.Steady)
    (sends : sink.Steady) (serves : sink.side = .server) (heard : source.taken <+: sink.sent) :
    dataOf source.answers = [] := by
  cases taken : source.answers with
  | nil => rfl
  | cons first rest =>
      have begins : first :: rest <+: sink.sent := by
        refine List.IsPrefix.trans ?_ heard
        simp [Task.taken, taken]
      obtain ⟨more, sent⟩ := begins
      have opens := (sends.phase.sent_cons sent.symm).1
      rw [serves] at opens
      have reply : first.frameType = .connectOk ∨ first.frameType = .connectErr :=
        opens.imp_right And.right
      obtain rfl := (hears.awaits.reply first rest taken reply).1
      rcases reply with ok | err
      · simp [dataOf, ok]
      · simp [dataOf, err]

namespace Network

section Runs

variable {linkMdu : ℕ+} {socks : FastSocks5} {filterConfig : FilterConfig} {first : LinkId}
  {listeners : List Listener} {acts : List DeploymentAct} {network : Network}
  {current : Option LinkId} {heard : List (LinkId × Frame)}

theorem oneLink_of_reachable
    (reachable : Execution.Reachable (step linkMdu socks) (new filterConfig first listeners)
      network) :
    ∀ muxId < network.server.nextMux,
      (network.server.muxes muxId).mux.OneLink (network.server.linkOf muxId) := by
  have start : (new filterConfig first listeners).Upward linkMdu socks filterConfig ∧
      ∀ muxId < (new filterConfig first listeners).server.nextMux,
        ((new filterConfig first listeners).server.muxes muxId).mux.OneLink
          ((new filterConfig first listeners).server.linkOf muxId) :=
    ⟨upward_new filterConfig first listeners, fun muxId bound => absurd bound (Nat.not_lt_zero _)⟩
  have kept : ∀ (before : Network) act (after : Network),
      (before.Upward linkMdu socks filterConfig ∧ ∀ muxId < before.server.nextMux,
        (before.server.muxes muxId).mux.OneLink (before.server.linkOf muxId)) →
      before.step linkMdu socks act = some after →
      after.Upward linkMdu socks filterConfig ∧ ∀ muxId < after.server.nextMux,
        (after.server.muxes muxId).mux.OneLink (after.server.linkOf muxId) := by
    rintro before act after ⟨up, each⟩ taken
    cases act with
    | client act =>
        refine ⟨up.client_step taken, ?_⟩
        obtain ⟨_, client, _, rfl⟩ := step_client taken
        exact each
    | server act =>
        refine ⟨up.server_step taken, ?_⟩
        obtain ⟨_, server, stepped, rfl⟩ := step_server taken
        exact (Server.step_cases stepped).oneLink up.well each
  exact (reachable.invariant start kept).2

theorem Downward.mux_of_heard (down : network.Downward current heard) {entry : LinkId × Frame}
    (member : entry ∈ heard) :
    ∃ muxId < network.server.nextMux, network.server.linkOf muxId = entry.1 := by
  by_contra unknown
  obtain ⟨pieces, begins, isPrefix⟩ := down.decoded entry.1
  rw [packets_of_unknown fun muxId used same => unknown ⟨muxId, used, same⟩,
    List.prefix_nil] at begins
  have nothing : heardOn entry.1 heard = [] := by
    subst begins
    exact List.prefix_nil.mp isPrefix
  have present : entry.2 ∈ heardOn entry.1 heard :=
    List.mem_map_of_mem (List.mem_filter.mpr ⟨member, beq_self_eq_true _⟩)
  rw [nothing] at present
  cases present

theorem Downward.heardOn_isPrefix (down : network.Downward current heard)
    (reachable : Execution.Reachable (step linkMdu socks) (new filterConfig first listeners)
      network) {muxId : MuxId} (used : muxId < network.server.nextMux) :
    heardOn (network.server.linkOf muxId) heard <+:
      (network.server.muxes muxId).mux.log.map Outgoing.frame := by
  have up := (roams_of_reachable reachable).2
  obtain ⟨pieces, begins, isPrefix⟩ := down.decoded (network.server.linkOf muxId)
  rw [up.packets_of_mux used] at begins
  have fits := Endpoint.log_fits_of_reachable (up.well.endpoint muxId)
  exact isPrefix.trans ((oneLink_of_reachable reachable muxId used).decoded fits begins)

theorem not_refused
    (execution : Execution.run (step linkMdu socks) (new filterConfig first listeners) acts =
      some network)
    (distinct : network.client.endpoint.DistinctIds) {muxId : MuxId}
    (used : muxId < network.server.nextMux) (own : network.server.linkOf muxId ∈ network.links) :
    ∀ out ∈ (network.server.muxes muxId).mux.log, out.origin ≠ none := by
  intro out member origin
  obtain ⟨⟨routed, roams⟩, up⟩ := roams_of_reachable ⟨acts, execution⟩
  have fits := Endpoint.log_fits_of_reachable
    (Client.endpoint_reachable ⟨_, client_of_run execution⟩)
  obtain ⟨handled, begins, hearing⟩ := up.handled_isPrefix roams fits used own
  obtain ⟨connect, known, opens, refused⟩ := hearing.refused out member origin
  obtain ⟨earlier, since, rfl⟩ := List.append_of_mem known
  obtain ⟨chan, source, request, _, comes⟩ :=
    comesFrom_of_handled execution distinct roams.routes begins opens
  rw [comes.connects, request.starts_frame] at refused
  cases refused

theorem Downward.sink_of_heard (down : network.Downward current heard)
    (execution : Execution.run (step linkMdu socks) (new filterConfig first listeners) acts =
      some network)
    (distinct : network.client.endpoint.DistinctIds) {entry : LinkId × Frame}
    (member : entry ∈ heard) :
    ∃ muxId peer sink, network.server.linkOf muxId = entry.1 ∧
      (network.server.muxes muxId).tasks peer = some sink ∧ sink.sid = entry.2.sessionId := by
  obtain ⟨muxId, used, link⟩ := down.mux_of_heard member
  have own : network.server.linkOf muxId ∈ network.links := link ▸ down.own entry member
  have present : entry.2 ∈ heardOn (network.server.linkOf muxId) heard :=
    List.mem_map_of_mem (List.mem_filter.mpr ⟨member, by simp [link]⟩)
  obtain ⟨out, sent, same⟩ := List.mem_map.mp
    ((down.heardOn_isPrefix ⟨acts, execution⟩ used).subset present)
  obtain ⟨peer, owner⟩ :=
    Option.ne_none_iff_exists'.mp (not_refused execution distinct used own out sent)
  have up := (roams_of_reachable ⟨acts, execution⟩).2
  obtain ⟨sink, found, sink_sid⟩ :=
    (Endpoint.wellFormed_of_reachable (up.well.endpoint muxId)).origin out sent peer owner
  exact ⟨muxId, peer, sink, link, found, sink_sid.trans (congrArg Frame.sessionId same)⟩

/-- This holds in every run, as long as no id is given out twice. -/
theorem downward_of_reachable
    (reachable : Execution.Reachable (step linkMdu socks) (new filterConfig first listeners)
      network)
    (distinct : network.client.endpoint.DistinctIds) :
    ∃ current heard, network.Downward current heard := by
  have start : Execution.Reachable (step linkMdu socks) (new filterConfig first listeners)
        (new filterConfig first listeners) ∧
      ((new filterConfig first listeners).client.endpoint.DistinctIds →
        ∃ current heard, (new filterConfig first listeners).Downward current heard) :=
    ⟨.refl _, fun _ => ⟨_, _, downward_new filterConfig first listeners⟩⟩
  have kept : ∀ (before : Network) act (after : Network),
      (Execution.Reachable (step linkMdu socks) (new filterConfig first listeners) before ∧
        (before.client.endpoint.DistinctIds → ∃ current heard, before.Downward current heard)) →
      before.step linkMdu socks act = some after →
      Execution.Reachable (step linkMdu socks) (new filterConfig first listeners) after ∧
        (after.client.endpoint.DistinctIds → ∃ current heard, after.Downward current heard) := by
    rintro before act after ⟨reached, hears⟩ taken
    refine ⟨reached.tail taken, fun distinct => ?_⟩
    have up := (roams_of_reachable reached).2
    cases act with
    | server act =>
        have later := (roams_of_reachable (reached.tail taken)).2
        have same : after.client = before.client := by
          obtain ⟨_, server, _, rfl⟩ := step_server taken
          rfl
        obtain ⟨current, heard, down⟩ := hears (same ▸ distinct)
        exact ⟨current, heard, down.server_step up later taken⟩
    | client act =>
        obtain ⟨past, execution⟩ := reached
        have clientRun := client_of_run execution
        have ep := Client.endpoint_reachable ⟨_, clientRun⟩
        have regular := Endpoint.regular_of_reachable ep
        have distinct_before : before.client.endpoint.DistinctIds := by
          obtain ⟨_, client, stepped, rfl⟩ := step_client taken
          obtain ⟨choice, _, moved⟩ := Client.turn_of_step stepped
          exact Execution.attempt_invariant
            (fun after : Endpoint => after.DistinctIds → before.client.endpoint.DistinctIds) id
            (fun _ _ acted distinct => distinct.of_step regular.well (Endpoint.step_cases acted))
            moved distinct
        obtain ⟨current, heard, down⟩ := hears distinct_before
        have fresh := Client.allFresh_of_distinctIds ⟨_, clientRun⟩ distinct_before
        have sessions : ∀ entry ∈ heard, ∃ chan task,
            before.client.endpoint.tasks chan = some task ∧ task.sid = entry.2.sessionId := by
          intro entry member
          obtain ⟨muxId, peer, sink, link, found, sink_sid⟩ :=
            down.sink_of_heard execution distinct_before member
          obtain ⟨_, _, chan, source, _, same_sid, comes, _⟩ := source_of_sink execution
            distinct_before (link ▸ down.own entry member) found
          exact ⟨chan, source, comes.found, same_sid.trans sink_sid⟩
        obtain ⟨later, more, down⟩ := down.client_step regular fresh sessions taken distinct
        exact ⟨later, heard ++ more, down⟩
  exact (reachable.invariant start kept).2 distinct

/-- A session of the client, and the session of the server that it hears. -/
structure HeardFrom (socks : FastSocks5) (filterConfig : FilterConfig) (listeners : List Listener)
    (acts : List DeploymentAct) (network : Network) (chan : ChanId) (source : Task)
    (muxId : MuxId) (peer : ChanId) (sink : Task) (request : Request) : Prop where
  /-- The session of the server is on a link of the client. -/
  own : network.server.linkOf muxId ∈ network.links
  /-- It is there. -/
  found : (network.server.muxes muxId).tasks peer = some sink
  /-- The two have the same id. -/
  same_sid : sink.sid = source.sid
  /-- This is what is asked for on the listener of the session of the client. -/
  asked : ∃ listener ∈ listeners, listener.start.request
    ((acts.filterMap DeploymentAct.clientAct).filterMap (ClientAct.taskAct chan)) = some request
  /-- The first frame of the session is the CONNECT that names its host, port and protocol. -/
  opening : source.sent.head? = some (request.frame source.sid)
  /-- The session of the server was spawned for it. -/
  served : ∃ own, Execution.run (Task.advance socks)
    (Task.spawn (request.start filterConfig) sink.sid) own = some sink
  /-- No other session of the server has the id, on whatever link of the client. -/
  only : ∀ muxId' peer' task, network.server.linkOf muxId' ∈ network.links →
    (network.server.muxes muxId').tasks peer' = some task → task.sid = source.sid →
    muxId' = muxId ∧ peer' = peer
  /-- The session of the client has taken a beginning of what the other has sent. -/
  heard : source.taken <+: sink.sent
  /-- For TCP it has written a beginning of what the other has read. -/
  written : request.flow.udp = false → source.written <+: sink.read

/-- In every run of a client and a server whose links come and go, each of which delivers a
beginning of what it is handed, whatever else the two programs do, and as long as the client has
given out fewer than `2 ^ 32` session ids: a session of the client that has heard anything at all
hears the one session of the server that was opened for it, over however many links the client has
gone. It has taken a beginning of what that session has sent, and for TCP it has written to its
application nothing but a beginning of what that session has read from its target. -/
theorem hearsItsOwn
    (execution : Execution.run (step linkMdu socks) (new filterConfig first listeners) acts =
      some network)
    (few : (acts.filterMap DeploymentAct.clientAct).countP ClientAct.allocates < 2 ^ 32)
    {chan : ChanId} {source : Task} (found : network.client.endpoint.tasks chan = some source)
    (hears : source.taken ≠ []) :
    ∃ muxId peer sink request,
      HeardFrom socks filterConfig listeners acts network chan source muxId peer sink request := by
  obtain ⟨⟨routed, roams⟩, up⟩ := roams_of_reachable ⟨acts, execution⟩
  have clientRun := client_of_run execution
  have fits := Endpoint.log_fits_of_reachable (Client.endpoint_reachable ⟨_, clientRun⟩)
  have distinct := Client.distinctIds_of_run clientRun few
  have once := Client.connects_once ⟨_, clientRun⟩ distinct
  obtain ⟨current, heard, down⟩ := downward_of_reachable ⟨acts, execution⟩ distinct
  have taken : source.taken <+: framesOf source.sid (heard.map Prod.snd) := by
    calc
      source.taken <+: network.client.endpoint.inbox chan source := List.prefix_append _ _
      _ <+: Side.client.dispatched source.sid (heard.map Prod.snd) :=
        (down.delivers chan source found).1
      _ = framesOf source.sid (heard.map Prod.snd) := by simp [Side.dispatched, Side.admits]
  -- the session of the server that one of the frames has come from
  obtain ⟨frame, member⟩ := List.exists_mem_of_ne_nil _ hears
  obtain ⟨member, frame_sid⟩ := mem_framesOf.mp (taken.subset member)
  obtain ⟨entry, listed, rfl⟩ := List.mem_map.mp member
  obtain ⟨muxId, peer, sink, link, found_sink, sink_sid⟩ :=
    down.sink_of_heard execution distinct listed
  have own : network.server.linkOf muxId ∈ network.links := link ▸ down.own entry listed
  have same_sid : sink.sid = source.sid := sink_sid.trans frame_sid
  have only : ∀ muxId' peer' task, network.server.linkOf muxId' ∈ network.links →
      (network.server.muxes muxId').tasks peer' = some task → task.sid = source.sid →
      muxId' = muxId ∧ peer' = peer := fun muxId' peer' task own' found' task_sid =>
    up.sink_unique roams fits once own found_sink own' found' (task_sid.trans same_sid.symm)
  -- so have all the others
  have one_link : ∀ other ∈ heard, other.2.sessionId = source.sid →
      other.1 = network.server.linkOf muxId := by
    intro other listed' other_sid
    obtain ⟨muxId', peer', task, link', found', task_sid⟩ :=
      down.sink_of_heard execution distinct listed'
    obtain ⟨rfl, _⟩ := only muxId' peer' task (link' ▸ down.own other listed') found'
      (task_sid.trans other_sid)
    exact link'.symm
  have used := up.used_of_found found_sink
  have fresh : (network.server.muxes muxId).Fresh peer sink.sid :=
    ⟨fun peer' task found' task_sid =>
      (only muxId peer' task own found' (task_sid.trans same_sid)).2,
      fun out sent origin => absurd origin (not_refused execution distinct used own out sent)⟩
  have sent : source.taken <+: sink.sent := by
    calc
      source.taken <+: framesOf source.sid (heardOn (network.server.linkOf muxId) heard) :=
        framesOf_heard one_link ▸ taken
      _ <+: framesOf source.sid ((network.server.muxes muxId).mux.log.map Outgoing.frame) :=
        (down.heardOn_isPrefix ⟨acts, execution⟩ used).filter _
      _ = sink.sent := by
        rw [← same_sid]
        exact (Endpoint.wellFormed_of_reachable (up.well.endpoint muxId)).framesOf_log found_sink
          fresh
  -- the session of the client it was spawned for is this one
  obtain ⟨_, _, chan', source', request, same_sid', comes, ⟨acts_sink, own_sink⟩, _⟩ :=
    source_of_sink execution distinct own found_sink
  obtain rfl := distinct chan' chan source' source comes.found found (same_sid'.trans same_sid)
  obtain rfl := Option.some.inj (comes.found.symm.trans found)
  refine ⟨muxId, peer, sink, request, own, found_sink, same_sid, comes.asked, comes.opening,
    ⟨_, own_sink⟩, only, sent, fun tcp => ?_⟩
  have steady_sink := Task.steady_of_run own_sink
  have serving : sink.side = .server := (Task.side_of_run own_sink).trans (request.side_start _)
  exact comes.steady.written_isPrefix_read steady_sink
    (fun relay spawned => comes.relay relay spawned ▸ Flow.isTcp_relay tcp)
    (Request.isTcp_of_run tcp own_sink)
    (comes.steady.control_of_replies steady_sink serving sent) (dataOf_isPrefix sent)

/-- After the first link has been lost, the target answers with two bytes on the second, of which
the application is given one. -/
def secondReply : List DeploymentAct :=
  secondLink ++
    [.server (.session 0 0 (.relay (.read ⟨.v4 .LOCALHOST, 80⟩ [7, 8]))),
      .server (.session 0 0 (.relay .readerSend)), .server (.sender 0 .recv),
      .server (.sender 0 .readLink), .server (.sender 0 (.sent true)),
      .client (.event (some (.linkData 2 (Frame.encode ⟨.data, 2, [7, 8]⟩)))), .client .dispatch,
      .client .dispatch, .client (.session 1 (.relay (.recv (some ⟨.data, 2, [7, 8]⟩)))),
      .client (.session 1 (.relay (.wrote 1)))]

/-- It is the first byte that the session for this application has read from the target. -/
theorem hearsItsOwn_secondReply :
    ∃ network source, Execution.run (step 431 .rfc1928)
        (new (connectVecMergingForward [80] [] []) 1 [.forwardedTcp 80]) secondReply =
          some network ∧
      source.written = [7] ∧
      ∃ muxId peer sink request, HeardFrom .rfc1928 (connectVecMergingForward [80] [] [])
        [.forwardedTcp 80] secondReply network 1 source muxId peer sink request := by
  have ends : ∃ network source, Execution.run (step 431 .rfc1928)
        (new (connectVecMergingForward [80] [] []) 1 [.forwardedTcp 80]) secondReply =
          some network ∧
      network.client.endpoint.tasks 1 = some source ∧ source.written = [7] ∧
      source.taken = [⟨.connectOk, 2, []⟩, ⟨.data, 2, [7, 8]⟩] :=
    ⟨_, _, rfl, rfl, rfl, rfl⟩
  obtain ⟨network, source, execution, found, written, taken⟩ := ends
  exact ⟨network, source, execution, written,
    hearsItsOwn execution (by decide) found (by simp [taken])⟩

end Runs

end Network

end RnsProxy
