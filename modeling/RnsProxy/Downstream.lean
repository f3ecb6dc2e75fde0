import RnsProxy.Upstream

/-!
# What the client makes of its links

Of all links that the client has created at most one is not gone, and the dispatch task reads no
other. So what it has dispatched of a link is a beginning of what the server's multiplexer for that
link has sent, and a session hears what is dispatched with its id until the session table is
cleared.
-/

namespace RnsProxy

/-! ## The multiplexers of the server -/

/-- A multiplexer that has had one link only: the frames it has handed to the link come first. -/
def Mux.OneLink (mux : Mux) (link : LinkId) : Prop :=
  ∃ since after, mux.Routes (since ++ after) ∧ (∀ entry ∈ since, entry.link = some link) ∧
    (∀ entry ∈ after, entry.link = none) ∧
    (mux.linkId = some link ∧ after = [] ∨ mux.linkId = none)

theorem Mux.oneLink_new (link : LinkId) : (Mux.new.setLinkId link).OneLink link :=
  ⟨[], [], routes_new.setLinkId (by simp), by simp, by simp, .inl ⟨rfl, rfl⟩⟩

/-- Whatever a link has delivered, the receiver has decoded a beginning of what was sent. -/
theorem Mux.OneLink.decoded {mux : Mux} {link : LinkId} (oneLink : mux.OneLink link)
    (fits : ∀ out ∈ mux.log, out.frame.Fits) {pieces : List Bytes}
    (delivered : pieces <+: mux.packetsOn link) :
    (receiveAll [] pieces).1 <+: mux.log.map Outgoing.frame := by
  obtain ⟨since, after, routes, own, late, _⟩ := oneLink
  have nothing : framesOn link after = [] := framesOn_eq_nil fun entry member => by
    simp [late entry member]
  calc
    (receiveAll [] pieces).1 <+: framesOn link (since ++ after) := routes.decoded fits delivered
    _ = since.map fun entry => entry.out.frame := by
      rw [framesOn_append, framesOn_eq_map own, nothing, List.append_nil]
    _ <+: mux.log.map Outgoing.frame := by
      simp [routes.log, Function.comp_def]

section Steps

variable {linkMdu : ℕ+} {socks : FastSocks5}

/-- A link that is lost is not replaced. -/
theorem Endpoint.Step.oneLink {ep next : Endpoint} {act : EndpointAct} {link : LinkId}
    (taken : Endpoint.Step linkMdu socks ep act next) (kept : ∀ other, act ≠ .setLinkId other)
    (oneLink : ep.mux.OneLink link) : next.mux.OneLink link := by
  obtain ⟨since, after, routes, own, late, active⟩ := oneLink
  obtain ⟨more, routes, linked⟩ := taken.routes routes fun other same => absurd same (kept other)
  have stays {other : LinkId} (now : next.mux.linkId = some other) :
      ep.mux.linkId = some other := (taken.linkId_of_some now).resolve_right (kept other)
  rcases active with ⟨active, rfl⟩ | inactive
  · refine ⟨since ++ more, [], by simpa using routes, fun entry member => ?_, by simp, ?_⟩
    · rcases List.mem_append.mp member with old | new
      · exact own entry old
      · exact (linked entry new).trans active
    · cases now : next.mux.linkId with
      | none => exact .inr rfl
      | some other => exact .inl ⟨(stays now).symm.trans active, rfl⟩
  · refine ⟨since, after ++ more, by simpa using routes, own, fun entry member => ?_, .inr ?_⟩
    · rcases List.mem_append.mp member with old | new
      · exact late entry old
      · exact (linked entry new).trans inactive
    · cases now : next.mux.linkId with
      | none => rfl
      | some other => cases (stays now).symm.trans inactive

namespace Server

variable {server next : Server} {act : ServerAct}

theorem Step.mux_kept (taken : Step linkMdu socks server act next)
    (well : WellFormed linkMdu socks server) {muxId : MuxId} (used : muxId < server.nextMux) :
    muxId < next.nextMux ∧ next.linkOf muxId = server.linkOf muxId ∧
      (∀ link, server.actOn muxId act ≠ some (.setLinkId link)) ∧
      Execution.attempt (Endpoint.step linkMdu socks) (server.muxes muxId)
        (server.actOn muxId act) = some (next.muxes muxId) := by
  have names : muxId < next.nextMux ∧ next.linkOf muxId = server.linkOf muxId := by
    cases taken with
    | established => exact ⟨Nat.lt_succ_of_lt used, Function.update_of_ne used.ne _ _⟩
    | _ => exact ⟨used, rfl⟩
  refine ⟨names.1, names.2, fun link sets => ?_, taken.muxes well muxId⟩
  cases act with
  | event event =>
      cases event with
      | linkEstablished via isInitiator =>
          cases isInitiator with
          | true => cases sets
          | false =>
              obtain ⟨same, _⟩ := Option.ite_none_right_eq_some.mp sets
              exact used.ne same.symm
      | linkData via data =>
          obtain ⟨_, same⟩ := Option.ite_none_right_eq_some.mp sets
          cases same
      | _ => cases sets
  | frame =>
      simp only [actOn] at sets
      split at sets
      · obtain ⟨_, reaction⟩ := Option.ite_none_right_eq_some.mp sets
        rcases onFrame_cases reaction with ⟨_, same, _⟩ | same | same <;> cases same
      · cases sets
  | session owner chan act =>
      obtain ⟨_, same⟩ := Option.ite_none_right_eq_some.mp sets
      cases same
  | sender owner act =>
      obtain ⟨_, same⟩ := Option.ite_none_right_eq_some.mp sets
      cases same

/-- Every multiplexer of the server has had its own link only. -/
theorem Step.oneLink (taken : Step linkMdu socks server act next)
    (well : WellFormed linkMdu socks server)
    (each : ∀ muxId < server.nextMux, (server.muxes muxId).mux.OneLink (server.linkOf muxId)) :
    ∀ muxId < next.nextMux, (next.muxes muxId).mux.OneLink (next.linkOf muxId) := by
  intro muxId bound
  by_cases used : muxId < server.nextMux
  · obtain ⟨_, same_link, kept, stepped⟩ := taken.mux_kept well used
    rw [same_link]
    refine Execution.attempt_invariant
      (fun ep : Endpoint => ep.mux.OneLink (server.linkOf muxId)) (each muxId used)
      (fun made chosen moved => ?_) stepped
    exact (Endpoint.step_cases moved).oneLink (fun link same => kept link (same ▸ chosen))
      (each muxId used)
  · cases taken with
    | established =>
        obtain rfl : muxId = server.nextMux :=
          le_antisymm (Nat.le_of_lt_succ bound) (not_lt.mp used)
        simpa using Mux.oneLink_new _
    | _ => exact absurd bound used

end Server

end Steps

namespace Endpoint

variable {linkMdu : ℕ+} {socks : FastSocks5} {ep next : Endpoint} {choice : Option EndpointAct}

/-- Whatever an endpoint does beside dispatching, as long as no session is registered for an id that
frames have been dispatched with before. -/
theorem Delivers.goes_on {side : Side} {handled : List Frame}
    (delivers : ep.Delivers side handled) (regular : ep.Regular)
    (moved : Execution.attempt (Endpoint.step linkMdu socks) ep choice = some next)
    (not_dispatched : ∀ frame, choice ≠ some (.dispatch frame))
    (spawns : ∀ start sid, choice = some (.spawn start sid) → side.dispatched sid handled = []) :
    next.Delivers side handled := by
  refine Execution.attempt_invariant (fun after : Endpoint => after.Delivers side handled) delivers
    (fun act chosen taken => ?_) moved
  by_cases spawned : ∃ start sid, act = .spawn start sid
  · obtain ⟨start, sid, rfl⟩ := spawned
    cases taken
    exact delivers.spawn start (spawns start sid chosen)
  · intro chan later found
    obtain ⟨task, continues⟩ := continues_of_step regular taken
      (fun start sid same => spawned ⟨start, sid, same⟩)
      (fun frame same => not_dispatched frame (same ▸ chosen)) found
    obtain ⟨isPrefix, exact⟩ := delivers chan task continues.found
    rw [continues.same_sid, continues.inbox]
    exact ⟨isPrefix, fun registered => exact (continues.registered registered)⟩

theorem recvBuf_of_attempt
    (moved : Execution.attempt (Endpoint.step linkMdu socks) ep choice = some next)
    (not_received : ∀ data, choice ≠ some (.receive data))
    (not_reset : choice ≠ some .resetRecvBuf) : next.mux.recvBuf = ep.mux.recvBuf :=
  Execution.attempt_invariant (fun after : Endpoint => after.mux.recvBuf = ep.mux.recvBuf) rfl
    (fun _ chosen taken => (step_cases taken).recvBuf_kept
      (fun data same => not_received data (same ▸ chosen)) fun same => not_reset (same ▸ chosen))
    moved

end Endpoint

/-! ## What a link delivers to the client -/

/-- The frames of a link among those the client has dispatched. -/
def heardOn (link : LinkId) (heard : List (LinkId × Frame)) : List Frame :=
  (heard.filter fun entry => entry.1 == link).map Prod.snd

theorem heardOn_concat (link other : LinkId) (heard : List (LinkId × Frame)) (frame : Frame) :
    heardOn link (heard ++ [(other, frame)]) =
      heardOn link heard ++ if other = link then [frame] else [] := by
  by_cases same : other = link <;> simp [heardOn, same]

theorem heardOn_eq_nil {link : LinkId} {heard : List (LinkId × Frame)}
    (others : ∀ entry ∈ heard, entry.1 ≠ link) : heardOn link heard = [] := by
  simpa [heardOn, List.filter_eq_nil_iff] using others

theorem flatMap_range_of_single {α : Type*} {f : ℕ → List α} {bound index : ℕ}
    (inside : index < bound) (others : ∀ other < bound, other ≠ index → f other = []) :
    (List.range bound).flatMap f = f index := by
  induction bound with
  | zero => cases inside
  | succ bound ih =>
      rw [List.range_succ, List.flatMap_append, List.flatMap_singleton]
      rcases Nat.lt_succ_iff_lt_or_eq.mp inside with before | rfl
      · rw [ih before fun other below apart => others other (Nat.lt_succ_of_lt below) apart,
          others bound (Nat.lt_succ_self bound) before.ne', List.append_nil]
      · have nothing : (List.range index).flatMap f = [] := by
          rw [List.flatMap_eq_nil_iff]
          intro other below
          have below := List.mem_range.mp below
          exact others other (Nat.lt_succ_of_lt below) below.ne
        rw [nothing, List.nil_append]

namespace Network

section Steps

variable {linkMdu : ℕ+} {socks : FastSocks5} {filterConfig : FilterConfig} {network next : Network}

theorem Upward.packets_of_mux (up : Upward linkMdu socks filterConfig network) {muxId : MuxId}
    (used : muxId < network.server.nextMux) :
    network.packets .client (network.server.linkOf muxId) =
      (network.server.muxes muxId).mux.packetsOn (network.server.linkOf muxId) := by
  rw [packets, flatMap_range_of_single used fun other used_other apart => ?_, if_pos rfl]
  rw [if_neg fun same => apart (up.unique other used_other muxId used same)]

theorem packets_of_unknown {link : LinkId}
    (unknown : ∀ muxId < network.server.nextMux, network.server.linkOf muxId ≠ link) :
    network.packets .client link = [] := by
  rw [packets, List.flatMap_eq_nil_iff]
  intro muxId below
  rw [if_neg (unknown muxId (List.mem_range.mp below))]

/-- What the server has handed to a link it does not take back. -/
theorem Upward.packets_server (up : Upward linkMdu socks filterConfig network)
    (later : Upward linkMdu socks filterConfig next) {act : ServerAct}
    (taken : network.server.step linkMdu socks act = some next.server) (link : LinkId) :
    network.packets .client link <+: next.packets .client link := by
  by_cases known : ∃ muxId < network.server.nextMux, network.server.linkOf muxId = link
  · obtain ⟨muxId, used, rfl⟩ := known
    obtain ⟨still_used, same_link, _, stepped⟩ :=
      (Server.step_cases taken).mux_kept up.well used
    have after := later.packets_of_mux still_used
    rw [same_link] at after
    rw [up.packets_of_mux used, after]
    refine Execution.attempt_invariant (fun ep : Endpoint =>
      (network.server.muxes muxId).mux.packetsOn (network.server.linkOf muxId) <+:
        ep.mux.packetsOn (network.server.linkOf muxId)) List.prefix_rfl
      (fun made _ moved => ?_) stepped
    exact (Endpoint.step_cases moved).packetsOn_isPrefix _
  · rw [packets_of_unknown fun muxId used same => known ⟨muxId, used, same⟩]
    exact List.nil_prefix

/-- The client has decoded these frames from all the packets that a link has delivered, with these
bytes left over. -/
def Intake (network : Network) (link : LinkId) (frames : List Frame) (rest : Bytes) : Prop :=
  ∃ pieces, pieces <+: network.packets .client link ∧
    pieces.length = network.delivered .client link ∧ receiveAll [] pieces = (frames, rest)

/-- What the client makes of the link it uses, wherever its dispatch task stands. -/
def Follows (network : Network) (current : Option LinkId) (heard : List (LinkId × Frame)) :
    Dispatcher → Prop
  | .receiving => ∃ link, current = some link ∧
      network.Intake link (heardOn link heard) network.client.endpoint.mux.recvBuf
  | .dispatching frames => ∃ link, current = some link ∧
      network.Intake link (heardOn link heard ++ frames) network.client.endpoint.mux.recvBuf
  | .resettingLinkId => current = none
  | .resettingSessions => current = none
  | .resettingRecvBuf => current = none
  | .reconnecting _ => current = none ∧ network.client.endpoint.mux.recvBuf = []
  | .establishing link _ => current = some link ∧ network.client.endpoint.mux.recvBuf = [] ∧
      heardOn link heard = []
  | .connecting link => current = some link ∧ network.client.endpoint.mux.recvBuf = [] ∧
      heardOn link heard = [] ∧ network.delivered .client link = 0
  | .stopped => True

/-- What the client has dispatched, with the link each frame has come over. -/
structure Downward (network : Network) (current : Option LinkId)
    (heard : List (LinkId × Frame)) : Prop where
  /-- A link that the client has not heard of has delivered nothing. -/
  unheard : ∀ link, network.life .client link = .unheard → network.delivered .client link = 0
  /-- All links but the current one are gone, as long as the client listens. -/
  gone : network.listening = true → ∀ link ∈ network.links, current ≠ some link →
    network.life .client link = .gone
  /-- The current link is one of the client. -/
  known : ∀ link, current = some link → link ∈ network.links
  /-- So are those it has heard. -/
  own : ∀ entry ∈ heard, entry.1 ∈ network.links
  /-- What was dispatched is a beginning of what the links have delivered. -/
  decoded : ∀ link, ∃ pieces, pieces <+: network.packets .client link ∧
    heardOn link heard <+: (receiveAll [] pieces).1
  /-- What has been delivered and not been dispatched yet. -/
  follows : network.Follows current heard network.client.dispatcher
  /-- The sessions hear what is dispatched. -/
  delivers : network.client.endpoint.Delivers .client (heard.map Prod.snd)

theorem downward_new (filterConfig : FilterConfig) (first : LinkId) (listeners : List Listener) :
    Downward (new filterConfig first listeners) (some first) [] where
  unheard _ _ := rfl
  gone _ link member other := by
    obtain rfl := List.mem_singleton.mp member
    exact absurd rfl other
  known link same := List.mem_singleton.mpr (Option.some.inj same).symm
  own entry member := by cases member
  decoded link := ⟨[], List.nil_prefix, List.nil_prefix⟩
  follows := ⟨first, rfl, [], List.nil_prefix, rfl, rfl⟩
  delivers chan task found := by simp [new, Client.new, Endpoint.new] at found

theorem Intake.of_grown {link : LinkId} {frames : List Frame} {rest : Bytes}
    (intake : network.Intake link frames rest)
    (packets : network.packets .client link <+: next.packets .client link)
    (delivered : next.delivered .client = network.delivered .client) :
    next.Intake link frames rest := by
  obtain ⟨pieces, begins, all, received⟩ := intake
  exact ⟨pieces, begins.trans packets, delivered ▸ all, received⟩

theorem Follows.of_grown {current : Option LinkId} {heard : List (LinkId × Frame)}
    {dispatcher : Dispatcher} (follows : network.Follows current heard dispatcher)
    (packets : ∀ link, network.packets .client link <+: next.packets .client link)
    (delivered : next.delivered .client = network.delivered .client)
    (recvBuf : next.client.endpoint.mux.recvBuf = network.client.endpoint.mux.recvBuf) :
    next.Follows current heard dispatcher := by
  cases dispatcher with
  | receiving =>
      obtain ⟨link, uses, intake⟩ := follows
      exact ⟨link, uses, recvBuf ▸ intake.of_grown (packets link) delivered⟩
  | dispatching frames =>
      obtain ⟨link, uses, intake⟩ := follows
      exact ⟨link, uses, recvBuf ▸ intake.of_grown (packets link) delivered⟩
  | reconnecting delay => exact ⟨follows.1, recvBuf.trans follows.2⟩
  | establishing link delay => exact ⟨follows.1, recvBuf.trans follows.2.1, follows.2.2⟩
  | connecting link =>
      obtain ⟨uses, empty, nothing, silent⟩ := follows
      exact ⟨uses, recvBuf.trans empty, nothing, delivered ▸ silent⟩
  | _ => exact follows

/-- What the server does is nothing to the client, but it may hand more to the links. -/
theorem Downward.server_step {current : Option LinkId} {heard : List (LinkId × Frame)}
    (down : network.Downward current heard) (up : Upward linkMdu socks filterConfig network)
    (later : Upward linkMdu socks filterConfig next) {act : ServerAct}
    (taken : network.step linkMdu socks (.server act) = some next) :
    next.Downward current heard := by
  obtain ⟨_, server, stepped, rfl⟩ := step_server taken
  have packets := up.packets_server later stepped
  have books : (network.record (.server act)).life .client = network.life .client ∧
      (network.record (.server act)).delivered .client = network.delivered .client := by
    cases act with
    | event event => simp [record, DeploymentAct.report]
    | _ => exact ⟨rfl, rfl⟩
  obtain ⟨life, delivered⟩ := books
  have links := network.links_record_server act
  have listening : (network.record (.server act)).listening = network.listening := by
    simp [record, DeploymentAct.closes]
  refine ⟨?_, ?_, ?_, ?_, fun link => ?_, ?_, down.delivers⟩
  · simpa [life, delivered] using down.unheard
  · simpa [life, links, listening] using down.gone
  · simpa [links] using down.known
  · simpa [links] using down.own
  · obtain ⟨pieces, begins, isPrefix⟩ := down.decoded link
    exact ⟨pieces, begins.trans (packets link), isPrefix⟩
  · exact down.follows.of_grown packets delivered rfl

/-! ### Steps of the client -/

theorem report_of_permits {event : ProxyEvent}
    (permits : network.permits (.client (.event (some event))) = true) :
    network.listening = true ∧ (∀ link, event.link = some link → link ∈ network.links) ∧
      network.mayReport .client event = true := by
  simp only [Network.permits, DeploymentAct.report, DeploymentAct.created, Bool.and_true,
    Bool.and_eq_true] at permits
  obtain ⟨⟨listening, own⟩, may⟩ := permits
  refine ⟨listening, fun link concerns => ?_, may⟩
  simpa [concerns] using own

theorem record_report (network : Network) (event : ProxyEvent) :
    network.record (.client (.event (some event))) =
      { network with
        life := Function.update network.life .client (lifeAfter (network.life .client) event)
        delivered :=
          Function.update network.delivered .client
            (deliveredAfter (network.delivered .client) event) } := by
  simp [record, DeploymentAct.report, DeploymentAct.created, DeploymentAct.closes]

theorem record_aside {act : ClientAct} (no_event : ∀ event, act ≠ .event event)
    (no_link : ∀ link, act ≠ .attempt (.created link)) :
    network.record (.client act) = network := by
  cases act with
  | event event => exact absurd rfl (no_event event)
  | attempt outcome =>
      cases outcome with
      | created link => exact absurd rfl (no_link link)
      | _ => simp [record, DeploymentAct.report, DeploymentAct.created, DeploymentAct.closes]
  | _ => simp [record, DeploymentAct.report, DeploymentAct.created, DeploymentAct.closes]

/-- A link that is gone stays gone. -/
theorem gone_after {side : Side} {event : ProxyEvent} (may : network.mayReport side event = true)
    {link : LinkId} (gone : network.life side link = .gone) :
    lifeAfter (network.life side) event link = .gone := by
  by_cases other : event.link = some link
  · cases event with
    | linkEstablished via isInitiator =>
        cases other
        simp [mayReport, gone] at may
    | linkClosed via =>
        cases other
        simp [lifeAfter]
    | linkData via packet => exact gone
    | pathUpdated => exact gone
  · rw [lifeAfter_of_ne other, gone]

theorem delivered_report {event : ProxyEvent} (no_data : ∀ link data, event ≠ .linkData link data) :
    (network.record (.client (.event (some event)))).delivered .client =
      network.delivered .client := by
  rw [record_report]
  cases event with
  | linkData link data => exact absurd rfl (no_data link data)
  | _ => simp [deliveredAfter]

variable {current : Option LinkId} {heard : List (LinkId × Frame)} {client : Client}

theorem Downward.aside (down : network.Downward current heard) {act : ClientAct}
    (no_event : ∀ event, act ≠ .event event) (no_link : ∀ link, act ≠ .attempt (.created link))
    (follows : Follows { network with client } current heard client.dispatcher)
    (delivers : client.endpoint.Delivers .client (heard.map Prod.snd)) :
    Downward { network.record (.client act) with client } current heard := by
  rw [record_aside no_event no_link]
  exact ⟨down.unheard, down.gone, down.known, down.own, down.decoded, follows, delivers⟩

/-- The client hears of a link. -/
theorem Downward.report (down : network.Downward current heard) {event : ProxyEvent}
    (permits : network.permits (.client (.event (some event))) = true) {later : Option LinkId}
    (kept : ∀ link, current = some link → later = some link ∨ event = .linkClosed link)
    (known : ∀ link, later = some link → current = some link)
    (follows : Follows { network.record (.client (.event (some event))) with client } later heard
      client.dispatcher)
    (delivers : client.endpoint.Delivers .client (heard.map Prod.snd)) :
    Downward { network.record (.client (.event (some event))) with client } later heard := by
  obtain ⟨listening, own, may⟩ := report_of_permits permits
  rw [record_report] at follows ⊢
  refine ⟨fun link unheard => ?_, fun _ link member other => ?_,
    fun link uses => down.known link (known link uses), down.own, down.decoded, follows, delivers⟩
  · simp only [Function.update_self] at unheard ⊢
    obtain ⟨before, same⟩ := unheard_after may unheard
    rw [same]
    exact down.unheard link before
  · simp only [Function.update_self]
    by_cases uses : current = some link
    · rcases kept link uses with still | rfl
      · exact absurd still other
      · simp [lifeAfter]
    · exact gone_after may (down.gone listening link member uses)

/-- The event channel is closed. -/
theorem Downward.closed (down : network.Downward current heard)
    (follows : Follows { network.record (.client (.event none)) with client } none heard
      client.dispatcher)
    (delivers : client.endpoint.Delivers .client (heard.map Prod.snd)) :
    Downward { network.record (.client (.event none)) with client } none heard := by
  have books : network.record (.client (.event none)) = { network with listening := false } := by
    simp [record, DeploymentAct.report, DeploymentAct.created, DeploymentAct.closes]
  rw [books] at follows ⊢
  exact ⟨down.unheard, by simp, by simp, down.own, down.decoded, follows, delivers⟩

/-- The client creates a link. -/
theorem Downward.created (down : network.Downward none heard) {link : LinkId}
    (follows : Follows { network.record (.client (.attempt (.created link))) with client }
      (some link) heard client.dispatcher)
    (delivers : client.endpoint.Delivers .client (heard.map Prod.snd)) :
    Downward { network.record (.client (.attempt (.created link))) with client } (some link)
      heard := by
  have books : network.record (.client (.attempt (.created link))) =
      { network with links := network.links ++ [link] } := by
    simp [record, DeploymentAct.report, DeploymentAct.created, DeploymentAct.closes]
  rw [books] at follows ⊢
  refine ⟨down.unheard, fun listening other member apart => ?_, fun other same => ?_,
    fun entry member => List.mem_append_left _ (down.own entry member), down.decoded, follows,
    delivers⟩
  · rcases List.mem_append.mp member with old | new
    · exact down.gone listening other old (by simp)
    · exact absurd (congrArg some (List.mem_singleton.mp new).symm) apart
  · cases same
    simp

theorem Downward.current_of_up (down : network.Downward current heard) {event : ProxyEvent}
    (permits : network.permits (.client (.event (some event))) = true) {link : LinkId}
    (concerns : event.link = some link) (still : network.life .client link ≠ .gone) :
    current = some link := by
  obtain ⟨listening, own, _⟩ := report_of_permits permits
  by_contra other
  exact still (down.gone listening link (own link concerns) other)

/-- The link whose end the client hears of is the current one. -/
theorem Downward.lost (down : network.Downward current heard) {link : LinkId}
    (permits : network.permits (.client (.event (some (.linkClosed link)))) = true) :
    ∀ other, current = some other →
      none = some other ∨ ProxyEvent.linkClosed link = .linkClosed other := by
  intro other uses
  obtain ⟨_, _, may⟩ := report_of_permits permits
  have ends := down.current_of_up permits rfl (by simpa [mayReport] using may)
  obtain rfl := Option.some.inj (uses.symm.trans ends)
  exact .inr rfl

theorem Intake.receive {link : LinkId} {frames : List Frame} {packet : Bytes}
    (intake : network.Intake link frames network.client.endpoint.mux.recvBuf)
    (permits : network.permits (.client (.event (some (.linkData link packet)))) = true)
    (received : client.endpoint.mux.recvBuf =
      (network.client.endpoint.mux.receiveData packet).2.recvBuf) :
    Intake { network.record (.client (.event (some (.linkData link packet)))) with client } link
      (frames ++ (network.client.endpoint.mux.receiveData packet).1)
      client.endpoint.mux.recvBuf := by
  obtain ⟨pieces, begins, all, decoded⟩ := intake
  obtain ⟨_, own, may⟩ := report_of_permits permits
  have next := next_of_may may (own link rfl)
  rw [record_report]
  refine ⟨pieces ++ [packet], ?_, ?_, ?_⟩
  · obtain ⟨rest, split⟩ := begins
    rw [← split, ← all, List.getElem?_append_right le_rfl, Nat.sub_self] at next
    obtain ⟨more, rfl⟩ : ∃ more, rest = packet :: more := by
      cases rest with
      | nil => cases next
      | cons first more => exact ⟨more, by rw [show first = packet by simpa using next]⟩
    exact ⟨more, by rw [List.append_assoc]; exact split⟩
  · simp [deliveredAfter, all]
  · rw [receiveAll, Framing.feedAll_append,
      show Framing.feedAll Frame.decode [] pieces = _ from decoded, received]
    simp [Framing.feedAll, Mux.receiveData, receiveData]

theorem Downward.receive (down : network.Downward current heard) {link : LinkId} {packet : Bytes}
    (receiving : network.client.dispatcher = .receiving)
    (permits : network.permits (.client (.event (some (.linkData link packet)))) = true)
    (dispatcher :
      client.dispatcher = .dispatching (network.client.endpoint.mux.receiveData packet).1)
    (received : client.endpoint.mux.recvBuf =
      (network.client.endpoint.mux.receiveData packet).2.recvBuf)
    (delivers : client.endpoint.Delivers .client (heard.map Prod.snd)) :
    Downward { network.record (.client (.event (some (.linkData link packet)))) with client }
      current heard := by
  have follows := down.follows
  rw [receiving] at follows
  obtain ⟨_, uses, intake⟩ := follows
  obtain ⟨_, _, may⟩ := report_of_permits permits
  have up : network.life .client link = .up := by
    simpa using (Bool.and_eq_true_iff.mp may).1
  obtain rfl :=
    Option.some.inj (uses.symm.trans (down.current_of_up permits rfl (by simp [up])))
  refine down.report permits (fun _ => .inl) (fun _ => id) ?_ delivers
  rw [dispatcher]
  exact ⟨_, uses, intake.receive permits received⟩

theorem Downward.dispatch (down : network.Downward current heard) {frame : Frame}
    {frames : List Frame} (dispatching : network.client.dispatcher = .dispatching (frame :: frames))
    (well : network.client.endpoint.WellFormed) (fresh : network.client.endpoint.AllFresh)
    (dispatcher : client.dispatcher = .dispatching frames)
    (recvBuf : client.endpoint.mux.recvBuf = network.client.endpoint.mux.recvBuf)
    (dispatched : client.endpoint =
      { network.client.endpoint with mux := network.client.endpoint.mux.dispatch frame }) :
    ∃ link, Downward { network with client } current (heard ++ [(link, frame)]) := by
  have follows := down.follows
  rw [dispatching] at follows
  obtain ⟨link, uses, pieces, begins, all, received⟩ := follows
  refine ⟨link, down.unheard, down.gone, down.known, fun entry member => ?_, fun other => ?_, ?_,
    ?_⟩
  · rcases List.mem_append.mp member with old | new
    · exact down.own entry old
    · exact List.mem_singleton.mp new ▸ down.known link uses
  · by_cases here : link = other
    · subst here
      refine ⟨pieces, begins, ?_⟩
      rw [received, heardOn_concat, if_pos rfl]
      exact (List.prefix_append_right_inj _).mpr ⟨frames, rfl⟩
    · rw [heardOn_concat, if_neg here, List.append_nil]
      exact down.decoded other
  · rw [dispatcher]
    refine ⟨link, uses, pieces, begins, all, ?_⟩
    rw [heardOn_concat, if_pos rfl, List.append_assoc, List.singleton_append, received]
    exact congrArg _ recvBuf.symm
  · rw [List.map_append]
    exact dispatched ▸ down.delivers.dispatch well fresh rfl

theorem Downward.delivers_of_attempt (down : network.Downward current heard)
    (regular : network.client.endpoint.Regular)
    (sessions : ∀ entry ∈ heard, ∃ chan task, network.client.endpoint.tasks chan = some task ∧
      task.sid = entry.2.sessionId)
    {choice : Option EndpointAct} {ep : Endpoint}
    (moved : Execution.attempt (Endpoint.step linkMdu socks) network.client.endpoint choice =
      some ep)
    (distinct : ep.DistinctIds) (not_dispatched : ∀ frame, choice ≠ some (.dispatch frame)) :
    ep.Delivers .client (heard.map Prod.snd) := by
  refine down.delivers.goes_on regular moved not_dispatched ?_
  rintro start sid rfl
  refine Side.dispatched_eq_nil fun frame member same => ?_
  obtain ⟨entry, listed, rfl⟩ := List.mem_map.mp member
  obtain ⟨chan, task, found, task_sid⟩ := sessions entry listed
  have registers := Option.some.inj moved
  refine regular.well.ne_nextChan found
    (distinct chan network.client.endpoint.mux.nextChan task (Task.spawn start sid) ?_ ?_
      (task_sid.trans same))
  · exact registers ▸ regular.well.tasks_spawn found
  · exact registers ▸ Function.update_self ..

/-- What the client hears of its links, and the end of its event channel. -/
theorem Downward.event_step (down : network.Downward current heard) {event : Option ProxyEvent}
    {endpointAct : Option EndpointAct}
    (permits : network.permits (.client (.event event)) = true)
    (turn : Client.Turn network.client (.event event) client.dispatcher endpointAct)
    (moved : Execution.attempt (Endpoint.step linkMdu socks) network.client.endpoint endpointAct =
      some client.endpoint)
    (delivers : client.endpoint.Delivers .client (heard.map Prod.snd)) :
    ∃ later, Downward { network.record (.client (.event event)) with client } later heard := by
  have recvBuf := Endpoint.recvBuf_of_attempt moved
  have follows := down.follows
  generalize same : client.dispatcher = dispatcher at turn
  cases turn with
  | loop ofLoop does => cases ofLoop
  | data receiving =>
      have received := Option.some.inj moved
      exact ⟨current,
        down.receive receiving permits same (by rw [← received]) delivers⟩
  | @lost link receiving =>
      refine ⟨none, down.report permits (down.lost permits) (by simp) ?_ delivers⟩
      rw [same]
      rfl
  | @ignored event receiving no_data not_closed =>
      rw [receiving] at follows
      refine ⟨current, down.report permits (fun _ => .inl) (fun _ => id) ?_ delivers⟩
      exact same ▸ follows.of_grown (fun _ => List.prefix_rfl) (delivered_report no_data)
        (recvBuf (by simp) (by simp))
  | shutDown receiving =>
      refine ⟨none, down.closed ?_ delivers⟩
      rw [same]
      trivial
  | @established link delay establishing =>
      rw [establishing] at follows
      obtain ⟨uses, empty, nothing⟩ := follows
      refine ⟨current, down.report permits (fun _ => .inl) (fun _ => id) ?_ delivers⟩
      obtain ⟨_, _, may⟩ := report_of_permits permits
      have silent := down.unheard link (by simpa [mayReport] using may)
      have kept : (network.record (.client (.event (some (.linkEstablished link true))))).delivered
          .client = network.delivered .client := delivered_report (by simp)
      rw [same]
      exact ⟨uses, (recvBuf (by simp) (by simp)).trans empty, nothing,
        (congrFun kept link).trans silent⟩
  | @refused link delay later establishing =>
      rw [establishing] at follows
      refine ⟨none, down.report permits (down.lost permits) (by simp) ?_ delivers⟩
      rw [same]
      exact ⟨rfl, (recvBuf (by simp) (by simp)).trans follows.2.1⟩
  | @passedOver link delay event establishing not_closed =>
      rw [establishing] at follows
      refine ⟨current, down.report permits (fun _ => .inl) (fun _ => id) ?_ delivers⟩
      rw [same]
      exact ⟨follows.1, (recvBuf (by simp) (by simp)).trans follows.2.1, follows.2.2⟩
  | @cutOff link delay later establishing =>
      rw [establishing] at follows
      refine ⟨none, down.closed ?_ delivers⟩
      rw [same]
      exact ⟨rfl, (recvBuf (by simp) (by simp)).trans follows.2.1⟩

/-- The client does something else than to hear of a link, to create one or to dispatch a frame. -/
theorem Downward.aside_step (down : network.Downward current heard) {act : ClientAct}
    {endpointAct : Option EndpointAct} (no_event : ∀ event, act ≠ .event event)
    (no_link : ∀ link, act ≠ .attempt (.created link))
    (not_dispatched : ∀ frame, endpointAct ≠ some (.dispatch frame))
    (turn : Client.Turn network.client act client.dispatcher endpointAct)
    (moved : Execution.attempt (Endpoint.step linkMdu socks) network.client.endpoint endpointAct =
      some client.endpoint)
    (delivers : client.endpoint.Delivers .client (heard.map Prod.snd)) :
    Downward { network.record (.client act) with client } current heard := by
  have recvBuf := Endpoint.recvBuf_of_attempt moved
  have follows := down.follows
  refine down.aside no_event no_link ?_ delivers
  generalize client.dispatcher = dispatcher at turn
  cases turn with
  | session => exact follows.of_grown (fun _ => List.prefix_rfl) rfl (recvBuf (by simp) (by simp))
  | sender => exact follows.of_grown (fun _ => List.prefix_rfl) rfl (recvBuf (by simp) (by simp))
  | loop ofLoop does =>
      exact follows.of_grown (fun _ => List.prefix_rfl) rfl
        (recvBuf (fun data made => does _ made) fun made => does _ made)
  | dispatch => exact absurd rfl (not_dispatched _)
  | dispatched dispatching =>
      rw [dispatching] at follows
      obtain ⟨link, uses, intake⟩ := follows
      rw [List.append_nil] at intake
      exact ⟨link, uses, recvBuf (by simp) (by simp) ▸ intake⟩
  | resetLinkId resetting =>
      rw [resetting] at follows
      exact follows
  | resetSessions resetting =>
      rw [resetting] at follows
      exact follows
  | resetRecvBuf resetting =>
      rw [resetting] at follows
      have empties := Option.some.inj moved
      exact ⟨follows, by rw [← empties]; rfl⟩
  | @retry delay later outcome reconnecting failed =>
      rw [reconnecting] at follows
      exact ⟨follows.1, (recvBuf (by simp) (by simp)).trans follows.2⟩
  | @setLinkId link connecting =>
      rw [connecting] at follows
      obtain ⟨uses, empty, nothing, silent⟩ := follows
      refine ⟨link, uses, [], List.nil_prefix, silent.symm, ?_⟩
      rw [nothing, recvBuf (by simp) (by simp), empty]
      rfl
  | created => exact absurd rfl (no_link _)
  | _ => exact absurd rfl (no_event _)

theorem Downward.created_step (down : network.Downward current heard) {link : LinkId}
    {endpointAct : Option EndpointAct}
    (permits : network.permits (.client (.attempt (.created link))) = true)
    (turn : Client.Turn network.client (.attempt (.created link)) client.dispatcher endpointAct)
    (moved : Execution.attempt (Endpoint.step linkMdu socks) network.client.endpoint endpointAct =
      some client.endpoint)
    (delivers : client.endpoint.Delivers .client (heard.map Prod.snd)) :
    Downward { network.record (.client (.attempt (.created link))) with client } (some link)
      heard := by
  have recvBuf := Endpoint.recvBuf_of_attempt moved
  have follows := down.follows
  generalize same : client.dispatcher = dispatcher at turn
  cases turn with
  | loop ofLoop does => cases ofLoop
  | retry reconnecting failed => exact absurd rfl (failed link)
  | created reconnecting =>
      rw [reconnecting] at follows
      obtain ⟨rfl, empty⟩ := follows
      refine down.created ?_ delivers
      have new : link ∉ network.links := (fresh_of_permits permits).1
      rw [same]
      exact ⟨rfl, (recvBuf (by simp) (by simp)).trans empty,
        heardOn_eq_nil fun entry member here => new (here ▸ down.own entry member)⟩

theorem Downward.dispatch_step (down : network.Downward current heard)
    (regular : network.client.endpoint.Regular) (fresh : network.client.endpoint.AllFresh)
    {act : ClientAct} {frame : Frame}
    (turn : Client.Turn network.client act client.dispatcher (some (.dispatch frame)))
    (moved : Execution.attempt (Endpoint.step linkMdu socks) network.client.endpoint
      (some (.dispatch frame)) = some client.endpoint) :
    ∃ link, Downward { network.record (.client act) with client } current
      (heard ++ [(link, frame)]) := by
  generalize same : client.dispatcher = dispatcher at turn
  cases turn with
  | loop ofLoop does => cases does _ rfl
  | dispatch dispatching =>
      have recvBuf := Endpoint.recvBuf_of_attempt moved
      rw [record_aside (by simp) (by simp)]
      exact down.dispatch dispatching regular.well fresh same (recvBuf (by simp) (by simp))
        (Option.some.inj moved).symm

/-- Whatever the client does, it makes nothing else of what its links deliver. -/
theorem Downward.client_step (down : network.Downward current heard)
    (regular : network.client.endpoint.Regular) (fresh : network.client.endpoint.AllFresh)
    (sessions : ∀ entry ∈ heard, ∃ chan task, network.client.endpoint.tasks chan = some task ∧
      task.sid = entry.2.sessionId)
    {act : ClientAct} (taken : network.step linkMdu socks (.client act) = some next)
    (distinct : next.client.endpoint.DistinctIds) :
    ∃ later more, next.Downward later (heard ++ more) := by
  obtain ⟨permits, client, stepped, rfl⟩ := step_client taken
  obtain ⟨endpointAct, turn, moved⟩ := Client.turn_of_step stepped
  have delivers := down.delivers_of_attempt regular sessions moved distinct
  by_cases dispatches : ∃ frame, endpointAct = some (.dispatch frame)
  · obtain ⟨frame, rfl⟩ := dispatches
    obtain ⟨link, holds⟩ := down.dispatch_step regular fresh turn moved
    exact ⟨current, _, holds⟩
  have delivers := delivers fun frame same => dispatches ⟨frame, same⟩
  -- nothing but a dispatched frame is added to what was heard
  suffices same_heard :
      ∃ later, Downward { network.record (.client act) with client } later heard by
    obtain ⟨later, holds⟩ := same_heard
    exact ⟨later, [], by rwa [List.append_nil]⟩
  by_cases hears : ∃ event, act = .event event
  · obtain ⟨event, rfl⟩ := hears
    exact down.event_step permits turn moved delivers
  by_cases creates : ∃ link, act = .attempt (.created link)
  · obtain ⟨link, rfl⟩ := creates
    exact ⟨some link, down.created_step permits turn moved delivers⟩
  exact ⟨current, down.aside_step (fun event same => hears ⟨event, same⟩)
    (fun link same => creates ⟨link, same⟩) (fun frame same => dispatches ⟨frame, same⟩) turn moved
    delivers⟩

end Steps

end Network

end RnsProxy
