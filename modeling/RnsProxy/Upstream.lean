import RnsProxy.Network

/-!
# What the server makes of the links of a client

For every link of the client that the server hears of, it has one multiplexer, and the frames it has
decoded are those in the packets that the link has delivered. Which link the client uses by now, and
what has become of the others, does not matter.
-/

namespace RnsProxy

/-- The frames of a packet that the event loop has still to handle for a multiplexer. -/
def Server.pendingFor (server : Server) (muxId : MuxId) : List Frame :=
  match server.handling with
  | some (handled, frames) => if handled = muxId then frames else []
  | none => []

theorem Endpoint.Step.packetsOn_isPrefix {linkMdu : ℕ+} {socks : FastSocks5} {ep next : Endpoint}
    {act : EndpointAct} (taken : Endpoint.Step linkMdu socks ep act next) (link : LinkId) :
    ep.mux.packetsOn link <+: next.mux.packetsOn link := by
  have grows {more : List (LinkId × Bytes)} (wire : next.mux.wire = ep.mux.wire ++ more) :
      ep.mux.packetsOn link <+: next.mux.packetsOn link := by
    simp [Mux.packetsOn, wire]
  cases taken with
  | session found taken performs => cases performs <;> exact grows (List.append_nil _).symm
  | @dispatch frame =>
      obtain ⟨channels, same⟩ := ep.mux.dispatch_frame frame
      exact grows (show _ = _ ++ [] by simp [same])
  | sender taken =>
      cases taken with
      | sentLast => exact grows rfl
      | sentChunk => exact grows rfl
      | _ => exact grows (List.append_nil _).symm
  | _ => exact grows (List.append_nil _).symm

theorem Endpoint.Step.recvBuf_kept {linkMdu : ℕ+} {socks : FastSocks5} {ep next : Endpoint}
    {act : EndpointAct} (taken : Endpoint.Step linkMdu socks ep act next)
    (not_received : ∀ data, act ≠ .receive data) (not_reset : act ≠ .resetRecvBuf) :
    next.mux.recvBuf = ep.mux.recvBuf := by
  cases taken with
  | session found taken performs => cases performs <;> rfl
  | @dispatch frame =>
      obtain ⟨channels, same⟩ := ep.mux.dispatch_frame frame
      simp [same]
  | receive => exact absurd rfl (not_received _)
  | sender taken =>
      obtain ⟨linkId, dataSenderBuf, sender, wire, handed, rfl⟩ := taken.frame
      rfl
  | resetRecvBuf => exact absurd rfl not_reset
  | _ => rfl

namespace Network

/-- The packets of a link that have been reported to a program. -/
def arrived (network : Network) (side : Side) (link : LinkId) : List Bytes :=
  (network.packets side link).take (network.delivered side link)

section Steps

variable {linkMdu : ℕ+} {socks : FastSocks5} {filterConfig : FilterConfig} {network next : Network}

/-- A step of the client. -/
theorem step_client {act : ClientAct}
    (taken : network.step linkMdu socks (.client act) = some next) :
    network.permits (.client act) = true ∧ ∃ client,
      network.client.step linkMdu socks act = some client ∧
      next = { network.record (.client act) with client } := by
  simp only [step, Option.ite_none_right_eq_some, Option.map_eq_some_iff] at taken
  obtain ⟨permits, client, stepped, rfl⟩ := taken
  exact ⟨permits, client, stepped, rfl⟩

/-- A step of the server. -/
theorem step_server {act : ServerAct}
    (taken : network.step linkMdu socks (.server act) = some next) :
    network.permits (.server act) = true ∧ ∃ server,
      network.server.step linkMdu socks act = some server ∧
      next = { network.record (.server act) with server } := by
  simp only [step, Option.ite_none_right_eq_some, Option.map_eq_some_iff] at taken
  obtain ⟨permits, server, stepped, rfl⟩ := taken
  exact ⟨permits, server, stepped, rfl⟩

theorem fresh_of_permits {link : LinkId}
    (permits : network.permits (.client (.attempt (.created link))) = true) :
    link ∉ network.links ∧ network.life .client link = .unheard ∧
      network.life .server link = .unheard := by
  simpa [Network.permits, DeploymentAct.report, DeploymentAct.created, and_assoc] using permits

/-- The books of the other side are left alone. -/
theorem record_client (network : Network) (act : ClientAct) :
    (network.record (.client act)).life .server = network.life .server ∧
      (network.record (.client act)).delivered .server = network.delivered .server := by
  cases act with
  | event event => cases event <;> simp [record, DeploymentAct.report]
  | _ => exact ⟨rfl, rfl⟩

theorem mem_links_record {act : ClientAct} {link : LinkId} :
    link ∈ (network.record (.client act)).links ↔
      link ∈ network.links ∨ act = .attempt (.created link) := by
  have created : link ∈ (DeploymentAct.client act).created.toList ↔
      act = .attempt (.created link) := by
    cases act with
    | attempt outcome => cases outcome <;> simp [DeploymentAct.created, eq_comm]
    | _ => simp [DeploymentAct.created]
  simp [record, created]

/-- What the client has handed to a link it does not take back. -/
theorem packets_client {act : ClientAct} {client : Client}
    (taken : network.client.step linkMdu socks act = some client) (link : LinkId) :
    network.packets .server link <+: client.endpoint.mux.packetsOn link := by
  obtain ⟨endpointAct, _, stepped⟩ := Client.turn_of_step taken
  cases endpointAct with
  | none =>
      have same : network.client.endpoint = client.endpoint := Option.some.inj stepped
      rw [packets, same]
  | some made =>
      have stepped : network.client.endpoint.step linkMdu socks made = some client.endpoint :=
        stepped
      exact (Endpoint.step_cases stepped).packetsOn_isPrefix link

/-! ## What the server has decoded -/

/-- What the server has made of the packets that the links of the client have delivered. -/
structure Upward (linkMdu : ℕ+) (socks : FastSocks5) (filterConfig : FilterConfig)
    (network : Network) : Prop where
  /-- The tables of the server agree. -/
  well : network.server.WellFormed linkMdu socks
  /-- The filter is configured once. -/
  config : network.server.filterConfig = filterConfig
  /-- A link that the server has not heard of has delivered nothing. -/
  unheard : ∀ link, network.life .server link = .unheard → network.delivered .server link = 0
  /-- A link delivers no more than it has taken. -/
  bounded : ∀ link ∈ network.links,
    network.delivered .server link ≤ (network.packets .server link).length
  /-- The server has a multiplexer only for a link it has heard of. -/
  heard : ∀ muxId < network.server.nextMux,
    network.life .server (network.server.linkOf muxId) ≠ .unheard
  /-- It has one for each. -/
  unique : ∀ muxId < network.server.nextMux, ∀ other < network.server.nextMux,
    network.server.linkOf muxId = network.server.linkOf other → muxId = other
  /-- It finds it as long as the link is up. -/
  table : ∀ muxId < network.server.nextMux,
    network.life .server (network.server.linkOf muxId) = .up →
      network.server.linkMuxes (network.server.linkOf muxId) = some muxId
  /-- It has decoded what has arrived, and its sessions have heard what was handled of it. -/
  intake : ∀ muxId < network.server.nextMux, network.server.linkOf muxId ∈ network.links →
    ∃ handled, receiveAll [] (network.arrived .server (network.server.linkOf muxId)) =
        (handled ++ network.server.pendingFor muxId,
          (network.server.muxes muxId).mux.recvBuf) ∧
      (network.server.muxes muxId).Hearing socks filterConfig handled

theorem upward_new (filterConfig : FilterConfig) (first : LinkId) (listeners : List Listener) :
    Upward linkMdu socks filterConfig (new filterConfig first listeners) where
  well := Server.wellFormed_new filterConfig
  config := rfl
  unheard _ _ := rfl
  bounded _ _ := Nat.zero_le _
  heard muxId bound := absurd bound (Nat.not_lt_zero muxId)
  unique muxId bound := absurd bound (Nat.not_lt_zero muxId)
  table muxId bound := absurd bound (Nat.not_lt_zero muxId)
  intake muxId bound := absurd bound (Nat.not_lt_zero muxId)

/-- What the client does is nothing to the server. -/
theorem Upward.client_step (up : Upward linkMdu socks filterConfig network) {act : ClientAct}
    (taken : network.step linkMdu socks (.client act) = some next) :
    Upward linkMdu socks filterConfig next := by
  obtain ⟨permits, client, stepped, rfl⟩ := step_client taken
  obtain ⟨life, delivered⟩ := network.record_client act
  have packets := packets_client stepped
  -- a link the client creates is none the server has heard of
  have known {link : LinkId} (member : link ∈ (network.record (.client act)).links) :
      link ∈ network.links ∨ network.life .server link = .unheard := by
    rcases mem_links_record.mp member with before | rfl
    · exact .inl before
    · exact .inr (fresh_of_permits permits).2.2
  refine ⟨up.well, up.config, ?_, fun link member => ?_, ?_, up.unique, ?_,
    fun muxId used member => ?_⟩
  · simpa [life, delivered] using up.unheard
  · have bounded : network.delivered .server link ≤ (network.packets .server link).length := by
      rcases known member with before | unheard
      · exact up.bounded link before
      · simp [up.unheard link unheard]
    simpa [delivered, Network.packets] using bounded.trans (packets link).length_le
  · simpa [life] using up.heard
  · simpa [life] using up.table
  · have before : network.server.linkOf muxId ∈ network.links :=
      (known member).resolve_right (up.heard muxId used)
    obtain ⟨handled, received, hearing⟩ := up.intake muxId used before
    refine ⟨handled, ?_, hearing⟩
    obtain ⟨more, grown⟩ := packets (network.server.linkOf muxId)
    have arrived : arrived { network.record (.client act) with client } .server
        (network.server.linkOf muxId) =
        network.arrived .server (network.server.linkOf muxId) := by
      have taken : client.endpoint.mux.packetsOn (network.server.linkOf muxId) =
        network.packets .server (network.server.linkOf muxId) ++ more := grown.symm
      simp only [Network.arrived, Network.packets, delivered, taken]
      exact List.take_append_of_le_length (up.bounded _ before)
    exact arrived ▸ received

theorem links_record_server (network : Network) (act : ServerAct) :
    (network.record (.server act)).links = network.links := by
  simp [record, DeploymentAct.created]

/-- A step of the server that is no event leaves the books alone. -/
theorem record_server {act : ServerAct} (no_event : ∀ event, act ≠ .event event) :
    network.record (.server act) = network := by
  cases act with
  | event event => exact absurd rfl (no_event event)
  | _ => simp [record, DeploymentAct.created, DeploymentAct.report, DeploymentAct.closes]

/-- An event the server hears of. -/
theorem record_event (network : Network) (event : ProxyEvent) :
    (network.record (.server (.event event))).life .server =
        lifeAfter (network.life .server) event ∧
      (network.record (.server (.event event))).delivered .server =
        deliveredAfter (network.delivered .server) event := by
  simp [record, DeploymentAct.report]

theorem Upward.update (up : Upward linkMdu socks filterConfig network) {muxId : MuxId}
    {ep : Endpoint} {handling : Option (MuxId × List Frame)}
    (well : Server.WellFormed linkMdu socks
      { network.server with
        muxes := Function.update network.server.muxes muxId ep
        handling })
    (others : ∀ other ≠ muxId,
      Server.pendingFor { network.server with handling } other = network.server.pendingFor other)
    (goes_on : ∀ handled, (network.server.muxes muxId).Hearing socks filterConfig handled →
      ∃ later, ep.Hearing socks filterConfig later ∧
        later ++ Server.pendingFor { network.server with handling } muxId =
          handled ++ network.server.pendingFor muxId)
    (recvBuf : ep.mux.recvBuf = (network.server.muxes muxId).mux.recvBuf) :
    Upward linkMdu socks filterConfig
      { network with
        server :=
          { network.server with
            muxes := Function.update network.server.muxes muxId ep
            handling } } :=
  { up with
    well
    intake := fun other used member => by
      obtain ⟨handled, received, hearing⟩ := up.intake other used member
      by_cases same : other = muxId
      · subst same
        obtain ⟨later, hearing, split⟩ := goes_on handled hearing
        refine ⟨later, ?_, by simpa using hearing⟩
        simp only [Function.update_self, recvBuf]
        exact received.trans (congrArg (·, _) split.symm)
      · refine ⟨handled, ?_, by simpa [same] using hearing⟩
        simp only [Function.update_of_ne same]
        exact received.trans (congrArg (fun pending => (handled ++ pending, _))
          (others other same).symm) }

/-- The server hears of a link that is up. -/
theorem Upward.established (up : Upward linkMdu socks filterConfig network) {link : LinkId}
    (idle : network.server.handling = none) (new : network.life .server link = .unheard)
    (well : Server.WellFormed linkMdu socks
      { network.server with
        linkMuxes := Function.update network.server.linkMuxes link (some network.server.nextMux)
        muxes :=
          Function.update network.server.muxes network.server.nextMux
            { Endpoint.new with mux := Mux.new.setLinkId link }
        nextMux := network.server.nextMux + 1
        linkOf := Function.update network.server.linkOf network.server.nextMux link }) :
    Upward linkMdu socks filterConfig
      { network.record (.server (.event (.linkEstablished link false))) with
        server :=
          { network.server with
            linkMuxes :=
              Function.update network.server.linkMuxes link (some network.server.nextMux)
            muxes :=
              Function.update network.server.muxes network.server.nextMux
                { Endpoint.new with mux := Mux.new.setLinkId link }
            nextMux := network.server.nextMux + 1
            linkOf := Function.update network.server.linkOf network.server.nextMux link } } := by
  obtain ⟨life, delivered⟩ := network.record_event (.linkEstablished link false)
  have links := network.links_record_server (.event (.linkEstablished link false))
  simp only [lifeAfter, deliveredAfter] at life delivered
  -- the multiplexers there are belong to other links
  have other {muxId : MuxId} (used : muxId < network.server.nextMux) :
      network.server.linkOf muxId ≠ link := fun same => up.heard muxId used (same ▸ new)
  have cases_of {muxId : MuxId} (bound : muxId < network.server.nextMux + 1) :
      muxId = network.server.nextMux ∨ muxId < network.server.nextMux ∧
        muxId ≠ network.server.nextMux := by
    rcases Nat.lt_succ_iff_lt_or_eq.mp bound with old | same
    · exact .inr ⟨old, old.ne⟩
    · exact .inl same
  refine ⟨well, up.config, ?_, ?_, ?_, ?_, ?_, ?_⟩
  · intro link' unheard
    rw [life] at unheard
    have apart : link' ≠ link := by
      rintro rfl
      simp at unheard
    rw [Function.update_of_ne apart] at unheard
    rw [delivered]
    exact up.unheard link' unheard
  · intro link' member
    rw [delivered]
    exact up.bounded link' (links ▸ member)
  · intro muxId bound
    rw [life]
    rcases cases_of bound with rfl | ⟨used, older⟩
    · simp
    · simpa [older, other used] using up.heard muxId used
  · intro muxId bound muxId' bound' same
    rcases cases_of bound with rfl | ⟨used, older⟩ <;>
      rcases cases_of bound' with rfl | ⟨used', older'⟩
    · rfl
    · exact absurd (by simpa [older'] using same.symm) (other used')
    · exact absurd (by simpa [older] using same) (other used)
    · exact up.unique muxId used muxId' used' (by simpa [older, older'] using same)
  · intro muxId bound
    rw [life]
    rcases cases_of bound with rfl | ⟨used, older⟩
    · simp
    · simpa [older, other used] using up.table muxId used
  · intro muxId bound member
    rcases cases_of bound with rfl | ⟨used, older⟩
    · refine ⟨[], ?_, by simpa using Endpoint.hearing_new link⟩
      simp [arrived, delivered, up.unheard link new, Server.pendingFor, idle, receiveAll,
        Framing.feedAll, Mux.setLinkId, Mux.new]
    · have member : network.server.linkOf muxId ∈ network.links := by
        simpa [older, links] using member
      obtain ⟨handled, received, hearing⟩ := up.intake muxId used member
      refine ⟨handled, ?_, by simpa [older] using hearing⟩
      simp only [arrived, delivered, Function.update_of_ne older]
      exact received

theorem lifeAfter_of_ne {life : LinkId → LinkLife} {event : ProxyEvent} {link : LinkId}
    (other : event.link ≠ some link) : lifeAfter life event link = life link := by
  cases event with
  | linkEstablished via isInitiator =>
      exact Function.update_of_ne (fun same => other (congrArg some same.symm)) _ _
  | linkClosed via => exact Function.update_of_ne (fun same => other (congrArg some same.symm)) _ _
  | _ => rfl

theorem deliveredAfter_of_ne {delivered : LinkId → ℕ} {event : ProxyEvent} {link : LinkId}
    (other : event.link ≠ some link) :
    deliveredAfter delivered event link = delivered link := by
  cases event with
  | linkData via packet =>
      exact Function.update_of_ne (fun same => other (congrArg some same.symm)) _ _
  | _ => rfl

/-- A program has still not heard of a link. -/
theorem unheard_after {side : Side} {event : ProxyEvent} (may : network.mayReport side event = true)
    {link : LinkId} (unheard : lifeAfter (network.life side) event link = .unheard) :
    network.life side link = .unheard ∧
      deliveredAfter (network.delivered side) event link = network.delivered side link := by
  by_cases other : event.link = some link
  · cases event with
    | linkEstablished via isInitiator =>
        cases other
        simp [lifeAfter] at unheard
    | linkClosed via =>
        cases other
        simp [lifeAfter] at unheard
    | linkData via packet =>
        cases other
        simp only [lifeAfter] at unheard
        simp [mayReport, unheard] at may
    | pathUpdated => cases other
  · rw [lifeAfter_of_ne other] at unheard
    exact ⟨unheard, deliveredAfter_of_ne other⟩

theorem next_of_may {link : LinkId} {packet : Bytes} {side : Side}
    (may : network.mayReport side (.linkData link packet) = true) (own : link ∈ network.links) :
    (network.packets side link)[network.delivered side link]? = some packet := by
  simpa [mayReport, isNext, own] using (Bool.and_eq_true_iff.mp may).2

theorem bounded_after {event : ProxyEvent} (may : network.mayReport .server event = true)
    (bounded : ∀ link ∈ network.links,
      network.delivered .server link ≤ (network.packets .server link).length) :
    ∀ link ∈ network.links,
      deliveredAfter (network.delivered .server) event link ≤
        (network.packets .server link).length := by
  intro link own
  by_cases other : event.link = some link
  · cases event with
    | linkData via packet =>
        cases other
        have next := next_of_may may own
        simp only [deliveredAfter, Function.update_self]
        exact (List.getElem?_eq_some_iff.mp next).1
    | _ => exact bounded link own
  · rw [deliveredAfter_of_ne other]
    exact bounded link own

/-- The server hears of an event that concerns none of its multiplexers, or of a link that is
closed. -/
theorem Upward.reported (up : Upward linkMdu socks filterConfig network) {event : ProxyEvent}
    (may : network.mayReport .server event = true)
    (aside : ∀ muxId < network.server.nextMux,
      event.link = some (network.server.linkOf muxId) →
        event = .linkClosed (network.server.linkOf muxId))
    {linkMuxes : LinkId → Option MuxId} {closed : List MuxId}
    (tables : ∀ link, event.link ≠ some link → linkMuxes link = network.server.linkMuxes link)
    (well : Server.WellFormed linkMdu socks { network.server with linkMuxes, closed }) :
    Upward linkMdu socks filterConfig
      { network.record (.server (.event event)) with
        server := { network.server with linkMuxes, closed } } := by
  obtain ⟨life, delivered⟩ := network.record_event event
  have links := network.links_record_server (.event event)
  have concerns (muxId : MuxId) (used : muxId < network.server.nextMux) :
      lifeAfter (network.life .server) event (network.server.linkOf muxId) = .gone ∧
          deliveredAfter (network.delivered .server) event (network.server.linkOf muxId) =
            network.delivered .server (network.server.linkOf muxId) ∨
        event.link ≠ some (network.server.linkOf muxId) := by
    by_cases same : event.link = some (network.server.linkOf muxId)
    · rw [aside muxId used same]
      exact .inl ⟨by simp [lifeAfter], rfl⟩
    · exact .inr same
  refine ⟨well, up.config, fun link unheard => ?_, fun link member => ?_, fun muxId used => ?_,
    up.unique, fun muxId used => ?_, fun muxId used member => ?_⟩
  · rw [life] at unheard
    obtain ⟨before, same⟩ := unheard_after may unheard
    rw [delivered, same]
    exact up.unheard link before
  · rw [delivered]
    exact bounded_after may up.bounded link (links ▸ member)
  · rw [life]
    rcases concerns muxId used with ⟨gone, _⟩ | other
    · simp [gone]
    · rw [lifeAfter_of_ne other]
      exact up.heard muxId used
  · rw [life]
    rcases concerns muxId used with ⟨gone, _⟩ | other
    · simp [gone]
    · rw [lifeAfter_of_ne other]
      exact fun still => (tables _ other).trans (up.table muxId used still)
  · obtain ⟨handled, received, hearing⟩ := up.intake muxId used (links ▸ member)
    refine ⟨handled, ?_, hearing⟩
    have same : deliveredAfter (network.delivered .server) event (network.server.linkOf muxId) =
        network.delivered .server (network.server.linkOf muxId) := by
      rcases concerns muxId used with ⟨_, same⟩ | other
      · exact same
      · exact deliveredAfter_of_ne other
    simp only [arrived, delivered, same]
    exact received

/-- The server is given a packet. -/
theorem Upward.delivered (up : Upward linkMdu socks filterConfig network) {link : LinkId}
    {packet : Bytes} {muxId : MuxId} (idle : network.server.handling = none)
    (may : network.mayReport .server (.linkData link packet) = true)
    (known : network.server.linkMuxes link = some muxId)
    (well : Server.WellFormed linkMdu socks
      { network.server with
        muxes :=
          Function.update network.server.muxes muxId
            { network.server.muxes muxId with
              mux := ((network.server.muxes muxId).mux.receiveData packet).2 }
        handling := some (muxId, ((network.server.muxes muxId).mux.receiveData packet).1) }) :
    Upward linkMdu socks filterConfig
      { network.record (.server (.event (.linkData link packet))) with
        server :=
          { network.server with
            muxes :=
              Function.update network.server.muxes muxId
                { network.server.muxes muxId with
                  mux := ((network.server.muxes muxId).mux.receiveData packet).2 }
            handling :=
              some (muxId, ((network.server.muxes muxId).mux.receiveData packet).1) } } := by
  obtain ⟨life, delivered⟩ := network.record_event (.linkData link packet)
  have links := network.links_record_server (.event (.linkData link packet))
  have same_life : lifeAfter (network.life .server) (.linkData link packet) =
      network.life .server := rfl
  rw [same_life] at life
  obtain ⟨owner, used⟩ := up.well.table link muxId known
  refine ⟨well, up.config, fun link' unheard => ?_, fun link' member => ?_, ?_, up.unique, ?_,
    fun other used_other member => ?_⟩
  · rw [life] at unheard
    obtain ⟨_, same⟩ := unheard_after may (same_life ▸ unheard)
    rw [delivered, same]
    exact up.unheard link' unheard
  · rw [delivered]
    exact bounded_after may up.bounded link' (links ▸ member)
  · rw [life]
    exact up.heard
  · rw [life]
    exact up.table
  · obtain ⟨handled, received, hearing⟩ := up.intake other used_other (links ▸ member)
    refine ⟨handled, ?_, ?_⟩
    · by_cases same : other = muxId
      · subst same
        have own : link ∈ network.links := owner ▸ links ▸ member
        have next := next_of_may may own
        have arrives : (network.packets .server link).take (network.delivered .server link + 1) =
            network.arrived .server link ++ [packet] := by
          rw [List.take_add_one, next]
          rfl
        have before : receiveAll [] (network.arrived .server link) =
            (handled, (network.server.muxes other).mux.recvBuf) := by
          rw [owner] at received
          simpa [Server.pendingFor, idle] using received
        simp only [arrived, owner, delivered, deliveredAfter, Function.update_self,
          Server.pendingFor, if_true]
        refine (congrArg (receiveAll []) arrives).trans ?_
        rw [receiveAll, Framing.feedAll_append, show Framing.feedAll Frame.decode []
          (network.arrived .server link) = _ from before]
        simp [Framing.feedAll, Mux.receiveData, receiveData]
      · have apart : (ProxyEvent.linkData link packet).link ≠
            some (network.server.linkOf other) := by
          intro here
          have here : link = network.server.linkOf other := Option.some.inj here
          exact same (up.unique other used_other muxId used (here.symm.trans owner.symm))
        simp only [arrived, delivered, deliveredAfter_of_ne apart, Function.update_of_ne same]
        refine received.trans ?_
        simp [Server.pendingFor, idle, Ne.symm same]
    · by_cases same : other = muxId
      · subst same
        have regular := Endpoint.regular_of_reachable (up.well.endpoint other)
        have received : (network.server.muxes other).step linkMdu socks (.receive packet) =
          some _ := rfl
        simpa using hearing.goes_on regular received (by simp) (by simp) (by simp)
      · simpa [same] using hearing

/-- The server looks at an event that changes nothing. -/
theorem Upward.ignored (up : Upward linkMdu socks filterConfig network) {event : ProxyEvent}
    (idle : network.server.handling = none)
    (may : network.mayReport .server event = true)
    (same : network.server.onEvent event = network.server) :
    Upward linkMdu socks filterConfig (network.record (.server (.event event))) := by
  apply up.reported may ?_ (fun _ _ => rfl) up.well
  intro muxId used concerns
  cases event with
  | linkEstablished link isInitiator =>
      cases concerns
      have unheard : network.life .server (network.server.linkOf muxId) = .unheard := by
        simpa [mayReport] using may
      exact absurd unheard (up.heard muxId used)
  | linkClosed link =>
      cases concerns
      rfl
  | linkData link packet =>
      cases concerns
      have still : network.life .server (network.server.linkOf muxId) = .up := by
        simpa using (Bool.and_eq_true_iff.mp may).1
      have busy := congrArg Server.handling same
      simp [Server.onEvent, up.table muxId used still, idle] at busy
  | pathUpdated => cases concerns

theorem may_of_permits {event : ProxyEvent}
    (permits : network.permits (.server (.event event)) = true) :
    network.mayReport .server event = true := by
  simpa [Network.permits, DeploymentAct.report, DeploymentAct.created] using permits

/-- Whatever the server does, it makes nothing else of what has arrived. -/
theorem Upward.server_step (up : Upward linkMdu socks filterConfig network) {act : ServerAct}
    (taken : network.step linkMdu socks (.server act) = some next) :
    Upward linkMdu socks filterConfig next := by
  obtain ⟨permits, server, stepped, rfl⟩ := step_server taken
  have stepped := Server.step_cases stepped
  have well := up.well.step stepped
  cases stepped with
  | @established link idle =>
      have unheard : network.life .server link = .unheard := by
        simpa [mayReport] using may_of_permits permits
      exact up.established idle unheard well
  | @closed link idle =>
      apply up.reported (may_of_permits permits) ?_ ?_ well
      · rintro muxId _ ⟨⟩
        rfl
      · intro other apart
        exact Function.update_of_ne (fun same => apart (congrArg some same.symm)) _ _
  | data idle known => exact up.delivered idle (may_of_permits permits) known well
  | ignored idle same => exact up.ignored idle (may_of_permits permits) same
  | @frame muxId frame rest act ep handling reaction acted =>
      rw [record_server (by simp)]
      have moved := Endpoint.step_cases acted
      have regular := Endpoint.regular_of_reachable (up.well.endpoint muxId)
      refine up.update well (fun other apart => ?_) (fun handled hearing => ?_) ?_
      · simp [Server.pendingFor, handling, apart.symm]
      · refine ⟨handled ++ [frame],
          hearing.handle regular (up.config ▸ reaction) acted, ?_⟩
        simp [Server.pendingFor, handling]
      · rcases Server.onFrame_cases reaction with ⟨start, rfl, _⟩ | rfl | rfl <;>
          exact moved.recvBuf_kept (by simp) (by simp)
  | @skipped muxId frame rest handling reaction =>
      rw [record_server (by simp)]
      have same := Function.update_eq_self muxId network.server.muxes
      rw [← same] at well
      have later := up.update well (fun other apart => ?_) (fun handled hearing => ?_) rfl
      · simpa only [same] using later
      · simp [Server.pendingFor, handling, apart.symm]
      · refine ⟨handled ++ [frame], hearing.skip (up.config ▸ reaction), ?_⟩
        simp [Server.pendingFor, handling]
  | @handled muxId handling =>
      rw [record_server (by simp)]
      have same := Function.update_eq_self muxId network.server.muxes
      rw [← same] at well
      have later := up.update well (fun other apart => ?_) (fun handled hearing => ?_) rfl
      · simpa only [same] using later
      · simp [Server.pendingFor, handling, apart.symm]
      · exact ⟨handled, hearing, by simp [Server.pendingFor, handling]⟩
  | @session muxId chan act ep acted =>
      rw [record_server (by simp)]
      have regular := Endpoint.regular_of_reachable (up.well.endpoint muxId)
      refine up.update well (fun _ _ => rfl) (fun handled hearing => ?_)
        ((Endpoint.step_cases acted).recvBuf_kept (by simp) (by simp))
      exact ⟨handled, hearing.goes_on regular acted (by simp) (by simp) (by simp), rfl⟩
  | @sender muxId act ep acted =>
      rw [record_server (by simp)]
      have regular := Endpoint.regular_of_reachable (up.well.endpoint muxId)
      refine up.update well (fun _ _ => rfl) (fun handled hearing => ?_)
        ((Endpoint.step_cases acted).recvBuf_kept (by simp) (by simp))
      exact ⟨handled, hearing.goes_on regular acted (by simp) (by simp) (by simp), rfl⟩

end Steps

end Network

end RnsProxy
