import Mathlib.Data.Nat.Count
import RnsProxy.Server

/-!
# Clients do not interfere

One event loop and one table serve all links of the server. This file compares a run of the server
with the run in which it gets the events of one link only, and the sessions and the link sender of
that link make the same steps: the multiplexers of the link end in the same states.
-/

namespace RnsProxy

/-- The event a step receives. -/
def ServerAct.received : ServerAct → Option ProxyEvent
  | .event received => some received
  | _ => none

namespace Server

/-- How many multiplexers were created for a link before the given one. -/
def rank (server : Server) (link : LinkId) (muxId : MuxId) : MuxId :=
  Nat.count (fun other => server.linkOf other = link) muxId

/-- The packet the event loop works on, if it is one of the given link. -/
def handlingOf (server : Server) (link : LinkId) : Option (MuxId × List Frame) :=
  match server.handling with
  | some (muxId, frames) =>
      if server.linkOf muxId = link then some (server.rank link muxId, frames) else none
  | none => none

/-- A step as it is made by a server that has the given link only, if it concerns that link. -/
def concerning (link : LinkId) : Server × ServerAct → Option ServerAct
  | (_, .event event) => if event.link = some link then some (.event event) else none
  | (server, .frame) =>
      match server.handling with
      | some (muxId, _) => if server.linkOf muxId = link then some .frame else none
      | none => none
  | (server, .session muxId chan act) =>
      if server.linkOf muxId = link then some (.session (server.rank link muxId) chan act) else none
  | (server, .sender muxId act) =>
      if server.linkOf muxId = link then some (.sender (server.rank link muxId) act) else none

/-- The second server has the given link only, and is there as the first one. -/
structure Restricts (link : LinkId) (server alone : Server) : Prop where
  /-- The filter. -/
  filterConfig : alone.filterConfig = server.filterConfig
  /-- The number of multiplexers created for the link. -/
  nextMux : alone.nextMux = server.rank link server.nextMux
  /-- All of them belong to the link. -/
  linkOf : ∀ muxId < alone.nextMux, alone.linkOf muxId = link
  /-- The multiplexers, with their session tables, buffers, queues and session tasks. -/
  muxes : ∀ muxId < server.nextMux, server.linkOf muxId = link →
    alone.muxes (server.rank link muxId) = server.muxes muxId
  /-- The multiplexer in the table. -/
  linkMuxes : alone.linkMuxes link = (server.linkMuxes link).map (server.rank link)
  /-- The packet the event loop works on. -/
  handling : alone.handling = server.handlingOf link

/-- The server after a link has come up. -/
def establish (server : Server) (owner : LinkId) : Server :=
  server.onEvent (.linkEstablished owner false)

section Rank

variable {server : Server} {link : LinkId}

theorem rank_lt {muxId other : MuxId} (owner : server.linkOf muxId = link)
    (before : muxId < other) :
    server.rank link muxId < server.rank link other :=
  Nat.count_strict_mono owner before

theorem rank_inj {muxId other : MuxId} (owner : server.linkOf muxId = link)
    (owner' : server.linkOf other = link) :
    server.rank link muxId = server.rank link other ↔ muxId = other :=
  ⟨Nat.count_injective owner owner', fun same => same ▸ rfl⟩

theorem establish_linkOf (server : Server) (owner : LinkId) :
    (server.establish owner).linkOf = Function.update server.linkOf server.nextMux owner := rfl

/-- A new multiplexer does not change the order of the old ones. -/
theorem rank_establish {owner : LinkId} {muxId : MuxId} (old : muxId ≤ server.nextMux) :
    (server.establish owner).rank link muxId = server.rank link muxId := by
  have agree : ∀ other < muxId,
      ((server.establish owner).linkOf other = link ↔ server.linkOf other = link) := by
    intro other before
    rw [establish_linkOf, Function.update_of_ne (before.trans_le old).ne]
  exact le_antisymm (Nat.count_mono_left fun other before => (agree other before).mp)
    (Nat.count_mono_left fun other before => (agree other before).mpr)

theorem rank_establish_nextMux (server : Server) (link owner : LinkId) :
    (server.establish owner).rank link (server.nextMux + 1) =
      server.rank link server.nextMux + if owner = link then 1 else 0 := by
  rw [rank, Nat.count_succ, establish_linkOf, Function.update_self]
  exact congrArg (· + _) (rank_establish le_rfl)

end Rank

section Steps

variable {linkMdu : ℕ+} {socks : FastSocks5} {server next alone : Server} {act : ServerAct}
  {link : LinkId}

theorem restricts_new (filterConfig : FilterConfig) :
    Restricts link (new filterConfig) (new filterConfig) where
  filterConfig := rfl
  nextMux := rfl
  linkOf _ bound := absurd bound (Nat.not_lt_zero _)
  muxes _ bound := absurd bound (Nat.not_lt_zero _)
  linkMuxes := rfl
  handling := rfl

theorem Restricts.update (restricts : Restricts link server alone) {muxId : MuxId} {ep : Endpoint}
    (owner : server.linkOf muxId = link) {handling handling' : Option (MuxId × List Frame)}
    (same : handling' = handlingOf { server with handling } link) :
    Restricts link { server with muxes := Function.update server.muxes muxId ep, handling }
      { alone with
        muxes := Function.update alone.muxes (server.rank link muxId) ep
        handling := handling' } where
  filterConfig := restricts.filterConfig
  nextMux := restricts.nextMux
  linkOf := restricts.linkOf
  muxes other bound owner' := by
    change Function.update alone.muxes (server.rank link muxId) ep (server.rank link other) =
      Function.update server.muxes muxId ep other
    by_cases apart : other = muxId
    · simp [apart]
    · have owner' : server.linkOf other = link := owner'
      have ranks : server.rank link other ≠ server.rank link muxId := by
        rwa [Ne, rank_inj owner' owner]
      rw [Function.update_of_ne apart, Function.update_of_ne ranks]
      exact restricts.muxes other bound owner'
  linkMuxes := restricts.linkMuxes
  handling := same

/-- A multiplexer of another link does not matter. -/
theorem Restricts.elsewhere (restricts : Restricts link server alone) {muxId : MuxId}
    {ep : Endpoint} (owner : server.linkOf muxId ≠ link)
    {handling : Option (MuxId × List Frame)}
    (same : alone.handling = handlingOf { server with handling } link) :
    Restricts link
      { server with muxes := Function.update server.muxes muxId ep, handling } alone where
  filterConfig := restricts.filterConfig
  nextMux := restricts.nextMux
  linkOf := restricts.linkOf
  muxes other bound owner' := by
    have apart : other ≠ muxId := by
      rintro rfl
      exact owner owner'
    change alone.muxes (server.rank link other) = Function.update server.muxes muxId ep other
    rw [Function.update_of_ne apart]
    exact restricts.muxes other bound owner'
  linkMuxes := restricts.linkMuxes
  handling := same

/-- Both servers agree on who holds a multiplexer of the link. -/
theorem Restricts.held (restricts : Restricts link server alone)
    (well : WellFormed linkMdu socks server) {muxId : MuxId} (used : muxId < server.nextMux)
    (owner : server.linkOf muxId = link) :
    alone.held (server.rank link muxId) = server.held muxId := by
  have known : alone.linkOf (server.rank link muxId) = link :=
    restricts.linkOf _ (restricts.nextMux ▸ rank_lt owner used)
  have listed : (alone.linkMuxes link == some (server.rank link muxId)) =
      (server.linkMuxes link == some muxId) := by
    rw [restricts.linkMuxes]
    cases found : server.linkMuxes link with
    | none => rfl
    | some other => simp [rank_inj (well.table link other found).1 owner]
  have handled : alone.handles (server.rank link muxId) = server.handles muxId := by
    rw [handles, handles, restricts.handling, handlingOf]
    cases busy : server.handling with
    | none => rfl
    | some packet =>
        obtain ⟨other, frames⟩ := packet
        by_cases same : server.linkOf other = link
        · simp [same, rank_inj same owner]
        · have apart : other ≠ muxId := by
            rintro rfl
            exact same owner
          simp [same, apart]
  rw [Server.held, Server.held, known, owner, listed, handled, restricts.muxes muxId used owner]

theorem handlingOf_of_idle (idle : server.handling = none) : server.handlingOf link = none := by
  rw [handlingOf, idle]

theorem Restricts.idle (restricts : Restricts link server alone) (idle : server.handling = none) :
    alone.handling = none :=
  restricts.handling.trans (handlingOf_of_idle idle)

/-- A packet for a multiplexer of the link is handled in both servers. -/
theorem Restricts.busy (restricts : Restricts link server alone) {muxId : MuxId}
    {frames : List Frame} (handling : server.handling = some (muxId, frames))
    (owned : server.linkOf muxId = link) :
    alone.handling = some (server.rank link muxId, frames) := by
  simp [restricts.handling, handlingOf, handling, owned]

/-- While a packet for a multiplexer of another link is handled, the other server waits. -/
theorem Restricts.waits (restricts : Restricts link server alone) {muxId : MuxId}
    {frames : List Frame} (handling : server.handling = some (muxId, frames))
    (owned : server.linkOf muxId ≠ link) : alone.handling = none := by
  simp [restricts.handling, handlingOf, handling, owned]

/-- A new multiplexer leaves what is known about the old ones of a link. -/
theorem Restricts.muxes_establish (restricts : Restricts link server alone) {owner : LinkId}
    {muxId : MuxId} (old : muxId < server.nextMux)
    (owned : (server.establish owner).linkOf muxId = link) :
    alone.muxes ((server.establish owner).rank link muxId) =
      (server.establish owner).muxes muxId := by
  rw [establish_linkOf, Function.update_of_ne old.ne] at owned
  rw [rank_establish old.le, restricts.muxes muxId old owned]
  exact (Function.update_of_ne old.ne _ _).symm

/-- A multiplexer created for another link does not matter. -/
theorem Restricts.establish_elsewhere (restricts : Restricts link server alone)
    (well : WellFormed linkMdu socks server) {owner : LinkId} (apart : owner ≠ link)
    (idle : server.handling = none) : Restricts link (server.establish owner) alone where
  filterConfig := restricts.filterConfig
  nextMux := by
    have count := rank_establish_nextMux server link owner
    rw [if_neg apart, Nat.add_zero, ← restricts.nextMux] at count
    exact count.symm
  linkOf := restricts.linkOf
  muxes muxId bound owned := by
    rcases Nat.lt_succ_iff_lt_or_eq.mp bound with old | rfl
    · exact restricts.muxes_establish old owned
    · rw [establish_linkOf, Function.update_self] at owned
      exact absurd owned apart
  linkMuxes := by
    have unchanged : (server.establish owner).linkMuxes link = server.linkMuxes link :=
      Function.update_of_ne (Ne.symm apart) _ _
    rw [restricts.linkMuxes, unchanged]
    cases found : server.linkMuxes link with
    | none => rfl
    | some muxId => simp [rank_establish (well.table link muxId found).2.le]
  handling := by
    have idle_next : (server.establish owner).handling = none := idle
    rw [restricts.handling, handlingOf_of_idle idle, handlingOf_of_idle idle_next]

/-- A multiplexer created for the link is created in both servers. -/
theorem Restricts.establish (restricts : Restricts link server alone)
    (idle : server.handling = none) :
    Restricts link (server.establish link) (alone.establish link) where
  filterConfig := restricts.filterConfig
  nextMux := by
    have count := rank_establish_nextMux server link link
    rw [if_pos rfl, ← restricts.nextMux] at count
    exact count.symm
  linkOf muxId bound := by
    rw [establish_linkOf]
    rcases Nat.lt_succ_iff_lt_or_eq.mp bound with old | rfl
    · rw [Function.update_of_ne old.ne, restricts.linkOf muxId old]
    · exact Function.update_self _ _ _
  muxes muxId bound owned := by
    rcases Nat.lt_succ_iff_lt_or_eq.mp bound with old | rfl
    · have owned_before := owned
      rw [establish_linkOf, Function.update_of_ne old.ne] at owned_before
      rw [← restricts.muxes_establish old owned, rank_establish old.le]
      have below : server.rank link muxId ≠ alone.nextMux :=
        (restricts.nextMux ▸ rank_lt owned_before old).ne
      exact Function.update_of_ne below _ _
    · have here : (alone.establish link).muxes alone.nextMux =
          { Endpoint.new with mux := Mux.new.setLinkId link } := Function.update_self ..
      have there : (server.establish link).muxes server.nextMux =
          { Endpoint.new with mux := Mux.new.setLinkId link } := Function.update_self ..
      rw [rank_establish le_rfl, ← restricts.nextMux, here, there]
  linkMuxes := by
    have here : (alone.establish link).linkMuxes link = some alone.nextMux :=
      Function.update_self ..
    have there : (server.establish link).linkMuxes link = some server.nextMux :=
      Function.update_self ..
    rw [here, there, Option.map_some, rank_establish le_rfl, restricts.nextMux]
  handling := by
    have idle_next : (server.establish link).handling = none := idle
    have idle_alone : (alone.establish link).handling = none := restricts.idle idle
    rw [idle_alone, handlingOf_of_idle idle_next]

/-- The link is closed in both servers. -/
theorem Restricts.close (restricts : Restricts link server alone) :
    Restricts link (server.onEvent (.linkClosed link)) (alone.onEvent (.linkClosed link)) where
  filterConfig := restricts.filterConfig
  nextMux := restricts.nextMux
  linkOf := restricts.linkOf
  muxes := restricts.muxes
  linkMuxes := by
    have here : (alone.onEvent (.linkClosed link)).linkMuxes link = none := Function.update_self ..
    have there : (server.onEvent (.linkClosed link)).linkMuxes link = none :=
      Function.update_self ..
    rw [here, there, Option.map_none]
  handling := restricts.handling

/-- Another link that is closed does not matter. -/
theorem Restricts.close_elsewhere (restricts : Restricts link server alone) {owner : LinkId}
    (apart : owner ≠ link) : Restricts link (server.onEvent (.linkClosed owner)) alone where
  filterConfig := restricts.filterConfig
  nextMux := restricts.nextMux
  linkOf := restricts.linkOf
  muxes := restricts.muxes
  linkMuxes := by
    have unchanged : (server.onEvent (.linkClosed owner)).linkMuxes link = server.linkMuxes link :=
      Function.update_of_ne (Ne.symm apart) _ _
    rw [restricts.linkMuxes, unchanged]
    rfl
  handling := restricts.handling

/-- The event loop moves on in the packet without a change of a multiplexer. -/
theorem Restricts.proceed (restricts : Restricts link server alone)
    {handling handling' : Option (MuxId × List Frame)}
    (same : handling' = handlingOf { server with handling } link) :
    Restricts link { server with handling } { alone with handling := handling' } where
  filterConfig := restricts.filterConfig
  nextMux := restricts.nextMux
  linkOf := restricts.linkOf
  muxes := restricts.muxes
  linkMuxes := restricts.linkMuxes
  handling := same

/-- The server that has the given link only makes the step as well if it concerns the link, and is
there as the first one afterwards. -/
def Matched (linkMdu : ℕ+) (socks : FastSocks5) (link : LinkId) (server alone : Server)
    (act : ServerAct) (next : Server) : Prop :=
  ∃ later, Execution.attempt (Server.step linkMdu socks) alone (concerning link (server, act)) =
    some later ∧ Restricts link next later

theorem Matched.along {own : ServerAct} {later : Server}
    (concerns : concerning link (server, act) = some own)
    (made : Server.step linkMdu socks alone own = some later)
    (restricts : Restricts link next later) : Matched linkMdu socks link server alone act next := by
  refine ⟨later, ?_, restricts⟩
  rw [concerns]
  exact made

theorem Matched.aside (concerns : concerning link (server, act) = none)
    (restricts : Restricts link next alone) : Matched linkMdu socks link server alone act next := by
  refine ⟨alone, ?_, restricts⟩
  rw [concerns]
  rfl

theorem concerning_frame {muxId : MuxId} {frames : List Frame}
    (handling : server.handling = some (muxId, frames)) (owned : server.linkOf muxId = link) :
    concerning link (server, .frame) = some .frame := by
  simp [concerning, handling, owned]

theorem concerning_frame_of_ne {muxId : MuxId} {frames : List Frame}
    (handling : server.handling = some (muxId, frames)) (owned : server.linkOf muxId ≠ link) :
    concerning link (server, .frame) = none := by
  simp [concerning, handling, owned]

theorem Restricts.matched_established (restricts : Restricts link server alone)
    (well : WellFormed linkMdu socks server) (owner : LinkId) (idle : server.handling = none) :
    Matched linkMdu socks link server alone (.event (.linkEstablished owner false))
      (server.establish owner) := by
  by_cases same : owner = link
  · subst same
    have idle_alone := restricts.idle idle
    have made : Server.step linkMdu socks alone (.event (.linkEstablished owner false)) =
        some (alone.establish owner) := by
      simp only [Server.step, idle_alone, Server.establish]
    exact .along (if_pos rfl) made (restricts.establish idle)
  · exact .aside (if_neg (same ∘ Option.some.inj)) (restricts.establish_elsewhere well same idle)

theorem Restricts.matched_closed (restricts : Restricts link server alone) (owner : LinkId)
    (idle : server.handling = none) :
    Matched linkMdu socks link server alone (.event (.linkClosed owner))
      (server.onEvent (.linkClosed owner)) := by
  by_cases same : owner = link
  · subst same
    have idle_alone := restricts.idle idle
    have made : Server.step linkMdu socks alone (.event (.linkClosed owner)) =
        some (alone.onEvent (.linkClosed owner)) := by
      simp only [Server.step, idle_alone]
    exact .along (if_pos rfl) made restricts.close
  · exact .aside (if_neg (same ∘ Option.some.inj)) (restricts.close_elsewhere same)

/-- A packet of the link starts the same frames in both servers. -/
theorem Restricts.matched_data (restricts : Restricts link server alone)
    (well : WellFormed linkMdu socks server) {owner : LinkId} {muxId : MuxId}
    (idle : server.handling = none) (known : server.linkMuxes owner = some muxId) (data : Bytes) :
    Matched linkMdu socks link server alone (.event (.linkData owner data))
      { server with
        muxes :=
          Function.update server.muxes muxId
            { server.muxes muxId with mux := ((server.muxes muxId).mux.receiveData data).2 }
        handling := some (muxId, ((server.muxes muxId).mux.receiveData data).1) } := by
  obtain ⟨owned, used⟩ := well.table owner muxId known
  have idle_alone := restricts.idle idle
  by_cases same : owner = link
  · subst same
    have known_alone : alone.linkMuxes owner = some (server.rank owner muxId) := by
      rw [restricts.linkMuxes, known, Option.map_some]
    have there := restricts.muxes muxId used owned
    refine .along (if_pos rfl)
      (by simp only [Server.step, idle_alone, onEvent, known_alone, there]; rfl)
      (restricts.update owned ?_)
    simp [handlingOf, owned, rank]
  · have apart : server.linkOf muxId ≠ link := owned ▸ same
    refine .aside (if_neg (same ∘ Option.some.inj)) (restricts.elsewhere apart ?_)
    simp [handlingOf, apart, idle_alone]

/-- An event that the server ignores is ignored in both servers. -/
theorem Restricts.matched_ignored (restricts : Restricts link server alone) {event : ProxyEvent}
    (idle : server.handling = none) (same : server.onEvent event = server) :
    Matched linkMdu socks link server alone (.event event) server := by
  have idle_alone := restricts.idle idle
  by_cases about : event.link = some link
  · have made : Server.step linkMdu socks alone (.event event) = some (alone.onEvent event) := by
      simp only [Server.step, idle_alone]
    refine .along (if_pos about) made ?_
    cases event with
    | linkEstablished owner isInitiator =>
        cases isInitiator with
        | true => exact restricts
        | false => exact absurd (congrArg Server.nextMux same) (Nat.succ_ne_self _)
    | linkClosed owner =>
        obtain rfl := Option.some.inj about
        rw [← same]
        exact restricts.close
    | linkData owner data =>
        obtain rfl := Option.some.inj about
        cases known : server.linkMuxes owner with
        | none =>
            have unknown : alone.linkMuxes owner = none := by
              rw [restricts.linkMuxes, known, Option.map_none]
            simpa [onEvent, unknown] using restricts
        | some muxId =>
            have busy := congrArg Server.handling same
            simp [onEvent, known, idle] at busy
    | pathUpdated => exact restricts
  · exact .aside (if_neg about) restricts

theorem Restricts.matched_frame (restricts : Restricts link server alone)
    (well : WellFormed linkMdu socks server) {muxId : MuxId} {frame : Frame} {rest : List Frame}
    {endpointAct : EndpointAct} {ep : Endpoint}
    (handling : server.handling = some (muxId, frame :: rest))
    (reaction : onFrame server.filterConfig frame = some endpointAct)
    (taken : (server.muxes muxId).step linkMdu socks endpointAct = some ep) :
    Matched linkMdu socks link server alone .frame
      { server with
        muxes := Function.update server.muxes muxId ep
        handling := some (muxId, rest) } := by
  have used := (well.table _ muxId (well.handling muxId _ handling)).2
  by_cases owned : server.linkOf muxId = link
  · have busy := restricts.busy handling owned
    have there := restricts.muxes muxId used owned
    have reaction_alone : onFrame alone.filterConfig frame = some endpointAct := by
      rw [restricts.filterConfig, reaction]
    refine .along (concerning_frame handling owned)
      (by simp only [Server.step, busy, reaction_alone, there, taken]; rfl)
      (restricts.update owned ?_)
    simp [handlingOf, owned, rank]
  · refine .aside (concerning_frame_of_ne handling owned) (restricts.elsewhere owned ?_)
    simp [restricts.waits handling owned, handlingOf, owned]

theorem Restricts.matched_skipped (restricts : Restricts link server alone) {muxId : MuxId}
    {frame : Frame} {rest : List Frame}
    (handling : server.handling = some (muxId, frame :: rest))
    (reaction : onFrame server.filterConfig frame = none) :
    Matched linkMdu socks link server alone .frame
      { server with handling := some (muxId, rest) } := by
  by_cases owned : server.linkOf muxId = link
  · have busy := restricts.busy handling owned
    have reaction_alone : onFrame alone.filterConfig frame = none := by
      rw [restricts.filterConfig, reaction]
    refine .along (concerning_frame handling owned)
      (by simp only [Server.step, busy, reaction_alone]; rfl) (restricts.proceed ?_)
    simp [handlingOf, owned, rank]
  · have idle_alone := restricts.waits handling owned
    refine .aside (concerning_frame_of_ne handling owned) (restricts.proceed ?_)
    simp [idle_alone, handlingOf, owned]

theorem Restricts.matched_handled (restricts : Restricts link server alone) {muxId : MuxId}
    (handling : server.handling = some (muxId, [])) :
    Matched linkMdu socks link server alone .frame { server with handling := none } := by
  by_cases owned : server.linkOf muxId = link
  · have busy := restricts.busy handling owned
    exact .along (concerning_frame handling owned) (by simp only [Server.step, busy]; rfl)
      (restricts.proceed rfl)
  · have idle_alone := restricts.waits handling owned
    exact .aside (concerning_frame_of_ne handling owned) (restricts.proceed idle_alone)

/-- A step of the server is one of the server that has the given link only, or does not matter to
it. -/
theorem Restricts.step (restricts : Restricts link server alone)
    (well : WellFormed linkMdu socks server) (taken : Step linkMdu socks server act next) :
    Matched linkMdu socks link server alone act next := by
  cases taken with
  | established idle => exact restricts.matched_established well _ idle
  | closed idle => exact restricts.matched_closed _ idle
  | data idle known => exact restricts.matched_data well idle known _
  | ignored idle same => exact restricts.matched_ignored idle same
  | frame handling reaction taken => exact restricts.matched_frame well handling reaction taken
  | skipped handling reaction => exact restricts.matched_skipped handling reaction
  | handled handling => exact restricts.matched_handled handling
  | @session muxId chan taskAct ep taken =>
      have used := well.used_of_session taken
      by_cases owned : server.linkOf muxId = link
      · have there := restricts.muxes muxId used owned
        have held := restricts.held well used owned
        exact .along (if_pos owned) (by simp only [Server.step, there, held, taken]; rfl)
          (restricts.update owned restricts.handling)
      · exact .aside (if_neg owned) (restricts.elsewhere owned restricts.handling)
  | @sender muxId senderAct ep taken =>
      have used := well.used_of_sender taken
      by_cases owned : server.linkOf muxId = link
      · have there := restricts.muxes muxId used owned
        exact .along (if_pos owned) (by simp only [Server.step, there, taken]; rfl)
          (restricts.update owned restricts.handling)
      · exact .aside (if_neg owned) (restricts.elsewhere owned restricts.handling)

theorem received_concerning (link : LinkId) (taken : Server × ServerAct) :
    (concerning link taken).bind ServerAct.received =
      taken.2.received.filter (·.link = some link) := by
  obtain ⟨server, act⟩ := taken
  cases act with
  | event event =>
      by_cases about : event.link = some link <;>
        simp [concerning, ServerAct.received, Option.filter_some, about]
  | frame =>
      cases busy : server.handling with
      | none => simp [concerning, ServerAct.received, busy]
      | some packet =>
          by_cases owned : server.linkOf packet.1 = link <;>
            simp [concerning, ServerAct.received, busy, owned]
  | session muxId chan taskAct =>
      by_cases owned : server.linkOf muxId = link <;> simp [concerning, ServerAct.received, owned]
  | sender muxId senderAct =>
      by_cases owned : server.linkOf muxId = link <;> simp [concerning, ServerAct.received, owned]

/-- The events among the steps of a link are the events tagged with the link. -/
theorem filterMap_received_concerning (link : LinkId) (past : List (Server × ServerAct)) :
    (past.filterMap (concerning link)).filterMap ServerAct.received =
      ((past.map Prod.snd).filterMap ServerAct.received).filter (·.link = some link) := by
  rw [List.filterMap_filterMap, List.filterMap_map, List.filter_filterMap]
  exact List.filterMap_congr fun taken _ => received_concerning link taken

/-- The steps that concern one link make a run of a server which gets the events of that link only,
and its multiplexers end up as those the link has in the server of all links. -/
theorem isolated {filterConfig : FilterConfig} {acts : List ServerAct} {final : Server}
    (execution : Execution.run (Server.step linkMdu socks) (new filterConfig) acts = some final)
    (link : LinkId) :
    let concerns := (Execution.trace (Server.step linkMdu socks) (new filterConfig) acts).filterMap
      (concerning link)
    concerns.filterMap ServerAct.received =
        (acts.filterMap ServerAct.received).filter (·.link = some link) ∧
      ∃ alone, Execution.run (Server.step linkMdu socks) (new filterConfig) concerns = some alone ∧
        Restricts link final alone := by
  refine ⟨?_, ?_⟩
  · rw [filterMap_received_concerning, Execution.trace_map_snd execution]
  · have matched : ∀ before act after alone,
        WellFormed linkMdu socks before ∧ Restricts link before alone →
        Server.step linkMdu socks before act = some after →
        ∃ later, Execution.attempt (Server.step linkMdu socks) alone
            (concerning link (before, act)) = some later ∧
          WellFormed linkMdu socks after ∧ Restricts link after later := by
      rintro before act after alone ⟨well, restricts⟩ taken
      have taken := step_cases taken
      obtain ⟨later, stepped, restricts⟩ := restricts.step well taken
      exact ⟨later, stepped, well.step taken, restricts⟩
    obtain ⟨alone, projected, _, restricts⟩ := Execution.run_project
      (fun server alone => WellFormed linkMdu socks server ∧ Restricts link server alone)
      (concerning link) matched ⟨wellFormed_new filterConfig, restricts_new filterConfig⟩ execution
    exact ⟨alone, projected, restricts⟩

end Steps

/-- Two clients use the same session id, and the second one goes on with a partial frame. -/
def twoClients : List ServerAct :=
  [.event (.linkEstablished 1 false), .event (.linkEstablished 2 false),
    .event (.linkData 1 (Frame.encode ⟨.connect, 7, encodeConnectPayload "0.0.0.0" 0 true⟩)),
    .frame, .frame,
    .event
      (.linkData 2 (Frame.encode ⟨.connect, 7, encodeConnectPayload "0.0.0.0" 0 true⟩ ++ [1, 0])),
    .session 0 0 (.bound none), .frame, .frame, .event (.linkClosed 2), .session 0 0 .send]

/-- The first client alone goes through the same steps. -/
theorem isolated_twoClients :
    let concerns := (Execution.trace (Server.step 431 .rfc1928) (new (serverConfig true true))
      twoClients).filterMap (concerning 1)
    concerns.filterMap ServerAct.received =
        (twoClients.filterMap ServerAct.received).filter (·.link = some 1) ∧
      ∃ alone, Execution.run (Server.step 431 .rfc1928) (new (serverConfig true true)) concerns =
          some alone ∧
        ∃ final, Execution.run (Server.step 431 .rfc1928) (new (serverConfig true true))
          twoClients = some final ∧ Restricts 1 final alone := by
  have execution : ∃ final, Execution.run (Server.step 431 .rfc1928) (new (serverConfig true true))
      twoClients = some final := ⟨_, rfl⟩
  obtain ⟨final, execution⟩ := execution
  obtain ⟨events, alone, projected, restricts⟩ := isolated execution 1
  exact ⟨events, alone, projected, final, execution, restricts⟩

end Server

end RnsProxy
