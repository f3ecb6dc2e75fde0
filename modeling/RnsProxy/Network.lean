import RnsProxy.Deployment
import RnsProxy.Dispatch
import RnsProxy.Hearing
import RnsProxy.Routing

/-!
# A client and a server whose links come and go

The client loses its link and establishes another, as often as it pleases. A link may take only a
beginning of what it is handed and deliver only a beginning of that, and either node may report its
end at any time. The nodes report of every link first that it is established, then its packets in
the order in which they were handed to it, with none left out, and at last that it is closed. The
server may have links to others besides.
-/

namespace RnsProxy

/-- What a node has reported of a link. -/
inductive LinkLife
  /-- Nothing. -/
  | unheard
  /-- That it is established. -/
  | up
  /-- That it is closed. -/
  | gone
  deriving DecidableEq, Repr

/-- A client, a server, and the links between them. -/
structure Network where
  /-- The client. -/
  client : Client
  /-- The server. -/
  server : Server
  /-- The links the client has created. -/
  links : List LinkId
  /-- What each node has reported of each link. -/
  life : Side → LinkId → LinkLife
  /-- The number of packets of each link that have been reported to each program. -/
  delivered : Side → LinkId → ℕ
  /-- The event channel of the client is open. -/
  listening : Bool

namespace DeploymentAct

/-- The event that is reported in a step, and to which program. -/
def report : DeploymentAct → Option (Side × ProxyEvent)
  | client (.event (some event)) => some (.client, event)
  | server (.event event) => some (.server, event)
  | _ => none

/-- The link the client creates in a step. -/
def created : DeploymentAct → Option LinkId
  | client (.attempt (.created link)) => some link
  | _ => none

/-- The event channel of the client is closed in a step. -/
def closes : DeploymentAct → Bool
  | client (.event none) => true
  | _ => false

end DeploymentAct

namespace Network

/-- The client with its first link established, and the server before it has heard of it. -/
def new (filterConfig : FilterConfig) (first : LinkId) (listeners : List Listener) : Network where
  client := Client.new first listeners
  server := Server.new filterConfig
  links := [first]
  life := Function.update (fun _ _ => .unheard) .client
    (Function.update (fun _ => .unheard) first .up)
  delivered _ _ := 0
  listening := true

/-- The packets that the other program has handed to a link. -/
def packets (network : Network) : Side → LinkId → List Bytes
  | .server, link => network.client.endpoint.mux.packetsOn link
  | .client, link =>
      (List.range network.server.nextMux).flatMap fun muxId =>
        if network.server.linkOf muxId = link then (network.server.muxes muxId).mux.packetsOn link
        else []

/-- The packet is the next one a link of the client has to deliver. -/
def isNext (network : Network) (side : Side) (link : LinkId) (packet : Bytes) : Bool :=
  (network.packets side link)[network.delivered side link]? == some packet

/-- The node reports the events of a link in order. Of the links of others nothing is known but
that they are not the client's. -/
def mayReport (network : Network) (side : Side) : ProxyEvent → Bool
  | .linkEstablished link _ => network.life side link == .unheard
  | .linkClosed link => network.life side link != .gone
  | .linkData link packet =>
      network.life side link == .up &&
        (!network.links.contains link || network.isNext side link packet)
  | .pathUpdated => true

/-- What the nodes and the links permit. Every link the client creates is a new one, and its node
reports events of its own links only, as long as the event channel is open. -/
def permits (network : Network) (act : DeploymentAct) : Bool :=
  (match act.report with
    | some (.client, event) =>
        network.listening && event.link.all network.links.contains &&
          network.mayReport .client event
    | some (.server, event) => network.mayReport .server event
    | none => true) &&
  match act.created with
    | some link =>
        !network.links.contains link && network.life .client link == .unheard &&
          network.life .server link == .unheard
    | none => true

/-- What a node has reported of a link after an event. -/
def lifeAfter (life : LinkId → LinkLife) : ProxyEvent → LinkId → LinkLife
  | .linkEstablished link _ => Function.update life link .up
  | .linkClosed link => Function.update life link .gone
  | _ => life

/-- The number of packets of each link that have been reported after an event. -/
def deliveredAfter (delivered : LinkId → ℕ) : ProxyEvent → LinkId → ℕ
  | .linkData link _ => Function.update delivered link (delivered link + 1)
  | _ => delivered

/-- Keep the books on a step. -/
def record (network : Network) (act : DeploymentAct) : Network :=
  { network with
    links := network.links ++ act.created.toList
    life :=
      match act.report with
      | some (side, event) =>
          Function.update network.life side (lifeAfter (network.life side) event)
      | none => network.life
    delivered :=
      match act.report with
      | some (side, event) =>
          Function.update network.delivered side (deliveredAfter (network.delivered side) event)
      | none => network.delivered
    listening := network.listening && !act.closes }

@[simp]
theorem client_record (network : Network) (act : DeploymentAct) :
    (network.record act).client = network.client := rfl

@[simp]
theorem server_record (network : Network) (act : DeploymentAct) :
    (network.record act).server = network.server := rfl

/-- One step of either program. -/
def step (linkMdu : ℕ+) (socks : FastSocks5) (network : Network) (act : DeploymentAct) :
    Option Network :=
  if network.permits act then
    match act with
    | .client clientAct =>
        (network.client.step linkMdu socks clientAct).map fun client =>
          { network.record act with client }
    | .server serverAct =>
        (network.server.step linkMdu socks serverAct).map fun server =>
          { network.record act with server }
  else none

end Network

/-! ## What the client hands to its links -/

/-- The link the dispatch task has created and not made the active one yet. -/
def Dispatcher.seeks : Dispatcher → Option LinkId
  | establishing link _ => some link
  | connecting link => some link
  | _ => none

theorem Endpoint.Step.linkId_of_some {linkMdu : ℕ+} {socks : FastSocks5} {ep next : Endpoint}
    {act : EndpointAct} (taken : Endpoint.Step linkMdu socks ep act next) {link : LinkId}
    (active : next.mux.linkId = some link) :
    ep.mux.linkId = some link ∨ act = .setLinkId link := by
  cases taken with
  | session found taken performs => cases performs <;> exact .inl active
  | @dispatch frame =>
      obtain ⟨channels, same⟩ := ep.mux.dispatch_frame frame
      rw [same] at active
      exact .inl active
  | sender taken =>
      cases taken with
      | clearLink => cases active
      | _ => exact .inl active
  | setLinkId =>
      cases active
      exact .inr rfl
  | resetLinkId => cases active
  | _ => exact .inl active

namespace Client

/-- The client seeks the link it has created until that is the active one. -/
theorem Turn.seeks {client : Client} {act : ClientAct} {dispatcher : Dispatcher}
    {endpointAct : Option EndpointAct} (turn : Turn client act dispatcher endpointAct)
    {link : LinkId} (seeks : dispatcher.seeks = some link) :
    client.dispatcher.seeks = some link ∨ act = .attempt (.created link) := by
  cases turn with
  | session => exact .inl seeks
  | sender => exact .inl seeks
  | loop => exact .inl seeks
  | created =>
      cases seeks
      exact .inr rfl
  | established establishing =>
      cases seeks
      exact .inl (by rw [establishing]; rfl)
  | passedOver establishing =>
      cases seeks
      exact .inl (by rw [establishing]; rfl)
  | _ => cases seeks

theorem Turn.setLinkId_iff {client : Client} {act : ClientAct} {dispatcher : Dispatcher}
    {link : LinkId} (turn : Turn client act dispatcher (some (.setLinkId link))) :
    client.dispatcher.seeks = some link ∧ dispatcher.seeks = none := by
  cases turn with
  | loop ofLoop does => exact (does _ rfl).elim
  | setLinkId connecting => exact ⟨by rw [connecting]; rfl, rfl⟩

/-- Every link the client uses is one it has created, and the link it seeks has not been used
yet. -/
structure Roams (client : Client) (links : List LinkId) (routed : List Routed) : Prop where
  /-- What goes to which link. -/
  routes : client.endpoint.mux.Routes routed
  /-- The link the client seeks. -/
  seeks : ∀ link, client.dispatcher.seeks = some link → link ∈ links
  /-- The active link. -/
  active : ∀ link, client.endpoint.mux.linkId = some link →
    link ∈ links ∧ client.dispatcher.seeks ≠ some link
  /-- The links that have been handed a frame. -/
  used : ∀ entry ∈ routed, ∀ link, entry.link = some link →
    link ∈ links ∧ client.dispatcher.seeks ≠ some link

section Steps

variable {linkMdu : ℕ+} {socks : FastSocks5} {client next : Client} {act : ClientAct}
  {links : List LinkId} {routed : List Routed}

theorem roams_new (first : LinkId) (listeners : List Listener) :
    Roams (new first listeners) [first] [] where
  routes := Mux.routes_new.setLinkId (by simp)
  seeks link seeks := by cases seeks
  active link active := by
    cases active
    exact ⟨List.mem_singleton_self first, by simp [new, Dispatcher.seeks]⟩
  used entry member := by cases member

theorem Roams.step (roams : Roams client links routed)
    (taken : client.step linkMdu socks act = some next)
    (fresh : ∀ link, act = .attempt (.created link) → link ∉ links) {later : List LinkId}
    (known : ∀ link ∈ links, link ∈ later)
    (created : ∀ link, act = .attempt (.created link) → link ∈ later) :
    ∃ more, Roams next later (routed ++ more) := by
  obtain ⟨endpointAct, turn, stepped⟩ := turn_of_step taken
  -- a link that is in use is not sought afterwards either
  have unsought {link : LinkId} (use : link ∈ links ∧ client.dispatcher.seeks ≠ some link) :
      link ∈ later ∧ next.dispatcher.seeks ≠ some link := by
    refine ⟨known link use.1, fun seeks => ?_⟩
    rcases turn.seeks seeks with before | creates
    · exact use.2 before
    · exact fresh link creates use.1
  have seeks : ∀ link, next.dispatcher.seeks = some link → link ∈ later := by
    intro link seeks
    rcases turn.seeks seeks with before | creates
    · exact known link (roams.seeks link before)
    · exact created link creates
  have used : ∀ entry ∈ routed, ∀ link, entry.link = some link →
      link ∈ later ∧ next.dispatcher.seeks ≠ some link := fun entry member link linked =>
    unsought (roams.used entry member link linked)
  cases endpointAct with
  | none =>
      have same : next.endpoint = client.endpoint := (Option.some.inj stepped).symm
      refine ⟨[], ?_, seeks, fun link active => unsought (roams.active link (same ▸ active)), ?_⟩
      · rw [List.append_nil, same]
        exact roams.routes
      · simpa using used
  | some made =>
      have stepped : client.endpoint.step linkMdu socks made = some next.endpoint := stepped
      have moved := Endpoint.step_cases stepped
      have unused : ∀ link, made = .setLinkId link →
          ∀ entry ∈ routed, entry.link ≠ some link := by
        rintro link rfl entry member linked
        exact (roams.used entry member link linked).2 turn.setLinkId_iff.1
      obtain ⟨more, routes, linked⟩ := moved.routes roams.routes unused
      refine ⟨more, routes, seeks, fun link active => ?_, fun entry member link on => ?_⟩
      · rcases moved.linkId_of_some active with before | rfl
        · exact unsought (roams.active link before)
        · obtain ⟨before, after⟩ := turn.setLinkId_iff
          exact ⟨known link (roams.seeks link before), by simp [after]⟩
      · rcases List.mem_append.mp member with old | new
        · exact used entry old link on
        · exact unsought (roams.active link ((linked entry new).symm.trans on))

end Steps

end Client

end RnsProxy
