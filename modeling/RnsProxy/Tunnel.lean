import RnsProxy.Client
import RnsProxy.Grammar
import RnsProxy.Server
import RnsProxy.Stream
import RnsProxy.Transport

/-!
# A tunnel

A link that stays up joins the multiplexer of the client to one of the server. It takes every packet
a link sender gives it and delivers the packets of either end to the other in order. The event loop
at the receiving end decodes a packet and handles its frames one after the other before it turns to
the next packet.
-/

namespace RnsProxy

namespace Side

/-- The other program. -/
def peer : Side → Side
  | client => server
  | server => client

@[simp]
theorem peer_peer (side : Side) : side.peer.peer = side := by
  cases side <;> rfl

@[simp]
theorem peer_ne (side : Side) : side.peer ≠ side := by
  cases side <;> decide

theorem eq_or_eq_peer (side other : Side) : other = side ∨ other = side.peer := by
  cases side <;> cases other <;> simp [peer]

/-- What an event loop does with a frame. -/
def reaction (filterConfig : FilterConfig) : Side → Frame → Option EndpointAct
  | client, frame => some (.dispatch frame)
  | server, frame => Server.onFrame filterConfig frame

/-- The frames an event loop dispatches to a session. -/
def admits : Side → Frame → Bool
  | client, _ => true
  | server, frame => frame.frameType == .data || frame.frameType == .close

end Side

/-- The two ends of a link that is up, and the event loops that serve them. -/
structure Tunnel where
  /-- The configuration of the server's filter. -/
  filterConfig : FilterConfig
  /-- The multiplexers with their session tasks. -/
  ends : Side → Endpoint
  /-- The event loops. -/
  inbound : Side → Inbound

/-- The steps of a tunnel. -/
inductive TunnelAct
  /-- A session task acts. -/
  | session (side : Side) (chan : ChanId) (act : TaskAct)
  /-- A link sender acts. -/
  | sender (side : Side) (act : Mux.SenderAct)
  /-- An accept loop of the client allocates a session id. -/
  | nextSessionId
  /-- An accept loop of the client registers a session and spawns its task. -/
  | accept (listener : Listener) (sid : UInt32)
  /-- The link delivers a packet to an event loop that is done with the last one. -/
  | deliver (side : Side)
  /-- An event loop handles a frame. -/
  | handle (side : Side)
  deriving DecidableEq

namespace Tunnel

/-- A tunnel whose link has just come up. -/
def new (filterConfig : FilterConfig) (link : LinkId) : Tunnel where
  filterConfig := filterConfig
  ends _ := { Endpoint.new with mux := Mux.new.setLinkId link }
  inbound _ := Inbound.new

/-- One end has acted. -/
def setEnd (tunnel : Tunnel) (side : Side) (ep : Endpoint) : Tunnel :=
  { tunnel with ends := Function.update tunnel.ends side ep }

/-- One event loop has moved on. -/
def setInbound (tunnel : Tunnel) (side : Side) (inbound : Inbound) : Tunnel :=
  { tunnel with inbound := Function.update tunnel.inbound side inbound }

/-- One step of a tunnel. -/
def step (linkMdu : ℕ+) (socks : FastSocks5) (tunnel : Tunnel) : TunnelAct → Option Tunnel
  | .session side chan act =>
      ((tunnel.ends side).step linkMdu socks (.session true chan act)).map (tunnel.setEnd side)
  | .sender side act =>
      -- a link that is up takes every packet
      if act = .sent false then none
      else ((tunnel.ends side).step linkMdu socks (.sender act)).map (tunnel.setEnd side)
  | .nextSessionId =>
      ((tunnel.ends .client).step linkMdu socks .nextSessionId).map (tunnel.setEnd .client)
  | .accept listener sid =>
      ((tunnel.ends .client).step linkMdu socks (.spawn listener.start sid)).map
        (tunnel.setEnd .client)
  | .deliver side =>
      let inbound := tunnel.inbound side
      match inbound.pending, (tunnel.ends side.peer).mux.wire[inbound.delivered]? with
      | [], some (_, packet) =>
          let received := (tunnel.ends side).mux.receiveData packet
          some
            ((tunnel.setEnd side { tunnel.ends side with mux := received.2 }).setInbound side
              { inbound with delivered := inbound.delivered + 1, pending := received.1 })
      | _, _ => none
  | .handle side =>
      let inbound := tunnel.inbound side
      match inbound.pending with
      | frame :: rest =>
          let after :=
            tunnel.setInbound side
              { inbound with pending := rest, handled := inbound.handled ++ [frame] }
          match side.reaction tunnel.filterConfig frame with
          | some act => ((tunnel.ends side).step linkMdu socks act).map (after.setEnd side)
          | none => some after
      | [] => none

theorem step_deliver {linkMdu : ℕ+} {socks : FastSocks5} {tunnel : Tunnel} {side : Side}
    {link : LinkId} {packet : Bytes} (idle : (tunnel.inbound side).pending = [])
    (arrives : (tunnel.ends side.peer).mux.wire[(tunnel.inbound side).delivered]? =
      some (link, packet)) :
    tunnel.step linkMdu socks (.deliver side) = some
      ((tunnel.setEnd side
          { tunnel.ends side with mux := ((tunnel.ends side).mux.receiveData packet).2 }).setInbound
        side
        { tunnel.inbound side with
          delivered := (tunnel.inbound side).delivered + 1
          pending := ((tunnel.ends side).mux.receiveData packet).1 }) := by
  simp [step, idle, arrives]

/-! ## What each step can do -/

/-- What the tasks at one end of a link do on their own. -/
inductive Acts : Side → EndpointAct → Prop
  | session {side chan act} : Acts side (.session true chan act)
  | sender {side act} (up : act ≠ .sent false) : Acts side (.sender act)
  | nextSessionId : Acts .client .nextSessionId
  | accept {listener : Listener} {sid} : Acts .client (.spawn listener.start sid)

/-- The steps of a tunnel, each with its guard and its effect. -/
inductive Step (linkMdu : ℕ+) (socks : FastSocks5) (tunnel : Tunnel) : Tunnel → Prop
  | acts {side act ep} (acts : Acts side act)
      (taken : Endpoint.Step linkMdu socks (tunnel.ends side) act ep) :
      Step linkMdu socks tunnel (tunnel.setEnd side ep)
  | deliver {side link packet} (idle : (tunnel.inbound side).pending = [])
      (next : (tunnel.ends side.peer).mux.wire[(tunnel.inbound side).delivered]? =
        some (link, packet)) :
      Step linkMdu socks tunnel
        ((tunnel.setEnd side
            { tunnel.ends side with
              mux := ((tunnel.ends side).mux.receiveData packet).2 }).setInbound
          side
          { tunnel.inbound side with
            delivered := (tunnel.inbound side).delivered + 1
            pending := ((tunnel.ends side).mux.receiveData packet).1 })
  | handle {side frame rest act ep} (decoded : (tunnel.inbound side).pending = frame :: rest)
      (reaction : side.reaction tunnel.filterConfig frame = some act)
      (taken : Endpoint.Step linkMdu socks (tunnel.ends side) act ep) :
      Step linkMdu socks tunnel
        ((tunnel.setInbound side
            { tunnel.inbound side with
              pending := rest
              handled := (tunnel.inbound side).handled ++ [frame] }).setEnd side ep)
  | skip {side frame rest} (decoded : (tunnel.inbound side).pending = frame :: rest)
      (reaction : side.reaction tunnel.filterConfig frame = none) :
      Step linkMdu socks tunnel
        (tunnel.setInbound side
          { tunnel.inbound side with
            pending := rest
            handled := (tunnel.inbound side).handled ++ [frame] })

theorem step_cases {linkMdu : ℕ+} {socks : FastSocks5} {tunnel next : Tunnel} {act : TunnelAct}
    (taken : tunnel.step linkMdu socks act = some next) : Step linkMdu socks tunnel next := by
  cases act with
  | session side chan act =>
      obtain ⟨ep, stepped, rfl⟩ := Option.map_eq_some_iff.mp taken
      exact .acts .session (Endpoint.step_cases stepped)
  | sender side act =>
      simp only [step, Option.ite_none_left_eq_some, Option.map_eq_some_iff] at taken
      obtain ⟨up, ep, stepped, rfl⟩ := taken
      exact .acts (.sender up) (Endpoint.step_cases stepped)
  | nextSessionId =>
      cases taken
      exact .acts .nextSessionId .nextSessionId
  | accept listener sid =>
      cases taken
      exact .acts .accept .spawn
  | deliver side =>
      simp only [step] at taken
      split at taken
      · cases taken
        exact .deliver ‹_› ‹_›
      · cases taken
  | handle side =>
      simp only [step] at taken
      split at taken
      · split at taken
        · obtain ⟨ep, stepped, rfl⟩ := Option.map_eq_some_iff.mp taken
          exact .handle ‹_› ‹_› (Endpoint.step_cases stepped)
        · cases taken
          exact .skip ‹_› ‹_›
      · cases taken

end Tunnel

/-! ## What an end of the link may do -/

/-- The steps of one end of a link that stays up. -/
def Side.Permits (side : Side) : EndpointAct → Prop
  | .session held _ _ => held = true
  | .spawn start _ => start.side = side
  | .nextSessionId => True
  | .refuse _ => side = .server
  | .dispatch _ => True
  | .receive _ => True
  | .sender act => act ≠ .sent false
  | .setLinkId _ => False
  | .resetLinkId => False
  | .resetSessions => False
  | .resetRecvBuf => False

theorem Listener.side_start (listener : Listener) : listener.start.side = .client := by
  cases listener <;> rfl

theorem Tunnel.Acts.permits {side : Side} {act : EndpointAct} (acts : Tunnel.Acts side act) :
    side.Permits act := by
  cases acts with
  | session => rfl
  | sender up => exact up
  | nextSessionId => trivial
  | @accept listener sid => exact listener.side_start

/-- An event loop dispatches the frames it admits; with another it spawns or refuses a session, or
does nothing. -/
theorem Side.reaction_cases (filterConfig : FilterConfig) (side : Side) (frame : Frame) :
    side.admits frame = true ∧ side.reaction filterConfig frame = some (.dispatch frame) ∨
      side.admits frame = false ∧ (side.reaction filterConfig frame = none ∨
        side = .server ∧ frame.frameType = .connect ∧
          ((∃ start, start.side = .server ∧
              side.reaction filterConfig frame = some (.spawn start frame.sessionId)) ∨
            side.reaction filterConfig frame = some (.refuse frame.sessionId))) := by
  cases side with
  | client => exact .inl ⟨rfl, rfl⟩
  | server =>
      cases type : frame.frameType with
      | connect =>
          refine .inr ⟨by simp [admits, type], .inr ⟨rfl, rfl, ?_⟩⟩
          simp only [reaction, Server.onFrame, type]
          cases decodeConnectPayload frame.payload with
          | none => exact .inr rfl
          | some request =>
              obtain ⟨host, port, udp⟩ := request
              refine .inl ⟨_, ?_, rfl⟩
              cases udp <;> rfl
      | connectOk =>
          exact .inr ⟨by simp [admits, type], .inl (by simp [reaction, Server.onFrame, type])⟩
      | connectErr =>
          exact .inr ⟨by simp [admits, type], .inl (by simp [reaction, Server.onFrame, type])⟩
      | data => exact .inl ⟨by simp [admits, type], by simp [reaction, Server.onFrame, type]⟩
      | close => exact .inl ⟨by simp [admits, type], by simp [reaction, Server.onFrame, type]⟩

end RnsProxy
