import RnsProxy.Mux
import RnsProxy.Session

/-!
# One endpoint of a link

An endpoint is a multiplexer with the session tasks that share it. The client program has one, the
server program one for each link. Every step of either program that touches an endpoint is one of
the actions here; which of them an event loop performs, and when, is up to the programs.
-/

namespace RnsProxy

/-- `ProxyEvent`: what the Reticulum node reports to an event loop. -/
inductive ProxyEvent
  /-- A link is up. -/
  | linkEstablished (link : LinkId) (isInitiator : Bool)
  /-- A link is down. -/
  | linkClosed (link : LinkId)
  /-- A packet has arrived on a link. -/
  | linkData (link : LinkId) (data : Bytes)
  /-- A path is known. -/
  | pathUpdated
  deriving DecidableEq, Repr

/-- The link an event is about. -/
def ProxyEvent.link : ProxyEvent → Option LinkId
  | linkEstablished link _ => some link
  | linkClosed link => some link
  | linkData link _ => some link
  | pathUpdated => none

/-- A multiplexer and its session tasks, each under the channel it was registered with. -/
structure Endpoint where
  /-- The multiplexer. -/
  mux : Mux
  /-- The session tasks. -/
  tasks : ChanId → Option Task

/-- The steps of an endpoint. -/
inductive EndpointAct
  /-- A session task acts. The flag tells whether some clone of the multiplexer handle is still
  alive; with the last clone the session table is dropped. -/
  | session (held : Bool) (chan : ChanId) (act : TaskAct)
  /-- `register_session`, and a session task is spawned with the receiver. -/
  | spawn (start : Start) (sid : UInt32)
  /-- `next_session_id`. -/
  | nextSessionId
  /-- The event loop refuses a CONNECT frame it cannot parse. -/
  | refuse (sid : UInt32)
  /-- `dispatch`. -/
  | dispatch (frame : Frame)
  /-- `receive_data`. -/
  | receive (data : Bytes)
  /-- The link sender acts. -/
  | sender (act : Mux.SenderAct)
  /-- `set_link_id`. -/
  | setLinkId (link : LinkId)
  /-- The first lock of `reset`. -/
  | resetLinkId
  /-- The second lock of `reset`. -/
  | resetSessions
  /-- The third lock of `reset`. -/
  | resetRecvBuf
  deriving DecidableEq

theorem update_some_cases {κ α : Type*} [DecidableEq κ] {table : κ → Option α} {key other : κ}
    {value found : α} (entry : Function.update table key (some value) other = some found) :
    other = key ∧ value = found ∨ other ≠ key ∧ table other = some found := by
  by_cases same : other = key
  · subst same
    exact .inl ⟨rfl, by simpa using entry⟩
  · exact .inr ⟨same, by simpa [same] using entry⟩

namespace Endpoint

/-- An endpoint with a new multiplexer. -/
def new : Endpoint where
  mux := Mux.new
  tasks := fun _ => none

/-- The sender of a session's channel is still registered, and the table it is in still exists. -/
def senderLives (ep : Endpoint) (held : Bool) (chan : ChanId) (sid : UInt32) : Bool :=
  held && ep.mux.sessions sid == some chan

/-- What a step of a session task does to the multiplexer. -/
def perform (ep : Endpoint) (held : Bool) (chan : ChanId) (sid : UInt32) : Effect → Option Mux
  | .none => some ep.mux
  | .send frame => ep.mux.sendFrame { origin := some chan, frame }
  | .recv result =>
      match ep.mux.recv chan (ep.senderLives held chan sid) with
      | some (received, mux) => if received = result then some mux else none
      | none => none
  | .dropSession => some (ep.mux.dropSession sid)

/-- The frame with which the event loop refuses a CONNECT frame it cannot parse. -/
def refusal (sid : UInt32) : Frame where
  frameType := .connectErr
  sessionId := sid
  payload := text "invalid payload"

/-- One step of an endpoint. -/
def step (linkMdu : ℕ+) (socks : FastSocks5) (ep : Endpoint) : EndpointAct → Option Endpoint
  | .session held chan act =>
      match ep.tasks chan with
      | some task =>
          match task.step socks act with
          | some (next, effect) =>
              (ep.perform held chan task.sid effect).map fun mux =>
                { mux, tasks := Function.update ep.tasks chan (some next) }
          | none => none
      | none => none
  | .spawn start sid =>
      let registered := ep.mux.registerSession sid
      some
        { mux := registered.2
          tasks := Function.update ep.tasks registered.1 (some (Task.spawn start sid)) }
  | .nextSessionId => some { ep with mux := ep.mux.nextSessionId.2 }
  | .refuse sid =>
      (ep.mux.sendFrame { origin := none, frame := refusal sid }).map fun mux => { ep with mux }
  | .dispatch frame => some { ep with mux := ep.mux.dispatch frame }
  | .receive data => some { ep with mux := (ep.mux.receiveData data).2 }
  | .sender act => (ep.mux.senderStep linkMdu act).map fun mux => { ep with mux }
  | .setLinkId link => some { ep with mux := ep.mux.setLinkId link }
  | .resetLinkId => some { ep with mux := ep.mux.resetLinkId }
  | .resetSessions => some { ep with mux := ep.mux.resetSessions }
  | .resetRecvBuf => some { ep with mux := ep.mux.resetRecvBuf }

/-! ## What each step can do -/

/-- What a session task's effect does to the multiplexer. -/
inductive Performs (ep : Endpoint) (held : Bool) (chan : ChanId) (sid : UInt32) :
    Effect → Mux → Prop
  | none : Performs ep held chan sid .none ep.mux
  | send {frame} (room : ep.mux.dataSenderBuf.length < SEND_QUEUE_CAPACITY) :
      Performs ep held chan sid (.send frame)
        { ep.mux with
          dataSenderBuf := ep.mux.dataSenderBuf ++ [{ origin := some chan, frame }]
          log := ep.mux.log ++ [{ origin := some chan, frame }] }
  | recv {frame rest} (queued : ep.mux.channels chan = frame :: rest) :
      Performs ep held chan sid (.recv (some frame))
        { ep.mux with channels := Function.update ep.mux.channels chan rest }
  | recvClosed (empty : ep.mux.channels chan = [])
      (closed : ep.senderLives held chan sid = false) :
      Performs ep held chan sid (.recv Option.none) ep.mux
  | dropSession : Performs ep held chan sid .dropSession (ep.mux.dropSession sid)

theorem perform_cases {ep : Endpoint} {held : Bool} {chan : ChanId} {sid : UInt32}
    {effect : Effect} {mux : Mux} (performed : ep.perform held chan sid effect = some mux) :
    Performs ep held chan sid effect mux := by
  cases effect with
  | none =>
      cases performed
      exact .none
  | send frame =>
      obtain ⟨room, rfl⟩ := Mux.sendFrame_eq_some.mp performed
      exact .send room
  | recv result =>
      simp only [perform] at performed
      split at performed
      · rename_i received next found
        rw [Option.ite_none_right_eq_some] at performed
        obtain ⟨rfl, same⟩ := performed
        obtain rfl := Option.some.inj same
        rcases Mux.recv_eq_some.mp found with ⟨frame, rest, queued, rfl, rfl⟩ |
          ⟨empty, closed, rfl, rfl⟩
        · exact .recv queued
        · exact .recvClosed empty closed
      · cases performed
  | dropSession =>
      cases performed
      exact .dropSession

/-- The steps of an endpoint, each with its guard and its effect. -/
inductive Step (linkMdu : ℕ+) (socks : FastSocks5) (ep : Endpoint) :
    EndpointAct → Endpoint → Prop
  | session {held chan act task next effect mux} (found : ep.tasks chan = some task)
      (taken : Task.Step socks task act next effect)
      (performs : Performs ep held chan task.sid effect mux) :
      Step linkMdu socks ep (.session held chan act)
        { mux, tasks := Function.update ep.tasks chan (some next) }
  | spawn {start sid} :
      Step linkMdu socks ep (.spawn start sid)
        { mux := (ep.mux.registerSession sid).2
          tasks := Function.update ep.tasks ep.mux.nextChan (some (Task.spawn start sid)) }
  | nextSessionId : Step linkMdu socks ep .nextSessionId { ep with mux := ep.mux.nextSessionId.2 }
  | refuse {sid} (room : ep.mux.dataSenderBuf.length < SEND_QUEUE_CAPACITY) :
      Step linkMdu socks ep (.refuse sid)
        { ep with
          mux :=
            { ep.mux with
              dataSenderBuf := ep.mux.dataSenderBuf ++ [{ origin := none, frame := refusal sid }]
              log := ep.mux.log ++ [{ origin := none, frame := refusal sid }] } }
  | dispatch {frame} :
      Step linkMdu socks ep (.dispatch frame) { ep with mux := ep.mux.dispatch frame }
  | receive {data} :
      Step linkMdu socks ep (.receive data) { ep with mux := (ep.mux.receiveData data).2 }
  | sender {act mux} (taken : Mux.SenderStep linkMdu ep.mux act mux) :
      Step linkMdu socks ep (.sender act) { ep with mux }
  | setLinkId {link} :
      Step linkMdu socks ep (.setLinkId link) { ep with mux := ep.mux.setLinkId link }
  | resetLinkId : Step linkMdu socks ep .resetLinkId { ep with mux := ep.mux.resetLinkId }
  | resetSessions : Step linkMdu socks ep .resetSessions { ep with mux := ep.mux.resetSessions }
  | resetRecvBuf : Step linkMdu socks ep .resetRecvBuf { ep with mux := ep.mux.resetRecvBuf }

theorem step_cases {linkMdu : ℕ+} {socks : FastSocks5} {ep next : Endpoint} {act : EndpointAct}
    (taken : ep.step linkMdu socks act = some next) : Step linkMdu socks ep act next := by
  cases act with
  | session held chan act =>
      simp only [step] at taken
      split at taken
      · split at taken
        · obtain ⟨mux, performed, rfl⟩ := Option.map_eq_some_iff.mp taken
          exact .session ‹_› (Task.step_cases ‹_›) (perform_cases performed)
        · cases taken
      · cases taken
  | spawn start sid =>
      cases taken
      exact .spawn
  | nextSessionId =>
      cases taken
      exact .nextSessionId
  | refuse sid =>
      obtain ⟨mux, sent, rfl⟩ := Option.map_eq_some_iff.mp taken
      obtain ⟨room, rfl⟩ := Mux.sendFrame_eq_some.mp sent
      exact .refuse room
  | dispatch frame =>
      cases taken
      exact .dispatch
  | receive data =>
      cases taken
      exact .receive
  | sender act =>
      obtain ⟨mux, stepped, rfl⟩ := Option.map_eq_some_iff.mp taken
      exact .sender (Mux.senderStep_cases stepped)
  | setLinkId link =>
      cases taken
      exact .setLinkId
  | resetLinkId =>
      cases taken
      exact .resetLinkId
  | resetSessions =>
      cases taken
      exact .resetSessions
  | resetRecvBuf =>
      cases taken
      exact .resetRecvBuf

end Endpoint

end RnsProxy
