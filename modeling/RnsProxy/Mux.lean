import RnsProxy.Library.Execution
import RnsProxy.Reassembly

/-!
# The multiplexer

A `MuxHandle` holds the state all sessions of one peer share: the active link, the table of
session channels, the reassembly buffer, and the bounded queue that feeds the link sender. Each
lock acquisition of the source is one operation here, so that any two of them may be separated by
the steps of other tasks. The link sender is a task of its own; between two of its steps anything
may happen.
-/

namespace RnsProxy

/-- `rns_net::LinkId`. -/
abbrev LinkId := ℕ

/-- A session channel, numbered in the order of registration. -/
abbrev ChanId := ℕ

/-- One entry of the send queue. The source queues the bytes of `frame.encode`; the origin is a
history variable that names the session task it came from, or nothing for an event loop. -/
structure Outgoing where
  /-- The session task that sent the frame. -/
  origin : Option ChanId
  /-- The frame whose encoding is queued. -/
  frame : Frame
  deriving DecidableEq, Repr

/-- Where the task of `run_link_sender` stands. -/
inductive LinkSender
  /-- Waiting in `receiver.recv()`. -/
  | idle
  /-- Holding a frame, about to read `link_id`. -/
  | picked (out : Outgoing)
  /-- Sending the remaining chunks of a frame on the link it has read. -/
  | sending (link : LinkId) (out : Outgoing) (rest : List Bytes)
  /-- A chunk could not be sent, about to clear `link_id`. -/
  | failed (link : LinkId) (out : Outgoing)
  deriving DecidableEq, Repr

/-- The state of `MuxInner`, of its link sender and of the session channels. -/
structure Mux where
  /-- The active link. -/
  linkId : Option LinkId
  /-- The sender of the channel of each registered session. -/
  sessions : UInt32 → Option ChanId
  /-- The session id allocated last. -/
  nextSid : UInt32
  /-- The reassembly buffer. -/
  recvBuf : Bytes
  /-- The queue in front of the link sender. -/
  dataSenderBuf : List Outgoing
  /-- The link sender. -/
  sender : LinkSender
  /-- The frames waiting in each session channel. -/
  channels : ChanId → List Frame
  /-- The number of channels created so far. -/
  nextChan : ChanId
  /-- History: every frame that entered the send queue, in order. -/
  log : List Outgoing
  /-- History: every packet a link took, in order. -/
  wire : List (LinkId × Bytes)
  /-- History: every frame a link took completely, in order. -/
  handed : List (LinkId × Outgoing)

/-- The capacity of the channel in front of the link sender. -/
def SEND_QUEUE_CAPACITY : ℕ := 5

namespace Mux

/-- `MuxHandle::new`. -/
def new : Mux where
  linkId := none
  sessions := fun _ => none
  nextSid := 0
  recvBuf := []
  dataSenderBuf := []
  sender := .idle
  channels := fun _ => []
  nextChan := 0
  log := []
  wire := []
  handed := []

/-! ## Operations of the handle -/

/-- `MuxHandle::set_link_id`. -/
def setLinkId (mux : Mux) (link : LinkId) : Mux :=
  { mux with linkId := some link }

/-- The first lock of `MuxHandle::reset`. -/
def resetLinkId (mux : Mux) : Mux :=
  { mux with linkId := none }

/-- The second lock of `MuxHandle::reset`. -/
def resetSessions (mux : Mux) : Mux :=
  { mux with sessions := fun _ => none }

/-- The third lock of `MuxHandle::reset`. -/
def resetRecvBuf (mux : Mux) : Mux :=
  { mux with recvBuf := [] }

/-- `MuxHandle::is_connected`. -/
def isConnected (mux : Mux) : Bool :=
  mux.linkId.isSome

/-- `MuxHandle::next_session_id`; addition on `UInt32` wraps. -/
def nextSessionId (mux : Mux) : UInt32 × Mux :=
  (mux.nextSid + 1, { mux with nextSid := mux.nextSid + 1 })

/-- `MuxHandle::register_session`: a fresh channel, whose sender replaces the one registered for
the same id. -/
def registerSession (mux : Mux) (sid : UInt32) : ChanId × Mux :=
  (mux.nextChan,
    { mux with
      sessions := Function.update mux.sessions sid (some mux.nextChan)
      channels := Function.update mux.channels mux.nextChan []
      nextChan := mux.nextChan + 1 })

/-- `MuxHandle::drop_session`. -/
def dropSession (mux : Mux) (sid : UInt32) : Mux :=
  { mux with sessions := Function.update mux.sessions sid none }

/-- `MuxHandle::send_frame`, at the moment the queue accepts the frame; a full queue blocks. -/
def sendFrame (mux : Mux) (out : Outgoing) : Option Mux :=
  if mux.dataSenderBuf.length < SEND_QUEUE_CAPACITY then
    some { mux with dataSenderBuf := mux.dataSenderBuf ++ [out], log := mux.log ++ [out] }
  else none

/-- `MuxHandle::dispatch`. A frame sent to a channel whose receiver is gone is never read. -/
def dispatch (mux : Mux) (frame : Frame) : Mux :=
  match mux.sessions frame.sessionId with
  | some chan =>
      { mux with
        channels := Function.update mux.channels chan (mux.channels chan ++ [frame]) }
  | none => mux

/-- `MuxHandle::receive_data`. -/
def receiveData (mux : Mux) (data : Bytes) : List Frame × Mux :=
  ((RnsProxy.receiveData mux.recvBuf data).1,
    { mux with recvBuf := (RnsProxy.receiveData mux.recvBuf data).2 })

/-- What `session_rx.recv()` returns on a channel: its first frame, or nothing once the channel is
empty and its sender is gone. While the channel is empty and its sender lives, it waits. -/
def recv (mux : Mux) (chan : ChanId) (senderLives : Bool) : Option (Option Frame × Mux) :=
  match mux.channels chan with
  | frame :: rest =>
      some (some frame, { mux with channels := Function.update mux.channels chan rest })
  | [] => if senderLives then none else some (none, mux)

/-! ## The link sender -/

/-- The steps of the task of `run_link_sender`. -/
inductive SenderAct
  /-- `receiver.recv()` returns a frame. -/
  | recv
  /-- `link_id` is read; without a link the frame is dropped. -/
  | readLink
  /-- `send_on_link` returns for one chunk. -/
  | sent (ok : Bool)
  /-- After a failed chunk `link_id` is cleared and the rest of the frame is dropped. -/
  | clearLink
  deriving DecidableEq, Repr

/-- One step of the task of `run_link_sender`. -/
def senderStep (linkMdu : ℕ+) (mux : Mux) (act : SenderAct) : Option Mux :=
  match act, mux.sender with
  | .recv, .idle =>
      match mux.dataSenderBuf with
      | out :: rest => some { mux with dataSenderBuf := rest, sender := .picked out }
      | [] => none
  | .readLink, .picked out =>
      match mux.linkId with
      | some link =>
          some { mux with sender := .sending link out (linkChunks linkMdu out.frame) }
      | none => some { mux with sender := .idle }
  | .sent true, .sending link out [chunk] =>
      some
        { mux with
          sender := .idle
          wire := mux.wire ++ [(link, chunk)]
          handed := mux.handed ++ [(link, out)] }
  | .sent true, .sending link out (chunk :: next :: rest) =>
      some
        { mux with
          sender := .sending link out (next :: rest)
          wire := mux.wire ++ [(link, chunk)] }
  | .sent false, .sending link out (_ :: _) =>
      some { mux with sender := .failed link out }
  | .clearLink, .failed _ _ => some { mux with linkId := none, sender := .idle }
  | _, _ => none

/-! ## The multiplexer as a system of its own -/

/-- The steps that act on the link of a multiplexer: those of the link sender, and the locks other
tasks take. -/
inductive Act
  /-- A step of the link sender. -/
  | sender (act : SenderAct)
  /-- `set_link_id`. -/
  | setLinkId (link : LinkId)
  /-- The first lock of `reset`. -/
  | resetLinkId
  /-- The second lock of `reset`. -/
  | resetSessions
  /-- The third lock of `reset`. -/
  | resetRecvBuf
  /-- Some task's `send_frame` completes. -/
  | send (out : Outgoing)
  deriving DecidableEq, Repr

/-- One step on the link of a multiplexer. -/
def step (linkMdu : ℕ+) (mux : Mux) : Act → Option Mux
  | .sender act => mux.senderStep linkMdu act
  | .setLinkId link => some (mux.setLinkId link)
  | .resetLinkId => some mux.resetLinkId
  | .resetSessions => some mux.resetSessions
  | .resetRecvBuf => some mux.resetRecvBuf
  | .send out => mux.sendFrame out

/-! ## What each operation can do -/

theorem sendFrame_eq_some {mux next : Mux} {out : Outgoing} :
    mux.sendFrame out = some next ↔
      mux.dataSenderBuf.length < SEND_QUEUE_CAPACITY ∧
        next =
          { mux with dataSenderBuf := mux.dataSenderBuf ++ [out], log := mux.log ++ [out] } := by
  simp [sendFrame, eq_comm]

theorem recv_eq_some {mux next : Mux} {chan : ChanId} {senderLives : Bool} {result : Option Frame} :
    mux.recv chan senderLives = some (result, next) ↔
      (∃ frame rest, mux.channels chan = frame :: rest ∧ result = some frame ∧
        next = { mux with channels := Function.update mux.channels chan rest }) ∨
      (mux.channels chan = [] ∧ senderLives = false ∧ result = none ∧ next = mux) := by
  rw [recv]
  cases mux.channels chan with
  | nil => cases senderLives <;> simp [eq_comm]
  | cons frame rest => simp [eq_comm]

/-- The steps of the link sender, each with its guard and its effect. -/
inductive SenderStep (linkMdu : ℕ+) (mux : Mux) : SenderAct → Mux → Prop
  | recv {out rest} (idle : mux.sender = .idle) (queued : mux.dataSenderBuf = out :: rest) :
      SenderStep linkMdu mux .recv { mux with dataSenderBuf := rest, sender := .picked out }
  | readLink {out link} (picked : mux.sender = .picked out) (active : mux.linkId = some link) :
      SenderStep linkMdu mux .readLink
        { mux with sender := .sending link out (linkChunks linkMdu out.frame) }
  | dropFrame {out} (picked : mux.sender = .picked out) (inactive : mux.linkId = none) :
      SenderStep linkMdu mux .readLink { mux with sender := .idle }
  | sentLast {link out chunk} (sending : mux.sender = .sending link out [chunk]) :
      SenderStep linkMdu mux (.sent true)
        { mux with
          sender := .idle
          wire := mux.wire ++ [(link, chunk)]
          handed := mux.handed ++ [(link, out)] }
  | sentChunk {link out chunk next rest}
      (sending : mux.sender = .sending link out (chunk :: next :: rest)) :
      SenderStep linkMdu mux (.sent true)
        { mux with
          sender := .sending link out (next :: rest)
          wire := mux.wire ++ [(link, chunk)] }
  | sendFailed {link out chunk rest} (sending : mux.sender = .sending link out (chunk :: rest)) :
      SenderStep linkMdu mux (.sent false) { mux with sender := .failed link out }
  | clearLink {link out} (failed : mux.sender = .failed link out) :
      SenderStep linkMdu mux .clearLink { mux with linkId := none, sender := .idle }

theorem senderStep_cases {linkMdu : ℕ+} {mux next : Mux} {act : SenderAct}
    (taken : mux.senderStep linkMdu act = some next) : SenderStep linkMdu mux act next := by
  simp only [senderStep] at taken
  split at taken
  · split at taken
    · cases taken
      exact .recv ‹_› ‹_›
    · cases taken
  · split at taken
    · cases taken
      exact .readLink ‹_› ‹_›
    · cases taken
      exact .dropFrame ‹_› ‹_›
  · cases taken
    exact .sentLast ‹_›
  · cases taken
    exact .sentChunk ‹_›
  · cases taken
    exact .sendFailed ‹_›
  · cases taken
    exact .clearLink ‹_›
  · cases taken

theorem SenderStep.frame {linkMdu : ℕ+} {mux next : Mux} {act : SenderAct}
    (taken : SenderStep linkMdu mux act next) :
    ∃ linkId dataSenderBuf sender wire handed,
      next = { mux with linkId, dataSenderBuf, sender, wire, handed } := by
  cases taken with
  | recv => exact ⟨mux.linkId, _, _, mux.wire, mux.handed, rfl⟩
  | readLink => exact ⟨mux.linkId, mux.dataSenderBuf, _, mux.wire, mux.handed, rfl⟩
  | dropFrame => exact ⟨mux.linkId, mux.dataSenderBuf, _, mux.wire, mux.handed, rfl⟩
  | sentLast => exact ⟨mux.linkId, mux.dataSenderBuf, _, _, _, rfl⟩
  | sentChunk => exact ⟨mux.linkId, mux.dataSenderBuf, _, _, mux.handed, rfl⟩
  | sendFailed => exact ⟨mux.linkId, mux.dataSenderBuf, _, mux.wire, mux.handed, rfl⟩
  | clearLink => exact ⟨_, mux.dataSenderBuf, _, mux.wire, mux.handed, rfl⟩

theorem dispatch_frame (mux : Mux) (frame : Frame) :
    ∃ channels, mux.dispatch frame = { mux with channels } := by
  rw [dispatch]
  split
  · exact ⟨_, rfl⟩
  · exact ⟨mux.channels, rfl⟩

end Mux

end RnsProxy
