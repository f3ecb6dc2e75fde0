import RnsProxy.Server

/-!
# Full send queues and the event loop

One event loop serves all links of the server. Most answers are sent by session tasks, but a CONNECT
frame that cannot be parsed is refused by the event loop itself, which then waits for room in the
send queue of that link. This file determines the states in which the event loop gets through the
packet it works on without the help of a link sender.
-/

namespace RnsProxy

/-- How many frames the send queue takes before it is full. -/
def Mux.room (mux : Mux) : ℕ :=
  SEND_QUEUE_CAPACITY - mux.dataSenderBuf.length

namespace Server

/-- The event loop answers the frame itself: a CONNECT frame that cannot be parsed. -/
def answers (frame : Frame) : Bool :=
  frame.frameType == .connect && (decodeConnectPayload frame.payload).isNone

/-- The event loop is not waiting for room in a send queue. -/
def NotBlocked (linkMdu : ℕ+) (socks : FastSocks5) (server : Server) : Prop :=
  ∀ handled, server.handling = some handled → (server.step linkMdu socks .frame).isSome = true

/-- Left to itself, the event loop gets through the packet it works on and takes any event. -/
def GetsThrough (linkMdu : ℕ+) (socks : FastSocks5) (server : Server) : Prop :=
  ∃ steps idle,
    Execution.run (step linkMdu socks) server (List.replicate steps .frame) = some idle ∧
      ∀ event, (idle.step linkMdu socks (.event event)).isSome = true

/-- The send queue has room for every frame the event loop is going to answer itself. -/
def AnswersFit (server : Server) : Prop :=
  ∀ muxId frames, server.handling = some (muxId, frames) →
    (frames.filter answers).length ≤ (server.muxes muxId).mux.room

section Steps

variable {linkMdu : ℕ+} {socks : FastSocks5} {server : Server} {muxId : MuxId} {frame : Frame}
  {rest : List Frame}

theorem onFrame_of_not_answers (linkMdu : ℕ+) (socks : FastSocks5) {filterConfig : FilterConfig}
    {act : EndpointAct} (quiet : answers frame = false)
    (reaction : onFrame filterConfig frame = some act)
    (ep : Endpoint) :
    ∃ next, ep.step linkMdu socks act = some next ∧ next.mux.room = ep.mux.room := by
  cases type : frame.frameType with
  | connect =>
      cases decoded : decodeConnectPayload frame.payload with
      | none => simp [answers, type, decoded] at quiet
      | some request =>
          obtain ⟨host, port, udp⟩ := request
          simp only [onFrame, type, decoded, Option.some.injEq] at reaction
          subst reaction
          exact ⟨_, rfl, rfl⟩
  | data =>
      simp only [onFrame, type, Option.some.injEq] at reaction
      subst reaction
      obtain ⟨channels, same⟩ := ep.mux.dispatch_frame frame
      exact ⟨_, rfl, by rw [same]; rfl⟩
  | close =>
      simp only [onFrame, type, Option.some.injEq] at reaction
      subst reaction
      obtain ⟨channels, same⟩ := ep.mux.dispatch_frame frame
      exact ⟨_, rfl, by rw [same]; rfl⟩
  | connectOk => simp [onFrame, type] at reaction
  | connectErr => simp [onFrame, type] at reaction

/-- The event loop takes an event exactly when it has no packet at hand. -/
theorem step_event_isSome {event : ProxyEvent} :
    (server.step linkMdu socks (.event event)).isSome = true ↔ server.handling = none := by
  cases handling : server.handling <;> simp [step, handling]

theorem step_frame_of_not_answers (linkMdu : ℕ+) (socks : FastSocks5)
    (handling : server.handling = some (muxId, frame :: rest))
    (quiet : answers frame = false) :
    ∃ next, server.step linkMdu socks .frame = some next ∧
      next.handling = some (muxId, rest) ∧
      (next.muxes muxId).mux.room = (server.muxes muxId).mux.room := by
  cases reaction : onFrame server.filterConfig frame with
  | none =>
      refine ⟨{ server with handling := some (muxId, rest) }, ?_, rfl, rfl⟩
      simp [step, handling, reaction]
  | some act =>
      obtain ⟨ep, taken, same_room⟩ := onFrame_of_not_answers linkMdu socks
        quiet reaction (server.muxes muxId)
      refine ⟨{ server with
        muxes := Function.update server.muxes muxId ep
        handling := some (muxId, rest) }, ?_, rfl, by simpa using same_room⟩
      simp [step, handling, reaction, taken]

theorem step_frame_of_answers (linkMdu : ℕ+) (socks : FastSocks5)
    (handling : server.handling = some (muxId, frame :: rest))
    (answered : answers frame = true) (room : 0 < (server.muxes muxId).mux.room) :
    ∃ next, server.step linkMdu socks .frame = some next ∧
      next.handling = some (muxId, rest) ∧
      (next.muxes muxId).mux.room + 1 = (server.muxes muxId).mux.room := by
  have reaction : onFrame server.filterConfig frame = some (.refuse frame.sessionId) := by
    simp only [answers, Bool.and_eq_true, beq_iff_eq, Option.isNone_iff_eq_none] at answered
    simp [onFrame, answered.1, answered.2]
  have accepted : (server.muxes muxId).mux.dataSenderBuf.length < SEND_QUEUE_CAPACITY := by
    rw [Mux.room] at room
    omega
  refine ⟨_, by simp [step, handling, reaction, Endpoint.step, Mux.sendFrame, accepted]; rfl,
    rfl, ?_⟩
  simp only [Function.update_self, Mux.room, List.length_append, List.length_singleton]
  omega

theorem step_frame_of_full (handling : server.handling = some (muxId, frame :: rest))
    (answered : answers frame = true) (full : (server.muxes muxId).mux.room = 0) :
    server.step linkMdu socks .frame = none := by
  have reaction : onFrame server.filterConfig frame = some (.refuse frame.sessionId) := by
    simp only [answers, Bool.and_eq_true, beq_iff_eq, Option.isNone_iff_eq_none] at answered
    simp [onFrame, answered.1, answered.2]
  have refused : ¬ (server.muxes muxId).mux.dataSenderBuf.length < SEND_QUEUE_CAPACITY := by
    rw [Mux.room] at full
    omega
  simp [step, handling, reaction, Endpoint.step, Mux.sendFrame, refused]

/-- A busy event loop gets through its packet when it handles the next frame and then gets through
the rest. -/
theorem getsThrough_iff_of_busy (busy : server.handling ≠ none) :
    GetsThrough linkMdu socks server ↔
      ∃ next, server.step linkMdu socks .frame = some next ∧ GetsThrough linkMdu socks next := by
  constructor
  · rintro ⟨steps, idle, execution, ready⟩
    cases steps with
    | zero =>
        cases execution
        exact absurd (step_event_isSome.mp (ready .pathUpdated)) busy
    | succ steps =>
        obtain ⟨next, taken, later⟩ := Execution.run_cons_eq_some.mp execution
        exact ⟨next, taken, steps, idle, later, ready⟩
  · rintro ⟨next, taken, steps, idle, later, ready⟩
    exact ⟨steps + 1, idle, Execution.run_cons_eq_some.mpr ⟨next, taken, later⟩, ready⟩

theorem getsThrough_of_idle (idle : server.handling = none) : GetsThrough linkMdu socks server :=
  ⟨0, server, rfl, fun _ => step_event_isSome.mpr idle⟩

/-- The event loop gets through a packet exactly when the send queue takes its answers. By induction
on the frames still to be handled. -/
theorem getsThrough_iff_of_handling {frames : List Frame}
    (handling : server.handling = some (muxId, frames)) :
    GetsThrough linkMdu socks server ↔
      (frames.filter answers).length ≤ (server.muxes muxId).mux.room := by
  have busy : server.handling ≠ none := by simp [handling]
  rw [getsThrough_iff_of_busy busy]
  induction frames generalizing server with
  | nil =>
      have done : server.step linkMdu socks .frame = some { server with handling := none } := by
        simp [step, handling]
      simpa [done] using getsThrough_of_idle rfl
  | cons frame rest ih =>
      have later {next : Server} (taken : server.step linkMdu socks .frame = some next)
          (handling_next : next.handling = some (muxId, rest)) :
          (∃ next, server.step linkMdu socks .frame = some next ∧ GetsThrough linkMdu socks next) ↔
            (rest.filter answers).length ≤ (next.muxes muxId).mux.room := by
        have busy_next : next.handling ≠ none := by simp [handling_next]
        simp only [taken, Option.some.injEq, exists_eq_left']
        rw [getsThrough_iff_of_busy busy_next]
        exact ih handling_next busy_next
      cases answered : answers frame with
      | false =>
          obtain ⟨next, taken, handling_next, same_room⟩ :=
            step_frame_of_not_answers linkMdu socks handling answered
          rw [later taken handling_next, same_room]
          simp [answered]
      | true =>
          rw [List.filter_cons_of_pos answered, List.length_cons]
          by_cases full : (server.muxes muxId).mux.room = 0
          · simp [step_frame_of_full handling answered full, full]
          · obtain ⟨next, taken, handling_next, less_room⟩ :=
              step_frame_of_answers linkMdu socks handling answered
                (Nat.pos_of_ne_zero full)
            rw [later taken handling_next]
            omega

theorem getsThrough_iff : GetsThrough linkMdu socks server ↔ AnswersFit server := by
  cases handling : server.handling with
  | none => simp [getsThrough_of_idle handling, AnswersFit, handling]
  | some handled =>
      obtain ⟨muxId, frames⟩ := handled
      rw [getsThrough_iff_of_handling handling]
      simp [AnswersFit, handling]

/-- A loop that gets through is not waiting. -/
theorem GetsThrough.notBlocked (through : GetsThrough linkMdu socks server) :
    NotBlocked linkMdu socks server := by
  intro handled busy
  obtain ⟨next, taken, _⟩ := (getsThrough_iff_of_busy (by simp [busy])).mp through
  simp [taken]

end Steps

/-- The event loop is never blocked, and always gets to the next event without the help of a link
sender, exactly in the runs in which the send queue of the link it works for always has room for its
answers to the CONNECT frames of the packet that cannot be parsed. -/
theorem never_blocked_iff (linkMdu : ℕ+) (socks : FastSocks5) (filterConfig : FilterConfig)
    (acts : List ServerAct) :
    Execution.Always (step linkMdu socks)
        (fun server => NotBlocked linkMdu socks server ∧ GetsThrough linkMdu socks server)
        (new filterConfig) acts ↔
      Execution.Always (step linkMdu socks) AnswersFit (new filterConfig) acts := by
  constructor
  · intro through
    exact through.mono fun _ now => getsThrough_iff.mp now.2
  · intro fit
    exact fit.mono fun _ now =>
      ⟨(getsThrough_iff.mpr now).notBlocked, getsThrough_iff.mpr now⟩

/-- One packet of seven CONNECT frames with empty payloads, while `send_on_link` does not return for
the first answer. -/
def malformedConnects : List ServerAct :=
  [.event (.linkEstablished 1 false),
    .event (.linkData 1 ((List.replicate 7 (Frame.encode ⟨.connect, 7, []⟩)).flatten)),
    .frame, .sender 0 .recv, .sender 0 .readLink, .frame, .frame, .frame, .frame, .frame]

/-- The seventh answer finds the send queue full, and the event loop serves no other link. -/
theorem not_notBlocked_malformedConnects :
    ∃ final, Execution.run (step 431 .rfc1928) (new (serverConfig true true)) malformedConnects =
        some final ∧
      ¬ NotBlocked 431 .rfc1928 final ∧ ∀ event, final.step 431 .rfc1928 (.event event) = none := by
  have stuck : ∃ final, Execution.run (step 431 .rfc1928) (new (serverConfig true true))
        malformedConnects = some final ∧
      final.handling = some (0, [⟨.connect, 7, []⟩]) ∧ (final.muxes 0).mux.room = 0 :=
    ⟨_, rfl, rfl, rfl⟩
  obtain ⟨final, execution, handling, full⟩ := stuck
  refine ⟨final, execution, fun free => ?_, fun event => by simp [step, handling]⟩
  have moves := free _ handling
  rw [step_frame_of_full handling rfl full] at moves
  cases moves

end Server

end RnsProxy
