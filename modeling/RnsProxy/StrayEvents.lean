import RnsProxy.Dispatch

/-!
# Events of other links

While the client waits for a link it compares the link of every event with the one it waits for. The
dispatch loop, which reads the same channel, does not: it takes the data of any link for data of its
own, and the loss of any link for the loss of its own. This file determines the runs in which the
events of other links have no effect.
-/

namespace RnsProxy

/-- The dispatch task is in its dispatch phase. -/
def Dispatcher.inDispatchPhase : Dispatcher → Bool
  | receiving => true
  | dispatching _ => true
  | _ => false

/-- A packet leaves nothing behind: the buffer and the packet are complete frames followed by the
buffer again, or the buffer is empty and the bytes after the complete frames are refused. -/
def LeavesBuffer (recvBuf data : Bytes) : Prop :=
  ∃ frames : List Frame, ∃ tail, (∀ frame ∈ frames, frame.Fits) ∧
    recvBuf ++ data = frames.flatMap Frame.encode ++ tail ∧
    (tail = recvBuf ∨ recvBuf = [] ∧ Frame.decode tail = .failed)

theorem receiveData_snd_eq_iff {recvBuf data : Bytes} (incomplete : Frame.decode recvBuf = .more) :
    (receiveData recvBuf data).2 = recvBuf ↔ LeavesBuffer recvBuf data :=
  Frame.code.feed_snd_eq_iff Frame.decode_sound incomplete

/-- No step leaves a complete frame at the front of the reassembly buffer. -/
theorem Endpoint.Step.decode_recvBuf {linkMdu : ℕ+} {socks : FastSocks5} {ep next : Endpoint}
    {act : EndpointAct} (taken : Endpoint.Step linkMdu socks ep act next)
    (incomplete : Frame.decode ep.mux.recvBuf = .more) :
    Frame.decode next.mux.recvBuf = .more := by
  by_cases elsewhere : Elsewhere act
  · rw [(taken.leaves elsewhere).recvBuf]
    exact incomplete
  · cases taken with
    | receive => exact Frame.code.decode_drain Frame.decode_sound Frame.decode_nil _
    | resetRecvBuf => exact Frame.decode_nil
    | refuse | setLinkId | resetLinkId | resetSessions => exact incomplete
    | _ => exact absurd trivial elsewhere

namespace Client

/-- The step leaves alone what belongs to the active link. -/
structure LeavesLink (client next : Client) : Prop where
  /-- The link. -/
  linkId : next.endpoint.mux.linkId = client.endpoint.mux.linkId
  /-- The session table. -/
  sessions : next.endpoint.mux.sessions = client.endpoint.mux.sessions
  /-- The reassembly buffer. -/
  recvBuf : next.endpoint.mux.recvBuf = client.endpoint.mux.recvBuf
  /-- The client does not begin to reconnect. -/
  dispatchPhase : next.dispatcher.inDispatchPhase = true

/-- In its dispatch phase the client reacts to the events of the active link only. -/
structure HeedsActive (linkMdu : ℕ+) (socks : FastSocks5) (first : LinkId)
    (recorded : List (Client × ClientAct) × Client) (act : ClientAct) : Prop where
  /-- A packet of another link changes nothing. -/
  data : ∀ link data next, act = .event (some (.linkData link data)) →
    recorded.2.dispatcher = .receiving → link ≠ current first recorded.1 →
      recorded.2.step linkMdu socks act = some next → LeavesLink recorded.2 next
  /-- The loss of another link changes nothing. -/
  closed : ∀ link next, act = .event (some (.linkClosed link)) →
    recorded.2.dispatcher = .receiving → link ≠ current first recorded.1 →
      recorded.2.step linkMdu socks act = some next → LeavesLink recorded.2 next
  /-- A frame out of a packet of another link reaches no session. -/
  dispatched : ∀ packet frame frames next, act = .dispatch →
    recorded.2.dispatcher = .dispatching (frame :: frames) →
      (recorded.1.filterMap receives).getLast? = some packet → packet.1 ≠ current first recorded.1 →
        recorded.2.step linkMdu socks act = some next →
          next.endpoint.mux.channels = recorded.2.endpoint.mux.channels
  /-- Only the loss of the active link leads to a reset. -/
  reset : act = .reset → recorded.2.dispatcher = .resettingLinkId →
    (recorded.1.filterMap loses).getLast? = some (current first recorded.1)

/-- No other link is reported as lost in the dispatch phase, the packets of other links leave the
reassembly buffer as it was, and no session has the id of a frame in them. -/
structure StrayHarmless (first : LinkId) (recorded : List (Client × ClientAct) × Client)
    (act : ClientAct) : Prop where
  /-- A link that is reported as lost is the active one. -/
  closed : ∀ link, act = .event (some (.linkClosed link)) → recorded.2.dispatcher = .receiving →
    link = current first recorded.1
  /-- A packet of another link leaves nothing behind. -/
  data : ∀ link data, act = .event (some (.linkData link data)) →
    recorded.2.dispatcher = .receiving → link ≠ current first recorded.1 →
      LeavesBuffer recorded.2.endpoint.mux.recvBuf data
  /-- No session is registered under the id of a frame out of a packet of another link. -/
  dispatched : ∀ packet frame frames, act = .dispatch →
    recorded.2.dispatcher = .dispatching (frame :: frames) →
      (recorded.1.filterMap receives).getLast? = some packet → packet.1 ≠ current first recorded.1 →
        recorded.2.endpoint.mux.sessions frame.sessionId = none

/-- What the steps so far say about a reset that is about to begin. -/
structure Settled (first : LinkId) (recorded : List (Client × ClientAct) × Client) : Prop where
  /-- No complete frame is at the front of the reassembly buffer. -/
  incomplete : Frame.decode recorded.2.endpoint.mux.recvBuf = .more
  /-- The link that was lost is the active one. -/
  lost : recorded.2.dispatcher = .resettingLinkId →
    (recorded.1.filterMap loses).getLast? = some (current first recorded.1)

section Steps

variable {linkMdu : ℕ+} {socks : FastSocks5} {first : LinkId} {past : List (Client × ClientAct)}
  {client next : Client} {act : ClientAct}

theorem step_linkData (receiving : client.dispatcher = .receiving) (link : LinkId) (data : Bytes) :
    client.step linkMdu socks (.event (some (.linkData link data))) =
      some
        { client with
          endpoint :=
            { client.endpoint with mux := (client.endpoint.mux.receiveData data).2 }
          dispatcher := .dispatching (client.endpoint.mux.receiveData data).1 } := by
  simp [Client.step, control, mayArrive, onEvent, receiving, Endpoint.step]

theorem step_linkClosed (receiving : client.dispatcher = .receiving) {link : LinkId}
    (taken : client.step linkMdu socks (.event (some (.linkClosed link))) = some next) :
    next.dispatcher = .resettingLinkId := by
  obtain ⟨endpointAct, turn, _⟩ := turn_of_step taken
  generalize next.dispatcher = dispatcher at turn
  cases turn with
  | lost => rfl
  | loop ofLoop => cases ofLoop
  | ignored _ _ not_closed => exact absurd rfl (not_closed link)
  | refused establishing => simp [receiving] at establishing
  | passedOver establishing => simp [receiving] at establishing

theorem step_dispatch {frame : Frame} {frames : List Frame}
    (dispatching : client.dispatcher = .dispatching (frame :: frames)) :
    client.step linkMdu socks .dispatch =
      some
        { client with
          endpoint := { client.endpoint with mux := client.endpoint.mux.dispatch frame }
          dispatcher := .dispatching frames } := by
  simp [Client.step, control, dispatching, Endpoint.step]

theorem dispatch_channels_eq_iff {mux : Mux} {frame : Frame} :
    (mux.dispatch frame).channels = mux.channels ↔ mux.sessions frame.sessionId = none := by
  rw [Mux.dispatch]
  cases mux.sessions frame.sessionId with
  | none => simp
  | some chan =>
      refine ⟨fun same => ?_, fun absent => by cases absent⟩
      have longer := congrArg List.length (congrFun same chan)
      simp at longer

theorem settled_new (listeners : List Listener) : Settled first ([], new first listeners) where
  incomplete := Frame.decode_nil
  lost resetting := by cases resetting

theorem Settled.step (settled : Settled first (past, client))
    (closed : ∀ link, act = .event (some (.linkClosed link)) → client.dispatcher = .receiving →
      link = current first past)
    (taken : client.step linkMdu socks act = some next) :
    Settled first (past ++ [(client, act)], next) := by
  obtain ⟨endpointAct, turn, stepped⟩ := turn_of_step taken
  refine ⟨?_, fun resetting => ?_⟩
  · exact Execution.attempt_invariant (fun ep => Frame.decode ep.mux.recvBuf = .more)
      settled.incomplete
      (fun made _ taken => (Endpoint.step_cases taken).decode_recvBuf settled.incomplete) stepped
  · have resetting : next.dispatcher = .resettingLinkId := resetting
    rw [resetting] at turn
    rw [Execution.filterMap_concat, current_concat]
    generalize same : Dispatcher.resettingLinkId = dispatcher at turn
    cases turn with
    | @lost link receiving =>
        simp [loses, receiving, connects, closed link rfl receiving]
    | session =>
        simpa [loses, connects] using settled.lost same.symm
    | sender =>
        simpa [loses, connects] using settled.lost same.symm
    | loop ofLoop =>
        have quiet : loses (client, act) = none ∧ connects (client, act) = none := by
          cases act <;> first | exact ⟨rfl, rfl⟩ | cases ofLoop
        simpa [quiet] using settled.lost same.symm
    | _ => cases same

theorem Settled.heedsActive_iff_strayHarmless (settled : Settled first (past, client))
    (taken : client.step linkMdu socks act = some next) :
    HeedsActive linkMdu socks first (past, client) act ↔
      StrayHarmless first (past, client) act := by
  constructor
  · intro heeds
    refine ⟨?_, ?_, ?_⟩
    · rintro link rfl receiving
      by_contra stray
      have phase := (heeds.closed link next rfl receiving stray taken).dispatchPhase
      rw [step_linkClosed receiving taken] at phase
      cases phase
    · rintro link data rfl receiving stray
      have left := heeds.data link data _ rfl receiving stray (step_linkData receiving link data)
      exact (receiveData_snd_eq_iff settled.incomplete).mp left.recvBuf
    · rintro packet frame frames rfl dispatching last stray
      have same := heeds.dispatched packet frame frames _ rfl dispatching last stray
        (step_dispatch dispatching)
      exact dispatch_channels_eq_iff.mp same
  · intro harmless
    refine ⟨?_, ?_, ?_, ?_⟩
    · rintro link data later rfl receiving stray stepped
      rw [step_linkData receiving] at stepped
      obtain rfl := Option.some.inj stepped
      have left := harmless.data link data rfl receiving stray
      exact ⟨rfl, rfl, (receiveData_snd_eq_iff settled.incomplete).mpr left, rfl⟩
    · rintro link later rfl receiving stray _
      exact absurd (harmless.closed link rfl receiving) stray
    · rintro packet frame frames later rfl dispatching last stray stepped
      rw [step_dispatch dispatching] at stepped
      obtain rfl := Option.some.inj stepped
      exact dispatch_channels_eq_iff.mpr
        (harmless.dispatched packet frame frames rfl dispatching last stray)
    · rintro _ resetting
      exact settled.lost resetting

/-- In its dispatch phase the client reacts to the events of its active link only, exactly in the
runs in which no other link is reported as lost there, the packets of other links leave the
reassembly buffer as it was, and no session has the id of a frame in them. -/
theorem heedsActive_iff {listeners : List Listener} {acts : List ClientAct} {final : Client}
    (execution : Execution.run (Client.step linkMdu socks) (new first listeners) acts =
      some final) :
    Execution.Along (Execution.recording (Client.step linkMdu socks))
        (HeedsActive linkMdu socks first) ([], new first listeners) acts ↔
      Execution.Along (Execution.recording (Client.step linkMdu socks)) (StrayHarmless first)
        ([], new first listeners) acts := by
  refine Execution.along_congr ?_ ?_ (settled_new listeners) (Execution.run_recording execution)
  · rintro ⟨past, client⟩ act after settled heeds taken
    obtain ⟨next, stepped, rfl⟩ := Execution.recording_eq_some.mp taken
    exact settled.step ((settled.heedsActive_iff_strayHarmless stepped).mp heeds).closed stepped
  · rintro ⟨past, client⟩ act after settled taken
    obtain ⟨next, stepped, rfl⟩ := Execution.recording_eq_some.mp taken
    exact settled.heedsActive_iff_strayHarmless stepped

end Steps

/-- The client has reconnected, and the loss of its first link is reported once more. -/
def reportedTwice : List ClientAct :=
  [.linkDown 1, .event (some (.linkClosed 1)), .reset, .reset, .reset, .attempt (.created 2),
    .event (some (.linkEstablished 2 true)), .setLinkId, .event (some (.linkClosed 1)), .reset]

/-- The second report resets the multiplexer of the second link. -/
theorem not_heedsActive_reportedTwice :
    ∃ final, Execution.run (step 431 .rfc1928) (new 1 [.socks]) reportedTwice = some final ∧
      final.dispatcher = .resettingSessions ∧ final.endpoint.mux.linkId = none ∧
      ¬ Execution.Along (Execution.recording (step 431 .rfc1928)) (HeedsActive 431 .rfc1928 1)
        ([], new 1 [.socks]) reportedTwice := by
  have ends : ∃ before final,
      Execution.run (Execution.recording (step 431 .rfc1928)) ([], new 1 [.socks])
          (reportedTwice.take 8) = some before ∧
        before.2.dispatcher = .receiving ∧ current 1 before.1 = 2 ∧
        before.2.step 431 .rfc1928 (.event (some (.linkClosed 1))) = some final :=
    ⟨_, _, rfl, rfl, rfl, rfl⟩
  obtain ⟨before, after, front, receiving, active, taken⟩ := ends
  refine ⟨_, rfl, rfl, rfl, fun along => ?_⟩
  have heeds := Execution.along_iff_forall_split.mp along (reportedTwice.take 8)
    (.event (some (.linkClosed 1))) [.reset] before rfl front
  have phase := (heeds.closed 1 after rfl receiving (by simp [active]) taken).dispatchPhase
  rw [step_linkClosed receiving taken] at phase
  cases phase

/-- Before the second report the run is covered by the condition. -/
theorem heedsActive_iff_reportedTwice_take :
    Execution.Along (Execution.recording (step 431 .rfc1928)) (HeedsActive 431 .rfc1928 1)
        ([], new 1 [.socks]) (reportedTwice.take 8) ↔
      Execution.Along (Execution.recording (step 431 .rfc1928)) (StrayHarmless 1)
        ([], new 1 [.socks]) (reportedTwice.take 8) :=
  heedsActive_iff (rfl : Execution.run (step 431 .rfc1928) (new 1 [.socks])
    (reportedTwice.take 8) = some _)

end Client

end RnsProxy
