import RnsProxy.Dispatch

/-!
# A reset is a clean cut between two links

The reset takes three locks one after the other, and the accept loops, the session tasks and the
link sender act in between. Nevertheless no session registered when a packet of a link is dispatched
has given a frame to another link, and the reassembly buffer never holds bytes of two links.
-/

namespace RnsProxy

namespace Dispatcher

/-- How many locks of `reset` have been taken since the link was lost. -/
def locksTaken : Dispatcher → ℕ
  | receiving => 0
  | dispatching _ => 0
  | resettingLinkId => 0
  | stopped => 0
  | resettingSessions => 1
  | resettingRecvBuf => 2
  | reconnecting _ => 3
  | establishing _ _ => 3
  | connecting _ => 3

/-- The link that the dispatch task relies on or waits for. -/
def awaited (active : LinkId) : Dispatcher → Option LinkId
  | receiving => some active
  | dispatching _ => some active
  | establishing link _ => some link
  | connecting link => some link
  | _ => none

end Dispatcher

namespace Client

/-- The node reports events of a link from the moment the link exists, which is the first one or
one that `create_link` has returned, up to its `LinkClosed`; a closed event channel stays closed. -/
def MayReport (first : LinkId) (earlier : List ClientAct) : ClientAct → Prop
  | .event (some event) =>
      .event none ∉ earlier ∧
        ∀ link, event.link = some link →
          (link = first ∨ .attempt (.created link) ∈ earlier) ∧
            .event (some (.linkClosed link)) ∉ earlier
  | _ => True

/-- Every event that arrives is one the node may report then. -/
def EventsInOrder (first : LinkId) (acts : List ClientAct) : Prop :=
  ∀ earlier act later, acts = earlier ++ act :: later → MayReport first earlier act

/-- The frame that the link sender begins to send in a step, with the link it sends it on. -/
def begins : Client × ClientAct → Option (LinkId × Outgoing)
  | (client, .sender .readLink) =>
      match client.endpoint.mux.sender, client.endpoint.mux.linkId with
      | .picked out, some link => some (link, out)
      | _, _ => none
  | _ => none

/-- The reassembly buffer is cleared by a step. -/
def clearsRecvBuf (taken : Client × ClientAct) : Bool :=
  taken.1.dispatcher = .resettingRecvBuf ∧ taken.2 = .reset

/-- The packets fed to the multiplexer since the reassembly buffer was cleared last. -/
def sinceReset (past : List (Client × ClientAct)) : List (LinkId × Bytes) :=
  past.foldl (fun packets taken =>
    if clearsRecvBuf taken then [] else packets ++ (receives taken).toList) []

theorem sinceReset_concat (past : List (Client × ClientAct)) (taken : Client × ClientAct) :
    sinceReset (past ++ [taken]) =
      if clearsRecvBuf taken then [] else sinceReset past ++ (receives taken).toList := by
  simp [sinceReset]

end Client

namespace Endpoint

theorem Step.sender_eq {linkMdu : ℕ+} {socks : FastSocks5} {ep next : Endpoint} {act : EndpointAct}
    (taken : Step linkMdu socks ep act next) (other : ∀ senderAct, act ≠ .sender senderAct) :
    next.mux.sender = ep.mux.sender ∧ next.mux.handed = ep.mux.handed := by
  cases taken with
  | session found taken performs => cases performs <;> exact ⟨rfl, rfl⟩
  | @dispatch frame =>
      obtain ⟨channels, same⟩ := ep.mux.dispatch_frame frame
      rw [same]
      exact ⟨rfl, rfl⟩
  | sender => exact absurd rfl (other _)
  | _ => exact ⟨rfl, rfl⟩

end Endpoint

namespace Client

/-- What the steps so far and the state of the client say about the active link. -/
structure OneLink (first : LinkId) (past : List (Client × ClientAct)) (client : Client) : Prop where
  /-- From the first lock of a reset on, there is no link until another one is established. -/
  linkId : ∀ link, client.endpoint.mux.linkId = some link →
    client.dispatcher.locksTaken = 0 ∧ link = current first past
  /-- The frames that have left the send queue are in its history. -/
  begun : ∀ entry ∈ past.filterMap begins, entry.2 ∈ client.endpoint.mux.log
  /-- The registered sessions have given their frames to the active link, and after the second lock
  of a reset to none. -/
  sessions : ∀ sid chan, client.endpoint.mux.sessions sid = some chan →
    ∀ entry ∈ past.filterMap begins, entry.2.origin = some chan →
      client.dispatcher.locksTaken ≤ 1 ∧ entry.1 = current first past
  /-- The packets have come from the active link, and after the third lock of a reset there are
  none. -/
  packets : ∀ packet ∈ sinceReset past,
    client.dispatcher.locksTaken ≤ 2 ∧ packet.1 = current first past
  /-- Some packet has come while its frames are dispatched. -/
  received : ∀ frames, client.dispatcher = .dispatching frames → sinceReset past ≠ []
  /-- The reassembly buffer holds the end of what the packets hold. -/
  recvBuf : client.endpoint.mux.recvBuf <:+ ((sinceReset past).map Prod.snd).flatten

/-- Of the links that exist only the awaited one has not been closed. -/
def OnlyAwaited (first : LinkId) (past : List (Client × ClientAct)) (dispatcher : Dispatcher) :
    Prop :=
  ClientAct.event none ∉ past.map Prod.snd → ∀ link,
    (link = first ∨ ClientAct.attempt (.created link) ∈ past.map Prod.snd) →
      ClientAct.event (some (.linkClosed link)) ∉ past.map Prod.snd →
        dispatcher.awaited (current first past) = some link

section Steps

variable {linkMdu : ℕ+} {socks : FastSocks5} {first : LinkId} {past : List (Client × ClientAct)}
  {client next : Client} {act : ClientAct} {dispatcher : Dispatcher}
  {endpointAct : Option EndpointAct}

theorem OnlyAwaited.of_event (only : OnlyAwaited first past dispatcher) {event : ProxyEvent}
    (inOrder : EventsInOrder first
      ((past ++ [(client, ClientAct.event (some event))]).map Prod.snd))
    {link : LinkId} (about : event.link = some link) :
    dispatcher.awaited (current first past) = some link := by
  have split : (past ++ [(client, ClientAct.event (some event))]).map Prod.snd =
      past.map Prod.snd ++ ClientAct.event (some event) :: [] := by simp
  obtain ⟨live, known⟩ := inOrder _ _ [] split
  obtain ⟨exists_link, not_closed⟩ := known link about
  exact only live link exists_link not_closed

theorem OnlyAwaited.step (only : OnlyAwaited first past client.dispatcher)
    (turn : Turn client act dispatcher endpointAct)
    (inOrder : EventsInOrder first ((past ++ [(client, act)]).map Prod.snd)) :
    OnlyAwaited first (past ++ [(client, act)]) dispatcher := by
  intro live link known not_closed
  simp only [List.map_append, List.map_cons, List.map_nil, List.mem_append, List.mem_singleton,
    not_or] at live known not_closed
  have before : ∀ {stage}, client.dispatcher = stage → act ≠ .attempt (.created link) →
      stage.awaited (current first past) = some link := by
    rintro stage rfl other
    exact only live.1 link (known.imp_right fun member => member.resolve_right (Ne.symm other))
      not_closed.1
  rw [current_concat]
  cases turn with
  | session => exact before rfl (by simp)
  | sender => exact before rfl (by simp)
  | loop ofLoop =>
      have other : act ≠ .attempt (.created link) := by
        rintro rfl
        cases ofLoop
      cases act <;> first | exact before rfl other | cases ofLoop
  | data receiving =>
      have open_link := before receiving (by simp)
      exact open_link
  | lost receiving =>
      -- the link that is lost is the awaited one, and no other one is open
      have awaited := only.of_event inOrder rfl
      have open_link := before rfl (by simp)
      rw [Option.some.inj (awaited.symm.trans open_link)] at not_closed
      exact absurd rfl not_closed.2
  | ignored receiving => exact before receiving (by simp)
  | shutDown => exact absurd rfl live.2
  | dispatch dispatching =>
      have open_link := before dispatching (by simp)
      exact open_link
  | dispatched dispatching =>
      have open_link := before dispatching (by simp)
      exact open_link
  | resetLinkId resetting => cases before resetting (by simp)
  | resetSessions resetting => cases before resetting (by simp)
  | resetRecvBuf resetting => cases before resetting (by simp)
  | retry reconnecting failed =>
      cases before reconnecting fun same => failed link (ClientAct.attempt.inj same)
  | @created delay created reconnecting =>
      by_cases same : created = link
      · exact congrArg some same
      · cases before reconnecting (by simpa using same)
  | established establishing =>
      have open_link := before establishing (by simp)
      exact open_link
  | refused establishing =>
      rw [Option.some.inj (before establishing (by simp))] at not_closed
      exact absurd rfl not_closed.2
  | passedOver establishing => exact before establishing (by simp)
  | cutOff => exact absurd rfl live.2
  | @setLinkId connected connecting =>
      have connects_link : connects (client, .setLinkId) = some connected := by
        simp [connects, connecting]
      rw [connects_link]
      exact before connecting (by simp)

theorem begins_eq_some {entry : LinkId × Outgoing} (begun : begins (client, act) = some entry) :
    client.endpoint.mux.sender = .picked entry.2 ∧ client.endpoint.mux.linkId = some entry.1 := by
  simp only [begins] at begun
  split at begun
  · rename_i same
    cases same
    split at begun
    · cases begun
      exact ⟨‹_›, ‹_›⟩
    · cases begun
  · cases begun

theorem mem_begins_concat {entry : LinkId × Outgoing} {taken : Client × ClientAct} :
    entry ∈ (past ++ [taken]).filterMap begins ↔
      entry ∈ past.filterMap begins ∨ begins taken = some entry := by
  rw [Execution.filterMap_concat, List.mem_append, Option.mem_toList]

theorem begins_concat {taken : Client × ClientAct} (silent : begins taken = none) :
    (past ++ [taken]).filterMap begins = past.filterMap begins := by
  rw [Execution.filterMap_concat, silent, Option.toList_none, List.append_nil]

/-- What a link is taking or has taken is what the link sender has begun to send. -/
structure Begun (past : List (Client × ClientAct)) (mux : Mux) : Prop where
  /-- The frame that is being sent. -/
  sending : ∀ link out rest, mux.sender = .sending link out rest →
    (link, out) ∈ past.filterMap begins
  /-- The frames that have been sent. -/
  handed : ∀ entry ∈ mux.handed, entry ∈ past.filterMap begins

theorem Begun.of_sender_eq {mux later : Mux} (begun : Begun past mux)
    (same : later.sender = mux.sender ∧ later.handed = mux.handed) (taken : Client × ClientAct) :
    Begun (past ++ [taken]) later := by
  refine ⟨fun link out rest sending => ?_, fun entry member => ?_⟩
  · rw [same.1] at sending
    exact mem_begins_concat.mpr (.inl (begun.sending link out rest sending))
  · rw [same.2] at member
    exact mem_begins_concat.mpr (.inl (begun.handed entry member))

theorem Begun.senderStep {later : Mux} {senderAct : Mux.SenderAct}
    (begun : Begun past client.endpoint.mux)
    (taken : Mux.SenderStep linkMdu client.endpoint.mux senderAct later) :
    Begun (past ++ [(client, .sender senderAct)]) later := by
  have old : ∀ {entry}, entry ∈ past.filterMap begins →
      entry ∈ (past ++ [(client, ClientAct.sender senderAct)]).filterMap begins :=
    fun member => mem_begins_concat.mpr (.inl member)
  have handed : ∀ entry ∈ client.endpoint.mux.handed,
      entry ∈ (past ++ [(client, ClientAct.sender senderAct)]).filterMap begins :=
    fun entry member => old (begun.handed entry member)
  cases taken with
  | recv | dropFrame | sendFailed | clearLink =>
      exact ⟨fun link out rest sending => (by cases sending), handed⟩
  | @readLink out link picked active =>
      refine ⟨fun other held rest sending => ?_, handed⟩
      obtain ⟨rfl, rfl, _⟩ := LinkSender.sending.inj sending
      exact mem_begins_concat.mpr (.inr (by simp [begins, picked, active]))
  | @sentLast link out chunk sending =>
      refine ⟨fun other held rest sending => (by cases sending), fun entry member => ?_⟩
      rcases List.mem_append.mp member with before | new
      · exact handed entry before
      · rw [List.mem_singleton.mp new]
        exact old (begun.sending link out _ sending)
  | @sentChunk link out chunk following rest sending =>
      refine ⟨fun other held left still => ?_, handed⟩
      obtain ⟨rfl, rfl, _⟩ := LinkSender.sending.inj still
      exact old (begun.sending _ _ _ sending)

theorem Begun.step (begun : Begun past client.endpoint.mux)
    (taken : client.step linkMdu socks act = some next) :
    Begun (past ++ [(client, act)]) next.endpoint.mux := by
  obtain ⟨endpointAct, turn, stepped⟩ := turn_of_step taken
  cases endpointAct with
  | none =>
      have same : client.endpoint = next.endpoint := Option.some.inj stepped
      exact begun.of_sender_eq (same ▸ ⟨rfl, rfl⟩) _
  | some made =>
      have made_step := Endpoint.step_cases stepped
      by_cases sends : ∃ senderAct, made = .sender senderAct
      · obtain ⟨senderAct, rfl⟩ := sends
        have same_act : act = .sender senderAct := by
          generalize next.dispatcher = dispatcher at turn
          cases turn with
          | sender => rfl
          | loop _ does => exact (does _ rfl).elim
        subst same_act
        generalize next.endpoint = endpoint at made_step
        cases made_step with
        | sender sent => exact begun.senderStep sent
      · have other : ∀ senderAct, made ≠ .sender senderAct := fun senderAct same =>
          sends ⟨senderAct, same⟩
        exact begun.of_sender_eq (made_step.sender_eq other) _

/-- A step of another task keeps the sessions and the packets with the active link. -/
theorem OneLink.elsewhere (one : OneLink first past client) (well : client.endpoint.WellFormed)
    (logged : client.endpoint.mux.Logged) (leaves : client.endpoint.Leaves next.endpoint)
    (no_link : connects (client, act) = none) (no_packet : receives (client, act) = none)
    (kept : clearsRecvBuf (client, act) = false)
    (locks : next.dispatcher.locksTaken = client.dispatcher.locksTaken)
    (dispatching : ∀ frames, next.dispatcher = .dispatching frames →
      ∃ before, client.dispatcher = .dispatching before) :
    OneLink first (past ++ [(client, act)]) next := by
  have same_current : current first (past ++ [(client, act)]) = current first past := by
    rw [current_concat, no_link, Option.getD_none]
  have same_packets : sinceReset (past ++ [(client, act)]) = sinceReset past := by
    simp [sinceReset_concat, kept, no_packet]
  have begun : ∀ entry ∈ (past ++ [(client, act)]).filterMap begins,
      entry.2 ∈ client.endpoint.mux.log := by
    intro entry member
    rcases mem_begins_concat.mp member with old | new
    · exact one.begun entry old
    · exact logged.held entry.2 (by simp [(begins_eq_some new).1, LinkSender.Holds])
  refine ⟨?_, fun entry member => leaves.log _ (begun entry member), ?_, ?_, ?_, ?_⟩
  · rw [same_current, locks]
    exact fun link active => one.linkId link (leaves.linkId link active)
  · rw [same_current, locks]
    intro sid chan found entry member owner
    rcases leaves.sessions sid chan found with found | rfl
    · rcases mem_begins_concat.mp member with old | new
      · exact one.sessions sid chan found entry old owner
      · obtain ⟨no_lock, active⟩ := one.linkId entry.1 (begins_eq_some new).2
        exact ⟨no_lock ▸ Nat.zero_le 1, active⟩
    · -- nothing has been sent for a channel that is new
      obtain ⟨task, owned, _⟩ := well.origin entry.2 (begun entry member) _ owner
      exact absurd rfl (well.ne_nextChan owned)
  · rw [same_current, locks, same_packets]
    exact one.packets
  · rw [same_packets]
    intro frames working
    obtain ⟨before, working⟩ := dispatching frames working
    exact one.received before working
  · rw [same_packets, leaves.recvBuf]
    exact one.recvBuf

theorem OneLink.receive (one : OneLink first past client)
    (receiving : client.dispatcher = .receiving) {link : LinkId} {data : Bytes}
    (active : link = current first past) {frames : List Frame}
    (moved : next.dispatcher = .dispatching frames)
    (mux : next.endpoint.mux = (client.endpoint.mux.receiveData data).2) :
    OneLink first (past ++ [(client, .event (some (.linkData link data)))]) next := by
  have packets : sinceReset (past ++ [(client, .event (some (.linkData link data)))]) =
      sinceReset past ++ [(link, data)] := by
    simp [sinceReset_concat, clearsRecvBuf, receives, receiving]
  have same_current : current first (past ++ [(client, .event (some (.linkData link data)))]) =
      current first past := current_concat ..
  have same_begun :
      (past ++ [(client, ClientAct.event (some (.linkData link data)))]).filterMap begins =
        past.filterMap begins := begins_concat rfl
  refine ⟨?_, ?_, ?_, ?_, ?_, ?_⟩
  · rw [mux, same_current]
    intro other same
    exact ⟨by rw [moved]; rfl, (one.linkId other same).2⟩
  · rw [mux, same_begun]
    exact one.begun
  · rw [mux, same_begun, same_current]
    intro sid chan found entry member owner
    exact ⟨by rw [moved]; exact Nat.zero_le 1, (one.sessions sid chan found entry member owner).2⟩
  · rw [packets, same_current]
    intro packet member
    refine ⟨by rw [moved]; exact Nat.zero_le 2, ?_⟩
    rcases List.mem_append.mp member with old | new
    · exact (one.packets packet old).2
    · rw [List.mem_singleton.mp new]
      exact active
  · simp [packets]
  · rw [mux, packets]
    have kept : (client.endpoint.mux.receiveData data).2.recvBuf <:+
        client.endpoint.mux.recvBuf ++ data := Framing.drain_isSuffix _ _
    obtain ⟨gone, whole⟩ := one.recvBuf
    refine kept.trans ⟨gone, ?_⟩
    simp [← whole]

/-- A step of a reset that leaves no link keeps sessions and packets with the active link. -/
theorem OneLink.reset (one : OneLink first past client)
    (unlinked : next.endpoint.mux.linkId = none)
    (log : next.endpoint.mux.log = client.endpoint.mux.log)
    (sessions : ∀ sid chan, next.endpoint.mux.sessions sid = some chan →
      client.endpoint.mux.sessions sid = some chan ∧
        (client.dispatcher.locksTaken ≤ 1 → next.dispatcher.locksTaken ≤ 1))
    (packets : ∀ packet ∈ sinceReset (past ++ [(client, .reset)]),
      packet ∈ sinceReset past ∧ next.dispatcher.locksTaken ≤ 2)
    (working : ∀ frames, next.dispatcher ≠ .dispatching frames)
    (recvBuf : next.endpoint.mux.recvBuf <:+
      ((sinceReset (past ++ [(client, .reset)])).map Prod.snd).flatten) :
    OneLink first (past ++ [(client, .reset)]) next := by
  have same_current : current first (past ++ [(client, .reset)]) = current first past :=
    current_concat ..
  have same_begun : (past ++ [(client, ClientAct.reset)]).filterMap begins =
      past.filterMap begins := begins_concat rfl
  refine ⟨?_, ?_, ?_, ?_, ?_, recvBuf⟩
  · intro link active
    rw [unlinked] at active
    cases active
  · rw [same_begun, log]
    exact one.begun
  · rw [same_begun, same_current]
    intro sid chan found entry member owner
    obtain ⟨found_before, locks⟩ := sessions sid chan found
    obtain ⟨early, same_link⟩ := one.sessions sid chan found_before entry member owner
    exact ⟨locks early, same_link⟩
  · rw [same_current]
    intro packet member
    obtain ⟨member_before, locks⟩ := packets packet member
    exact ⟨locks, (one.packets packet member_before).2⟩
  · exact fun frames dispatching => absurd dispatching (working frames)

/-- Between the first lock of a reset and the next link there is no link. -/
theorem OneLink.unlinked (one : OneLink first past client)
    (locked : client.dispatcher.locksTaken ≠ 0) : client.endpoint.mux.linkId = none := by
  by_contra active
  obtain ⟨link, active⟩ := Option.ne_none_iff_exists'.mp active
  exact locked (one.linkId link active).1

theorem sinceReset_reset (kept : client.dispatcher ≠ .resettingRecvBuf) :
    sinceReset (past ++ [(client, .reset)]) = sinceReset past := by
  simp [sinceReset_concat, clearsRecvBuf, receives, kept]

theorem OneLink.resetLinkId (one : OneLink first past client)
    (resetting : client.dispatcher = .resettingLinkId)
    (moved : next.dispatcher = .resettingSessions)
    (mux : next.endpoint.mux = client.endpoint.mux.resetLinkId) :
    OneLink first (past ++ [(client, .reset)]) next := by
  have same_packets : sinceReset (past ++ [(client, .reset)]) = sinceReset past :=
    sinceReset_reset (by simp [resetting])
  apply one.reset
  · rw [mux]
    rfl
  · rw [mux]
    rfl
  · rw [mux, moved]
    exact fun sid chan found => ⟨found, fun _ => le_rfl⟩
  · rw [same_packets, moved]
    exact fun packet member => ⟨member, Nat.le_succ 1⟩
  · simp [moved]
  · rw [mux, same_packets]
    exact one.recvBuf

theorem OneLink.resetSessions (one : OneLink first past client)
    (resetting : client.dispatcher = .resettingSessions)
    (moved : next.dispatcher = .resettingRecvBuf)
    (mux : next.endpoint.mux = client.endpoint.mux.resetSessions) :
    OneLink first (past ++ [(client, .reset)]) next := by
  have same_packets : sinceReset (past ++ [(client, .reset)]) = sinceReset past :=
    sinceReset_reset (by simp [resetting])
  apply one.reset
  · rw [mux]
    exact one.unlinked (by simp [resetting, Dispatcher.locksTaken])
  · rw [mux]
    rfl
  · rw [mux]
    intro sid chan found
    cases found
  · rw [same_packets, moved]
    exact fun packet member => ⟨member, le_rfl⟩
  · simp [moved]
  · rw [mux, same_packets]
    exact one.recvBuf

theorem OneLink.resetRecvBuf (one : OneLink first past client)
    (resetting : client.dispatcher = .resettingRecvBuf)
    (moved : next.dispatcher = .reconnecting 0)
    (mux : next.endpoint.mux = client.endpoint.mux.resetRecvBuf) :
    OneLink first (past ++ [(client, .reset)]) next := by
  have no_packets : sinceReset (past ++ [(client, .reset)]) = [] := by
    simp [sinceReset_concat, clearsRecvBuf, resetting]
  apply one.reset
  · rw [mux]
    exact one.unlinked (by simp [resetting, Dispatcher.locksTaken])
  · rw [mux]
    rfl
  · rw [mux, resetting]
    exact fun sid chan found => ⟨found, fun early => absurd early (by decide)⟩
  · simp [no_packets]
  · simp [moved]
  · rw [mux]
    exact List.nil_suffix

theorem OneLink.setLinkId (one : OneLink first past client) {link : LinkId}
    (connecting : client.dispatcher = .connecting link)
    (moved : next.dispatcher = .receiving)
    (mux : next.endpoint.mux = client.endpoint.mux.setLinkId link) :
    OneLink first (past ++ [(client, .setLinkId)]) next := by
  have new_current : current first (past ++ [(client, .setLinkId)]) = link := by
    simp [current_concat, connects, connecting]
  have same_begun : (past ++ [(client, ClientAct.setLinkId)]).filterMap begins =
      past.filterMap begins := begins_concat rfl
  have same_packets : sinceReset (past ++ [(client, .setLinkId)]) = sinceReset past := by
    simp [sinceReset_concat, clearsRecvBuf, receives]
  refine ⟨?_, ?_, ?_, ?_, ?_, ?_⟩
  · rw [mux, new_current, moved]
    intro other same
    exact ⟨rfl, (Option.some.inj same).symm⟩
  · rw [mux, same_begun]
    exact one.begun
  · rw [mux, same_begun]
    intro sid chan found entry member owner
    have early := (one.sessions sid chan found entry member owner).1
    rw [connecting] at early
    exact absurd early (by simp [Dispatcher.locksTaken])
  · rw [same_packets]
    intro packet member
    have early := (one.packets packet member).1
    rw [connecting] at early
    exact absurd early (by simp [Dispatcher.locksTaken])
  · simp [moved]
  · rw [mux, same_packets]
    exact one.recvBuf

theorem OneLink.step (one : OneLink first past client) (well : client.endpoint.WellFormed)
    (logged : client.endpoint.mux.Logged) (taken : client.step linkMdu socks act = some next)
    (fromActive : ∀ packet, receives (client, act) = some packet → packet.1 = current first past) :
    OneLink first (past ++ [(client, act)]) next := by
  obtain ⟨endpointAct, turn, stepped⟩ := turn_of_step taken
  have leaves := Endpoint.leaves_of_attempt stepped
  generalize moved : next.dispatcher = dispatcher at turn
  cases turn with
  | session =>
      exact one.elsewhere well logged (leaves (by simp [Endpoint.Elsewhere])) rfl rfl
        (by simp [clearsRecvBuf])
        (by rw [moved]) fun frames working => ⟨frames, moved ▸ working⟩
  | sender =>
      exact one.elsewhere well logged (leaves (by simp [Endpoint.Elsewhere])) rfl rfl
        (by simp [clearsRecvBuf])
        (by rw [moved]) fun frames working => ⟨frames, moved ▸ working⟩
  | loop ofLoop does =>
      have elsewhere : ∀ made, endpointAct = some made → Endpoint.Elsewhere made := by
        intro made chosen
        have made_loop := does made chosen
        cases made <;> trivial
      have quiet : connects (client, act) = none ∧ receives (client, act) = none := by
        cases act <;> first | exact ⟨rfl, rfl⟩ | cases ofLoop
      have no_reset : act ≠ .reset := by
        rintro rfl
        cases ofLoop
      exact one.elsewhere well logged (leaves elsewhere) quiet.1 quiet.2
        (by simp [clearsRecvBuf, no_reset])
        (by rw [moved])
        fun frames working => ⟨frames, moved ▸ working⟩
  | @data link data receiving =>
      have from_active : link = current first past :=
        fromActive (link, data) (by simp [receives, receiving])
      exact one.receive receiving from_active moved
        (congrArg Endpoint.mux (Option.some.inj stepped)).symm
  | lost receiving =>
      exact one.elsewhere well logged (leaves (by simp)) rfl rfl (by simp [clearsRecvBuf])
        (by rw [moved, receiving]; rfl) (by simp [moved])
  | @ignored event receiving no_data =>
      have no_packet : receives (client, .event (some event)) = none := by
        cases event with
        | linkData link data => exact absurd rfl (no_data link data)
        | _ => rfl
      exact one.elsewhere well logged (leaves (by simp)) rfl no_packet (by simp [clearsRecvBuf])
        (by rw [moved, receiving]) (by simp [moved])
  | shutDown receiving =>
      exact one.elsewhere well logged (leaves (by simp)) rfl rfl (by simp [clearsRecvBuf])
        (by rw [moved, receiving]; rfl) (by simp [moved])
  | dispatch dispatching =>
      exact one.elsewhere well logged (leaves (by simp [Endpoint.Elsewhere])) rfl rfl
        (by simp [clearsRecvBuf])
        (by rw [moved, dispatching]; rfl) fun _ _ => ⟨_, dispatching⟩
  | dispatched dispatching =>
      exact one.elsewhere well logged (leaves (by simp)) rfl rfl (by simp [clearsRecvBuf])
        (by rw [moved, dispatching]; rfl) (by simp [moved])
  | resetLinkId resetting =>
      exact one.resetLinkId resetting moved (congrArg Endpoint.mux (Option.some.inj stepped)).symm
  | resetSessions resetting =>
      exact one.resetSessions resetting moved (congrArg Endpoint.mux (Option.some.inj stepped)).symm
  | resetRecvBuf resetting =>
      exact one.resetRecvBuf resetting moved (congrArg Endpoint.mux (Option.some.inj stepped)).symm
  | retry reconnecting =>
      exact one.elsewhere well logged (leaves (by simp)) rfl rfl (by simp [clearsRecvBuf])
        (by rw [moved, reconnecting]; rfl) (by simp [moved])
  | created reconnecting =>
      exact one.elsewhere well logged (leaves (by simp)) rfl rfl (by simp [clearsRecvBuf])
        (by rw [moved, reconnecting]; rfl) (by simp [moved])
  | established establishing =>
      exact one.elsewhere well logged (leaves (by simp)) rfl rfl (by simp [clearsRecvBuf])
        (by rw [moved, establishing]; rfl) (by simp [moved])
  | refused establishing =>
      exact one.elsewhere well logged (leaves (by simp)) rfl rfl (by simp [clearsRecvBuf])
        (by rw [moved, establishing]; rfl) (by simp [moved])
  | @passedOver link delay event establishing =>
      have no_packet : receives (client, .event (some event)) = none := by
        cases event <;> simp [receives, establishing]
      exact one.elsewhere well logged (leaves (by simp)) rfl no_packet (by simp [clearsRecvBuf])
        (by rw [moved, establishing]) (by simp [moved])
  | cutOff establishing =>
      exact one.elsewhere well logged (leaves (by simp)) rfl rfl (by simp [clearsRecvBuf])
        (by rw [moved, establishing]; rfl) (by simp [moved])
  | setLinkId connecting =>
      exact one.setLinkId connecting moved (congrArg Endpoint.mux (Option.some.inj stepped)).symm

theorem oneLink_new (listeners : List Listener) : OneLink first [] (new first listeners) where
  linkId link active := ⟨rfl, (Option.some.inj active).symm⟩
  begun entry member := by cases member
  sessions sid chan found := by cases found
  packets packet member := by cases member
  received frames working := by cases working
  recvBuf := List.suffix_refl []

theorem onlyAwaited_new : OnlyAwaited first [] .receiving := by
  intro live link known not_closed
  rcases known with rfl | known
  · rfl
  · cases known

theorem EventsInOrder.of_append {front back : List ClientAct}
    (inOrder : EventsInOrder first (front ++ back)) : EventsInOrder first front := by
  intro earlier act later split
  exact inOrder earlier act (later ++ back) (by simp [split])

/-- What holds of the client while events arrive in order. -/
structure Orderly (first : LinkId) (past : List (Client × ClientAct)) (client : Client) : Prop where
  /-- The endpoint is one a run reaches. -/
  well : client.endpoint.WellFormed
  /-- The history of the send queue is complete. -/
  logged : client.endpoint.mux.Logged
  /-- Everything belongs to the active link. -/
  one : OneLink first past client
  /-- What the links have taken is known. -/
  sent : Begun past client.endpoint.mux
  /-- Events come from the awaited link only. -/
  only : OnlyAwaited first past client.dispatcher

theorem orderly_new (listeners : List Listener) : Orderly first [] (new first listeners) where
  well := wellFormed_new first listeners
  logged := ⟨Mux.logged_new.queued, Mux.logged_new.held, Mux.logged_new.handed⟩
  one := oneLink_new listeners
  sent := ⟨fun link out rest sending => (by cases sending), fun entry member => (by cases member)⟩
  only := onlyAwaited_new

/-- A packet that arrives in order is one of the active link. -/
theorem Orderly.fromActive (orderly : Orderly first past client)
    (inOrder : EventsInOrder first ((past ++ [(client, act)]).map Prod.snd))
    {packet : LinkId × Bytes} (received : receives (client, act) = some packet) :
    packet.1 = current first past := by
  simp only [receives] at received
  split at received
  · rename_i same
    cases same
    rw [Option.ite_none_right_eq_some] at received
    obtain ⟨receiving, same⟩ := received
    cases same
    have awaited := orderly.only.of_event inOrder rfl
    rw [receiving] at awaited
    exact (Option.some.inj awaited).symm
  · cases received

theorem Orderly.step (orderly : Orderly first past client)
    (inOrder : EventsInOrder first ((past ++ [(client, act)]).map Prod.snd))
    (taken : client.step linkMdu socks act = some next) :
    Orderly first (past ++ [(client, act)]) next := by
  obtain ⟨endpointAct, turn, stepped⟩ := turn_of_step taken
  have one := orderly.one.step orderly.well orderly.logged taken
    fun packet received => orderly.fromActive inOrder received
  have sent := orderly.sent.step taken
  have only := orderly.only.step turn inOrder
  refine ⟨?_, ?_, one, sent, only⟩
  · exact Execution.attempt_invariant Endpoint.WellFormed orderly.well
      (fun made _ taken => orderly.well.step (Endpoint.step_cases taken)) stepped
  · exact Execution.attempt_invariant (fun ep => ep.mux.Logged) orderly.logged
      (fun made _ taken => Endpoint.logged_step orderly.logged (Endpoint.step_cases taken)) stepped

theorem orderly_of_run {listeners : List Listener} {acts : List ClientAct}
    (execution : Execution.run (Client.step linkMdu socks) (new first listeners) acts = some client)
    (inOrder : EventsInOrder first acts) :
    Orderly first (Execution.trace (Client.step linkMdu socks) (new first listeners) acts)
      client := by
  have extended : ∀ past before act after,
      (EventsInOrder first (past.map Prod.snd) → Orderly first past before) →
      Client.step linkMdu socks before act = some after →
      EventsInOrder first ((past ++ [(before, act)]).map Prod.snd) →
        Orderly first (past ++ [(before, act)]) after := by
    intro past before act after so_far taken inOrder
    have earlier : EventsInOrder first (past.map Prod.snd) := by
      rw [List.map_append] at inOrder
      exact inOrder.of_append
    exact (so_far earlier).step inOrder taken
  have orderly := Execution.run_history (fun past client =>
    EventsInOrder first (past.map Prod.snd) → Orderly first past client) extended
    (fun _ => orderly_new listeners) execution
  rw [Execution.trace_map_snd execution] at orderly
  exact orderly inOrder

/-- Whatever the other tasks do while the client resets its multiplexer and reconnects, the packets
since the last reset are of one link, the reassembly buffer holds bytes of that link only, and when
a frame is dispatched to a session, that link is the only one on which the link sender has begun to
send a frame of the session, its CONNECT or any other. Whatever a link has taken completely the link
sender has begun to send. -/
theorem cleanCut {listeners : List Listener} {acts : List ClientAct}
    (execution : Execution.run (Client.step linkMdu socks) (new first listeners) acts = some client)
    (inOrder : EventsInOrder first acts) :
    let past := Execution.trace (Client.step linkMdu socks) (new first listeners) acts
    (∀ entry ∈ client.endpoint.mux.handed, entry ∈ past.filterMap begins) ∧
      ∃ link, (∀ packet ∈ sinceReset past, packet.1 = link) ∧
        client.endpoint.mux.recvBuf <:+ ((sinceReset past).map Prod.snd).flatten ∧
        ∀ frame frames chan, client.dispatcher = .dispatching (frame :: frames) →
          client.endpoint.mux.sessions frame.sessionId = some chan →
            sinceReset past ≠ [] ∧
              ∀ entry ∈ past.filterMap begins, entry.2.origin = some chan → entry.1 = link := by
  obtain ⟨_, _, one, sent, _⟩ := orderly_of_run execution inOrder
  refine ⟨sent.handed, _, fun packet member => (one.packets packet member).2, one.recvBuf, ?_⟩
  intro frame frames chan working registered
  exact ⟨one.received _ working, fun entry member owner =>
    (one.sessions _ chan registered entry member owner).2⟩

end Steps

/-- The first link is lost before the CONNECT of the first session leaves the send queue. The client
reconnects, a second session is opened, and the server answers it. -/
def reconnected : List ClientAct :=
  [.accept 0, .isConnected 0, .nextSessionId 0, .registerSession 0, .session 0 .send, .linkDown 1,
    .event (some (.linkClosed 1)), .reset, .reset, .reset, .attempt (.created 2),
    .event (some (.linkEstablished 2 true)), .setLinkId, .sender .recv, .sender .readLink,
    .sender (.sent true), .accept 0, .isConnected 0, .nextSessionId 0, .registerSession 0,
    .session 1 .send, .sender .recv, .sender .readLink, .sender (.sent true),
    .event (some (.linkData 2 (Frame.encode ⟨.connectOk, 2, []⟩)))]

/-- The answer is dispatched to the second session, whose CONNECT went out on the second link. -/
theorem cleanCut_reconnected :
    ∃ client, Execution.run (step 431 .rfc1928) (new 1 [.forwardedTcp 80]) reconnected =
      some client ∧
      client.dispatcher = .dispatching [⟨.connectOk, 2, []⟩] ∧
      client.endpoint.mux.sessions 2 = some 1 ∧
      ∃ link,
        (∀ packet ∈ sinceReset (Execution.trace (step 431 .rfc1928) (new 1 [.forwardedTcp 80])
          reconnected), packet.1 = link) ∧
        ∀ entry ∈ (Execution.trace (step 431 .rfc1928) (new 1 [.forwardedTcp 80])
          reconnected).filterMap begins, entry.2.origin = some 1 → entry.1 = link := by
  have ends : ∃ client, Execution.run (step 431 .rfc1928) (new 1 [.forwardedTcp 80]) reconnected =
      some client ∧ client.dispatcher = .dispatching [⟨.connectOk, 2, []⟩] ∧
      client.endpoint.mux.sessions 2 = some 1 := ⟨_, rfl, rfl, rfl⟩
  obtain ⟨client, execution, working, registered⟩ := ends
  have inOrder : EventsInOrder 1 reconnected := by
    simp [EventsInOrder, reconnected, Execution.forall_split_cons, MayReport, ProxyEvent.link]
  obtain ⟨_, link, packets, _, sessions⟩ := cleanCut execution inOrder
  exact ⟨client, execution, working, registered, link, packets,
    (sessions _ _ 1 working registered).2⟩

end Client

end RnsProxy
