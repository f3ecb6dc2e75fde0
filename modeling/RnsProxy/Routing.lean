import RnsProxy.Bookkeeping
import RnsProxy.Wire

/-!
# Which frames go to which link

A multiplexer may lose its link and be given another while its sessions go on sending. The link
sender takes the frames out of the queue one after the other and reads for each the link that is
active then, if there is one. So the frames that one link is handed are neighbours in the history of
the queue, no frame is handed to two links, and what a link has taken is the beginning of the
encodings of its frames.
-/

namespace RnsProxy

/-- A frame the link sender has taken up, with the link it has read for it; without a link the frame
is dropped. -/
structure Routed where
  /-- The link. -/
  link : Option LinkId
  /-- The entry of the send queue. -/
  out : Outgoing

/-- The frames that go to a link. -/
def framesOn (link : LinkId) (routed : List Routed) : List Frame :=
  (routed.filter fun entry => entry.link == some link).map fun entry => entry.out.frame

@[simp]
theorem framesOn_append (link : LinkId) (left right : List Routed) :
    framesOn link (left ++ right) = framesOn link left ++ framesOn link right := by
  simp [framesOn]

theorem framesOn_eq_nil {link : LinkId} {routed : List Routed}
    (others : ∀ entry ∈ routed, entry.link ≠ some link) : framesOn link routed = [] := by
  simpa [framesOn, List.filter_eq_nil_iff] using others

theorem framesOn_eq_map {link : LinkId} {routed : List Routed}
    (all : ∀ entry ∈ routed, entry.link = some link) :
    framesOn link routed = routed.map fun entry => entry.out.frame := by
  rw [framesOn, List.filter_eq_self.mpr (by simpa using all)]

theorem mem_framesOn {link : LinkId} {routed : List Routed} {frame : Frame} :
    frame ∈ framesOn link routed ↔
      ∃ entry ∈ routed, entry.link = some link ∧ entry.out.frame = frame := by
  simp [framesOn, and_assoc]

/-- What a link sender has still to give to a link. -/
def LinkSender.restOn (link : LinkId) : LinkSender → Bytes
  | sending other _ rest => if other = link then rest.flatten else []
  | _ => []

namespace Mux

/-- The packets a link has taken, in order. -/
def packetsOn (mux : Mux) (link : LinkId) : List Bytes :=
  (mux.wire.filter fun packet => packet.1 == link).map Prod.snd

theorem flatten_packetsOn (mux : Mux) (link : LinkId) :
    (mux.packetsOn link).flatten = mux.bytesOn link := by
  simp [packetsOn, bytesOn, List.flatMap]

/-- The frames of a link are neighbours. -/
def Adjacent (link : LinkId) (routed : List Routed) : Prop :=
  ∃ before since after, routed = before ++ since ++ after ∧
    (∀ entry ∈ before, entry.link ≠ some link) ∧ (∀ entry ∈ since, entry.link = some link) ∧
    ∀ entry ∈ after, entry.link ≠ some link

/-- The link sender of a multiplexer has given its links these frames. -/
structure Routes (mux : Mux) (routed : List Routed) : Prop where
  /-- The frames are those that have left the send queue. -/
  log : mux.log = routed.map Routed.out ++ mux.awaiting
  /-- A link has taken a beginning of its frames. -/
  partly : ∀ link, mux.bytesOn link <+: (framesOn link routed).flatMap Frame.encode
  /-- The active link has taken them all, up to those the link sender is about to send. -/
  active : ∀ link, mux.linkId = some link → (∀ other out, mux.sender ≠ .failed other out) →
    mux.bytesOn link ++ mux.sender.restOn link = (framesOn link routed).flatMap Frame.encode
  /-- So has the link on which the link sender is sending. -/
  sending : ∀ link out rest, mux.sender = .sending link out rest →
    mux.bytesOn link ++ rest.flatten = (framesOn link routed).flatMap Frame.encode
  /-- The frames of the active link come last. -/
  latest : ∀ link, mux.linkId = some link → ∃ before since, routed = before ++ since ∧
    (∀ entry ∈ before, entry.link ≠ some link) ∧ ∀ entry ∈ since, entry.link = some link
  /-- The frames of every link are neighbours. -/
  adjacent : ∀ link, Adjacent link routed

variable {linkMdu : ℕ+} {mux next : Mux} {routed : List Routed}

theorem Adjacent.append_other {link : LinkId} (adjacent : Adjacent link routed) {entry : Routed}
    (other : entry.link ≠ some link) : Adjacent link (routed ++ [entry]) := by
  obtain ⟨before, since, after, rfl, early, own, late⟩ := adjacent
  refine ⟨before, since, after ++ [entry], by simp, early, own, fun later member => ?_⟩
  rcases List.mem_append.mp member with old | new
  · exact late later old
  · exact List.mem_singleton.mp new ▸ other

theorem routes_new : Routes new [] where
  log := rfl
  partly _ := List.prefix_rfl
  active link active := by simp [new] at active
  sending link out rest sending := by simp [new] at sending
  latest link active := by simp [new] at active
  adjacent _ := ⟨[], [], [], rfl, by simp, by simp, by simp⟩

theorem bytesOn_append (mux : Mux) (link other : LinkId) (chunk : Bytes) :
    bytesOn { mux with wire := mux.wire ++ [(other, chunk)] } link =
      mux.bytesOn link ++ if other = link then chunk else [] := by
  by_cases same : other = link <;> simp [bytesOn, same]

theorem Routes.of_same (routes : Routes mux routed) (linkId : next.linkId = mux.linkId)
    (sender : next.sender = mux.sender) (wire : next.wire = mux.wire)
    (queue : next.dataSenderBuf = mux.dataSenderBuf) (log : next.log = mux.log) :
    Routes next routed := by
  obtain ⟨log_eq, partly, active, sending, latest, adjacent⟩ := routes
  have awaiting : next.awaiting = mux.awaiting := by simp [Mux.awaiting, sender, queue]
  have bytesOn (link : LinkId) : next.bytesOn link = mux.bytesOn link := by
    simp [Mux.bytesOn, wire]
  refine ⟨by rw [log, awaiting, log_eq], fun link => bytesOn link ▸ partly link, ?_, ?_,
    linkId ▸ latest, adjacent⟩
  · simpa [linkId, sender, bytesOn] using active
  · simpa [sender, bytesOn] using sending

theorem Routes.enqueue (routes : Routes mux routed) (out : Outgoing) :
    Routes { mux with dataSenderBuf := mux.dataSenderBuf ++ [out], log := mux.log ++ [out] }
      routed where
  log := by cases sender : mux.sender <;> simp [routes.log, awaiting, sender]
  partly := routes.partly
  active := routes.active
  sending := routes.sending
  latest := routes.latest
  adjacent := routes.adjacent

/-- The multiplexer loses its link. -/
theorem Routes.unlink (routes : Routes mux routed) : Routes mux.resetLinkId routed where
  log := routes.log
  partly := routes.partly
  active link active := by simp [resetLinkId] at active
  sending := routes.sending
  latest link active := by simp [resetLinkId] at active
  adjacent := routes.adjacent

theorem Routes.setLinkId (routes : Routes mux routed) {link : LinkId}
    (unused : ∀ entry ∈ routed, entry.link ≠ some link) : Routes (mux.setLinkId link) routed where
  log := routes.log
  partly := routes.partly
  active other active working := by
    obtain rfl : link = other := Option.some.inj active
    have nothing := routes.partly link
    rw [framesOn_eq_nil unused, List.flatMap_nil, List.prefix_nil] at nothing
    have bytesOn : (mux.setLinkId link).bytesOn link = [] := nothing
    rw [framesOn_eq_nil unused, bytesOn]
    cases sender : mux.sender with
    | sending other out rest =>
        by_cases same : other = link
        · subst same
          have finished := routes.sending other out rest sender
          rw [framesOn_eq_nil unused, nothing] at finished
          simpa [Mux.setLinkId, sender, LinkSender.restOn] using finished
        · simp [Mux.setLinkId, sender, LinkSender.restOn, same]
    | _ => simp [Mux.setLinkId, sender, LinkSender.restOn]
  sending := routes.sending
  latest other active := by
    obtain rfl : link = other := Option.some.inj active
    exact ⟨routed, [], by simp, unused, by simp⟩
  adjacent := routes.adjacent

/-- The link sender reads the active link for the frame it has taken up. -/
theorem Routes.readLink (routes : Routes mux routed) {out : Outgoing} {link : LinkId}
    (picked : mux.sender = .picked out) (active : mux.linkId = some link) :
    Routes { mux with sender := .sending link out (linkChunks linkMdu out.frame) }
      (routed ++ [⟨some link, out⟩]) := by
  have working : ∀ other held, mux.sender ≠ .failed other held := by simp [picked]
  have own : framesOn link [⟨some link, out⟩] = [out.frame] := by simp [framesOn]
  have others {other : LinkId} (apart : other ≠ link) :
      framesOn other [⟨some link, out⟩] = [] :=
    framesOn_eq_nil (by simpa using apart.symm)
  have exact := routes.active link active working
  simp only [picked, LinkSender.restOn, List.append_nil] at exact
  have begun : mux.bytesOn link ++ (linkChunks linkMdu out.frame).flatten =
      (framesOn link (routed ++ [⟨some link, out⟩])).flatMap Frame.encode := by
    rw [framesOn_append, own, List.flatMap_append, ← exact, linkChunks_flatten]
    simp
  constructor
  · simp [routes.log, awaiting, picked]
  · intro other
    rw [framesOn_append, List.flatMap_append]
    exact (routes.partly other).trans (List.prefix_append _ _)
  · intro other now _
    obtain rfl : link = other := Option.some.inj (active.symm.trans now)
    simpa [LinkSender.restOn, Mux.bytesOn] using begun
  · rintro _ _ _ ⟨⟩
    exact begun
  · intro other now
    obtain rfl : link = other := Option.some.inj (active.symm.trans now)
    obtain ⟨before, since, rfl, early, late⟩ := routes.latest link active
    refine ⟨before, since ++ [⟨some link, out⟩], by simp, early, fun entry member => ?_⟩
    rcases List.mem_append.mp member with old | new
    · exact late entry old
    · rw [List.mem_singleton.mp new]
  · intro other
    by_cases same : other = link
    · subst same
      obtain ⟨before, since, rfl, early, late⟩ := routes.latest other active
      refine ⟨before, since ++ [⟨some other, out⟩], [], by simp, early, fun entry member => ?_,
        by simp⟩
      rcases List.mem_append.mp member with old | new
      · exact late entry old
      · rw [List.mem_singleton.mp new]
    · exact (routes.adjacent other).append_other (by simpa using Ne.symm same)

/-- The link sender drops the frame it has taken up. -/
theorem Routes.dropFrame (routes : Routes mux routed) {out : Outgoing}
    (picked : mux.sender = .picked out) (inactive : mux.linkId = none) :
    Routes { mux with sender := .idle } (routed ++ [⟨none, out⟩]) := by
  have no_frame (link : LinkId) : framesOn link [⟨none, out⟩] = [] := framesOn_eq_nil (by simp)
  constructor
  · simp [routes.log, awaiting, picked]
  · intro link
    simpa [no_frame, Mux.bytesOn] using routes.partly link
  · simp [inactive]
  · simp
  · simp [inactive]
  · exact fun link => (routes.adjacent link).append_other (by simp)

/-- The link takes a packet. -/
theorem Routes.sent (routes : Routes mux routed) {link : LinkId} {out : Outgoing} {chunk : Bytes}
    {rest : List Bytes} (sending : mux.sender = .sending link out (chunk :: rest))
    {sender : LinkSender} {handed : List (LinkId × Outgoing)}
    (goes_on : sender = .sending link out rest ∨ sender = .idle ∧ rest = []) :
    Routes { mux with sender, wire := mux.wire ++ [(link, chunk)], handed } routed := by
  have exact := routes.sending link out _ sending
  rw [List.flatten_cons, ← List.append_assoc] at exact
  have bytesOn (other : LinkId) :
      Mux.bytesOn { mux with sender, wire := mux.wire ++ [(link, chunk)], handed } other =
        mux.bytesOn other ++ if link = other then chunk else [] :=
    mux.bytesOn_append other link chunk
  have restOn (other : LinkId) :
      (if link = other then chunk else []) ++ sender.restOn other = mux.sender.restOn other := by
    rcases goes_on with rfl | ⟨rfl, rfl⟩ <;> by_cases same : link = other <;>
      simp [LinkSender.restOn, sending, same]
  constructor
  · rcases goes_on with rfl | ⟨rfl, _⟩ <;> simp [routes.log, awaiting, sending]
  · intro other
    rw [bytesOn]
    by_cases same : link = other
    · subst same
      rw [if_pos rfl]
      exact ⟨_, exact⟩
    · simpa [same] using routes.partly other
  · intro other active _
    rw [bytesOn, List.append_assoc, restOn]
    exact routes.active other active (by simp [sending])
  · intro other held remaining now
    rcases goes_on with rfl | ⟨rfl, _⟩
    · cases now
      rw [bytesOn, if_pos rfl]
      exact exact
    · cases now
  · exact routes.latest
  · exact routes.adjacent

theorem Routes.senderStep (routes : Routes mux routed) {act : SenderAct}
    (taken : SenderStep linkMdu mux act next) :
    ∃ more, Routes next (routed ++ more) ∧ ∀ entry ∈ more, entry.link = mux.linkId := by
  cases taken with
  | recv idle queued =>
      refine ⟨[], ?_, by simp⟩
      rw [List.append_nil]
      refine ⟨?_, routes.partly, ?_, by simp, routes.latest, routes.adjacent⟩
      · simpa [awaiting, idle, queued] using routes.log
      · intro link active _
        simpa [idle, LinkSender.restOn, Mux.bytesOn] using
          routes.active link active (by simp [idle])
  | readLink picked active => exact ⟨_, routes.readLink picked active, by simp [active]⟩
  | dropFrame picked inactive => exact ⟨_, routes.dropFrame picked inactive, by simp [inactive]⟩
  | sentLast sending =>
      refine ⟨[], ?_, by simp⟩
      rw [List.append_nil]
      exact routes.sent sending (.inr ⟨rfl, rfl⟩)
  | sentChunk sending =>
      refine ⟨[], ?_, by simp⟩
      rw [List.append_nil]
      exact routes.sent sending (.inl rfl)
  | @sendFailed link out chunk rest sending =>
      refine ⟨[], ?_, by simp⟩
      rw [List.append_nil]
      refine ⟨?_, routes.partly, fun other _ working => ?_, by simp, routes.latest,
        routes.adjacent⟩
      · simpa [awaiting, sending] using routes.log
      · exact absurd rfl (working link out)
  | clearLink failed =>
      refine ⟨[], ?_, by simp⟩
      rw [List.append_nil]
      refine ⟨?_, routes.partly, by simp, by simp, by simp, routes.adjacent⟩
      simpa [awaiting, failed] using routes.log

/-- The frames of a link are neighbours in the history of the send queue. -/
theorem Routes.log_split (routes : Routes mux routed) (link : LinkId) :
    ∃ front back, mux.log.map Outgoing.frame = front ++ framesOn link routed ++ back := by
  obtain ⟨before, since, after, rfl, early, own, late⟩ := routes.adjacent link
  refine ⟨before.map fun entry => entry.out.frame,
    (after.map fun entry => entry.out.frame) ++ mux.awaiting.map Outgoing.frame, ?_⟩
  simp [routes.log, framesOn_eq_nil early, framesOn_eq_map own, framesOn_eq_nil late,
    Function.comp_def]

theorem Routes.link_unique (routes : Routes mux routed) {property : Frame → Bool}
    (once : (mux.log.map Outgoing.frame).countP property ≤ 1) {link other : LinkId}
    {frame frame' : Frame} (on : frame ∈ framesOn link routed) (holds : property frame = true)
    (on' : frame' ∈ framesOn other routed) (holds' : property frame' = true) : link = other := by
  by_contra apart
  obtain ⟨entry, listed, linked, rfl⟩ := mem_framesOn.mp on
  obtain ⟨entry', listed', linked', rfl⟩ := mem_framesOn.mp on'
  have few : routed.countP (fun entry => property entry.out.frame) ≤ 1 := by
    refine le_trans ?_ once
    simp [routes.log, List.countP_map, Function.comp_def]
  obtain ⟨front, back, rfl⟩ := List.append_of_mem listed
  have elsewhere : entry' ∈ front ++ back := by
    rcases List.mem_append.mp listed' with early | late
    · exact List.mem_append_left _ early
    · rcases List.mem_cons.mp late with rfl | late
      · rw [linked] at linked'
        exact absurd (Option.some.inj linked') apart
      · exact List.mem_append_right _ late
  have again : 0 < (front ++ back).countP fun entry => property entry.out.frame :=
    List.countP_pos_iff.mpr ⟨entry', elsewhere, holds'⟩
  simp only [List.countP_append, List.countP_cons, holds, if_true] at few again
  omega

/-- Whatever a link has delivered of the packets it has taken, the receiver has decoded a beginning
of the frames of the link. -/
theorem Routes.decoded (routes : Routes mux routed) {link : LinkId}
    (fits : ∀ out ∈ mux.log, out.frame.Fits) {pieces : List Bytes}
    (delivered : pieces <+: mux.packetsOn link) :
    (receiveAll [] pieces).1 <+: framesOn link routed := by
  have valid : ∀ frame ∈ framesOn link routed, frame.Fits := by
    intro frame member
    obtain ⟨entry, listed, _, rfl⟩ := mem_framesOn.mp member
    exact fits entry.out (routes.log ▸ List.mem_append_left _ (List.mem_map_of_mem listed))
  obtain ⟨rest, split⟩ := delivered
  obtain ⟨missing, stream⟩ := routes.partly link
  rw [← mux.flatten_packetsOn, ← split, List.flatten_append, List.append_assoc] at stream
  obtain ⟨done, later, tail, arrived, fed⟩ := Frame.code.feedAll_of_prefix valid (.inr rfl)
    (show Frame.code.encodeAll (framesOn link routed) =
      [] ++ pieces.flatten ++ (rest.flatten ++ missing) from stream.symm)
  have received : receiveAll [] pieces = (done, tail) := fed
  rw [received]
  exact ⟨later, arrived.split.symm⟩

end Mux

/-- Every step of an endpoint that is given new links only keeps what goes to which link. -/
theorem Endpoint.Step.routes {linkMdu : ℕ+} {socks : FastSocks5} {ep next : Endpoint}
    {act : EndpointAct} {routed : List Routed} (taken : Endpoint.Step linkMdu socks ep act next)
    (routes : ep.mux.Routes routed)
    (unused : ∀ link, act = .setLinkId link → ∀ entry ∈ routed, entry.link ≠ some link) :
    ∃ more, next.mux.Routes (routed ++ more) ∧ ∀ entry ∈ more, entry.link = ep.mux.linkId := by
  have same {later : Mux} (kept : later.Routes routed) :
      ∃ more, later.Routes (routed ++ more) ∧ ∀ entry ∈ more, entry.link = ep.mux.linkId :=
    ⟨[], by simpa using kept, by simp⟩
  cases taken with
  | session found taken performs =>
      cases performs with
      | send => exact same (routes.enqueue _)
      | _ => exact same (routes.of_same rfl rfl rfl rfl rfl)
  | refuse => exact same (routes.enqueue _)
  | @dispatch frame =>
      obtain ⟨channels, dispatched⟩ := ep.mux.dispatch_frame frame
      rw [dispatched]
      exact same (routes.of_same rfl rfl rfl rfl rfl)
  | sender taken => exact routes.senderStep taken
  | @setLinkId link => exact same (routes.setLinkId (unused link rfl))
  | resetLinkId => exact same routes.unlink
  | _ => exact same (routes.of_same rfl rfl rfl rfl rfl)

end RnsProxy
