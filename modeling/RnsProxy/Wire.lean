import Mathlib.Data.List.Flatten
import RnsProxy.Mux

/-!
# What is handed to a link

The receiver of a link finds the frames by their length fields alone, so every link must carry whole
frames, one after the other. The link sender reads the active link once for each frame and stops at
the first chunk it cannot send. This file shows that a link which is set at most once carries whole
frames in the order of the send queue, followed by at most one frame that is cut between two chunks.
-/

namespace RnsProxy

/-- The packets of one frame that a link has taken. -/
structure Carried where
  /-- The link. -/
  link : LinkId
  /-- The entry of the send queue. -/
  out : Outgoing
  /-- The packets. -/
  packets : List Bytes

/-- The packets with their link. -/
def Carried.onWire (part : Carried) : List (LinkId × Bytes) :=
  part.packets.map fun packet => (part.link, packet)

/-- The link has taken the whole frame. -/
def Carried.IsWhole (linkMdu : ℕ+) (part : Carried) : Prop :=
  part.packets = linkChunks linkMdu part.out.frame

/-- The link has taken all packets of the frame but `rest`, which is not empty. -/
def Carried.Lacks (linkMdu : ℕ+) (part : Carried) (rest : List Bytes) : Prop :=
  part.packets ++ rest = linkChunks linkMdu part.out.frame ∧ rest ≠ []

namespace Mux

/-- The bytes a link has taken, in order. -/
def bytesOn (mux : Mux) (link : LinkId) : Bytes :=
  (mux.wire.filter fun packet => packet.1 == link).flatMap Prod.snd

/-- The link a step sets. -/
def Act.link : Act → Option LinkId
  | setLinkId link => some link
  | _ => none

/-- The failed send a step is, with the link and the frame. -/
def failure : Mux × Act → Option (LinkId × Outgoing)
  | (mux, .sender (.sent false)) =>
      match mux.sender with
      | .sending link out _ => some (link, out)
      | _ => none
  | _ => none

/-- The failed sends of a run. -/
def failures (past : List (Mux × Act)) : List (LinkId × Outgoing) :=
  past.filterMap failure

/-- The links a run sets. -/
def links (past : List (Mux × Act)) : List LinkId :=
  (past.map Prod.snd).filterMap Act.link

/-- Some send on the link has failed. -/
def FailedOn (past : List (Mux × Act)) (link : LinkId) : Prop :=
  ∃ out, (link, out) ∈ failures past

/-- The frame is being sent, or sending it has failed, and the link has taken some of its packets
but not all. -/
def IsCut (linkMdu : ℕ+) (past : List (Mux × Act)) (mux : Mux) (part : Carried) : Prop :=
  ∃ rest, part.Lacks linkMdu rest ∧
    (mux.sender = .sending part.link part.out rest ∨ (part.link, part.out) ∈ failures past)

/-- What the links have taken is a list of frames, or beginnings of frames, in the order of the send
queue, each on one link, and on every link all but the last are whole. -/
structure CarriesFrames (linkMdu : ℕ+) (past : List (Mux × Act)) (mux : Mux)
    (carried : List Carried) : Prop where
  /-- The packets of a frame are handed to one link, with no packet of another frame between. -/
  wire : mux.wire = carried.flatMap Carried.onWire
  /-- The frames come in the order in which they entered the send queue. -/
  order : (carried.map Carried.out).Sublist mux.log
  /-- A link has taken whole frames, and then at most one that is cut. -/
  link : ∀ link, ∃ whole cut,
    carried.filter (fun part => part.link == link) = whole ++ cut ∧
      (∀ part ∈ whole, part.IsWhole linkMdu) ∧ cut.length ≤ 1 ∧
      (∀ part ∈ cut, IsCut linkMdu past mux part) ∧
      mux.bytesOn link =
        (whole.flatMap fun part => part.out.frame.encode) ++
          cut.flatMap fun part => part.packets.flatten

/-! ## Links that have failed -/

/-- Every link in use has been set, and a link on which a send has failed is not used again. -/
structure LinksUsed (past : List (Mux × Act)) (mux : Mux) : Prop where
  /-- The active link has been set. -/
  active_set : ∀ link, mux.linkId = some link → link ∈ links past
  /-- The link sender uses a link that has been set, and on which no send has failed. -/
  sending : ∀ link out rest, mux.sender = .sending link out rest →
    link ∈ links past ∧ ¬ FailedOn past link
  /-- A send fails on a link that has been set. -/
  failed_set : ∀ link, FailedOn past link → link ∈ links past
  /-- After a failed send a link is active only until the link sender has cleared `link_id`. -/
  active : ∀ link, mux.linkId = some link → FailedOn past link →
    ∃ failed out, mux.sender = .failed failed out

variable {linkMdu : ℕ+} {past : List (Mux × Act)} {mux next : Mux} {act : Act}

theorem links_concat : links (past ++ [(mux, act)]) = links past ++ act.link.toList := by
  simp only [links, List.map_append, List.map_cons, List.map_nil, Execution.filterMap_concat]

theorem failures_concat :
    failures (past ++ [(mux, act)]) = failures past ++ (failure (mux, act)).toList :=
  Execution.filterMap_concat failure past (mux, act)

theorem failedOn_concat {link : LinkId} :
    FailedOn (past ++ [(mux, act)]) link ↔
      FailedOn past link ∨ ∃ out, failure (mux, act) = some (link, out) := by
  simp only [FailedOn, failures_concat, List.mem_append, Option.mem_toList, exists_or]

theorem linksUsed_new : LinksUsed [] new where
  active_set link active := by simp [new] at active
  sending link out rest sending := by simp [new] at sending
  failed_set link failed := by simp [FailedOn, failures] at failed
  active link active := by simp [new] at active

theorem LinksUsed.of_quiet (used : LinksUsed past mux) (no_link : act.link = none)
    (no_failure : failure (mux, act) = none)
    (active : ∀ link, next.linkId = some link → mux.linkId = some link)
    (sending : ∀ link out rest, next.sender = .sending link out rest →
      link ∈ links past ∧ ¬ FailedOn past link)
    (failed : ∀ link, next.linkId = some link → FailedOn past link →
      ∃ failed out, next.sender = .failed failed out) :
    LinksUsed (past ++ [(mux, act)]) next := by
  have same_links : links (past ++ [(mux, act)]) = links past := by simp [links_concat, no_link]
  have same_failures (link : LinkId) :
      FailedOn (past ++ [(mux, act)]) link ↔ FailedOn past link := by
    simp [failedOn_concat, no_failure]
  constructor
  · intro link now
    exact same_links ▸ used.active_set link (active link now)
  · simpa [same_links, same_failures] using sending
  · simpa [same_links, same_failures] using used.failed_set
  · simpa [same_failures] using failed

theorem LinksUsed.senderStep (used : LinksUsed past mux) {act : SenderAct}
    (taken : SenderStep linkMdu mux act next) :
    LinksUsed (past ++ [(mux, .sender act)]) next := by
  cases taken with
  | recv idle queued =>
      refine used.of_quiet rfl rfl (fun _ now => now) (by simp) fun link active failed => ?_
      simpa [idle] using used.active link active failed
  | @readLink out link picked active =>
      refine used.of_quiet rfl rfl (fun _ now => now) ?_ fun other active failed => ?_
      · rintro other _ _ ⟨⟩
        refine ⟨used.active_set link active, fun failed => ?_⟩
        simpa [picked] using used.active link active failed
      · simpa [picked] using used.active other active failed
  | dropFrame picked inactive =>
      exact used.of_quiet rfl rfl (fun _ now => now) (by simp) (by simp [inactive])
  | sentLast sending =>
      refine used.of_quiet rfl rfl (fun _ now => now) (by simp) fun link active failed => ?_
      simpa [sending] using used.active link active failed
  | @sentChunk link out chunk packet rest sending =>
      refine used.of_quiet rfl rfl (fun _ now => now) ?_ fun other active failed => ?_
      · rintro _ _ _ ⟨⟩
        exact used.sending link out _ sending
      · simpa [sending] using used.active other active failed
  | @sendFailed link out chunk rest sending =>
      have links_eq : links (past ++ [(mux, .sender (.sent false))]) = links past := by
        simp [links_concat, Act.link]
      have failed_iff (other : LinkId) : FailedOn (past ++ [(mux, .sender (.sent false))]) other ↔
          FailedOn past other ∨ other = link := by
        simp [failedOn_concat, failure, sending, eq_comm]
      constructor
      · exact fun other active => links_eq ▸ used.active_set other active
      · simp
      · intro other failed
        rw [links_eq]
        rcases (failed_iff other).mp failed with before | rfl
        · exact used.failed_set other before
        · exact (used.sending other out _ sending).1
      · exact fun other _ _ => ⟨link, out, rfl⟩
  | clearLink failed => exact used.of_quiet rfl rfl (by simp) (by simp) (by simp)

theorem LinksUsed.step (used : LinksUsed past mux) (taken : mux.step linkMdu act = some next)
    (once : ∀ link, act = .setLinkId link → link ∉ links past) :
    LinksUsed (past ++ [(mux, act)]) next := by
  cases act with
  | sender act => exact used.senderStep (senderStep_cases taken)
  | setLinkId link =>
      cases taken
      have links_eq : links (past ++ [(mux, .setLinkId link)]) = links past ++ [link] := by
        simp [links_concat, Act.link]
      have failed_iff (other : LinkId) : FailedOn (past ++ [(mux, .setLinkId link)]) other ↔
          FailedOn past other := by
        simp [failedOn_concat, failure]
      constructor
      · rintro other ⟨⟩
        simp [links_eq]
      · intro other out rest sending
        obtain ⟨set, fine⟩ := used.sending other out rest sending
        exact ⟨by simp [links_eq, set], by rwa [failed_iff]⟩
      · intro other failed
        simp [links_eq, used.failed_set other ((failed_iff other).mp failed)]
      · rintro other ⟨⟩ failed
        exact absurd (used.failed_set link ((failed_iff link).mp failed)) (once link rfl)
  | resetLinkId =>
      cases taken
      exact used.of_quiet rfl rfl (by simp [resetLinkId]) used.sending (by simp [resetLinkId])
  | resetSessions =>
      cases taken
      exact used.of_quiet rfl rfl (fun _ now => now) used.sending used.active
  | resetRecvBuf =>
      cases taken
      exact used.of_quiet rfl rfl (fun _ now => now) used.sending used.active
  | send out =>
      obtain ⟨_, rfl⟩ := sendFrame_eq_some.mp taken
      exact used.of_quiet rfl rfl (fun _ now => now) used.sending used.active

/-! ## The frames on the links -/

/-- The frames that have left no trace on a link yet, in order. -/
def awaiting (mux : Mux) : List Outgoing :=
  match mux.sender with
  | .picked out => out :: mux.dataSenderBuf
  | _ => mux.dataSenderBuf

/-- The frame the link sender is working on, as far as its link has taken it. -/
def Sends (linkMdu : ℕ+) (current : List Carried) : LinkSender → Prop
  | .sending link out rest =>
      ∃ packets, current = [⟨link, out, packets⟩] ∧ Carried.Lacks linkMdu ⟨link, out, packets⟩ rest
  | _ => current = []

/-- The frame is whole, or sending it has failed. -/
def IsDone (linkMdu : ℕ+) (past : List (Mux × Act)) (part : Carried) : Prop :=
  part.IsWhole linkMdu ∨
    ∃ rest, part.Lacks linkMdu rest ∧ (part.link, part.out) ∈ failures past

/-- No frame follows one that is cut on the same link. -/
def CutLast (linkMdu : ℕ+) (parts : List Carried) : Prop :=
  parts.Pairwise fun earlier later => earlier.IsWhole linkMdu ∨ later.link ≠ earlier.link

/-- The frames the links have taken are those the link sender has finished, and the one it is
working on. -/
structure Carrying (linkMdu : ℕ+) (past : List (Mux × Act)) (mux : Mux)
    (finished current : List Carried) : Prop where
  /-- What the links have taken. -/
  wire : mux.wire = (finished ++ current).flatMap Carried.onWire
  /-- The frames come in the order of the send queue. -/
  order : ((finished ++ current).map Carried.out ++ mux.awaiting).Sublist mux.log
  /-- The frames the link sender has finished. -/
  done : ∀ part ∈ finished, IsDone linkMdu past part
  /-- The frame the link sender is working on. -/
  sends : Sends linkMdu current mux.sender
  /-- No frame follows one that is cut on the same link. -/
  last : CutLast linkMdu (finished ++ current)

variable {finished current : List Carried}

theorem carrying_new : Carrying linkMdu [] new [] [] where
  wire := rfl
  order := List.nil_sublist _
  done part member := by simp at member
  sends := rfl
  last := .nil

theorem linkChunks_ne_nil (linkMdu : ℕ+) (frame : Frame) : linkChunks linkMdu frame ≠ [] := by
  intro empty
  have lengths := congrArg List.length (linkChunks_flatten linkMdu frame)
  simp only [empty, List.flatten_nil, List.length_nil, Frame.length_encode, HDR_SIZE] at lengths
  omega

theorem IsDone.concat {part : Carried} (done : IsDone linkMdu past part) :
    IsDone linkMdu (past ++ [(mux, act)]) part := by
  rcases done with whole | ⟨rest, lacks, failed⟩
  · exact .inl whole
  · exact .inr ⟨rest, lacks, by simp [failures_concat, failed]⟩

theorem cutLast_concat {part : Carried} :
    CutLast linkMdu (finished ++ [part]) ↔
      CutLast linkMdu finished ∧
        ∀ earlier ∈ finished, earlier.IsWhole linkMdu ∨ part.link ≠ earlier.link := by
  simp [CutLast, List.pairwise_append]

theorem Carrying.of_same (carrying : Carrying linkMdu past mux finished current)
    (wire : next.wire = mux.wire) (sender : next.sender = mux.sender)
    (order : ((finished ++ current).map Carried.out ++ next.awaiting).Sublist next.log) :
    Carrying linkMdu (past ++ [(mux, act)]) next finished current where
  wire := wire.trans carrying.wire
  order := order
  done part member := (carrying.done part member).concat
  sends := sender ▸ carrying.sends
  last := carrying.last

/-- The link sender takes up a frame whose link has not failed. -/
theorem Carrying.readLink (carrying : Carrying linkMdu past mux finished current)
    (used : LinksUsed past mux) {out : Outgoing} {link : LinkId}
    (picked : mux.sender = .picked out) (active : mux.linkId = some link) :
    Carrying linkMdu (past ++ [(mux, .sender .readLink)])
      { mux with sender := .sending link out (linkChunks linkMdu out.frame) } finished
      [⟨link, out, []⟩] := by
  have nothing : current = [] := by simpa [picked, Sends] using carrying.sends
  subst nothing
  constructor
  · simpa [Carried.onWire] using carrying.wire
  · simpa [awaiting, picked] using carrying.order
  · exact fun part member => (carrying.done part member).concat
  · exact ⟨[], rfl, rfl, linkChunks_ne_nil linkMdu out.frame⟩
  · refine cutLast_concat.mpr ⟨by simpa using carrying.last, fun earlier member => ?_⟩
    rcases carrying.done earlier member with whole | ⟨rest, _, failed⟩
    · exact .inl whole
    · refine .inr fun same => ?_
      have failed_on : FailedOn past link :=
        ⟨earlier.out, by rwa [show link = earlier.link from same]⟩
      simpa [picked] using used.active link active failed_on

/-- A chunk is handed to the link. -/
theorem Carrying.sent (carrying : Carrying linkMdu past mux finished current) {link : LinkId}
    {out : Outgoing} {chunk : Bytes} {rest : List Bytes}
    (sending : mux.sender = .sending link out (chunk :: rest)) :
    ∃ packets, packets ++ rest = linkChunks linkMdu out.frame ∧
      mux.wire ++ [(link, chunk)] =
        (finished ++ [(⟨link, out, packets⟩ : Carried)]).flatMap Carried.onWire ∧
      ((finished ++ [(⟨link, out, packets⟩ : Carried)]).map Carried.out ++
        mux.dataSenderBuf).Sublist mux.log ∧
      CutLast linkMdu (finished ++ [⟨link, out, packets⟩]) := by
  have sends := carrying.sends
  rw [sending] at sends
  obtain ⟨packets, rfl, ⟨split, _⟩⟩ := sends
  refine ⟨packets ++ [chunk], by simpa using split, ?_, ?_, ?_⟩
  · simp [carrying.wire, Carried.onWire]
  · simpa [awaiting, sending] using carrying.order
  · obtain ⟨older, apart⟩ := cutLast_concat.mp carrying.last
    exact cutLast_concat.mpr ⟨older, apart⟩

theorem Carrying.senderStep (carrying : Carrying linkMdu past mux finished current)
    (used : LinksUsed past mux) {act : SenderAct} (taken : SenderStep linkMdu mux act next) :
    ∃ finished current, Carrying linkMdu (past ++ [(mux, .sender act)]) next finished current := by
  have done : ∀ part ∈ finished, IsDone linkMdu (past ++ [(mux, .sender act)]) part :=
    fun part member => (carrying.done part member).concat
  cases taken with
  | @recv out rest idle queued =>
      have nothing : current = [] := by simpa [idle, Sends] using carrying.sends
      refine ⟨finished, current, carrying.wire, ?_, done, nothing, carrying.last⟩
      simpa [awaiting, idle, queued] using carrying.order
  | readLink picked active => exact ⟨finished, _, carrying.readLink used picked active⟩
  | @dropFrame out picked inactive =>
      have nothing : current = [] := by simpa [picked, Sends] using carrying.sends
      refine ⟨finished, current, carrying.wire, ?_, done, nothing, carrying.last⟩
      have kept : ((finished ++ current).map Carried.out ++ mux.dataSenderBuf).Sublist
          ((finished ++ current).map Carried.out ++ mux.awaiting) := by
        simp [awaiting, picked]
      exact kept.trans carrying.order
  | @sentLast link out chunk sending =>
      obtain ⟨packets, split, wire, order, last⟩ := carrying.sent sending
      refine ⟨finished ++ [⟨link, out, packets⟩], [], ?_, ?_, fun part member => ?_, rfl, ?_⟩
      · simpa using wire
      · simpa [awaiting] using order
      · rcases List.mem_append.mp member with old | new
        · exact done part old
        · obtain rfl := List.mem_singleton.mp new
          exact .inl (by simpa [Carried.IsWhole] using split)
      · simpa using last
  | @sentChunk link out chunk packet rest sending =>
      obtain ⟨packets, split, wire, order, last⟩ := carrying.sent sending
      exact ⟨finished, [⟨link, out, packets⟩], wire, order, done, ⟨packets, rfl, split, by simp⟩,
        last⟩
  | @sendFailed link out chunk rest sending =>
      have sends := carrying.sends
      rw [sending] at sends
      obtain ⟨packets, rfl, lacks⟩ := sends
      refine ⟨finished ++ [⟨link, out, packets⟩], [], ?_, ?_, fun part member => ?_, rfl, ?_⟩
      · simpa using carrying.wire
      · simpa [awaiting, sending] using carrying.order
      · rcases List.mem_append.mp member with old | new
        · exact done part old
        · obtain rfl := List.mem_singleton.mp new
          exact .inr ⟨chunk :: rest, lacks, by simp [failures_concat, failure, sending]⟩
      · simpa using carrying.last
  | @clearLink link out failed =>
      have nothing : current = [] := by simpa [failed, Sends] using carrying.sends
      refine ⟨finished, current, carrying.wire, ?_, done, nothing, carrying.last⟩
      simpa [awaiting, failed] using carrying.order

theorem Carrying.step (carrying : Carrying linkMdu past mux finished current)
    (used : LinksUsed past mux) (taken : mux.step linkMdu act = some next) :
    ∃ finished current, Carrying linkMdu (past ++ [(mux, act)]) next finished current := by
  cases act with
  | sender act => exact carrying.senderStep used (senderStep_cases taken)
  | send out =>
      obtain ⟨_, rfl⟩ := sendFrame_eq_some.mp taken
      refine ⟨finished, current, carrying.of_same rfl rfl ?_⟩
      have more : ((finished ++ current).map Carried.out ++ mux.awaiting ++ [out]).Sublist
          (mux.log ++ [out]) := carrying.order.append (.refl _)
      cases sender : mux.sender <;> simpa [awaiting, sender] using more
  | _ =>
      cases taken
      exact ⟨finished, current, carrying.of_same rfl rfl carrying.order⟩

/-! ## What every run hands to its links -/

/-- A list in which only the last element can miss a property is a list of elements that have it,
and at most one that does not. -/
theorem exists_split_of_pairwise {α : Type*} {property : α → Prop} {list : List α}
    (last : list.Pairwise fun earlier _ => property earlier) :
    ∃ front back, list = front ++ back ∧ (∀ element ∈ front, property element) ∧ back.length ≤ 1 ∧
      ∀ element ∈ back, ¬ property element := by
  rcases List.eq_nil_or_concat list with rfl | ⟨front, final, rfl⟩
  · exact ⟨[], [], rfl, by simp, by simp, by simp⟩
  · rw [List.concat_eq_append] at last ⊢
    have before : ∀ element ∈ front, property element := fun element member =>
      (List.pairwise_append.mp last).2.2 element member final (by simp)
    by_cases holds : property final
    · refine ⟨front ++ [final], [], by simp, fun element member => ?_, by simp, by simp⟩
      rcases List.mem_append.mp member with old | new
      · exact before element old
      · obtain rfl := List.mem_singleton.mp new
        exact holds
    · exact ⟨front, [final], rfl, before, by simp, by simpa using holds⟩

theorem bytesOn_eq {parts : List Carried} (wire : mux.wire = parts.flatMap Carried.onWire)
    (link : LinkId) :
    mux.bytesOn link =
      (parts.filter fun part => part.link == link).flatMap fun part => part.packets.flatten := by
  rw [bytesOn, wire]
  clear wire
  induction parts with
  | nil => rfl
  | cons part parts ih =>
      rw [List.flatMap_cons, List.filter_append, List.flatMap_append, ih]
      by_cases same : part.link = link
      · simp [Carried.onWire, List.filter_map, Function.comp_def, same, List.flatMap_map,
          List.flatMap_id']
      · simp [Carried.onWire, List.filter_map, Function.comp_def, same]

theorem Carrying.frames (carrying : Carrying linkMdu past mux finished current) :
    CarriesFrames linkMdu past mux (finished ++ current) where
  wire := carrying.wire
  order := (List.sublist_append_left _ _).trans carrying.order
  link link := by
    have cut_or_whole : ∀ part ∈ finished ++ current,
        part.IsWhole linkMdu ∨ IsCut linkMdu past mux part := by
      intro part member
      rcases List.mem_append.mp member with old | new
      · rcases carrying.done part old with whole | ⟨rest, lacks, failed⟩
        · exact .inl whole
        · exact .inr ⟨rest, lacks, .inr failed⟩
      · have sends := carrying.sends
        cases sender : mux.sender with
        | sending link out rest =>
            rw [sender] at sends
            obtain ⟨packets, rfl, lacks⟩ := sends
            obtain rfl := List.mem_singleton.mp new
            exact .inr ⟨rest, lacks, .inl sender⟩
        | _ =>
            rw [sender] at sends
            obtain rfl : current = [] := sends
            simp at new
    have last : ((finished ++ current).filter fun part => part.link == link).Pairwise
        fun earlier _ => earlier.IsWhole linkMdu := by
      refine (List.pairwise_filter.mpr (carrying.last.imp ?_))
      intro earlier later whole_or_apart on_link also_on_link
      rcases whole_or_apart with whole | apart
      · exact whole
      · simp only [beq_iff_eq] at on_link also_on_link
        exact absurd (also_on_link.trans on_link.symm) apart
    obtain ⟨whole, cut, split, all_whole, short, none_whole⟩ := exists_split_of_pairwise last
    refine ⟨whole, cut, split, all_whole, short, fun part member => ?_, ?_⟩
    · have listed : part ∈ finished ++ current := List.mem_of_mem_filter
        (split ▸ List.mem_append_right whole member)
      exact (cut_or_whole part listed).resolve_left (none_whole part member)
    · rw [bytesOn_eq carrying.wire, split, List.flatMap_append]
      congr 1
      refine List.flatMap_congr fun part member => ?_
      rw [all_whole part member, linkChunks_flatten]

theorem LinksUsed.bytesOn_eq (used : LinksUsed past mux) {link : LinkId}
    (failed : FailedOn past link) (taken : mux.step linkMdu act = some next) :
    next.bytesOn link = mux.bytesOn link := by
  have other_link {other : LinkId} {out : Outgoing} {rest : List Bytes} {chunk : Bytes}
      (sending : mux.sender = .sending other out rest) :
      ((mux.wire ++ [(other, chunk)]).filter fun packet => packet.1 == link).flatMap Prod.snd =
        mux.bytesOn link := by
    have apart : other ≠ link := by
      rintro rfl
      exact (used.sending other out rest sending).2 failed
    simp [bytesOn, apart]
  cases act with
  | sender act =>
      cases senderStep_cases taken with
      | sentLast sending => exact other_link sending
      | sentChunk sending => exact other_link sending
      | _ => rfl
  | send out =>
      obtain ⟨_, rfl⟩ := sendFrame_eq_some.mp taken
      rfl
  | _ =>
      cases taken
      rfl

theorem LinksUsed.step_of_nodup (used : LinksUsed past mux)
    (once : (links (past ++ [(mux, act)])).Nodup) (taken : mux.step linkMdu act = some next) :
    LinksUsed (past ++ [(mux, act)]) next := by
  refine used.step taken ?_
  rintro link rfl
  rw [links_concat, List.nodup_append] at once
  exact fun set => once.2.2 link set link (by simp [Act.link]) rfl

theorem nodup_of_concat (once : (links (past ++ [(mux, act)])).Nodup) : (links past).Nodup := by
  rw [links_concat] at once
  exact (List.nodup_append.mp once).1

/-- Every link carries whole frames in the order of the send queue, then at most one that is cut
between two chunks: the one being sent, or one whose sending has failed. The packets of a frame are
handed to one link without those of another frame in between, and a link on which a send has failed
is handed nothing any more. -/
theorem carriesFrames {linkMdu : ℕ+} {actions : List Act} {final : Mux}
    (once : (actions.filterMap Act.link).Nodup)
    (execution : Execution.run (step linkMdu) new actions = some final) :
    (∃ carried, CarriesFrames linkMdu (Execution.trace (step linkMdu) new actions) final carried) ∧
      ∀ front back middle link, actions = front ++ back →
        Execution.run (step linkMdu) new front = some middle →
        FailedOn (Execution.trace (step linkMdu) new front) link →
        final.bytesOn link = middle.bytesOn link := by
  have links_eq :
      links (Execution.trace (step linkMdu) new actions) = actions.filterMap Act.link := by
    rw [links, Execution.trace_map_snd execution]
  have extended : ∀ past before act after,
      ((links past).Nodup → LinksUsed past before ∧
        ∃ finished current, Carrying linkMdu past before finished current) →
      step linkMdu before act = some after → (links (past ++ [(before, act)])).Nodup →
      LinksUsed (past ++ [(before, act)]) after ∧
        ∃ finished current, Carrying linkMdu (past ++ [(before, act)]) after finished current := by
    intro past before act after holds taken nodup
    obtain ⟨used, finished, current, carrying⟩ := holds (nodup_of_concat nodup)
    exact ⟨used.step_of_nodup nodup taken, carrying.step used taken⟩
  have start : (links []).Nodup → LinksUsed [] new ∧
      ∃ finished current, Carrying linkMdu [] new finished current :=
    fun _ => ⟨linksUsed_new, [], [], carrying_new⟩
  constructor
  · obtain ⟨_, finished, current, carrying⟩ := Execution.run_history
      (fun past mux => (links past).Nodup → LinksUsed past mux ∧
        ∃ finished current, Carrying linkMdu past mux finished current)
      extended start execution (links_eq ▸ once)
    exact ⟨finished ++ current, carrying.frames⟩
  · rintro front back middle link rfl front_run failed
    obtain ⟨_, same_run, back_run⟩ := Execution.run_append_eq_some.mp execution
    obtain rfl := Option.some.inj (front_run.symm.trans same_run)
    have silent := Execution.run_history_from
      (fun past mux => (links past).Nodup → LinksUsed past mux ∧ FailedOn past link ∧
        mux.bytesOn link = middle.bytesOn link)
      (fun past before act after holds taken nodup => by
        obtain ⟨used, failed, same⟩ := holds (nodup_of_concat nodup)
        exact ⟨used.step_of_nodup nodup taken, failedOn_concat.mpr (.inl failed),
          (used.bytesOn_eq failed taken).trans same⟩)
      (fun nodup => ⟨(Execution.run_history
        (fun past mux => (links past).Nodup → LinksUsed past mux ∧
          ∃ finished current, Carrying linkMdu past mux finished current)
        extended start front_run nodup).1, failed, rfl⟩) back_run
    rw [← Execution.trace_append front_run] at silent
    exact (silent (links_eq ▸ once)).2.2

/-- The second packet of a frame cannot be sent, and the next frame goes to another link. -/
def cutFrame : List Act :=
  [.setLinkId 1, .send ⟨none, ⟨.data, 7, [1, 2]⟩⟩, .send ⟨none, ⟨.close, 7, []⟩⟩, .sender .recv,
    .sender .readLink, .sender (.sent true), .sender (.sent false), .sender .clearLink,
    .setLinkId 2, .sender .recv, .sender .readLink, .sender (.sent true), .sender (.sent true)]

/-- The first link has taken the beginning of a frame, the second one a whole frame. -/
theorem carriesFrames_cutFrame :
    ∃ final, Execution.run (step 4) new cutFrame = some final ∧
      final.bytesOn 1 = [4, 0, 0, 0] ∧ final.bytesOn 2 = [5, 0, 0, 0, 7, 0, 0] ∧
      ∃ carried, CarriesFrames 4 (Execution.trace (step 4) new cutFrame) final carried :=
  ⟨_, rfl, rfl, rfl, (carriesFrames (by decide : (cutFrame.filterMap Act.link).Nodup) rfl).1⟩

end Mux

end RnsProxy
