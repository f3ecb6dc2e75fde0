import RnsProxy.Reassembly

/-!
# Decoding after a failure

When the front of the reassembly buffer is not the beginning of a frame, `receive_data` discards the
buffer, to wait for the next frame boundary. Nothing in the stream marks a boundary: the next packet
is read as the beginning of a frame wherever it was cut. This file determines the sequences of
packets after which only frames are returned that were sent.
-/

namespace RnsProxy

/-- A call of `receive_data` hits `DecodingFailed`. -/
def receiveFails (recvBuf data : Bytes) : Bool :=
  Framing.fails Frame.decode (recvBuf ++ data)

/-- Once `receive_data` has hit `DecodingFailed`, it returns only frames that were sent. -/
def ReturnsSent (frames : List Frame) (packets : List Bytes) : Prop :=
  ∀ front packet back, packets = front ++ packet :: back →
    receiveFails (receiveAll [] front).2 packet = true →
    ∀ frame ∈ (receiveAll (receiveAll [] (front ++ [packet])).2 back).1, frame ∈ frames

/-- The buffer and the next packet are encodings of frames that were sent, up to where the decoder
finds no complete frame. -/
def MeetsFrames (frames : List Frame) (recvBuf packet : Bytes) : Prop :=
  ∃ whole : List Frame, ∃ tail, (∀ frame ∈ whole, frame ∈ frames) ∧
    recvBuf ++ packet = whole.flatMap Frame.encode ++ tail ∧
    (Frame.decode tail = .more ∨ Frame.decode tail = .failed)

/-- Every packet after a failure meets the frames that were sent. -/
def ResumesAtBoundary (frames : List Frame) (packets : List Bytes) : Prop :=
  ∀ front packet back, packets = front ++ packet :: back →
    receiveFails (receiveAll [] front).2 packet = true →
    ∀ middle next rest, back = middle ++ next :: rest →
      MeetsFrames frames (receiveAll (receiveAll [] (front ++ [packet])).2 middle).2 next

/-- The packets are those of whole frames that were sent, with packets between them that are no
beginning of a frame, and possibly the first packets of one more frame. -/
inductive WholeFrames (linkMdu : ℕ+) (frames : List Frame) : List Bytes → Prop
  /-- No packet. -/
  | nil : WholeFrames linkMdu frames []
  /-- All packets of a frame. -/
  | frame {frame rest} (sent : frame ∈ frames) (later : WholeFrames linkMdu frames rest) :
      WholeFrames linkMdu frames (linkChunks linkMdu frame ++ rest)
  /-- A packet that is refused by itself. -/
  | refused {packet rest} (refuses : Frame.decode packet = .failed)
      (later : WholeFrames linkMdu frames rest) : WholeFrames linkMdu frames (packet :: rest)
  /-- The first packets of a frame, and nothing after them. -/
  | cut {frame packets missing} (sent : frame ∈ frames)
      (split : linkChunks linkMdu frame = packets ++ missing) : WholeFrames linkMdu frames packets

variable {frames : List Frame}

theorem forall_mem_receiveData_iff (fits : ∀ frame ∈ frames, frame.Fits) (recvBuf packet : Bytes) :
    (∀ frame ∈ (receiveData recvBuf packet).1, frame ∈ frames) ↔
      MeetsFrames frames recvBuf packet :=
  Frame.code.forall_mem_drain_iff Frame.decode_sound fits (recvBuf ++ packet)

theorem receiveAll_snd_of_fails {front : List Bytes} {packet : Bytes}
    (failed : receiveFails (receiveAll [] front).2 packet = true) :
    (receiveAll [] (front ++ [packet])).2 = [] := by
  rw [receiveAll, Framing.feedAll_append]
  exact Framing.drain_of_fails failed

theorem returnsSent_iff_resumesAtBoundary (fits : ∀ frame ∈ frames, frame.Fits)
    (packets : List Bytes) :
    ReturnsSent frames packets ↔ ResumesAtBoundary frames packets := by
  refine forall₃_congr fun front packet back => forall₂_congr fun _ _ => ?_
  refine Framing.forall_mem_feedAll_iff.trans ?_
  refine forall₃_congr fun middle next rest => forall_congr' fun _ => ?_
  exact forall_mem_receiveData_iff fits _ next

/-- The packets of one frame return that frame when the last of them arrives. -/
theorem receiveAll_linkChunks {frame : Frame} (fits : frame.Fits) {linkMdu : ℕ+}
    {packets missing : List Bytes} (split : linkChunks linkMdu frame = packets ++ missing) :
    (∀ returned ∈ (receiveAll [] packets).1, returned = frame) ∧
      (missing = [] → (receiveAll [] packets).2 = []) := by
  have all_fit : ∀ other ∈ [frame], other.Fits := by simpa using fits
  have whole : (linkChunks linkMdu frame).flatten = [frame].flatMap Frame.encode := by
    simp [linkChunks_flatten]
  obtain ⟨complete, each, _⟩ := reassembly_exact [frame] all_fit (linkChunks linkMdu frame) whole
  constructor
  · obtain ⟨done, later, recvBuf, received, frames_eq, _⟩ := each packets missing split
    intro returned member
    rw [received] at member
    exact List.mem_singleton.mp (frames_eq ▸ List.mem_append_left later member)
  · rintro rfl
    rw [List.append_nil] at split
    rw [← split, complete]

theorem WholeFrames.receiveAll {linkMdu : ℕ+} (fits : ∀ frame ∈ frames, frame.Fits)
    {packets : List Bytes} (whole : WholeFrames linkMdu frames packets) :
    ∀ frame ∈ (receiveAll [] packets).1, frame ∈ frames := by
  induction whole with
  | nil => exact fun frame member => by cases member
  | @frame frame rest sent later ih =>
      obtain ⟨only, empty⟩ := receiveAll_linkChunks (fits frame sent)
        (List.append_nil (linkChunks linkMdu frame)).symm
      rw [RnsProxy.receiveAll, Framing.feedAll_append]
      intro returned member
      rcases List.mem_append.mp member with now | next
      · rw [only returned now]
        exact sent
      · have cleared : (Framing.feedAll Frame.decode [] (linkChunks linkMdu frame)).2 = [] :=
        empty rfl
        rw [cleared] at next
        exact ih returned next
  | @refused packet rest refuses later ih =>
      have nothing : Framing.feed Frame.decode [] packet = ([], []) :=
        Frame.code.drain_failed refuses
      rw [RnsProxy.receiveAll, Framing.feedAll, nothing]
      exact ih
  | @cut frame packets missing sent split =>
      intro returned member
      rw [(receiveAll_linkChunks (fits frame sent) split).1 returned member]
      exact sent

/-- After a failure of the decoder `receive_data` returns only frames that were sent exactly if
every later packet, with what is buffered, consists of encodings of such frames up to where the
decoder finds no complete frame. This is so whenever the packets after a failure are those of whole
frames, with packets that are refused by themselves between them. -/
theorem returnsSent_iff (frames : List Frame) (fits : ∀ frame ∈ frames, frame.Fits)
    (packets : List Bytes) :
    (ReturnsSent frames packets ↔ ResumesAtBoundary frames packets) ∧
      ∀ linkMdu, (∀ front packet back, packets = front ++ packet :: back →
          receiveFails (receiveAll [] front).2 packet = true → WholeFrames linkMdu frames back) →
        ReturnsSent frames packets := by
  refine ⟨returnsSent_iff_resumesAtBoundary fits packets, fun linkMdu whole => ?_⟩
  intro front packet back split failed
  rw [receiveAll_snd_of_fails failed]
  exact (whole front packet back split failed).receiveAll fits

/-- A number of zero bytes. -/
def zeros (count : ℕ) : Bytes :=
  List.replicate count 0

@[simp]
theorem length_zeros (count : ℕ) : (zeros count).length = count :=
  List.length_replicate

/-- A frame of three packets, the last of which looks like a frame of another session. -/
def disguised : Frame where
  frameType := .data
  sessionId := 1
  payload := zeros 424 ++ (255 :: zeros 430 ++ [4, 0, 0, 0, 2, 0, 1, 9])

theorem linkChunks_disguised :
    linkChunks 431 disguised =
      [[4, 0, 0, 0, 1, 3, 95] ++ zeros 424, 255 :: zeros 430, [4, 0, 0, 0, 2, 0, 1, 9]] := by
  have encoded : disguised.encode =
      ([4, 0, 0, 0, 1, 3, 95] ++ zeros 424) ++
        ((255 :: zeros 430) ++ [4, 0, 0, 0, 2, 0, 1, 9]) := by
    simp [Frame.encode, disguised, FrameType.toU8, beBytes32, beBytes16]
  rw [linkChunks, encoded,
    Framing.chunks_append 431 (by rw [List.length_append, length_zeros]; rfl),
    Framing.chunks_append 431 (by rw [List.length_cons, length_zeros]; rfl)]
  rfl

/-- When the first packet is lost, the second one is refused and the third one is returned as a
frame of another session. -/
theorem not_returnsSent_disguised :
    ∃ packets, packets.Sublist ([disguised].flatMap (linkChunks 431)) ∧
      ¬ ReturnsSent [disguised] packets := by
  refine ⟨[255 :: zeros 430, [4, 0, 0, 0, 2, 0, 1, 9]], ?_, fun returns => ?_⟩
  · simp [linkChunks_disguised]
  · have refused : receiveFails (receiveAll [] []).2 (255 :: zeros 430) = true :=
      Framing.fails_of_failed rfl
    have returned := returns [] (255 :: zeros 430) [[4, 0, 0, 0, 2, 0, 1, 9]] rfl refused
      ⟨.data, 2, [9]⟩
    rw [receiveAll_snd_of_fails refused] at returned
    have same := returned (by decide)
    simp [disguised] at same

/-- When the third packet is lost as well, the next frame is returned as it was sent. -/
theorem returnsSent_disguised_close :
    ReturnsSent [disguised, ⟨.close, 1, []⟩] [255 :: zeros 430, [5, 0, 0, 0, 1, 0, 0]] := by
  refine (returnsSent_iff [disguised, ⟨.close, 1, []⟩] (by simp [disguised, Frame.Fits]) _).2 431 ?_
  intro front packet back split _
  rcases front with _ | ⟨first, _ | ⟨second, front⟩⟩
  · obtain ⟨rfl, rfl⟩ := List.cons.inj split
    have sent : (⟨.close, 1, []⟩ : Frame) ∈ [disguised, ⟨.close, 1, []⟩] := by simp
    exact .frame sent .nil
  · obtain ⟨_, rfl⟩ := List.cons.inj (List.cons.inj split).2
    exact .nil
  · simp at split

end RnsProxy
