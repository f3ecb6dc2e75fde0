import RnsProxy.Frame

/-!
# Reassembly of frames from link data

The link sender cuts each encoded frame into chunks of at most `LINK_MDU` bytes; the receiver
appends whatever arrives to its reassembly buffer and extracts every complete frame. The main
results are that the receiver recovers exactly the frames that were sent, however the bytes are cut,
and that whatever arrives it loses nothing but what follows a header of unknown type, and buffers
less than one frame.
-/

namespace RnsProxy

/-- `MuxHandle::receive_data`: append raw link data to the reassembly buffer and extract the
complete frames. When decoding fails the buffer is discarded and the frames before it are kept. -/
def receiveData (recvBuf data : Bytes) : List Frame × Bytes :=
  Framing.feed Frame.decode recvBuf data

/-- Successive calls of `receive_data`, with the frames of all calls in order. -/
def receiveAll (recvBuf : Bytes) (pieces : List Bytes) : List Frame × Bytes :=
  Framing.feedAll Frame.decode recvBuf pieces

/-- The packets `run_link_sender` cuts one encoded frame into. -/
def linkChunks (linkMdu : ℕ+) (frame : Frame) : List Bytes :=
  Framing.chunks linkMdu frame.encode

theorem linkChunks_flatten (linkMdu : ℕ+) (frame : Frame) :
    (linkChunks linkMdu frame).flatten = frame.encode :=
  Framing.chunks_flatten linkMdu frame.encode

theorem flatMap_linkChunks_flatten (linkMdu : ℕ+) (frames : List Frame) :
    (frames.flatMap (linkChunks linkMdu)).flatten = frames.flatMap Frame.encode := by
  induction frames with
  | nil => rfl
  | cons frame frames ih => simp [linkChunks_flatten, ih]

/-- The frames of a complete stream, however it is cut. -/
theorem receiveAll_stream {frames : List Frame} (fits : ∀ frame ∈ frames, frame.Fits)
    {pieces : List Bytes} (cut : pieces.flatten = frames.flatMap Frame.encode) :
    receiveAll [] pieces = (frames, []) := by
  obtain ⟨done, later, tail, arrived, fed⟩ :=
    Frame.code.feedAll_of_prefix fits (.inr rfl)
      (show Frame.code.encodeAll frames = [] ++ pieces.flatten ++ [] by
        simpa using cut.symm)
  have stream : frames.flatMap Frame.encode = done.flatMap Frame.encode ++ tail :=
    cut.symm.trans arrived.bytes_eq
  cases later with
  | nil =>
      have all_done : frames = done := by simpa using arrived.split
      exact fed.trans (by rw [arrived.tail_nil rfl, all_done])
  | cons next rest =>
      obtain ⟨missing, missing_ne, encode_eq⟩ := arrived.tail_partial next rest rfl
      have lengths := congrArg List.length stream
      have missing_pos := List.length_pos_of_ne_nil missing_ne
      have next_length : next.encode.length = tail.length + missing.length := by
        rw [show next.encode = tail ++ missing from encode_eq, List.length_append]
      rw [arrived.split] at lengths
      simp only [List.flatMap_append, List.flatMap_cons, List.length_append] at lengths
      omega

/-- Reassembly is exact for every chunking. Feeding the pieces of the stream of `frames` to
`receive_data` returns exactly `frames`; after each piece the frames returned so far are those
whose last byte has arrived, and `recv_buf` is the arrived part of the next one. -/
theorem reassembly_exact (frames : List Frame) (fits : ∀ frame ∈ frames, frame.Fits)
    (pieces : List Bytes) (cut : pieces.flatten = frames.flatMap Frame.encode) :
    receiveAll [] pieces = (frames, []) ∧
      (∀ front back, pieces = front ++ back →
        ∃ done later recvBuf, receiveAll [] front = (done, recvBuf) ∧
          frames = done ++ later ∧
          front.flatten = done.flatMap Frame.encode ++ recvBuf ∧
          (∀ next rest, later = next :: rest →
            ∃ missing, missing ≠ [] ∧ next.encode = recvBuf ++ missing) ∧
          (later = [] → recvBuf = [])) ∧
      ∀ linkMdu : ℕ+,
        receiveAll [] (frames.flatMap (linkChunks linkMdu)) = (frames, []) := by
  refine ⟨receiveAll_stream fits cut, fun front back split => ?_, fun linkMdu =>
    receiveAll_stream fits (flatMap_linkChunks_flatten linkMdu frames)⟩
  have stream : Frame.code.encodeAll frames = [] ++ front.flatten ++ back.flatten := by
    simpa [split] using cut.symm
  obtain ⟨done, later, recvBuf, arrived, fed⟩ :=
    Frame.code.feedAll_of_prefix fits (.inr rfl) stream
  exact ⟨done, later, recvBuf, fed, arrived.split, by simpa using arrived.bytes_eq,
    arrived.tail_partial, arrived.tail_nil⟩

/-- Two frames, the second empty, cut inside the first header and inside the first payload. -/
theorem reassembly_exact_two_frames :
    receiveAll []
        [[4, 0, 0], [0, 9, 0, 2, 1], [], [5, 5, 0, 0, 0, 9, 0, 0]] =
      ([⟨.data, 9, [1, 5]⟩, ⟨.close, 9, []⟩], []) :=
  (reassembly_exact [⟨.data, 9, [1, 5]⟩, ⟨.close, 9, []⟩] (by decide)
    [[4, 0, 0], [0, 9, 0, 2, 1], [], [5, 5, 0, 0, 0, 9, 0, 0]] (by decide)).1

/-! ## Arbitrary bytes -/

/-- The most a buffer without a complete frame can hold: a header and all but one byte of the
longest payload. -/
def MAX_BUFFERED : ℕ := 65541

theorem length_le_of_more {buf : Bytes} (incomplete : Frame.decode buf = .more) :
    buf.length ≤ MAX_BUFFERED := by
  by_cases complete : HDR_SIZE ≤ buf.length
  · obtain ⟨frameType, sessionId, len, announces⟩ | unknown :=
      Frame.announced_or_unknownType complete
    · rw [Frame.decode_of_announced announces] at incomplete
      split_ifs at incomplete with short
      have bound := len.toNat_lt
      simp only [HDR_SIZE, MAX_BUFFERED] at *
      omega
    · rw [Frame.decode_eq_failed_iff.mpr unknown] at incomplete
      cases incomplete
  · simp only [HDR_SIZE, MAX_BUFFERED] at *
    omega

/-- Between two calls the buffer holds no complete frame. -/
theorem decode_receiveAll (pieces : List Bytes) :
    Frame.decode (receiveAll [] pieces).2 = .more := by
  have empty : Frame.code.decode [] = .more := Frame.decode_nil
  exact Frame.code.decode_feedAll Frame.decode_sound empty empty pieces

/-- Whatever is in the buffer and whatever arrives, the encodings of the frames that `receive_data`
returns are the front of both. It keeps the rest if that is an incomplete frame, and discards it
only if it begins with a full header of unknown type. More rounds of its loop would change nothing,
and from an empty buffer on it never keeps more than 65541 bytes. -/
theorem receiveData_conserves (recvBuf data : Bytes) :
    (∃ rest, recvBuf ++ data = (receiveData recvBuf data).1.flatMap Frame.encode ++ rest ∧
      ((receiveData recvBuf data).2 = rest ∧ Frame.decode rest = .more ∨
        (receiveData recvBuf data).2 = [] ∧ Frame.UnknownType rest)) ∧
      (∀ rounds, (recvBuf ++ data).length ≤ rounds →
        Framing.drainFuel Frame.decode rounds (recvBuf ++ data) = receiveData recvBuf data) ∧
      ∀ pieces, (receiveAll [] pieces).2.length ≤ 65541 := by
  refine ⟨?_, fun rounds enough => Frame.code.drainFuel_eq_drain enough, fun pieces =>
    length_le_of_more (decode_receiveAll pieces)⟩
  obtain ⟨rest, split, kept⟩ := Frame.code.drain_split Frame.decode_sound (recvBuf ++ data)
  refine ⟨rest, split, kept.imp_right ?_⟩
  rintro ⟨discarded, failed⟩
  exact ⟨discarded, Frame.decode_eq_failed_iff.mp failed⟩

end RnsProxy
