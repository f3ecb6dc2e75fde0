import Mathlib.Algebra.Group.Nat.Defs
import Mathlib.Data.List.Basic
import Mathlib.Tactic.Cases
import RnsProxy.Library.Framing

/-!
# The frame protocol

All sessions are multiplexed over one link as frames

`[1 byte type][4 bytes session_id][2 bytes payload length][payload]`

with big-endian numbers. This file gives the encoder and decoder, the payload of a CONNECT frame,
and the laws that make frames with payloads of at most 65535 bytes a self-delimiting code.
-/

namespace RnsProxy

/-- A sequence of bytes. -/
abbrev Bytes := List UInt8

/-! ## Big-endian numbers -/

/-- `u16::to_be_bytes`. -/
def beBytes16 (value : UInt16) : Bytes :=
  [UInt8.ofNat (value.toNat / 2 ^ 8), UInt8.ofNat value.toNat]

/-- `u16::from_be_bytes`. -/
def ofBeBytes16 (high low : UInt8) : UInt16 :=
  UInt16.ofNat (high.toNat * 2 ^ 8 + low.toNat)

/-- `u32::to_be_bytes`. -/
def beBytes32 (value : UInt32) : Bytes :=
  [UInt8.ofNat (value.toNat / 2 ^ 24), UInt8.ofNat (value.toNat / 2 ^ 16),
    UInt8.ofNat (value.toNat / 2 ^ 8), UInt8.ofNat value.toNat]

/-- `u32::from_be_bytes`. -/
def ofBeBytes32 (first second third fourth : UInt8) : UInt32 :=
  UInt32.ofNat (first.toNat * 2 ^ 24 + second.toNat * 2 ^ 16 + third.toNat * 2 ^ 8 + fourth.toNat)

theorem ofBeBytes16_beBytes16 (value : UInt16) :
    ofBeBytes16 (UInt8.ofNat (value.toNat / 2 ^ 8)) (UInt8.ofNat value.toNat) = value := by
  apply UInt16.toNat_inj.mp
  have bound := value.toNat_lt
  simp only [ofBeBytes16, UInt16.toNat_ofNat', UInt8.toNat_ofNat']
  omega

theorem ofBeBytes32_beBytes32 (value : UInt32) :
    ofBeBytes32 (UInt8.ofNat (value.toNat / 2 ^ 24)) (UInt8.ofNat (value.toNat / 2 ^ 16))
      (UInt8.ofNat (value.toNat / 2 ^ 8)) (UInt8.ofNat value.toNat) = value := by
  apply UInt32.toNat_inj.mp
  have bound := value.toNat_lt
  simp only [ofBeBytes32, UInt32.toNat_ofNat', UInt8.toNat_ofNat']
  omega

theorem beBytes16_ofBeBytes16 (high low : UInt8) :
    beBytes16 (ofBeBytes16 high low) = [high, low] := by
  have high_lt := high.toNat_lt
  have low_lt := low.toNat_lt
  simp only [beBytes16, ofBeBytes16, List.cons.injEq, and_true]
  constructor <;> apply UInt8.toNat_inj.mp <;>
    simp only [UInt16.toNat_ofNat', UInt8.toNat_ofNat'] <;> omega

theorem beBytes32_ofBeBytes32 (first second third fourth : UInt8) :
    beBytes32 (ofBeBytes32 first second third fourth) = [first, second, third, fourth] := by
  have first_lt := first.toNat_lt
  have second_lt := second.toNat_lt
  have third_lt := third.toNat_lt
  have fourth_lt := fourth.toNat_lt
  simp only [beBytes32, ofBeBytes32, List.cons.injEq, and_true]
  refine ⟨?_, ?_, ?_, ?_⟩ <;> apply UInt8.toNat_inj.mp <;>
    simp only [UInt32.toNat_ofNat', UInt8.toNat_ofNat'] <;> omega

/-! ## Frames -/

/-- Frame header size: 1 (type) + 4 (session_id) + 2 (payload length). -/
def HDR_SIZE : ℕ := 7

/-- The frame types of the protocol. -/
inductive FrameType
  /-- Client requests to open a connection to host:port. -/
  | connect
  /-- Server confirms the connection succeeded. -/
  | connectOk
  /-- Server reports a connection error. -/
  | connectErr
  /-- Bidirectional data transfer. -/
  | data
  /-- Either side closes the session. -/
  | close
  deriving DecidableEq, Repr

namespace FrameType

/-- The discriminant, `frame_type as u8`. -/
def toU8 : FrameType → UInt8
  | connect => 0x01
  | connectOk => 0x02
  | connectErr => 0x03
  | data => 0x04
  | close => 0x05

/-- `FrameType::from_u8`. -/
def fromU8 (v : UInt8) : Option FrameType :=
  if v = 0x01 then some connect
  else if v = 0x02 then some connectOk
  else if v = 0x03 then some connectErr
  else if v = 0x04 then some data
  else if v = 0x05 then some close
  else none

@[simp]
theorem fromU8_toU8 (frameType : FrameType) : fromU8 frameType.toU8 = some frameType := by
  cases frameType <;> rfl

theorem toU8_of_fromU8 {v : UInt8} {frameType : FrameType} (known : fromU8 v = some frameType) :
    frameType.toU8 = v := by
  rw [fromU8] at known
  split at known
  · cases known
    exact Eq.symm ‹_›
  split at known
  · cases known
    exact Eq.symm ‹_›
  split at known
  · cases known
    exact Eq.symm ‹_›
  split at known
  · cases known
    exact Eq.symm ‹_›
  split at known
  · cases known
    exact Eq.symm ‹_›
  · cases known

end FrameType

/-- A multiplexed frame on the wire. -/
structure Frame where
  /-- What the frame asks for. -/
  frameType : FrameType
  /-- The session it belongs to. -/
  sessionId : UInt32
  /-- Its contents. -/
  payload : Bytes
  deriving DecidableEq, Repr

namespace Frame

/-- Encode a frame into bytes. The length field is the payload length `as u16`. -/
def encode (frame : Frame) : Bytes :=
  frame.frameType.toU8 :: beBytes32 frame.sessionId ++
    beBytes16 (UInt16.ofNat frame.payload.length) ++ frame.payload

/-- Decode the frame at the front of a buffer. `Ok((frame, consumed))` is `.frame frame consumed`,
and the errors `MoreDataRequired` and `DecodingFailed` are `.more` and `.failed`. -/
def decode (buf : Bytes) : Framing.Outcome Frame :=
  match buf with
  | type :: id₀ :: id₁ :: id₂ :: id₃ :: len₀ :: len₁ :: rest =>
      match FrameType.fromU8 type with
      | none => .failed
      | some frameType =>
          let sessionId := ofBeBytes32 id₀ id₁ id₂ id₃
          let payloadLen := (ofBeBytes16 len₀ len₁).toNat
          let total := HDR_SIZE + payloadLen
          if buf.length < total then .more
          else .frame { frameType, sessionId, payload := rest.take payloadLen } total
  -- fewer than `HDR_SIZE` bytes
  | _ => .more

/-- The payloads whose length survives the cast to `u16`. -/
def Fits (frame : Frame) : Prop :=
  frame.payload.length ≤ 65535

instance (frame : Frame) : Decidable frame.Fits :=
  inferInstanceAs (Decidable (_ ≤ _))

@[simp]
theorem length_encode (frame : Frame) :
    frame.encode.length = HDR_SIZE + frame.payload.length := by
  simp [encode, beBytes32, beBytes16, HDR_SIZE]
  omega

theorem length_field {frame : Frame} (fits : frame.Fits) :
    (UInt16.ofNat frame.payload.length).toNat = frame.payload.length := by
  have bound : frame.payload.length ≤ 65535 := fits
  simp only [UInt16.toNat_ofNat']
  omega

/-- The decoder on a buffer that begins with a header of known type. -/
theorem decode_header (frameType : FrameType) (sessionId : UInt32) (len : UInt16) (rest : Bytes) :
    decode (frameType.toU8 :: beBytes32 sessionId ++ beBytes16 len ++ rest) =
      if rest.length < len.toNat then .more
      else .frame { frameType, sessionId, payload := rest.take len.toNat }
        (HDR_SIZE + len.toNat) := by
  simp only [beBytes32, beBytes16, List.cons_append, List.nil_append, decode,
    FrameType.fromU8_toU8, ofBeBytes32_beBytes32, ofBeBytes16_beBytes16, List.length_cons, HDR_SIZE]
  by_cases short : rest.length < len.toNat
  · rw [if_pos (by omega), if_pos short]
  · rw [if_neg (by omega), if_neg short]

theorem decode_encode_append {frame : Frame} (fits : frame.Fits) (rest : Bytes) :
    decode (frame.encode ++ rest) = .frame frame frame.encode.length := by
  rw [encode, List.append_assoc, decode_header, length_field fits, if_neg (by simp),
    List.take_left, ← encode, length_encode]

theorem decode_of_length_lt {buf : Bytes} (short : buf.length < HDR_SIZE) :
    decode buf = .more := by
  simp only [decode]
  split
  · simp [HDR_SIZE] at short
    omega
  · rfl

theorem decode_partial {frame : Frame} (fits : frame.Fits) (front back : Bytes)
    (encode_eq : frame.encode = front ++ back) (back_ne : back ≠ []) : decode front = .more := by
  by_cases short : front.length < HDR_SIZE
  · exact decode_of_length_lt short
  · -- the cut lies in the payload, so the front is the header and a shorter payload
    set header := frame.frameType.toU8 :: beBytes32 frame.sessionId ++
      beBytes16 (UInt16.ofNat frame.payload.length) with header_def
    have header_length : header.length = HDR_SIZE := rfl
    have front_eq : front = header ++ front.drop HDR_SIZE := by
      have taken : front.take HDR_SIZE = header := by
        have := congrArg (List.take HDR_SIZE) encode_eq
        rw [List.take_append_of_le_length (by omega)] at this
        rw [← this, encode, ← header_def, List.take_append_of_le_length (by omega),
          List.take_of_length_le (by omega)]
      conv_lhs => rw [← List.take_append_drop HDR_SIZE front, taken]
    have back_pos := List.length_pos_of_ne_nil back_ne
    have lengths := congrArg List.length encode_eq
    simp only [length_encode, List.length_append] at lengths
    rw [front_eq, decode_header, length_field fits, if_pos]
    simp only [List.length_drop]
    omega

theorem decode_size {buffer : Bytes} {frame : Frame} {size : ℕ}
    (decoded : decode buffer = .frame frame size) : 0 < size ∧ size ≤ buffer.length := by
  unfold decode at decoded
  split at decoded
  · split at decoded
    · cases decoded
    · dsimp only at decoded
      split at decoded
      · cases decoded
      · cases decoded
        simp only [HDR_SIZE] at *
        omega
  · cases decoded

/-- Frames with payloads of at most 65535 bytes form a self-delimiting code. -/
def code : Framing.Code Frame UInt8 where
  Valid := Fits
  encode := encode
  decode := decode
  decode_size := decode_size
  decode_encode := decode_encode_append
  decode_partial := decode_partial

/-- Whatever is decoded is an encoding. -/
theorem decode_sound : code.Sound := by
  intro buffer frame size decoded
  change decode buffer = .frame frame size at decoded
  simp only [decode] at decoded
  split at decoded
  · rename_i type id₀ id₁ id₂ id₃ len₀ len₁ rest
    split at decoded
    · cases decoded
    · rename_i frameType known
      split at decoded
      · cases decoded
      · rename_i complete
        cases decoded
        have len_lt := (ofBeBytes16 len₀ len₁).toNat_lt
        simp only [List.length_cons, HDR_SIZE] at complete
        have taken : (rest.take (ofBeBytes16 len₀ len₁).toNat).length =
            (ofBeBytes16 len₀ len₁).toNat := by
          rw [List.length_take]
          omega
        refine ⟨?_, ?_⟩
        · change List.length _ ≤ 65535
          simp only [taken]
          omega
        · change _ = encode _ ++ _
          simp only [encode, FrameType.toU8_of_fromU8 known, beBytes32_ofBeBytes32, taken,
            UInt16.ofNat_toNat, beBytes16_ofBeBytes16, HDR_SIZE]
          simp [Nat.add_comm 7]
  · cases decoded

@[simp]
theorem encodeAll_code (frames : List Frame) :
    code.encodeAll frames = frames.flatMap encode := rfl

/-! ## More input -/

theorem decode_nil : decode [] = .more :=
  decode_of_length_lt (by decide)

/-- The frame type, session id and payload length that the header at the front of a buffer
announces. -/
def announced (buf : Bytes) : Option (FrameType × UInt32 × UInt16) :=
  match buf with
  | type :: id₀ :: id₁ :: id₂ :: id₃ :: len₀ :: len₁ :: _ =>
      (FrameType.fromU8 type).map fun frameType =>
        (frameType, ofBeBytes32 id₀ id₁ id₂ id₃, ofBeBytes16 len₀ len₁)
  | _ => none

/-- A full header of an unknown type is at the front of the buffer. -/
def UnknownType (buf : Bytes) : Prop :=
  HDR_SIZE ≤ buf.length ∧ ∃ type rest, buf = type :: rest ∧ FrameType.fromU8 type = none

/-- A full header is at the front of a buffer of at least seven bytes. -/
theorem exists_header {buf : Bytes} (complete : HDR_SIZE ≤ buf.length) :
    ∃ type id₀ id₁ id₂ id₃ len₀ len₁ rest,
      buf = type :: id₀ :: id₁ :: id₂ :: id₃ :: len₀ :: len₁ :: rest := by
  rcases buf with
    _ | ⟨type, _ | ⟨id₀, _ | ⟨id₁, _ | ⟨id₂, _ | ⟨id₃, _ | ⟨len₀, _ | ⟨len₁, rest⟩⟩⟩⟩⟩⟩⟩
  case cons.cons.cons.cons.cons.cons.cons =>
    exact ⟨type, id₀, id₁, id₂, id₃, len₀, len₁, rest, rfl⟩
  all_goals simp [HDR_SIZE] at complete

/-- A full header announces a frame, or its type is unknown. -/
theorem announced_or_unknownType {buf : Bytes} (complete : HDR_SIZE ≤ buf.length) :
    (∃ frameType sessionId len, announced buf = some (frameType, sessionId, len)) ∨
      UnknownType buf := by
  obtain ⟨type, id₀, id₁, id₂, id₃, len₀, len₁, rest, rfl⟩ := exists_header complete
  cases known : FrameType.fromU8 type with
  | none => exact .inr ⟨complete, type, _, rfl, known⟩
  | some frameType => exact .inl ⟨frameType, _, _, by rw [announced, known]; rfl⟩

theorem announced_append {buf : Bytes} {found : FrameType × UInt32 × UInt16}
    (announces : announced buf = some found) (more : Bytes) :
    announced (buf ++ more) = some found := by
  simp only [announced] at announces
  split at announces
  · exact announces
  · cases announces

/-- The decoder on a buffer with a header of known type. -/
theorem decode_of_announced {buf : Bytes} {frameType : FrameType} {sessionId : UInt32}
    {len : UInt16} (announces : announced buf = some (frameType, sessionId, len)) :
    decode buf =
      if buf.length < HDR_SIZE + len.toNat then .more
      else .frame { frameType, sessionId, payload := (buf.drop HDR_SIZE).take len.toNat }
        (HDR_SIZE + len.toNat) := by
  simp only [announced] at announces
  split at announces
  · obtain ⟨known_type, known, same⟩ := Option.map_eq_some_iff.mp announces
    cases same
    simp only [decode, known]
    rfl
  · cases announces

/-- The decoder gives up exactly on a full header of an unknown type. -/
theorem decode_eq_failed_iff {buf : Bytes} : decode buf = .failed ↔ UnknownType buf := by
  constructor
  · intro failed
    have complete : HDR_SIZE ≤ buf.length := by
      by_contra short
      rw [decode_of_length_lt (not_le.mp short)] at failed
      cases failed
    rcases announced_or_unknownType complete with ⟨frameType, sessionId, len, announces⟩ | unknown
    · rw [decode_of_announced announces] at failed
      split at failed <;> cases failed
    · exact unknown
  · rintro ⟨complete, type, rest, rfl, unknown⟩
    obtain ⟨_, id₀, id₁, id₂, id₃, len₀, len₁, tail, same⟩ := exists_header complete
    obtain ⟨rfl, rfl⟩ := List.cons.inj same
    simp [decode, unknown]

theorem UnknownType.append {buf : Bytes} (unknown : UnknownType buf) (more : Bytes) :
    UnknownType (buf ++ more) := by
  obtain ⟨complete, type, rest, rfl, unknown⟩ := unknown
  refine ⟨?_, type, rest ++ more, rfl, unknown⟩
  rw [List.length_append]
  exact Nat.le_add_right_of_le complete

/-- What the decoder has found in a buffer more input does not change: a frame, a failure, or what
the header of an incomplete frame announces, which some input completes. Encodings followed by the
same bytes are encodings of the same frame. -/
theorem decode_stable (buf : Bytes) :
    (∀ frame size, decode buf = .frame frame size →
        ∀ more, decode (buf ++ more) = .frame frame size) ∧
      (decode buf = .failed → ∀ more, decode (buf ++ more) = .failed) ∧
      (decode buf = .more → HDR_SIZE ≤ buf.length →
        (∃ more frame size, decode (buf ++ more) = .frame frame size) ∧
          (∃ frameType sessionId len, announced buf = some (frameType, sessionId, len) ∧
            ∀ more frame size, decode (buf ++ more) = .frame frame size →
              frame.frameType = frameType ∧ frame.sessionId = sessionId ∧
                frame.payload.length = len.toNat) ∧
          ∀ more, decode (buf ++ more) ≠ .failed) ∧
      ∀ left right : Frame, left.Fits → right.Fits → ∀ left_rest right_rest,
        left.encode ++ left_rest = right.encode ++ right_rest →
          left = right ∧ left_rest = right_rest := by
  refine ⟨fun frame size found => code.decode_append decode_sound found, ?_, ?_,
    fun left right left_fits right_fits _ _ same =>
      code.encode_append_inj left_fits right_fits same⟩
  · intro failed more
    exact decode_eq_failed_iff.mpr ((decode_eq_failed_iff.mp failed).append more)
  · intro incomplete complete
    obtain ⟨frameType, sessionId, len, announces⟩ | unknown := announced_or_unknownType complete
    · have decoded (more : Bytes) := decode_of_announced (announced_append announces more)
      refine ⟨?_, ⟨frameType, sessionId, len, announces, ?_⟩, ?_⟩
      · -- as many bytes as the header announces complete the frame
        have enough : ¬ (buf ++ List.replicate len.toNat 0).length < HDR_SIZE + len.toNat := by
          rw [List.length_append, List.length_replicate]
          omega
        exact ⟨_, _, _, (decoded (List.replicate len.toNat 0)).trans (if_neg enough)⟩
      · intro more frame size found
        rw [decoded more] at found
        split_ifs at found with short
        cases found
        refine ⟨rfl, rfl, ?_⟩
        rw [List.length_take, List.length_drop]
        omega
      · intro more failed
        rw [decoded more] at failed
        split_ifs at failed
    · rw [decode_eq_failed_iff.mpr unknown] at incomplete
      cases incomplete

/-- The header of a DATA frame of session 1 with two bytes, one of which has arrived. -/
theorem decode_stable_incomplete :
    (∃ more frame size, decode ([4, 0, 0, 0, 1, 0, 2, 9] ++ more) = .frame frame size) ∧
      (∃ frameType sessionId len,
        announced [4, 0, 0, 0, 1, 0, 2, 9] = some (frameType, sessionId, len) ∧
          ∀ more frame size, decode ([4, 0, 0, 0, 1, 0, 2, 9] ++ more) = .frame frame size →
            frame.frameType = frameType ∧ frame.sessionId = sessionId ∧
              frame.payload.length = len.toNat) ∧
      ∀ more, decode ([4, 0, 0, 0, 1, 0, 2, 9] ++ more) ≠ .failed :=
  (decode_stable [4, 0, 0, 0, 1, 0, 2, 9]).2.2.1 (by decide) (by decide)

end Frame

/-! ## CONNECT payloads -/

/-- Build a CONNECT payload: `[1 byte host_len][host bytes][2 bytes port BE][1 byte settings]`, of
which only the most significant settings bit is used. -/
def encodeConnectPayload (host : String) (port : UInt16) (udp : Bool) : Bytes :=
  let h := host.toUTF8.data.toList
  UInt8.ofNat h.length :: h ++ beBytes16 port ++ [if udp then 0b10000000 else 0b00000000]

/-- Parse a CONNECT payload, failing when it is too short or the host is not UTF-8. -/
def decodeConnectPayload (data : Bytes) : Option (String × UInt16 × Bool) :=
  match data with
  | [] => none
  | first :: tail =>
      let n := first.toNat
      if data.length < 1 + n + 2 + 1 then none
      else
        match String.fromUTF8? ⟨(tail.take n).toArray⟩, tail.drop n with
        | some host, port₀ :: port₁ :: settings :: _ =>
            some (host, ofBeBytes16 port₀ port₁, !(settings &&& 0b10000000 == 0))
        | _, _ => none

end RnsProxy
