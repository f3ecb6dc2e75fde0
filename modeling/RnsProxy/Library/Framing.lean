import Mathlib.Data.List.Infix
import Mathlib.Data.PNat.Defs

/-!
# Self-delimiting frames on a byte stream

A decoder looks at the front of a buffer and finds a frame, asks for more input, or gives up.
`drain` extracts every complete frame, and `Code` collects the laws that tie a decoder to an
encoder. The main results say that a stream of encoded frames is recovered exactly however it is
cut: what `drain` leaves behind is the arrived part of the next frame, and nothing else.
-/

namespace Framing

/-- What a decoder finds at the front of a buffer. -/
inductive Outcome (φ : Type*)
  /-- A complete frame, with the number of symbols it occupies. -/
  | frame (value : φ) (size : ℕ)
  /-- An incomplete frame. -/
  | more
  /-- The front of the buffer is not the beginning of a frame. -/
  | failed
  deriving DecidableEq

variable {φ β : Type*}

/-- The drain loop with an explicit bound on the number of frames it may extract. -/
def drainFuel (decode : List β → Outcome φ) : ℕ → List β → List φ × List β
  | 0, buffer => ([], buffer)
  | fuel + 1, buffer =>
      match decode buffer with
      | .frame value size =>
          let later := drainFuel decode fuel (buffer.drop size)
          (value :: later.1, later.2)
      | .more => ([], buffer)
      | .failed => ([], [])

/-- Extract every complete frame from a buffer, discarding the buffer when decoding fails. Every
frame occupies at least one symbol, so the length of the buffer bounds the number of rounds. -/
def drain (decode : List β → Outcome φ) (buffer : List β) : List φ × List β :=
  drainFuel decode buffer.length buffer

/-- Whether the drain loop gives up within the given number of rounds. -/
def failsFuel (decode : List β → Outcome φ) : ℕ → List β → Bool
  | 0, _ => false
  | fuel + 1, buffer =>
      match decode buffer with
      | .frame _ size => failsFuel decode fuel (buffer.drop size)
      | .more => false
      | .failed => true

/-- Whether draining a buffer ends with a failure of the decoder. -/
def fails (decode : List β → Outcome φ) (buffer : List β) : Bool :=
  failsFuel decode buffer.length buffer

theorem fails_of_failed {decode : List β → Outcome φ} {symbol : β} {symbols : List β}
    (found : decode (symbol :: symbols) = .failed) : fails decode (symbol :: symbols) = true := by
  simp [fails, failsFuel, found]

/-- A failure of the decoder empties the buffer. -/
theorem drainFuel_of_fails {decode : List β → Outcome φ} {fuel : ℕ} {buffer : List β}
    (failed : failsFuel decode fuel buffer = true) : (drainFuel decode fuel buffer).2 = [] := by
  induction fuel generalizing buffer with
  | zero => cases failed
  | succ fuel ih =>
      rw [failsFuel] at failed
      rw [drainFuel]
      split at failed
      · exact ih failed
      · cases failed
      · rfl

theorem drain_of_fails {decode : List β → Outcome φ} {buffer : List β}
    (failed : fails decode buffer = true) : (drain decode buffer).2 = [] :=
  drainFuel_of_fails failed

theorem drainFuel_isSuffix (decode : List β → Outcome φ) (fuel : ℕ) (buffer : List β) :
    (drainFuel decode fuel buffer).2 <:+ buffer := by
  induction fuel generalizing buffer with
  | zero => exact List.suffix_refl buffer
  | succ fuel ih =>
      rw [drainFuel]
      split
      · exact (ih _).trans (List.drop_suffix _ buffer)
      · exact List.suffix_refl buffer
      · exact List.nil_suffix

/-- What the drain loop leaves behind is the end of the buffer. -/
theorem drain_isSuffix (decode : List β → Outcome φ) (buffer : List β) :
    (drain decode buffer).2 <:+ buffer :=
  drainFuel_isSuffix decode buffer.length buffer

/-- Append one piece of input to the buffer and drain it. -/
def feed (decode : List β → Outcome φ) (buffer piece : List β) : List φ × List β :=
  drain decode (buffer ++ piece)

/-- Feed a list of pieces one after the other, collecting the frames of all calls. -/
def feedAll (decode : List β → Outcome φ) : List β → List (List β) → List φ × List β
  | buffer, [] => ([], buffer)
  | buffer, piece :: pieces =>
      let now := feed decode buffer piece
      let later := feedAll decode now.2 pieces
      (now.1 ++ later.1, later.2)

theorem feedAll_append (decode : List β → Outcome φ) (buffer : List β)
    (front back : List (List β)) :
    feedAll decode buffer (front ++ back) =
      ((feedAll decode buffer front).1 ++ (feedAll decode (feedAll decode buffer front).2 back).1,
        (feedAll decode (feedAll decode buffer front).2 back).2) := by
  induction front generalizing buffer with
  | nil => rfl
  | cons piece front ih => simp [feedAll, ih, List.append_assoc]

/-- A property holds of all frames returned exactly if it holds of those each piece completes. -/
theorem forall_mem_feedAll_iff {decode : List β → Outcome φ} {kind : φ → Prop} {buffer : List β}
    {pieces : List (List β)} :
    (∀ value ∈ (feedAll decode buffer pieces).1, kind value) ↔
      ∀ front piece back, pieces = front ++ piece :: back →
        ∀ value ∈ (feed decode (feedAll decode buffer front).2 piece).1, kind value := by
  constructor
  · rintro all front piece back rfl value member
    apply all value
    rw [feedAll_append]
    exact List.mem_append_right _ (List.mem_append_left _ member)
  · intro each
    induction pieces generalizing buffer with
    | nil => exact fun value member => by cases member
    | cons piece pieces ih =>
        intro value member
        rcases List.mem_append.mp member with now | later
        · exact each [] piece pieces rfl value now
        · refine ih (fun front other back split => ?_) value later
          exact each (piece :: front) other back (by rw [split, List.cons_append])

/-- Frames whose encodings a decoder recognizes at the front of any longer input. -/
structure Code (φ β : Type*) where
  /-- The frames that fit the format. -/
  Valid : φ → Prop
  /-- The symbols of a frame. -/
  encode : φ → List β
  /-- The decoder. -/
  decode : List β → Outcome φ
  /-- A decoded frame occupies part of the buffer, and more than nothing. -/
  decode_size : ∀ {buffer value size}, decode buffer = .frame value size →
    0 < size ∧ size ≤ buffer.length
  /-- A complete encoding is decoded, whatever follows it. -/
  decode_encode : ∀ {value} (_ : Valid value) (rest : List β),
    decode (encode value ++ rest) = .frame value (encode value).length
  /-- A proper beginning of an encoding is incomplete. -/
  decode_partial : ∀ {value} (_ : Valid value) (front back : List β),
    encode value = front ++ back → back ≠ [] → decode front = .more

namespace Code

variable (code : Code φ β)

/-- The stream of a list of frames. -/
def encodeAll (frames : List φ) : List β :=
  frames.flatMap code.encode

@[simp]
theorem encodeAll_nil : code.encodeAll [] = [] := rfl

@[simp]
theorem encodeAll_cons (value : φ) (frames : List φ) :
    code.encodeAll (value :: frames) = code.encode value ++ code.encodeAll frames := rfl

@[simp]
theorem encodeAll_append (left right : List φ) :
    code.encodeAll (left ++ right) = code.encodeAll left ++ code.encodeAll right := by
  simp [encodeAll]

/-- More rounds than symbols change nothing. -/
theorem drainFuel_eq_drain {fuel : ℕ} {buffer : List β} (enough : buffer.length ≤ fuel) :
    drainFuel code.decode fuel buffer = drain code.decode buffer := by
  suffices ∀ (bound fuel fuel' : ℕ) (buffer : List β), buffer.length ≤ bound →
      buffer.length ≤ fuel → buffer.length ≤ fuel' →
      drainFuel code.decode fuel buffer = drainFuel code.decode fuel' buffer from
    this buffer.length fuel buffer.length buffer le_rfl enough le_rfl
  intro bound
  induction bound with
  | zero =>
      intro fuel fuel' buffer short _ _
      obtain rfl : buffer = [] := List.length_eq_zero_iff.mp (Nat.le_zero.mp short)
      have empty (rounds : ℕ) : drainFuel code.decode rounds [] = ([], []) := by
        cases rounds with
        | zero => rfl
        | succ rounds =>
            cases found : code.decode [] with
            | frame value size =>
                have := code.decode_size found
                simp at this
                omega
            | more => simp [drainFuel, found]
            | failed => simp [drainFuel, found]
      rw [empty, empty]
  | succ bound ih =>
      intro fuel fuel' buffer short enough enough'
      cases buffer with
      | nil => exact ih fuel fuel' [] (Nat.zero_le _) enough enough'
      | cons symbol symbols =>
          obtain ⟨fuel, rfl⟩ := Nat.exists_eq_succ_of_ne_zero
            (Nat.ne_of_gt (Nat.lt_of_lt_of_le (by simp) enough))
          obtain ⟨fuel', rfl⟩ := Nat.exists_eq_succ_of_ne_zero
            (Nat.ne_of_gt (Nat.lt_of_lt_of_le (by simp) enough'))
          cases found : code.decode (symbol :: symbols) with
          | frame value size =>
              have sizes := code.decode_size found
              have shorter : ((symbol :: symbols).drop size).length ≤ bound := by
                simp only [List.length_drop]
                omega
              have rest := ih fuel fuel' ((symbol :: symbols).drop size) shorter
                (by simp only [List.length_drop]; omega) (by simp only [List.length_drop]; omega)
              simp [drainFuel, found, rest]
          | more => simp [drainFuel, found]
          | failed => simp [drainFuel, found]

theorem drain_frame {buffer : List β} {value : φ} {size : ℕ}
    (found : code.decode buffer = .frame value size) :
    drain code.decode buffer =
      (value :: (drain code.decode (buffer.drop size)).1,
        (drain code.decode (buffer.drop size)).2) := by
  have sizes := code.decode_size found
  obtain ⟨fuel, length_eq⟩ :=
    Nat.exists_eq_succ_of_ne_zero (Nat.ne_of_gt (Nat.lt_of_lt_of_le sizes.1 sizes.2))
  rw [drain, length_eq]
  have enough : (buffer.drop size).length ≤ fuel := by
    simp only [List.length_drop]
    omega
  simp [drainFuel, found, drainFuel_eq_drain code enough]

theorem drain_more {buffer : List β} (found : code.decode buffer = .more) :
    drain code.decode buffer = ([], buffer) := by
  rw [drain]
  cases buffer.length with
  | zero => rfl
  | succ fuel => simp [drainFuel, found]

theorem drain_failed {buffer : List β} (found : code.decode buffer = .failed) :
    drain code.decode buffer = ([], []) := by
  cases buffer with
  | nil => rfl
  | cons symbol symbols => simp [drain, drainFuel, found]

/-- Whatever the decoder finds is an encoding. -/
def Sound : Prop :=
  ∀ {buffer value size}, code.decode buffer = .frame value size →
    code.Valid value ∧ buffer = code.encode value ++ buffer.drop size

/-- The decoder finds no complete frame at the front of the buffer. -/
def Stuck (buffer : List β) : Prop :=
  code.decode buffer = .more ∨ code.decode buffer = .failed

theorem drain_of_stuck {buffer : List β} (stuck : code.Stuck buffer) :
    (drain code.decode buffer).1 = [] := by
  rcases stuck with incomplete | failed
  · rw [drain_more code incomplete]
  · rw [drain_failed code failed]

/-- Draining returns the encodings at the front of the buffer. -/
theorem drain_encodeAll_append {frames : List φ} (valid : ∀ value ∈ frames, code.Valid value)
    {tail : List β} (stuck : code.Stuck tail) :
    (drain code.decode (code.encodeAll frames ++ tail)).1 = frames := by
  induction frames with
  | nil => exact drain_of_stuck code stuck
  | cons value frames ih =>
      rw [encodeAll_cons, List.append_assoc,
        drain_frame code (code.decode_encode (valid value List.mem_cons_self) _)]
      have rest := ih fun other member => valid other (List.mem_cons_of_mem value member)
      simp [rest]

/-- Draining leaves behind what it leaves of the part after the complete encodings. -/
theorem drain_encodeAll_append_snd {frames : List φ} (valid : ∀ value ∈ frames, code.Valid value)
    (tail : List β) :
    (drain code.decode (code.encodeAll frames ++ tail)).2 = (drain code.decode tail).2 := by
  induction frames with
  | nil => rfl
  | cons value frames ih =>
      rw [encodeAll_cons, List.append_assoc,
        drain_frame code (code.decode_encode (valid value List.mem_cons_self) _), List.drop_left]
      exact ih fun other member => valid other (List.mem_cons_of_mem value member)

/-- What draining returns are the encodings at the front of the buffer. -/
theorem exists_encodeAll_drain (sound : code.Sound) (buffer : List β) :
    (∀ value ∈ (drain code.decode buffer).1, code.Valid value) ∧
      ∃ tail, code.Stuck tail ∧
        buffer = code.encodeAll (drain code.decode buffer).1 ++ tail := by
  generalize bound : buffer.length = length
  induction length using Nat.strong_induction_on generalizing buffer with
  | _ length ih =>
      cases found : code.decode buffer with
      | frame value size =>
          obtain ⟨valid, split⟩ := sound found
          have sizes := code.decode_size found
          obtain ⟨valid_rest, tail, stuck, rest⟩ := ih (buffer.drop size).length
            (by simp only [List.length_drop]; omega) (buffer.drop size) rfl
          rw [drain_frame code found]
          refine ⟨by simpa [valid] using valid_rest, tail, stuck, ?_⟩
          rw [encodeAll_cons, List.append_assoc, ← rest, ← split]
      | more =>
          rw [drain_more code found]
          exact ⟨by simp, buffer, .inl found, rfl⟩
      | failed =>
          rw [drain_failed code found]
          exact ⟨by simp, buffer, .inr found, rfl⟩

/-- Draining splits the buffer into the encodings it returns and the rest, which it keeps if the
rest is incomplete, and discards if the decoder gives up there. -/
theorem drain_split (sound : code.Sound) (buffer : List β) :
    ∃ tail, buffer = code.encodeAll (drain code.decode buffer).1 ++ tail ∧
      ((drain code.decode buffer).2 = tail ∧ code.decode tail = .more ∨
        (drain code.decode buffer).2 = [] ∧ code.decode tail = .failed) := by
  obtain ⟨valid, tail, stuck, split⟩ := exists_encodeAll_drain code sound buffer
  have rest : (drain code.decode buffer).2 = (drain code.decode tail).2 := by
    conv_lhs => rw [split]
    exact drain_encodeAll_append_snd code valid tail
  refine ⟨tail, split, ?_⟩
  rcases stuck with incomplete | failed
  · exact .inl ⟨by rw [rest, drain_more code incomplete], incomplete⟩
  · exact .inr ⟨by rw [rest, drain_failed code failed], failed⟩

/-- Where an empty buffer asks for more input, so does what draining leaves behind. -/
theorem decode_drain (sound : code.Sound) (empty : code.decode [] = .more) (buffer : List β) :
    code.decode (drain code.decode buffer).2 = .more := by
  obtain ⟨tail, _, ⟨kept, incomplete⟩ | ⟨discarded, _⟩⟩ := drain_split code sound buffer
  · rw [kept]
    exact incomplete
  · rw [discarded]
    exact empty

/-- Where an empty buffer asks for more input, so does what any number of pieces leaves behind. -/
theorem decode_feedAll (sound : code.Sound) (empty : code.decode [] = .more) {buffer : List β}
    (incomplete : code.decode buffer = .more) (pieces : List (List β)) :
    code.decode (feedAll code.decode buffer pieces).2 = .more := by
  induction pieces generalizing buffer with
  | nil => exact incomplete
  | cons piece pieces ih => exact ih (decode_drain code sound empty (buffer ++ piece))

/-- More input does not change a frame that has been decoded. -/
theorem decode_append (sound : code.Sound) {buffer : List β} {value : φ} {size : ℕ}
    (found : code.decode buffer = .frame value size) (more : List β) :
    code.decode (buffer ++ more) = .frame value size := by
  obtain ⟨valid, split⟩ := sound found
  have size_eq : size = (code.encode value).length := by
    rw [split, code.decode_encode valid] at found
    exact (Outcome.frame.inj found).2.symm
  rw [split, List.append_assoc, code.decode_encode valid, size_eq]

/-- The first of two streams' frames is the same if the streams are. -/
theorem encode_append_inj {left right : φ} (left_valid : code.Valid left)
    (right_valid : code.Valid right) {left_rest right_rest : List β}
    (same : code.encode left ++ left_rest = code.encode right ++ right_rest) :
    left = right ∧ left_rest = right_rest := by
  have decoded := code.decode_encode left_valid left_rest
  rw [same, code.decode_encode right_valid] at decoded
  obtain rfl : right = left := (Outcome.frame.inj decoded).1
  exact ⟨rfl, List.append_cancel_left same⟩

/-- A piece leaves an incomplete buffer as it was exactly if the buffer and the piece are complete
encodings followed by the buffer again, or the buffer is empty and the decoder gives up after the
complete encodings. -/
theorem feed_snd_eq_iff (sound : code.Sound) {buffer piece : List β}
    (incomplete : code.decode buffer = .more) :
    (feed code.decode buffer piece).2 = buffer ↔
      ∃ frames tail, (∀ value ∈ frames, code.Valid value) ∧
        buffer ++ piece = code.encodeAll frames ++ tail ∧
        (tail = buffer ∨ buffer = [] ∧ code.decode tail = .failed) := by
  constructor
  · intro same
    obtain ⟨valid, tail, stuck, split⟩ := exists_encodeAll_drain code sound (buffer ++ piece)
    refine ⟨_, tail, valid, split, ?_⟩
    have rest : buffer = (drain code.decode tail).2 := by
      rw [← drain_encodeAll_append_snd code valid tail, ← split]
      exact same.symm
    rcases stuck with more | failed
    · rw [drain_more code more] at rest
      exact .inl rest.symm
    · rw [drain_failed code failed] at rest
      exact .inr ⟨rest, failed⟩
  · rintro ⟨frames, tail, valid, split, rfl | ⟨rfl, failed⟩⟩
    · rw [feed, split, drain_encodeAll_append_snd code valid, drain_more code incomplete]
    · rw [feed, split, drain_encodeAll_append_snd code valid, drain_failed code failed]

/-- Draining returns frames of a given kind only, exactly if the buffer consists of encodings of
such frames up to where the decoder finds no complete frame. -/
theorem forall_mem_drain_iff (sound : code.Sound) {kind : φ → Prop}
    (valid : ∀ value, kind value → code.Valid value) (buffer : List β) :
    (∀ value ∈ (drain code.decode buffer).1, kind value) ↔
      ∃ whole tail, (∀ value ∈ whole, kind value) ∧ buffer = code.encodeAll whole ++ tail ∧
        code.Stuck tail := by
  constructor
  · intro all
    obtain ⟨_, tail, stuck, split⟩ := exists_encodeAll_drain code sound buffer
    exact ⟨_, tail, all, split, stuck⟩
  · rintro ⟨whole, tail, all, rfl, stuck⟩
    rwa [drain_encodeAll_append code (fun value member => valid value (all value member)) stuck]

/-- The symbols of a list of frames that have arrived are the complete frames `done`, with `tail`
the arrived part of the first frame of `later`. -/
structure Arrived (frames done later : List φ) (bytes tail : List β) : Prop where
  /-- The complete frames come first. -/
  split : frames = done ++ later
  /-- What arrived is the complete frames and the tail. -/
  bytes_eq : bytes = code.encodeAll done ++ tail
  /-- The tail begins the next frame but does not finish it. -/
  tail_partial : ∀ next rest, later = next :: rest →
    ∃ missing, missing ≠ [] ∧ code.encode next = tail ++ missing
  /-- After the last frame nothing is left. -/
  tail_nil : later = [] → tail = []

/-- Draining any beginning of a stream returns the complete frames and keeps the arrived part of
the next one. -/
theorem drain_of_prefix {frames : List φ} (valid : ∀ value ∈ frames, code.Valid value)
    {bytes missing : List β} (stream : code.encodeAll frames = bytes ++ missing) :
    ∃ done later tail, code.Arrived frames done later bytes tail ∧
      drain code.decode bytes = (done, tail) ∧
      code.encodeAll later = tail ++ missing := by
  induction frames generalizing bytes with
  | nil =>
      obtain ⟨rfl, rfl⟩ := List.append_eq_nil_iff.mp stream.symm
      exact ⟨[], [], [], ⟨rfl, rfl, by simp, fun _ => rfl⟩, rfl, rfl⟩
  | cons value frames ih =>
      have value_valid := valid value List.mem_cons_self
      have cut : (∃ rest, bytes = code.encode value ++ rest) ∨
          ∃ back, back ≠ [] ∧ code.encode value = bytes ++ back := by
        rcases List.append_eq_append_iff.mp (stream : _ ++ _ = _) with
          ⟨rest, bytes_eq, _⟩ | ⟨back, encode_eq, _⟩
        · exact .inl ⟨rest, bytes_eq⟩
        · cases back with
          | nil => exact .inl ⟨[], by simpa using encode_eq.symm⟩
          | cons symbol back => exact .inr ⟨symbol :: back, by simp, encode_eq⟩
      rcases cut with ⟨rest, rfl⟩ | ⟨back, back_ne, encode_eq⟩
      · have rest_stream : code.encodeAll frames = rest ++ missing := by
          simpa [List.append_assoc] using stream
        obtain ⟨done, later, tail, arrived, drained, remaining⟩ :=
          ih (fun other member => valid other (List.mem_cons_of_mem value member)) rest_stream
        refine ⟨value :: done, later, tail, ?_, ?_, remaining⟩
        · exact
            { split := by simp [arrived.split]
              bytes_eq := by simp [arrived.bytes_eq]
              tail_partial := arrived.tail_partial
              tail_nil := arrived.tail_nil }
        · rw [drain_frame code (code.decode_encode value_valid rest)]
          simp [drained]
      · refine ⟨[], value :: frames, bytes, ?_, ?_, stream⟩
        · exact
            { split := rfl
              bytes_eq := by simp
              tail_partial := by
                intro next rest later_eq
                obtain ⟨rfl, rfl⟩ := List.cons.inj later_eq
                exact ⟨back, back_ne, encode_eq⟩
              tail_nil := by simp }
        · exact drain_more code (code.decode_partial value_valid bytes back encode_eq back_ne)

/-- Reassembly is exact for every chunking: after any number of pieces of a stream the frames
returned so far are the complete ones and the buffer is the arrived part of the next. -/
theorem feedAll_of_prefix {frames : List φ} (valid : ∀ value ∈ frames, code.Valid value)
    {buffer missing : List β} {pieces : List (List β)}
    (pending : code.decode buffer = .more ∨ buffer = [])
    (stream : code.encodeAll frames = buffer ++ pieces.flatten ++ missing) :
    ∃ done later tail, code.Arrived frames done later (buffer ++ pieces.flatten) tail ∧
      feedAll code.decode buffer pieces = (done, tail) := by
  induction pieces generalizing frames buffer with
  | nil =>
      simp only [List.flatten_nil, List.append_nil] at stream
      obtain ⟨done, later, tail, arrived, drained, _⟩ := code.drain_of_prefix valid stream
      have unchanged : drain code.decode buffer = ([], buffer) := by
        rcases pending with incomplete | rfl
        · exact drain_more code incomplete
        · rfl
      obtain ⟨rfl, rfl⟩ := Prod.mk.inj (unchanged.symm.trans drained)
      exact ⟨[], later, buffer, by simpa using arrived, rfl⟩
  | cons piece pieces ih =>
      have first_stream : code.encodeAll frames =
          (buffer ++ piece) ++ (pieces.flatten ++ missing) := by
        simpa [List.append_assoc] using stream
      obtain ⟨done, later, tail, arrived, drained, remaining⟩ :=
        code.drain_of_prefix valid first_stream
      have later_valid : ∀ value ∈ later, code.Valid value := fun value member =>
        valid value (by simp [arrived.split, member])
      have tail_pending : code.decode tail = .more ∨ tail = [] := by
        cases later with
        | nil => exact .inr (arrived.tail_nil rfl)
        | cons next rest =>
            obtain ⟨back, back_ne, encode_eq⟩ := arrived.tail_partial next rest rfl
            exact .inl (code.decode_partial (later_valid next List.mem_cons_self) tail back
              encode_eq back_ne)
      obtain ⟨done', later', tail', arrived', fed⟩ :=
        ih later_valid tail_pending (by simpa [List.append_assoc] using remaining)
      refine ⟨done ++ done', later', tail', ?_, ?_⟩
      · exact
          { split := by rw [arrived.split, arrived'.split, List.append_assoc]
            bytes_eq := by
              calc
                buffer ++ (piece :: pieces).flatten = (buffer ++ piece) ++ pieces.flatten := by
                  simp
                _ = code.encodeAll done ++ (tail ++ pieces.flatten) := by
                  rw [arrived.bytes_eq, List.append_assoc]
                _ = code.encodeAll (done ++ done') ++ tail' := by
                  rw [arrived'.bytes_eq, encodeAll_append, List.append_assoc]
            tail_partial := arrived'.tail_partial
            tail_nil := arrived'.tail_nil }
      · simp only [feedAll, feed, drained, fed]

/-- A stream is its frames: two lists of frames with the same stream are equal. -/
theorem drain_encodeAll {frames : List φ} (valid : ∀ value ∈ frames, code.Valid value) :
    drain code.decode (code.encodeAll frames) = (frames, []) := by
  obtain ⟨done, later, tail, arrived, drained, remaining⟩ :=
    code.drain_of_prefix valid (List.append_nil (code.encodeAll frames)).symm
  cases later with
  | nil => rw [drained, arrived.split, arrived.tail_nil rfl, List.append_nil]
  | cons next rest =>
      obtain ⟨back, back_ne, encode_eq⟩ := arrived.tail_partial next rest rfl
      have lengths := congrArg List.length remaining
      have back_length := List.length_pos_of_ne_nil back_ne
      simp only [encodeAll_cons, encode_eq, List.length_append, List.length_nil] at lengths
      omega

end Code

section Chunks

/-- Cut a list into pieces of `size` symbols, with an explicit bound on their number. -/
def chunksFuel (size : ℕ+) : ℕ → List β → List (List β)
  | 0, _ => []
  | _ + 1, [] => []
  | fuel + 1, symbol :: symbols =>
      (symbol :: symbols).take size :: chunksFuel size fuel ((symbol :: symbols).drop size)

/-- Cut a list into consecutive pieces of `size` symbols, the last one possibly shorter. -/
def chunks (size : ℕ+) (symbols : List β) : List (List β) :=
  chunksFuel size symbols.length symbols

theorem chunksFuel_flatten (size : ℕ+) {fuel : ℕ} {symbols : List β}
    (enough : symbols.length ≤ fuel) : (chunksFuel size fuel symbols).flatten = symbols := by
  induction fuel generalizing symbols with
  | zero =>
      obtain rfl : symbols = [] := List.length_eq_zero_iff.mp (Nat.le_zero.mp enough)
      rfl
  | succ fuel ih =>
      cases symbols with
      | nil => rfl
      | cons symbol symbols =>
          have size_pos := size.pos
          have shorter : ((symbol :: symbols).drop size).length ≤ fuel := by
            simp only [List.length_drop, List.length_cons] at enough ⊢
            omega
          rw [chunksFuel, List.flatten_cons, ih shorter, List.take_append_drop]

/-- More rounds than symbols change nothing. -/
theorem chunksFuel_eq_chunks (size : ℕ+) {fuel : ℕ} {symbols : List β}
    (enough : symbols.length ≤ fuel) : chunksFuel size fuel symbols = chunks size symbols := by
  rw [chunks]
  generalize bound : symbols.length = length at enough
  induction length using Nat.strong_induction_on generalizing fuel symbols with
  | _ length ih =>
      cases symbols with
      | nil => cases fuel <;> cases length <;> rfl
      | cons symbol symbols =>
          obtain ⟨fuel, rfl⟩ := Nat.exists_eq_succ_of_ne_zero
            (Nat.ne_of_gt (Nat.lt_of_lt_of_le (by simp [← bound]) enough))
          obtain ⟨length, rfl⟩ := Nat.exists_eq_succ_of_ne_zero
            (show length ≠ 0 by simp [← bound])
          have size_pos := size.pos
          have shorter : ((symbol :: symbols).drop size).length ≤ length := by
            simp only [List.length_drop, List.length_cons] at bound ⊢
            omega
          rw [chunksFuel, chunksFuel,
            ih _ (Nat.lt_succ_of_le shorter) rfl (shorter.trans (Nat.le_of_succ_le_succ enough)),
            ih _ (Nat.lt_succ_of_le shorter) rfl shorter]

/-- A list whose first piece is full. -/
theorem chunks_append (size : ℕ+) {piece rest : List β} (full : piece.length = size) :
    chunks size (piece ++ rest) = piece :: chunks size rest := by
  cases piece with
  | nil => exact absurd full.symm size.ne_zero
  | cons symbol piece =>
      have enough : rest.length ≤ (piece ++ rest).length := by simp
      rw [chunks, List.cons_append, List.length_cons, chunksFuel, ← List.cons_append, ← full,
        List.take_left, List.drop_left, chunksFuel_eq_chunks size enough]

/-- Cutting a list loses nothing. -/
@[simp]
theorem chunks_flatten (size : ℕ+) (symbols : List β) : (chunks size symbols).flatten = symbols :=
  chunksFuel_flatten size le_rfl

/-- There are no more pieces than symbols. -/
theorem length_chunks_le (size : ℕ+) (symbols : List β) :
    (chunks size symbols).length ≤ symbols.length := by
  have rounds : ∀ fuel (symbols : List β), (chunksFuel size fuel symbols).length ≤ fuel := by
    intro fuel
    induction fuel with
    | zero => exact fun _ => le_rfl
    | succ fuel ih =>
        intro symbols
        cases symbols with
        | nil => exact Nat.zero_le _
        | cons symbol symbols => exact Nat.succ_le_succ (ih _)
  exact rounds symbols.length symbols

end Chunks

end Framing
