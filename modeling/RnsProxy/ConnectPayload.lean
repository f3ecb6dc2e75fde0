import Mathlib.Data.Nat.Bitwise
import RnsProxy.Frame

/-!
# CONNECT payloads

The payload of a CONNECT frame names a host by its length and bytes, a port and a settings byte.
This file shows that decoding undoes encoding, that nothing shorter is accepted, and that the
decoder of the source, with its checked indexing, never leaves the bounds of its input.
-/

namespace RnsProxy

/-! ## Checked indexing -/

/-- Why an access to a slice stops the program. -/
inductive Panic
  /-- The index is not below the length. -/
  | indexOutOfBounds
  /-- The range is not within the slice. -/
  | rangeOutOfBounds
  deriving DecidableEq, Repr

/-- `data[i]`. -/
def checkedIndex (data : Bytes) (i : ℕ) : Except Panic UInt8 :=
  match data[i]? with
  | some byte => .ok byte
  | none => .error .indexOutOfBounds

/-- `data[start..stop]`. -/
def checkedRange (data : Bytes) (start stop : ℕ) : Except Panic Bytes :=
  if start ≤ stop ∧ stop ≤ data.length then .ok ((data.take stop).drop start)
  else .error .rangeOutOfBounds

/-- `decode_connect_payload` with every access checked, as the source runs it. -/
def decodeConnectPayloadChecked (data : Bytes) :
    Except Panic (Option (String × UInt16 × Bool)) := do
  if data.isEmpty then
    return none
  let n := (← checkedIndex data 0).toNat
  if data.length < 1 + n + 2 + 1 then
    return none
  match String.fromUTF8? ⟨(← checkedRange data 1 (1 + n)).toArray⟩ with
  | none => return none
  | some host =>
      let port := ofBeBytes16 (← checkedIndex data (1 + n)) (← checkedIndex data (2 + n))
      let udp := if (← checkedIndex data (n + 3)) &&& 0b10000000 == 0 then false else true
      return some (host, port, udp)

/-! ## The parts of a payload -/

/-- The bytes of a host name. -/
def hostBytes (host : String) : Bytes :=
  host.toUTF8.data.toList

/-- The settings byte. -/
def settingsByte (udp : Bool) : UInt8 :=
  if udp then 0b10000000 else 0b00000000

theorem encodeConnectPayload_eq (host : String) (port : UInt16) (udp : Bool) :
    encodeConnectPayload host port udp =
      UInt8.ofNat (hostBytes host).length :: (hostBytes host ++ beBytes16 port ++
        [settingsByte udp]) := by
  simp [encodeConnectPayload, hostBytes, settingsByte]

theorem length_encodeConnectPayload_eq (host : String) (port : UInt16) (udp : Bool) :
    (encodeConnectPayload host port udp).length = 4 + (hostBytes host).length := by
  simp [encodeConnectPayload_eq, beBytes16]
  omega

theorem fromUTF8?_eq_some_iff (bytes : Bytes) (host : String) :
    String.fromUTF8? ⟨bytes.toArray⟩ = some host ↔ bytes = hostBytes host := by
  constructor
  · intro decoded
    rw [String.fromUTF8?] at decoded
    split at decoded
    · obtain rfl := Option.some.inj decoded
      simp [hostBytes, String.fromUTF8]
    · cases decoded
  · rintro rfl
    have valid := host.isValidUTF8
    simp only [hostBytes, String.toUTF8_eq_toByteArray, String.fromUTF8?]
    rw [dif_pos valid]
    rfl

theorem and_settings (settings : UInt8) :
    settings &&& 0b10000000 = settingsByte (!(settings &&& 0b10000000 == 0)) := by
  have masked : settings &&& 0b10000000 = 0 ∨ settings &&& 0b10000000 = 0b10000000 := by
    have bit := Nat.and_two_pow settings.toNat 7
    simp only [← UInt8.toNat_inj, UInt8.toNat_and, UInt8.reduceToNat] at *
    cases Nat.testBit settings.toNat 7 <;> simp_all
  rcases masked with masked | masked <;> rw [masked] <;> rfl

/-- A payload is long enough for the host length it announces. -/
def Announced (data : Bytes) : Prop :=
  ∃ first tail, data = first :: tail ∧ first.toNat + 3 ≤ tail.length

theorem decodeConnectPayload_of_short {data : Bytes} (short : ¬ Announced data) :
    decodeConnectPayload data = none := by
  cases data with
  | nil => rfl
  | cons first tail =>
      have short_tail : ¬ first.toNat + 3 ≤ tail.length := fun long =>
        short ⟨first, tail, rfl, long⟩
      rw [decodeConnectPayload]
      exact if_pos (by rw [List.length_cons]; omega)

theorem decodeConnectPayloadChecked_of_short {data : Bytes} (short : ¬ Announced data) :
    decodeConnectPayloadChecked data = .ok none := by
  cases data with
  | nil => rfl
  | cons first tail =>
      have short_tail : ¬ first.toNat + 3 ≤ tail.length := fun long =>
        short ⟨first, tail, rfl, long⟩
      have too_short : (first :: tail).length < 1 + first.toNat + 2 + 1 := by
        rw [List.length_cons]
        omega
      have first_eq : checkedIndex (first :: tail) 0 = .ok first := rfl
      simp only [decodeConnectPayloadChecked, first_eq, bind, Except.bind, pure, Except.pure,
        if_pos too_short]
      rfl

/-- The parts of a payload that is long enough. -/
theorem Announced.parts {data : Bytes} (announced : Announced data) :
    ∃ first front port₀ port₁ settings rest,
      data = first :: (front ++ port₀ :: port₁ :: settings :: rest) ∧
        front.length = first.toNat := by
  obtain ⟨first, tail, rfl, long⟩ := announced
  have length_drop : 3 ≤ (tail.drop first.toNat).length := by
    rw [List.length_drop]
    omega
  obtain ⟨port₀, port₁, settings, rest, rest_eq⟩ :
      ∃ port₀ port₁ settings rest, tail.drop first.toNat = port₀ :: port₁ :: settings :: rest := by
    generalize tail.drop first.toNat = dropped at length_drop
    rcases dropped with _ | ⟨port₀, _ | ⟨port₁, _ | ⟨settings, rest⟩⟩⟩
    case cons.cons.cons => exact ⟨port₀, port₁, settings, rest, rfl⟩
    all_goals simp at length_drop
  refine ⟨first, tail.take first.toNat, port₀, port₁, settings, rest, ?_, ?_⟩
  · rw [← rest_eq, List.take_append_drop]
  · rw [List.length_take]
    omega

section Parts

variable {first : UInt8} {front : Bytes} (front_length : front.length = first.toNat)
  (port₀ port₁ settings : UInt8) (rest : Bytes)

include front_length

theorem decodeConnectPayload_parts :
    decodeConnectPayload (first :: (front ++ port₀ :: port₁ :: settings :: rest)) =
      (String.fromUTF8? ⟨front.toArray⟩).map fun host =>
        (host, ofBeBytes16 port₀ port₁, !(settings &&& 0b10000000 == 0)) := by
  have long : ¬ (first :: (front ++ port₀ :: port₁ :: settings :: rest)).length <
      1 + first.toNat + 2 + 1 := by
    simp only [List.length_cons, List.length_append]
    omega
  rw [decodeConnectPayload]
  simp only [if_neg long, List.take_left' front_length, List.drop_left' front_length]
  cases String.fromUTF8? ⟨front.toArray⟩ <;> rfl

theorem decodeConnectPayloadChecked_parts :
    decodeConnectPayloadChecked (first :: (front ++ port₀ :: port₁ :: settings :: rest)) =
      .ok ((String.fromUTF8? ⟨front.toArray⟩).map fun host =>
        (host, ofBeBytes16 port₀ port₁, !(settings &&& 0b10000000 == 0))) := by
  let data := first :: (front ++ port₀ :: port₁ :: settings :: rest)
  have long : ¬ data.length < 1 + first.toNat + 2 + 1 := by
    simp only [data, List.length_cons, List.length_append]
    omega
  have first_eq : checkedIndex data 0 = .ok first := rfl
  have host_eq : checkedRange data 1 (1 + first.toNat) = .ok front := by
    have within : 1 ≤ 1 + first.toNat ∧ 1 + first.toNat ≤ data.length := by omega
    rw [checkedRange, if_pos within, Nat.add_comm 1 first.toNat, List.take_succ_cons,
      List.drop_succ_cons, List.drop_zero, List.take_left' front_length]
  have behind (i : ℕ) : data[1 + first.toNat + i]? =
      (port₀ :: port₁ :: settings :: rest)[i]? := by
    rw [show 1 + first.toNat + i = (front.length + i) + 1 by omega, List.getElem?_cons_succ,
      List.getElem?_append_right (by omega), Nat.add_sub_cancel_left]
  have port₀_eq : checkedIndex data (1 + first.toNat) = .ok port₀ := by
    simp [checkedIndex, show data[1 + first.toNat]? = some port₀ from behind 0]
  have port₁_eq : checkedIndex data (2 + first.toNat) = .ok port₁ := by
    rw [show 2 + first.toNat = 1 + first.toNat + 1 by omega, checkedIndex, behind 1]
    rfl
  have settings_eq : checkedIndex data (first.toNat + 3) = .ok settings := by
    rw [show first.toNat + 3 = 1 + first.toNat + 2 by omega, checkedIndex, behind 2]
    rfl
  show decodeConnectPayloadChecked data = _
  simp only [decodeConnectPayloadChecked, first_eq, host_eq, port₀_eq, port₁_eq, settings_eq,
    bind, Except.bind, pure, Except.pure, if_neg long]
  cases String.fromUTF8? ⟨front.toArray⟩ with
  | none => rfl
  | some host => cases settings &&& 0b10000000 == 0 <;> rfl

end Parts

/-- No access of the decoder leaves its input. -/
theorem decodeConnectPayloadChecked_eq (data : Bytes) :
    decodeConnectPayloadChecked data = .ok (decodeConnectPayload data) := by
  by_cases announced : Announced data
  · obtain ⟨first, front, port₀, port₁, settings, rest, rfl, front_length⟩ := announced.parts
    rw [decodeConnectPayload_parts front_length, decodeConnectPayloadChecked_parts front_length]
  · rw [decodeConnectPayload_of_short announced, decodeConnectPayloadChecked_of_short announced]

/-- What the decoder accepts: the length, bytes and port of a host, and any settings byte with the
flag. -/
theorem decodeConnectPayload_eq_some_iff (data : Bytes) (host : String) (port : UInt16)
    (udp : Bool) :
    decodeConnectPayload data = some (host, port, udp) ↔
      (hostBytes host).length ≤ 255 ∧ ∃ settings rest,
        data = UInt8.ofNat (hostBytes host).length :: (hostBytes host ++ (beBytes16 port ++
          settings :: rest)) ∧ udp = !(settings &&& 0b10000000 == 0) := by
  constructor
  · intro decoded
    have announced : Announced data := by
      by_contra short
      rw [decodeConnectPayload_of_short short] at decoded
      cases decoded
    obtain ⟨first, front, port₀, port₁, settings, rest, rfl, front_length⟩ := announced.parts
    rw [decodeConnectPayload_parts front_length, Option.map_eq_some_iff] at decoded
    obtain ⟨host', found, parts_eq⟩ := decoded
    obtain ⟨rfl, rfl, rfl⟩ : host' = host ∧ ofBeBytes16 port₀ port₁ = port ∧
        (!(settings &&& 0b10000000 == 0)) = udp := by simpa using parts_eq
    obtain rfl := (fromUTF8?_eq_some_iff front host').mp found
    have bound := first.toNat_lt
    refine ⟨by omega, settings, rest, ?_, rfl⟩
    rw [front_length, UInt8.ofNat_toNat, beBytes16_ofBeBytes16]
    rfl
  · rintro ⟨short, settings, rest, rfl, rfl⟩
    have front_length : (hostBytes host).length =
        (UInt8.ofNat (hostBytes host).length).toNat := by
      rw [UInt8.toNat_ofNat', Nat.mod_eq_of_lt (by omega)]
    rw [beBytes16, List.cons_append, List.cons_append, List.nil_append,
      decodeConnectPayload_parts front_length, (fromUTF8?_eq_some_iff _ host).mpr rfl,
      Option.map_some, ofBeBytes16_beBytes16]

/-- Decoding a CONNECT payload returns what was encoded, whatever follows, and rejects every proper
prefix. The decoder never leaves its input, and what it accepts is the encoding of what it returns
but for the seven low bits of the settings byte. -/
theorem connectPayload_exact :
    (∀ host port udp, (hostBytes host).length ≤ 255 →
      (∀ more, decodeConnectPayload (encodeConnectPayload host port udp ++ more) =
        some (host, port, udp)) ∧
      ∀ front, front <+: encodeConnectPayload host port udp →
        front ≠ encodeConnectPayload host port udp → decodeConnectPayload front = none) ∧
    ∀ data, decodeConnectPayloadChecked data = .ok (decodeConnectPayload data) ∧
      ∀ host port udp, decodeConnectPayload data = some (host, port, udp) →
        ∃ front settings,
          data.take (4 + (hostBytes host).length) = front ++ [settings] ∧
          encodeConnectPayload host port udp = front ++ [settings &&& 0b10000000] := by
  refine ⟨fun host port udp short => ⟨fun more => ?_, fun front isPrefix proper => ?_⟩,
    fun data => ⟨decodeConnectPayloadChecked_eq data, fun host port udp decoded => ?_⟩⟩
  · rw [decodeConnectPayload_eq_some_iff]
    refine ⟨short, settingsByte udp, more, ?_, by cases udp <;> rfl⟩
    simp [encodeConnectPayload_eq]
  · have shorter : front.length < 4 + (hostBytes host).length := by
      rw [← length_encodeConnectPayload_eq host port udp]
      exact lt_of_le_of_ne isPrefix.length_le fun same => proper (isPrefix.eq_of_length same)
    apply decodeConnectPayload_of_short
    rintro ⟨first, tail, rfl, long⟩
    rw [encodeConnectPayload_eq, List.cons_prefix_cons] at isPrefix
    rw [isPrefix.1, UInt8.toNat_ofNat', Nat.mod_eq_of_lt (by omega)] at long
    rw [List.length_cons] at shorter
    omega
  · obtain ⟨short, settings, rest, rfl, rfl⟩ :=
      (decodeConnectPayload_eq_some_iff data host port udp).mp decoded
    refine ⟨UInt8.ofNat (hostBytes host).length :: (hostBytes host ++ beBytes16 port), settings,
      ?_, ?_⟩
    · have grouped : UInt8.ofNat (hostBytes host).length :: (hostBytes host ++ (beBytes16 port ++
          settings :: rest)) = (UInt8.ofNat (hostBytes host).length ::
            (hostBytes host ++ beBytes16 port) ++ [settings]) ++ rest := by simp
      rw [grouped]
      apply List.take_left'
      simp [beBytes16]
      omega
    · rw [encodeConnectPayload_eq, ← and_settings settings]
      simp

/-- The payload for `example.com:25565` is read back, and one byte less is rejected. -/
theorem connectPayload_exact_example :
    decodeConnectPayload (encodeConnectPayload "example.com" 25565 true ++ [1, 2]) =
        some ("example.com", 25565, true) ∧
      decodeConnectPayload (encodeConnectPayload "example.com" 25565 true).dropLast = none := by
  have short : (hostBytes "example.com").length ≤ 255 := by decide
  have encoded := connectPayload_exact.1 "example.com" 25565 true short
  exact ⟨encoded.1 [1, 2], encoded.2 _ (List.dropLast_prefix _) (by decide)⟩

end RnsProxy
