import ForeignBindings.Proofs.Wire.PackedNumbers
import ForeignBindings.Wire.Frame

/-!
# Frames delimit themselves

The header of a frame announces where its payload ends, so the payload is read from a frame with any
bytes behind it, and bytes from which a payload is read start with the frame of this payload.  Bytes
that are too short for the header or for what it announces are refused with the length that is
missing.
-/

namespace ForeignBindings
namespace Frame

/-- The length that a header of four bytes stands for, the highest byte first. -/
def headerValue (first second third fourth : UInt8) : Nat :=
  first.toNat * 2 ^ 24 + second.toNat * 2 ^ 16 + third.toNat * 2 ^ 8 + fourth.toNat

/-- Whether bytes are a header that announces a length and the bytes behind it. -/
def Announces (bytes : List UInt8) (length : Nat) (behind : List UInt8) : Prop :=
  ∃ first second third fourth, bytes = first :: second :: third :: fourth :: behind ∧
    length = headerValue first second third fourth

variable {bytes frame payload behind : List UInt8} {length : Nat} {fault : WireError}

theorem number_header (first second third fourth : UInt8) :
    ByteOrder.big.number [first, second, third, fourth] =
      headerValue first second third fourth := by
  simp only [ByteOrder.number, List.reverse_cons, List.reverse_nil, List.nil_append,
    List.cons_append, ByteOrder.ofLowBytes, headerValue]
  omega

theorem headerValue_lt (first second third fourth : UInt8) :
    headerValue first second third fourth < 2 ^ 32 := by
  have first_lt := first.toNat_lt
  have second_lt := second.toNat_lt
  have third_lt := third.toNat_lt
  have fourth_lt := fourth.toNat_lt
  rw [headerValue]
  omega

/-- Bytes announce a length exactly if they start with the four bytes of that number. -/
theorem announces_iff : Announces bytes length behind ↔
    length < 2 ^ 32 ∧ bytes = ByteOrder.big.bytes headerSize length ++ behind := by
  constructor
  · rintro ⟨first, second, third, fourth, rfl, rfl⟩
    have header : ByteOrder.big.bytes headerSize _ = _ :=
      ByteOrder.bytes_number .big [first, second, third, fourth]
    rw [number_header] at header
    refine ⟨headerValue_lt first second third fourth, ?_⟩
    rw [header]
    rfl
  · rintro ⟨small, rfl⟩
    have four : (ByteOrder.big.bytes headerSize length).length = 4 := ByteOrder.length_bytes ..
    obtain ⟨first, second, third, fourth, header⟩ := List.length_eq_four.mp four
    refine ⟨first, second, third, fourth, congrArg (· ++ behind) header, ?_⟩
    rw [← number_header, ← header, ByteOrder.number_bytes]
    exact (Nat.mod_eq_of_lt small).symm

theorem exists_announces (long : headerSize ≤ bytes.length) :
    ∃ length behind, Announces bytes length behind := by
  match bytes, long with
  | first :: second :: third :: fourth :: behind, _ =>
      exact ⟨_, behind, first, second, third, fourth, rfl, rfl⟩

theorem Announces.length_eq (announces : Announces bytes length behind) :
    bytes.length = headerSize + behind.length := by
  obtain ⟨first, second, third, fourth, rfl, -⟩ := announces
  exact Nat.add_comm behind.length headerSize

/-- The frame of a payload announces the length of the payload and holds nothing but the payload. -/
theorem encode_eq_ok_iff : encode payload = .ok frame ↔ Announces frame payload.length payload := by
  rw [announces_iff, encode]
  have count : ByteOrder.patternCount headerSize = 2 ^ 32 := rfl
  rw [count]
  split
  case isTrue small => rw [Except.ok.injEq, and_iff_right small, eq_comm]
  case isFalse large => exact ⟨nofun, fun announces => absurd announces.1 large⟩

theorem exists_encode_iff : (∃ frame, encode payload = .ok frame) ↔ payload.length < 2 ^ 32 := by
  constructor
  · rintro ⟨frame, encoded⟩
    exact (announces_iff.mp (encode_eq_ok_iff.mp encoded)).1
  · exact fun small => ⟨_, encode_eq_ok_iff.mpr (announces_iff.mpr ⟨small, rfl⟩)⟩

theorem decode_of_announces (announces : Announces bytes length behind) :
    decode bytes =
      if length ≤ behind.length then .ok (behind.take length)
      else .error (.truncated (headerSize + length) bytes.length) := by
  have long := announces.length_eq
  obtain ⟨first, second, third, fourth, rfl, rfl⟩ := announces
  have header := number_header first second third fourth
  rw [decode, if_neg (by omega)]
  simp only [headerSize, List.take_succ_cons, List.take_zero, List.drop_succ_cons, List.drop_zero,
    List.length_cons, header]
  exact if_congr (by omega) rfl rfl

/-- Bytes are decoded exactly if they start with the frame of what is read. -/
theorem decode_eq_ok_iff :
    decode bytes = .ok payload ↔ ∃ frame rest, encode payload = .ok frame ∧ bytes = frame ++ rest := by
  constructor
  · intro decoded
    by_cases short : bytes.length < headerSize
    · rw [decode, if_pos short] at decoded
      cases decoded
    · obtain ⟨length, behind, announces⟩ := exists_announces (Nat.not_lt.mp short)
      rw [decode_of_announces announces] at decoded
      split at decoded
      case isFalse => cases decoded
      case isTrue enough =>
        obtain ⟨small, rfl⟩ := announces_iff.mp announces
        cases decoded
        have taken : (behind.take length).length = length := List.length_take_of_le enough
        refine ⟨ByteOrder.big.bytes headerSize length ++ behind.take length, behind.drop length,
          encode_eq_ok_iff.mpr (announces_iff.mpr ?_), ?_⟩
        · rw [taken]
          exact ⟨small, rfl⟩
        · rw [List.append_assoc, List.take_append_drop]
  · rintro ⟨frame, rest, encoded, rfl⟩
    obtain ⟨small, rfl⟩ := announces_iff.mp (encode_eq_ok_iff.mp encoded)
    have announces : Announces (ByteOrder.big.bytes headerSize payload.length ++ payload ++ rest)
        payload.length (payload ++ rest) := announces_iff.mpr ⟨small, List.append_assoc ..⟩
    rw [decode_of_announces announces, if_pos (by simp), List.take_left]

/-- Whether bytes are refused because of a length that they do not have: that of the header, or that
of the header with what it announces. -/
inductive Lacks (bytes : List UInt8) : Nat → Prop where
  | header (short : bytes.length < headerSize) : Lacks bytes headerSize
  | payload {length : Nat} {behind : List UInt8} (announces : Announces bytes length behind)
      (short : bytes.length < headerSize + length) : Lacks bytes (headerSize + length)

theorem Lacks.length_lt {expected : Nat} (lacks : Lacks bytes expected) :
    bytes.length < expected := by
  cases lacks with
  | header short => exact short
  | payload announces short => exact short

/-- No length that is asked for exceeds a machine word of 64 bits. -/
theorem Lacks.expected_lt {expected : Nat} (lacks : Lacks bytes expected) : expected < 2 ^ 64 := by
  cases lacks with
  | header short => decide
  | payload announces short =>
      have small := (announces_iff.mp announces).1
      rw [headerSize]
      omega

/-- Bytes are refused exactly for the length that they lack. -/
theorem decode_eq_error_iff :
    decode bytes = .error fault ↔
      ∃ expected, Lacks bytes expected ∧ fault = .truncated expected bytes.length := by
  by_cases short : bytes.length < headerSize
  · rw [decode, if_pos short, Except.error.injEq]
    constructor
    · rintro rfl
      exact ⟨headerSize, .header short, rfl⟩
    · rintro ⟨expected, lacks, rfl⟩
      cases lacks with
      | header => rfl
      | payload announces => exact absurd announces.length_eq (by omega)
  · obtain ⟨length, behind, announces⟩ := exists_announces (Nat.not_lt.mp short)
    have long := announces.length_eq
    rw [decode_of_announces announces]
    constructor
    · intro refused
      split at refused
      case isTrue => cases refused
      case isFalse missing =>
        cases refused
        exact ⟨_, .payload announces (by omega), rfl⟩
    · rintro ⟨expected, lacks, rfl⟩
      cases lacks with
      | header => contradiction
      | @payload other after same missing =>
          -- The header announces one length only.
          obtain ⟨first, second, third, fourth, rfl, rfl⟩ := announces
          obtain ⟨_, _, _, _, ⟨⟩, rfl⟩ := same
          rw [if_neg (by omega)]

/-- Every payload that fits the header is framed and read from its frame with any bytes behind it;
bytes from which a payload is read are its frame with bytes behind it; and bytes that are refused
lack the length that is reported, which is that of the header if they are shorter, and otherwise that
of the header with what it announces. -/
theorem frame_delimits_payload :
    (∀ payload : List UInt8, payload.length < 2 ^ 32 →
      ∃ frame, encode payload = .ok frame ∧ ∀ rest, decode (frame ++ rest) = .ok payload) ∧
    (∀ bytes payload, decode bytes = .ok payload →
      ∃ frame rest, encode payload = .ok frame ∧ bytes = frame ++ rest) ∧
    (∀ bytes fault, decode bytes = .error fault →
      ∃ expected, fault = .truncated expected bytes.length ∧ bytes.length < expected ∧
        expected < 2 ^ 64 ∧ (bytes.length < 4 → expected = 4) ∧
        ∀ first second third fourth behind,
          bytes = first :: second :: third :: fourth :: behind →
            expected = 4 + headerValue first second third fourth) := by
  refine ⟨fun payload small => ?_, fun bytes payload decoded => decode_eq_ok_iff.mp decoded,
    fun bytes fault refused => ?_⟩
  · obtain ⟨frame, encoded⟩ := exists_encode_iff.mpr small
    exact ⟨frame, encoded, fun rest => decode_eq_ok_iff.mpr ⟨frame, rest, encoded, rfl⟩⟩
  · obtain ⟨expected, lacks, rfl⟩ := decode_eq_error_iff.mp refused
    refine ⟨expected, rfl, lacks.length_lt, lacks.expected_lt, ?_, ?_⟩
    · intro short
      cases lacks with
      | header => rfl
      | payload announces => exact absurd announces.length_eq (by rw [headerSize]; omega)
    · rintro first second third fourth behind rfl
      cases lacks with
      | header short => exact absurd short (by simp [headerSize])
      | payload announces =>
          obtain ⟨_, _, _, _, ⟨⟩, rfl⟩ := announces
          rfl

/-- A payload whose length takes two bytes of the header with a byte behind its frame, bytes behind a
payload of two, and bytes that lack most of what they announce. -/
theorem frame_delimits_payload_samples :
    (∃ frame, encode (List.replicate 258 0xAB) = .ok frame ∧
        frame.take headerSize = [0, 0, 1, 2] ∧
        decode (frame ++ [7]) = .ok (List.replicate 258 0xAB)) ∧
      (decode [0, 0, 0, 2, 9, 8, 7, 6] = .ok [9, 8] ∧
        ∃ frame rest, encode [9, 8] = .ok frame ∧ [0, 0, 0, 2, 9, 8, 7, 6] = frame ++ rest) ∧
      (decode [0, 0, 1, 0, 1] = .error (.truncated 260 5) ∧
        ∃ expected, WireError.truncated 260 5 = .truncated expected 5 ∧ 5 < expected ∧
          expected = 4 + headerValue 0 0 1 0) := by
  obtain ⟨encodes, decodes, refuses⟩ := frame_delimits_payload
  refine ⟨?_, ?_, ?_⟩
  · have small : (List.replicate 258 0xAB : List UInt8).length < 2 ^ 32 := by
      rw [List.length_replicate]
      decide
    obtain ⟨frame, encoded, delimited⟩ := encodes _ small
    obtain ⟨-, rfl⟩ := announces_iff.mp (encode_eq_ok_iff.mp encoded)
    refine ⟨_, encoded, ?_, delimited [7]⟩
    rw [List.take_left' (ByteOrder.length_bytes ..), List.length_replicate]
    rfl
  · have decoded : decode [0, 0, 0, 2, 9, 8, 7, 6] = .ok [9, 8] := rfl
    exact ⟨decoded, decodes _ _ decoded⟩
  · have refused : decode [0, 0, 1, 0, 1] = .error (.truncated 260 5) := rfl
    obtain ⟨expected, reported, longer, -, -, announced⟩ := refuses _ _ refused
    exact ⟨refused, expected, reported, longer, announced 0 0 1 0 [1] rfl⟩

end Frame
end ForeignBindings
