/-
# Pacp.Eap -- the EAP header view of the pass-through authenticator

Only what the authenticator reads of an EAP packet: the common header, the
method type of a Request or Response, and the identity octets of an
EAP-Response/Identity.  Everything else is relayed verbatim.

`eap_decode_exact` says which octet strings `EapPacket.decode` accepts, what it reads from
them and why it refuses the others.
-/
import Authenticator.Pacp.Ethernet

namespace Authenticator.Pacp

set_option autoImplicit false

inductive EapCode where
  | request
  | response
  | success
  | failure
  | unknown (code : UInt8)
  deriving DecidableEq, Repr

def EapCode.fromU8 : UInt8 → EapCode
  | 1 => .request
  | 2 => .response
  | 3 => .success
  | 4 => .failure
  | other => .unknown other

inductive EapType where
  | identity
  | notification
  | nak
  | tls
  | teap
  | other (value : UInt8)
  deriving DecidableEq, Repr

def EapType.fromU8 : UInt8 → EapType
  | 1 => .identity
  | 2 => .notification
  | 3 => .nak
  | 13 => .tls
  | 55 => .teap
  | value => .other value

/-- EAP-Request/Identity: `Code(1) | Identifier | Length(2) = 5 | Type(1)`. -/
def requestIdentity (identifier : UInt8) : Bytes := [1, identifier, 0, 5, 1]

/-- The errors of the EAP layer of the codec. -/
inductive EapError where
  | truncatedEapHeader (available : Nat)
  | eapLengthMismatch (declared available : Nat)
  | eapTooShort (code : UInt8) (declared : Nat)
  deriving DecidableEq, Repr

structure EapPacket where
  code : EapCode
  identifier : UInt8
  eapType : Option EapType
  typeData : Bytes
  deriving DecidableEq, Repr

/-- `EapPacket::decode`, on the exact EAPOL-EAP body. -/
def EapPacket.decode (buf : Bytes) : Except EapError EapPacket :=
  match buf with
  | codeOctet :: identifier :: lenHi :: lenLo :: rest =>
      let declared := beU16 lenHi lenLo
      if declared ≠ buf.length then
        .error (.eapLengthMismatch declared buf.length)
      else
        let code := EapCode.fromU8 codeOctet
        match code with
        | .request | .response =>
            if declared < 5 then .error (.eapTooShort codeOctet declared)
            else .ok ⟨code, identifier, rest.head?.map EapType.fromU8, rest.tail⟩
        | .success | .failure =>
            if declared ≠ 4 then .error (.eapTooShort codeOctet declared)
            else .ok ⟨code, identifier, none, []⟩
        | .unknown _ =>
            -- No defined body shape; require at least the common header.
            if declared < 4 then .error (.eapTooShort codeOctet declared)
            else .ok ⟨code, identifier, none, []⟩
  | _ => .error (.truncatedEapHeader buf.length)

/-- The identity octets, if this is an EAP-Response/Identity. -/
def EapPacket.identity (p : EapPacket) : Option Bytes :=
  if p.code = .response ∧ p.eapType = some .identity then some p.typeData else none

/-! ## What `decode` accepts -/

/-- Whether a code carries a Type octet. -/
def EapCode.hasType : EapCode → Bool
  | .request | .response => true
  | _ => false

/-- The lengths a code allows. -/
def EapCode.Allows (length : Nat) : EapCode → Prop
  | .request | .response => 5 ≤ length
  | .success | .failure => length = 4
  | .unknown _ => True

instance (length : Nat) : (code : EapCode) → Decidable (code.Allows length)
  | .request | .response => inferInstanceAs (Decidable (5 ≤ length))
  | .success | .failure => inferInstanceAs (Decidable (length = 4))
  | .unknown _ => inferInstanceAs (Decidable True)

/-- `buf.get(start..stop)`: a slice, if it is in bounds. -/
def slice (buf : Bytes) (start stop : Nat) : Option Bytes :=
  if start ≤ stop ∧ stop ≤ buf.length then some ((buf.take stop).drop start) else none

theorem EapCode.fromU8_eq_response_iff {code : UInt8} : fromU8 code = .response ↔ code = 2 := by
  unfold fromU8
  split <;> simp_all

/-- The lengths that the octet of a code allows. -/
theorem EapCode.allows_fromU8_iff {code : UInt8} {length : Nat} :
    (fromU8 code).Allows length ↔
      (code = 1 ∨ code = 2 → 5 ≤ length) ∧ (code = 3 ∨ code = 4 → length = 4) := by
  unfold fromU8
  split <;> simp_all [Allows]

theorem EapCode.hasType_fromU8_iff {code : UInt8} :
    (fromU8 code).hasType = true ↔ code = 1 ∨ code = 2 := by
  unfold fromU8
  split <;> simp_all [hasType]

theorem EapType.fromU8_eq_identity_iff {type : UInt8} : fromU8 type = .identity ↔ type = 1 := by
  unfold fromU8
  split <;> simp_all

namespace EapPacket

/-- The code octet of a packet. -/
def codeOf (buf : Bytes) : UInt8 := buf.getD 0 0

/-- The Length field of a packet. -/
def lengthOf (buf : Bytes) : Nat := beU16 (buf.getD 2 0) (buf.getD 3 0)

/-- What is wrong with a packet, in the order it is tested. -/
def firstViolation (buf : Bytes) : Option EapError :=
  if buf.length < 4 then some (.truncatedEapHeader buf.length)
  else if lengthOf buf ≠ buf.length then some (.eapLengthMismatch (lengthOf buf) buf.length)
  else if ¬ (EapCode.fromU8 (codeOf buf)).Allows (lengthOf buf) then
    some (.eapTooShort (codeOf buf) (lengthOf buf))
  else none

/-- What is read behind the header. -/
def contents (code : EapCode) (identifier : UInt8) (rest : Bytes) : EapPacket :=
  if code.hasType then ⟨code, identifier, rest.head?.map EapType.fromU8, rest.tail⟩
  else ⟨code, identifier, none, []⟩

theorem contents_code (code : EapCode) (identifier : UInt8) (rest : Bytes) :
    (contents code identifier rest).code = code := by
  unfold contents
  split <;> rfl

theorem decode_of_short {buf : Bytes} (short : buf.length < 4) :
    decode buf = .error (.truncatedEapHeader buf.length) := by
  unfold decode
  split
  · simp only [List.length_cons] at short
    omega
  · rfl

theorem header_of_four {buf : Bytes} (four : 4 ≤ buf.length) :
    ∃ code identifier hi lo rest, buf = code :: identifier :: hi :: lo :: rest := by
  match buf, four with
  | code :: identifier :: hi :: lo :: rest, _ => exact ⟨code, identifier, hi, lo, rest, rfl⟩

/-- **`decode` behind the header**, as three tests in a row. -/
theorem decode_of_header (code identifier hi lo : UInt8) (rest : Bytes) :
    decode (code :: identifier :: hi :: lo :: rest) =
      if beU16 hi lo ≠ rest.length + 4 then
        .error (.eapLengthMismatch (beU16 hi lo) (rest.length + 4))
      else if (EapCode.fromU8 code).Allows (beU16 hi lo) then
        .ok (contents (EapCode.fromU8 code) identifier rest)
      else .error (.eapTooShort code (beU16 hi lo)) := by
  by_cases same : beU16 hi lo = rest.length + 4
  · have typed : beU16 hi lo < 5 ↔ ¬ 5 ≤ beU16 hi lo := Nat.not_le.symm
    have whole : beU16 hi lo = (code :: identifier :: hi :: lo :: rest).length := same
    -- a length that agrees with the buffer is at least 4, which is all an unknown code needs
    have header : ¬ beU16 hi lo < 4 := by omega
    simp only [decode]
    rw [if_neg (not_not.mpr whole), if_neg (not_not.mpr same)]
    cases known : EapCode.fromU8 code with
    | request | response =>
        simp only [typed, ite_not]
        rfl
    | success | failure =>
        simp only [ne_eq, ite_not]
        rfl
    | unknown value =>
        rw [if_neg header]
        rfl
  · simp [decode, same]

theorem decode_eq_ok_iff {buf : Bytes} {p : EapPacket} :
    decode buf = .ok p ↔ ∃ code identifier hi lo rest,
      buf = code :: identifier :: hi :: lo :: rest ∧ beU16 hi lo = buf.length ∧
        (EapCode.fromU8 code).Allows buf.length ∧
        p = contents (EapCode.fromU8 code) identifier rest := by
  constructor
  · intro decoded
    by_cases short : buf.length < 4
    · rw [decode_of_short short] at decoded
      cases decoded
    · obtain ⟨code, identifier, hi, lo, rest, rfl⟩ := header_of_four (Nat.le_of_not_lt short)
      rw [decode_of_header] at decoded
      split at decoded
      · cases decoded
      · rename_i same
        rw [not_not] at same
        split at decoded
        · rename_i allowed
          refine ⟨code, identifier, hi, lo, rest, rfl, same, ?_, (Except.ok.inj decoded).symm⟩
          rwa [same] at allowed
        · cases decoded
  · rintro ⟨code, identifier, hi, lo, rest, rfl, same, allowed, rfl⟩
    have size : ¬ beU16 hi lo ≠ rest.length + 4 := not_not.mpr same
    rw [← same] at allowed
    rw [decode_of_header, if_neg size, if_pos allowed]

theorem decode_eq_error_iff {buf : Bytes} {e : EapError} :
    decode buf = .error e ↔ firstViolation buf = some e := by
  unfold firstViolation
  by_cases short : buf.length < 4
  · rw [decode_of_short short, if_pos short]
    simp
  · obtain ⟨code, identifier, hi, lo, rest, rfl⟩ := header_of_four (Nat.le_of_not_lt short)
    have declared : lengthOf (code :: identifier :: hi :: lo :: rest) = beU16 hi lo := rfl
    have octet : codeOf (code :: identifier :: hi :: lo :: rest) = code := rfl
    rw [decode_of_header, if_neg short, declared, octet]
    simp only [List.length_cons]
    split
    · simp
    · split <;> simp_all

/-- A packet with a Type: nothing is missing behind its header. -/
theorem contents_of_typed {code : UInt8} {rest : Bytes} {length : Nat} (identifier : UInt8)
    (typed : (EapCode.fromU8 code).hasType = true) (size : length = rest.length + 4)
    (allowed : (EapCode.fromU8 code).Allows length) :
    ∃ type data, rest = type :: data ∧ contents (EapCode.fromU8 code) identifier rest =
      ⟨EapCode.fromU8 code, identifier, some (EapType.fromU8 type), data⟩ := by
  cases rest with
  | nil =>
      cases known : EapCode.fromU8 code <;> simp_all [EapCode.hasType, EapCode.Allows]
  | cons type data =>
      refine ⟨type, data, rfl, ?_⟩
      rw [contents, if_pos typed]
      rfl

/-- The identity of a packet is what stands behind the Type octet of a Response/Identity. -/
theorem identity_eq_some_iff {buf octets : Bytes} {p : EapPacket} (decoded : decode buf = .ok p) :
    p.identity = some octets ↔
      ∃ identifier hi lo, buf = 2 :: identifier :: hi :: lo :: 1 :: octets := by
  obtain ⟨code, identifier, hi, lo, rest, rfl, same, allowed, rfl⟩ := decode_eq_ok_iff.mp decoded
  constructor
  · intro known
    unfold identity at known
    split at known
    · rename_i response
      have two : code = 2 :=
        EapCode.fromU8_eq_response_iff.mp ((contents_code ..).symm.trans response.1)
      have typed := EapCode.hasType_fromU8_iff.mpr (Or.inr two)
      obtain ⟨type, data, rfl, read⟩ := contents_of_typed identifier typed rfl allowed
      rw [read] at known response
      have one : type = 1 := EapType.fromU8_eq_identity_iff.mp (Option.some.inj response.2)
      rw [two, one, ← Option.some.inj known]
      exact ⟨identifier, hi, lo, rfl⟩
    · cases known
  · rintro ⟨identifier', hi', lo', framed⟩
    simp only [List.cons.injEq] at framed
    obtain ⟨rfl, rfl, rfl, rfl, rfl⟩ := framed
    rfl

theorem decode_accepts_iff (buf : Bytes) :
    (∃ p, decode buf = .ok p) ↔ 4 ≤ buf.length ∧ lengthOf buf = buf.length ∧
      (EapCode.fromU8 (codeOf buf)).Allows (lengthOf buf) := by
  constructor
  · rintro ⟨p, decoded⟩
    obtain ⟨code, identifier, hi, lo, rest, rfl, same, allowed, -⟩ := decode_eq_ok_iff.mp decoded
    have declared : lengthOf (code :: identifier :: hi :: lo :: rest) = beU16 hi lo := rfl
    refine ⟨by simp, declared.trans same, ?_⟩
    rw [declared, same]
    exact allowed
  · rintro ⟨four, same, allowed⟩
    obtain ⟨code, identifier, hi, lo, rest, rfl⟩ := header_of_four four
    rw [same] at allowed
    exact ⟨_, decode_eq_ok_iff.mpr ⟨code, identifier, hi, lo, rest, rfl, same, allowed, rfl⟩⟩

/-- What is read from a Request or Response are its octets, all of them. -/
theorem octets_of_typed {buf : Bytes} {p : EapPacket} (decoded : decode buf = .ok p)
    (typed : codeOf buf = 1 ∨ codeOf buf = 2) :
    ∃ hi lo type, buf = codeOf buf :: p.identifier :: hi :: lo :: type :: p.typeData ∧
      p.eapType = some (EapType.fromU8 type) ∧ beU16 hi lo = p.typeData.length + 5 := by
  obtain ⟨code, identifier, hi, lo, rest, rfl, same, allowed, rfl⟩ := decode_eq_ok_iff.mp decoded
  have carried : (EapCode.fromU8 code).hasType = true := EapCode.hasType_fromU8_iff.mpr typed
  obtain ⟨type, data, rfl, read⟩ := contents_of_typed identifier carried rfl allowed
  rw [read]
  exact ⟨hi, lo, type, rfl, rfl, same⟩

/-- **The EAP header view is exact.**  For every octet string: it is accepted exactly if it
has a header, its Length is its own length, and that is at least 5 for a Request or Response
and 4 for a Success or Failure.  What is read from a Request or Response are its octets, with
no slice out of bounds; the identity is what follows the Type of a Response/Identity.  What is
refused is refused for the first of the tests it fails, and never for the length of a code
that is not known. -/
theorem eap_decode_exact (buf : Bytes) :
    ((∃ p, decode buf = .ok p) ↔ 4 ≤ buf.length ∧ lengthOf buf = buf.length ∧
      (codeOf buf = 1 ∨ codeOf buf = 2 → 5 ≤ lengthOf buf) ∧
      (codeOf buf = 3 ∨ codeOf buf = 4 → lengthOf buf = 4)) ∧
    (∀ p, decode buf = .ok p →
      p.code = EapCode.fromU8 (codeOf buf) ∧
      (codeOf buf = 1 ∨ codeOf buf = 2 → ∃ hi lo type,
        buf = codeOf buf :: p.identifier :: hi :: lo :: type :: p.typeData ∧
          p.eapType = some (EapType.fromU8 type) ∧
          buf[4]? = some type ∧ slice buf 5 (lengthOf buf) = some p.typeData) ∧
      ∀ octets, p.identity = some octets ↔
        ∃ identifier hi lo, buf = 2 :: identifier :: hi :: lo :: 1 :: octets) ∧
    (∀ e, decode buf = .error e ↔ firstViolation buf = some e) ∧
    ∀ code length value, decode buf = .error (.eapTooShort code length) →
      EapCode.fromU8 code ≠ .unknown value := by
  refine ⟨?_, ?_, fun e => decode_eq_error_iff, ?_⟩
  · rw [decode_accepts_iff, EapCode.allows_fromU8_iff]
  · intro p decoded
    refine ⟨?_, ?_, fun octets => identity_eq_some_iff decoded⟩
    · obtain ⟨code, identifier, hi, lo, rest, rfl, -, -, rfl⟩ := decode_eq_ok_iff.mp decoded
      exact contents_code ..
    · intro typed
      obtain ⟨hi, lo, type, framed, read, size⟩ := octets_of_typed decoded typed
      refine ⟨hi, lo, type, framed, read, ?_, ?_⟩
      · rw [framed]
        rfl
      · have declared : lengthOf buf = p.typeData.length + 5 := by
          rw [framed]
          exact size
        rw [declared, framed]
        simp [slice]
  · intro code length value refused unknown
    rw [decode_eq_error_iff] at refused
    unfold firstViolation at refused
    split at refused
    · cases refused
    · split at refused
      · cases refused
      · split at refused
        · rename_i forbidden
          cases refused
          rw [unknown] at forbidden
          exact forbidden trivial
        · cases refused

example : (decode [2, 7, 0, 6, 1, 97]).toOption.bind identity = some [97] ∧
    decode [3, 7, 0, 5, 0] = .error (.eapTooShort 3 5) := by decide

end EapPacket

end Authenticator.Pacp
