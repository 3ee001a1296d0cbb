/-
# Pacp.Ethernet -- MAC addresses and the Ethernet II header

Octet strings are lists of `UInt8`; a MAC address is six octets.  `formatMac` is
the `AA-BB-CC-DD-EE-FF` string that becomes `Calling-Station-Id`.

A frame from the socket is `dst | src | EtherType | payload`, without the FCS and
possibly padded, so the payload may be longer than the EAPOL PDU in it.
-/
import Mathlib.Data.List.Basic

namespace Authenticator.Pacp

set_option autoImplicit false

abbrev Bytes := List UInt8

/-- A 48-bit MAC address. -/
abbrev MacAddr := Vector UInt8 6

/-- The upper-case hexadecimal digit of a value below 16. -/
def hexDigit (n : Nat) : Char :=
  if n < 10 then Char.ofNat (48 + n) else Char.ofNat (55 + n)

/-- `format!("{b:02X}")`. -/
def hexOctet (b : UInt8) : List Char :=
  [hexDigit (b.toNat / 16), hexDigit (b.toNat % 16)]

/-- A MAC as upper-case hyphen-separated `AA-BB-CC-DD-EE-FF`. -/
def formatMac (mac : MacAddr) : String :=
  String.ofList (List.intercalate ['-'] (mac.toList.map hexOctet))

/-- The UTF-8 octets of a string. -/
def utf8 (s : String) : Bytes := s.toList.flatMap String.utf8EncodeChar

/-- `u16::from_be_bytes`. -/
def beU16 (hi lo : UInt8) : Nat := hi.toNat * 256 + lo.toNat

/-- `u16::to_be_bytes`. -/
def toBeU16 (n : UInt16) : Bytes := [UInt8.ofNat (n.toNat / 256), UInt8.ofNat n.toNat]

/-- The errors of the framing layers of the codec; those of the EAP layer are `EapError`. -/
inductive PacpError where
  | truncatedEthernet (available : Nat)
  | notEapol (ethertype : UInt16)
  | truncatedEapolHeader (available : Nat)
  | truncatedEapolBody (declared available : Nat)
  | bodyTooLong (len : Nat)
  deriving DecidableEq, Repr

/-- `EtherType` for EAPOL. -/
def ethertypeEapol : UInt16 := 0x888E

structure EthernetHeader where
  dst : MacAddr
  src : MacAddr
  ethertype : UInt16
  deriving DecidableEq, Repr

/-- A decoded frame: the header, and what follows it. -/
structure EthernetFrame where
  header : EthernetHeader
  payload : Bytes
  deriving DecidableEq, Repr

namespace EthernetFrame

/-- `ethernet::decode_frame`. -/
def decode (buf : Bytes) : Except PacpError EthernetFrame :=
  match buf with
  | d0 :: d1 :: d2 :: d3 :: d4 :: d5 :: s0 :: s1 :: s2 :: s3 :: s4 :: s5 :: e0 :: e1 :: payload =>
      .ok ⟨⟨#v[d0, d1, d2, d3, d4, d5], #v[s0, s1, s2, s3, s4, s5], UInt16.ofNat (beU16 e0 e1)⟩,
        payload⟩
  | _ => .error (.truncatedEthernet buf.length)

/-- `ethernet::decode_eapol_frame`: the frame must carry EAPOL. -/
def decodeEapol (buf : Bytes) : Except PacpError EthernetFrame := do
  let frame ← decode buf
  if frame.header.ethertype ≠ ethertypeEapol then .error (.notEapol frame.header.ethertype)
  else return frame

end EthernetFrame

/-- `EthernetHeader::encode_into`. -/
def EthernetHeader.encode (h : EthernetHeader) : Bytes :=
  h.dst.toList ++ h.src.toList ++ toBeU16 h.ethertype

/-! ## Two octets, big-endian -/

theorem toBeU16_ofNat (hi lo : UInt8) : toBeU16 (UInt16.ofNat (beU16 hi lo)) = [hi, lo] := by
  have small : beU16 hi lo < 65536 := by
    have := hi.toNat_lt
    have := lo.toNat_lt
    unfold beU16
    omega
  have value : (UInt16.ofNat (beU16 hi lo)).toNat = beU16 hi lo := by
    rw [UInt16.toNat_ofNat', Nat.mod_eq_of_lt small]
  have high : beU16 hi lo / 256 = hi.toNat := by
    have := lo.toNat_lt
    unfold beU16
    omega
  have low : UInt8.ofNat (beU16 hi lo) = lo := by
    apply UInt8.toNat_inj.mp
    have := lo.toNat_lt
    rw [UInt8.toNat_ofNat']
    unfold beU16
    omega
  rw [toBeU16, value, high, low, UInt8.ofNat_toNat]

/-- A number below 2^16 comes back from its two octets. -/
theorem beU16_ofNat {n : Nat} (small : n < 65536) :
    beU16 (UInt8.ofNat (n / 256)) (UInt8.ofNat n) = n := by
  rw [beU16, UInt8.toNat_ofNat', UInt8.toNat_ofNat']
  omega

end Authenticator.Pacp
