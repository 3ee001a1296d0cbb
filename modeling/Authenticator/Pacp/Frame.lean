/-
# Pacp.Frame -- the EAPOL PDU and the one-shot frame codec

The EAPOL PDU is `version | type | length(2) | body`.  Its length field is authoritative:
octets behind the body are padding and are ignored, and a length beyond the buffer is an
error.  `decodeFrame` is the entry point for every frame that comes from the socket.

`frame_codec_exact` says that the codec is exact in both directions: what is encoded is
decoded, under any padding; and a byte string is accepted exactly when its fields fit,
re-encodes to a prefix of itself, and is otherwise refused for the first field that does
not.
-/
import Authenticator.Pacp.Ethernet

namespace Authenticator.Pacp

set_option autoImplicit false

/-- EAPOL packet type; an unassigned octet is kept. -/
inductive PacketType where
  | eap
  | start
  | logoff
  | key
  | encapsulatedAsfAlert
  | mka
  | announcementGeneric
  | announcementSpecific
  | announcementReq
  | unknown (value : UInt8)
  deriving DecidableEq, Repr

namespace PacketType

def toU8 : PacketType → UInt8
  | eap => 0
  | start => 1
  | logoff => 2
  | key => 3
  | encapsulatedAsfAlert => 4
  | mka => 5
  | announcementGeneric => 6
  | announcementSpecific => 7
  | announcementReq => 8
  | unknown value => value

def fromU8 : UInt8 → PacketType
  | 0 => eap
  | 1 => start
  | 2 => logoff
  | 3 => key
  | 4 => encapsulatedAsfAlert
  | 5 => mka
  | 6 => announcementGeneric
  | 7 => announcementSpecific
  | 8 => announcementReq
  | other => unknown other

/-- Not an `Unknown` with an assigned octet. -/
def Canonical (t : PacketType) : Prop := ∀ value, t = unknown value → 8 < value

end PacketType

/-- EAPOL protocol version 3. -/
def protocolVersion2010 : UInt8 := 3

structure EapolPdu where
  version : UInt8
  packetType : PacketType
  body : Bytes
  deriving DecidableEq, Repr

namespace EapolPdu

/-- A PDU with the default protocol version. -/
def new (packetType : PacketType) (body : Bytes) : EapolPdu := ⟨protocolVersion2010, packetType, body⟩

/-- `EapolPdu::decode`, on the Ethernet payload. -/
def decode (buf : Bytes) : Except PacpError EapolPdu :=
  match buf with
  | version :: typeOctet :: lenHi :: lenLo :: rest =>
      let declared := beU16 lenHi lenLo
      if declared ≤ rest.length then .ok ⟨version, .fromU8 typeOctet, rest.take declared⟩
      else .error (.truncatedEapolBody declared (buf.length - 4))
  | _ => .error (.truncatedEapolHeader buf.length)

/-- `EapolPdu::encode`; the body must fit the 16-bit length field. -/
def encode (pdu : EapolPdu) : Except PacpError Bytes :=
  if pdu.body.length < 65536 then
    .ok ([pdu.version, pdu.packetType.toU8] ++ toBeU16 (UInt16.ofNat pdu.body.length) ++ pdu.body)
  else .error (.bodyTooLong pdu.body.length)

/-- `EapolPdu::encode_frame`: the PDU as a full Ethernet frame from `src` to `dst`. -/
def encodeFrame (pdu : EapolPdu) (dst src : MacAddr) : Except PacpError Bytes := do
  let header : EthernetHeader := ⟨dst, src, ethertypeEapol⟩
  let octets ← pdu.encode
  return header.encode ++ octets

end EapolPdu

/-- A decoded inbound frame. -/
structure EapolFrame where
  ethernet : EthernetHeader
  pdu : EapolPdu
  deriving DecidableEq, Repr

/-- `pacp::decode_frame`. -/
def decodeFrame (buf : Bytes) : Except PacpError EapolFrame := do
  let frame ← EthernetFrame.decodeEapol buf
  let pdu ← EapolPdu.decode frame.payload
  return ⟨frame.header, pdu⟩

/-! ## Fields -/

theorem PacketType.toU8_fromU8 (value : UInt8) : (fromU8 value).toU8 = value := by
  unfold fromU8
  split <;> rfl

theorem PacketType.fromU8_toU8 {t : PacketType} (canonical : t.Canonical) : fromU8 t.toU8 = t := by
  cases t with
  | unknown value =>
      have above := canonical value rfl
      show fromU8 value = unknown value
      unfold fromU8
      split <;> first | exact absurd above (by decide) | rfl
  | _ => rfl

/-- Six octets are a MAC address. -/
theorem mac_eq (mac : MacAddr) :
    ∃ a b c d e f, mac = #v[a, b, c, d, e, f] ∧ mac.toList = [a, b, c, d, e, f] := by
  obtain ⟨⟨octets⟩, size⟩ := mac
  match octets, size with
  | [a, b, c, d, e, f], _ => exact ⟨a, b, c, d, e, f, rfl, rfl⟩

/-- The EtherType at octets 12 and 13. -/
def ethertypeOf (buf : Bytes) : UInt16 :=
  UInt16.ofNat (beU16 (buf[12]?.getD 0) (buf[13]?.getD 0))

/-- The body length at octets 16 and 17. -/
def bodyLengthOf (buf : Bytes) : Nat := beU16 (buf[16]?.getD 0) (buf[17]?.getD 0)

theorem ofNat_beU16_eq_eapol {hi lo : UInt8} :
    UInt16.ofNat (beU16 hi lo) = ethertypeEapol ↔ hi = 0x88 ∧ lo = 0x8E := by
  constructor
  · intro same
    have octets := toBeU16_ofNat hi lo
    rw [same] at octets
    have known : toBeU16 ethertypeEapol = [0x88, 0x8E] := by decide
    rw [known] at octets
    cases octets
    exact ⟨rfl, rfl⟩
  · rintro ⟨rfl, rfl⟩
    decide

theorem ethertypeOf_eq_eapol {buf : Bytes} :
    ethertypeOf buf = ethertypeEapol ↔ buf[12]? = some 0x88 ∧ buf[13]? = some 0x8E := by
  rw [ethertypeOf, ofNat_beU16_eq_eapol]
  cases buf[12]? <;> cases buf[13]? <;> simp

/-! ## The shape of a frame -/

/-- A frame that is not too short has a header and a payload. -/
theorem header_of_length {buf : Bytes} (long : 14 ≤ buf.length) :
    ∃ (dst src : MacAddr) (hi lo : UInt8) (payload : Bytes),
      buf = dst.toList ++ src.toList ++ hi :: lo :: payload := by
  match buf, long with
  | d0 :: d1 :: d2 :: d3 :: d4 :: d5 :: s0 :: s1 :: s2 :: s3 :: s4 :: s5 :: e0 :: e1 :: payload, _ =>
      exact ⟨#v[d0, d1, d2, d3, d4, d5], #v[s0, s1, s2, s3, s4, s5], e0, e1, payload, rfl⟩

theorem decodeFrame_short {buf : Bytes} (short : buf.length < 14) :
    decodeFrame buf = .error (.truncatedEthernet buf.length) := by
  have refused : EthernetFrame.decode buf = .error (.truncatedEthernet buf.length) := by
    unfold EthernetFrame.decode
    split
    · simp only [List.length_cons] at short
      omega
    · rfl
  simp [decodeFrame, EthernetFrame.decodeEapol, refused, bind, Except.bind]

/-- What decoding does behind the two addresses. -/
theorem decodeFrame_header (dst src : MacAddr) (hi lo : UInt8) (payload : Bytes) :
    decodeFrame (dst.toList ++ src.toList ++ hi :: lo :: payload) =
      if UInt16.ofNat (beU16 hi lo) ≠ ethertypeEapol then
        .error (.notEapol (UInt16.ofNat (beU16 hi lo)))
      else (EapolPdu.decode payload).map fun pdu => ⟨⟨dst, src, ethertypeEapol⟩, pdu⟩ := by
  obtain ⟨d0, d1, d2, d3, d4, d5, rfl, dstOctets⟩ := mac_eq dst
  obtain ⟨s0, s1, s2, s3, s4, s5, rfl, srcOctets⟩ := mac_eq src
  rw [dstOctets, srcOctets]
  have read : EthernetFrame.decode ([d0, d1, d2, d3, d4, d5] ++ [s0, s1, s2, s3, s4, s5] ++
      hi :: lo :: payload) = .ok ⟨⟨#v[d0, d1, d2, d3, d4, d5], #v[s0, s1, s2, s3, s4, s5],
        UInt16.ofNat (beU16 hi lo)⟩, payload⟩ := rfl
  simp only [decodeFrame, EthernetFrame.decodeEapol, read, bind, Except.bind]
  by_cases eapol : UInt16.ofNat (beU16 hi lo) = ethertypeEapol
  · simp only [eapol, ne_eq, not_true, if_false, pure, Except.pure]
    cases EapolPdu.decode payload <;> rfl
  · simp only [ne_eq, eapol, not_false_iff, if_true]

/-- The fields of a frame, by offset. -/
theorem fields_of_header (dst src : MacAddr) (hi lo : UInt8) (payload : Bytes) :
    ethertypeOf (dst.toList ++ src.toList ++ hi :: lo :: payload) = UInt16.ofNat (beU16 hi lo) ∧
      bodyLengthOf (dst.toList ++ src.toList ++ hi :: lo :: payload) =
        beU16 (payload[2]?.getD 0) (payload[3]?.getD 0) ∧
      (dst.toList ++ src.toList ++ hi :: lo :: payload).length = 14 + payload.length := by
  obtain ⟨d0, d1, d2, d3, d4, d5, rfl, dstOctets⟩ := mac_eq dst
  obtain ⟨s0, s1, s2, s3, s4, s5, rfl, srcOctets⟩ := mac_eq src
  rw [dstOctets, srcOctets]
  refine ⟨rfl, rfl, ?_⟩
  simp only [List.length_append, List.length_cons, List.length_nil]
  omega

/-! ## The PDU -/

namespace EapolPdu

theorem decode_short {buf : Bytes} (short : buf.length < 4) :
    decode buf = .error (.truncatedEapolHeader buf.length) := by
  unfold decode
  split
  · simp only [List.length_cons] at short
    omega
  · rfl

theorem header_of_length {buf : Bytes} (long : 4 ≤ buf.length) :
    ∃ version typeOctet hi lo rest, buf = version :: typeOctet :: hi :: lo :: rest := by
  match buf, long with
  | version :: typeOctet :: hi :: lo :: rest, _ => exact ⟨version, typeOctet, hi, lo, rest, rfl⟩

/-- A PDU that was read is written back as it stood. -/
theorem encode_of_decode {buf : Bytes} {pdu : EapolPdu} (decoded : decode buf = .ok pdu) :
    ∃ octets, pdu.encode = .ok octets ∧ octets <+: buf := by
  unfold decode at decoded
  split at decoded
  · rename_i version typeOctet hi lo rest
    dsimp only at decoded
    split at decoded
    · rename_i fits
      cases decoded
      have declared : (rest.take (beU16 hi lo)).length = beU16 hi lo := by
        rw [List.length_take, Nat.min_eq_left fits]
      have small : beU16 hi lo < 65536 := by
        have := hi.toNat_lt
        have := lo.toNat_lt
        unfold beU16
        omega
      refine ⟨version :: typeOctet :: hi :: lo :: rest.take (beU16 hi lo), ?_, ?_⟩
      · simp only [encode, declared, small, if_true, PacketType.toU8_fromU8, toBeU16_ofNat]
        rfl
      · simpa using List.take_prefix _ _
    · cases decoded
  · cases decoded

/-- A PDU that fits its length field is read back from its octets, whatever follows. -/
theorem decode_encode {pdu : EapolPdu} {octets : Bytes} (canonical : pdu.packetType.Canonical)
    (encoded : pdu.encode = .ok octets) (padding : Bytes) : decode (octets ++ padding) = .ok pdu := by
  unfold encode at encoded
  split at encoded
  · rename_i fits
    cases encoded
    have value : (UInt16.ofNat pdu.body.length).toNat = pdu.body.length := by
      rw [UInt16.toNat_ofNat', Nat.mod_eq_of_lt fits]
    have inside : pdu.body.length ≤ (pdu.body ++ padding).length := by
      rw [List.length_append]
      omega
    simp only [toBeU16, value, List.cons_append, List.nil_append, decode, beU16_ofNat fits, inside,
      if_true, List.take_left, PacketType.fromU8_toU8 canonical]
  · cases encoded

theorem encode_eq_error_iff {pdu : EapolPdu} :
    (∃ e, pdu.encode = .error e) ↔ 65535 < pdu.body.length := by
  unfold encode
  split
  · simp only [reduceCtorEq, exists_false, false_iff]
    omega
  · simp only [Except.error.injEq, exists_eq', true_iff]
    omega

end EapolPdu

/-! ## The frame -/

theorem encodeFrame_eq_error_iff (pdu : EapolPdu) (dst src : MacAddr) :
    (∃ e, pdu.encodeFrame dst src = .error e) ↔ 65535 < pdu.body.length := by
  rw [← EapolPdu.encode_eq_error_iff, EapolPdu.encodeFrame]
  cases pdu.encode <;> simp [bind, Except.bind, pure, Except.pure]

theorem encodeFrame_eq_ok {pdu : EapolPdu} {dst src : MacAddr} {frame : Bytes}
    (encoded : pdu.encodeFrame dst src = .ok frame) :
    ∃ octets, pdu.encode = .ok octets ∧
      frame = dst.toList ++ src.toList ++ 0x88 :: 0x8E :: octets := by
  unfold EapolPdu.encodeFrame at encoded
  cases made : pdu.encode with
  | error e =>
      rw [made] at encoded
      cases encoded
  | ok octets =>
      rw [made] at encoded
      cases encoded
      refine ⟨octets, rfl, ?_⟩
      have known : toBeU16 ethertypeEapol = [0x88, 0x8E] := by decide
      simp [EthernetHeader.encode, known]

/-- What is encoded is decoded, whatever padding follows. -/
theorem decodeFrame_encodeFrame {pdu : EapolPdu} {dst src : MacAddr} {frame : Bytes}
    (canonical : pdu.packetType.Canonical) (encoded : pdu.encodeFrame dst src = .ok frame)
    (padding : Bytes) : decodeFrame (frame ++ padding) = .ok ⟨⟨dst, src, ethertypeEapol⟩, pdu⟩ := by
  obtain ⟨octets, made, rfl⟩ := encodeFrame_eq_ok encoded
  have eapol : UInt16.ofNat (beU16 0x88 0x8E) = ethertypeEapol := ofNat_beU16_eq_eapol.mpr ⟨rfl, rfl⟩
  rw [List.append_assoc, List.cons_append, List.cons_append, decodeFrame_header, if_neg (by simp [eapol]),
    EapolPdu.decode_encode canonical made]
  rfl

/-- What is decoded is encoded to a prefix of what was read. -/
theorem encodeFrame_decodeFrame {buf : Bytes} {f : EapolFrame} (decoded : decodeFrame buf = .ok f) :
    ∃ frame, f.pdu.encodeFrame f.ethernet.dst f.ethernet.src = .ok frame ∧ frame <+: buf := by
  by_cases short : buf.length < 14
  · rw [decodeFrame_short short] at decoded
    cases decoded
  · obtain ⟨dst, src, hi, lo, payload, rfl⟩ := header_of_length (Nat.le_of_not_lt short)
    rw [decodeFrame_header] at decoded
    split at decoded
    · cases decoded
    · rename_i eapol
      obtain ⟨rfl, rfl⟩ := ofNat_beU16_eq_eapol.mp (not_not.mp eapol)
      cases read : EapolPdu.decode payload with
      | error e =>
          rw [read] at decoded
          cases decoded
      | ok pdu =>
          rw [read] at decoded
          cases decoded
          obtain ⟨octets, made, front⟩ := EapolPdu.encode_of_decode read
          refine ⟨dst.toList ++ src.toList ++ 0x88 :: 0x8E :: octets, ?_, ?_⟩
          · have known : toBeU16 ethertypeEapol = [0x88, 0x8E] := by decide
            simp [EapolPdu.encodeFrame, made, bind, Except.bind, pure, Except.pure,
              EthernetHeader.encode, known]
          · exact (List.prefix_append_right_inj _).mpr (by simpa using front)

/-- The body of a frame came in it. -/
theorem length_body_le {buf : Bytes} {f : EapolFrame} (decoded : decodeFrame buf = .ok f) :
    f.pdu.body.length ≤ buf.length := by
  obtain ⟨frame, encoded, inside⟩ := encodeFrame_decodeFrame decoded
  obtain ⟨octets, made, rfl⟩ := encodeFrame_eq_ok encoded
  unfold EapolPdu.encode at made
  split at made
  · cases made
    have whole := inside.length_le
    simp only [List.length_append, List.length_cons] at whole
    omega
  · cases made

/-- The first field of a frame that does not fit. -/
def firstViolation (buf : Bytes) : Option PacpError :=
  if buf.length < 14 then some (.truncatedEthernet buf.length)
  else if ethertypeOf buf ≠ ethertypeEapol then some (.notEapol (ethertypeOf buf))
  else if buf.length < 18 then some (.truncatedEapolHeader (buf.length - 14))
  else if buf.length < 18 + bodyLengthOf buf then
    some (.truncatedEapolBody (bodyLengthOf buf) (buf.length - 18))
  else none

theorem decodeFrame_eq_error_iff {buf : Bytes} {e : PacpError} :
    decodeFrame buf = .error e ↔ firstViolation buf = some e := by
  unfold firstViolation
  by_cases short : buf.length < 14
  · simp [short, decodeFrame_short short]
  · obtain ⟨dst, src, hi, lo, payload, rfl⟩ := header_of_length (Nat.le_of_not_lt short)
    obtain ⟨ethertype, bodyLength, length⟩ := fields_of_header dst src hi lo payload
    have headed : ¬ 14 + payload.length < 14 := by omega
    rw [decodeFrame_header, ethertype, bodyLength, length, if_neg headed]
    by_cases eapol : UInt16.ofNat (beU16 hi lo) = ethertypeEapol
    · rw [if_neg (not_not.mpr eapol), if_neg (not_not.mpr eapol)]
      by_cases headless : payload.length < 4
      · rw [EapolPdu.decode_short headless, if_pos (by omega)]
        simp [Except.map]
      · obtain ⟨version, typeOctet, lenHi, lenLo, rest, rfl⟩ :=
          EapolPdu.header_of_length (Nat.le_of_not_lt headless)
        simp only [List.length_cons] at headless ⊢
        rw [if_neg (by omega)]
        by_cases fits : beU16 lenHi lenLo ≤ rest.length
        · have room : ¬ (14 + (rest.length + 1 + 1 + 1 + 1) < 18 + beU16 lenHi lenLo) := by omega
          simp [EapolPdu.decode, fits, Except.map, room]
        · have beyond : 14 + (rest.length + 1 + 1 + 1 + 1) < 18 + beU16 lenHi lenLo := by omega
          have left : 14 + (rest.length + 1 + 1 + 1 + 1) - 18 = rest.length := by omega
          simp [EapolPdu.decode, fits, Except.map, beyond, left]
    · rw [if_pos eapol, if_pos eapol]
      simp

theorem decodeFrame_eq_ok_iff {buf : Bytes} :
    (∃ f, decodeFrame buf = .ok f) ↔ 18 ≤ buf.length ∧ buf[12]? = some 0x88 ∧
      buf[13]? = some 0x8E ∧ 18 + bodyLengthOf buf ≤ buf.length := by
  have accepted : (∃ f, decodeFrame buf = .ok f) ↔ firstViolation buf = none := by
    rw [Option.eq_none_iff_forall_ne_some]
    constructor
    · rintro ⟨f, decoded⟩ e violated
      rw [decodeFrame_eq_error_iff.mpr violated] at decoded
      cases decoded
    · intro clean
      cases decoded : decodeFrame buf with
      | ok f => exact ⟨f, rfl⟩
      | error e => exact absurd (decodeFrame_eq_error_iff.mp decoded) (clean e)
  rw [accepted, ← and_assoc (a := buf[12]? = _), ← ethertypeOf_eq_eapol]
  unfold firstViolation
  split
  · simp
    omega
  · split
    · rename_i other
      simp [other]
    · rename_i eapol
      split
      · simp
        omega
      · split
        · simp
          omega
        · simp [not_not.mp eapol]
          omega

/-- **The EAPOL frame codec is exact**, in both directions. -/
theorem frame_codec_exact :
    (∀ (pdu : EapolPdu) (dst src : MacAddr), pdu.packetType.Canonical →
      ((∃ e, pdu.encodeFrame dst src = .error e) ↔ 65535 < pdu.body.length) ∧
      ∀ frame, pdu.encodeFrame dst src = .ok frame → ∀ padding,
        decodeFrame (frame ++ padding) = .ok ⟨⟨dst, src, 0x888E⟩, pdu⟩) ∧
    ∀ buf : Bytes,
      ((∃ f, decodeFrame buf = .ok f) ↔ 18 ≤ buf.length ∧ buf[12]? = some 0x88 ∧
        buf[13]? = some 0x8E ∧ 18 + bodyLengthOf buf ≤ buf.length) ∧
      (∀ f, decodeFrame buf = .ok f →
        ∃ frame, f.pdu.encodeFrame f.ethernet.dst f.ethernet.src = .ok frame ∧ frame <+: buf) ∧
      ∀ e, decodeFrame buf = .error e ↔ firstViolation buf = some e := by
  refine ⟨?_, ?_⟩
  · intro pdu dst src canonical
    refine ⟨encodeFrame_eq_error_iff pdu dst src, ?_⟩
    intro frame encoded padding
    exact decodeFrame_encodeFrame canonical encoded padding
  · intro buf
    refine ⟨decodeFrame_eq_ok_iff, ?_, fun e => decodeFrame_eq_error_iff⟩
    intro f decoded
    exact encodeFrame_decodeFrame decoded

/-- An EAPOL-Start, padded to the length of a short frame, is read back. -/
theorem frame_codec_exact_start :
    (EapolPdu.new .start []).encodeFrame (Vector.replicate 6 1) (Vector.replicate 6 2) =
        .ok [1, 1, 1, 1, 1, 1, 2, 2, 2, 2, 2, 2, 0x88, 0x8E, 3, 1, 0, 0] ∧
      decodeFrame ([1, 1, 1, 1, 1, 1, 2, 2, 2, 2, 2, 2, 0x88, 0x8E, 3, 1, 0, 0] ++
        List.replicate 42 0) =
          .ok ⟨⟨Vector.replicate 6 1, Vector.replicate 6 2, 0x888E⟩, EapolPdu.new .start []⟩ := by
  have encoded : (EapolPdu.new .start []).encodeFrame (Vector.replicate 6 1)
      (Vector.replicate 6 2) =
        .ok [1, 1, 1, 1, 1, 1, 2, 2, 2, 2, 2, 2, 0x88, 0x8E, 3, 1, 0, 0] := by
    decide
  have canonical : (EapolPdu.new .start []).packetType.Canonical := by
    intro value same
    cases same
  exact ⟨encoded, (frame_codec_exact.1 _ _ _ canonical).2 _ encoded _⟩

end Authenticator.Pacp
