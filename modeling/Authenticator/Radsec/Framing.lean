/-
# Radsec.Framing -- packets back to back on one stream

A packet on the TLS stream is delimited by the length in octets 2 to 4 of its own header.
`readPacket` reads the header, checks the length it declares, reads the rest and decodes;
`writePacket` encodes, writes everything and flushes.

`readPacket_reads` says what one call does to any stream.  `framing_delimits` draws the
consequences: packets that were written back to back are read back one a call, nothing beyond
a frame is taken, and a length out of range costs its header and no more.
-/
import Authenticator.Radius.Codec
import Authenticator.Theory.Stream

namespace Authenticator.Radsec

set_option autoImplicit false

open Authenticator.Pacp Authenticator.Radius Authenticator.Theory

/-- The platform's I/O error, as its text. -/
abbrev IoError := String

/-- The errors the framer can give. -/
inductive RadSecError where
  | io (error : IoError)
  | badFrameLength (length : Nat)
  | proto (error : PacketError)
  deriving DecidableEq, Repr

/-- The codec's `Packet::decode`, which the framer calls besides `encode`. -/
class PacketDecode where
  decode : Bytes → Except PacketError Packet

/-- Smallest packet: the header alone. -/
def minRadiusLen : Nat := 20

/-- Largest packet that is accepted. -/
def maxRadiusLen : Nat := maxPacketSize

def headerLen : Nat := 4

/-- The length a header declares. -/
def declaredLength (header : Vector UInt8 headerLen) : Nat := beU16 header[2] header[3]

/-- `usize::checked_sub`. -/
def checkedSub (a b : Nat) : Option Nat := if b ≤ a then some (a - b) else none

section Code

variable {σ τ : Type}

/-- Read one packet: the header, its length, the remainder, and decode. -/
def readPacket [PacketDecode] (reader : Source IoError σ UInt8) : Prog RadSecError σ Packet := do
  let header ← (reader.readExact headerLen).mapError .io
  let len := declaredLength header
  if ¬ (minRadiusLen ≤ len ∧ len ≤ maxRadiusLen) then Prog.fail (.badFrameLength len)
  else
    match checkedSub len headerLen with
    | none => Prog.fail (.badFrameLength len)
    | some bodyLen => do
        let body ← (reader.readExact bodyLen).mapError .io
        Prog.ofExcept ((PacketDecode.decode (header.toList ++ body.toList)).mapError .proto)

/-- Encode a packet, write all of it and flush. -/
def writePacket [RadiusProto] (writer : Sink IoError τ UInt8) (packet : Packet) :
    Prog RadSecError τ Unit := do
  let bytes ← (Prog.ofExcept (RadiusProto.encode packet)).mapError .proto
  (writer.writeAll bytes).mapError .io
  writer.flush.mapError .io

end Code

/-! ## One call on any stream -/

section Read

/-- The length the next frame declares, where its header is there. -/
def frameLength (octets : Bytes) : Nat := beU16 (octets.getD 2 0) (octets.getD 3 0)

/-- The lengths that are accepted. -/
def InRange (length : Nat) : Prop := minRadiusLen ≤ length ∧ length ≤ maxRadiusLen

instance (length : Nat) : Decidable (InRange length) := inferInstanceAs (Decidable (_ ∧ _))

/-- The length is in the header. -/
theorem frameLength_append {octets : Bytes} (long : headerLen ≤ octets.length) (rest : Bytes) :
    frameLength (octets ++ rest) = frameLength octets := by
  have kept : ∀ i < headerLen, (octets ++ rest).getD i 0 = octets.getD i 0 := by
    intro i inside
    rw [List.getD_eq_getElem?_getD, List.getD_eq_getElem?_getD,
      List.getElem?_append_left (by omega)]
  rw [frameLength, kept 2 (by decide), kept 3 (by decide), frameLength]

theorem frameLength_header (header : Vector UInt8 headerLen) :
    frameLength header.toList = declaredLength header := by
  have octet : ∀ (i : Nat) (inside : i < headerLen), header.toList.getD i 0 = header[i] := by
    intro i inside
    rw [List.getD_eq_getElem?_getD, Vector.getElem?_toList, Vector.getElem?_eq_getElem inside]
    rfl
  rw [frameLength, octet 2 (by decide), octet 3 (by decide), declaredLength]

/-- The body of a frame whose length is in range. -/
theorem checkedSub_of_inRange {length : Nat} (inside : InRange length) :
    checkedSub length headerLen = some (length - headerLen) := by
  have fits : headerLen ≤ length := le_trans (by decide) inside.1
  exact if_pos fits

variable {σ : Type} {reader : Source IoError σ UInt8} {r : σ}

/-- A header that is read is the one of the next frame. -/
theorem frameLength_of_read {header : Vector UInt8 headerLen} {t : σ}
    (read : reader.readExact headerLen r = (.ok header, t)) :
    frameLength (reader.unread r) = declaredLength header := by
  have size : headerLen ≤ header.toList.length := Nat.le_of_eq header.length_toList.symm
  rw [reader.taken read, frameLength_append size, frameLength_header]

variable [PacketDecode]

/-- What one call does: the stream ends in the header, its length is refused, the stream ends
in the body, or a whole frame is taken and decoded. -/
inductive Reads (reader : Source IoError σ UInt8) (r : σ) :
    Except RadSecError Packet × σ → Prop
  | ended (r' : σ) (error : IoError) (short : (reader.unread r).length < headerLen) :
      Reads reader r (.error (.io error), r')
  | refused (r' : σ) (header : headerLen ≤ (reader.unread r).length)
      (outside : ¬ InRange (frameLength (reader.unread r)))
      (left : reader.unread r' = (reader.unread r).drop headerLen) :
      Reads reader r (.error (.badFrameLength (frameLength (reader.unread r))), r')
  | truncated (r' : σ) (error : IoError) (header : headerLen ≤ (reader.unread r).length)
      (inside : InRange (frameLength (reader.unread r)))
      (short : (reader.unread r).length < frameLength (reader.unread r)) :
      Reads reader r (.error (.io error), r')
  | framed (r' : σ) (inside : InRange (frameLength (reader.unread r)))
      (whole : frameLength (reader.unread r) ≤ (reader.unread r).length)
      (left : reader.unread r' = (reader.unread r).drop (frameLength (reader.unread r))) :
      Reads reader r ((PacketDecode.decode
        ((reader.unread r).take (frameLength (reader.unread r)))).mapError .proto, r')

/-- A length out of range is refused as soon as the header is read. -/
theorem readPacket_of_outside {header : Vector UInt8 headerLen} {t : σ}
    (read : reader.readExact headerLen r = (.ok header, t))
    (outside : ¬ InRange (declaredLength header)) :
    readPacket reader r = (.error (.badFrameLength (declaredLength header)), t) := by
  rw [readPacket, Prog.bind_ok (Prog.mapError_ok RadSecError.io read)]
  exact congrFun (if_pos outside) t

/-- A length in range is followed by its body. -/
theorem readPacket_of_inRange {header : Vector UInt8 headerLen} {t : σ}
    (read : reader.readExact headerLen r = (.ok header, t))
    (inside : InRange (declaredLength header)) :
    readPacket reader r =
      ((reader.readExact (declaredLength header - headerLen)).mapError .io >>= fun body =>
        Prog.ofExcept
          ((PacketDecode.decode (header.toList ++ body.toList)).mapError .proto)) t := by
  rw [readPacket, Prog.bind_ok (Prog.mapError_ok RadSecError.io read)]
  simp only [checkedSub_of_inRange inside]
  exact congrFun (if_neg (not_not.mpr inside)) t

/-- **One call.** -/
theorem readPacket_reads : Reads reader r (readPacket reader r) := by
  by_cases short : (reader.unread r).length < headerLen
  · obtain ⟨e, r', ended⟩ := reader.read_short short
    rw [readPacket, Prog.bind_error (Prog.mapError_error RadSecError.io ended)]
    exact .ended r' e short
  obtain ⟨header, t, read⟩ := reader.enough (not_lt.mp short)
  have front := reader.taken read
  have size : header.toList.length = headerLen := header.length_toList
  have declared := frameLength_of_read read
  by_cases inside : InRange (declaredLength header)
  · have fits : headerLen ≤ declaredLength header := le_trans (by decide) inside.1
    have total := congrArg List.length front
    rw [List.length_append, size] at total
    rw [readPacket_of_inRange read inside]
    by_cases cut : (reader.unread t).length < declaredLength header - headerLen
    · obtain ⟨e, r', ended⟩ := reader.read_short cut
      rw [Prog.bind_error (Prog.mapError_error RadSecError.io ended)]
      exact .truncated r' e (not_lt.mp short) (declared ▸ inside) (by omega)
    · obtain ⟨body, r', rest⟩ := reader.enough (not_lt.mp cut)
      have frame : (header.toList ++ body.toList).length = frameLength (reader.unread r) := by
        rw [List.length_append, size, body.length_toList]
        omega
      have joined : reader.unread r = (header.toList ++ body.toList) ++ reader.unread r' := by
        rw [front, reader.taken rest, List.append_assoc]
      have taken : (reader.unread r).take (frameLength (reader.unread r)) =
          header.toList ++ body.toList := by
        rw [← frame, joined, List.take_left]
      have left : reader.unread r' = (reader.unread r).drop (frameLength (reader.unread r)) := by
        rw [← frame, joined, List.drop_left]
      rw [Prog.bind_ok (Prog.mapError_ok RadSecError.io rest), ← taken]
      exact .framed r' (declared ▸ inside) (by omega) left
  · rw [readPacket_of_outside read inside, ← declared]
    refine .refused t (not_lt.mp short) (declared ▸ inside) ?_
    rw [front]
    exact (List.drop_left' size).symm

/-- What a packet was read from: one frame, no more and no less. -/
theorem readPacket_consumes {p : Packet} {r' : σ} (read : readPacket reader r = (.ok p, r')) :
    frameLength (reader.unread r) ≤ (reader.unread r).length ∧
      InRange (frameLength (reader.unread r)) ∧
      reader.unread r' = (reader.unread r).drop (frameLength (reader.unread r)) := by
  have call : Reads reader r (readPacket reader r) := readPacket_reads
  rw [read] at call
  generalize outcome : (Except.ok p, r') = result at call
  cases call with
  | ended t e short => cases outcome
  | refused t header outside left => cases outcome
  | truncated t e header inside short => cases outcome
  | framed t inside whole left =>
      obtain ⟨-, rfl⟩ := Prod.mk.inj outcome
      exact ⟨whole, inside, left⟩

/-- A length out of range is refused, and its header is gone. -/
theorem readPacket_refuses {length : Nat} {r' : σ}
    (read : readPacket reader r = (.error (.badFrameLength length), r')) :
    headerLen ≤ (reader.unread r).length ∧ ¬ InRange (frameLength (reader.unread r)) ∧
      length = frameLength (reader.unread r) ∧
      reader.unread r' = (reader.unread r).drop headerLen := by
  have call : Reads reader r (readPacket reader r) := readPacket_reads
  rw [read] at call
  generalize outcome : (Except.error (RadSecError.badFrameLength length), r') = result at call
  cases call with
  | ended t e short => cases outcome
  | refused t header outside left =>
      cases outcome
      exact ⟨header, outside, rfl, left⟩
  | truncated t e header inside short => cases outcome
  | framed t inside whole left =>
      obtain ⟨decoded, -⟩ := Prod.mk.inj outcome
      cases known : PacketDecode.decode
          ((reader.unread r).take (frameLength (reader.unread r))) with
      | ok p =>
          rw [known] at decoded
          cases decoded
      | error e =>
          rw [known] at decoded
          cases decoded

theorem readPacket_refused (header : headerLen ≤ (reader.unread r).length)
    (outside : ¬ InRange (frameLength (reader.unread r))) :
    ∃ n r', readPacket reader r = (.error (.badFrameLength n), r') := by
  obtain ⟨block, t, read⟩ := reader.enough header
  rw [frameLength_of_read read] at outside
  exact ⟨_, t, readPacket_of_outside read outside⟩

end Read

/-! ## Packets back to back -/

section Write

variable [RadiusProto]

/-- The octets of a packet on the stream. -/
def wire (p : Packet) : Bytes :=
  match RadiusProto.encode p with
  | .ok octets => octets
  | .error _ => []

variable {τ : Type} {writer : Sink IoError τ UInt8} {p : Packet} {w w' : τ}

/-- A packet that is written is appended. -/
theorem writePacket_appends (wrote : writePacket writer p w = (.ok (), w')) :
    writer.written w' = writer.written w ++ wire p := by
  obtain ⟨octets, t, coded, rest⟩ := Prog.bind_eq_ok_iff.mp wrote
  obtain ⟨_, t', appended, flushed⟩ := Prog.bind_eq_ok_iff.mp rest
  obtain ⟨known, rfl⟩ := Prod.mk.inj (Prog.mapError_eq_ok_iff.mp coded)
  have encoded : wire p = octets := by
    unfold wire
    rw [known]
  rw [writer.flushed (Prog.mapError_eq_ok_iff.mp flushed),
    writer.appended (Prog.mapError_eq_ok_iff.mp appended), encoded]

theorem writePackets_append {packets : List Packet}
    (wrote : packets.forM (writePacket writer) w = (.ok (), w')) :
    writer.written w' = writer.written w ++ packets.flatMap wire := by
  refine writer.run (fun p _ w w' wrote => ?_) wrote
  exact writePacket_appends wrote

end Write

section Delimited

variable [RadiusProto] [PacketDecode]

/-- What the codec makes of a packet can be framed: it has a valid length, says that length
in its header, and decodes to the packet. -/
def Framed (p : Packet) : Prop :=
  ∃ octets, RadiusProto.encode p = .ok octets ∧ InRange octets.length ∧
    frameLength octets = octets.length ∧ PacketDecode.decode octets = .ok p

theorem Framed.wire {p : Packet} (framed : Framed p) :
    RadiusProto.encode p = .ok (wire p) ∧ InRange (wire p).length ∧
      frameLength (wire p) = (wire p).length ∧ PacketDecode.decode (wire p) = .ok p := by
  obtain ⟨octets, encoded, inside, declared, decoded⟩ := framed
  have known : Radsec.wire p = octets := by
    unfold Radsec.wire
    rw [encoded]
  rw [known]
  exact ⟨encoded, inside, declared, decoded⟩

/-- A buffer takes every packet that can be encoded. -/
theorem writePacket_buffer {p : Packet} {buf : Bytes} (framed : Framed p) :
    writePacket Sink.buffer p buf = (.ok (), buf ++ wire p) := by
  obtain ⟨encoded, -⟩ := framed.wire
  unfold writePacket
  rw [encoded]
  rfl

section Frame

variable {σ : Type} {reader : Source IoError σ UInt8}

/-- A packet at the front of the stream is read, and what follows it is left. -/
theorem readPacket_wire {p : Packet} (framed : Framed p) (r : σ) (suffix : Bytes)
    (front : reader.unread r = wire p ++ suffix) :
    ∃ r', readPacket reader r = (.ok p, r') ∧ reader.unread r' = suffix := by
  obtain ⟨-, inside, declared, decoded⟩ := framed.wire
  have long : headerLen ≤ (wire p).length := le_trans (by decide) inside.1
  have length : frameLength (reader.unread r) = (wire p).length := by
    rw [front, frameLength_append long, declared]
  have call : Reads reader r (readPacket reader r) := readPacket_reads
  generalize outcome : readPacket reader r = result at call
  cases call with
  | ended t e short =>
      rw [front, List.length_append] at short
      omega
  | refused t header outside left =>
      rw [length] at outside
      exact absurd inside outside
  | truncated t e header inside short =>
      rw [length, front, List.length_append] at short
      omega
  | framed t inside whole left =>
      refine ⟨t, ?_, ?_⟩
      · rw [length, front, List.take_left, decoded]
        rfl
      · rw [left, length, front, List.drop_left]

end Frame

/-- **The framing delimits any sequence of packets.**  What was written packet by packet is
read back so, whatever follows it.  On any stream, a packet costs its declared length, and a
length out of range is refused for the price of the header. -/
theorem framing_delimits :
    (∀ packets : List Packet, (∀ p ∈ packets, Framed p) → ∃ stream : Bytes,
      packets.forM (writePacket Sink.buffer) [] = (.ok (), stream) ∧
      (∀ (τ : Type) (writer : Sink IoError τ UInt8) (w w' : τ),
        packets.forM (writePacket writer) w = (.ok (), w') →
          writer.written w' = writer.written w ++ stream) ∧
      ∀ (σ : Type) (reader : Source IoError σ UInt8) (r : σ) (suffix : Bytes),
        reader.unread r = stream ++ suffix →
          ∃ r', (readPacket reader).times packets.length r = (.ok packets, r') ∧
            reader.unread r' = suffix) ∧
    ∀ (σ : Type) (reader : Source IoError σ UInt8) (r : σ),
      (∀ p r', readPacket reader r = (.ok p, r') →
        headerLen ≤ (reader.unread r).length ∧
        frameLength (reader.unread r) ≤ (reader.unread r).length ∧
          reader.unread r' = (reader.unread r).drop (frameLength (reader.unread r))) ∧
      ((∃ n r', readPacket reader r = (.error (.badFrameLength n), r')) ↔
        headerLen ≤ (reader.unread r).length ∧ ¬ InRange (frameLength (reader.unread r))) ∧
      ∀ n r', readPacket reader r = (.error (.badFrameLength n), r') →
        n = frameLength (reader.unread r) ∧
          reader.unread r' = (reader.unread r).drop headerLen := by
  refine ⟨fun packets framed => ?_, fun σ reader r => ⟨?_, ?_, ?_⟩⟩
  · obtain ⟨stream, wrote⟩ : ∃ stream : Bytes,
        packets.forM (writePacket Sink.buffer) [] = (.ok (), stream) :=
      Prog.forM_ok fun p member buf => ⟨_, writePacket_buffer (framed p member)⟩
    have joined : stream = packets.flatMap wire := writePackets_append wrote
    rw [joined] at wrote
    refine ⟨packets.flatMap wire, wrote, ?_, ?_⟩
    · intro τ writer w w' written
      exact writePackets_append written
    · intro σ reader r suffix front
      exact reader.many (fun p member => readPacket_wire (framed p member)) suffix front
  · intro p r' read
    obtain ⟨whole, inside, left⟩ := readPacket_consumes read
    have long : headerLen ≤ frameLength (reader.unread r) := le_trans (by decide) inside.1
    exact ⟨Nat.le_trans long whole, whole, left⟩
  · constructor
    · rintro ⟨n, r', read⟩
      obtain ⟨header, outside, -⟩ := readPacket_refuses read
      exact ⟨header, outside⟩
    · rintro ⟨header, outside⟩
      exact readPacket_refused header outside
  · intro n r' read
    obtain ⟨-, -, length, left⟩ := readPacket_refuses read
    exact ⟨length, left⟩

end Delimited

/-- Every packet the wire format has room for can be framed. -/
theorem framed_of_regular (d : Digests) {p : Packet} (regular : p.Regular) :
    @Framed (codec d) ⟨parse⟩ p := by
  have whole : p.length ≤ 4096 := regular.whole
  refine ⟨p.octets, if_pos regular.whole, ?_, ?_, parse_octets regular⟩
  · rw [p.length_octets]
    exact ⟨Nat.le_add_right _ _, regular.whole⟩
  · rw [p.length_octets]
    exact beU16_ofNat (by omega)

/-- Alice's request, under an Identifier. -/
def samplePacket (identifier : UInt8) : Packet :=
  ⟨.accessRequest, identifier, Vector.replicate 16 0x11,
    [⟨AttributeType.userName, [97, 108, 105, 99, 101]⟩]⟩

/-- Two requests written in a row arrive in three pieces, a stray octet after them. -/
theorem framing_delimits_two :
    let _ := codec ⟨fun _ => Vector.replicate 16 0, fun _ _ => Vector.replicate 16 0⟩
    let _ : PacketDecode := ⟨parse⟩
    let reader : Source IoError (List Bytes) UInt8 := Source.pieces "early eof"
    let packets := [samplePacket 7, samplePacket 8]
    let stream := (samplePacket 7).octets ++ (samplePacket 8).octets
    packets.forM (writePacket Sink.buffer) [] = (.ok (), stream) ∧
      (∃ r', (readPacket reader).times 2
          [stream.take 3, (stream.drop 3).take 30, stream.drop 33 ++ [9]] = (.ok packets, r') ∧
        reader.unread r' = [9]) ∧
      ∃ n r', readPacket reader [[1, 7], [0, 4, 9]] = (.error (.badFrameLength n), r') := by
  intro _ _ reader packets stream
  have framed : ∀ p ∈ packets, Framed p := by
    intro p member
    refine framed_of_regular _ ?_
    simp only [packets, List.mem_cons, List.not_mem_nil, or_false] at member
    rcases member with rfl | rfl
    · exact ⟨by decide, by decide, by decide⟩
    · exact ⟨by decide, by decide, by decide⟩
  obtain ⟨delimited, every⟩ := framing_delimits
  obtain ⟨written, wrote, -, reads⟩ := delimited packets framed
  have known : written = stream := (Prod.mk.inj wrote).2.symm
  rw [known] at wrote reads
  obtain ⟨-, refused, -⟩ := every _ reader [[1, 7], [0, 4, 9]]
  refine ⟨wrote, ?_, refused.mpr ⟨by decide, by decide⟩⟩
  exact reads _ reader _ [9] (by decide)

end Authenticator.Radsec
