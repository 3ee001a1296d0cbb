/-
# Authd.Worker -- frames in and frames out

The worker of a port binds the orchestrator to the wire.  `dispatchFrame` decodes what the
socket received: a frame that is not well formed, or is no part of the pass-through, is
ignored, and any other becomes one event of its source MAC.  `eapolSupplicant` frames an EAP
packet in EAPOL and sends it out the port.
-/
import Authenticator.Pacp.Frame
import Authenticator.Authd.Run

namespace Authenticator.Authd

set_option autoImplicit false

open Authenticator.Pacp Authenticator.Pae Authenticator.Radius Authenticator.Theory

/-- `IFNAMSIZ`: the socket opens on an interface whose name is shorter. -/
def ifNameSize : Nat := 16

/-- `FRAME_CAP`: the most the socket reads of a frame. -/
def frameCap : Nat := 1600

section Code

variable {ω : Type}

/-- `EapolSupplicant::send_eap`, over a socket. -/
def eapolSupplicant (send : Bytes → Prog AuthdError ω Unit) (src mac : MacAddr) (eap : Bytes) :
    Prog AuthdError ω Unit := do
  let frame ← Prog.ofExcept (((EapolPdu.new .eap eap).encodeFrame mac src).mapError fun _ => .frame)
  send frame

/-- The event a frame becomes, with its source. -/
def frameEvent (bytes : Bytes) : Option (MacAddr × Event) :=
  match decodeFrame bytes with
  | .error _ => none
  | .ok frame =>
      match frame.pdu.packetType with
      | .start => some (frame.ethernet.src, .eapolStart)
      | .logoff => some (frame.ethernet.src, .eapolLogoff)
      | .eap =>
          match EapPacket.decode frame.pdu.body with
          | .error _ => none
          | .ok eap => some (frame.ethernet.src, .eapFromSupplicant
              ⟨eap.code, eap.identifier, eap.eapType, frame.pdu.body⟩)
      | _ => none

variable [RadiusProto] (deps : Deps ω)

/-- Decode one inbound frame and feed it through. -/
def dispatchFrame (bytes : Bytes) : Prog AuthdError (World ω) Unit :=
  match frameEvent bytes with
  | none => pure ()
  | some (mac, event) => handleEvent deps mac event

end Code

/-! ## Frames out -/

section Out

variable {ω : Type} (send : Bytes → Prog AuthdError ω Unit) (src mac : MacAddr) (eap : Bytes)

/-- **The frame sent for an EAP packet is read back as that packet**, from this port to that
supplicant. -/
theorem eapolSupplicant_sends (fits : eap.length ≤ 65535) :
    ∃ frame, (∀ env, eapolSupplicant send src mac eap env = send frame env) ∧
      decodeFrame frame = .ok ⟨⟨mac, src, ethertypeEapol⟩, EapolPdu.new .eap eap⟩ := by
  cases made : (EapolPdu.new .eap eap).encodeFrame mac src with
  | error e =>
      have long := (encodeFrame_eq_error_iff _ mac src).mp ⟨e, made⟩
      exact absurd long (Nat.not_lt.mpr fits)
  | ok frame =>
      have canonical : (EapolPdu.new .eap eap).packetType.Canonical := by
        intro value same
        cases same
      refine ⟨frame, fun env => ?_, ?_⟩
      · simp [eapolSupplicant, made, Except.mapError, Prog.ofExcept, Prog.bind_apply]
      · have read := decodeFrame_encodeFrame canonical made []
        rwa [List.append_nil] at read

/-- A packet that does not fit a frame is not sent. -/
theorem eapolSupplicant_refuses (long : 65535 < eap.length) (env : ω) :
    eapolSupplicant send src mac eap env = (.error .frame, env) := by
  obtain ⟨e, made⟩ := (encodeFrame_eq_error_iff (EapolPdu.new .eap eap) mac src).mpr long
  simp [eapolSupplicant, made, Except.mapError, Prog.ofExcept, Prog.bind_apply]

end Out

/-! ## Frames in -/

/-- A frame that carries a well-formed EAP packet becomes that packet. -/
theorem frameEvent_eap {bytes : Bytes} {frame : EapolFrame} {eap : EapPacket}
    (decoded : decodeFrame bytes = .ok frame) (isEap : frame.pdu.packetType = .eap)
    (wellFormed : EapPacket.decode frame.pdu.body = .ok eap) :
    frameEvent bytes = some (frame.ethernet.src, .eapFromSupplicant
      ⟨eap.code, eap.identifier, eap.eapType, frame.pdu.body⟩) := by
  simp only [frameEvent, decoded, isEap, wellFormed]

/-- The EAP packet of a frame came in it, and is not empty. -/
theorem length_of_frameEvent {bytes : Bytes} {mac : MacAddr} {eap : InboundEap}
    (became : frameEvent bytes = some (mac, .eapFromSupplicant eap)) :
    eap.packet ≠ [] ∧ eap.packet.length ≤ bytes.length := by
  unfold frameEvent at became
  split at became
  · cases became
  · rename_i frame decoded
    split at became
    · cases became
    · cases became
    · split at became
      · cases became
      · rename_i packet wellFormed
        cases became
        refine ⟨?_, length_body_le decoded⟩
        intro empty
        have empty : frame.pdu.body = [] := empty
        rw [empty] at wellFormed
        cases wellFormed
    · cases became

/-- **The rule for the environment of one frame.** -/
theorem dispatchFrame_env {ω : Type} [RadiusProto] {deps : Deps ω} {I : ω → Prop}
    (keeps : deps.Keeps I) (bytes : Bytes) {w : World ω} (held : I w.env) :
    I (dispatchFrame deps bytes w).2.env := by
  unfold dispatchFrame
  cases frameEvent bytes with
  | none => exact held
  | some input =>
      obtain ⟨mac, event⟩ := input
      exact handleEvent_env keeps mac event held

/-- What a frame can become. -/
theorem event_of_frame {bytes : Bytes} {mac : MacAddr} {event : Event}
    (became : frameEvent bytes = some (mac, event)) :
    event = .eapolStart ∨ event = .eapolLogoff ∨ ∃ eap, event = .eapFromSupplicant eap := by
  unfold frameEvent at became
  split at became
  · cases became
  · split at became
    · cases became
      exact Or.inl rfl
    · cases became
      exact Or.inr (Or.inl rfl)
    · split at became
      · cases became
      · cases became
        exact Or.inr (Or.inr ⟨_, rfl⟩)
    · cases became

end Authenticator.Authd
