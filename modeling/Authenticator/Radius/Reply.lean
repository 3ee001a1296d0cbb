/-
# Radius.Reply -- verifying and reading a reply

`verifyReply` binds a reply to the request authenticator; `parseReply` maps it to
the PAE event it drives.  A VLAN is taken only with a well-formed tunnel group.
-/
import Authenticator.Pae.Effect
import Authenticator.Radius.Request

namespace Authenticator.Radius

set_option autoImplicit false

open Authenticator.Pacp Authenticator.Pae RadiusProto

section Code

variable [RadiusProto]

/-- The `Message-Authenticator` is required with an `EAP-Message` and verified
whenever it is there, over the reply with our authenticator in it and the attribute
zeroed. -/
def verifyMessageAuthenticator (reply : Packet) (requestAuthenticator : Auth16)
    (secret : Bytes) : Bool :=
  match findAttribute reply AttributeType.messageAuthenticator with
  | none => (findAttribute reply AttributeType.eapMessage).isNone
  | some attr =>
      if attr.value.length ≠ 16 then false
      else
        match encode (setMessageAuthenticator { reply with authenticator := requestAuthenticator }
            (List.replicate 16 0)) with
        | .error _ => false
        | .ok octets => (calculateMessageAuthenticator octets secret).toList = attr.value

/-- Verify a reply's integrity against the request we sent. -/
def verifyReply (reply : Packet) (requestAuthenticator : Auth16) (secret : Bytes) : Bool :=
  verifyResponseAuthenticator reply requestAuthenticator secret &&
    verifyMessageAuthenticator reply requestAuthenticator secret

/-- The `State` to echo in the next Access-Request. -/
def extractState (reply : Packet) : Option Bytes :=
  (findAttribute reply AttributeType.state).map Attribute.value

/-- Concatenate every `EAP-Message`, in order. -/
def reassemble (packet : Packet) : Bytes :=
  (findAllAttributes packet AttributeType.eapMessage).flatMap Attribute.value

def nonEmpty (octets : Bytes) : Option Bytes := if octets = [] then none else some octets

/-- `u32::from_be_bytes`. -/
def beU32 (a b c d : UInt8) : UInt32 :=
  a.toUInt32 * 0x1000000 + b.toUInt32 * 0x10000 + c.toUInt32 * 0x100 + d.toUInt32

/-- A 4-octet integer attribute. -/
def readU32 (attr : Attribute) : Option UInt32 :=
  match attr.value with
  | [a, b, c, d] => some (beU32 a b c d)
  | _ => none

/-- A tagged integer `[tag, hi, mid, lo]`, without its tag. -/
def readTaggedU32 (attr : Attribute) : Option UInt32 :=
  match attr.value with
  | [_, hi, mid, lo] => some (beU32 0 hi mid lo)
  | _ => none

/-- Drop a leading tag octet. -/
def untagged : Bytes → Bytes
  | tag :: rest => if 0x01 ≤ tag ∧ tag ≤ maxTagOctet then rest else tag :: rest
  | [] => []

/-- Validate the tunnel group and decode the `Tunnel-Private-Group-ID`. -/
def parseVlan (reply : Packet) (groupValue : Bytes) : Except RadiusClientError String :=
  if (findAttribute reply AttributeType.tunnelType).bind readTaggedU32 ≠ some tunnelTypeVlan ∨
      (findAttribute reply AttributeType.tunnelMediumType).bind readTaggedU32 ≠
        some tunnelMedium802 then
    .error .malformedVlanAssignment
  else if untagged groupValue = [] then .error .malformedVlanAssignment
  else .ok (fromUtf8Lossy (untagged groupValue))

/-- The VLAN of a reply, if it assigns one. -/
def assignedVlan (reply : Packet) : Except RadiusClientError (Option String) :=
  match findAttribute reply AttributeType.tunnelPrivateGroupId with
  | some attr => (parseVlan reply attr.value).map some
  | none => .ok none

/-- Extract the authorization parameters. -/
def parseAuthorization (reply : Packet) : Except RadiusClientError Authorization := do
  let vlan ← assignedVlan reply
  return {
    vlan := vlan
    filterId := (findAttribute reply AttributeType.filterId).map fun a => fromUtf8Lossy a.value
    sessionTimeout := (findAttribute reply AttributeType.sessionTimeout).bind readU32
    class_ := (findAttribute reply AttributeType.class_).map Attribute.value }

/-- Map a RADIUS reply to the PAE event it drives. -/
def parseReply (reply : Packet) : Except RadiusClientError Event :=
  match reply.code with
  | .accessChallenge =>
      if reassemble reply = [] then .error .missingEapMessage
      else .ok (.accessChallenge (reassemble reply))
  | .accessAccept => do
      let authorization ← parseAuthorization reply
      return .accessAccept authorization (nonEmpty (reassemble reply))
  | .accessReject => .ok (.accessReject (nonEmpty (reassemble reply)))
  | other => .error (.unexpectedReplyCode other.asU8)

/-! ## What a parsed reply is -/

theorem isReply_of_parseReply {reply : Packet} {event : Event}
    (parsed : parseReply reply = .ok event) : event.IsReply := by
  unfold parseReply at parsed
  split at parsed
  · split at parsed
    · cases parsed
    · cases parsed
      trivial
  · obtain ⟨authorization, -, done⟩ := except_bind_eq_ok.mp parsed
    cases done
    trivial
  · cases parsed
    trivial
  · cases parsed

/-- Only an Access-Challenge becomes a challenge. -/
theorem parseReply_challenge {reply : Packet} {eap : Bytes}
    (parsed : parseReply reply = .ok (.accessChallenge eap)) : reply.code = .accessChallenge := by
  unfold parseReply at parsed
  split at parsed
  · assumption
  · obtain ⟨authorization, -, done⟩ := except_bind_eq_ok.mp parsed
    cases done
  · cases parsed
  · cases parsed

/-- Only an Access-Accept becomes an accept, with exactly what it parses to. -/
theorem parseReply_accept {reply : Packet} {a : Authorization} {eap : Option Bytes}
    (parsed : parseReply reply = .ok (.accessAccept a eap)) :
    reply.code = .accessAccept ∧ parseAuthorization reply = .ok a := by
  unfold parseReply at parsed
  split at parsed
  · split at parsed <;> cases parsed
  · rename_i code
    obtain ⟨authorization, known, done⟩ := except_bind_eq_ok.mp parsed
    cases done
    exact ⟨code, known⟩
  · cases parsed
  · cases parsed

end Code

end Authenticator.Radius
