/-
# Radius.Carried -- the name, the State and the session id inside a request

Each of the three attributes is pushed at one place of its builder, and no other step adds
or changes one of its type (`Beside`).  So a finished request carries exactly what its
builder was given: the identity as `User-Name`, octet by octet, the `State` that is echoed,
and the `Acct-Session-Id`.
-/
import Authenticator.Radius.EapMessage

namespace Authenticator.Radius

set_option autoImplicit false

open Authenticator.Pacp Authenticator.Pae RadiusProto

/-- A `User-Name` that passes is the identity, octet by octet. -/
theorem utf8_of_sanitizeUserName {identity : Bytes} {name : String}
    (passed : sanitizeUserName identity = .ok name) : utf8 name = identity := by
  unfold sanitizeUserName at passed
  split at passed
  · cases passed
  · split at passed
    · cases passed
    · rename_i text read
      split at passed
      · cases passed
      · cases passed
        exact utf8_of_fromUtf8 read

variable [RadiusProto] [LawfulRadiusProto] {type : UInt8} {packet built request : Packet}

/-- The first attribute of a type. -/
theorem findAttribute_eq_head (packet : Packet) (type : UInt8) :
    findAttribute packet type = (packet.ofType type).head? := by
  rw [LawfulRadiusProto.findAttribute_eq, Packet.ofType, List.head?_filter]

/-- Attributes of a type that is not there yet. -/
theorem ofType_packetNew (code : Code) (identifier : UInt8) (authenticator : Auth16) (type : UInt8) :
    (packetNew code identifier authenticator).ofType type = [] := by
  rw [LawfulRadiusProto.packetNew_eq]
  rfl

/-- An attribute of known content is added behind the others of its type. -/
theorem ofType_push {attr : Except PacketError Attribute} {value : Bytes}
    (known : ∀ a, attr = .ok a → a = ⟨type, value⟩) (pushed : push packet attr = .ok built) :
    built.ofType type = packet.ofType type ++ [⟨type, value⟩] := by
  obtain ⟨a, accepted, rfl⟩ := push_eq_ok pushed
  rw [known a accepted]
  simp [Packet.ofType]

theorem ofType_pushUserName {identity : Option Bytes}
    (pushed : pushUserName packet identity = .ok built) :
    built.ofType AttributeType.userName = packet.ofType AttributeType.userName ++
      identity.toList.map fun id => ⟨AttributeType.userName, id⟩ := by
  cases identity with
  | none =>
      cases pushed
      simp
  | some id =>
      simp only [pushUserName, except_bind_eq_ok] at pushed
      obtain ⟨name, passed, pushed⟩ := pushed
      have added := ofType_push (LawfulRadiusProto.attributeString_eq _ name) pushed
      rwa [utf8_of_sanitizeUserName passed] at added

theorem ofType_echo {state : Option Bytes}
    (pushed : pushOption packet (state.map (attributeNew AttributeType.state)) = .ok built) :
    built.ofType AttributeType.state = packet.ofType AttributeType.state ++
      state.toList.map fun value => ⟨AttributeType.state, value⟩ := by
  cases state with
  | none =>
      cases pushed
      simp
  | some value => exact ofType_push (LawfulRadiusProto.attributeNew_eq _ value) pushed

section Access

variable {ctx : RequestContext} {identifier : UInt8} {authenticator : Auth16}
variable {identity state : Option Bytes} {eap secret : Bytes}

theorem accessRequestEap_userNames
    (made : accessRequestEap ctx identifier authenticator identity state eap secret = .ok request) :
    request.ofType AttributeType.userName =
      identity.toList.map fun id => ⟨AttributeType.userName, id⟩ := by
  obtain ⟨-, p₁, name, p₂, service, p₃, echoed, p₄, nas, p₅, fragmented, sealed⟩ :=
    accessRequestEap_eq_ok_iff.mp made
  have h₁ := ofType_pushUserName name
  have h₂ : Beside AttributeType.userName p₁ p₂ := .push (attributeInteger_ne (by decide) _) service
  have h₃ : Beside AttributeType.userName p₂ p₃ :=
    .pushOption (map_ne (attributeNew_ne (by decide)) _) echoed
  have h₄ : Beside AttributeType.userName p₃ p₄ := .appendNasAttributes (by decide) nas
  have h₅ : Beside AttributeType.userName p₄ p₅ := .fragmentInto (by decide) fragmented
  have h₆ : Beside AttributeType.userName p₅ request :=
    .sealMessageAuthenticator (by decide) sealed
  rw [h₆, h₅, h₄, h₃, h₂, h₁, ofType_packetNew, List.nil_append]

theorem accessRequestEap_states
    (made : accessRequestEap ctx identifier authenticator identity state eap secret = .ok request) :
    request.ofType AttributeType.state =
      state.toList.map fun value => ⟨AttributeType.state, value⟩ := by
  obtain ⟨-, p₁, name, p₂, service, p₃, echoed, p₄, nas, p₅, fragmented, sealed⟩ :=
    accessRequestEap_eq_ok_iff.mp made
  have h₁ := Beside.pushUserName (by decide : _ ≠ AttributeType.state) name
  have h₂ : Beside AttributeType.state p₁ p₂ := .push (attributeInteger_ne (by decide) _) service
  have h₃ := ofType_echo echoed
  have h₄ : Beside AttributeType.state p₃ p₄ := .appendNasAttributes (by decide) nas
  have h₅ : Beside AttributeType.state p₄ p₅ := .fragmentInto (by decide) fragmented
  have h₆ : Beside AttributeType.state p₅ request := .sealMessageAuthenticator (by decide) sealed
  rw [h₆, h₅, h₄, h₃, h₂, h₁, ofType_packetNew, List.nil_append]

/-- **An Access-Request names the identity it was built with**, or nobody. -/
theorem accessRequestEap_userName
    (made : accessRequestEap ctx identifier authenticator identity state eap secret = .ok request) :
    (findAttribute request AttributeType.userName).map Attribute.value = identity := by
  rw [findAttribute_eq_head, accessRequestEap_userNames made]
  cases identity <;> rfl

/-- **An Access-Request echoes the State it was built with**, or none. -/
theorem accessRequestEap_state
    (made : accessRequestEap ctx identifier authenticator identity state eap secret = .ok request) :
    extractState request = state := by
  rw [extractState, findAttribute_eq_head, accessRequestEap_states made]
  cases state <;> rfl

end Access

/-- **An Accounting-Request carries the session id it was built with.** -/
theorem accountingRequest_sessionId {ctx : RequestContext} {identifier : UInt8}
    {trigger : AcctTrigger} {sessionId : String} {cls : Option Bytes} {secret : Bytes}
    (made : accountingRequest ctx identifier trigger sessionId cls secret = .ok request) :
    (findAttribute request AttributeType.acctSessionId).map Attribute.value =
      some (utf8 sessionId) := by
  simp only [accountingRequest, except_bind_eq_ok] at made
  obtain ⟨p₁, status, p₂, named, p₃, nas, p₄, echoed, p₅, stopped, done⟩ := made
  have h₁ : Beside AttributeType.acctSessionId _ p₁ :=
    .push (attributeInteger_ne (by decide) _) status
  have h₂ := ofType_push (LawfulRadiusProto.attributeString_eq _ sessionId) named
  have h₃ : Beside AttributeType.acctSessionId p₂ p₃ := .appendNasAttributes (by decide) nas
  have h₄ : Beside AttributeType.acctSessionId p₃ p₄ :=
    .pushOption (map_ne (attributeNew_ne (by decide)) _) echoed
  have h₅ : Beside AttributeType.acctSessionId p₄ p₅ :=
    .pushOption (map_ne (fun cause => attributeInteger_ne (by decide) (terminateCause cause)) _)
      stopped
  have h₆ : Beside AttributeType.acctSessionId p₅ request := by
    cases done
    rfl
  rw [findAttribute_eq_head, h₆, h₅, h₄, h₃, h₂, h₁, ofType_packetNew]
  rfl

end Authenticator.Radius
