/-
# Radius.EapMessage -- the EAP packet inside a request

An EAP packet is cut into `EAP-Message` attributes of at most 253 octets.  No other step of
the builder adds or changes an attribute of that type (`Beside`), so a finished
Access-Request carries the pieces and nothing else: `accessRequestEap_carries`.
-/
import Authenticator.Radius.Reply

namespace Authenticator.Radius

set_option autoImplicit false

open Authenticator.Pacp Authenticator.Pae RadiusProto

/-! ## Pieces -/

theorem flatten_chunks {size : Nat} (positive : 0 < size) {fuel : Nat} {octets : Bytes}
    (enough : octets.length ≤ fuel) : (chunks size fuel octets).flatten = octets := by
  induction fuel generalizing octets with
  | zero => simp [chunks, List.eq_nil_of_length_eq_zero (Nat.le_zero.mp enough)]
  | succ fuel ih =>
      cases octets with
      | nil => rfl
      | cons octet rest =>
          have shorter : ((octet :: rest).drop size).length ≤ fuel := by
            rw [List.length_drop]
            simp only [List.length_cons] at enough ⊢
            omega
          show ((octet :: rest).take size :: chunks size fuel ((octet :: rest).drop size)).flatten = _
          rw [List.flatten_cons, ih shorter, List.take_append_drop]

/-- A piece is not empty and fits. -/
theorem length_of_mem_chunks {size : Nat} (positive : 0 < size) {fuel : Nat} {octets piece : Bytes}
    (member : piece ∈ chunks size fuel octets) : 1 ≤ piece.length ∧ piece.length ≤ size := by
  induction fuel generalizing octets with
  | zero => cases member
  | succ fuel ih =>
      cases octets with
      | nil => cases member
      | cons octet rest =>
          rcases List.mem_cons.mp member with rfl | later
          · rw [List.length_take, List.length_cons]
            omega
          · exact ih later

/-! ## What the builder leaves alone -/

/-- The attributes of a type, in order. -/
def Packet.ofType (packet : Packet) (type : UInt8) : List Attribute :=
  packet.attributes.filter fun a => a.attrType = type

/-- The two packets have the same attributes of a type. -/
def Beside (type : UInt8) (packet built : Packet) : Prop := built.ofType type = packet.ofType type

section Building

variable {type : UInt8} {packet built : Packet}

theorem Beside.setMessageAuthenticator (value : Bytes)
    (other : type ≠ AttributeType.messageAuthenticator) :
    Beside type packet (setMessageAuthenticator packet value) := by
  unfold Beside Packet.ofType Radius.setMessageAuthenticator
  generalize packet.attributes = attributes
  induction attributes with
  | nil => rfl
  | cons a rest ih =>
      rw [List.map_cons, List.filter_cons, List.filter_cons, ih]
      by_cases here : a.attrType = AttributeType.messageAuthenticator
      · have foreign : a.attrType ≠ type := fun same => other (same.symm.trans here)
        simp [here, Ne.symm other]
      · simp [here]

variable [RadiusProto] [LawfulRadiusProto]

theorem Beside.push {attr : Except PacketError Attribute}
    (other : ∀ a, attr = .ok a → a.attrType ≠ type) (pushed : push packet attr = .ok built) :
    Beside type packet built := by
  obtain ⟨a, known, rfl⟩ := push_eq_ok pushed
  simp [Beside, Packet.ofType, other a known]

theorem Beside.pushOption {attr : Option (Except PacketError Attribute)}
    (other : ∀ a, attr = some (.ok a) → a.attrType ≠ type)
    (pushed : pushOption packet attr = .ok built) : Beside type packet built := by
  cases attr with
  | none =>
      cases pushed
      rfl
  | some attr => exact .push (fun a known => other a (by rw [known])) pushed

theorem Beside.pushUserName {identity : Option Bytes} (other : AttributeType.userName ≠ type)
    (pushed : pushUserName packet identity = .ok built) : Beside type packet built := by
  cases identity with
  | none =>
      cases pushed
      rfl
  | some id =>
      simp only [Radius.pushUserName, except_bind_eq_ok] at pushed
      obtain ⟨name, -, pushed⟩ := pushed
      exact .push (attributeString_ne other _) pushed

/-- The types of the NAS attributes. -/
def nasTypes : List UInt8 :=
  [AttributeType.nasIpAddress, AttributeType.nasIdentifier, AttributeType.nasPortId,
    AttributeType.nasPortType, AttributeType.nasPort, AttributeType.callingStationId,
    AttributeType.calledStationId]

theorem Beside.appendNasAttributes {ctx : RequestContext} (other : type ∉ nasTypes)
    (appended : appendNasAttributes ctx packet = .ok built) : Beside type packet built := by
  simp only [Radius.appendNasAttributes, except_bind_eq_ok] at appended
  obtain ⟨p₁, ip, p₂, name, p₃, portId, p₄, portType, p₅, port, p₆, calling, called⟩ := appended
  have foreign : ∀ t ∈ nasTypes, t ≠ type := by
    rintro t member rfl
    exact other member
  have h₁ : Beside type packet p₁ :=
    .pushOption (map_ne (attributeIpv4_ne (foreign _ (by decide))) _) ip
  have h₂ : Beside type p₁ p₂ := .push (attributeString_ne (foreign _ (by decide)) _) name
  have h₃ : Beside type p₂ p₃ := .push (attributeString_ne (foreign _ (by decide)) _) portId
  have h₄ : Beside type p₃ p₄ := .push (attributeInteger_ne (foreign _ (by decide)) _) portType
  have h₅ : Beside type p₄ p₅ :=
    .pushOption (map_ne (attributeInteger_ne (foreign _ (by decide))) _) port
  have h₆ : Beside type p₅ p₆ := .push (attributeString_ne (foreign _ (by decide)) _) calling
  have h₇ : Beside type p₆ built := .push (attributeString_ne (foreign _ (by decide)) _) called
  exact h₇.trans (h₆.trans (h₅.trans (h₄.trans (h₃.trans (h₂.trans h₁)))))

theorem Beside.fragmentInto {eap : Bytes} (other : AttributeType.eapMessage ≠ type)
    (fragmented : fragmentInto packet eap = .ok built) : Beside type packet built := by
  unfold Radius.fragmentInto at fragmented
  generalize chunks maxAttrValue eap.length eap = pieces at fragmented
  induction pieces generalizing packet with
  | nil =>
      cases fragmented
      rfl
  | cons piece rest ih =>
      simp only [List.foldlM_cons, except_bind_eq_ok] at fragmented
      obtain ⟨next, pushed, later⟩ := fragmented
      have first : Beside type packet next := .push (attributeNew_ne other _) pushed
      exact (ih later).trans first

theorem Beside.sealMessageAuthenticator {secret : Bytes}
    (other : type ≠ AttributeType.messageAuthenticator)
    (sealed : sealMessageAuthenticator packet secret = .ok built) : Beside type packet built := by
  simp only [Radius.sealMessageAuthenticator, except_bind_eq_ok] at sealed
  obtain ⟨placed, pushed, encoded, -, done⟩ := sealed
  have held : Beside type packet placed := by
    unfold withPlaceholder at pushed
    split at pushed
    · cases pushed
      rfl
    · exact .push (attributeNew_ne (Ne.symm other) _) pushed
  cases done
  have zeroed : Beside type placed (Radius.setMessageAuthenticator placed (List.replicate 16 0)) :=
    .setMessageAuthenticator _ other
  exact (Beside.setMessageAuthenticator _ other).trans (zeroed.trans held)

/-! ## The pieces of a request -/

/-- Fragmenting adds the pieces, in order. -/
theorem fragmentInto_ofType {eap : Bytes} (fragmented : fragmentInto packet eap = .ok built) :
    built.ofType AttributeType.eapMessage = packet.ofType AttributeType.eapMessage ++
      (chunks maxAttrValue eap.length eap).map fun piece => ⟨AttributeType.eapMessage, piece⟩ := by
  unfold fragmentInto at fragmented
  generalize chunks maxAttrValue eap.length eap = pieces at fragmented ⊢
  induction pieces generalizing packet with
  | nil =>
      cases fragmented
      simp
  | cons piece rest ih =>
      simp only [List.foldlM_cons, except_bind_eq_ok] at fragmented
      obtain ⟨next, pushed, later⟩ := fragmented
      obtain ⟨a, known, rfl⟩ := push_eq_ok pushed
      rw [ih later, LawfulRadiusProto.attributeNew_eq _ _ _ known]
      simp [Packet.ofType]

/-- **An Access-Request carries the EAP packet it was built from**, in pieces of 1 to 253
octets. -/
theorem accessRequestEap_carries [OrderedRadiusProto] {ctx : RequestContext} {identifier : UInt8}
    {authenticator : Auth16} {identity state : Option Bytes} {eap secret : Bytes} {request : Packet}
    (made : accessRequestEap ctx identifier authenticator identity state eap secret = .ok request) :
    reassemble request = eap ∧
      ∀ a ∈ findAllAttributes request AttributeType.eapMessage,
        1 ≤ a.value.length ∧ a.value.length ≤ maxAttrValue := by
  obtain ⟨-, p₁, name, p₂, service, p₃, echoed, p₄, nas, p₅, fragmented, sealed⟩ :=
    accessRequestEap_eq_ok_iff.mp made
  have h₁ : p₁.ofType AttributeType.eapMessage = [] := by
    have named := Beside.pushUserName (by decide : _ ≠ AttributeType.eapMessage) name
    rw [Beside, LawfulRadiusProto.packetNew_eq] at named
    exact named
  have h₂ : Beside AttributeType.eapMessage p₁ p₂ :=
    .push (attributeInteger_ne (by decide) _) service
  have h₃ : Beside AttributeType.eapMessage p₂ p₃ :=
    .pushOption (map_ne (attributeNew_ne (by decide)) _) echoed
  have h₄ : Beside AttributeType.eapMessage p₃ p₄ := .appendNasAttributes (by decide) nas
  have h₅ := fragmentInto_ofType fragmented
  have h₆ : Beside AttributeType.eapMessage p₅ request :=
    .sealMessageAuthenticator (by decide) sealed
  have pieces : findAllAttributes request AttributeType.eapMessage =
      (chunks maxAttrValue eap.length eap).map fun piece => ⟨AttributeType.eapMessage, piece⟩ := by
    rw [OrderedRadiusProto.findAllAttributes_eq]
    exact h₆.trans (h₅.trans (by rw [h₄, h₃, h₂, h₁, List.nil_append]))
  refine ⟨?_, ?_⟩
  · rw [reassemble, pieces, List.flatMap_map, List.flatMap_id']
    exact flatten_chunks (by decide) (Nat.le_refl _)
  · rw [pieces]
    intro a member
    obtain ⟨piece, inside, rfl⟩ := List.mem_map.mp member
    exact length_of_mem_chunks (by decide) inside

end Building

/-! ## The EAP packet of a reply -/

variable [RadiusProto]

/-- A parsed reply brings the concatenation of its `EAP-Message` attributes, if there are
any octets in it. -/
theorem serverEap_of_parseReply {reply : Packet} {event : Event}
    (parsed : parseReply reply = .ok event) : event.serverEap = nonEmpty (reassemble reply) := by
  unfold parseReply at parsed
  split at parsed
  · split at parsed
    · cases parsed
    · rename_i some
      cases parsed
      simp [Event.serverEap, nonEmpty, some]
  · obtain ⟨authorization, -, done⟩ := except_bind_eq_ok.mp parsed
    cases done
    rfl
  · cases parsed
    rfl
  · cases parsed

end Authenticator.Radius
