/-
# Radius.Sealed -- the Message-Authenticator of a finished request

An Access-Request is sealed over its encoding with the `Message-Authenticator` zeroed, and
the digest is written back into the same attribute.  Zeroing it again gives the packet that
was encoded, so the server computes the same digest over what it receives, and sealing the
request a second time changes nothing.

`built_requests_sealed` puts this beside what the request says: the name, the `State` and
the station it was built for, each once or not at all.
-/
import Authenticator.Radius.Codec
import Authenticator.Radius.Sizes
import Authenticator.Radius.Carried

namespace Authenticator.Radius

set_option autoImplicit false

open Authenticator.Pacp Authenticator.Pae RadiusProto

/-! ## Names -/

/-- Octets that are safe as a `User-Name`: some text in UTF-8 without control characters and
line or paragraph separators. -/
def SafeName (octets : Bytes) : Prop :=
  octets ≠ [] ∧ ∃ text, utf8 text = octets ∧
    ∀ c ∈ text.toList, isControl c = false ∧ c ≠ '\u2028' ∧ c ≠ '\u2029'

/-- A `User-Name` that passes is safe. -/
theorem safeName_of_sanitizeUserName {identity : Bytes} {name : String}
    (passed : sanitizeUserName identity = .ok name) : SafeName identity := by
  have written := utf8_of_sanitizeUserName passed
  unfold sanitizeUserName at passed
  split at passed
  · cases passed
  · rename_i sized
    split at passed
    · cases passed
    · rename_i text read
      split at passed
      · cases passed
      · rename_i clean
        cases passed
        refine ⟨fun empty => sized (Or.inl empty), name, written, fun c member => ?_⟩
        rw [List.any_eq_true, not_exists] at clean
        have plain := clean c
        simpa [member, not_or, and_assoc] using plain

theorem toNat_hexDigit {n : Nat} (small : n < 16) :
    0x30 ≤ (hexDigit n).toNat ∧ (hexDigit n).toNat ≤ 0x46 := by
  revert small
  revert n
  decide

/-- A formatted MAC is printable. -/
theorem toNat_of_mem_formatMac {mac : MacAddr} {c : Char} (member : c ∈ (formatMac mac).toList) :
    0x20 ≤ c.toNat ∧ c.toNat ≤ 0x46 := by
  have octet : ∀ (b : UInt8) (c : Char), c ∈ hexOctet b → 0x20 ≤ c.toNat ∧ c.toNat ≤ 0x46 := by
    intro b c digit
    have byte := b.toNat_lt
    simp only [hexOctet, List.mem_cons, List.not_mem_nil, or_false] at digit
    rcases digit with rfl | rfl
    · have high := toNat_hexDigit (n := b.toNat / 16) (by omega)
      omega
    · have low := toNat_hexDigit (n := b.toNat % 16) (by omega)
      omega
  obtain ⟨m₁, m₂, m₃, m₄, m₅, m₆, -, octets⟩ := mac_eq mac
  have written : (formatMac mac).toList = hexOctet m₁ ++ '-' :: (hexOctet m₂ ++ '-' ::
      (hexOctet m₃ ++ '-' :: (hexOctet m₄ ++ '-' :: (hexOctet m₅ ++ '-' :: hexOctet m₆)))) := by
    simp [formatMac, octets, List.intercalate]
  rw [written] at member
  simp only [List.mem_append, List.mem_cons] at member
  rcases member with digit | rfl | digit | rfl | digit | rfl | digit | rfl | digit | rfl | digit
  all_goals first | exact octet _ c digit | decide

theorem safeName_formatMac (mac : MacAddr) : SafeName (utf8 (formatMac mac)) := by
  refine ⟨?_, formatMac mac, rfl, fun c member => ?_⟩
  · intro empty
    have size := length_formatMac mac
    cases letters : (formatMac mac).toList with
    | nil => simp [letters] at size
    | cons c rest => simp [utf8, letters, String.utf8EncodeChar_ne_nil] at empty
  · obtain ⟨low, high⟩ := toNat_of_mem_formatMac member
    refine ⟨?_, ?_, ?_⟩
    · have printable : ¬ (c.toNat < 0x20 ∨ 0x7F ≤ c.toNat ∧ c.toNat ≤ 0x9F) := by omega
      simpa [isControl] using printable
    · rintro rfl
      revert high
      decide
    · rintro rfl
      revert high
      decide

/-! ## The seal -/

theorem setMessageAuthenticator_twice (packet : Packet) (value other : Bytes) :
    setMessageAuthenticator (setMessageAuthenticator packet other) value =
      setMessageAuthenticator packet value := by
  unfold setMessageAuthenticator
  simp only [List.map_map]
  congr 1
  apply List.map_congr_left
  intro a _
  by_cases here : a.attrType = AttributeType.messageAuthenticator <;> simp [here]

/-- The value is written into every `Message-Authenticator`. -/
theorem ofType_setMessageAuthenticator (packet : Packet) (value : Bytes) :
    (setMessageAuthenticator packet value).ofType AttributeType.messageAuthenticator =
      (packet.ofType AttributeType.messageAuthenticator).map
        fun a => { a with value := value } := by
  unfold setMessageAuthenticator Packet.ofType
  generalize packet.attributes = attributes
  induction attributes with
  | nil => rfl
  | cons a rest ih =>
      by_cases here : a.attrType = AttributeType.messageAuthenticator <;> simp [here, ih]

theorem any_iff_ofType (packet : Packet) (type : UInt8) :
    (packet.attributes.any fun a => a.attrType = type) = true ↔ packet.ofType type ≠ [] := by
  simp [Packet.ofType, List.filter_eq_nil_iff]

section Built

variable [RadiusProto] {packet built request : Packet} {secret : Bytes}

/-- The request has one `Message-Authenticator`, which is the digest of the request with that
attribute zeroed, and sealing it again changes nothing. -/
structure Sealed (secret : Bytes) (p : Packet) : Prop where
  authentic : ∃ encoded value,
    encode (setMessageAuthenticator p (List.replicate 16 0)) = .ok encoded ∧
      value = (calculateMessageAuthenticator encoded secret).toList ∧ value.length = 16 ∧
      p.ofType AttributeType.messageAuthenticator = [⟨AttributeType.messageAuthenticator, value⟩]
  again : sealMessageAuthenticator p secret = .ok p

/-- A packet that has a `Message-Authenticator` is sealed in place. -/
theorem seal_in_place {encoded : Bytes}
    (present : packet.ofType AttributeType.messageAuthenticator ≠ [])
    (coded : encode (setMessageAuthenticator packet (List.replicate 16 0)) = .ok encoded) :
    sealMessageAuthenticator packet secret = .ok
      (setMessageAuthenticator packet (calculateMessageAuthenticator encoded secret).toList) := by
  have placed : withPlaceholder packet = .ok packet := if_pos ((any_iff_ofType _ _).mpr present)
  simp only [sealMessageAuthenticator, placed, except_bind_eq_ok]
  refine ⟨packet, rfl, encoded, ?_, ?_⟩
  · rw [coded]
    rfl
  · rw [setMessageAuthenticator_twice]
    rfl

variable [LawfulRadiusProto]

/-- The placeholder is the one `Message-Authenticator` of a packet that had none. -/
theorem ofType_withPlaceholder (fresh : packet.ofType AttributeType.messageAuthenticator = [])
    (placed : withPlaceholder packet = .ok built) :
    built.ofType AttributeType.messageAuthenticator =
      [⟨AttributeType.messageAuthenticator, List.replicate 16 0⟩] := by
  have absent : ¬ (packet.attributes.any fun a =>
      a.attrType = AttributeType.messageAuthenticator) = true := by
    rw [any_iff_ofType, not_not]
    exact fresh
  rw [withPlaceholder, if_neg absent] at placed
  rw [ofType_push (LawfulRadiusProto.attributeNew_eq _ _) placed, fresh, List.nil_append]

/-- **The seal.**  A packet without a `Message-Authenticator` gets one that checks. -/
theorem sealed_of_seal (fresh : packet.ofType AttributeType.messageAuthenticator = [])
    (done : sealMessageAuthenticator packet secret = .ok built) : Sealed secret built := by
  simp only [sealMessageAuthenticator, except_bind_eq_ok] at done
  obtain ⟨placed, pushed, encoded, coded, written⟩ := done
  have one := ofType_withPlaceholder fresh pushed
  rw [setMessageAuthenticator_twice] at written
  obtain rfl := Except.ok.inj written
  have zeroed : encode (setMessageAuthenticator (setMessageAuthenticator placed
      (calculateMessageAuthenticator encoded secret).toList) (List.replicate 16 0)) =
        .ok encoded := by
    rw [setMessageAuthenticator_twice]
    exact mapError_eq_ok.mp coded
  have single := ofType_setMessageAuthenticator placed
    (calculateMessageAuthenticator encoded secret).toList
  rw [one] at single
  refine ⟨⟨encoded, _, zeroed, rfl, ?_, single⟩, ?_⟩
  · exact Vector.length_toList
  · rw [seal_in_place (by rw [single]; simp) zeroed, setMessageAuthenticator_twice]

/-! ## What a request says -/

/-- The NAS attributes name the station once. -/
theorem ofType_appendNasAttributes {ctx : RequestContext}
    (appended : appendNasAttributes ctx packet = .ok built) :
    built.ofType AttributeType.callingStationId = packet.ofType AttributeType.callingStationId ++
      [⟨AttributeType.callingStationId, utf8 (formatMac ctx.callingStation)⟩] := by
  simp only [appendNasAttributes, except_bind_eq_ok] at appended
  obtain ⟨p₁, ip, p₂, name, p₃, portId, p₄, portType, p₅, port, p₆, calling, called⟩ := appended
  have h₁ : Beside AttributeType.callingStationId packet p₁ :=
    .pushOption (map_ne (attributeIpv4_ne (by decide)) _) ip
  have h₂ : Beside AttributeType.callingStationId p₁ p₂ :=
    .push (attributeString_ne (by decide) _) name
  have h₃ : Beside AttributeType.callingStationId p₂ p₃ :=
    .push (attributeString_ne (by decide) _) portId
  have h₄ : Beside AttributeType.callingStationId p₃ p₄ :=
    .push (attributeInteger_ne (by decide) _) portType
  have h₅ : Beside AttributeType.callingStationId p₄ p₅ :=
    .pushOption (map_ne (attributeInteger_ne (by decide)) _) port
  have h₆ := ofType_push
    (LawfulRadiusProto.attributeString_eq _ (formatMac ctx.callingStation)) calling
  have h₇ : Beside AttributeType.callingStationId p₆ built :=
    .push (attributeString_ne (by decide) _) called
  rw [h₇, h₆, h₅, h₄, h₃, h₂, h₁]

/-- The request says what it was given: the name, which is safe, the `State` and the station,
each once, or not at all where none was given. -/
structure Says (mac : MacAddr) (identity state : Option Bytes) (p : Packet) : Prop where
  userName : p.ofType AttributeType.userName =
    identity.toList.map fun id => ⟨AttributeType.userName, id⟩
  safe : ∀ id, identity = some id → SafeName id
  state : p.ofType AttributeType.state = state.toList.map fun value => ⟨AttributeType.state, value⟩
  station : p.ofType AttributeType.callingStationId =
    [⟨AttributeType.callingStationId, utf8 (formatMac mac)⟩]

variable {ctx : RequestContext} {identifier : UInt8} {authenticator : Auth16}

theorem accessRequestEap_sealed {identity state : Option Bytes} {eap : Bytes}
    (made : accessRequestEap ctx identifier authenticator identity state eap secret = .ok request) :
    Sealed secret request := by
  obtain ⟨-, p₁, name, p₂, service, p₃, echoed, p₄, nas, p₅, fragmented, sealed⟩ :=
    accessRequestEap_eq_ok_iff.mp made
  have h₁ := Beside.pushUserName (by decide : _ ≠ AttributeType.messageAuthenticator) name
  have h₂ : Beside AttributeType.messageAuthenticator p₁ p₂ :=
    .push (attributeInteger_ne (by decide) _) service
  have h₃ : Beside AttributeType.messageAuthenticator p₂ p₃ :=
    .pushOption (map_ne (attributeNew_ne (by decide)) _) echoed
  have h₄ : Beside AttributeType.messageAuthenticator p₃ p₄ := .appendNasAttributes (by decide) nas
  have h₅ : Beside AttributeType.messageAuthenticator p₄ p₅ := .fragmentInto (by decide) fragmented
  have fresh : p₅.ofType AttributeType.messageAuthenticator = [] := by
    rw [h₅, h₄, h₃, h₂, h₁, ofType_packetNew]
  exact sealed_of_seal fresh sealed

theorem accessRequestEap_stations {identity state : Option Bytes} {eap : Bytes}
    (made : accessRequestEap ctx identifier authenticator identity state eap secret = .ok request) :
    request.ofType AttributeType.callingStationId =
      [⟨AttributeType.callingStationId, utf8 (formatMac ctx.callingStation)⟩] := by
  obtain ⟨-, p₁, name, p₂, service, p₃, echoed, p₄, nas, p₅, fragmented, sealed⟩ :=
    accessRequestEap_eq_ok_iff.mp made
  have h₁ := Beside.pushUserName (by decide : _ ≠ AttributeType.callingStationId) name
  have h₂ : Beside AttributeType.callingStationId p₁ p₂ :=
    .push (attributeInteger_ne (by decide) _) service
  have h₃ : Beside AttributeType.callingStationId p₂ p₃ :=
    .pushOption (map_ne (attributeNew_ne (by decide)) _) echoed
  have h₄ := ofType_appendNasAttributes nas
  have h₅ : Beside AttributeType.callingStationId p₄ p₅ := .fragmentInto (by decide) fragmented
  have h₆ : Beside AttributeType.callingStationId p₅ request :=
    .sealMessageAuthenticator (by decide) sealed
  rw [h₆, h₅, h₄, h₃, h₂, h₁, ofType_packetNew, List.nil_append]

theorem accessRequestEap_tells {identity state : Option Bytes} {eap : Bytes}
    (made : accessRequestEap ctx identifier authenticator identity state eap secret = .ok request) :
    Says ctx.callingStation identity state request := by
  refine ⟨accessRequestEap_userNames made, ?_, accessRequestEap_states made,
    accessRequestEap_stations made⟩
  rintro id rfl
  obtain ⟨-, p₁, name, -⟩ := accessRequestEap_eq_ok_iff.mp made
  simp only [pushUserName, except_bind_eq_ok] at name
  obtain ⟨text, passed, -⟩ := name
  exact safeName_of_sanitizeUserName passed

theorem accessRequestMab_sealed
    (made : accessRequestMab ctx identifier authenticator secret = .ok request) :
    Sealed secret request := by
  obtain ⟨p₁, name, p₂, service, p₃, nas, sealed⟩ := accessRequestMab_eq_ok_iff.mp made
  have h₁ : Beside AttributeType.messageAuthenticator _ p₁ :=
    .push (attributeString_ne (by decide) _) name
  have h₂ : Beside AttributeType.messageAuthenticator p₁ p₂ :=
    .push (attributeInteger_ne (by decide) _) service
  have h₃ : Beside AttributeType.messageAuthenticator p₂ p₃ := .appendNasAttributes (by decide) nas
  have fresh : p₃.ofType AttributeType.messageAuthenticator = [] := by
    rw [h₃, h₂, h₁, ofType_packetNew]
  exact sealed_of_seal fresh sealed

theorem accessRequestMab_userNames
    (made : accessRequestMab ctx identifier authenticator secret = .ok request) :
    request.ofType AttributeType.userName =
      [⟨AttributeType.userName, utf8 (formatMac ctx.callingStation)⟩] := by
  obtain ⟨p₁, name, p₂, service, p₃, nas, sealed⟩ := accessRequestMab_eq_ok_iff.mp made
  have h₁ := ofType_push
    (LawfulRadiusProto.attributeString_eq _ (formatMac ctx.callingStation)) name
  have h₂ : Beside AttributeType.userName p₁ p₂ := .push (attributeInteger_ne (by decide) _) service
  have h₃ : Beside AttributeType.userName p₂ p₃ := .appendNasAttributes (by decide) nas
  have h₄ : Beside AttributeType.userName p₃ request :=
    .sealMessageAuthenticator (by decide) sealed
  rw [h₄, h₃, h₂, h₁, ofType_packetNew, List.nil_append]

theorem accessRequestMab_states
    (made : accessRequestMab ctx identifier authenticator secret = .ok request) :
    request.ofType AttributeType.state = [] := by
  obtain ⟨p₁, name, p₂, service, p₃, nas, sealed⟩ := accessRequestMab_eq_ok_iff.mp made
  have h₁ : Beside AttributeType.state _ p₁ := .push (attributeString_ne (by decide) _) name
  have h₂ : Beside AttributeType.state p₁ p₂ := .push (attributeInteger_ne (by decide) _) service
  have h₃ : Beside AttributeType.state p₂ p₃ := .appendNasAttributes (by decide) nas
  have h₄ : Beside AttributeType.state p₃ request := .sealMessageAuthenticator (by decide) sealed
  rw [h₄, h₃, h₂, h₁, ofType_packetNew]

theorem accessRequestMab_stations
    (made : accessRequestMab ctx identifier authenticator secret = .ok request) :
    request.ofType AttributeType.callingStationId =
      [⟨AttributeType.callingStationId, utf8 (formatMac ctx.callingStation)⟩] := by
  obtain ⟨p₁, name, p₂, service, p₃, nas, sealed⟩ := accessRequestMab_eq_ok_iff.mp made
  have h₁ : Beside AttributeType.callingStationId _ p₁ :=
    .push (attributeString_ne (by decide) _) name
  have h₂ : Beside AttributeType.callingStationId p₁ p₂ :=
    .push (attributeInteger_ne (by decide) _) service
  have h₃ := ofType_appendNasAttributes nas
  have h₄ : Beside AttributeType.callingStationId p₃ request :=
    .sealMessageAuthenticator (by decide) sealed
  rw [h₄, h₃, h₂, h₁, ofType_packetNew, List.nil_append]

/-- A bypass request names the station itself. -/
theorem accessRequestMab_tells
    (made : accessRequestMab ctx identifier authenticator secret = .ok request) :
    Says ctx.callingStation (some (utf8 (formatMac ctx.callingStation))) none request := by
  refine ⟨accessRequestMab_userNames made, ?_, accessRequestMab_states made,
    accessRequestMab_stations made⟩
  rintro id ⟨⟩
  exact safeName_formatMac ctx.callingStation

/-- **Every Access-Request built passes the server's check and says what it was given.** -/
theorem built_requests_sealed (ctx : RequestContext) (identifier : UInt8) (authenticator : Auth16)
    (secret : Bytes) :
    (∀ (identity state : Option Bytes) (eap : Bytes) (request : Packet),
      accessRequestEap ctx identifier authenticator identity state eap secret = .ok request →
        Sealed secret request ∧ Says ctx.callingStation identity state request) ∧
      ∀ request : Packet, accessRequestMab ctx identifier authenticator secret = .ok request →
        Sealed secret request ∧
          Says ctx.callingStation (some (utf8 (formatMac ctx.callingStation))) none request := by
  constructor
  · intro identity state eap request made
    exact ⟨accessRequestEap_sealed made, accessRequestEap_tells made⟩
  · intro request made
    exact ⟨accessRequestMab_sealed made, accessRequestMab_tells made⟩

end Built

section Alice

/-- The name alice. -/
def alice : Bytes := [97, 108, 105, 99, 101]

/-- The shared secret radsec. -/
def radsec : Bytes := [114, 97, 100, 115, 101, 99]

def aliceContext : RequestContext :=
  ⟨none, "switch", "Ethernet0", none, Vector.replicate 6 1, Vector.replicate 6 2⟩

/-- The HMAC-MD5 of alice's first request under `radsec`. -/
def aliceDigest : Auth16 :=
  #v[53, 209, 236, 5, 110, 52, 28, 52, 122, 109, 106, 159, 26, 216, 57, 112]

theorem built_requests_sealed_alice :
    let _ := codec ⟨fun _ => aliceDigest, fun _ _ => aliceDigest⟩
    ∃ request, accessRequestEap aliceContext 0 (Vector.replicate 16 7) (some alice) none
        ([2, 0, 0, 10, 1] ++ alice) radsec = .ok request ∧
      Sealed radsec request ∧ Says (Vector.replicate 6 1) (some alice) none request := by
  intro _
  have _ : LawfulRadiusProto := codec_lawful _
  have _ : SizedRadiusProto := codec_sized _
  have named : ∀ id ∈ some alice, Conforms id := by
    rintro id ⟨⟩
    exact ⟨"alice", by decide +kernel⟩
  have builds : ∃ request, accessRequestEap aliceContext 0 (Vector.replicate 16 7) (some alice)
      none ([2, 0, 0, 10, 1] ++ alice) radsec = .ok request :=
    (accessRequestEap_ok_iff ⟨by decide, by decide⟩ (by simp) (by simp) (by decide)).mpr named
  obtain ⟨request, made⟩ := builds
  obtain ⟨checked, told⟩ := (built_requests_sealed aliceContext 0 (Vector.replicate 16 7) radsec).1
    (some alice) none ([2, 0, 0, 10, 1] ++ alice) request made
  exact ⟨request, made, checked, told⟩

end Alice

end Authenticator.Radius
