/-
# Radius.Request -- building Access-Requests and Accounting-Requests

Each builder starts from an empty packet, pushes its attributes in order and stops
at the first the codec refuses.  An Access-Request is sealed last with its
`Message-Authenticator`; an Accounting-Request gets its authenticator computed over
the zeroed form.

`BuiltFor` is what a finished Access-Request says about its session: the Identifier
and the authenticator it was given, and the supplicant in `Calling-Station-Id`.
-/
import Authenticator.Pae.Effect
import Authenticator.Radius.Proto
import Authenticator.Radius.Utf8

namespace Authenticator.Radius

set_option autoImplicit false

open Authenticator.Pacp Authenticator.Pae RadiusProto

/-- Identity of the NAS and the access port for one supplicant. -/
structure RequestContext where
  nasIp : Option (Vector UInt8 4)
  nasIdentifier : String
  nasPortId : String
  nasPort : Option UInt32
  callingStation : MacAddr
  calledStation : MacAddr
  deriving DecidableEq, Repr

section Code

variable [RadiusProto]

/-- `packet.add_attribute(attribute?)`. -/
def push (packet : Packet) : Except PacketError Attribute → Except RadiusClientError Packet
  | .ok a => .ok (addAttribute packet a)
  | .error e => .error (.proto e)

/-- `if let Some(..) { packet.add_attribute(attribute?) }`. -/
def pushOption (packet : Packet) :
    Option (Except PacketError Attribute) → Except RadiusClientError Packet
  | some attr => push packet attr
  | none => .ok packet

/-- Append the common NAS and port attributes. -/
def appendNasAttributes (ctx : RequestContext) (packet : Packet) :
    Except RadiusClientError Packet := do
  let packet ← pushOption packet (ctx.nasIp.map (attributeIpv4 AttributeType.nasIpAddress))
  let packet ← push packet (attributeString AttributeType.nasIdentifier ctx.nasIdentifier)
  let packet ← push packet (attributeString AttributeType.nasPortId ctx.nasPortId)
  let packet ← push packet (attributeInteger AttributeType.nasPortType nasPortTypeEthernet)
  let packet ← pushOption packet (ctx.nasPort.map (attributeInteger AttributeType.nasPort))
  let packet ← push packet
    (attributeString AttributeType.callingStationId (formatMac ctx.callingStation))
  push packet (attributeString AttributeType.calledStationId (formatMac ctx.calledStation))

/-- `slice::chunks`; the fuel is the length. -/
def chunks (size : Nat) : Nat → Bytes → List Bytes
  | 0, _ => []
  | _, [] => []
  | fuel + 1, octets => octets.take size :: chunks size fuel (octets.drop size)

/-- Split an EAP packet into `EAP-Message` attributes, in order. -/
def fragmentInto (packet : Packet) (eap : Bytes) : Except RadiusClientError Packet :=
  (chunks maxAttrValue eap.length eap).foldlM
    (fun packet chunk => push packet (attributeNew AttributeType.eapMessage chunk)) packet

/-- `char::is_control`: C0, DEL and C1. -/
def isControl (c : Char) : Bool := c.toNat < 0x20 ∨ (0x7F ≤ c.toNat ∧ c.toNat ≤ 0x9F)

/-- Validate an EAP identity and return it as a `User-Name`. -/
def sanitizeUserName (identity : Bytes) : Except RadiusClientError String :=
  if identity = [] ∨ maxAttrValue < identity.length then .error .invalidUserName
  else
    match fromUtf8 identity with
    | none => .error .invalidUserName
    | some text =>
        if text.toList.any fun c => isControl c || c == '\u2028' || c == '\u2029' then
          .error .invalidUserName
        else .ok text

/-- Write a value into every `Message-Authenticator`. -/
def setMessageAuthenticator (packet : Packet) (value : Bytes) : Packet :=
  { packet with attributes := packet.attributes.map fun a =>
      if a.attrType = AttributeType.messageAuthenticator then { a with value := value } else a }

/-- A packet with a `Message-Authenticator` in it, added if there is none. -/
def withPlaceholder (packet : Packet) : Except RadiusClientError Packet :=
  if packet.attributes.any fun a => a.attrType = AttributeType.messageAuthenticator then .ok packet
  else push packet (attributeNew AttributeType.messageAuthenticator (List.replicate 16 0))

/-- Append a `Message-Authenticator`: a zero placeholder, the HMAC over the encoding,
and the HMAC written back. -/
def sealMessageAuthenticator (packet : Packet) (secret : Bytes) :
    Except RadiusClientError Packet := do
  let packet ← withPlaceholder packet
  let zeroed := setMessageAuthenticator packet (List.replicate 16 0)
  let encoded ← (encode zeroed).mapError .proto
  return setMessageAuthenticator zeroed (calculateMessageAuthenticator encoded secret).toList

/-- The `User-Name` of an EAP request, when an identity is known. -/
def pushUserName (packet : Packet) : Option Bytes → Except RadiusClientError Packet
  | some id => do
      let name ← sanitizeUserName id
      push packet (attributeString AttributeType.userName name)
  | none => .ok packet

/-- Build an EAP pass-through Access-Request. -/
def accessRequestEap (ctx : RequestContext) (identifier : UInt8) (requestAuthenticator : Auth16)
    (identity state : Option Bytes) (eap secret : Bytes) : Except RadiusClientError Packet :=
  if eap = [] then .error .emptyEapRelay
  else do
    let packet := packetNew .accessRequest identifier requestAuthenticator
    let packet ← pushUserName packet identity
    let packet ← push packet (attributeInteger AttributeType.serviceType serviceTypeFramed)
    let packet ← pushOption packet (state.map (attributeNew AttributeType.state))
    let packet ← appendNasAttributes ctx packet
    let packet ← fragmentInto packet eap
    sealMessageAuthenticator packet secret

/-- Build a MAC Authentication Bypass Access-Request. -/
def accessRequestMab (ctx : RequestContext) (identifier : UInt8) (requestAuthenticator : Auth16)
    (secret : Bytes) : Except RadiusClientError Packet := do
  let packet := packetNew .accessRequest identifier requestAuthenticator
  let packet ← push packet (attributeString AttributeType.userName (formatMac ctx.callingStation))
  let packet ← push packet (attributeInteger AttributeType.serviceType serviceTypeCallCheck)
  let packet ← appendNasAttributes ctx packet
  sealMessageAuthenticator packet secret

/-- `AcctStatusType::as_u32`. -/
def acctStatus : AcctTrigger → UInt32
  | .start => 1
  | .stop _ => 2

/-- The cause a stop carries. -/
def stopCause : AcctTrigger → Option TerminateCause
  | .start => none
  | .stop cause => some cause

/-- The `Acct-Terminate-Cause` of a PAE cause, coded. -/
def terminateCause : TerminateCause → UInt32
  | .supplicantLogoff => 1
  | .portLinkDown => 2
  | .sessionTimeout => 5
  | .adminReset => 6
  | .reauthFailure => 10

/-- Build an Accounting-Request for a lifecycle trigger. -/
def accountingRequest (ctx : RequestContext) (identifier : UInt8) (trigger : AcctTrigger)
    (sessionId : String) (cls : Option Bytes) (secret : Bytes) :
    Except RadiusClientError Packet := do
  let packet := packetNew .accountingRequest identifier (Vector.replicate 16 0)
  let packet ← push packet (attributeInteger AttributeType.acctStatusType (acctStatus trigger))
  let packet ← push packet (attributeString AttributeType.acctSessionId sessionId)
  let packet ← appendNasAttributes ctx packet
  let packet ← pushOption packet (cls.map (attributeNew AttributeType.class_))
  let packet ← pushOption packet ((stopCause trigger).map fun cause =>
    attributeInteger AttributeType.acctTerminateCause (terminateCause cause))
  return { packet with
    authenticator := calculateAccountingRequestAuthenticator packet secret }

end Code

/-! ## What a finished Access-Request says -/

theorem except_bind_eq_ok {ε α β : Type} {x : Except ε α} {f : α → Except ε β} {b : β} :
    (x >>= f) = .ok b ↔ ∃ a, x = .ok a ∧ f a = .ok b := by
  cases x with
  | error e => simp [bind, Except.bind]
  | ok a => simp [bind, Except.bind]

theorem mapError_eq_ok {ε ε' α : Type} {f : ε → ε'} {x : Except ε α} {a : α} :
    x.mapError f = .ok a ↔ x = .ok a := by
  cases x <;> simp [Except.mapError]

section Steps

variable [RadiusProto] {ctx : RequestContext} {identifier : UInt8} {authenticator : Auth16}

/-- The steps of an EAP request, each from what the one before it left. -/
theorem accessRequestEap_eq_ok_iff {identity state : Option Bytes} {eap secret : Bytes}
    {request : Packet} :
    accessRequestEap ctx identifier authenticator identity state eap secret = .ok request ↔
      eap ≠ [] ∧ ∃ p₁,
        pushUserName (packetNew .accessRequest identifier authenticator) identity = .ok p₁ ∧
      ∃ p₂, push p₁ (attributeInteger AttributeType.serviceType serviceTypeFramed) = .ok p₂ ∧
      ∃ p₃, pushOption p₂ (state.map (attributeNew AttributeType.state)) = .ok p₃ ∧
      ∃ p₄, appendNasAttributes ctx p₃ = .ok p₄ ∧
      ∃ p₅, fragmentInto p₄ eap = .ok p₅ ∧ sealMessageAuthenticator p₅ secret = .ok request := by
  unfold accessRequestEap
  split
  · rename_i empty
    simp [empty]
  · rename_i some
    simp only [except_bind_eq_ok, some, ne_eq, not_false_eq_true, true_and]

/-- The steps of a bypass request. -/
theorem accessRequestMab_eq_ok_iff {secret : Bytes} {request : Packet} :
    accessRequestMab ctx identifier authenticator secret = .ok request ↔
      ∃ p₁, push (packetNew .accessRequest identifier authenticator)
        (attributeString AttributeType.userName (formatMac ctx.callingStation)) = .ok p₁ ∧
      ∃ p₂, push p₁ (attributeInteger AttributeType.serviceType serviceTypeCallCheck) = .ok p₂ ∧
      ∃ p₃, appendNasAttributes ctx p₂ = .ok p₃ ∧
        sealMessageAuthenticator p₃ secret = .ok request := by
  simp only [accessRequestMab, except_bind_eq_ok]

end Steps

section Built

/-- A packet under construction, before and after the supplicant is named in it. -/
inductive Named (identifier : UInt8) (authenticator : Auth16) (mac : MacAddr) :
    Bool → Packet → Prop
  | no (code : Code) (attributes : List Attribute)
      (silent : ∀ a ∈ attributes, a.attrType ≠ AttributeType.callingStationId) :
      Named identifier authenticator mac false ⟨code, identifier, authenticator, attributes⟩
  | yes (code : Code) (attributes : List Attribute)
      (first : (attributes.find? fun a => a.attrType = AttributeType.callingStationId) =
        some ⟨AttributeType.callingStationId, utf8 (formatMac mac)⟩) :
      Named identifier authenticator mac true ⟨code, identifier, authenticator, attributes⟩

variable {identifier : UInt8} {authenticator : Auth16} {mac : MacAddr} {named : Bool}

theorem Named.setMessageAuthenticator {packet : Packet} (value : Bytes)
    (before : Named identifier authenticator mac named packet) :
    Named identifier authenticator mac named (setMessageAuthenticator packet value) := by
  have kept : ∀ a : Attribute, (if a.attrType = AttributeType.messageAuthenticator
      then { a with value := value } else a).attrType = a.attrType := by
    intro a
    split <;> rfl
  cases before with
  | no code attributes silent =>
      refine .no code _ ?_
      intro b member
      obtain ⟨a, inside, rfl⟩ := List.mem_map.mp member
      rw [kept a]
      exact silent a inside
  | yes code attributes first =>
      refine .yes code _ ?_
      rw [List.find?_map]
      have same : ((fun a : Attribute => decide (a.attrType = AttributeType.callingStationId)) ∘
          fun a => if a.attrType = AttributeType.messageAuthenticator
            then { a with value := value } else a) =
          fun a => decide (a.attrType = AttributeType.callingStationId) := by
        funext a
        simp only [Function.comp_apply, kept]
      rw [same, first]
      rfl

/-- An optional attribute of another type. -/
theorem map_ne {α : Type} {build : α → Except PacketError Attribute} {type : UInt8}
    (other : ∀ x a, build x = .ok a → a.attrType ≠ type) (x : Option α) :
    ∀ a, x.map build = some (.ok a) → a.attrType ≠ type := by
  intro a known
  obtain ⟨value, -, built⟩ := Option.map_eq_some_iff.mp known
  exact other value a built

variable [RadiusProto] [LawfulRadiusProto]

theorem push_eq_ok {packet built : Packet} {attr : Except PacketError Attribute}
    (pushed : push packet attr = .ok built) :
    ∃ a, attr = .ok a ∧ built = { packet with attributes := packet.attributes ++ [a] } := by
  cases attr with
  | error e => cases pushed
  | ok a =>
      cases pushed
      exact ⟨a, rfl, LawfulRadiusProto.addAttribute_eq packet a⟩

theorem Named.start (mac : MacAddr) (code : Code) :
    Named identifier authenticator mac false (packetNew code identifier authenticator) := by
  rw [LawfulRadiusProto.packetNew_eq]
  exact .no code [] (by simp)

/-- Pushing an attribute of another type changes nothing. -/
theorem Named.push {packet built : Packet} {attr : Except PacketError Attribute}
    (before : Named identifier authenticator mac named packet)
    (other : ∀ a, attr = .ok a → a.attrType ≠ AttributeType.callingStationId)
    (pushed : push packet attr = .ok built) : Named identifier authenticator mac named built := by
  obtain ⟨a, known, rfl⟩ := push_eq_ok pushed
  cases before with
  | no code attributes silent =>
      refine .no code _ ?_
      intro b member
      rcases List.mem_append.mp member with old | new
      · exact silent b old
      · rw [List.mem_singleton.mp new]
        exact other a known
  | yes code attributes first =>
      refine .yes code _ ?_
      rw [List.find?_append, first]
      rfl

/-- Pushing `Calling-Station-Id` names the supplicant. -/
theorem Named.name {packet built : Packet}
    (before : Named identifier authenticator mac false packet)
    (pushed : Radius.push packet (attributeString AttributeType.callingStationId (formatMac mac)) =
      .ok built) : Named identifier authenticator mac true built := by
  obtain ⟨a, known, rfl⟩ := push_eq_ok pushed
  have same := LawfulRadiusProto.attributeString_eq _ _ _ known
  cases before with
  | no code attributes silent =>
      refine .yes code _ ?_
      have quiet : (attributes.find? fun a => a.attrType = AttributeType.callingStationId) = none := by
        simpa using silent
      rw [List.find?_append, quiet, same]
      rfl

theorem attributeString_ne {t type : UInt8} (other : t ≠ type) (text : String) :
    ∀ a, attributeString t text = .ok a → a.attrType ≠ type := by
  intro a known
  rw [LawfulRadiusProto.attributeString_eq _ _ _ known]
  exact other

theorem attributeNew_ne {t type : UInt8} (other : t ≠ type) (value : Bytes) :
    ∀ a, attributeNew t value = .ok a → a.attrType ≠ type := by
  intro a known
  rw [LawfulRadiusProto.attributeNew_eq _ _ _ known]
  exact other

theorem attributeInteger_ne {t type : UInt8} (other : t ≠ type) (n : UInt32) :
    ∀ a, attributeInteger t n = .ok a → a.attrType ≠ type := by
  intro a known
  rw [LawfulRadiusProto.attributeInteger_type _ _ _ known]
  exact other

theorem attributeIpv4_ne {t type : UInt8} (other : t ≠ type) (ip : Vector UInt8 4) :
    ∀ a, attributeIpv4 t ip = .ok a → a.attrType ≠ type := by
  intro a known
  rw [LawfulRadiusProto.attributeIpv4_type _ _ _ known]
  exact other

theorem Named.pushOption {packet built : Packet} {attr : Option (Except PacketError Attribute)}
    (before : Named identifier authenticator mac named packet)
    (other : ∀ a, attr = some (.ok a) → a.attrType ≠ AttributeType.callingStationId)
    (pushed : pushOption packet attr = .ok built) :
    Named identifier authenticator mac named built := by
  cases attr with
  | none =>
      cases pushed
      exact before
  | some attr => exact before.push (fun a known => other a (by rw [known])) pushed

/-- The NAS attributes name the calling station. -/
theorem Named.appendNasAttributes {ctx : RequestContext} {packet built : Packet}
    (before : Named identifier authenticator ctx.callingStation false packet)
    (appended : appendNasAttributes ctx packet = .ok built) :
    Named identifier authenticator ctx.callingStation true built := by
  simp only [Radius.appendNasAttributes, except_bind_eq_ok] at appended
  obtain ⟨p₁, ip, p₂, name, p₃, portId, p₄, portType, p₅, port, p₆, calling, called⟩ := appended
  have h₁ := before.pushOption (map_ne (attributeIpv4_ne (by decide)) _) ip
  have h₂ := h₁.push (attributeString_ne (by decide) _) name
  have h₃ := h₂.push (attributeString_ne (by decide) _) portId
  have h₄ := h₃.push (attributeInteger_ne (by decide) _) portType
  have h₅ := h₄.pushOption (map_ne (attributeInteger_ne (by decide)) _) port
  exact (h₅.name calling).push (attributeString_ne (by decide) _) called

theorem Named.pushUserName {packet built : Packet} {identity : Option Bytes}
    (before : Named identifier authenticator mac named packet)
    (pushed : pushUserName packet identity = .ok built) :
    Named identifier authenticator mac named built := by
  cases identity with
  | none =>
      cases pushed
      exact before
  | some id =>
      simp only [Radius.pushUserName, except_bind_eq_ok] at pushed
      obtain ⟨name, -, pushed⟩ := pushed
      exact before.push (attributeString_ne (by decide) _) pushed

theorem Named.fragmentInto {packet built : Packet} {eap : Bytes}
    (before : Named identifier authenticator mac named packet)
    (fragmented : fragmentInto packet eap = .ok built) :
    Named identifier authenticator mac named built := by
  unfold Radius.fragmentInto at fragmented
  generalize chunks maxAttrValue eap.length eap = pieces at fragmented
  induction pieces generalizing packet with
  | nil =>
      cases fragmented
      exact before
  | cons piece rest ih =>
      simp only [List.foldlM_cons, except_bind_eq_ok] at fragmented
      obtain ⟨next, pushed, later⟩ := fragmented
      exact ih (before.push (attributeNew_ne (by decide) _) pushed) later

theorem Named.sealMessageAuthenticator {packet built : Packet} {secret : Bytes}
    (before : Named identifier authenticator mac named packet)
    (sealed : sealMessageAuthenticator packet secret = .ok built) :
    Named identifier authenticator mac named built := by
  simp only [Radius.sealMessageAuthenticator, except_bind_eq_ok] at sealed
  obtain ⟨placed, pushed, encoded, -, done⟩ := sealed
  have held : Named identifier authenticator mac named placed := by
    unfold withPlaceholder at pushed
    split at pushed
    · cases pushed
      exact before
    · exact before.push (attributeNew_ne (by decide) _) pushed
  cases done
  exact (held.setMessageAuthenticator _).setMessageAuthenticator _

/-- An Access-Request that carries this Identifier and authenticator, and names this
supplicant in `Calling-Station-Id`. -/
structure BuiltFor (mac : MacAddr) (identifier : UInt8) (authenticator : Auth16)
    (request : Packet) : Prop where
  identifier : request.identifier = identifier
  authenticator : request.authenticator = authenticator
  station : findAttribute request AttributeType.callingStationId =
    some ⟨AttributeType.callingStationId, utf8 (formatMac mac)⟩

theorem Named.builtFor {request : Packet} (held : Named identifier authenticator mac true request) :
    BuiltFor mac identifier authenticator request := by
  cases held with
  | yes code attributes first =>
      refine ⟨rfl, rfl, ?_⟩
      rw [LawfulRadiusProto.findAttribute_eq]
      exact first

theorem accessRequestEap_builtFor {ctx : RequestContext} {identity state : Option Bytes}
    {eap secret : Bytes} {request : Packet}
    (built : accessRequestEap ctx identifier authenticator identity state eap secret = .ok request) :
    BuiltFor ctx.callingStation identifier authenticator request := by
  obtain ⟨-, p₁, name, p₂, service, p₃, echoed, p₄, nas, p₅, fragmented, sealed⟩ :=
    accessRequestEap_eq_ok_iff.mp built
  have h₁ := (Named.start ctx.callingStation .accessRequest).pushUserName name
  have h₂ := h₁.push (attributeInteger_ne (by decide) _) service
  have h₃ := h₂.pushOption (map_ne (attributeNew_ne (by decide)) _) echoed
  exact ((h₃.appendNasAttributes nas).fragmentInto fragmented).sealMessageAuthenticator sealed
    |>.builtFor

theorem accessRequestMab_builtFor {ctx : RequestContext} {secret : Bytes} {request : Packet}
    (built : accessRequestMab ctx identifier authenticator secret = .ok request) :
    BuiltFor ctx.callingStation identifier authenticator request := by
  obtain ⟨p₁, name, p₂, service, p₃, nas, sealed⟩ := accessRequestMab_eq_ok_iff.mp built
  have h₁ := (Named.start ctx.callingStation .accessRequest).push (attributeString_ne (by decide) _) name
  have h₂ := h₁.push (attributeInteger_ne (by decide) _) service
  exact ((h₂.appendNasAttributes nas).sealMessageAuthenticator sealed).builtFor

end Built

end Authenticator.Radius
