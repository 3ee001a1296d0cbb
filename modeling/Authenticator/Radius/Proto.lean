/-
# Radius.Proto -- the packet codec the client is built on

The codec is a package of its own, so its operations are a parameter: `RadiusProto`
is the list of functions the client calls.  `LawfulRadiusProto` is what the client
relies on: packets keep what they are given, attributes are appended and found in
order, and an attribute that is accepted holds the value it was built from.

The fields of `Packet` and `Attribute` are public and are read and written directly.
-/
import Mathlib.Algebra.GroupWithZero.Nat
import Authenticator.Pacp.Ethernet

namespace Authenticator.Radius

set_option autoImplicit false

open Authenticator.Pacp

/-- A 16-octet authenticator field. -/
abbrev Auth16 := Vector UInt8 16

inductive Code where
  | accessRequest
  | accessAccept
  | accessReject
  | accountingRequest
  | accessChallenge
  | other (value : UInt8)
  deriving DecidableEq, Repr

def Code.asU8 : Code → UInt8
  | .accessRequest => 1
  | .accessAccept => 2
  | .accessReject => 3
  | .accountingRequest => 4
  | .accessChallenge => 11
  | .other value => value

structure Attribute where
  attrType : UInt8
  value : Bytes
  deriving DecidableEq, Repr

structure Packet where
  code : Code
  identifier : UInt8
  authenticator : Auth16
  attributes : List Attribute
  deriving DecidableEq, Repr

/-- The codec's own error, as its text. -/
abbrev PacketError := String

/-- The codec operations the client calls. -/
class RadiusProto where
  packetNew : Code → UInt8 → Auth16 → Packet
  addAttribute : Packet → Attribute → Packet
  findAttribute : Packet → UInt8 → Option Attribute
  findAllAttributes : Packet → UInt8 → List Attribute
  attributeNew : UInt8 → Bytes → Except PacketError Attribute
  attributeString : UInt8 → String → Except PacketError Attribute
  attributeInteger : UInt8 → UInt32 → Except PacketError Attribute
  attributeIpv4 : UInt8 → Vector UInt8 4 → Except PacketError Attribute
  encode : Packet → Except PacketError Bytes
  calculateMessageAuthenticator : Bytes → Bytes → Auth16
  verifyResponseAuthenticator : Packet → Auth16 → Bytes → Bool
  calculateAccountingRequestAuthenticator : Packet → Bytes → Auth16

/-- What the client relies on. -/
class LawfulRadiusProto [RadiusProto] : Prop where
  packetNew_eq : ∀ code identifier authenticator,
    RadiusProto.packetNew code identifier authenticator = ⟨code, identifier, authenticator, []⟩
  addAttribute_eq : ∀ (p : Packet) a,
    RadiusProto.addAttribute p a = { p with attributes := p.attributes ++ [a] }
  findAttribute_eq : ∀ p t,
    RadiusProto.findAttribute p t = p.attributes.find? fun a => a.attrType = t
  attributeNew_eq : ∀ t value a, RadiusProto.attributeNew t value = .ok a → a = ⟨t, value⟩
  attributeString_eq : ∀ t text a, RadiusProto.attributeString t text = .ok a → a = ⟨t, utf8 text⟩
  attributeInteger_type : ∀ t n a, RadiusProto.attributeInteger t n = .ok a → a.attrType = t
  attributeIpv4_type : ∀ t ip a, RadiusProto.attributeIpv4 t ip = .ok a → a.attrType = t

/-- What the relay of EAP relies on besides: the attributes of a type are found in order. -/
class OrderedRadiusProto [RadiusProto] : Prop where
  findAllAttributes_eq : ∀ (p : Packet) t,
    RadiusProto.findAllAttributes p t = p.attributes.filter fun a => a.attrType = t

/-! ## Attribute types and coded values -/

namespace AttributeType

def userName : UInt8 := 1
def nasIpAddress : UInt8 := 4
def nasPort : UInt8 := 5
def serviceType : UInt8 := 6
def filterId : UInt8 := 11
def state : UInt8 := 24
def class_ : UInt8 := 25
def sessionTimeout : UInt8 := 27
def calledStationId : UInt8 := 30
def callingStationId : UInt8 := 31
def nasIdentifier : UInt8 := 32
def acctStatusType : UInt8 := 40
def acctSessionId : UInt8 := 44
def acctTerminateCause : UInt8 := 49
def nasPortType : UInt8 := 61
def tunnelType : UInt8 := 64
def tunnelMediumType : UInt8 := 65
def eapMessage : UInt8 := 79
def messageAuthenticator : UInt8 := 80
def tunnelPrivateGroupId : UInt8 := 81
def nasPortId : UInt8 := 87

end AttributeType

def tunnelTypeVlan : UInt32 := 13
def tunnelMedium802 : UInt32 := 6
def serviceTypeFramed : UInt32 := 2
def serviceTypeCallCheck : UInt32 := 10
def nasPortTypeEthernet : UInt32 := 15

/-- Largest value an attribute can carry. -/
def maxAttrValue : Nat := 253

/-- Largest packet, in octets. -/
def maxPacketSize : Nat := 4096

/-- What a request that always fits relies on besides: an attribute is refused only for a
value that is too long, and a packet only for its length. -/
class SizedRadiusProto [RadiusProto] : Prop where
  attributeNew_ok : ∀ t value, value.length ≤ maxAttrValue →
    ∃ a, RadiusProto.attributeNew t value = .ok a
  attributeString_ok : ∀ t text, (utf8 text).length ≤ maxAttrValue →
    ∃ a, RadiusProto.attributeString t text = .ok a
  attributeInteger_ok : ∀ t n, ∃ a, RadiusProto.attributeInteger t n = .ok a ∧ a.value.length = 4
  attributeIpv4_ok : ∀ t ip, ∃ a, RadiusProto.attributeIpv4 t ip = .ok a ∧ a.value.length = 4
  encode_ok : ∀ p : Packet,
    20 + (p.attributes.map fun a => 2 + a.value.length).sum ≤ maxPacketSize →
    ∃ octets, RadiusProto.encode p = .ok octets

/-- The octet below which a leading byte of a tagged attribute is a tag. -/
def maxTagOctet : UInt8 := 0x1F

/-- A `radius-client` error. -/
inductive RadiusClientError where
  | proto (e : PacketError)
  | invalidUserName
  | unexpectedReplyCode (code : UInt8)
  | missingEapMessage
  | emptyEapRelay
  | malformedVlanAssignment
  deriving DecidableEq, Repr

end Authenticator.Radius
