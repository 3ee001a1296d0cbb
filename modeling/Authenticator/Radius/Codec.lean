/-
# Radius.Codec -- a codec that keeps the laws

The wire format of a RADIUS packet over any two digests: `codec` appends and finds
attributes in order, refuses a value that does not fit one, encodes the header and the
attributes, and computes the authenticators over that encoding.  `codec_lawful`,
`codec_ordered` and `codec_sized` say that what the client relies on can be had.

`parse` reads that format back, and gives the packet again for everything a packet can hold.
-/
import Authenticator.Radius.Proto

namespace Authenticator.Radius

set_option autoImplicit false

open Authenticator.Pacp

/-- The digests a codec is built on: the digest of octets, and one keyed by a secret. -/
structure Digests where
  digest : Bytes → Auth16
  keyed : Bytes → Bytes → Auth16

/-- An attribute, if its value fits. -/
def fitted (attrType : UInt8) (value : Bytes) : Except PacketError Attribute :=
  if value.length ≤ maxAttrValue then .ok ⟨attrType, value⟩ else .error "attribute too long"

/-- `u32::to_be_bytes`. -/
def toBeBytes (n : UInt32) : Bytes :=
  [(n >>> 24).toUInt8, (n >>> 16).toUInt8, (n >>> 8).toUInt8, n.toUInt8]

/-- Type, length and value. -/
def Attribute.octets (a : Attribute) : Bytes :=
  a.attrType :: UInt8.ofNat (a.value.length + 2) :: a.value

def Packet.length (p : Packet) : Nat := 20 + (p.attributes.flatMap Attribute.octets).length

/-- Code, Identifier, length and authenticator, then the attributes. -/
def Packet.octets (p : Packet) : Bytes :=
  p.code.asU8 :: p.identifier :: UInt8.ofNat (p.length / 256) :: UInt8.ofNat p.length ::
    p.authenticator.toList ++ p.attributes.flatMap Attribute.octets

@[reducible] def codec (d : Digests) : RadiusProto where
  packetNew code identifier authenticator := ⟨code, identifier, authenticator, []⟩
  addAttribute p a := { p with attributes := p.attributes ++ [a] }
  findAttribute p t := p.attributes.find? fun a => a.attrType = t
  findAllAttributes p t := p.attributes.filter fun a => a.attrType = t
  attributeNew := fitted
  attributeString t text := fitted t (utf8 text)
  attributeInteger t n := fitted t (toBeBytes n)
  attributeIpv4 t ip := fitted t ip.toList
  encode p := if p.length ≤ maxPacketSize then .ok p.octets else .error "packet too long"
  calculateMessageAuthenticator octets secret := d.keyed secret octets
  verifyResponseAuthenticator reply requestAuthenticator secret :=
    d.digest ({ reply with authenticator := requestAuthenticator }.octets ++ secret) =
      reply.authenticator
  calculateAccountingRequestAuthenticator p secret :=
    d.digest ({ p with authenticator := Vector.replicate 16 0 }.octets ++ secret)

theorem fitted_eq {t : UInt8} {value : Bytes} {a : Attribute} (fits : fitted t value = .ok a) :
    a = ⟨t, value⟩ := by
  unfold fitted at fits
  split at fits
  · cases fits
    rfl
  · cases fits

theorem codec_lawful (d : Digests) : @LawfulRadiusProto (codec d) := by
  let _ := codec d
  constructor
  · intro code identifier authenticator
    rfl
  · intro p a
    rfl
  · intro p t
    rfl
  · intro t value a fits
    exact fitted_eq fits
  · intro t text a fits
    exact fitted_eq fits
  · intro t n a fits
    rw [fitted_eq fits]
  · intro t ip a fits
    rw [fitted_eq fits]

theorem fitted_ok {t : UInt8} {value : Bytes} (fits : value.length ≤ maxAttrValue) :
    fitted t value = .ok ⟨t, value⟩ := if_pos fits

theorem codec_sized (d : Digests) : @SizedRadiusProto (codec d) := by
  let _ := codec d
  constructor
  · intro t value fits
    exact ⟨_, fitted_ok fits⟩
  · intro t text fits
    exact ⟨_, fitted_ok fits⟩
  · intro t n
    have four : (toBeBytes n).length = 4 := rfl
    exact ⟨_, fitted_ok (by rw [four]; decide), four⟩
  · intro t ip
    have four : ip.toList.length = 4 := ip.length_toList
    exact ⟨_, fitted_ok (by rw [four]; decide), four⟩
  · intro p fits
    have length : p.length = 20 + (p.attributes.map fun a => 2 + a.value.length).sum := by
      have octets : ∀ a : Attribute, a.octets.length = 2 + a.value.length := by
        intro a
        simp only [Attribute.octets, List.length_cons]
        omega
      simp only [Packet.length, List.length_flatMap, octets]
    exact ⟨_, if_pos (by rw [length]; exact fits)⟩

theorem codec_ordered (d : Digests) : @OrderedRadiusProto (codec d) := by
  let _ := codec d
  exact ⟨fun _ _ => rfl⟩

/-! ## Reading it back -/

def Code.fromU8 : UInt8 → Code
  | 1 => .accessRequest
  | 2 => .accessAccept
  | 3 => .accessReject
  | 4 => .accountingRequest
  | 11 => .accessChallenge
  | value => .other value

/-- The attributes to the end of the octets; each takes one from the fuel. -/
def parseAttributes : Nat → Bytes → Except PacketError (List Attribute)
  | _, [] => .ok []
  | fuel + 1, attrType :: len :: rest =>
      if 2 ≤ len.toNat ∧ len.toNat ≤ rest.length + 2 then do
        let later ← parseAttributes fuel (rest.drop (len.toNat - 2))
        return ⟨attrType, rest.take (len.toNat - 2)⟩ :: later
      else .error "bad attribute length"
  | _, _ => .error "truncated attribute"

def parse : Bytes → Except PacketError Packet
  | code :: identifier :: hi :: lo :: rest =>
      if sized : 16 ≤ rest.length ∧ beU16 hi lo = rest.length + 4 then do
        let attributes ← parseAttributes rest.length (rest.drop 16)
        return ⟨Code.fromU8 code, identifier,
          ⟨(rest.take 16).toArray, List.length_take_of_le sized.1⟩, attributes⟩
      else .error "bad packet length"
  | _ => .error "truncated packet"

/-- A packet the format has room for: no value is too long, and neither is the whole. -/
structure Packet.Regular (p : Packet) : Prop where
  code : Code.fromU8 p.code.asU8 = p.code
  values : ∀ a ∈ p.attributes, a.value.length ≤ maxAttrValue
  whole : p.length ≤ maxPacketSize

theorem parseAttributes_octets {attributes : List Attribute} {fuel : Nat}
    (values : ∀ a ∈ attributes, a.value.length ≤ maxAttrValue)
    (fuelled : attributes.length ≤ fuel) :
    parseAttributes fuel (attributes.flatMap Attribute.octets) = .ok attributes := by
  induction attributes generalizing fuel with
  | nil => cases fuel <;> rfl
  | cons a attributes ih =>
      cases fuel with
      | zero => cases fuelled
      | succ fuel =>
          have short : a.value.length ≤ 253 := values a List.mem_cons_self
          have len : (UInt8.ofNat (a.value.length + 2)).toNat = a.value.length + 2 := by
            rw [UInt8.toNat_ofNat']
            omega
          have later := ih (fun b member => values b (List.mem_cons_of_mem _ member))
            (Nat.le_of_succ_le_succ fuelled)
          simp only [List.flatMap_cons, Attribute.octets, List.cons_append, parseAttributes, len,
            List.length_append]
          rw [if_pos (by omega), Nat.add_sub_cancel, List.drop_left, List.take_left, later]
          rfl

theorem Packet.length_octets (p : Packet) : p.octets.length = p.length := by
  simp only [Packet.octets, Packet.length, List.length_cons, List.length_append,
    Vector.length_toList]

/-- There are no more attributes than octets. -/
theorem length_le_flatMap (attributes : List Attribute) :
    attributes.length ≤ (attributes.flatMap Attribute.octets).length := by
  induction attributes with
  | nil => exact Nat.le_refl 0
  | cons a attributes ih =>
      simp only [List.flatMap_cons, Attribute.octets, List.length_append, List.length_cons]
      omega

/-- The format can be read back. -/
theorem parse_octets {p : Packet} (regular : p.Regular) : parse p.octets = .ok p := by
  have auth : p.authenticator.toList.length = 16 := p.authenticator.length_toList
  have whole : p.length ≤ 4096 := regular.whole
  have total := p.length_octets
  have many := length_le_flatMap p.attributes
  simp only [Packet.octets, List.cons_append, List.length_cons, List.length_append] at total
  have sized : 16 ≤ (p.authenticator.toList ++ p.attributes.flatMap Attribute.octets).length ∧
      beU16 (UInt8.ofNat (p.length / 256)) (UInt8.ofNat p.length) =
        (p.authenticator.toList ++ p.attributes.flatMap Attribute.octets).length + 4 := by
    rw [beU16_ofNat (by omega), List.length_append]
    omega
  have fuelled : p.attributes.length ≤
      (p.authenticator.toList ++ p.attributes.flatMap Attribute.octets).length := by
    rw [List.length_append]
    omega
  have block : (p.authenticator.toList ++ p.attributes.flatMap Attribute.octets).take 16 =
      p.authenticator.toList := List.take_left' auth
  simp only [Packet.octets, List.cons_append, parse, dif_pos sized, List.drop_left' auth,
    parseAttributes_octets regular.values fuelled, regular.code, block]
  rfl

end Authenticator.Radius
