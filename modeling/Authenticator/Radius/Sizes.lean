/-
# Radius.Sizes -- requests always fit

What a builder adds is bounded: every attribute of a request takes at most 255 octets, and an
EAP packet from a frame takes seven at most.  So a request stays below the largest packet, and
when the codec refuses nothing but what is too long, an Access-Request is refused for its
`User-Name` alone (`accessRequestEap_ok_iff`) and an Accounting-Request never
(`accountingRequest_ok`).

`Builds` carries the bound through a builder, one attribute at a time.
-/
import Mathlib.Algebra.Order.BigOperators.Group.List
import Mathlib.Algebra.Order.Ring.Nat
import Authenticator.Pacp.Frame
import Authenticator.Radius.EapMessage

namespace Authenticator.Radius

set_option autoImplicit false

open Authenticator.Pacp Authenticator.Pae RadiusProto

/-! ## Lengths of texts -/

theorem length_utf8_le (text : String) : (utf8 text).length ≤ 4 * text.toList.length := by
  unfold utf8
  generalize text.toList = chars
  induction chars with
  | nil => exact Nat.le_refl 0
  | cons c rest ih =>
      have size := c.utf8Size_le_four
      rw [List.flatMap_cons, List.length_append, String.length_utf8EncodeChar, List.length_cons]
      omega

theorem length_formatMac (mac : MacAddr) : (formatMac mac).toList.length = 17 := by
  obtain ⟨a, b, c, d, e, f, -, octets⟩ := mac_eq mac
  simp [formatMac, octets, hexOctet, List.intercalate]

theorem utf8_formatMac_le (mac : MacAddr) : (utf8 (formatMac mac)).length ≤ maxAttrValue := by
  have length := length_utf8_le (formatMac mac)
  rw [length_formatMac] at length
  unfold maxAttrValue
  omega

/-- A `User-Name` that passes fits an attribute. -/
theorem length_of_sanitizeUserName {identity : Bytes} {name : String}
    (passed : sanitizeUserName identity = .ok name) : (utf8 name).length ≤ maxAttrValue := by
  unfold sanitizeUserName at passed
  split at passed
  · cases passed
  · rename_i sized
    split at passed
    · cases passed
    · rename_i text read
      split at passed
      · cases passed
      · cases passed
        rw [utf8_of_fromUtf8 read]
        push Not at sized
        omega

theorem length_chunks {size : Nat} (positive : 0 < size) (fuel : Nat) (octets : Bytes) :
    (chunks size fuel octets).length * size ≤ octets.length + (size - 1) := by
  induction fuel generalizing octets with
  | zero => simp [chunks]
  | succ fuel ih =>
      cases octets with
      | nil => simp [chunks]
      | cons octet rest =>
          show ((octet :: rest).take size :: chunks size fuel ((octet :: rest).drop size)).length *
            size ≤ _
          rw [List.length_cons, Nat.succ_mul]
          by_cases more : size ≤ (octet :: rest).length
          · have later := ih ((octet :: rest).drop size)
            rw [List.length_drop] at later
            omega
          · have last : (octet :: rest).drop size = [] := List.drop_eq_nil_of_le (by omega)
            have none : chunks size fuel [] = [] := by cases fuel <;> rfl
            rw [last, none, List.length_cons, List.length_nil]
            omega

/-! ## Room -/

/-- The octets an attribute takes, at least those of a `Message-Authenticator`. -/
def Attribute.room (a : Attribute) : Nat := 2 + max 16 a.value.length

def Packet.room (packet : Packet) : Nat := (packet.attributes.map Attribute.room).sum

theorem room_le {a : Attribute} {k : Nat} (bound : a.value.length ≤ k) : a.room ≤ 2 + max 16 k := by
  unfold Attribute.room
  omega

theorem length_le_room (packet : Packet) :
    (packet.attributes.map fun a => 2 + a.value.length).sum ≤ packet.room := by
  unfold Packet.room
  refine List.sum_le_sum ?_
  intro a _
  unfold Attribute.room
  omega

theorem room_setMessageAuthenticator (packet : Packet) {value : Bytes} (sixteen : value.length = 16) :
    (setMessageAuthenticator packet value).room ≤ packet.room := by
  unfold Packet.room setMessageAuthenticator
  rw [List.map_map]
  refine List.sum_le_sum ?_
  intro a _
  simp only [Function.comp_apply, Attribute.room]
  split
  · rw [sixteen]
    omega
  · exact Nat.le_refl _

/-- A builder succeeds within some room. -/
def Builds (r : Except RadiusClientError Packet) (room : Nat) : Prop :=
  ∃ built, r = .ok built ∧ built.room ≤ room

theorem Builds.bind {r : Except RadiusClientError Packet} {n m : Nat}
    {f : Packet → Except RadiusClientError Packet} (first : Builds r n)
    (later : ∀ packet, packet.room ≤ n → Builds (f packet) m) : Builds (r >>= f) m := by
  obtain ⟨built, rfl, small⟩ := first
  exact later built small

/-- An attribute whose value is within a bound. -/
def Within (attr : Except PacketError Attribute) (k : Nat) : Prop :=
  ∃ a, attr = .ok a ∧ a.value.length ≤ k

section Coded

variable [RadiusProto] [SizedRadiusProto]

theorem within_integer (t : UInt8) (value : UInt32) : Within (attributeInteger t value) 4 := by
  obtain ⟨a, known, four⟩ := SizedRadiusProto.attributeInteger_ok t value
  exact ⟨a, known, Nat.le_of_eq four⟩

theorem within_ipv4 (t : UInt8) (ip : Vector UInt8 4) : Within (attributeIpv4 t ip) 4 := by
  obtain ⟨a, known, four⟩ := SizedRadiusProto.attributeIpv4_ok t ip
  exact ⟨a, known, Nat.le_of_eq four⟩

end Coded

section Building

variable [RadiusProto] [LawfulRadiusProto] {packet : Packet} {n k : Nat}

theorem Builds.push {attr : Except PacketError Attribute} (within : Within attr k)
    (small : packet.room ≤ n) : Builds (push packet attr) (n + (2 + max 16 k)) := by
  obtain ⟨a, rfl, bound⟩ := within
  refine ⟨_, rfl, ?_⟩
  rw [LawfulRadiusProto.addAttribute_eq]
  have one := room_le bound
  simp only [Packet.room, List.map_append, List.sum_append, List.map_cons, List.map_nil,
    List.sum_singleton] at small ⊢
  omega

theorem Builds.pushOption {α : Type} {build : α → Except PacketError Attribute} {x : Option α}
    (within : ∀ value ∈ x, Within (build value) k) (small : packet.room ≤ n) :
    Builds (pushOption packet (x.map build)) (n + (2 + max 16 k)) := by
  cases x with
  | none => exact ⟨packet, rfl, by omega⟩
  | some value => exact .push (within value rfl) small

variable [SizedRadiusProto]

theorem within_new (t : UInt8) {value : Bytes} (bound : value.length ≤ maxAttrValue) :
    Within (attributeNew t value) maxAttrValue := by
  obtain ⟨a, known⟩ := SizedRadiusProto.attributeNew_ok t value bound
  refine ⟨a, known, ?_⟩
  rw [LawfulRadiusProto.attributeNew_eq _ _ _ known]
  exact bound

theorem within_string (t : UInt8) {text : String} (bound : (utf8 text).length ≤ maxAttrValue) :
    Within (attributeString t text) maxAttrValue := by
  obtain ⟨a, known⟩ := SizedRadiusProto.attributeString_ok t text bound
  refine ⟨a, known, ?_⟩
  rw [LawfulRadiusProto.attributeString_eq _ _ _ known]
  exact bound

/-- The NAS names fit an attribute. -/
structure RequestContext.Sized (ctx : RequestContext) : Prop where
  nasIdentifier : (utf8 ctx.nasIdentifier).length ≤ maxAttrValue
  nasPortId : (utf8 ctx.nasPortId).length ≤ maxAttrValue

theorem Builds.appendNasAttributes {ctx : RequestContext} (sized : ctx.Sized)
    (small : packet.room ≤ n) : Builds (appendNasAttributes ctx packet) (n + 1074) := by
  unfold Radius.appendNasAttributes
  refine (Builds.pushOption (fun ip _ => within_ipv4 _ ip) small).bind fun _ small => ?_
  refine (Builds.push (within_string _ sized.nasIdentifier) small).bind fun _ small => ?_
  refine (Builds.push (within_string _ sized.nasPortId) small).bind fun _ small => ?_
  refine (Builds.push (within_integer _ _) small).bind fun _ small => ?_
  refine (Builds.pushOption (fun port _ => within_integer _ port) small).bind fun _ small => ?_
  refine (Builds.push (within_string _ (utf8_formatMac_le _)) small).bind fun _ small => ?_
  exact Builds.push (within_string _ (utf8_formatMac_le _)) small

theorem Builds.pieces {pieces : List Bytes} (fits : ∀ piece ∈ pieces, piece.length ≤ maxAttrValue)
    (small : packet.room ≤ n) :
    Builds (pieces.foldlM (fun packet piece =>
      Radius.push packet (attributeNew AttributeType.eapMessage piece)) packet)
      (n + (pieces.flatten.length + 18 * pieces.length)) := by
  induction pieces generalizing packet n with
  | nil => exact ⟨packet, rfl, small⟩
  | cons piece rest ih =>
      obtain ⟨a, known⟩ := SizedRadiusProto.attributeNew_ok AttributeType.eapMessage piece
        (fits piece List.mem_cons_self)
      have value := LawfulRadiusProto.attributeNew_eq _ _ _ known
      have within : Within (attributeNew AttributeType.eapMessage piece) piece.length :=
        ⟨a, known, by rw [value]⟩
      have later : n + (2 + max 16 piece.length) + (rest.flatten.length + 18 * rest.length) ≤
          n + ((piece :: rest).flatten.length + 18 * (piece :: rest).length) := by
        rw [List.flatten_cons, List.length_append, List.length_cons]
        omega
      rw [List.foldlM_cons]
      refine (Builds.push within small).bind fun next room => ?_
      obtain ⟨built, done, bound⟩ :=
        ih (fun piece member => fits piece (List.mem_cons_of_mem _ member)) room
      exact ⟨built, done, bound.trans later⟩

/-- An EAP packet that came in a frame. -/
theorem Builds.fragmentInto {eap : Bytes} (short : eap.length ≤ 1600) (small : packet.room ≤ n) :
    Builds (fragmentInto packet eap) (n + 1726) := by
  have positive : 0 < maxAttrValue := by decide
  have count := length_chunks positive eap.length eap
  obtain ⟨built, done, bound⟩ := Builds.pieces
    (fun _ member => (length_of_mem_chunks positive member).2) small
  refine ⟨built, done, bound.trans ?_⟩
  rw [flatten_chunks positive (Nat.le_refl _)]
  have size : maxAttrValue = 253 := rfl
  rw [size] at count ⊢
  omega

theorem seal_ok (secret : Bytes) (small : packet.room ≤ n) (fits : n + 38 ≤ maxPacketSize) :
    ∃ built, sealMessageAuthenticator packet secret = .ok built := by
  have placed : Builds (withPlaceholder packet) (n + 18) := by
    unfold withPlaceholder
    split
    · exact ⟨packet, rfl, by omega⟩
    · obtain ⟨a, known⟩ := SizedRadiusProto.attributeNew_ok AttributeType.messageAuthenticator
        (List.replicate 16 0) (by decide)
      have value := LawfulRadiusProto.attributeNew_eq _ _ _ known
      have within : Within (attributeNew AttributeType.messageAuthenticator (List.replicate 16 0)) 16 :=
        ⟨a, known, by rw [value]; decide⟩
      exact Builds.push within small
  obtain ⟨holder, done, room⟩ := placed
  have zeroed := room_setMessageAuthenticator holder (List.length_replicate (n := 16) (a := (0 : UInt8)))
  have length := length_le_room (setMessageAuthenticator holder (List.replicate 16 0))
  obtain ⟨octets, encoded⟩ := SizedRadiusProto.encode_ok
    (setMessageAuthenticator holder (List.replicate 16 0)) (by omega)
  simp only [sealMessageAuthenticator, except_bind_eq_ok]
  exact ⟨_, holder, done, octets, by rw [encoded]; rfl, rfl⟩

/-! ## The requests -/

/-- The identity passes as a `User-Name`. -/
def Conforms (identity : Bytes) : Prop := ∃ name, sanitizeUserName identity = .ok name

variable {ctx : RequestContext} {identifier : UInt8} {authenticator : Auth16}
variable {identity state : Option Bytes} {eap secret : Bytes}

/-- **An Access-Request is refused for its `User-Name` alone.** -/
theorem accessRequestEap_ok_iff (sized : ctx.Sized)
    (echoed : ∀ value ∈ state, value.length ≤ maxAttrValue) (some_ : eap ≠ [])
    (short : eap.length ≤ 1600) :
    (∃ request, accessRequestEap ctx identifier authenticator identity state eap secret =
      .ok request) ↔ ∀ id ∈ identity, Conforms id := by
  constructor
  · rintro ⟨request, built⟩ id rfl
    obtain ⟨-, _, named, -⟩ := accessRequestEap_eq_ok_iff.mp built
    simp only [pushUserName, except_bind_eq_ok] at named
    obtain ⟨name, passed, -⟩ := named
    exact ⟨name, passed⟩
  · intro conforms
    have start : (packetNew .accessRequest identifier authenticator).room ≤ 0 := by
      rw [LawfulRadiusProto.packetNew_eq]
      exact Nat.le_refl 0
    have named : Builds (pushUserName (packetNew .accessRequest identifier authenticator) identity)
        255 := by
      cases identity with
      | none => exact ⟨_, rfl, start.trans (Nat.zero_le _)⟩
      | some id =>
          obtain ⟨name, passed⟩ := conforms id rfl
          simp only [pushUserName, passed]
          exact Builds.push (within_string _ (length_of_sanitizeUserName passed)) start
    obtain ⟨p₁, name, room₁⟩ := named
    obtain ⟨p₂, service, room₂⟩ := Builds.push
      (within_integer AttributeType.serviceType serviceTypeFramed) room₁
    obtain ⟨p₃, echo, room₃⟩ := Builds.pushOption
      (fun value member => within_new AttributeType.state (echoed value member)) room₂
    obtain ⟨p₄, nas, room₄⟩ := Builds.appendNasAttributes sized room₃
    obtain ⟨p₅, fragmented, room₅⟩ := Builds.fragmentInto short room₄
    obtain ⟨request, sealed⟩ := seal_ok secret room₅ (by decide)
    exact ⟨request, accessRequestEap_eq_ok_iff.mpr
      ⟨some_, p₁, name, p₂, service, p₃, echo, p₄, nas, p₅, fragmented, sealed⟩⟩

/-- **An Accounting-Request is never refused.** -/
theorem accountingRequest_ok {trigger : AcctTrigger} {sessionId : String} {cls : Option Bytes}
    (sized : ctx.Sized) (named : (utf8 sessionId).length ≤ maxAttrValue)
    (echoed : ∀ value ∈ cls, value.length ≤ maxAttrValue) :
    ∃ request, accountingRequest ctx identifier trigger sessionId cls secret = .ok request := by
  have start : (packetNew .accountingRequest identifier (Vector.replicate 16 0)).room ≤ 0 := by
    rw [LawfulRadiusProto.packetNew_eq]
    exact Nat.le_refl 0
  obtain ⟨p₁, status, room₁⟩ := Builds.push
    (within_integer AttributeType.acctStatusType (acctStatus trigger)) start
  obtain ⟨p₂, id, room₂⟩ := Builds.push (within_string AttributeType.acctSessionId named) room₁
  obtain ⟨p₃, nas, room₃⟩ := Builds.appendNasAttributes sized room₂
  obtain ⟨p₄, echo, room₄⟩ := Builds.pushOption
    (fun value member => within_new AttributeType.class_ (echoed value member)) room₃
  obtain ⟨p₅, cause, -⟩ := Builds.pushOption
    (fun cause (_ : cause ∈ stopCause trigger) =>
      within_integer AttributeType.acctTerminateCause (terminateCause cause)) room₄
  simp only [accountingRequest, except_bind_eq_ok]
  exact ⟨_, p₁, status, p₂, id, p₃, nas, p₄, echo, p₅, cause, rfl⟩

end Building

end Authenticator.Radius
