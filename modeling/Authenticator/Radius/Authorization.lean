/-
# Radius.Authorization -- what an Access-Accept grants, and what it drops

`parseAuthorization` treats each attribute in its own way: a malformed VLAN group is an
error, a Session-Timeout of the wrong length is no timeout, and a Filter-Id that is no text
is altered until it is one.  Of each type it reads the first attribute only, and never looks at
a second one.  `no_restriction_dropped_iff` says for which replies the grant says what every
attribute of the reply says.

The VLAN group is read from the first attribute of each type, whatever tags they carry:
`vlan_from_first_attributes`.
-/
import Authenticator.Radius.Carried
import Authenticator.Radius.Codec
import Authenticator.Radius.Reply

namespace Authenticator.Radius

set_option autoImplicit false

open Authenticator.Pacp Authenticator.Pae RadiusProto

/-! ## Integers -/

theorem beU32_toNat (a b c d : UInt8) :
    (beU32 a b c d).toNat = a.toNat * 0x1000000 + b.toNat * 0x10000 + c.toNat * 0x100 + d.toNat := by
  have := a.toNat_lt
  have := b.toNat_lt
  have := c.toNat_lt
  have := d.toNat_lt
  simp only [beU32, UInt32.toNat_add, UInt32.toNat_mul, UInt8.toNat_toUInt32, UInt32.reduceToNat]
  omega

/-- Four octets are the encoding of the integer they are read as. -/
theorem toBeBytes_beU32 (a b c d : UInt8) : toBeBytes (beU32 a b c d) = [a, b, c, d] := by
  have := a.toNat_lt
  have := b.toNat_lt
  have := c.toNat_lt
  have := d.toNat_lt
  simp only [toBeBytes, List.cons.injEq, and_true, ← UInt8.toNat_inj, UInt32.toNat_toUInt8,
    UInt32.toNat_shiftRight, beU32_toNat, UInt32.reduceToNat, Nat.shiftRight_eq_div_pow,
    Nat.reduceMod, Nat.reducePow]
  omega

/-- An integer attribute says what is read from it exactly if it has four octets. -/
theorem readU32_encodes_iff (attr : Attribute) :
    (readU32 attr).map toBeBytes = some attr.value ↔ attr.value.length = 4 := by
  unfold readU32
  split
  · rename_i a b c d value
    rw [Option.map_some, toBeBytes_beU32, value]
    simp
  · rename_i other
    constructor
    · intro impossible
      cases impossible
    · intro four
      obtain ⟨a, b, c, d, value⟩ := List.length_eq_four.mp four
      exact absurd value (other a b c d)

/-- A tagged integer below 256, under any tag. -/
theorem readTaggedU32_eq_some_iff {attr : Attribute} {n : UInt8} :
    readTaggedU32 attr = some n.toUInt32 ↔ ∃ tag, attr.value = [tag, 0, 0, n] := by
  unfold readTaggedU32
  split
  · rename_i tag hi mid lo value
    rw [Option.some.injEq, ← UInt32.toNat_inj, beU32_toNat, UInt8.toNat_toUInt32, value]
    constructor
    · intro same
      simp only [UInt8.reduceToNat] at same
      have := n.toNat_lt
      have high : hi = 0 := UInt8.toNat_inj.mp (show hi.toNat = 0 by omega)
      have middle : mid = 0 := UInt8.toNat_inj.mp (show mid.toNat = 0 by omega)
      have low : lo = n := UInt8.toNat_inj.mp (by omega)
      rw [high, middle, low]
      exact ⟨tag, rfl⟩
    · rintro ⟨tag', same⟩
      simp only [List.cons.injEq, and_true] at same
      obtain ⟨-, rfl, rfl, rfl⟩ := same
      simp
  · rename_i other
    constructor
    · intro impossible
      cases impossible
    · rintro ⟨tag, value⟩
      exact absurd value (other tag 0 0 n)

theorem tagged_eq_some_iff (attr : Option Attribute) (n : UInt8) :
    attr.bind readTaggedU32 = some n.toUInt32 ↔
      ∃ found tag, attr = some found ∧ found.value = [tag, 0, 0, n] := by
  cases attr with
  | none => simp
  | some found =>
      rw [Option.bind_some, readTaggedU32_eq_some_iff]
      simp

/-- A text attribute says what is read from it exactly if it is a text. -/
theorem fromUtf8Lossy_encodes_iff (octets : Bytes) :
    utf8 (fromUtf8Lossy octets) = octets ↔ ∃ text, utf8 text = octets := by
  constructor
  · intro same
    exact ⟨_, same⟩
  · rintro ⟨text, rfl⟩
    rw [fromUtf8Lossy_utf8]

/-! ## The grant -/

section Grant

variable [RadiusProto]

/-- The tunnel group of a reply is absent, or it is a VLAN on 802 media with a group id. -/
def TunnelSound (reply : Packet) : Prop :=
  ∀ group, findAttribute reply AttributeType.tunnelPrivateGroupId = some group →
    (findAttribute reply AttributeType.tunnelType).bind readTaggedU32 = some tunnelTypeVlan ∧
    (findAttribute reply AttributeType.tunnelMediumType).bind readTaggedU32 = some tunnelMedium802 ∧
    untagged group.value ≠ []

/-- The VLAN the tunnel group names. -/
def tunnelVlan (reply : Packet) : Option String :=
  (findAttribute reply AttributeType.tunnelPrivateGroupId).map fun group =>
    fromUtf8Lossy (untagged group.value)

theorem assignedVlan_of_sound {reply : Packet} (sound : TunnelSound reply) :
    assignedVlan reply = .ok (tunnelVlan reply) := by
  unfold assignedVlan tunnelVlan
  cases found : findAttribute reply AttributeType.tunnelPrivateGroupId with
  | none => rfl
  | some group =>
      obtain ⟨type, medium, body⟩ := sound group found
      simp [parseVlan, type, medium, body, Except.map]

theorem assignedVlan_of_unsound {reply : Packet} (unsound : ¬ TunnelSound reply) :
    assignedVlan reply = .error .malformedVlanAssignment := by
  unfold assignedVlan
  cases found : findAttribute reply AttributeType.tunnelPrivateGroupId with
  | none =>
      exact absurd (fun group known => by rw [found] at known; cases known) unsound
  | some group =>
      have refused : parseVlan reply group.value = .error .malformedVlanAssignment := by
        unfold parseVlan
        split
        · rfl
        · rename_i typed
          rw [not_or, not_not, not_not] at typed
          split
          · rfl
          · rename_i body
            refine absurd (fun other known => ?_) unsound
            rw [found] at known
            cases known
            exact ⟨typed.1, typed.2, body⟩
      show (parseVlan reply group.value).map some = _
      rw [refused]
      rfl

/-- **What an accept grants.**  It is refused if the tunnel group is malformed, and for
nothing else. -/
theorem parseAuthorization_eq_ok_iff {reply : Packet} {a : Authorization} :
    parseAuthorization reply = .ok a ↔ TunnelSound reply ∧
      a = { vlan := tunnelVlan reply
            filterId := (findAttribute reply AttributeType.filterId).map
              fun attr => fromUtf8Lossy attr.value
            sessionTimeout := (findAttribute reply AttributeType.sessionTimeout).bind readU32
            class_ := (findAttribute reply AttributeType.class_).map Attribute.value } := by
  unfold parseAuthorization
  by_cases sound : TunnelSound reply
  · rw [assignedVlan_of_sound sound]
    constructor
    · intro parsed
      exact ⟨sound, (Except.ok.inj parsed).symm⟩
    · rintro ⟨-, rfl⟩
      rfl
  · rw [assignedVlan_of_unsound sound]
    constructor
    · intro parsed
      cases parsed
    · rintro ⟨impossible, -⟩
      exact absurd impossible sound

end Grant

/-! ## Every attribute of a type -/

/-- All attributes of the type say the octets, and there is one; without octets there is none. -/
def Packet.Carries (p : Packet) (type : UInt8) : Option Bytes → Prop
  | none => p.ofType type = []
  | some octets => p.ofType type ≠ [] ∧ ∀ attr ∈ p.ofType type, attr.value = octets

/-- No two attributes of the type say different things. -/
def Packet.Agree (p : Packet) (type : UInt8) : Prop :=
  ∀ one ∈ p.ofType type, ∀ other ∈ p.ofType type, one.value = other.value

theorem mem_ofType {p : Packet} {type : UInt8} {attr : Attribute} :
    attr ∈ p.ofType type ↔ attr ∈ p.attributes ∧ attr.attrType = type := by
  simp [Packet.ofType]

/-- Attributes of one type that say the same are the same. -/
theorem eq_of_mem_ofType {p : Packet} {type : UInt8} {one other : Attribute}
    (first : one ∈ p.ofType type) (second : other ∈ p.ofType type) (same : one.value = other.value) :
    one = other := by
  obtain ⟨-, typed⟩ := mem_ofType.mp first
  obtain ⟨-, typed'⟩ := mem_ofType.mp second
  cases one
  cases other
  simp_all

section Every

variable [RadiusProto] [LawfulRadiusProto]

/-- **What is read from the first attribute is what all of them say**, exactly if they agree and
each of them says what is read from it. -/
theorem carries_first_iff (p : Packet) (type : UInt8) (read : Attribute → Option Bytes) :
    p.Carries type ((findAttribute p type).bind read) ↔
      p.Agree type ∧ ∀ attr ∈ p.ofType type, read attr = some attr.value := by
  rw [findAttribute_eq_head]
  cases all : p.ofType type with
  | nil => simp [Packet.Carries, Packet.Agree, all]
  | cons first rest =>
      have head : first ∈ p.ofType type := by simp [all]
      rw [List.head?_cons, Option.bind_some, ← all]
      cases told : read first with
      | none =>
          constructor
          · intro absent
            rw [absent] at head
            cases head
          · rintro ⟨-, each⟩
            rw [each first head] at told
            cases told
      | some octets =>
          constructor
          · rintro ⟨-, said⟩
            have agree : p.Agree type := fun one inside other inside' =>
              (said one inside).trans (said other inside').symm
            refine ⟨agree, fun attr inside => ?_⟩
            have value : attr.value = first.value := agree attr inside first head
            rw [eq_of_mem_ofType inside head value, told, said first head]
          · rintro ⟨agree, each⟩
            have value : first.value = octets := Option.some.inj ((each first head).symm.trans told)
            refine ⟨List.ne_nil_of_mem head, fun attr inside => ?_⟩
            exact (agree attr inside first head).trans value

/-- The grant says what the reply says, in every attribute of it: a timeout is the integer that
is encoded in the Session-Timeout, a filter the text that is written in the Filter-Id, the class
the octets of the Class, and none of them is granted unless the attribute is present.  There is
a VLAN exactly if there is a group id, every group id names it, and no Tunnel-Type and no
Tunnel-Medium-Type beside it says anything but a VLAN on 802 media. -/
structure Faithful (reply : Packet) (a : Authorization) : Prop where
  sessionTimeout : reply.Carries AttributeType.sessionTimeout (a.sessionTimeout.map toBeBytes)
  filterId : reply.Carries AttributeType.filterId (a.filterId.map utf8)
  class_ : reply.Carries AttributeType.class_ a.class_
  vlan : a.vlan.isSome ↔ reply.ofType AttributeType.tunnelPrivateGroupId ≠ []
  named : ∀ group ∈ reply.ofType AttributeType.tunnelPrivateGroupId,
    untagged group.value ≠ [] ∧ a.vlan = some (fromUtf8Lossy (untagged group.value))
  type : a.vlan.isSome → ∀ attr ∈ reply.ofType AttributeType.tunnelType,
    readTaggedU32 attr = some tunnelTypeVlan
  medium : a.vlan.isSome → ∀ attr ∈ reply.ofType AttributeType.tunnelMediumType,
    readTaggedU32 attr = some tunnelMedium802

/-- Every Session-Timeout has four octets, the same ones. -/
def TimeoutSound (reply : Packet) : Prop :=
  reply.Agree AttributeType.sessionTimeout ∧
    ∀ attr ∈ reply.ofType AttributeType.sessionTimeout, attr.value.length = 4

/-- Every Filter-Id is well-formed UTF-8, the same text. -/
def FilterSound (reply : Packet) : Prop :=
  reply.Agree AttributeType.filterId ∧
    ∀ attr ∈ reply.ofType AttributeType.filterId, ∃ text, utf8 text = attr.value

/-- Every group id names a VLAN, the same one, and every Tunnel-Type and Tunnel-Medium-Type beside
a group id is that of a VLAN on 802 media. -/
structure GroupSound (reply : Packet) : Prop where
  body : ∀ group ∈ reply.ofType AttributeType.tunnelPrivateGroupId, untagged group.value ≠ []
  agree : ∀ group ∈ reply.ofType AttributeType.tunnelPrivateGroupId,
    ∀ other ∈ reply.ofType AttributeType.tunnelPrivateGroupId,
      fromUtf8Lossy (untagged group.value) = fromUtf8Lossy (untagged other.value)
  type : reply.ofType AttributeType.tunnelPrivateGroupId ≠ [] →
    ∀ attr ∈ reply.ofType AttributeType.tunnelType, readTaggedU32 attr = some tunnelTypeVlan
  medium : reply.ofType AttributeType.tunnelPrivateGroupId ≠ [] →
    ∀ attr ∈ reply.ofType AttributeType.tunnelMediumType, readTaggedU32 attr = some tunnelMedium802

theorem timeout_carried_iff (reply : Packet) :
    reply.Carries AttributeType.sessionTimeout
        (((findAttribute reply AttributeType.sessionTimeout).bind readU32).map toBeBytes) ↔
      TimeoutSound reply := by
  rw [Option.map_bind, carries_first_iff]
  simp only [Function.comp_apply, readU32_encodes_iff]
  rfl

theorem filter_carried_iff (reply : Packet) :
    reply.Carries AttributeType.filterId
        (((findAttribute reply AttributeType.filterId).map fun attr =>
          fromUtf8Lossy attr.value).map utf8) ↔
      FilterSound reply := by
  rw [Option.map_map, Option.map_eq_bind, carries_first_iff]
  simp only [Function.comp_apply, Option.some.injEq, fromUtf8Lossy_encodes_iff]
  rfl

theorem class_carried_iff (reply : Packet) :
    reply.Carries AttributeType.class_
        ((findAttribute reply AttributeType.class_).map Attribute.value) ↔
      reply.Agree AttributeType.class_ := by
  rw [Option.map_eq_bind, carries_first_iff]
  simp

/-- The VLAN of a reply is there exactly if there is a group id. -/
theorem tunnelVlan_isSome_iff (reply : Packet) :
    (tunnelVlan reply).isSome ↔ reply.ofType AttributeType.tunnelPrivateGroupId ≠ [] := by
  rw [tunnelVlan, Option.isSome_map, findAttribute_eq_head]
  cases reply.ofType AttributeType.tunnelPrivateGroupId <;> simp

/-- It is the VLAN that every group id names, exactly if they name the same one. -/
theorem tunnelVlan_named_iff (reply : Packet) :
    (∀ group ∈ reply.ofType AttributeType.tunnelPrivateGroupId,
        tunnelVlan reply = some (fromUtf8Lossy (untagged group.value))) ↔
      ∀ group ∈ reply.ofType AttributeType.tunnelPrivateGroupId,
        ∀ other ∈ reply.ofType AttributeType.tunnelPrivateGroupId,
          fromUtf8Lossy (untagged group.value) = fromUtf8Lossy (untagged other.value) := by
  constructor
  · intro named group inside other inside'
    exact Option.some.inj ((named group inside).symm.trans (named other inside'))
  · intro agree group inside
    obtain ⟨first, rest, all⟩ := List.exists_cons_of_ne_nil (List.ne_nil_of_mem inside)
    rw [tunnelVlan, findAttribute_eq_head, all, List.head?_cons, Option.map_some,
      agree first (by simp [all]) group inside]

/-- **When no restriction is dropped.**  For every reply: whatever it is parsed to says what
every attribute of the reply says if and only if a reply whose tunnel group is not refused has
Session-Timeouts of four octets, Filter-Ids in UTF-8 and group ids that name a VLAN on 802 media,
where it has them, and no two attributes of one type that differ. -/
theorem no_restriction_dropped_iff (reply : Packet) :
    (∀ a, parseAuthorization reply = .ok a → Faithful reply a) ↔
      (TunnelSound reply → TimeoutSound reply ∧ FilterSound reply ∧
        reply.Agree AttributeType.class_ ∧ GroupSound reply) := by
  constructor
  · intro faithful sound
    obtain ⟨timeout, filter, class_, present, named, type, medium⟩ :=
      faithful _ (parseAuthorization_eq_ok_iff.mpr ⟨sound, rfl⟩)
    refine ⟨(timeout_carried_iff reply).mp timeout, (filter_carried_iff reply).mp filter,
      (class_carried_iff reply).mp class_, ?_⟩
    exact {
      body := fun group inside => (named group inside).1
      agree := (tunnelVlan_named_iff reply).mp fun group inside => (named group inside).2
      type := fun grouped => type (present.mpr grouped)
      medium := fun grouped => medium (present.mpr grouped) }
  · intro sound a parsed
    obtain ⟨tunnel, rfl⟩ := parseAuthorization_eq_ok_iff.mp parsed
    obtain ⟨timeout, filter, class_, group⟩ := sound tunnel
    have named := (tunnelVlan_named_iff reply).mpr group.agree
    exact {
      sessionTimeout := (timeout_carried_iff reply).mpr timeout
      filterId := (filter_carried_iff reply).mpr filter
      class_ := (class_carried_iff reply).mpr class_
      vlan := tunnelVlan_isSome_iff reply
      named := fun id inside => ⟨group.body id inside, named id inside⟩
      type := fun granted => group.type ((tunnelVlan_isSome_iff reply).mp granted)
      medium := fun granted => group.medium ((tunnelVlan_isSome_iff reply).mp granted) }

end Every

/-- A codec; parsing reads no digest. -/
@[reducible] def parsingProto : RadiusProto :=
  codec ⟨fun _ => Vector.replicate 16 0, fun _ _ => Vector.replicate 16 0⟩

/-- An Access-Accept with some attributes. -/
def acceptWith (attributes : List Attribute) : Packet where
  code := .accessAccept
  identifier := 0
  authenticator := Vector.replicate 16 0
  attributes := attributes

/-- An accept with every restriction, and each of them twice: nothing is lost. -/
theorem no_restriction_dropped_twice :
    let _ := parsingProto
    let twice := [⟨AttributeType.sessionTimeout, [0, 0, 0, 60]⟩, ⟨AttributeType.filterId, [0x61]⟩,
      ⟨AttributeType.class_, [7]⟩, ⟨AttributeType.tunnelType, [1, 0, 0, 13]⟩,
      ⟨AttributeType.tunnelMediumType, [1, 0, 0, 6]⟩,
      ⟨AttributeType.tunnelPrivateGroupId, [1, 0x34, 0x32]⟩]
    Faithful (acceptWith (twice ++ twice))
      { vlan := some "42", filterId := some "a", sessionTimeout := some 60, class_ := some [7] } := by
  let _ := parsingProto
  have _ : LawfulRadiusProto := codec_lawful _
  refine (no_restriction_dropped_iff _).mpr (fun _ => ⟨⟨?_, ?_⟩, ⟨?_, ?_⟩, ?_, ?_⟩) _
    (by decide +kernel)
  · unfold Packet.Agree
    decide +kernel
  · decide +kernel
  · unfold Packet.Agree
    decide +kernel
  · intro attr inside
    refine ⟨"a", ?_⟩
    revert attr
    decide +kernel
  · unfold Packet.Agree
    decide +kernel
  · constructor <;> decide +kernel

/-- A Session-Timeout of three octets and a Filter-Id that is no text: the accept is granted
without a timeout and with a filter the server did not name. -/
theorem restriction_dropped :
    let _ := parsingProto
    let reply := acceptWith [⟨AttributeType.sessionTimeout, [0, 0, 60]⟩,
      ⟨AttributeType.filterId, [0x61, 0xFF]⟩]
    parseAuthorization reply = .ok { filterId := some "a\uFFFD" } ∧
      ¬ Faithful reply { filterId := some "a\uFFFD" } := by
  intro _ reply
  refine ⟨by decide +kernel, fun faithful => ?_⟩
  have timeout : reply.ofType AttributeType.sessionTimeout = [] := faithful.sessionTimeout
  revert timeout
  decide +kernel

/-! ## The tunnel group -/

section Tunnel

variable [RadiusProto] [LawfulRadiusProto]

/-- The first attribute of a type. -/
def Packet.first (p : Packet) (type : UInt8) : Option Attribute :=
  p.attributes.find? fun a => a.attrType = type

/-- The first Tunnel-Type is a VLAN and the first Tunnel-Medium-Type is 802, each under a tag
of its own, and the text is the first group id without a tag octet. -/
def NamedByFirst (reply : Packet) (vlan : String) : Prop :=
  ∃ type medium group tag tag',
    reply.first AttributeType.tunnelType = some type ∧ type.value = [tag, 0, 0, 13] ∧
    reply.first AttributeType.tunnelMediumType = some medium ∧ medium.value = [tag', 0, 0, 6] ∧
    reply.first AttributeType.tunnelPrivateGroupId = some group ∧ untagged group.value ≠ [] ∧
    vlan = fromUtf8Lossy (untagged group.value)

theorem findAttribute_first (reply : Packet) (type : UInt8) :
    findAttribute reply type = reply.first type :=
  LawfulRadiusProto.findAttribute_eq reply type

/-- The group of a reply that names a VLAN is sound, and the VLAN is the one it names. -/
theorem namedByFirst_iff {reply : Packet} {vlan : String} :
    NamedByFirst reply vlan ↔ TunnelSound reply ∧ tunnelVlan reply = some vlan := by
  constructor
  · rintro ⟨type, medium, group, tag, tag', typed, value, carried, value', grouped, body, rfl⟩
    refine ⟨fun other found => ?_, ?_⟩
    · rw [findAttribute_first, grouped] at found
      cases found
      refine ⟨?_, ?_, body⟩
      · rw [findAttribute_first]
        exact (tagged_eq_some_iff _ 13).mpr ⟨type, tag, typed, value⟩
      · rw [findAttribute_first]
        exact (tagged_eq_some_iff _ 6).mpr ⟨medium, tag', carried, value'⟩
    · rw [tunnelVlan, findAttribute_first, grouped]
      rfl
  · rintro ⟨sound, named⟩
    obtain ⟨group, grouped, rfl⟩ := Option.map_eq_some_iff.mp named
    obtain ⟨typed, carried, body⟩ := sound group grouped
    rw [findAttribute_first] at grouped typed carried
    obtain ⟨type, tag, found, value⟩ := (tagged_eq_some_iff _ 13).mp typed
    obtain ⟨medium, tag', found', value'⟩ := (tagged_eq_some_iff _ 6).mp carried
    exact ⟨type, medium, group, tag, tag', found, value, found', value', grouped, body, rfl⟩

/-- **Where a VLAN comes from.**  A reply is granted a VLAN exactly if its first Tunnel-Type
is a VLAN and its first Tunnel-Medium-Type is 802, under whatever tags, and the VLAN is then
the first group id without its tag octet; a reply with a group id that names no VLAN so is
refused. -/
theorem vlan_from_first_attributes (reply : Packet) :
    (∀ vlan, (∃ a, parseAuthorization reply = .ok a ∧ a.vlan = some vlan) ↔
      NamedByFirst reply vlan) ∧
    ((reply.first AttributeType.tunnelPrivateGroupId).isSome →
      (∀ vlan, ¬ NamedByFirst reply vlan) →
      parseAuthorization reply = .error .malformedVlanAssignment) := by
  refine ⟨fun vlan => ?_, fun grouped unnamed => ?_⟩
  · rw [namedByFirst_iff]
    constructor
    · rintro ⟨a, parsed, granted⟩
      obtain ⟨sound, rfl⟩ := parseAuthorization_eq_ok_iff.mp parsed
      exact ⟨sound, granted⟩
    · rintro ⟨sound, named⟩
      exact ⟨_, parseAuthorization_eq_ok_iff.mpr ⟨sound, rfl⟩, named⟩
  · obtain ⟨group, found⟩ := Option.isSome_iff_exists.mp grouped
    have unsound : ¬ TunnelSound reply := by
      intro sound
      refine unnamed (fromUtf8Lossy (untagged group.value)) (namedByFirst_iff.mpr ⟨sound, ?_⟩)
      rw [tunnelVlan, findAttribute_first, found]
      rfl
    rw [parseAuthorization, assignedVlan_of_unsound unsound]
    rfl

end Tunnel

/-- A VLAN taken from a group whose type and medium carry other tags. -/
theorem vlan_from_first_mixed :
    let _ := parsingProto
    NamedByFirst (acceptWith [⟨AttributeType.tunnelType, [2, 0, 0, 13]⟩,
      ⟨AttributeType.tunnelMediumType, [3, 0, 0, 6]⟩,
      ⟨AttributeType.tunnelPrivateGroupId, [1, 0x34, 0x32]⟩]) "42" := by
  let _ := parsingProto
  have _ : LawfulRadiusProto := codec_lawful _
  exact ((vlan_from_first_attributes _).1 "42").mp ⟨_, rfl, by decide +kernel⟩

/-- The reply has no Tunnel-Type and no Tunnel-Medium-Type of the group's tag, and its VLAN is
taken all the same. -/
theorem vlan_of_mixed_group :
    let _ := parsingProto
    let reply := acceptWith [⟨AttributeType.tunnelType, [2, 0, 0, 13]⟩,
      ⟨AttributeType.tunnelMediumType, [3, 0, 0, 6]⟩,
      ⟨AttributeType.tunnelPrivateGroupId, [1, 0x34, 0x32]⟩]
    parseAuthorization reply = .ok { vlan := some "42" } ∧
      (∀ a ∈ reply.attributes, a.attrType = AttributeType.tunnelPrivateGroupId →
        a.value.head? = some 1) ∧
      (∀ a ∈ reply.attributes, a.attrType = AttributeType.tunnelType ∨
        a.attrType = AttributeType.tunnelMediumType → a.value.head? ≠ some 1) := by
  decide +kernel

end Authenticator.Radius
