/-
# Radius.Record -- what an Accounting-Request tells the server

An Accounting-Request is the account of a session: whether it began or ended and why, whose it was,
and under which names.  `readRecord` is a server that reads it: by the attributes it finds, with
the numbers as four octets.  `accounting_record_read` says that it reads what the request was
built from, and that the request passes the check of its authenticator: so two requests that look
alike were built from the same account.
-/
import Authenticator.Radius.Sealed

namespace Authenticator.Radius

set_option autoImplicit false

open Authenticator.Pacp Authenticator.Pae RadiusProto

/-- What the reader relies on besides: a number is written as four octets, the high one first. -/
class BigEndianRadiusProto [RadiusProto] : Prop where
  attributeInteger_eq : ∀ t n a, attributeInteger t n = .ok a → a = ⟨t, toBeBytes n⟩

/-- The account of a session. -/
structure Record where
  trigger : AcctTrigger
  sessionId : Bytes
  class_ : Option Bytes
  station : Bytes
  deriving DecidableEq, Repr

/-- `Acct-Status-Type` and `Acct-Terminate-Cause`, decoded. -/
def triggerOf (status : UInt32) (cause : Option UInt32) : Option AcctTrigger :=
  match status, cause with
  | 1, none => some .start
  | 2, some 1 => some (.stop .supplicantLogoff)
  | 2, some 2 => some (.stop .portLinkDown)
  | 2, some 5 => some (.stop .sessionTimeout)
  | 2, some 6 => some (.stop .adminReset)
  | 2, some 10 => some (.stop .reauthFailure)
  | _, _ => none

section Reading

variable [RadiusProto]

/-- The number of the first attribute of a type. -/
def findU32 (p : Packet) (type : UInt8) : Option UInt32 := (findAttribute p type).bind readU32

def findValue (p : Packet) (type : UInt8) : Option Bytes :=
  (findAttribute p type).map Attribute.value

/-- What a server reads. -/
def readRecord (p : Packet) : Option Record := do
  let status ← findU32 p AttributeType.acctStatusType
  let trigger ← triggerOf status (findU32 p AttributeType.acctTerminateCause)
  let sessionId ← findValue p AttributeType.acctSessionId
  let station ← findValue p AttributeType.callingStationId
  return ⟨trigger, sessionId, findValue p AttributeType.class_, station⟩

/-- The check of a server: the authenticator is that of the packet with a zero one. -/
def Authentic (secret : Bytes) (p : Packet) : Prop :=
  p.authenticator = calculateAccountingRequestAuthenticator
    { p with authenticator := Vector.replicate 16 0 } secret

end Reading

/-- Every trigger is coded apart from the others. -/
theorem triggerOf_coded (trigger : AcctTrigger) :
    triggerOf (acctStatus trigger) ((stopCause trigger).map terminateCause) = some trigger := by
  cases trigger with
  | start => rfl
  | stop cause => cases cause <;> rfl

theorem readU32_acctStatus (type : UInt8) (trigger : AcctTrigger) :
    readU32 ⟨type, toBeBytes (acctStatus trigger)⟩ = some (acctStatus trigger) := by
  cases trigger with
  | start => rfl
  | stop cause =>
      show readU32 ⟨type, toBeBytes 2⟩ = some 2
      rfl

theorem readU32_terminateCause (type : UInt8) (cause : TerminateCause) :
    readU32 ⟨type, toBeBytes (terminateCause cause)⟩ = some (terminateCause cause) := by
  cases cause <;> rfl

section Built

variable [RadiusProto] [LawfulRadiusProto] {packet built : Packet}

/-- The fields that pushing attributes leaves alone. -/
structure SameHeader (packet built : Packet) : Prop where
  code : built.code = packet.code
  identifier : built.identifier = packet.identifier
  authenticator : built.authenticator = packet.authenticator

omit [RadiusProto] [LawfulRadiusProto] in
theorem SameHeader.trans {first second third : Packet} (one : SameHeader first second)
    (two : SameHeader second third) : SameHeader first third :=
  ⟨two.code.trans one.code, two.identifier.trans one.identifier,
    two.authenticator.trans one.authenticator⟩

theorem sameHeader_push {attr : Except PacketError Attribute} (pushed : push packet attr = .ok built) :
    SameHeader packet built := by
  obtain ⟨a, -, rfl⟩ := push_eq_ok pushed
  exact ⟨rfl, rfl, rfl⟩

theorem sameHeader_pushOption {attr : Option (Except PacketError Attribute)}
    (pushed : pushOption packet attr = .ok built) : SameHeader packet built := by
  cases attr with
  | none =>
      cases pushed
      exact ⟨rfl, rfl, rfl⟩
  | some attr => exact sameHeader_push pushed

theorem sameHeader_appendNasAttributes {ctx : RequestContext}
    (appended : appendNasAttributes ctx packet = .ok built) : SameHeader packet built := by
  simp only [appendNasAttributes, except_bind_eq_ok] at appended
  obtain ⟨p₁, ip, p₂, name, p₃, portId, p₄, portType, p₅, port, p₆, calling, called⟩ := appended
  exact (sameHeader_pushOption ip).trans ((sameHeader_push name).trans ((sameHeader_push portId).trans
    ((sameHeader_push portType).trans ((sameHeader_pushOption port).trans
      ((sameHeader_push calling).trans (sameHeader_push called))))))

/-- An attribute that may be absent is added behind the others of its type. -/
theorem ofType_pushOption {α : Type} {type : UInt8} {build : α → Except PacketError Attribute}
    {octets : α → Bytes} (known : ∀ x a, build x = .ok a → a = ⟨type, octets x⟩) {value : Option α}
    (pushed : pushOption packet (value.map build) = .ok built) :
    built.ofType type = packet.ofType type ++ value.toList.map fun x => ⟨type, octets x⟩ := by
  cases value with
  | none =>
      cases pushed
      simp
  | some x => exact ofType_push (known x) pushed

variable [BigEndianRadiusProto] {ctx : RequestContext} {identifier : UInt8} {trigger : AcctTrigger}
variable {sessionId : String} {cls : Option Bytes} {secret : Bytes} {request : Packet}

/-- The attributes of an account, each once or not at all. -/
structure Written (ctx : RequestContext) (trigger : AcctTrigger) (sessionId : String)
    (cls : Option Bytes) (p : Packet) : Prop where
  status : p.ofType AttributeType.acctStatusType =
    [⟨AttributeType.acctStatusType, toBeBytes (acctStatus trigger)⟩]
  sessionId : p.ofType AttributeType.acctSessionId = [⟨AttributeType.acctSessionId, utf8 sessionId⟩]
  station : p.ofType AttributeType.callingStationId =
    [⟨AttributeType.callingStationId, utf8 (formatMac ctx.callingStation)⟩]
  class_ : p.ofType AttributeType.class_ = cls.toList.map fun v => ⟨AttributeType.class_, v⟩
  cause : p.ofType AttributeType.acctTerminateCause =
    (stopCause trigger).toList.map fun cause =>
      ⟨AttributeType.acctTerminateCause, toBeBytes (terminateCause cause)⟩

theorem written_accountingRequest
    (made : accountingRequest ctx identifier trigger sessionId cls secret = .ok request) :
    Written ctx trigger sessionId cls request := by
  simp only [accountingRequest, except_bind_eq_ok] at made
  obtain ⟨p₁, status, p₂, named, p₃, nas, p₄, echoed, p₅, stopped, done⟩ := made
  have finished : ∀ type, request.ofType type = p₅.ofType type := by
    cases done
    exact fun _ => rfl
  have coded : ∀ {type : UInt8} {n : UInt32}, ∀ a, attributeInteger type n = .ok a →
      a = ⟨type, toBeBytes n⟩ := fun a => BigEndianRadiusProto.attributeInteger_eq _ _ a
  have statused : ∀ type, type ≠ AttributeType.acctStatusType → Beside type _ p₁ := fun type other =>
    .push (attributeInteger_ne (Ne.symm other) _) status
  have titled : ∀ type, type ≠ AttributeType.acctSessionId → Beside type p₁ p₂ := fun type other =>
    .push (attributeString_ne (Ne.symm other) _) named
  have located : ∀ type, type ∉ nasTypes → Beside type p₂ p₃ := fun type other =>
    .appendNasAttributes other nas
  have classed : ∀ type, type ≠ AttributeType.class_ → Beside type p₃ p₄ := fun type other =>
    .pushOption (map_ne (attributeNew_ne (Ne.symm other)) _) echoed
  have ended : ∀ type, type ≠ AttributeType.acctTerminateCause → Beside type p₄ p₅ :=
    fun type other => .pushOption
      (map_ne (fun cause => attributeInteger_ne (Ne.symm other) (terminateCause cause)) _) stopped
  refine ⟨?_, ?_, ?_, ?_, ?_⟩
  · rw [finished, ended _ (by decide), classed _ (by decide), located _ (by decide),
      titled _ (by decide), ofType_push coded status, ofType_packetNew, List.nil_append]
  · rw [finished, ended _ (by decide), classed _ (by decide), located _ (by decide),
      ofType_push (LawfulRadiusProto.attributeString_eq _ sessionId) named, statused _ (by decide),
      ofType_packetNew, List.nil_append]
  · rw [finished, ended _ (by decide), classed _ (by decide), ofType_appendNasAttributes nas,
      titled _ (by decide), statused _ (by decide), ofType_packetNew, List.nil_append]
  · have added := ofType_pushOption (fun v => LawfulRadiusProto.attributeNew_eq _ v) echoed
    rw [finished, ended _ (by decide), added, located _ (by decide), titled _ (by decide),
      statused _ (by decide), ofType_packetNew, List.nil_append]
  · have added := ofType_pushOption (fun cause a => coded a) stopped
    rw [finished, added, classed _ (by decide), located _ (by decide), titled _ (by decide),
      statused _ (by decide), ofType_packetNew, List.nil_append]

omit [BigEndianRadiusProto] in
theorem header_accountingRequest
    (made : accountingRequest ctx identifier trigger sessionId cls secret = .ok request) :
    request.code = .accountingRequest ∧ request.identifier = identifier ∧
      Authentic secret request := by
  simp only [accountingRequest, except_bind_eq_ok] at made
  obtain ⟨p₁, status, p₂, named, p₃, nas, p₄, echoed, p₅, stopped, done⟩ := made
  have kept := (sameHeader_push status).trans ((sameHeader_push named).trans
    ((sameHeader_appendNasAttributes nas).trans ((sameHeader_pushOption echoed).trans
      (sameHeader_pushOption stopped))))
  rw [LawfulRadiusProto.packetNew_eq] at kept
  have blank : p₅.authenticator = Vector.replicate 16 0 := kept.authenticator
  cases done
  refine ⟨kept.code, kept.identifier, ?_⟩
  show calculateAccountingRequestAuthenticator p₅ secret =
    calculateAccountingRequestAuthenticator { p₅ with authenticator := Vector.replicate 16 0 } secret
  rw [← blank]

/-- **A server reads off an Accounting-Request what it was built from.** -/
theorem accounting_record_read
    (made : accountingRequest ctx identifier trigger sessionId cls secret = .ok request) :
    (request.code = .accountingRequest ∧ request.identifier = identifier ∧
      Authentic secret request) ∧
    readRecord request =
      some ⟨trigger, utf8 sessionId, cls, utf8 (formatMac ctx.callingStation)⟩ := by
  have written := written_accountingRequest made
  have status : findU32 request AttributeType.acctStatusType = some (acctStatus trigger) := by
    rw [findU32, findAttribute_eq_head, written.status]
    exact readU32_acctStatus AttributeType.acctStatusType trigger
  have cause : findU32 request AttributeType.acctTerminateCause =
      (stopCause trigger).map terminateCause := by
    rw [findU32, findAttribute_eq_head, written.cause]
    cases stopCause trigger with
    | none => rfl
    | some cause => exact readU32_terminateCause AttributeType.acctTerminateCause cause
  have named : findValue request AttributeType.acctSessionId = some (utf8 sessionId) := by
    rw [findValue, findAttribute_eq_head, written.sessionId]
    rfl
  have station : findValue request AttributeType.callingStationId =
      some (utf8 (formatMac ctx.callingStation)) := by
    rw [findValue, findAttribute_eq_head, written.station]
    rfl
  have echoed : findValue request AttributeType.class_ = cls := by
    rw [findValue, findAttribute_eq_head, written.class_]
    cases cls <;> rfl
  refine ⟨header_accountingRequest made, ?_⟩
  simp only [readRecord, status, cause, named, station, echoed, triggerOf_coded,
    Option.bind_eq_bind, Option.bind_some]
  rfl

end Built

section Alice

theorem codec_bigEndian (d : Digests) : @BigEndianRadiusProto (codec d) := by
  let _ := codec d
  exact ⟨fun _ _ _ fits => fitted_eq fits⟩

/-- The MD5 of alice's account, with a zero authenticator and `radsec` behind it. -/
def aliceRecordDigest : Auth16 :=
  #v[215, 237, 188, 30, 3, 222, 196, 180, 249, 150, 13, 185, 178, 214, 130, 72]

/-- The server reads that alice's session ran out of time. -/
theorem accounting_record_read_alice :
    let _ := codec ⟨fun _ => aliceRecordDigest, fun _ _ => aliceDigest⟩
    ∃ request, accountingRequest aliceContext 3 (.stop .sessionTimeout) "Ethernet0-1" (some alice)
        radsec = .ok request ∧
      (request.code = .accountingRequest ∧ request.identifier = 3 ∧ Authentic radsec request) ∧
      readRecord request = some ⟨.stop .sessionTimeout, utf8 "Ethernet0-1", some alice,
        utf8 (formatMac aliceContext.callingStation)⟩ := by
  intro _
  have _ : LawfulRadiusProto := codec_lawful _
  have _ : SizedRadiusProto := codec_sized _
  have _ : BigEndianRadiusProto := codec_bigEndian _
  have fits : ∀ value ∈ some alice, value.length ≤ maxAttrValue := by
    rintro value ⟨⟩
    decide
  obtain ⟨request, made⟩ : ∃ request, accountingRequest aliceContext 3 (.stop .sessionTimeout)
      "Ethernet0-1" (some alice) radsec = .ok request :=
    accountingRequest_ok ⟨by decide, by decide⟩ (by decide) fits
  exact ⟨request, made, accounting_record_read made⟩

end Alice

end Authenticator.Radius
