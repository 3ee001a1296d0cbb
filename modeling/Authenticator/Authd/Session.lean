/-
# Authd.Session -- RADIUS correlation of one supplicant session

`RadiusSession` allocates Identifiers, echoes the server's `State`, remembers the
outstanding request and binds a reply to it.  Its operations are `Prog`s: a build
that fails has still consumed an Identifier and recorded the request.
-/
import Authenticator.Theory.Prog
import Authenticator.Radius.Reply

namespace Authenticator.Authd

set_option autoImplicit false

open Authenticator.Pacp Authenticator.Pae Authenticator.Radius Authenticator.Theory

/-- The daemon's error; the payloads of the transport and configuration errors are
only displayed. -/
inductive AuthdError where
  | config
  | radius (e : RadiusClientError)
  | noPendingRequest
  | replyVerificationFailed
  | radSec
  | eapol
  | enforce (message : String)
  | frame
  deriving DecidableEq, Repr

/-- The in-flight request awaiting a reply. -/
structure Pending where
  identifier : UInt8
  requestAuthenticator : Auth16
  deriving DecidableEq, Repr

/-- RADIUS correlation state for one supplicant session. -/
structure RadiusSession where
  nextId : UInt8 := 0
  nextAcctId : UInt8 := 0
  lastState : Option Bytes := none
  userName : Option Bytes := none
  pending : Option Pending := none
  class_ : Option Bytes := none
  deriving DecidableEq, Repr

namespace RadiusSession

section Code

/-- Allocate the next Access-Request Identifier (wraps at 256). -/
def nextIdentifier : Prog AuthdError RadiusSession UInt8 := fun s =>
  (.ok s.nextId, { s with nextId := s.nextId + 1 })

/-- Allocate the next Accounting-Request Identifier. -/
def nextAccountingIdentifier : Prog AuthdError RadiusSession UInt8 := fun s =>
  (.ok s.nextAcctId, { s with nextAcctId := s.nextAcctId + 1 })

/-- Remember the identity of the round that carries one. -/
def rememberIdentity : Option Bytes → Prog AuthdError RadiusSession Unit
  | some id => Prog.modify fun s => { s with userName := some id }
  | none => pure ()

def setPending (pending : Pending) : Prog AuthdError RadiusSession Unit :=
  Prog.modify fun s => { s with pending := some pending }

variable [RadiusProto]

/-- Build an EAP pass-through Access-Request, echoing the current `State`. -/
def buildEapRequest (ctx : RequestContext) (identity : Option Bytes) (eap : Bytes)
    (requestAuthenticator : Auth16) (secret : Bytes) : Prog AuthdError RadiusSession Packet := do
  rememberIdentity identity
  let identifier ← nextIdentifier
  setPending ⟨identifier, requestAuthenticator⟩
  let s ← Prog.get
  Prog.ofExcept ((accessRequestEap ctx identifier requestAuthenticator s.userName s.lastState eap
    secret).mapError .radius)

/-- Build a MAC Authentication Bypass Access-Request. -/
def buildMabRequest (ctx : RequestContext) (requestAuthenticator : Auth16) (secret : Bytes) :
    Prog AuthdError RadiusSession Packet := do
  let identifier ← nextIdentifier
  setPending ⟨identifier, requestAuthenticator⟩
  Prog.ofExcept ((accessRequestMab ctx identifier requestAuthenticator secret).mapError .radius)

/-- Verify a reply against the outstanding request, parse it, and remember its
`State` and `Class`. -/
def handleReply (reply : Packet) (secret : Bytes) : Prog AuthdError RadiusSession Event := fun s =>
  match s.pending with
  | none => (.error .noPendingRequest, s)
  | some pending =>
      let s := { s with pending := none }
      if reply.identifier ≠ pending.identifier then (.error .replyVerificationFailed, s)
      else if verifyReply reply pending.requestAuthenticator secret = false then
        (.error .replyVerificationFailed, s)
      else
        let s := { s with lastState := extractState reply }
        match parseReply reply with
        | .error e => (.error (.radius e), s)
        | .ok (.accessAccept authorization eap) =>
            (.ok (.accessAccept authorization eap), { s with class_ := authorization.class_ })
        | .ok event => (.ok event, s)

/-- Build an Accounting-Request of the given status, echoing `Class`. -/
def buildAccounting (s : RadiusSession) (ctx : RequestContext) (identifier : UInt8)
    (trigger : AcctTrigger) (sessionId : String) (secret : Bytes) : Except AuthdError Packet :=
  (accountingRequest ctx identifier trigger sessionId s.class_ secret).mapError .radius

end Code

/-! ## What the operations do -/

section Spec

variable [RadiusProto]

/-- A packet that one of the two builders made for `mac`, with the Identifier and the
authenticator of the outstanding request. -/
inductive Requests (secret : Bytes) (mac : MacAddr) (pending : Pending) (request : Packet) : Prop
  | eap (ctx : RequestContext) (station : ctx.callingStation = mac) (identity state : Option Bytes)
      (eap : Bytes)
      (built : accessRequestEap ctx pending.identifier pending.requestAuthenticator identity state
        eap secret = .ok request)
  | mab (ctx : RequestContext) (station : ctx.callingStation = mac)
      (built : accessRequestMab ctx pending.identifier pending.requestAuthenticator secret =
        .ok request)

/-- A built request is the outstanding one. -/
theorem buildEapRequest_eq_ok {ctx : RequestContext} {identity : Option Bytes} {eap secret : Bytes}
    {authenticator : Auth16} {s s' : RadiusSession} {request : Packet}
    (built : buildEapRequest ctx identity eap authenticator secret s = (.ok request, s')) :
    ∃ pending, s'.pending = some pending ∧
      Requests secret ctx.callingStation pending request := by
  cases identity with
  | none =>
      obtain ⟨packet, done⟩ := Prod.mk.inj built
      exact ⟨⟨s.nextId, authenticator⟩, by rw [← done],
        .eap ctx rfl _ _ eap (mapError_eq_ok.mp packet)⟩
  | some id =>
      obtain ⟨packet, done⟩ := Prod.mk.inj built
      exact ⟨⟨s.nextId, authenticator⟩, by rw [← done],
        .eap ctx rfl _ _ eap (mapError_eq_ok.mp packet)⟩

theorem buildMabRequest_eq_ok {ctx : RequestContext} {secret : Bytes} {authenticator : Auth16}
    {s s' : RadiusSession} {request : Packet}
    (built : buildMabRequest ctx authenticator secret s = (.ok request, s')) :
    ∃ pending, s'.pending = some pending ∧
      Requests secret ctx.callingStation pending request := by
  obtain ⟨packet, done⟩ := Prod.mk.inj built
  exact ⟨⟨s.nextId, authenticator⟩, by rw [← done], .mab ctx rfl (mapError_eq_ok.mp packet)⟩

/-- What handling a reply does, by what stands outstanding. -/
inductive Handling (s : RadiusSession) (reply : Packet) (secret : Bytes) :
    Except AuthdError Event → RadiusSession → Prop
  | idle (empty : s.pending = none) : Handling s reply secret (.error .noPendingRequest) s
  | refused (pending : Pending) (outstanding : s.pending = some pending)
      (unbound : ¬ (reply.identifier = pending.identifier ∧
        verifyReply reply pending.requestAuthenticator secret = true)) :
      Handling s reply secret (.error .replyVerificationFailed) { s with pending := none }
  | unparsed (pending : Pending) (outstanding : s.pending = some pending)
      (identified : reply.identifier = pending.identifier)
      (verified : verifyReply reply pending.requestAuthenticator secret = true)
      (e : RadiusClientError) (parsed : parseReply reply = .error e) :
      Handling s reply secret (.error (.radius e))
        { s with pending := none, lastState := extractState reply }
  | granted (pending : Pending) (outstanding : s.pending = some pending)
      (identified : reply.identifier = pending.identifier)
      (verified : verifyReply reply pending.requestAuthenticator secret = true)
      (a : Authorization) (eap : Option Bytes)
      (parsed : parseReply reply = .ok (.accessAccept a eap)) :
      Handling s reply secret (.ok (.accessAccept a eap))
        { s with pending := none, lastState := extractState reply, class_ := a.class_ }
  | answered (pending : Pending) (outstanding : s.pending = some pending)
      (identified : reply.identifier = pending.identifier)
      (verified : verifyReply reply pending.requestAuthenticator secret = true)
      (event : Event) (parsed : parseReply reply = .ok event)
      (other : ∀ a eap, event ≠ .accessAccept a eap) :
      Handling s reply secret (.ok event)
        { s with pending := none, lastState := extractState reply }

/-- **Everything `handleReply` can do is a `Handling`.** -/
theorem handleReply_handling (s : RadiusSession) (reply : Packet) (secret : Bytes) :
    Handling s reply secret (handleReply reply secret s).1 (handleReply reply secret s).2 := by
  unfold handleReply
  split
  · rename_i empty
    exact .idle empty
  · rename_i pending outstanding
    dsimp only
    split
    · rename_i mismatch
      exact .refused pending outstanding fun bound => mismatch bound.1
    · rename_i matched
      have identified : reply.identifier = pending.identifier := by simpa using matched
      split
      · rename_i unverified
        refine .refused pending outstanding fun bound => ?_
        rw [bound.2] at unverified
        cases unverified
      · rename_i passed
        have verified : verifyReply reply pending.requestAuthenticator secret = true := by
          simpa using passed
        split
        · rename_i e parsed
          exact .unparsed pending outstanding identified verified e parsed
        · rename_i a eap parsed
          exact .granted pending outstanding identified verified a eap parsed
        · rename_i event other parsed
          exact .answered pending outstanding identified verified event parsed other

/-- A reply that is taken matches the outstanding request, verifies against it and
parses to the event; and such a reply is taken. -/
theorem handleReply_ok_iff {reply : Packet} {secret : Bytes} {s : RadiusSession} {event : Event} :
    (handleReply reply secret s).1 = .ok event ↔
      ∃ pending, s.pending = some pending ∧ reply.identifier = pending.identifier ∧
        verifyReply reply pending.requestAuthenticator secret = true ∧
        parseReply reply = .ok event := by
  have handling := handleReply_handling s reply secret
  generalize (handleReply reply secret s).1 = outcome, (handleReply reply secret s).2 = s'
    at handling ⊢
  cases handling with
  | idle empty => simp [empty]
  | refused pending outstanding unbound =>
      constructor
      · intro accepted
        cases accepted
      · rintro ⟨other, same, identified, verified, -⟩
        rw [outstanding] at same
        cases same
        exact absurd ⟨identified, verified⟩ unbound
  | unparsed pending outstanding identified verified e parsed => simp [parsed]
  | granted pending outstanding identified verified a eap parsed =>
      simp [outstanding, identified, verified, parsed]
  | answered pending outstanding identified verified taken parsed other =>
      simp [outstanding, identified, verified, parsed]

theorem handleReply_eq_ok {reply : Packet} {secret : Bytes} {s s' : RadiusSession} {event : Event}
    (handled : handleReply reply secret s = (.ok event, s')) :
    ∃ pending, s.pending = some pending ∧ reply.identifier = pending.identifier ∧
      verifyReply reply pending.requestAuthenticator secret = true ∧
      parseReply reply = .ok event :=
  handleReply_ok_iff.mp (congrArg Prod.fst handled)

/-- What the request for `mac` says, when the codec keeps its laws. -/
theorem Requests.builtFor [LawfulRadiusProto] {secret : Bytes} {mac : MacAddr} {pending : Pending}
    {request : Packet} (requests : Requests secret mac pending request) :
    BuiltFor mac pending.identifier pending.requestAuthenticator request := by
  cases requests with
  | eap ctx station identity state eap built =>
      subst station
      exact accessRequestEap_builtFor built
  | mab ctx station built =>
      subst station
      exact accessRequestMab_builtFor built

end Spec

end RadiusSession

end Authenticator.Authd
