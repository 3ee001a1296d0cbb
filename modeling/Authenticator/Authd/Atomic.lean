/-
# Authd.Atomic -- what a failed call leaves behind

The two builders record the identity and the request before they build it, and
`handleReply` takes the outstanding request before it looks at the reply.  So a call that
fails has changed the session: a builder's slot now holds a request that was never sent,
and a reply that is refused has used up the request it was refused for.

`failed_call_atomic_iff` says for every session and every call when a failure is harmless all
the same.
-/
import Authenticator.Radius.Codec
import Authenticator.Authd.ReplyBinding

namespace Authenticator.Authd

set_option autoImplicit false

open Authenticator.Pacp Authenticator.Pae Authenticator.Radius Authenticator.Theory

namespace RadiusSession

/-- The call returned an error. -/
def Outcome.failed : Outcome → Bool
  | .built (.error _) => true
  | .handled (.error _) => true
  | _ => false

/-- What a session remembers of the conversation is the same. -/
structure Retains (s s' : RadiusSession) : Prop where
  userName : s'.userName = s.userName
  lastState : s'.lastState = s.lastState
  class_ : s'.class_ = s.class_
  pending : s'.pending = s.pending

section Calls

variable [RadiusProto]

def Fails (s : RadiusSession) (call : Call) : Prop :=
  ∃ outcome, (callMachine.step s call).2 = [outcome] ∧ outcome.failed = true

/-- After the call the session remembers what it did before, and accepts every reply that it
would have accepted before. -/
def Spares (s : RadiusSession) (call : Call) : Prop :=
  Retains s (callMachine.step s call).1 ∧
    ∀ genuine secret event, (handleReply genuine secret s).1 = .ok event →
      (handleReply genuine secret (callMachine.step s call).1).1 = .ok event

/-- What the call writes before it can fail is already there: the request and the identity
of a build; for a reply, no request outstanding. -/
def Call.Redundant (s : RadiusSession) : Call → Prop
  | .buildEapRequest _ identity _ authenticator _ =>
      (identity = none ∨ identity = s.userName) ∧ s.pending = some ⟨s.nextId, authenticator⟩
  | .buildMabRequest _ authenticator _ => s.pending = some ⟨s.nextId, authenticator⟩
  | .handleReply _ _ => s.pending = none

/-- A session with the same outstanding request accepts the same replies. -/
theorem accepts_of_pending {s s' : RadiusSession} (same : s'.pending = s.pending)
    (genuine : Packet) (secret : Bytes) (event : Event)
    (accepted : (handleReply genuine secret s).1 = .ok event) :
    (handleReply genuine secret s').1 = .ok event := by
  rw [handleReply_ok_iff] at accepted ⊢
  rw [same]
  exact accepted

theorem spares_of_retains {s : RadiusSession} {call : Call}
    (kept : Retains s (callMachine.step s call).1) : Spares s call :=
  ⟨kept, accepts_of_pending kept.pending⟩

theorem spares_buildEapRequest_iff (s : RadiusSession) (ctx : RequestContext)
    (identity : Option Bytes) (eap : Bytes) (authenticator : Auth16) (secret : Bytes) :
    Spares s (.buildEapRequest ctx identity eap authenticator secret) ↔
      (identity = none ∨ identity = s.userName) ∧ s.pending = some ⟨s.nextId, authenticator⟩ := by
  have left : (callMachine.step s (.buildEapRequest ctx identity eap authenticator secret)).1 =
      { s with userName := identity <|> s.userName, nextId := s.nextId + 1,
               pending := some ⟨s.nextId, authenticator⟩ } := by
    cases identity <;> rfl
  constructor
  · rintro ⟨kept, -⟩
    rw [left] at kept
    refine ⟨?_, kept.pending.symm⟩
    cases identity with
    | none => exact Or.inl rfl
    | some id => exact Or.inr kept.userName
  · rintro ⟨known, outstanding⟩
    refine spares_of_retains ?_
    rw [left]
    refine ⟨?_, rfl, rfl, outstanding.symm⟩
    rcases known with rfl | rfl
    · rfl
    · cases s.userName <;> rfl

theorem spares_handleReply_iff (s : RadiusSession) (reply : Packet) (secret : Bytes) :
    Spares s (.handleReply reply secret) ↔ s.pending = none := by
  constructor
  · rintro ⟨kept, -⟩
    have same : (handleReply reply secret s).2.pending = s.pending := kept.pending
    rw [pending_handleReply] at same
    exact same.symm
  · intro empty
    have idle : handleReply reply secret s = (.error .noPendingRequest, s) := by
      simp [handleReply, empty]
    refine spares_of_retains ?_
    show Retains s (handleReply reply secret s).2
    rw [idle]
    exact ⟨rfl, rfl, rfl, rfl⟩

/-- **When a failed call is atomic.**  For every session and every call that fails, the
User-Name, the `State`, the `Class` and the outstanding request are as before and the
genuine reply is still accepted if and only if the call had nothing to write: a build, the
request that is outstanding already and no other identity; a reply, no request to take. -/
theorem failed_call_atomic_iff (s : RadiusSession) (call : Call) :
    Fails s call → (Spares s call ↔ call.Redundant s) := by
  intro _
  cases call with
  | buildEapRequest ctx identity eap authenticator secret =>
      exact spares_buildEapRequest_iff s ctx identity eap authenticator secret
  | buildMabRequest ctx authenticator secret =>
      exact ⟨fun spares => spares.1.pending.symm,
        fun outstanding => spares_of_retains ⟨rfl, rfl, rfl, outstanding.symm⟩⟩
  | handleReply reply secret => exact spares_handleReply_iff s reply secret

end Calls

/-! ## A forged reply -/

/-- The digest of the Access-Reject below. -/
def rejectDigest : Auth16 :=
  #v[108, 233, 139, 3, 168, 200, 212, 239, 215, 128, 30, 72, 146, 191, 8, 33]

@[reducible] def rejectProto : RadiusProto := codec ⟨fun _ => rejectDigest, fun _ _ => rejectDigest⟩

/-- An Access-Reject with an Identifier. -/
def rejectOf (identifier : UInt8) : Packet where
  code := .accessReject
  identifier := identifier
  authenticator := rejectDigest
  attributes := []

/-- A session between two rounds: `alice` was challenged with a `State`, and let in with a
`Class` before. -/
def idle : RadiusSession where
  nextId := 2
  nextAcctId := 1
  lastState := some [3, 1]
  userName := some (utf8 "alice")
  class_ := some [7]

/-- A reply that nobody waits for changes nothing. -/
theorem failed_call_atomic_idle :
    let _ := rejectProto
    Spares idle (.handleReply (rejectOf 0) [1]) := by
  let _ := rejectProto
  exact (failed_call_atomic_iff idle (.handleReply (rejectOf 0) [1]) ⟨_, rfl, rfl⟩).mpr rfl

/-- A session that waits for the reply to its first request. -/
def waiting : RadiusSession := { nextId := 1, pending := some ⟨0, Vector.replicate 16 7⟩ }

/-- The first port of a switch. -/
def firstPort : RequestContext where
  nasIp := none
  nasIdentifier := "switch"
  nasPortId := "Ethernet0"
  nasPort := none
  callingStation := Vector.replicate 6 1
  calledStation := Vector.replicate 6 2

/-- A reply with another Identifier is refused and takes the outstanding request with it, so
the genuine reply, which would have been accepted, is refused too; and a build that fails
replaces the outstanding request and the identity. -/
theorem failed_call_not_atomic :
    let _ := rejectProto
    let after := (handleReply (rejectOf 1) [1] waiting).2
    let built := buildEapRequest firstPort (some [0xFF]) [2] (Vector.replicate 16 9) [1] waiting
    (handleReply (rejectOf 1) [1] waiting).1 = .error .replyVerificationFailed ∧
      after.pending ≠ waiting.pending ∧
      (handleReply (rejectOf 0) [1] waiting).1 = .ok (.accessReject none) ∧
      (handleReply (rejectOf 0) [1] after).1 = .error .noPendingRequest ∧
      built.1 = .error (.radius .invalidUserName) ∧ built.2.userName = some [0xFF] ∧
      built.2.pending ≠ waiting.pending := by
  decide +kernel

end RadiusSession

end Authenticator.Authd
