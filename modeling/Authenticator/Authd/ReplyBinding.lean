/-
# Authd.ReplyBinding -- a reply is bound to the call just before it

The three calls that touch the outstanding request of a `RadiusSession` are the two
builders, which record it whether or not they succeed, and `handleReply`, which takes it
whatever comes of it.  So the slot holds the request of the last call, if that was a build
(`pending_after`), and a reply can only be bound to that one (`accepted_iff`).

`replies_bound` is the result over every list of calls, with any arguments and any
outcomes: what an accepted reply is bound to, that each built request binds at most one,
and which reply the remembered `State` and `Class` come from.
-/
import Mathlib.Data.List.Induction
import Authenticator.Theory.Since
import Authenticator.Theory.Transducer
import Authenticator.Authd.Session

namespace Authenticator.Authd

set_option autoImplicit false

open Authenticator.Pacp Authenticator.Pae Authenticator.Radius Authenticator.Theory

namespace RadiusSession

/-- The calls on one session that touch the outstanding request. -/
inductive Call where
  | buildEapRequest (ctx : RequestContext) (identity : Option Bytes) (eap : Bytes)
      (requestAuthenticator : Auth16) (secret : Bytes)
  | buildMabRequest (ctx : RequestContext) (requestAuthenticator : Auth16) (secret : Bytes)
  | handleReply (reply : Packet) (secret : Bytes)

/-- The authenticator of the request a call builds. -/
def Call.authenticator : Call → Option Auth16
  | .buildEapRequest _ _ _ requestAuthenticator _ => some requestAuthenticator
  | .buildMabRequest _ requestAuthenticator _ => some requestAuthenticator
  | .handleReply _ _ => none

inductive Outcome where
  | built (request : Except AuthdError Packet)
  | handled (event : Except AuthdError Event)

/-- A reply was accepted. -/
def Outcome.accepted : Outcome → Bool
  | .handled (.ok _) => true
  | _ => false

section Calls

variable [RadiusProto]

def callMachine : Transducer RadiusSession Call Outcome where
  step s
    | .buildEapRequest ctx identity eap authenticator secret =>
        let r := buildEapRequest ctx identity eap authenticator secret s
        (r.2, [.built r.1])
    | .buildMabRequest ctx authenticator secret =>
        let r := buildMabRequest ctx authenticator secret s
        (r.2, [.built r.1])
    | .handleReply reply secret =>
        let r := RadiusSession.handleReply reply secret s
        (r.2, [.handled r.1])

/-- The session a list of calls leads to, from a fresh one. -/
def afterCalls (calls : List Call) : RadiusSession := (callMachine.run {} calls).1

theorem afterCalls_concat (calls : List Call) (call : Call) :
    afterCalls (calls ++ [call]) = (callMachine.step (afterCalls calls) call).1 := by
  unfold afterCalls
  rw [Transducer.run_concat]

/-! ## One call -/

/-- A build call records its request, keeps what is remembered of the server, and accepts
nothing. -/
theorem step_build (s : RadiusSession) {call : Call} {authenticator : Auth16}
    (builds : call.authenticator = some authenticator) :
    (callMachine.step s call).1.pending = some ⟨s.nextId, authenticator⟩ ∧
      (callMachine.step s call).1.lastState = s.lastState ∧
      (callMachine.step s call).1.class_ = s.class_ ∧
      (callMachine.step s call).2.countP Outcome.accepted = 0 := by
  cases call with
  | buildEapRequest ctx identity eap _ secret =>
      cases builds
      cases identity <;> exact ⟨rfl, rfl, rfl, rfl⟩
  | buildMabRequest ctx _ secret =>
      cases builds
      exact ⟨rfl, rfl, rfl, rfl⟩
  | handleReply reply secret => cases builds

/-! ## The outstanding request -/

/-- A reply leaves no request outstanding, whatever comes of it. -/
theorem pending_handleReply (s : RadiusSession) (reply : Packet) (secret : Bytes) :
    (handleReply reply secret s).2.pending = none := by
  have handling := handleReply_handling s reply secret
  generalize (handleReply reply secret s).1 = outcome, (handleReply reply secret s).2 = s'
    at handling ⊢
  cases handling with
  | idle empty => exact empty
  | _ => rfl

/-- The slot holds the request of the last call, if that was a build. -/
theorem pending_after (calls : List Call) (call : Call) :
    (afterCalls (calls ++ [call])).pending =
      call.authenticator.map fun authenticator => ⟨(afterCalls calls).nextId, authenticator⟩ := by
  rw [afterCalls_concat]
  cases call with
  | handleReply reply secret => exact pending_handleReply (afterCalls calls) reply secret
  | _ => exact (step_build (afterCalls calls) rfl).1

/-- The reply carries the Identifier of the request built by the last call of the history,
and verifies against its authenticator. -/
def Bound (calls : List Call) (reply : Packet) (secret : Bytes) : Prop :=
  ∃ earlier build authenticator, calls = earlier ++ [build] ∧
    build.authenticator = some authenticator ∧ reply.identifier = (afterCalls earlier).nextId ∧
    verifyReply reply authenticator secret = true

theorem bound_iff (calls : List Call) (reply : Packet) (secret : Bytes) :
    Bound calls reply secret ↔ ∃ pending, (afterCalls calls).pending = some pending ∧
      reply.identifier = pending.identifier ∧
      verifyReply reply pending.requestAuthenticator secret = true := by
  constructor
  · rintro ⟨earlier, build, authenticator, rfl, builds, identified, verified⟩
    refine ⟨⟨(afterCalls earlier).nextId, authenticator⟩, ?_, identified, verified⟩
    rw [pending_after, builds]
    rfl
  · rintro ⟨pending, outstanding, identified, verified⟩
    rcases List.eq_nil_or_concat' calls with rfl | ⟨earlier, build, rfl⟩
    · cases outstanding
    · rw [pending_after, Option.map_eq_some_iff] at outstanding
      obtain ⟨authenticator, builds, rfl⟩ := outstanding
      exact ⟨earlier, build, authenticator, rfl, builds, identified, verified⟩

/-- **A reply is accepted exactly when it is bound and parses.** -/
theorem accepted_iff (calls : List Call) (reply : Packet) (secret : Bytes) (event : Event) :
    (handleReply reply secret (afterCalls calls)).1 = .ok event ↔
      Bound calls reply secret ∧ parseReply reply = .ok event := by
  rw [handleReply_ok_iff, bound_iff]
  constructor
  · rintro ⟨pending, outstanding, identified, verified, parsed⟩
    exact ⟨⟨pending, outstanding, identified, verified⟩, parsed⟩
  · rintro ⟨⟨pending, outstanding, identified, verified⟩, parsed⟩
    exact ⟨pending, outstanding, identified, verified, parsed⟩

/-! ## What is remembered -/

/-- The call is a reply bound to the request before it. -/
def Verifies (calls : List Call) : Call → Prop
  | .handleReply reply secret => Bound calls reply secret
  | _ => False

/-- The call is an accepted Access-Accept. -/
def Accepts (calls : List Call) : Call → Prop
  | .handleReply reply secret =>
      ∃ a eap, (handleReply reply secret (afterCalls calls)).1 = .ok (.accessAccept a eap)
  | _ => False

/-- The `State` comes from the last verified reply. -/
def StateRemembered (calls : List Call) (state : Option Bytes) : Prop :=
  (Never Verifies calls ∧ state = none) ∨
    ∃ reply secret, state = extractState reply ∧
      Since (fun before call => call = .handleReply reply secret ∧ Bound before reply secret)
        Verifies calls

/-- The `Class` comes from the last accepted Access-Accept. -/
def ClassRemembered (calls : List Call) (class_ : Option Bytes) : Prop :=
  (Never Accepts calls ∧ class_ = none) ∨
    ∃ reply secret a eap, class_ = a.class_ ∧
      Since (fun before call => call = .handleReply reply secret ∧
        (handleReply reply secret (afterCalls before)).1 = .ok (.accessAccept a eap)) Accepts calls

theorem StateRemembered.concat {calls : List Call} {call : Call} {state : Option Bytes}
    (remembered : StateRemembered calls state) (quiet : ¬ Verifies calls call) :
    StateRemembered (calls ++ [call]) state := by
  rcases remembered with ⟨never, rfl⟩ | ⟨reply, secret, same, since⟩
  · exact Or.inl ⟨never_concat.mpr ⟨never, quiet⟩, rfl⟩
  · exact Or.inr ⟨reply, secret, same, since_concat.mpr (Or.inr ⟨since, quiet⟩)⟩

theorem ClassRemembered.concat {calls : List Call} {call : Call} {class_ : Option Bytes}
    (remembered : ClassRemembered calls class_) (quiet : ¬ Accepts calls call) :
    ClassRemembered (calls ++ [call]) class_ := by
  rcases remembered with ⟨never, rfl⟩ | ⟨reply, secret, a, eap, same, since⟩
  · exact Or.inl ⟨never_concat.mpr ⟨never, quiet⟩, rfl⟩
  · exact Or.inr ⟨reply, secret, a, eap, same, since_concat.mpr (Or.inr ⟨since, quiet⟩)⟩

/-- A bound reply is the one whose `State` is remembered. -/
theorem StateRemembered.of_bound {calls : List Call} {reply : Packet} {secret : Bytes}
    (bound : Bound calls reply secret) :
    StateRemembered (calls ++ [.handleReply reply secret]) (extractState reply) :=
  Or.inr ⟨reply, secret, rfl, since_concat.mpr (Or.inl ⟨rfl, bound⟩)⟩

/-- An accepted Access-Accept is the one whose `Class` is remembered. -/
theorem ClassRemembered.of_accepted {calls : List Call} {reply : Packet} {secret : Bytes}
    {a : Authorization} {eap : Option Bytes}
    (accepted : (handleReply reply secret (afterCalls calls)).1 = .ok (.accessAccept a eap)) :
    ClassRemembered (calls ++ [.handleReply reply secret]) a.class_ :=
  Or.inr ⟨reply, secret, a, eap, rfl, since_concat.mpr (Or.inl ⟨rfl, accepted⟩)⟩

/-- The step lemma of what is remembered. -/
theorem remembered_concat {calls : List Call} (call : Call)
    (state : StateRemembered calls (afterCalls calls).lastState)
    (class_ : ClassRemembered calls (afterCalls calls).class_) :
    StateRemembered (calls ++ [call]) (afterCalls (calls ++ [call])).lastState ∧
      ClassRemembered (calls ++ [call]) (afterCalls (calls ++ [call])).class_ := by
  have built : ∀ authenticator, call.authenticator = some authenticator →
      ¬ Verifies calls call → ¬ Accepts calls call →
      StateRemembered (calls ++ [call]) (afterCalls (calls ++ [call])).lastState ∧
        ClassRemembered (calls ++ [call]) (afterCalls (calls ++ [call])).class_ := by
    intro authenticator builds unverified unaccepted
    obtain ⟨-, sameState, sameClass, -⟩ := step_build (afterCalls calls) builds
    rw [afterCalls_concat, sameState, sameClass]
    exact ⟨state.concat unverified, class_.concat unaccepted⟩
  cases call with
  | buildEapRequest ctx identity eap authenticator secret => exact built _ rfl not_false not_false
  | buildMabRequest ctx authenticator secret => exact built _ rfl not_false not_false
  | handleReply reply secret =>
      have handling := handleReply_handling (afterCalls calls) reply secret
      have bound := bound_iff calls reply secret
      have accepts : Accepts calls (.handleReply reply secret) ↔ ∃ a eap,
        (RadiusSession.handleReply reply secret (afterCalls calls)).1 =
          .ok (.accessAccept a eap) := Iff.rfl
      rw [afterCalls_concat]
      show StateRemembered _ (RadiusSession.handleReply reply secret (afterCalls calls)).2.lastState ∧
        ClassRemembered _ (RadiusSession.handleReply reply secret (afterCalls calls)).2.class_
      generalize ended : (RadiusSession.handleReply reply secret (afterCalls calls)).1 = outcome,
        (RadiusSession.handleReply reply secret (afterCalls calls)).2 = s' at handling accepts ⊢
      cases handling with
      | idle empty =>
          refine ⟨state.concat fun holds => ?_, class_.concat (by simp [accepts])⟩
          obtain ⟨pending, outstanding, -⟩ := bound.mp holds
          rw [empty] at outstanding
          cases outstanding
      | refused pending outstanding unbound =>
          refine ⟨state.concat fun holds => ?_, class_.concat (by simp [accepts])⟩
          obtain ⟨other, same, both⟩ := bound.mp holds
          rw [outstanding] at same
          cases same
          exact unbound both
      | unparsed pending outstanding identified verified e parsed =>
          exact ⟨.of_bound (bound.mpr ⟨pending, outstanding, identified, verified⟩),
            class_.concat (by simp [accepts])⟩
      | granted pending outstanding identified verified a eap parsed =>
          exact ⟨.of_bound (bound.mpr ⟨pending, outstanding, identified, verified⟩),
            .of_accepted ended⟩
      | answered pending outstanding identified verified event parsed other =>
          refine ⟨.of_bound (bound.mpr ⟨pending, outstanding, identified, verified⟩),
            class_.concat ?_⟩
          rw [accepts]
          rintro ⟨a, eap, same⟩
          exact other a eap (Except.ok.inj same)

theorem remembered (calls : List Call) :
    StateRemembered calls (afterCalls calls).lastState ∧
      ClassRemembered calls (afterCalls calls).class_ := by
  induction calls using List.reverseRecOn with
  | nil => exact ⟨Or.inl ⟨never_nil, rfl⟩, Or.inl ⟨never_nil, rfl⟩⟩
  | append_singleton calls call ih => exact remembered_concat call ih.1 ih.2

/-! ## At most one reply for each request -/

/-- Every accepted reply, and the request still outstanding, has a build call of its own. -/
theorem accepted_le_built (calls : List Call) :
    (callMachine.run {} calls).2.countP Outcome.accepted +
        (afterCalls calls).pending.isSome.toNat ≤
      calls.countP fun call => call.authenticator.isSome := by
  induction calls using List.reverseRecOn with
  | nil => exact Nat.le_refl 0
  | append_singleton calls call ih =>
      rw [pending_after, Transducer.run_concat, List.countP_append, List.countP_append]
      show _ + (callMachine.step (afterCalls calls) call).2.countP _ + _ ≤ _
      cases call with
      | handleReply reply secret =>
          have handling := handleReply_handling (afterCalls calls) reply secret
          show _ + [Outcome.handled
            (RadiusSession.handleReply reply secret (afterCalls calls)).1].countP _ + 0 ≤ _ + 0
          generalize (RadiusSession.handleReply reply secret (afterCalls calls)).1 = outcome,
            (RadiusSession.handleReply reply secret (afterCalls calls)).2 = s' at handling
          cases handling with
          | granted pending outstanding =>
              rw [outstanding] at ih
              exact ih
          | answered pending outstanding =>
              rw [outstanding] at ih
              exact ih
          | _ =>
              show _ + 0 + 0 ≤ _
              omega
      | _ =>
          rw [(step_build (afterCalls calls) rfl).2.2.2]
          show _ + 0 + 1 ≤ _ + 1
          omega

/-- **Reply binding.**  After any list of calls: a reply is accepted only if the last call
is a build whose Identifier it carries and against whose authenticator it verifies; there
are never more accepted replies than built requests; a reply accepted after another one,
the same or not, is bound to a request built in between; and the remembered `State` and
`Class` are those of the last verified reply and of the last accepted Access-Accept. -/
theorem replies_bound :
    (∀ calls reply secret event, (handleReply reply secret (afterCalls calls)).1 = .ok event →
      Bound calls reply secret) ∧
    (∀ calls, (callMachine.run {} calls).2.countP Outcome.accepted ≤
      calls.countP fun call => call.authenticator.isSome) ∧
    (∀ calls reply secret event between again secret' event',
      (handleReply reply secret (afterCalls calls)).1 = .ok event →
      (handleReply again secret' (afterCalls (calls ++ .handleReply reply secret :: between))).1 =
        .ok event' →
      ∃ later build authenticator, between = later ++ [build] ∧
        build.authenticator = some authenticator ∧
        again.identifier = (afterCalls (calls ++ .handleReply reply secret :: later)).nextId ∧
        verifyReply again authenticator secret' = true) ∧
    ∀ calls, StateRemembered calls (afterCalls calls).lastState ∧
      ClassRemembered calls (afterCalls calls).class_ := by
  refine ⟨?_, ?_, ?_, remembered⟩
  · intro calls reply secret event accepted
    exact ((accepted_iff calls reply secret event).mp accepted).1
  · intro calls
    have counted := accepted_le_built calls
    omega
  · intro calls reply secret event between again secret' event' _ accepted
    obtain ⟨⟨earlier, build, authenticator, split, builds, identified, verified⟩, -⟩ :=
      (accepted_iff _ again secret' event').mp accepted
    rcases List.eq_nil_or_concat' between with rfl | ⟨later, last, rfl⟩
    · obtain ⟨-, same⟩ := List.append_inj' split rfl
      rw [← List.singleton_inj.mp same] at builds
      cases builds
    · rw [← List.cons_append, ← List.append_assoc] at split
      obtain ⟨rfl, same⟩ := List.append_inj' split rfl
      rw [← List.singleton_inj.mp same] at builds
      exact ⟨later, last, authenticator, rfl, builds, identified, verified⟩

end Calls

end RadiusSession

end Authenticator.Authd
