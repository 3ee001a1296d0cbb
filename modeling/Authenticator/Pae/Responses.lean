/-
# Pae.Responses -- which packets of a supplicant are relayed

A session does not look at the Identifier or the type of a Response: it relays the first one
that comes while a packet of its own is unanswered, in `Connecting` its Request/Identity and
in `Authenticating` the challenge, and drops all that come when none is.

`Dialogue` is what has been sent and relayed so far; `responses_relayed_once` reads the
result from its invariant, over all runs.
-/
import Authenticator.Pae.Exchange

namespace Authenticator.Pae

set_option autoImplicit false

open Authenticator.Pacp Authenticator.Theory

/-- The conversation with the supplicant: the packet it has not answered, and how many
packets were sent to it and relayed from it. -/
structure Dialogue where
  unanswered : Option Bytes := none
  sent : Nat := 0
  relayed : Nat := 0
  deriving DecidableEq, Repr

namespace Dialogue

/-- What an effect adds.  A bypass gives up on an answer. -/
def after (d : Dialogue) : Effect → Dialogue
  | .txEapToSupplicant eap => { d with unanswered := some eap, sent := d.sent + 1 }
  | .toAuthServer _ => { d with unanswered := none, relayed := d.relayed + 1 }
  | .startMab _ => { d with unanswered := none }
  | _ => d

/-- Every relayed packet has a sent one of its own, other than the unanswered one. -/
def Balanced (d : Dialogue) : Prop :=
  d.relayed + (if d.unanswered.isSome then 1 else 0) ≤ d.sent

/-- Effects that ask nothing relay nothing. -/
theorem Balanced.quiet {d : Dialogue} (balanced : d.Balanced) {fx : List Effect}
    (quiet : fx.filter Effect.isRequest = []) : (fx.foldl after d).Balanced := by
  induction fx generalizing d with
  | nil => exact balanced
  | cons effect rest ih =>
      have calm := List.filter_eq_nil_iff.mp quiet
      have later : rest.filter Effect.isRequest = [] :=
        List.filter_eq_nil_iff.mpr fun next member => calm next (List.mem_cons_of_mem _ member)
      refine ih ?_ later
      cases effect with
      | txEapToSupplicant eap =>
          unfold Balanced at balanced ⊢
          simp only [after, Option.isSome_some, if_true]
          omega
      | toAuthServer eap => exact absurd rfl (calm _ List.mem_cons_self)
      | startMab mac => exact absurd rfl (calm _ List.mem_cons_self)
      | _ => exact balanced

end Dialogue

def dialogueObserver : Observer Event Effect Dialogue where
  hear d _ := d
  see := Dialogue.after

/-- The session a list of events leads to, from a new session, and its conversation. -/
def dialogueRun (cfg : PaeConfig) (mac : MacAddr) (events : List Event) : PortSession × Dialogue :=
  (sessionMachine cfg).watchAll dialogueObserver (PortSession.new mac, {}) events

/-- A session that waits for its supplicant has sent it a packet that is unanswered. -/
structure DialogueInv (s : PortSession) (d : Dialogue) : Prop where
  prompted : s.state = .connecting → d.unanswered = some (requestIdentity s.eapId)
  challenged : s.state = .authenticating → d.unanswered.isSome = true
  balanced : d.Balanced

namespace DialogueInv

variable {cfg : PaeConfig} {s : PortSession} {d : Dialogue}

theorem awaited (inv : DialogueInv s d)
    (soliciting : s.state = .connecting ∨ s.state = .authenticating) :
    d.unanswered.isSome = true := by
  rcases soliciting with state | state
  · rw [inv.prompted state]
    rfl
  · exact inv.challenged state

/-- A session that ends up in another state owes only the balance. -/
theorem of_balanced (balanced : d.Balanced) (notPrompting : s.state ≠ .connecting)
    (notChallenging : s.state ≠ .authenticating) : DialogueInv s d :=
  ⟨fun state => absurd state notPrompting, fun state => absurd state notChallenging, balanced⟩

/-- **The step lemma of the conversation.** -/
theorem step (inv : DialogueInv s d) (event : Event) :
    DialogueInv (s.step event cfg).1 ((s.step event cfg).2.foldl Dialogue.after d) := by
  have moved := PortSession.step_transition cfg s event
  have quiet := moved.quiet_of_idle
  generalize (s.step event cfg).1 = s', (s.step event cfg).2 = fx at moved quiet ⊢
  have balanced : s'.state ≠ .authServer → (fx.foldl Dialogue.after d).Balanced :=
    fun idle => inv.balanced.quiet (quiet idle)
  cases moved with
  | ignored => exact inv
  | enabled => exact ⟨fun _ => rfl, nofun, balanced nofun⟩
  | solicited _ count cancel idle free cancels silent =>
      refine ⟨fun _ => ?_, nofun, balanced nofun⟩
      rcases cancels with rfl | ⟨kind, -, rfl⟩ <;> rfl
  | relayed eap kind auth waiting soliciting =>
      refine .of_balanced ?_ nofun nofun
      have before := inv.balanced
      simp only [Dialogue.Balanced, inv.awaited soliciting, if_true] at before
      exact before
  | bypassed soliciting closed =>
      refine .of_balanced ?_ nofun nofun
      have before := inv.balanced
      simp only [Dialogue.Balanced, inv.awaited (Or.inl soliciting), if_true] at before
      exact Nat.le_of_succ_le before
  | challenged => exact ⟨nofun, fun _ => rfl, balanced nofun⟩
  | authorized => exact .of_balanced (balanced nofun) nofun nofun
  | survived => exact .of_balanced (balanced nofun) nofun nofun
  | fellBack => exact .of_balanced (balanced nofun) nofun nofun
  | held => exact .of_balanced (balanced nofun) nofun nofun
  | coaAuthorized a running =>
      exact .of_balanced (balanced (by simp [running])) (by simp [running]) (by simp [running])
  | tornDown _ cause eap live silent =>
      have gone : (s.teardown cause).1.state = .new := by rw [(s.teardown_live cause live).1]
      exact .of_balanced (balanced (by simp [gone])) (by simp [gone]) (by simp [gone])
  | expired running =>
      refine ⟨fun _ => ?_, nofun, balanced nofun⟩
      rw [List.foldl_append]
      rfl

end DialogueInv

theorem dialogueInv_run (cfg : PaeConfig) (mac : MacAddr) (events : List Event) :
    DialogueInv (dialogueRun cfg mac events).1 (dialogueRun cfg mac events).2 := by
  let inv : PortSession × Dialogue → Prop := fun q => DialogueInv q.1 q.2
  have keeps : ∀ q event, inv q → inv ((sessionMachine cfg).watch dialogueObserver q event) :=
    fun _ event held => held.step event
  have start : inv (PortSession.new mac, {}) := ⟨nofun, nofun, Nat.le_refl 0⟩
  exact (sessionMachine cfg).watchAll_invariant' dialogueObserver keeps start events

namespace PortSession

variable {cfg : PaeConfig} {s : PortSession}

/-- What is relayed is a Response, as it came, to a session that waits for one. -/
theorem relayed_of_mem {event : Event} {packet : Bytes}
    (member : .toAuthServer packet ∈ (s.step event cfg).2) :
    ∃ eap, event = .eapFromSupplicant eap ∧ eap.code = .response ∧ packet = eap.packet ∧
      (s.state = .connecting ∨ s.state = .authenticating) := by
  have known : .toAuthServer packet ∈ (s.step event cfg).2.filter Effect.isRequest :=
    List.mem_filter.mpr ⟨member, rfl⟩
  rcases (step_transition cfg s event).asks with
    ⟨-, none⟩ | ⟨quiet, -⟩ | ⟨kind, request, asks, -, -, effects⟩
  · rw [none] at member
    cases member
  · rw [quiet] at known
    cases known
  · rw [effects] at member
    cases asks with
    | relay eap =>
        have same : packet = eap.packet := by simpa using member
        have emitted : .toAuthServer eap.packet ∈ (s.step (.eapFromSupplicant eap) cfg).2 := by
          rw [effects]
          simp
        have relays := (s.step_relays_iff cfg eap).mp ⟨_, emitted, rfl⟩
        exact ⟨eap, rfl, relays.1, same, relays.2⟩
    | bypass => simp at member

/-- A packet that comes when none is awaited changes nothing. -/
theorem step_eap_dropped (eap : InboundEap) (notPrompting : s.state ≠ .connecting)
    (notChallenging : s.state ≠ .authenticating) :
    s.step (.eapFromSupplicant eap) cfg = (s, []) := by
  cases state : s.state with
  | connecting => exact absurd state notPrompting
  | authenticating => exact absurd state notChallenging
  | _ => simp [step, state, inAuthServer, inAuthenticated, inHeld, inFallback]

end PortSession

/-- **Which Responses are relayed.**  In every run: a packet is relayed only for a Response
that comes while the last packet sent to the supplicant is unanswered, in `Connecting` the
Request/Identity with the current Identifier; a Response that comes in any other state
changes nothing; and no more Responses are relayed than packets were sent.  The Identifier
and the type of the Response do not matter. -/
theorem responses_relayed_once (cfg : PaeConfig) (mac : MacAddr) (events : List Event) :
    let q := dialogueRun cfg mac events
    (∀ event packet, .toAuthServer packet ∈ (q.1.step event cfg).2 →
      ∃ eap request, event = .eapFromSupplicant eap ∧ eap.code = .response ∧
        packet = eap.packet ∧ (q.1.state = .connecting ∨ q.1.state = .authenticating) ∧
        q.2.unanswered = some request ∧
        (q.1.state = .connecting → request = requestIdentity q.1.eapId)) ∧
    (∀ eap, q.1.state ≠ .connecting → q.1.state ≠ .authenticating →
      q.1.step (.eapFromSupplicant eap) cfg = (q.1, [])) ∧
    q.2.relayed ≤ q.2.sent := by
  intro q
  have inv := dialogueInv_run cfg mac events
  refine ⟨fun event packet member => ?_, fun eap => PortSession.step_eap_dropped eap, ?_⟩
  · obtain ⟨eap, rfl, response, same, soliciting⟩ := PortSession.relayed_of_mem member
    obtain ⟨request, unanswered⟩ := Option.isSome_iff_exists.mp (inv.awaited soliciting)
    refine ⟨eap, request, rfl, response, same, soliciting, unanswered, fun state => ?_⟩
    rw [inv.prompted state] at unanswered
    exact (Option.some.inj unanswered).symm
  · exact Nat.le_trans (Nat.le_add_right _ _) inv.balanced

/-- A Nak with Identifier 77 answers the Request/Identity with Identifier 1, and is relayed. -/
theorem mismatched_response_relayed :
    let q := dialogueRun {} (Vector.replicate 6 1) [.enable]
    let nak : InboundEap := ⟨.response, 77, some .nak, [2, 77, 0, 6, 3, 13]⟩
    q.1.state = .connecting ∧ q.2.unanswered = some (requestIdentity 1) ∧ nak.identifier ≠ 1 ∧
      nak.eapType ≠ some .identity ∧
      .toAuthServer nak.packet ∈ (q.1.step (.eapFromSupplicant nak) {}).2 := by
  decide

end Authenticator.Pae
