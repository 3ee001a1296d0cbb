/-
# Pae.Contact -- what creates a session

A port admits a session for any event of a MAC it does not know, as long as it has room:
`admit` brings the session into service before it looks at the event.  So a timer that
fires late, a reply that comes late or a CoA request for a departed supplicant solicits it
anew, and only a full port drops them.  `uncalled_events_dropped_iff` is over all runs.
-/
import Authenticator.Pae.PortLanes

namespace Authenticator.Pae

set_option autoImplicit false

open Authenticator.Pacp Authenticator.Theory

/-- The events that no frame of the supplicant causes: expiries, replies and CoA. -/
def Event.Uncalled : Event → Prop
  | .timer _ | .accessChallenge _ | .accessAccept _ _ | .accessReject _ | .serverUnreachable
  | .coaDisconnect | .coaReauthenticate | .coaAuthorize _ => True
  | _ => False

/-- No frame of `mac` comes in: its own inputs are uncalled, those of others are any. -/
def Without (mac : MacAddr) (input : PortInput) : Prop :=
  ∀ event, input = .handle mac event → event.Uncalled

/-- An event of `mac` finds the port full. -/
def FindsFull (mac : MacAddr) (q : PortPae × Postures) (input : PortInput) : Prop :=
  ∀ event, input = .handle mac event → q.1.canAdmit = false

/-- The input leaves `mac` without a session, and an event of `mac` has no effects. -/
def Drops (mac : MacAddr) (q : PortPae × Postures) (input : PortInput) : Prop :=
  (portMachine.step q.1 input).1.session mac = none ∧
    ∀ event, input = .handle mac event → (portMachine.step q.1 input).2 = []

/-- An admitted session is announced. -/
theorem admitted_ne_nil (cfg : PaeConfig) (mac : MacAddr) (event : Event) :
    (admitted cfg mac event).2 ≠ [] := by
  unfold admitted
  split <;> simp [PortSession.step, PortSession.enable, PortSession.after]

/-- **An event of an unknown MAC** is dropped exactly when the port is full. -/
theorem handle_unknown_iff {p : PortPae} {P : Postures} (inv : PortInv p P) {mac : MacAddr}
    (unknown : p.session mac = none) (event : Event) :
    ((p.handle mac event).2 = [] ∧ (p.handle mac event).1.session mac = none) ↔
      p.canAdmit = false := by
  rcases p.handle_lane inv mac event with ⟨-, full, same⟩ | ⟨room, -, emitted⟩
  · rw [same]
    exact ⟨fun _ => full, fun _ => ⟨rfl, unknown⟩⟩
  · have free := room unknown
    rw [free, emitted, unknown]
    refine ⟨?_, by simp⟩
    rintro ⟨silent, -⟩
    exact absurd (List.map_eq_nil_iff.mp silent) (admitted_ne_nil p.cfg mac event)

/-- The events of other MACs, and a lost link, bring no session of `mac`. -/
theorem session_of_others {p : PortPae} {P : Postures} (inv : PortInv p P) {mac : MacAddr}
    (unknown : p.session mac = none) {input : PortInput}
    (others : ∀ event, input ≠ .handle mac event) :
    (portMachine.step p input).1.session mac = none := by
  cases input with
  | linkDown => exact p.linkDown_session inv mac
  | handle other event =>
      have foreign : mac ≠ other := by
        rintro rfl
        exact others event rfl
      show (p.handle other event).1.session mac = none
      rcases p.handle_lane inv other event with ⟨-, -, same⟩ | ⟨-, moved, -⟩
      · rw [same]
        exact unknown
      · rw [moved, Function.update_of_ne foreign]
        exact unknown

theorem drops_iff {q : PortPae × Postures} (inv : PortInv q.1 q.2) {mac : MacAddr}
    (unknown : q.1.session mac = none) (input : PortInput) :
    Drops mac q input ↔ FindsFull mac q input := by
  by_cases own : ∃ event, input = .handle mac event
  · obtain ⟨event, rfl⟩ := own
    have dropped := handle_unknown_iff inv unknown event
    constructor
    · rintro ⟨absent, silent⟩ _ _
      exact dropped.mp ⟨silent event rfl, absent⟩
    · intro full
      obtain ⟨silent, absent⟩ := dropped.mpr (full event rfl)
      exact ⟨absent, fun _ _ => silent⟩
  · have others : ∀ event, input ≠ .handle mac event := fun event same => own ⟨event, same⟩
    exact ⟨fun _ event same => absurd same (others event),
      fun _ => ⟨session_of_others inv unknown others, fun event same => absurd same (others event)⟩⟩

/-- **What a departed supplicant's late events do.**  On every reachable port without a
session of `mac`, an expiry, a reply or a CoA request for `mac` is dropped without effect
if and only if the port has no room; and over every further run in which no frame of `mac`
comes in, all of them are dropped and `mac` stays without a session if and only if each of
them found the port full. -/
theorem uncalled_events_dropped_iff (cfg : PaeConfig) (inputs : List PortInput) (mac : MacAddr)
    (unknown : (portRun cfg inputs).1.session mac = none) :
    (∀ event, event.Uncalled →
      (((portRun cfg inputs).1.handle mac event).2 = [] ∧
          ((portRun cfg inputs).1.handle mac event).1.session mac = none ↔
        (portRun cfg inputs).1.canAdmit = false)) ∧
    ∀ later, (∀ input ∈ later, Without mac input) →
      (portMachine.Admits portObserver (Drops mac) (portRun cfg inputs) later ↔
        portMachine.Admits portObserver (FindsFull mac) (portRun cfg inputs) later) := by
  obtain ⟨-, inv⟩ := portInv_run cfg inputs
  refine ⟨fun event _ => handle_unknown_iff inv unknown event, fun later silent => ?_⟩
  let quiet : PortPae × Postures → Prop := fun q => PortInv q.1 q.2 ∧ q.1.session mac = none
  have same : ∀ q input, quiet q → Without mac input → (Drops mac q input ↔ FindsFull mac q input) :=
    fun q input held _ => drops_iff held.1 held.2 input
  have keeps : ∀ q input, quiet q → Without mac input → Drops mac q input →
      quiet (portMachine.watch portObserver q input) := by
    intro q input held _ dropped
    exact ⟨portInv_step held.1 input, dropped.1⟩
  exact portMachine.admits_congr portObserver same keeps ⟨inv, unknown⟩ later silent

/-- A second supplicant's late expiry on a single-host port that is taken. -/
theorem uncalled_events_dropped_single :
    let taken := (portRun { hostMode := .singleHost } [.handle (Vector.replicate 6 1) .eapolStart]).1
    let guest : MacAddr := Vector.replicate 6 2
    (taken.handle guest (.timer .txPeriod)).2 = [] ∧
      (taken.handle guest (.timer .txPeriod)).1.session guest = none := by
  intro taken guest
  have dropped := uncalled_events_dropped_iff { hostMode := .singleHost }
    [.handle (Vector.replicate 6 1) .eapolStart] guest (by decide)
  exact (dropped.1 (.timer .txPeriod) trivial).mpr (by decide)

/-- After a login and a logoff, the `tx-period` expiry that was still queued admits the
supplicant again. -/
theorem late_expiry_readmits :
    ¬ ∀ (cfg : PaeConfig) (inputs : List PortInput) (mac : MacAddr),
      (portRun cfg inputs).1.session mac = none → ∀ event, event.Uncalled →
        ((portRun cfg inputs).1.handle mac event).2 = [] ∧
          ((portRun cfg inputs).1.handle mac event).1.session mac = none := by
  intro claim
  have dropped := (claim { hostMode := .singleHost }
    [.handle (Vector.replicate 6 1) .eapolStart, .handle (Vector.replicate 6 1) .eapolLogoff]
    (Vector.replicate 6 1) (by decide) (.timer .txPeriod) trivial).2
  revert dropped
  decide

end Authenticator.Pae
