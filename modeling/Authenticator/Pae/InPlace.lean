/-
# Pae.InPlace -- an authorization changed in place

A CoA request that changes the authorization is applied in `Authenticated` only, while the
port is open in every state of a re-authentication.  A change that comes in between is
dropped, and a re-authentication that the server does not answer returns to the grant it
should have replaced.

`change_kept_iff` is over all runs: the change is applied, and is in force on every later
return to `Authenticated`, exactly if no re-authentication was under way.
-/
import Authenticator.Pae.SessionPosture

namespace Authenticator.Pae

set_option autoImplicit false

open Authenticator.Pacp Authenticator.Theory

/-- The events that may replace the grant of an open session. -/
def Event.Regrants : Event → Prop
  | .accessAccept _ _ | .coaAuthorize _ => True
  | _ => False

namespace PortSession

variable {cfg : PaeConfig} {s : PortSession} {event : Event}

/-- A session that is open after another event was open before, with the same grant. -/
theorem authz_of_open (other : ¬ event.Regrants)
    (opened : (s.step event cfg).1.accountingOpen = true) :
    s.accountingOpen = true ∧ (s.step event cfg).1.authz = s.authz := by
  have moved := step_transition cfg s event
  generalize (s.step event cfg).1 = s', (s.step event cfg).2 = fx at moved opened
  cases moved with
  | enabled => cases opened
  | authorized a eap asked => exact absurd trivial other
  | coaAuthorized a running => exact absurd trivial other
  | tornDown _ cause eap live silent =>
      rw [(s.teardown_live cause live).1] at opened
      cases opened
  | expired running =>
      rw [(s.teardown_live .sessionTimeout (by simp [running])).1] at opened
      cases opened
  | _ => exact ⟨opened, rfl⟩

end PortSession

/-- The grant of the session, while it is open, is `a`, and the posture agrees. -/
def InForce (cfg : PaeConfig) (a : Authorization) (q : PortSession × Option PortAuthorization) :
    Prop :=
  PostureInv cfg q.1 q.2 ∧ (q.1.accountingOpen = true → q.1.authz = some a)

/-- **A grant stays in force** as long as no event replaces it. -/
theorem inForce_run {cfg : PaeConfig} {a : Authorization}
    {q : PortSession × Option PortAuthorization} (held : InForce cfg a q) (later : List Event)
    (others : ∀ event ∈ later, ¬ event.Regrants) :
    InForce cfg a ((sessionMachine cfg).watchAll postureObserver q later) := by
  have keeps : ∀ q event, InForce cfg a q → ¬ event.Regrants →
      InForce cfg a ((sessionMachine cfg).watch postureObserver q event) := by
    intro q event held other
    refine ⟨PortSession.postureInv_step held.1 event, fun opened => ?_⟩
    obtain ⟨before, same⟩ := PortSession.authz_of_open other opened
    exact same.trans (held.2 before)
  exact (sessionMachine cfg).watchAll_invariant postureObserver keeps held later
    ((sessionMachine cfg).admits_of_forall postureObserver others q)

/-- What a change to `a` owes a session: on an open port it is commanded and recorded, and
every return to `Authenticated` finds it in force until it is replaced; on any other port it
does nothing. -/
def ChangeKept (cfg : PaeConfig) (a : Authorization)
    (q : PortSession × Option PortAuthorization) : Prop :=
  ((∃ b, q.2 = some (.authorized b)) →
    (q.1.step (.coaAuthorize a) cfg).2 = [.setAuthorization (.authorized a)] ∧
      (q.1.step (.coaAuthorize a) cfg).1.authz = some a ∧
      ∀ later : List Event, (∀ event ∈ later, ¬ event.Regrants) →
        let final := (sessionMachine cfg).watchAll postureObserver
          ((sessionMachine cfg).watch postureObserver q (.coaAuthorize a)) later
        final.1.state = .authenticated →
          final.1.authz = some a ∧ final.2 = some (.authorized a)) ∧
    ((∀ b, q.2 ≠ some (.authorized b)) → (q.1.step (.coaAuthorize a) cfg).2 = [])

/-- **When a change in place is kept.**  In every run and for every authorization, exactly if
a port that is open is not in the middle of a re-authentication. -/
theorem change_kept_iff (cfg : PaeConfig) (mac : MacAddr) (events : List Event)
    (a : Authorization) :
    ChangeKept cfg a (sessionRun cfg mac events) ↔
      ((∃ b, (sessionRun cfg mac events).2 = some (.authorized b)) →
        (sessionRun cfg mac events).1.state = .authenticated) := by
  have inv := postureInv_run cfg mac events
  generalize sessionRun cfg mac events = q at inv ⊢
  constructor
  · rintro ⟨applied, -⟩ authorized
    obtain ⟨commanded, -⟩ := applied authorized
    by_contra idle
    rw [PortSession.step_coaAuthorize_dropped cfg a idle] at commanded
    cases commanded
  · intro running
    refine ⟨fun authorized => ?_, fun closed => ?_⟩
    · have stepped := PortSession.step_coaAuthorize_running cfg a (running authorized)
      have changed : InForce cfg a
          ((sessionMachine cfg).watch postureObserver q (.coaAuthorize a)) := by
        refine ⟨PortSession.postureInv_step inv (.coaAuthorize a), fun _ => ?_⟩
        show (q.1.step (.coaAuthorize a) cfg).1.authz = some a
        rw [stepped]
      refine ⟨congrArg Prod.snd stepped, by rw [stepped], fun later others back => ?_⟩
      have final := inForce_run changed later others
      have opened := final.1.running back
      exact ⟨final.2 opened, (final.1.granted a).mpr ⟨opened, final.2 opened⟩⟩
    · have idle : q.1.state ≠ .authenticated := by
        intro state
        obtain ⟨b, -, authorized⟩ := inv.authorized_of_open (inv.running state)
        exact closed b authorized
      rw [PortSession.step_coaAuthorize_dropped cfg a idle]

/-- A supplicant in VLAN 100 starts a re-authentication; its VLAN is changed to 200; the
server does not answer. -/
def changedInReauth : List Event :=
  [.enable, .eapFromSupplicant ⟨.response, 1, some .identity, [2, 1, 0, 6, 1, 97]⟩,
    .accessAccept { vlan := some "100" } none, .eapolStart]

/-- The change comes in `Connecting` and is dropped, and the session returns to
`Authenticated` in the VLAN it should have left. -/
theorem change_lost_in_reauth :
    let q := sessionRun {} (Vector.replicate 6 1) changedInReauth
    let final := sessionRun {} (Vector.replicate 6 1) (changedInReauth ++
      [.coaAuthorize { vlan := some "200" },
        .eapFromSupplicant ⟨.response, 2, some .identity, [2, 2, 0, 6, 1, 97]⟩, .serverUnreachable])
    q.2 = some (.authorized { vlan := some "100" }) ∧
      (q.1.step (.coaAuthorize { vlan := some "200" }) {}).2 = [] ∧
      final.1.state = .authenticated ∧ final.2 = some (.authorized { vlan := some "100" }) ∧
      ¬ ChangeKept {} { vlan := some "200" } q := by
  refine ⟨by decide, by decide, by decide, by decide, fun kept => ?_⟩
  have commanded := (kept.1 ⟨{ vlan := some "100" }, by decide⟩).1
  revert commanded
  decide

end Authenticator.Pae
