/-
# Pae.TimerTable -- the timers of a session, exactly

A session waits for the guard timer of its state, and a grant may have armed a Session-Timeout
beside it.  `waitsFor_step` says that a step leaves armed whatever the session then waits for;
`accounted_step` that it leaves nothing else armed.  Together they are the table of the timers
of a session.

The critical fallback is outside the table: the supplicant that wakes up there starts over with
the ServerTimeout still armed.
-/
import Authenticator.Pae.SessionTimers
import Authenticator.Pae.Critical

namespace Authenticator.Pae

set_option autoImplicit false

open Authenticator.Pacp

/-- The timer the session relies on to be moved on. -/
def PortSession.WaitsFor (cfg : PaeConfig) (s : PortSession) (kind : TimerKind) : Prop :=
  s.state.guardTimer = some kind ∧ (kind = .reauth → cfg.reauthEnabled = true)

/-- The armed timers of the session, but for the ServerTimeout of the critical fallback: the one
it waits for, and the Session-Timeout of a grant in force. -/
structure Accounted (cfg : PaeConfig) (s : PortSession) (armed : Finset TimerKind) : Prop where
  used : ∀ kind ∈ armed, s.WaitsFor cfg kind ∨ (kind = .sessionTimeout ∧ s.accountingOpen = true)
  closed : s.state = .new → s.accountingOpen = false

namespace PortSession

variable {cfg : PaeConfig} {s : PortSession} {event : Event} {armed : Finset TimerKind}

theorem WaitsFor.ne_sessionTimeout {kind : TimerKind} (waits : s.WaitsFor cfg kind) :
    kind ≠ .sessionTimeout := by
  obtain ⟨guard, -⟩ := waits
  rintro rfl
  cases state : s.state with
  | fallback reason => cases reason <;> simp [State.guardTimer, state] at guard
  | _ => simp [State.guardTimer, state] at guard

/-! ## What a session waits for is armed -/

/-- **The step lemma, from below**: also when expiries come that were never armed. -/
theorem waitsFor_step {kind : TimerKind}
    (served : ∀ kind, s.WaitsFor cfg kind → event ≠ .timer kind → kind ∈ armed)
    (waits : (s.step event cfg).1.WaitsFor cfg kind) :
    kind ∈ scheduled armed (s.step event cfg).2 := by
  have moved := step_transition cfg s event
  generalize (s.step event cfg).1 = s', (s.step event cfg).2 = fx at moved waits
  obtain ⟨guard, enabled⟩ := waits
  cases moved with
  | ignored _ unguarded noGrant => exact served kind ⟨guard, enabled⟩ (unguarded kind guard)
  | enabled =>
      have soliciting : s.enable.1.state = .connecting := rfl
      rw [soliciting] at guard
      cases guard
      simp [enable, after, sendIdentity, Effect.schedule]
  | coaAuthorized a running =>
      exact served kind ⟨guard, enabled⟩ (by simp)
  | authorized a eap asked =>
      have granted : (s.authorize a eap cfg).1.state = .authenticated := rfl
      rw [granted] at guard
      cases guard
      simp only [authorize, enabled rfl, if_true, scheduled_append, scheduled_cons, scheduled_nil,
        Effect.schedule]
      split <;> split <;> simp [Effect.schedule]
  | survived _ asked opened silent =>
      cases guard
      simp [enabled rfl, Effect.schedule]
  | fellBack _ reason vlan eap live closed configured silent =>
      cases reason <;> cases guard
      simp [Effect.schedule]
  | tornDown _ cause eap live silent =>
      rw [(s.teardown_live cause live).1] at guard
      cases guard
  | solicited | relayed | bypassed | challenged | held | expired =>
      cases guard
      simp [Effect.schedule]

/-! ## Nothing else is armed -/

/-- The grant's timer is all that may be left when the guard timer is gone. -/
def Bare (s : PortSession) (armed : Finset TimerKind) : Prop :=
  ∀ kind ∈ armed, kind = .sessionTimeout ∧ s.accountingOpen = true

theorem bare_empty {s : PortSession} : s.Bare ∅ := by simp [Bare]

theorem bare_erase (accounted : Accounted cfg s armed) {kind : TimerKind}
    (guard : s.state.guardTimer = some kind) : s.Bare (armed.erase kind) := by
  intro other member
  obtain ⟨different, inside⟩ := Finset.mem_erase.mp member
  rcases accounted.used other inside with ⟨guarded, -⟩ | grant
  · exact absurd (Option.some.inj (guarded.symm.trans guard)) different
  · exact grant

theorem bare_unguarded (accounted : Accounted cfg s armed) (unguarded : s.state.guardTimer = none) :
    s.Bare armed := by
  intro kind member
  rcases accounted.used kind member with ⟨guarded, -⟩ | grant
  · cases unguarded.symm.trans guarded
  · exact grant

/-- Waiting for one more timer. -/
theorem accounted_insert {s' : PortSession} (bare : s.Bare armed) {kind : TimerKind}
    (waits : s'.WaitsFor cfg kind) (same : s'.accountingOpen = s.accountingOpen) :
    Accounted cfg s' (insert kind armed) := by
  refine ⟨fun other member => ?_, fun fresh => ?_⟩
  · rcases Finset.mem_insert.mp member with rfl | inside
    · exact Or.inl waits
    · rw [same]
      exact Or.inr (bare other inside)
  · obtain ⟨guard, -⟩ := waits
    rw [fresh] at guard
    cases guard

theorem accounted_bare {s' : PortSession} (bare : s'.Bare armed)
    (closed : s'.state = .new → s'.accountingOpen = false) : Accounted cfg s' armed :=
  ⟨fun kind member => Or.inr (bare kind member), closed⟩

/-- Soliciting the supplicant: the tx-period is armed. -/
theorem accounted_solicit (bare : s.Bare (armed.erase .txPeriod)) (count : UInt32) :
    Accounted cfg { s with txCount := count, state := .connecting, eapId := s.eapId + 1 }
      (insert .txPeriod armed) := by
  have same : insert TimerKind.txPeriod armed = insert .txPeriod (armed.erase .txPeriod) := by
    ext kind
    by_cases here : kind = .txPeriod <;> simp [here]
  rw [same]
  exact accounted_insert bare ⟨rfl, by simp⟩ rfl

theorem accounted_teardown (cause : TerminateCause) (live : s.state ≠ .new) :
    Accounted cfg (s.teardown cause).1 (scheduled armed (s.teardown cause).2) := by
  obtain ⟨session, effects⟩ := s.teardown_live cause live
  rw [session, effects]
  refine accounted_bare ?_ fun _ => rfl
  simp [Effect.schedule, Bare]

theorem accounted_hold : Accounted cfg s.hold.1 (scheduled armed s.hold.2) :=
  accounted_insert (bare_empty (s := s)) ⟨rfl, by simp⟩ rfl

theorem accounted_enterFallback (reason : FallbackReason) (vlan : String)
    (other : reason ≠ .critical) :
    Accounted cfg (s.enterFallback reason vlan).1
      (scheduled armed (s.enterFallback reason vlan).2) := by
  cases reason with
  | critical => exact absurd rfl other
  | _ => exact accounted_bare bare_empty (by simp [enterFallback])

theorem accounted_noSupplicant (accounted : Accounted cfg s armed) (soliciting : s.state = .connecting) :
    Accounted cfg (s.noSupplicant cfg).1 (scheduled armed (s.noSupplicant cfg).2) := by
  have guard : s.state.guardTimer = some .txPeriod := by rw [soliciting]; rfl
  unfold noSupplicant
  split
  · exact accounted_teardown _ (by simp [soliciting])
  · split
    · exact accounted_insert (bare_erase accounted guard) ⟨rfl, by simp⟩ rfl
    · split
      · exact accounted_enterFallback _ _ (by simp)
      · exact accounted_hold

/-- The timers of a grant. -/
theorem mem_authorize {a : Authorization} {eap : Option Bytes} {kind : TimerKind}
    (member : kind ∈ scheduled armed (s.authorize a eap cfg).2) :
    (kind = .reauth ∧ cfg.reauthEnabled = true) ∨ kind = .sessionTimeout := by
  simp only [authorize, scheduled_append, scheduled_cons, scheduled_nil, Effect.schedule] at member
  by_cases started : s.accountingOpen = true <;> by_cases enabled : cfg.reauthEnabled = true <;>
    by_cases limited : a.sessionTimeout.isSome = true <;>
    simp [started, enabled, limited, Effect.schedule] at member ⊢ <;> tauto

theorem accounted_authorize (a : Authorization) (eap : Option Bytes) :
    Accounted cfg (s.authorize a eap cfg).1 (scheduled armed (s.authorize a eap cfg).2) := by
  refine ⟨fun kind member => ?_, by simp [authorize]⟩
  rcases mem_authorize member with ⟨rfl, enabled⟩ | rfl
  · exact Or.inl ⟨rfl, fun _ => enabled⟩
  · exact Or.inr ⟨rfl, rfl⟩

theorem accounted_reject (eap : Option Bytes) (asked : s.state = .authServer) :
    Accounted cfg (s.reject eap cfg).1 (scheduled armed (s.reject eap cfg).2) := by
  have relayed : scheduled armed (eap.toList.map .txEapToSupplicant) = armed := by
    cases eap <;> rfl
  unfold reject after
  dsimp only
  rw [scheduled_append, relayed]
  split
  · exact accounted_teardown _ (by simp [asked])
  · split
    · exact accounted_enterFallback _ _ (by simp)
    · exact accounted_hold

theorem accounted_serverUnreachable (accounted : Accounted cfg s armed)
    (asked : s.state = .authServer) :
    Accounted cfg (s.serverUnreachable cfg).1 (scheduled armed (s.serverUnreachable cfg).2) := by
  have guard : s.state.guardTimer = some .serverTimeout := by rw [asked]; rfl
  have bare := bare_erase accounted guard
  unfold serverUnreachable
  split
  · by_cases enabled : cfg.reauthEnabled = true
    · rw [if_pos enabled]
      exact accounted_insert bare ⟨rfl, fun _ => enabled⟩ rfl
    · rw [if_neg enabled]
      exact accounted_bare bare (by simp)
  · split
    · exact accounted_insert (bare_empty (s := s)) ⟨rfl, by simp⟩ rfl
    · exact accounted_hold

theorem accounted_beginReauth (accounted : Accounted cfg s armed)
    (granted : s.state = .authenticated) :
    Accounted cfg s.beginReauth.1 (scheduled armed s.beginReauth.2) := by
  have guard : s.state.guardTimer = some .reauth := by rw [granted]; rfl
  have bare := bare_erase accounted guard
  exact accounted_solicit (fun kind member => bare kind (Finset.mem_of_mem_erase member)) 1

/-! ## One step -/

variable (accounted : Accounted cfg s armed)
include accounted

theorem accounted_inConnecting (soliciting : s.state = .connecting) :
    Accounted cfg (s.inConnecting event cfg).1 (scheduled armed (s.inConnecting event cfg).2) := by
  have guard : s.state.guardTimer = some .txPeriod := by rw [soliciting]; rfl
  have bare := bare_erase accounted guard
  have again : ∀ count, Accounted cfg { s with txCount := count, eapId := s.eapId + 1 }
      (insert .txPeriod armed) := by
    intro count
    have solicited : Accounted cfg { s with txCount := count, state := .connecting, eapId := s.eapId + 1 }
        (insert .txPeriod armed) := accounted_solicit bare count
    rwa [← soliciting] at solicited
  unfold inConnecting
  split
  · exact again s.txCount
  · exact again s.txCount
  · split
    · exact again _
    · exact accounted_noSupplicant accounted soliciting
  · split
    · exact accounted_insert bare ⟨rfl, by simp⟩ rfl
    · exact accounted
  · exact accounted_teardown _ (by simp [soliciting])
  · exact accounted

theorem accounted_inAuthServer (asked : s.state = .authServer) :
    Accounted cfg (s.inAuthServer event cfg).1 (scheduled armed (s.inAuthServer event cfg).2) := by
  have guard : s.state.guardTimer = some .serverTimeout := by rw [asked]; rfl
  unfold inAuthServer
  split
  · exact accounted_insert (bare_erase accounted guard) ⟨rfl, by simp⟩ rfl
  · exact accounted_authorize _ _
  · exact accounted_reject _ asked
  · exact accounted_serverUnreachable accounted asked
  · exact accounted_serverUnreachable accounted asked
  · exact accounted_teardown _ (by simp [asked])
  · exact accounted

theorem accounted_inAuthenticating (asked : s.state = .authenticating) :
    Accounted cfg (s.inAuthenticating event).1 (scheduled armed (s.inAuthenticating event).2) := by
  have guard : s.state.guardTimer = some .suppTimeout := by rw [asked]; rfl
  have bare := bare_erase accounted guard
  unfold inAuthenticating
  split
  · split
    · exact accounted_insert bare ⟨rfl, by simp⟩ rfl
    · exact accounted
  · split
    · exact accounted_teardown _ (by simp [asked])
    · exact accounted_hold
  · exact accounted_solicit (fun kind member => bare kind (Finset.mem_of_mem_erase member)) s.txCount
  · exact accounted_teardown _ (by simp [asked])
  · exact accounted

theorem accounted_inAuthenticated (granted : s.state = .authenticated) :
    Accounted cfg (s.inAuthenticated event).1 (scheduled armed (s.inAuthenticated event).2) := by
  unfold inAuthenticated
  split
  · exact accounted_beginReauth accounted granted
  · exact accounted_beginReauth accounted granted
  · exact accounted_teardown _ (by simp [granted])
  · obtain ⟨session, effects⟩ := s.teardown_live .sessionTimeout (by simp [granted])
    simp only [after, sendIdentity, effects, scheduled_append]
    have cleared : scheduled armed (if s.accountingOpen then [.accounting (.stop .sessionTimeout)]
        else []) = armed := by
      split <;> rfl
    have again : Accounted cfg { (s.teardown .sessionTimeout).1 with
        txCount := 1, state := .connecting, eapId := (s.teardown .sessionTimeout).1.eapId + 1 }
        (insert .txPeriod ∅) := accounted_solicit (by simp [Bare]) 1
    simpa [Effect.schedule, cleared] using again
  · exact accounted

theorem accounted_inHeld (held : s.state = .held) :
    Accounted cfg (s.inHeld event).1 (scheduled armed (s.inHeld event).2) := by
  have guard : s.state.guardTimer = some .held := by rw [held]; rfl
  have bare := bare_erase accounted guard
  have again : s.Bare ((armed.erase .held).erase .txPeriod) :=
    fun kind member => bare kind (Finset.mem_of_mem_erase member)
  unfold inHeld
  split
  · exact accounted_solicit again 1
  · exact accounted_solicit again 1
  · exact accounted

theorem accounted_inFallback {reason : FallbackReason} (parked : s.state = .fallback reason)
    (spared : reason ≠ .critical) :
    Accounted cfg (s.inFallback event).1 (scheduled armed (s.inFallback event).2) := by
  have bare : s.Bare armed := by
    refine bare_unguarded accounted ?_
    rw [parked]
    cases reason with
    | critical => exact absurd rfl spared
    | _ => rfl
  unfold inFallback
  split
  · exact accounted_solicit (fun kind member => bare kind (Finset.mem_of_mem_erase member)) 1
  · split
    · rename_i critical
      exact absurd (State.fallback.inj (parked.symm.trans critical)) spared
    · exact accounted
  · exact accounted

/-- **The step lemma, from above**: whatever expiries come. -/
theorem accounted_step (spared : s.state ≠ .fallback .critical) (served : event ≠ .enable) :
    Accounted cfg (s.step event cfg).1 (scheduled armed (s.step event cfg).2) := by
  have torn : ∀ cause, Accounted cfg (s.teardown cause).1 (scheduled armed (s.teardown cause).2) := by
    intro cause
    by_cases fresh : s.state = .new
    · have idle : s.teardown cause = (s, []) := by simp [teardown, fresh]
      rw [idle]
      exact accounted
    · exact accounted_teardown cause fresh
  unfold step
  split
  · exact torn _
  · exact torn _
  · unfold coaAuthorize
    split
    · exact accounted
    · exact ⟨accounted.used, accounted.closed⟩
  · split
    · rename_i granted
      exact accounted_beginReauth accounted granted
    · exact accounted
  · exact absurd rfl served
  · cases state : s.state with
    | connecting => exact accounted_inConnecting accounted state
    | authServer => exact accounted_inAuthServer accounted state
    | authenticating => exact accounted_inAuthenticating accounted state
    | authenticated => exact accounted_inAuthenticated accounted state
    | held => exact accounted_inHeld accounted state
    | fallback reason =>
        refine accounted_inFallback accounted state ?_
        rintro rfl
        exact spared state
    | new => exact accounted

end PortSession

section Admission

variable (cfg : PaeConfig) (mac : MacAddr) (event : Event)

theorem waitsFor_admitted {kind : TimerKind} (waits : (admitted cfg mac event).1.WaitsFor cfg kind)
    (armed : Finset TimerKind) : kind ∈ scheduled armed (admitted cfg mac event).2 := by
  have opening : ∀ kind, ((PortSession.new mac).step .enable cfg).1.WaitsFor cfg kind →
      kind ∈ scheduled armed ((PortSession.new mac).step .enable cfg).2 := fun kind waits =>
    PortSession.waitsFor_step (fun kind waits => by cases waits.1) waits
  unfold admitted at waits ⊢
  split at waits
  · rename_i started
    rw [if_pos started]
    exact opening kind waits
  · rename_i later
    rw [if_neg later]
    dsimp only
    rw [scheduled_append]
    exact PortSession.waitsFor_step (fun kind waits _ => opening kind waits) waits

theorem accounted_admitted : Accounted cfg (admitted cfg mac event).1
    (scheduled ∅ (admitted cfg mac event).2) := by
  have opening : Accounted cfg ((PortSession.new mac).step .enable cfg).1
      (scheduled ∅ ((PortSession.new mac).step .enable cfg).2) :=
    PortSession.accounted_insert (PortSession.bare_empty (s := PortSession.new mac))
      ⟨rfl, by simp⟩ rfl
  unfold admitted
  split
  · exact opening
  · rename_i later
    dsimp only
    rw [scheduled_append]
    exact PortSession.accounted_step opening (by simp [PortSession.step, PortSession.enable,
      PortSession.after, PortSession.sendIdentity]) fun same => later (Or.inl same)

end Admission

/-- The armed timers of a MAC: none without a session. -/
def SlotAccounted (cfg : PaeConfig) : Option PortSession → Finset TimerKind → Prop
  | none, armed => armed = ∅
  | some s, armed => Accounted cfg s armed

section Lane

variable {cfg : PaeConfig} {armed : Finset TimerKind}

/-- A session that is back in `New` is pruned, and has nothing armed. -/
theorem slotAccounted_prune {s : PortSession} (accounted : Accounted cfg s armed) :
    SlotAccounted cfg (if s.state = .new then none else some s) armed := by
  by_cases gone : s.state = .new
  · rw [if_pos gone]
    refine Finset.eq_empty_of_forall_notMem fun kind member => ?_
    rcases accounted.used kind member with ⟨guard, -⟩ | ⟨-, opened⟩
    · rw [gone] at guard
      cases guard
    · rw [accounted.closed gone] at opened
      cases opened
  · rw [if_neg gone]
    exact accounted

theorem slotAccounted_lane {slot : Option PortSession} (accounted : SlotAccounted cfg slot armed)
    (spared : ∀ s, slot = some s → s.state ≠ .fallback .critical) (mac : MacAddr) {event : Event}
    (served : event ≠ .enable) :
    SlotAccounted cfg (lane cfg mac slot event).1 (scheduled armed (lane cfg mac slot event).2) := by
  cases slot with
  | none =>
      have free : armed = ∅ := accounted
      subst free
      exact slotAccounted_prune (accounted_admitted cfg mac event)
  | some s =>
      exact slotAccounted_prune (PortSession.accounted_step accounted (spared s rfl) served)

end Lane

end Authenticator.Pae
