/-
# Pae.Critical -- who waits for the server, and who is put into the critical VLAN

A session is in `AuthServer` from the event that asked the server to the reply, and only a
session that is there, and that something else than a reply reaches, is put into the critical
VLAN.  Both facts are proved of a session step and carried to `handle`: who waits after a call
(`handle_waiting`), and which calls spare everybody (`handle_uncritical`).
-/
import Authenticator.Pae.Exchange

namespace Authenticator.Pae

set_option autoImplicit false

open Authenticator.Pacp

namespace PortSession

variable {cfg : PaeConfig} {s : PortSession} {event : Event}

theorem teardown_state (cause : TerminateCause) : (s.teardown cause).1.state = .new := by
  by_cases fresh : s.state = .new
  · simp [teardown, fresh]
  · rw [(s.teardown_live cause fresh).1]

/-- A session that was asked about leaves `AuthServer` with the reply. -/
theorem step_reply (reply : event.IsReply) (waiting : s.state = .authServer) :
    (s.step event cfg).1.state ≠ .authServer := by
  cases event with
  | accessChallenge eap => simp [step, waiting, inAuthServer]
  | accessAccept a eap => simp [step, waiting, inAuthServer, authorize]
  | accessReject eap =>
      simp only [step, waiting, inAuthServer, reject, after]
      split
      · simp [teardown_state]
      · split <;> simp [enterFallback, hold]
  | _ => cases reply

/-- A session that comes to wait has asked. -/
theorem step_waiting (waiting : (s.step event cfg).1.state = .authServer) :
    (∃ effect ∈ (s.step event cfg).2, effect.isRequest = true) ∨
      (s.state = .authServer ∧ ¬ event.IsReply) := by
  rcases (step_transition cfg s event).asks with
    ⟨same, -⟩ | ⟨-, left⟩ | ⟨kind, request, asks, -, -, effects⟩
  · rw [same] at waiting
    refine Or.inr ⟨waiting, fun reply => ?_⟩
    exact step_reply reply waiting (by rw [same]; exact waiting)
  · exact absurd waiting left
  · refine Or.inl ⟨request, by simp [effects], ?_⟩
    cases asks <;> rfl

end PortSession

/-- The effect does not put anybody into the critical VLAN. -/
def Effect.Uncritical (effect : Effect) : Prop :=
  ∀ vlan, effect ≠ .setAuthorization (.fallback .critical vlan)

namespace PortSession

variable {cfg : PaeConfig} {s : PortSession} {event : Event}

theorem noSupplicant_uncritical : (s.noSupplicant cfg).1.state ≠ .fallback .critical := by
  unfold noSupplicant
  split
  · simp [teardown_state]
  · split
    · simp
    · split <;> simp [enterFallback, hold]

theorem reject_uncritical (eap : Option Bytes) :
    (s.reject eap cfg).1.state ≠ .fallback .critical := by
  simp only [reject, after]
  split
  · simp [teardown_state]
  · split <;> simp [enterFallback, hold]

/-- The critical VLAN is for a session that waits, and that no reply reaches. -/
theorem step_critical (parked : (s.step event cfg).1.state = .fallback .critical) :
    s.state = .fallback .critical ∨ (s.state = .authServer ∧ ¬ event.IsReply) := by
  revert parked
  unfold step
  split
  · simp [teardown_state]
  · simp [teardown_state]
  · unfold coaAuthorize
    split
    · exact Or.inl
    · exact Or.inl
  · split
    · simp [beginReauth, after, sendIdentity]
    · exact Or.inl
  · simp [enable, after, sendIdentity]
  · cases state : s.state with
    | connecting =>
        simp only [inConnecting]
        split
        · simp [sendIdentity, state]
        · simp [sendIdentity, state]
        · split
          · simp [sendIdentity, state]
          · simp [noSupplicant_uncritical]
        · split <;> simp [state]
        · simp [teardown_state]
        · simp [state]
    | authServer =>
        cases event with
        | accessChallenge eap => simp [inAuthServer]
        | accessAccept a eap => simp [inAuthServer, authorize]
        | accessReject eap => simp [inAuthServer, reject_uncritical]
        | _ => simp [Event.IsReply]
    | authenticating =>
        simp only [inAuthenticating]
        split
        · split <;> simp [state]
        · split <;> simp [teardown_state, hold]
        · simp [after, sendIdentity]
        · simp [teardown_state]
        · simp [state]
    | authenticated =>
        simp only [inAuthenticated]
        split <;> simp [beginReauth, after, sendIdentity, teardown_state, state]
    | held =>
        simp only [inHeld]
        split <;> simp [after, sendIdentity, state]
    | fallback reason =>
        simp only [inFallback]
        split
        · simp [sendIdentity]
        · split
          · simp [sendIdentity]
          · exact fun parked => Or.inl (state.symm.trans parked)
        · exact fun parked => Or.inl (state.symm.trans parked)
    | new => simp [state]

/-- No other session is put into it. -/
theorem step_uncritical (answered : s.state = .authServer → event.IsReply)
    (spared : s.state ≠ .fallback .critical) :
    (s.step event cfg).1.state ≠ .fallback .critical ∧
      ∀ effect ∈ (s.step event cfg).2, effect.Uncritical := by
  have elsewhere : (s.step event cfg).1.state ≠ .fallback .critical := by
    intro parked
    rcases step_critical parked with before | ⟨waiting, unanswered⟩
    · exact spared before
    · exact unanswered (answered waiting)
  refine ⟨elsewhere, ?_⟩
  have moved := step_transition cfg s event
  generalize (s.step event cfg).1 = s', (s.step event cfg).2 = fx at moved elsewhere
  rintro effect member vlan rfl
  cases moved with
  | fellBack _ reason name eap live closed configured silent =>
      refine elsewhere ?_
      cases reason <;> simp [relay] at member ⊢
  | tornDown _ cause eap live silent =>
      rw [(s.teardown_live cause live).2] at member
      split at member <;> simp [relay] at member
  | expired running =>
      rw [(s.teardown_live _ (by simp [running])).2] at member
      split at member <;> simp at member
  | solicited _ count cancel idle free cancels silent =>
      rcases cancels with rfl | ⟨kind, -, rfl⟩ <;> simp at member
  | authorized a eap asked =>
      simp only [PortSession.authorize, List.mem_append] at member
      split at member <;> split at member <;> split at member <;> simp at member
  | survived _ asked opened silent =>
      split at member <;> simp at member
  | enabled => simp [enable, after, sendIdentity] at member
  | held _ eap live closed silent => simp [relay] at member
  | _ => simp at member

end PortSession

section Admission

variable (cfg : PaeConfig) (mac : MacAddr) (event : Event)

/-- The effects of bringing a session into service. -/
theorem mem_enabled {effect : Effect}
    (member : effect ∈ ((PortSession.new mac).step .enable cfg).2) :
    effect = .setAuthorization .unauthorized ∨ effect = .txEapToSupplicant (requestIdentity 1) ∨
      effect = .armTimer .txPeriod := by
  have three : effect ∈ [Effect.setAuthorization .unauthorized,
    .txEapToSupplicant (requestIdentity 1), .armTimer .txPeriod] := member
  simpa using three

/-- A session that is admitted and waits has asked. -/
theorem admitted_waiting (waiting : (admitted cfg mac event).1.state = .authServer) :
    ∃ effect ∈ (admitted cfg mac event).2, effect.isRequest = true := by
  have soliciting : ((PortSession.new mac).step .enable cfg).1.state = .connecting := rfl
  unfold admitted at waiting ⊢
  split at waiting
  · cases soliciting.symm.trans waiting
  · rename_i later
    rw [if_neg later]
    rcases PortSession.step_waiting waiting with ⟨effect, member, asks⟩ | ⟨before, -⟩
    · exact ⟨effect, List.mem_append_right _ member, asks⟩
    · cases soliciting.symm.trans before

theorem admitted_uncritical :
    (admitted cfg mac event).1.state ≠ .fallback .critical ∧
      ∀ effect ∈ (admitted cfg mac event).2, effect.Uncritical := by
  have soliciting : ((PortSession.new mac).step .enable cfg).1.state = .connecting := rfl
  have opening : ∀ effect ∈ ((PortSession.new mac).step .enable cfg).2, effect.Uncritical := by
    intro effect member vlan same
    rcases mem_enabled cfg mac member with rfl | rfl | rfl <;> cases same
  have stepped : ((((PortSession.new mac).step .enable cfg).1).step event cfg).1.state ≠
        .fallback .critical ∧
      ∀ effect ∈ ((((PortSession.new mac).step .enable cfg).1).step event cfg).2,
        effect.Uncritical :=
    PortSession.step_uncritical (fun waiting => by cases soliciting.symm.trans waiting)
      (fun parked => by cases soliciting.symm.trans parked)
  by_cases started : event = .enable ∨ event = .eapolStart
  · have same : admitted cfg mac event = (PortSession.new mac).step .enable cfg := if_pos started
    rw [same]
    exact ⟨(fun parked => by cases soliciting.symm.trans parked), opening⟩
  · have same : admitted cfg mac event =
        ((((PortSession.new mac).step .enable cfg).1.step event cfg).1,
          ((PortSession.new mac).step .enable cfg).2 ++
            (((PortSession.new mac).step .enable cfg).1.step event cfg).2) := if_neg started
    rw [same]
    refine ⟨stepped.1, fun effect member => ?_⟩
    rcases List.mem_append.mp member with first | second
    · exact opening effect first
    · exact stepped.2 effect second

end Admission

namespace PortPae

variable {p : PortPae} {P : Postures}

/-- A request of a call asks about its MAC. -/
theorem handle_asks_of_isRequest (p : PortPae) (mac : MacAddr) (event : Event) {de : DirectedEffect}
    (member : de ∈ (p.handle mac event).2) (asks : de.effect.isRequest = true) :
    de.asks = some mac := by
  have asked : ∃ other, de.asks = some other := by
    rcases p.handle_directed mac event de member with own | ⟨-, a, command⟩
    · obtain ⟨target, effect⟩ := de
      obtain rfl : target = some mac := own
      cases effect with
      | toAuthServer eap => exact ⟨mac, rfl⟩
      | startMab station => exact ⟨station, rfl⟩
      | _ => cases asks
    · rw [command] at asks
      cases asks
  obtain ⟨other, asked⟩ := asked
  rw [asked, (p.handle_asks mac event member asked).1]

/-- No session is in the critical VLAN. -/
def Spared (p : PortPae) : Prop := ∀ mac s, p.session mac = some s → s.state ≠ .fallback .critical

/-- Where a session comes from: it was there before, or the call stepped or admitted it. -/
theorem handle_session (inv : PortInv p P) {mac other : MacAddr} {event : Event} {s : PortSession}
    (found : (p.handle mac event).1.session other = some s) :
    (other ≠ mac ∧ p.session other = some s) ∨
      (other = mac ∧ ∃ r : PortSession × List Effect, s = r.1 ∧
        (p.handle mac event).2 = decorate p.cfg.hostMode mac r.2 ∧
        ((∃ before, p.session mac = some before ∧ r = before.step event p.cfg) ∨
          r = admitted p.cfg mac event)) := by
  rcases handle_lane inv mac event with ⟨missing, -, same⟩ | ⟨-, sessions, effects⟩
  · rw [same] at found
    refine Or.inl ⟨?_, found⟩
    rintro rfl
    rw [missing] at found
    cases found
  · rw [sessions] at found
    by_cases own : other = mac
    · subst own
      rw [Function.update_self] at found
      refine Or.inr ⟨rfl, ?_⟩
      cases slot : p.session other with
      | some before =>
          rw [slot] at found effects
          refine ⟨before.step event p.cfg, ?_, effects, Or.inl ⟨before, rfl, rfl⟩⟩
          simp only [lane] at found
          split at found
          · cases found
          · exact (Option.some.inj found).symm
      | none =>
          rw [slot] at found effects
          refine ⟨admitted p.cfg other event, ?_, effects, Or.inr rfl⟩
          simp only [lane] at found
          split at found
          · cases found
          · exact (Option.some.inj found).symm
    · rw [Function.update_of_ne own] at found
      exact Or.inl ⟨own, found⟩

/-- Who waits after a call: who waited before, and the session of its MAC if it asked. -/
theorem handle_waiting (inv : PortInv p P) {mac other : MacAddr} {event : Event}
    (waiting : (p.handle mac event).1.Waiting other) :
    (other ≠ mac ∧ p.Waiting other) ∨
      (other = mac ∧ ((∃ de ∈ (p.handle mac event).2, de.effect.isRequest = true) ∨
        (p.Waiting mac ∧ ¬ event.IsReply))) := by
  obtain ⟨s, found, asked⟩ := waiting
  rcases handle_session inv found with ⟨foreign, before⟩ | ⟨rfl, r, rfl, effects, origin⟩
  · exact Or.inl ⟨foreign, s, before, asked⟩
  · refine Or.inr ⟨rfl, ?_⟩
    have directed : ∀ effect ∈ r.2, effect.isRequest = true →
        ∃ de ∈ (p.handle other event).2, de.effect.isRequest = true := by
      intro effect member asks
      rw [effects]
      exact ⟨_, List.mem_map_of_mem member, asks⟩
    rcases origin with ⟨before, slot, rfl⟩ | rfl
    · rcases PortSession.step_waiting asked with ⟨effect, member, asks⟩ | ⟨waited, unanswered⟩
      · exact Or.inl (directed effect member asks)
      · exact Or.inr ⟨⟨before, slot, waited⟩, unanswered⟩
    · obtain ⟨effect, member, asks⟩ := admitted_waiting p.cfg other event asked
      exact Or.inl (directed effect member asks)

/-- A call that finds nobody waiting, or answers the one who does, spares everybody. -/
theorem handle_uncritical (inv : PortInv p P) {mac : MacAddr} {event : Event}
    (answered : p.Waiting mac → event.IsReply) (spared : p.Spared) :
    (p.handle mac event).1.Spared ∧ ∀ de ∈ (p.handle mac event).2, de.effect.Uncritical := by
  have moved : ∀ before, p.session mac = some before →
      (before.step event p.cfg).1.state ≠ .fallback .critical ∧
        ∀ effect ∈ (before.step event p.cfg).2, effect.Uncritical := fun before slot =>
    PortSession.step_uncritical (fun waiting => answered ⟨before, slot, waiting⟩)
      (spared mac before slot)
  constructor
  · intro other s found
    rcases handle_session inv found with ⟨-, before⟩ | ⟨rfl, r, rfl, -, ⟨before, slot, rfl⟩ | rfl⟩
    · exact spared other s before
    · exact (moved before slot).1
    · exact (admitted_uncritical p.cfg other event).1
  · have quiet : ∀ fx : List Effect, (∀ effect ∈ fx, effect.Uncritical) →
        ∀ de ∈ decorate p.cfg.hostMode mac fx, de.effect.Uncritical := by
      intro fx all de member
      obtain ⟨effect, inside, rfl⟩ := List.mem_map.mp member
      exact all effect inside
    rcases handle_lane inv mac event with ⟨-, -, same⟩ | ⟨-, -, effects⟩
    · rw [same]
      intro de member
      cases member
    · rw [effects]
      cases slot : p.session mac with
      | some before => exact quiet _ (moved before slot).2
      | none => exact quiet _ (admitted_uncritical p.cfg mac event).2

end PortPae

end Authenticator.Pae
