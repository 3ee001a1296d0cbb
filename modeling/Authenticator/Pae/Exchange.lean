/-
# Pae.Exchange -- the order of the effects of an exchange

A request is asked after the timer of the prompt is cancelled, and only the arming of the
server timer follows it (`AsksThenArms`); the session then waits.  The reply it waits for is
passed on to the supplicant before anything that could fail: only a timer is cancelled ahead
of it (`PassesOn`).  Both facts are proved of a session step and carried to `handle`.
-/
import Authenticator.Pae.PortEffects
import Authenticator.Pae.PortLanes

namespace Authenticator.Pae

set_option autoImplicit false

open Authenticator.Pacp

/-- Behind a request, timers are armed and nothing else is done. -/
def AsksThenArms : List DirectedEffect → Prop
  | [] => True
  | de :: rest =>
      (de.effect.isRequest = true → ∀ later ∈ rest, ∃ kind, later.effect = .armTimer kind) ∧
        AsksThenArms rest

/-- The packet is sent to `mac`, ahead of it only timers are cancelled, and nothing behind
it asks the server. -/
def PassesOn (mac : MacAddr) (eap : Bytes) : List DirectedEffect → Prop
  | [] => False
  | de :: rest =>
      (de = ⟨some mac, .txEapToSupplicant eap⟩ ∧ ∀ later ∈ rest, later.effect.isRequest = false) ∨
        ((∃ kind, de = ⟨some mac, .cancelTimer kind⟩) ∧ PassesOn mac eap rest)

section Lists

variable {fx : List DirectedEffect}

theorem asksThenArms_of_quiet (quiet : ∀ de ∈ fx, de.effect.isRequest = false) :
    AsksThenArms fx := by
  induction fx with
  | nil => trivial
  | cons de rest ih =>
      refine ⟨?_, ih fun later member => quiet later (List.mem_cons_of_mem _ member)⟩
      intro asks
      rw [quiet de List.mem_cons_self] at asks
      cases asks

/-- Behind a request there is no other. -/
theorem AsksThenArms.last {de : DirectedEffect} (order : AsksThenArms (de :: fx))
    (asks : de.effect.isRequest = true) : ¬ ∃ next ∈ fx, next.effect.isRequest = true := by
  rintro ⟨next, member, asksToo⟩
  obtain ⟨kind, arms⟩ := order.1 asks next member
  rw [arms] at asksToo
  cases asksToo

theorem AsksThenArms.append {first : List DirectedEffect}
    (quiet : ∀ de ∈ first, de.effect.isRequest = false) (later : AsksThenArms fx) :
    AsksThenArms (first ++ fx) := by
  induction first with
  | nil => exact later
  | cons de rest ih =>
      refine ⟨?_, ih fun later member => quiet later (List.mem_cons_of_mem _ member)⟩
      intro asks
      rw [quiet de List.mem_cons_self] at asks
      cases asks

theorem quiet_decorate (hostMode : HostMode) (mac : MacAddr) {fx : List Effect}
    (quiet : fx.filter Effect.isRequest = []) :
    ∀ de ∈ decorate hostMode mac fx, de.effect.isRequest = false := by
  intro de member
  obtain ⟨effect, inside, rfl⟩ := List.mem_map.mp member
  simpa using List.filter_eq_nil_iff.mp quiet effect inside

end Lists

namespace PortSession

variable (cfg : PaeConfig) (s : PortSession) (event : Event)

/-- A step asks last, and then waits. -/
theorem step_asksThenArms (hostMode : HostMode) (mac : MacAddr) :
    AsksThenArms (decorate hostMode mac (s.step event cfg).2) ∧
      ((∃ de ∈ decorate hostMode mac (s.step event cfg).2, de.effect.isRequest = true) →
        (s.step event cfg).1.state = .authServer) := by
  have noisy : ∀ {fx : List Effect}, fx.filter Effect.isRequest = [] →
      ¬ ∃ de ∈ decorate hostMode mac fx, de.effect.isRequest = true := by
    rintro fx quiet ⟨de, member, asks⟩
    rw [quiet_decorate hostMode mac quiet de member] at asks
    cases asks
  rcases (step_transition cfg s event).asks with
    ⟨-, none⟩ | ⟨quiet, -⟩ | ⟨kind, request, asks, -, waiting, effects⟩
  · have quiet : (s.step event cfg).2.filter Effect.isRequest = [] := by rw [none]; rfl
    exact ⟨asksThenArms_of_quiet (quiet_decorate hostMode mac quiet),
      fun some => absurd some (noisy quiet)⟩
  · exact ⟨asksThenArms_of_quiet (quiet_decorate hostMode mac quiet),
      fun some => absurd some (noisy quiet)⟩
  · refine ⟨?_, fun _ => waiting⟩
    rw [effects]
    refine ⟨fun cancels => absurd cancels (by simp [Effect.isRequest]), ?_, ?_, trivial⟩
    · intro _ later member
      exact ⟨.serverTimeout, by rw [List.mem_singleton.mp member]⟩
    · exact fun arms => absurd arms (by simp [Effect.isRequest])

/-- A packet makes a session ask exactly when it is a Response that the session waits for. -/
theorem step_relays_iff (eap : InboundEap) :
    (∃ effect ∈ (s.step (.eapFromSupplicant eap) cfg).2, effect.isRequest = true) ↔
      eap.code = .response ∧ (s.state = .connecting ∨ s.state = .authenticating) := by
  cases state : s.state with
  | connecting =>
      by_cases response : eap.code = .response <;>
        simp [step, state, inConnecting, response, Effect.isRequest]
  | authenticating =>
      by_cases response : eap.code = .response <;>
        simp [step, state, inAuthenticating, response, Effect.isRequest]
  | _ => simp [step, state, inAuthServer, inAuthenticated, inHeld, inFallback]

/-- A reply that the session waits for is passed on. -/
theorem step_passesOn (hostMode : HostMode) {eap : Bytes} (asked : s.state = .authServer)
    (brings : event.serverEap = some eap) (mac : MacAddr) :
    PassesOn mac eap (decorate hostMode mac (s.step event cfg).2) := by
  have quiet : (s.step event cfg).2.filter Effect.isRequest = [] := by
    rcases (step_outputs cfg s event).requests with none | ⟨request, -, silent⟩
    · exact none
    · refine absurd ?_ silent
      cases event <;> trivial
  have behind := quiet_decorate hostMode mac quiet
  cases event with
  | accessChallenge packet =>
      cases brings
      simp only [step, asked, inAuthServer] at behind ⊢
      refine Or.inr ⟨⟨.serverTimeout, by simp [Effect.isSetAuthorization]⟩, Or.inl ⟨?_, ?_⟩⟩
      · simp [Effect.isSetAuthorization]
      · exact fun later member => behind later (List.mem_cons_of_mem _ (List.mem_cons_of_mem _ member))
  | accessAccept a packet =>
      cases brings
      simp only [step, asked, inAuthServer, authorize] at behind ⊢
      refine Or.inl ⟨by simp [Effect.isSetAuthorization], ?_⟩
      exact fun later member => behind later (List.mem_cons_of_mem _ member)
  | accessReject packet =>
      cases brings
      simp only [step, asked, inAuthServer, reject, after] at behind ⊢
      refine Or.inl ⟨by simp [Effect.isSetAuthorization], ?_⟩
      exact fun later member => behind later (List.mem_cons_of_mem _ member)
  | _ => cases brings

end PortSession

/-! ## The port -/

theorem admitted_asksThenArms (cfg : PaeConfig) (mac : MacAddr) (event : Event)
    (hostMode : HostMode) :
    AsksThenArms (decorate hostMode mac (admitted cfg mac event).2) ∧
      ((∃ de ∈ decorate hostMode mac (admitted cfg mac event).2, de.effect.isRequest = true) →
        (admitted cfg mac event).1.state = .authServer) := by
  have opening : ∀ de ∈ decorate hostMode mac ((PortSession.new mac).step .enable cfg).2,
      de.effect.isRequest = false := quiet_decorate hostMode mac rfl
  unfold admitted
  split
  · refine ⟨asksThenArms_of_quiet opening, ?_⟩
    rintro ⟨de, member, asks⟩
    rw [opening de member] at asks
    cases asks
  · obtain ⟨order, waits⟩ := PortSession.step_asksThenArms cfg
      ((PortSession.new mac).step .enable cfg).1 event hostMode mac
    have split : ∀ first second : List Effect, decorate hostMode mac (first ++ second) =
        decorate hostMode mac first ++ decorate hostMode mac second := fun _ _ => List.map_append
    dsimp only
    rw [split]
    refine ⟨order.append opening, ?_⟩
    rintro ⟨de, member, asks⟩
    rcases List.mem_append.mp member with first | second
    · rw [opening de first] at asks
      cases asks
    · exact waits ⟨de, second, asks⟩

namespace PortPae

variable {p : PortPae} {P : Postures}

/-- The session of `mac` waits for the server. -/
def Waiting (p : PortPae) (mac : MacAddr) : Prop :=
  ∃ s, p.session mac = some s ∧ s.state = .authServer

/-- **A call asks last**, in whatever state the port is. -/
theorem handle_order (p : PortPae) (mac : MacAddr) (event : Event) :
    AsksThenArms (p.handle mac event).2 := by
  obtain ⟨_, s, _, -, -, same⟩ | ⟨-, -, same⟩ | ⟨-, -, same⟩ := p.handle_cases mac event
  · rw [same]
    exact (s.step_asksThenArms p.cfg event p.cfg.hostMode mac).1
  · rw [same]
    exact (admitted_asksThenArms p.cfg mac event p.cfg.hostMode).1
  · rw [same]
    trivial

/-- **A call that asks leaves its session waiting.** -/
theorem handle_waits (inv : PortInv p P) (mac : MacAddr) (event : Event)
    (asks : ∃ de ∈ (p.handle mac event).2, de.effect.isRequest = true) :
    (p.handle mac event).1.Waiting mac := by
  rcases handle_lane inv mac event with ⟨-, -, same⟩ | ⟨-, sessions, effects⟩
  · rw [same] at asks
    obtain ⟨de, member, -⟩ := asks
    cases member
  · have settled : ∀ r : PortSession, r.state = .authServer →
        ∃ s, (if r.state = .new then none else some r) = some s ∧ s.state = .authServer := by
      intro r waiting
      exact ⟨r, by simp [waiting], waiting⟩
    have waits : ∃ s, (lane p.cfg mac (p.session mac) event).1 = some s ∧ s.state = .authServer := by
      rw [effects] at asks
      cases found : p.session mac with
      | none =>
          rw [found] at asks
          exact settled _ ((admitted_asksThenArms p.cfg mac event p.cfg.hostMode).2 asks)
      | some s =>
          rw [found] at asks
          exact settled _ ((s.step_asksThenArms p.cfg event p.cfg.hostMode mac).2 asks)
    obtain ⟨s, here, waiting⟩ := waits
    exact ⟨s, by rw [sessions, Function.update_self, here], waiting⟩

/-- **A call passes on the reply its session waits for.** -/
theorem handle_passesOn (inv : PortInv p P) {mac : MacAddr} {event : Event} {eap : Bytes}
    (waiting : p.Waiting mac) (brings : event.serverEap = some eap) :
    PassesOn mac eap (p.handle mac event).2 := by
  obtain ⟨s, found, asked⟩ := waiting
  rcases handle_lane inv mac event with ⟨missing, -, -⟩ | ⟨-, -, effects⟩
  · rw [found] at missing
    cases missing
  · rw [effects, found]
    exact s.step_passesOn p.cfg event p.cfg.hostMode asked brings mac

/-- A packet of `mac` is relayed: it is a Response, and the session of `mac` waits for one, or
there is none and one is admitted. -/
def Relays (p : PortPae) (mac : MacAddr) (eap : InboundEap) : Prop :=
  eap.code = .response ∧
    match p.session mac with
    | some s => s.state = .connecting ∨ s.state = .authenticating
    | none => p.canAdmit = true

/-- **A packet makes its session ask exactly when it is relayed.** -/
theorem handle_relays_iff (inv : PortInv p P) (mac : MacAddr) (eap : InboundEap) :
    (∃ de ∈ (p.handle mac (.eapFromSupplicant eap)).2, de.effect.isRequest = true) ↔
      p.Relays mac eap := by
  have asks : ∀ fx : List Effect, (∃ de ∈ decorate p.cfg.hostMode mac fx, de.effect.isRequest = true) ↔
      ∃ effect ∈ fx, effect.isRequest = true := by
    intro fx
    simp [decorate]
  unfold Relays
  rcases handle_lane inv mac (.eapFromSupplicant eap) with ⟨missing, full, same⟩ | ⟨room, -, effects⟩
  · rw [same, missing]
    simp [full]
  · rw [effects, asks]
    cases found : p.session mac with
    | some s => exact s.step_relays_iff p.cfg eap
    | none =>
        let enabled := (PortSession.new mac).step .enable p.cfg
        have quiet : ∀ effect ∈ enabled.2, effect.isRequest = false := by
          intro effect member
          have three : effect ∈ [Effect.setAuthorization .unauthorized,
              .txEapToSupplicant (requestIdentity 1), .armTimer .txPeriod] := member
          simp only [List.mem_cons, List.not_mem_nil, or_false] at three
          rcases three with rfl | rfl | rfl <;> rfl
        have effects : (lane p.cfg mac none (.eapFromSupplicant eap)).2 =
            enabled.2 ++ (enabled.1.step (.eapFromSupplicant eap) p.cfg).2 := rfl
        have relays := enabled.1.step_relays_iff p.cfg eap
        have waits : enabled.1.state = .connecting ∨ enabled.1.state = .authenticating := Or.inl rfl
        rw [effects]
        constructor
        · rintro ⟨effect, member, asks⟩
          rcases List.mem_append.mp member with first | second
          · rw [quiet effect first] at asks
            cases asks
          · exact ⟨(relays.mp ⟨effect, second, asks⟩).1, room found⟩
        · rintro ⟨response, -⟩
          obtain ⟨effect, member, asks⟩ := relays.mpr ⟨response, waits⟩
          exact ⟨effect, List.mem_append_right _ member, asks⟩

end PortPae

end Authenticator.Pae
