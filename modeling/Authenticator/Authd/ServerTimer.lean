/-
# Authd.ServerTimer -- a session that waits for the server has its timer armed

The effect that asks the server stands before the one that arms its timeout, and nothing
turns a failed request into a `ServerUnreachable`.  So a failed round-trip leaves the
session in `AuthServer`, and it is moved on only if its ServerTimeout is still armed from
before: `Rearmed` is that condition, on the armed timers where a call fails and on the
effects dropped with it.
-/
import Authenticator.Pae.SessionTimers
import Authenticator.Pae.PortPosture
import Authenticator.Authd.Run

namespace Authenticator.Authd

set_option autoImplicit false

open Authenticator.Pacp Authenticator.Pae Authenticator.Radius Authenticator.Theory

/-- The armed timers of every MAC. -/
abbrev Armed := MacAddr → Finset TimerKind

/-! ## The timers a port asks for -/

section Schedule

/-- The armed timers after an effect. -/
def schedule (A : Armed) (de : DirectedEffect) : Armed :=
  match de.mac with
  | some mac => Function.update A mac (de.effect.schedule (A mac))
  | none => A

def scheduledAll (A : Armed) (fx : List DirectedEffect) : Armed := fx.foldl schedule A

/-- An effect that is about no timer arms and cancels nothing. -/
theorem schedule_quiet {A : Armed} {de : DirectedEffect}
    (quiet : ∀ armed, de.effect.schedule armed = armed) : schedule A de = A := by
  unfold schedule
  split
  · rw [quiet, Function.update_eq_self]
  · rfl

theorem schedule_mono {kind : TimerKind} {A B : Armed} (de : DirectedEffect)
    (fewer : ∀ mac, kind ∈ A mac → kind ∈ B mac) (mac : MacAddr) :
    kind ∈ schedule A de mac → kind ∈ schedule B de mac := by
  obtain ⟨target, effect⟩ := de
  cases target with
  | none => exact fewer mac
  | some other =>
      show kind ∈ Function.update A other _ mac → kind ∈ Function.update B other _ mac
      by_cases here : mac = other
      · subst here
        rw [Function.update_self, Function.update_self]
        cases effect <;> simp only [Effect.schedule] <;> grind
      · rw [Function.update_of_ne here, Function.update_of_ne here]
        exact fewer mac

theorem scheduledAll_mono {kind : TimerKind} {A B : Armed} (fx : List DirectedEffect)
    (fewer : ∀ mac, kind ∈ A mac → kind ∈ B mac) (mac : MacAddr) :
    kind ∈ scheduledAll A fx mac → kind ∈ scheduledAll B fx mac := by
  induction fx generalizing A B with
  | nil => exact fewer mac
  | cons de rest ih => exact ih (schedule_mono de fewer)

/-- A timer armed after some effects was armed before, or is armed by one of them. -/
theorem mem_scheduledAll {kind : TimerKind} {A : Armed} {fx : List DirectedEffect} {mac : MacAddr}
    (armed : kind ∈ scheduledAll A fx mac) :
    kind ∈ A mac ∨ ⟨some mac, .armTimer kind⟩ ∈ fx := by
  induction fx generalizing A with
  | nil => exact Or.inl armed
  | cons de rest ih =>
      rcases ih armed with now | later
      · obtain ⟨target, effect⟩ := de
        cases target with
        | none => exact Or.inl now
        | some other =>
            by_cases here : mac = other
            · subst here
              have now : kind ∈ effect.schedule (A mac) := by
                simpa [schedule] using now
              cases effect <;> simp only [Effect.schedule] at now <;> grind
            · have now : kind ∈ A mac := by
                simpa [schedule, Function.update_of_ne here] using now
              exact Or.inl now
      · exact Or.inr (List.mem_cons_of_mem _ later)

/-- The decorated effects of a session act on the timers of its MAC alone. -/
theorem scheduledAll_decorate (hostMode : HostMode) (mac : MacAddr) (A : Armed)
    (fx : List Effect) :
    scheduledAll A (decorate hostMode mac fx) = Function.update A mac (scheduled (A mac) fx) := by
  induction fx generalizing A with
  | nil => simp [decorate, scheduledAll]
  | cons effect rest ih =>
      have one : schedule A
          { mac := if hostMode = .multiHost ∧ effect.isSetAuthorization then none else some mac,
            effect := effect } = Function.update A mac (effect.schedule (A mac)) := by
        cases effect <;>
          simp [schedule, Effect.isSetAuthorization, Effect.schedule]
        split <;> simp
      show scheduledAll (schedule A _) (decorate hostMode mac rest) = _
      rw [one, ih, scheduled_cons, Function.update_self, Function.update_idem]

end Schedule

/-! ## The port -/

/-- Every session that waits for the server has its timer armed. -/
def Guarded (p : PortPae) (A : Armed) : Prop :=
  ∀ s ∈ p.sessions, s.state = .authServer → .serverTimeout ∈ A s.mac

theorem mem_expire {armed : Finset TimerKind} {event : Event} {kind : TimerKind}
    (member : kind ∈ armed) (other : event ≠ .timer kind) : kind ∈ event.expire armed := by
  cases event with
  | timer expired =>
      refine Finset.mem_erase.mpr ⟨?_, member⟩
      rintro rfl
      exact other rfl
  | _ => exact member

theorem serverTimeout_admitted {cfg : PaeConfig} {mac : MacAddr} {event : Event}
    {armed : Finset TimerKind} (waiting : (admitted cfg mac event).1.state = .authServer) :
    .serverTimeout ∈ scheduled armed (admitted cfg mac event).2 := by
  unfold admitted at waiting ⊢
  split at waiting
  · cases waiting
  · rename_i other
    rw [if_neg other]
    simp only [scheduled_append]
    refine serverTimeout_step ?_ waiting
    intro fresh
    cases fresh

/-- **The step lemma of `handle`**, after the expiry that is being handled. -/
theorem guarded_handle {p : PortPae} {P : Postures} {A : Armed} (inv : PortInv p P)
    (guarded : Guarded p A) (mac : MacAddr) (event : Event) :
    Guarded (p.handle mac event).1
      (scheduledAll (Function.update A mac (event.expire (A mac))) (p.handle mac event).2) := by
  have settle : ∀ (s : PortSession) (others : List PortSession) {sessions : List PortSession}
      {fx : List Effect},
      (∀ t ∈ sessions, t = s ∨ t ∈ others) → (∀ t ∈ others, t ∈ p.sessions ∧ t.mac ≠ mac) →
      s.mac = mac →
      (s.state = .authServer → .serverTimeout ∈ scheduled (event.expire (A mac)) fx) →
      Guarded { p with sessions := sessions }.prune (scheduledAll
        (Function.update A mac (event.expire (A mac))) (decorate p.cfg.hostMode mac fx)) := by
    intro s others sessions fx inside apart own armed t member waiting
    rw [scheduledAll_decorate, Function.update_self, Function.update_idem]
    rcases inside t (PortPae.mem_prune.mp member).1 with rfl | other
    · rw [own, Function.update_self]
      exact armed waiting
    · obtain ⟨old, different⟩ := apart t other
      rw [Function.update_of_ne different]
      exact guarded t old waiting
  obtain ⟨before, s, later, split, rfl, same⟩ | ⟨absent, free, same⟩ | ⟨absent, -, same⟩ :=
    p.handle_cases mac event
  · rw [same]
    refine settle (s.step event p.cfg).1 (before ++ later) ?_ ?_ (s.step_mac p.cfg event) ?_
    · intro t member
      simp only [List.mem_append, List.mem_cons] at member ⊢
      tauto
    · intro t member
      refine ⟨?_, (PortPae.others_of_split inv split).different t member⟩
      rw [split]
      simp only [List.mem_append, List.mem_cons] at member ⊢
      tauto
    · refine serverTimeout_step fun waiting other => mem_expire (guarded s ?_ waiting) other
      simp [split]
  · rw [same]
    refine settle (admitted p.cfg mac event).1 p.sessions ?_ ?_ (admitted_mac p.cfg mac event)
      serverTimeout_admitted
    · intro t member
      simp only [List.mem_append, List.mem_singleton] at member
      tauto
    · exact fun t member => ⟨member, absent t member⟩
  · rw [same]
    intro t member waiting
    have old := (PortPae.mem_prune.mp member).1
    show _ ∈ Function.update A mac (event.expire (A mac)) t.mac
    rw [Function.update_of_ne (absent t old)]
    exact guarded t old waiting

/-! ## What one effect adds to the log -/

/-- A delivered expiry is no longer armed. -/
def Entry.schedule (A : Armed) : Entry → Armed
  | ⟨_, .handled mac event _⟩ => Function.update A mac (event.expire (A mac))
  | ⟨_, .arm mac kind _⟩ => Function.update A mac (insert kind (A mac))
  | ⟨_, .cancel mac kind⟩ => Function.update A mac ((A mac).erase kind)
  | ⟨_, .cancelAll mac⟩ => Function.update A mac ∅
  | _ => A

/-- The timers armed on the scheduler. -/
def armedOf (log : List Entry) : Armed := log.foldl Entry.schedule fun _ => ∅

section Effects

variable {ω : Type} [RadiusProto] {deps : Deps ω} {port : String} {env env' : ω}
variable {de : DirectedEffect} {calls : List Call} {result : Except AuthdError (Option Event)}

/-- Performing an effect arms what it asks for, but for a SessionTimeout without a value. -/
theorem Dispatched.schedules (outcome : Dispatched deps port env de calls env' result)
    (serving : Option MacAddr) (A : Armed) {mac : MacAddr}
    (armed : .serverTimeout ∈ schedule A de mac) :
    .serverTimeout ∈
      (calls.map fun call => (⟨serving, call⟩ : Entry)).foldl Entry.schedule A mac := by
  have asks : ∀ {other}, de.asks = some other → schedule A de = A := by
    intro other asked
    apply schedule_quiet
    intro armed
    have asking := DirectedEffect.isRequest_of_asks asked
    cases effect : de.effect <;> rw [effect] at asking <;> first | rfl | cases asking
  cases outcome with
  | refused de other asked e | unanswered de other asked _ _ _ | discarded de other asked _ _ _ _
  | answered de other asked _ _ _ _ _ =>
      rw [asks asked] at armed
      exact armed
  | sent | applied | accounted | unaccounted =>
      rw [schedule_quiet fun _ => rfl] at armed
      exact armed
  | unarmed other =>
      have found : .serverTimeout ∈
          scheduledAll A [⟨some other, .armTimer .sessionTimeout⟩] mac := armed
      rcases mem_scheduledAll found with before | now
      · exact before
      · simp at now
  | _ => exact armed

/-- A call that fails touches no timer. -/
theorem Dispatched.schedules_nothing {e : AuthdError}
    (outcome : Dispatched deps port env de calls env' result) (failed : result = .error e)
    (serving : Option MacAddr) (A : Armed) :
    (calls.map fun call => (⟨serving, call⟩ : Entry)).foldl Entry.schedule A = A := by
  cases outcome with
  | armed | cancelled | cancelledAll => cases failed
  | _ => rfl

end Effects

/-! ## The invariant of a run -/

/-- No session is in `AuthServer` without its ServerTimeout armed on the scheduler. -/
def ServerGuarded {ω : Type} (w : World ω) : Prop :=
  ∀ s ∈ w.pae.sessions, ¬ (s.state = .authServer ∧ .serverTimeout ∉ armedOf w.log s.mac)

/-- Where a call fails, the server timers that would have been armed are still armed. -/
def Rearmed (A : Armed) (dropped : List DirectedEffect) : Prop :=
  ∀ de ∈ dropped, de.effect = .armTimer .serverTimeout →
    de.mac.all (fun mac => .serverTimeout ∈ A mac) = true

instance (A : Armed) (dropped : List DirectedEffect) : Decidable (Rearmed A dropped) :=
  inferInstanceAs (Decidable (∀ de ∈ dropped, de.effect = .armTimer .serverTimeout →
    de.mac.all (fun mac => .serverTimeout ∈ A mac) = true))

section Invariant

variable {ω : Type}

/-- Once the effects left are performed, every waiting session has its timer. -/
structure Watched (rest : List DirectedEffect) (w : World ω) : Prop where
  port : ∃ P, PortInv w.pae P
  guarded : Guarded w.pae (scheduledAll (armedOf w.log) rest)

theorem Watched.start (port : String) (ctxTemplate : RequestContext) (cfg : PaeConfig) (env : ω) :
    Watched [] (.start port ctxTemplate cfg env) := by
  refine ⟨⟨_, PortInv.new cfg⟩, ?_⟩
  intro s member
  cases member

theorem Watched.enter {w : World ω} (watched : Watched [] w) (mac : MacAddr) (event : Event) :
    Watched (feedPae mac event w).1 (feedPae mac event w).2 := by
  obtain ⟨⟨P, inv⟩, guarded⟩ := watched
  have expired : armedOf (feedPae mac event w).2.log =
      Function.update (armedOf w.log) mac (event.expire (armedOf w.log mac)) :=
    List.foldl_concat ..
  refine ⟨⟨_, PortPae.portInv_handle inv mac event⟩, ?_⟩
  rw [expired]
  exact guarded_handle inv guarded mac event

variable [RadiusProto] {deps : Deps ω} {w w' : World ω} {de : DirectedEffect}
variable {rest : List DirectedEffect} {calls : List Call}

/-- **The step lemma**: performing an effect, whether or not it fails. -/
theorem Watched.act {result : Except AuthdError (Option Event)} (watched : Watched (de :: rest) w)
    (performed : Performed deps w de (result, w') calls) : Watched rest w' := by
  obtain ⟨port, guarded⟩ := watched
  have same : w'.pae = w.pae := performed.pae
  have kept : ∀ mac, .serverTimeout ∈ schedule (armedOf w.log) de mac →
      .serverTimeout ∈ armedOf w'.log mac := by
    intro mac armed
    rw [armedOf, performed.log, List.foldl_append]
    exact performed.outcome.schedules _ _ armed
  rw [← same] at port guarded
  refine ⟨port, ?_⟩
  intro s member waiting
  exact scheduledAll_mono rest kept s.mac (guarded s member waiting)

/-- What a failure leaves, when no arming is missed. -/
theorem Watched.abandon {e : AuthdError} (watched : Watched (de :: rest) w)
    (performed : Performed deps w de (.error e, w') calls)
    (rearmed : Rearmed (armedOf w.log) rest) : Watched [] w' := by
  obtain ⟨port, guarded⟩ := watched.act performed
  have unchanged : armedOf w'.log = armedOf w.log := by
    rw [armedOf, performed.log, List.foldl_append]
    exact performed.outcome.schedules_nothing rfl _ _
  refine ⟨port, ?_⟩
  intro s member waiting
  rcases mem_scheduledAll (guarded s member waiting) with before | dropped
  · exact before
  · show _ ∈ armedOf w'.log s.mac
    rw [unchanged]
    exact of_decide_eq_true (rearmed _ dropped rfl)

end Invariant

/-- **No session waits for the server unguarded.**  In every run in which a failing call
drops the arming of a ServerTimeout only where that timer is still armed, every session
in `AuthServer` has its ServerTimeout armed when a call returns. -/
theorem serverGuarded_of_rearmed {ω : Type} [RadiusProto] (deps : Deps ω) (port : String)
    (ctxTemplate : RequestContext) (cfg : PaeConfig) (env : ω) (inputs : List (MacAddr × Event))
    (rearmed : ServesWithin deps (fun w _ rest => Rearmed (armedOf w.log) rest)
      (.start port ctxTemplate cfg env) inputs) :
    ServerGuarded (serve deps (.start port ctxTemplate cfg env) inputs) := by
  have watched : Watched [] (serve deps (.start port ctxTemplate cfg env) inputs) :=
    serve_effects_invariant (fun mac event _ watched => watched.enter mac event)
      (fun watched performed => watched.act performed)
      (fun watched performed rearmed => watched.abandon performed rearmed)
      (Watched.start port ctxTemplate cfg env) rearmed
  rintro s member ⟨waiting, unarmed⟩
  exact unarmed (watched.guarded s member waiting)

section Witness

attribute [local instance] Site.proto

/-- A lost Accounting-Start drops no server timer. -/
theorem serverGuarded_of_rearmed_start :
    (⟨some Site.station, .arm Site.station .serverTimeout 30⟩ ∈
        (serve Site.deps (Site.start ⟨[.ok Site.accept], [.error .radSec]⟩) Site.bypass).log) ∧
      ServerGuarded
        (serve Site.deps (Site.start ⟨[.ok Site.accept], [.error .radSec]⟩) Site.bypass) := by
  refine ⟨by decide +kernel, ?_⟩
  exact serverGuarded_of_rearmed Site.deps "Ethernet4" Site.context Site.config
    ⟨[.ok Site.accept], [.error .radSec]⟩ Site.bypass (by decide +kernel)

/-- The server is unreachable when a silent supplicant is bypassed: the session is left in
`AuthServer` with no timer armed at all. -/
theorem unreachable_leaves_session_waiting :
    (∃ s ∈ (serve Site.deps (Site.start ⟨[], []⟩) Site.bypass).pae.sessions,
      s.state = .authServer ∧
        armedOf (serve Site.deps (Site.start ⟨[], []⟩) Site.bypass).log s.mac = ∅) ∧
      ¬ ServerGuarded (serve Site.deps (Site.start ⟨[], []⟩) Site.bypass) := by
  have stranded : ∃ s ∈ (serve Site.deps (Site.start ⟨[], []⟩) Site.bypass).pae.sessions,
      s.state = .authServer ∧
        armedOf (serve Site.deps (Site.start ⟨[], []⟩) Site.bypass).log s.mac = ∅ := by
    decide +kernel
  refine ⟨stranded, ?_⟩
  generalize serve Site.deps (Site.start ⟨[], []⟩) Site.bypass = w at stranded
  intro guarded
  obtain ⟨s, member, waiting, none⟩ := stranded
  refine guarded s member ⟨waiting, ?_⟩
  rw [none]
  exact Finset.notMem_empty _

end Witness

end Authenticator.Authd
