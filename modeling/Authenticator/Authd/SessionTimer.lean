/-
# Authd.SessionTimer -- whether the Session-Timeout of an accept is armed

The duration of a SessionTimeout goes by the orchestrator: the grant of an accept notes it
under the MAC that the grant is directed at, and the arming that follows reads it back.  In
`multiHost` a grant is directed at the port and notes nothing, so that nothing is armed
(`session_timeout_armed_iff`).

`Clock` is what decides the timer of one MAC, the value noted and the duration armed, and
every effect moves it on (`clock_dispatch`).  `reply_concludes` says that a reply is the last
event of its call, so what its effects leave is what the call leaves.
-/
import Authenticator.Pae.Exchange
import Authenticator.Authd.FrameSafety
import Authenticator.Authd.Trace

namespace Authenticator.Authd

set_option autoImplicit false

open Authenticator.Pacp Authenticator.Pae Authenticator.Radius Authenticator.Theory

/-! ## The clock of a MAC -/

/-- The Session-Timeout that is noted for a MAC, and the duration its timer is armed with. -/
structure Clock where
  noted : Option UInt32
  armed : Option Nat

/-- A grant directed at `mac` notes its Session-Timeout. -/
def noting (mac : MacAddr) (noted : Option UInt32) : DirectedEffect → Option UInt32
  | ⟨some station, .setAuthorization (.authorized a)⟩ =>
      if station = mac then a.sessionTimeout else noted
  | _ => noted

/-- The timer is armed with what is noted, if anything is. -/
def timing (mac : MacAddr) (noted : Option UInt32) (armed : Option Nat) :
    DirectedEffect → Option Nat
  | ⟨some station, .armTimer .sessionTimeout⟩ =>
      if station = mac then (noted.map UInt32.toNat).or armed else armed
  | ⟨some station, .cancelTimer .sessionTimeout⟩ | ⟨some station, .cancelAllTimers⟩ =>
      if station = mac then none else armed
  | _ => armed

/-- The clock of `mac` after an effect. -/
def Clock.after (mac : MacAddr) (c : Clock) (de : DirectedEffect) : Clock :=
  ⟨noting mac c.noted de, timing mac c.noted c.armed de⟩

/-- A delivered expiry is no longer armed. -/
def Entry.time (mac : MacAddr) (armed : Option Nat) : Entry → Option Nat
  | ⟨_, .handled station (.timer .sessionTimeout) _⟩ => if station = mac then none else armed
  | ⟨_, .arm station .sessionTimeout secs⟩ => if station = mac then some secs else armed
  | ⟨_, .cancel station .sessionTimeout⟩ | ⟨_, .cancelAll station⟩ =>
      if station = mac then none else armed
  | _ => armed

/-- The duration with which the scheduler has the SessionTimeout of `mac` armed. -/
def sessionTimer (mac : MacAddr) (log : List Entry) : Option Nat := log.foldl (Entry.time mac) none

theorem sessionTimer_append (mac : MacAddr) (log more : List Entry) :
    sessionTimer mac (log ++ more) = more.foldl (Entry.time mac) (sessionTimer mac log) :=
  List.foldl_append

section Clocks

variable {ω : Type}

def clockOf (mac : MacAddr) (w : World ω) : Clock :=
  ⟨(w.orch.session mac).sessionTimeout, sessionTimer mac w.log⟩

theorem sessionTimeout_session (o : Orchestrator) (mac : MacAddr) :
    (o.session mac).sessionTimeout = (o.sessions mac).bind SessionState.sessionTimeout := by
  unfold Orchestrator.session
  cases o.sessions mac <;> rfl

theorem sessionTimeout_counted (mac : MacAddr) (w : World ω) (other : MacAddr) :
    ((w.counted mac).orch.session other).sessionTimeout = (w.orch.session other).sessionTimeout := by
  have named : ((w.orch.acctIdFor mac).2.session other).sessionTimeout =
      (w.orch.session other).sessionTimeout := by
    unfold Orchestrator.acctIdFor
    split
    · rfl
    · rw [Orchestrator.session_setSession]
      split
      · rename_i same
        rw [same]
        rfl
      · rfl
  show ((Orchestrator.setSession _ _ _).session other).sessionTimeout = _
  rw [Orchestrator.session_setSession]
  split
  · rename_i same
    rw [← named, same]
  · exact named

variable (mac : MacAddr)

/-- An effect that asks the server leaves the clock alone. -/
theorem after_asks {de : DirectedEffect} {station : MacAddr} (asked : de.asks = some station)
    (c : Clock) : c.after mac de = c := by
  unfold DirectedEffect.asks at asked
  split at asked
  · rfl
  · rename_i target _
    cases target <;> rfl
  · cases asked

variable [RadiusProto] (deps : Deps ω)

theorem noting_dispatch (de : DirectedEffect) (w : World ω) :
    ((dispatch deps de w).2.orch.session mac).sessionTimeout =
      noting mac (w.orch.session mac).sessionTimeout de := by
  cases asked : de.asks with
  | some station =>
      have same := congrArg Clock.noted (after_asks mac asked (clockOf mac w))
      obtain ⟨build, ran, -⟩ := dispatch_asks deps asked
      obtain ⟨radius, -, -, sessions, -⟩ := roundTrip_sessions deps station build w
      refine Eq.trans ?_ same.symm
      rw [ran, sessions]
      split
      · rename_i own
        rw [own]
        rfl
      · rfl
  | none =>
      rw [dispatch_quietly deps asked]
      obtain ⟨target, effect⟩ := de
      cases target with
      | none => cases effect <;> rfl
      | some station =>
          cases effect with
          | setAuthorization auth =>
              cases auth with
              | authorized a =>
                  show ((Orchestrator.setSession _ _ _).session mac).sessionTimeout =
                    if station = mac then _ else _
                  rw [Orchestrator.session_setSession]
                  by_cases own : mac = station
                  · rw [if_pos own, if_pos own.symm]
                  · rw [if_neg own, if_neg (Ne.symm own)]
              | _ => rfl
          | accounting trigger => exact sessionTimeout_counted station w mac
          | _ => rfl

/-- A SessionTimeout is armed with the value noted, if there is one. -/
theorem timing_arm (station : MacAddr) (w : World ω) :
    sessionTimer mac (dispatch deps ⟨some station, .armTimer .sessionTimeout⟩ w).2.log =
      if station = mac then
        ((w.orch.session mac).sessionTimeout.map UInt32.toNat).or (sessionTimer mac w.log)
      else sessionTimer mac w.log := by
  have known : w.orch.timerDuration station .sessionTimeout deps.timers =
      (w.orch.session station).sessionTimeout.map UInt32.toNat := by
    rw [sessionTimeout_session]
    rfl
  rw [dispatch_armTimer, known]
  by_cases own : station = mac
  · subst own
    rw [if_pos rfl]
    cases (w.orch.session station).sessionTimeout with
    | none => rfl
    | some secs =>
        show sessionTimer station (w.log ++ [⟨w.serving, _⟩]) = _
        rw [sessionTimer_append]
        exact if_pos rfl
  · rw [if_neg own]
    cases (w.orch.session station).sessionTimeout with
    | none => rfl
    | some secs =>
        show sessionTimer mac (w.log ++ [⟨w.serving, _⟩]) = _
        rw [sessionTimer_append]
        exact if_neg own

/-- An effect arms and cancels what it says, whatever becomes of it. -/
theorem timing_dispatch (de : DirectedEffect) (w : World ω) :
    sessionTimer mac (dispatch deps de w).2.log =
      timing mac (w.orch.session mac).sessionTimeout (sessionTimer mac w.log) de := by
  obtain ⟨target, effect⟩ := de
  cases effect with
  | armTimer kind =>
      cases target with
      | none => rfl
      | some station =>
          cases kind with
          | sessionTimeout => exact timing_arm mac deps station w
          | _ =>
              rw [dispatch_armTimer]
              show sessionTimer mac (w.log ++ [⟨w.serving, _⟩]) = _
              rw [sessionTimer_append]
              rfl
  | cancelTimer kind =>
      cases target with
      | none => rfl
      | some station =>
          show sessionTimer mac (w.log ++ [⟨w.serving, _⟩]) = _
          rw [sessionTimer_append]
          cases kind <;> rfl
  | cancelAllTimers =>
      cases target with
      | none => rfl
      | some station =>
          show sessionTimer mac (w.log ++ [⟨w.serving, _⟩]) = _
          rw [sessionTimer_append]
          rfl
  | _ =>
      obtain ⟨calls, performed⟩ := dispatch_performed deps ⟨target, _⟩ w
      rw [performed.log, sessionTimer_append]
      have outcome := performed.outcome
      generalize (dispatch deps _ w).1 = result, (dispatch deps _ w).2.env = env at outcome
      cases target <;> cases outcome <;> rfl

/-- **What an effect does to the clock of a MAC**, whatever becomes of it. -/
theorem clock_dispatch (de : DirectedEffect) (w : World ω) :
    clockOf mac (dispatch deps de w).2 = (clockOf mac w).after mac de := by
  rw [clockOf, noting_dispatch, timing_dispatch]
  rfl

end Clocks

/-! ## What is noted in a run -/

section Runs

variable {ω : Type}

/-- In `multiHost` the grants that are left are directed at the port, and nothing is noted. -/
structure Unnoted (cfg : PaeConfig) (rest : List DirectedEffect) (w : World ω) : Prop where
  port : Orderly cfg w.pae
  portWide : cfg.hostMode = .multiHost →
    ∀ de ∈ rest, de.effect.isSetAuthorization = true → de.mac = none
  empty : cfg.hostMode = .multiHost → ∀ mac, (w.orch.session mac).sessionTimeout = none

variable {cfg : PaeConfig} {w : World ω} {de : DirectedEffect} {rest : List DirectedEffect}

theorem Unnoted.settle (unnoted : Unnoted cfg rest w) : Unnoted cfg [] w :=
  ⟨unnoted.port, by simp, unnoted.empty⟩

theorem Unnoted.enter (unnoted : Unnoted cfg [] w) (mac : MacAddr) (event : Event) :
    Unnoted cfg (feedPae mac event w).1 (feedPae mac event w).2 := by
  obtain ⟨port, -, empty⟩ := unnoted
  refine ⟨orderly_step cfg w.pae (.handle mac event) port, ?_, empty⟩
  intro multi de member commands
  rw [w.pae.handle_target mac event member commands, portTarget, port.1, if_pos multi]

variable [RadiusProto] (deps : Deps ω)

theorem Unnoted.dispatch (unnoted : Unnoted cfg (de :: rest) w) :
    Unnoted cfg rest (dispatch deps de w).2 := by
  obtain ⟨port, portWide, empty⟩ := unnoted
  obtain ⟨calls, performed⟩ := dispatch_performed deps de w
  refine ⟨by rw [performed.pae]; exact port, ?_, ?_⟩
  · exact fun multi later member => portWide multi later (List.mem_cons_of_mem _ member)
  · intro multi mac
    have directed := portWide multi de List.mem_cons_self
    rw [noting_dispatch, empty multi mac]
    obtain ⟨target, effect⟩ := de
    cases effect with
    | setAuthorization auth =>
        obtain rfl : target = none := directed rfl
        rfl
    | _ => cases target <;> rfl

/-- **In no run is anything noted in `multiHost`.** -/
theorem unnoted_serve (port : String) (ctxTemplate : RequestContext) (cfg : PaeConfig) (env : ω)
    (inputs : List (MacAddr × Event)) :
    Unnoted cfg [] (serve deps (.start port ctxTemplate cfg env) inputs) := by
  have keeps : (eventQueue deps).Keeps (fun _ _ _ => True) (fun _ w => Unnoted cfg [] w)
      (fun _ rest _ w => Unnoted cfg rest w) (Unnoted cfg []) :=
    eventQueue_keeps (fun task _ w unnoted => unnoted.enter task.1 task.2)
      (fun _ _ _ _ _ _ unnoted _ => unnoted.dispatch deps)
      (fun _ _ _ _ _ _ unnoted _ _ => (unnoted.dispatch deps).settle) fun _ _ _ held => held
  have enters : ∀ (_ : MacAddr) (_ : Event) (w : World ω), True → Unnoted cfg [] w →
      Unnoted cfg [] w := fun _ _ _ _ held => held
  exact serve_invariant keeps enters (fun _ _ held => held) (fun _ held => held)
    ⟨orderly_new cfg, by simp, fun _ _ => rfl⟩ (fun _ _ => trivial)
    (servesWithin_of_forall deps (fun _ _ _ => trivial) _ _)

end Runs

/-! ## What an accept leaves -/

/-- The effect neither asks the server nor accounts. -/
def Plain (de : DirectedEffect) : Prop :=
  de.asks = none ∧ ∀ trigger, de.effect ≠ .accounting trigger

theorem plain_decorate {hostMode : HostMode} {mac : MacAddr} {fx : List Effect}
    (plain : ∀ effect ∈ fx, effect.isRequest = false ∧ ∀ trigger, effect ≠ .accounting trigger) :
    ∀ de ∈ decorate hostMode mac fx, Plain de := by
  intro de member
  obtain ⟨effect, inside, rfl⟩ := List.mem_map.mp member
  obtain ⟨quiet, unaccounted⟩ := plain effect inside
  refine ⟨Option.eq_none_iff_forall_ne_some.mpr fun station asked => ?_, unaccounted⟩
  exact absurd (DirectedEffect.isRequest_of_asks asked) (by simp [quiet])

section Accepts

variable {ω : Type} [RadiusProto] (deps : Deps ω) {w w' : World ω} {task : MacAddr × Event}
variable {de : DirectedEffect} {rest : List DirectedEffect} {queue : List (MacAddr × Event)}

theorem actAll_quiet (quiet : de.asks = none) :
    (eventQueue deps).actAll task (de :: rest) queue w =
      match (dispatch deps de w).1 with
      | .ok _ => (eventQueue deps).actAll task rest queue (dispatch deps de w).2
      | .error e => (.error e, (dispatch deps de w).2) := by
  cases acted : (eventQueue deps).act task de w with
  | mk outcome w' =>
      obtain ⟨result, same, ran⟩ := eventQueue_act_dispatch acted
      have done : (dispatch deps de w).1 = result := by rw [ran]
      rw [ran]
      subst same
      cases result with
      | ok follow =>
          obtain rfl := dispatch_quiet_follow deps quiet done
          have step : (eventQueue deps).actAll task (de :: rest) queue w = _ := Prog.bind_ok acted _
          rw [step, Option.map_none, Option.toList_none, List.append_nil]
      | error e => exact Prog.bind_error acted _

/-- A plain effect changes no Accounting-Request. -/
theorem builtAccounting_plain (plain : Plain de) (mac : MacAddr) (trigger : AcctTrigger) :
    builtAccounting deps mac trigger (dispatch deps de w).2 = builtAccounting deps mac trigger w := by
  rw [builtAccounting_eq, builtAccounting_eq, dispatch_quietly deps plain.1]
  unfold quietly
  split
  · rename_i station a
    have kept : ∀ {α : Type} (field : SessionState → α),
        (∀ s : SessionState, field { s with sessionTimeout := a.sessionTimeout } = field s) →
        field ((w.orch.setSession station
          { w.orch.session station with sessionTimeout := a.sessionTimeout }).session mac) =
            field (w.orch.session mac) := by
      intro α field same
      rw [Orchestrator.session_setSession]
      split
      · rename_i own
        rw [same, own]
      · rfl
    rw [Orchestrator.acctIdFor_fst, Orchestrator.acctIdFor_fst,
      kept SessionState.acctId fun _ => rfl, kept SessionState.radius fun _ => rfl]
    rfl
  · exact absurd rfl (plain.2 _)
  · rfl

/-- If every call since `start` succeeded, the SessionTimeout of `mac` is armed as `P` says. -/
def Leaves (start : List Entry) (mac : MacAddr) (P : Option Nat → Prop) (w : World ω) : Prop :=
  Unfailing deps.secret start w.log → P (sessionTimer mac w.log)

variable {deps} {start : List Entry} {mac : MacAddr} {P : Option Nat → Prop}

/-- Plain effects move the clock on, and then the others follow; if one fails, so did a call. -/
theorem leaves_plain {fx : List DirectedEffect} (plain : ∀ de ∈ fx, Plain de)
    (grew : start <+: w.log)
    (later : ∀ w', start <+: w'.log → clockOf mac w' = fx.foldl (Clock.after mac) (clockOf mac w) →
      (∀ trigger, builtAccounting deps mac trigger w' = builtAccounting deps mac trigger w) →
      Leaves deps start mac P ((eventQueue deps).actAll task rest queue w').2) :
    Leaves deps start mac P ((eventQueue deps).actAll task (fx ++ rest) queue w).2 := by
  induction fx generalizing w with
  | nil => exact later w grew rfl fun _ => rfl
  | cons de fx ih =>
      obtain ⟨here, behind⟩ := List.forall_mem_cons.mp plain
      obtain ⟨calls, performed⟩ := dispatch_performed deps de w
      rw [List.cons_append, actAll_quiet deps here.1]
      cases done : (dispatch deps de w).1 with
      | ok follow =>
          refine ih behind (grew.trans ⟨_, performed.log.symm⟩) ?_
          intro w' grown clock built
          refine later w' grown ?_ fun trigger => ?_
          · rw [clock, clock_dispatch]
            rfl
          · rw [built, builtAccounting_plain deps here]
      | error e =>
          intro unfailing
          rcases dispatch_quiet_fails deps here.1 done with ⟨call, unsuccessful, log⟩ | ⟨_, trigger, same, -⟩
          · rw [log] at unfailing
            exact absurd unfailing (not_unfailing grew unsuccessful)
          · exact absurd (congrArg DirectedEffect.effect same) (here.2 trigger)

/-- Accounting leaves the clock, if its request is built; the others follow then. -/
theorem leaves_accounting {trigger : AcctTrigger} (grew : start <+: w.log)
    (unbuilt : (¬ ∃ request, builtAccounting deps mac trigger w = .ok request) →
      P (clockOf mac w).armed)
    (later : ∀ w', start <+: w'.log → clockOf mac w' = clockOf mac w →
      (∃ request, builtAccounting deps mac trigger w = .ok request) →
      Leaves deps start mac P ((eventQueue deps).actAll task rest queue w').2) :
    Leaves deps start mac P
      ((eventQueue deps).actAll task (⟨some mac, .accounting trigger⟩ :: rest) queue w).2 := by
  obtain ⟨calls, performed⟩ := dispatch_performed deps ⟨some mac, .accounting trigger⟩ w
  have clock := clock_dispatch mac deps ⟨some mac, .accounting trigger⟩ w
  have quiet : DirectedEffect.asks ⟨some mac, .accounting trigger⟩ = none := rfl
  rw [actAll_quiet deps quiet]
  cases done : (dispatch deps ⟨some mac, .accounting trigger⟩ w).1 with
  | ok follow =>
      refine later _ (grew.trans ⟨_, performed.log.symm⟩) clock ?_
      cases built : builtAccounting deps mac trigger w with
      | ok request => exact ⟨request, rfl⟩
      | error e =>
          rw [dispatch_accounting, built] at done
          cases done
  | error e =>
      intro unfailing
      rcases dispatch_quiet_fails deps quiet done with ⟨call, unsuccessful, log⟩ | ⟨_, _, same, missing⟩
      · rw [log] at unfailing
        exact absurd unfailing (not_unfailing grew unsuccessful)
      · cases same
        show P (clockOf mac (dispatch deps _ w).2).armed
        rw [clock]
        exact unbuilt missing

/-- The grant notes its value, and the accounting that is due before the arming goes out. -/
def Armable (deps : Deps ω) (cfg : PaeConfig) (mac : MacAddr) (s : PortSession) (w₀ : World ω) :
    Prop :=
  cfg.hostMode ≠ .multiHost ∧
    (s.accountingOpen = true ∨ ∃ request, builtAccounting deps mac .start w₀ = .ok request)

/-- The timers of an accept, once its grant is made: the last one reads what is noted. -/
theorem leaves_arming {hostMode : HostMode} {reauthEnabled : Bool} {timeout noted : Option UInt32}
    (grew : start <+: w.log) (clock : clockOf mac w = ⟨noted, none⟩)
    (armed : P (if timeout.isSome then noted.map UInt32.toNat else none)) :
    Leaves deps start mac P ((eventQueue deps).actAll task (decorate hostMode mac
      ((if reauthEnabled then [.armTimer .reauth] else []) ++
        (if timeout.isSome then [.armTimer .sessionTimeout] else []))) queue w).2 := by
  rw [← List.append_nil (decorate _ _ _)]
  refine leaves_plain (plain_decorate ?_) grew fun w' _ moved _ _ => ?_
  · cases reauthEnabled <;> cases timeout <;> simp [Effect.isRequest]
  · show P (clockOf mac w').armed
    rw [moved, clock]
    cases reauthEnabled <;> cases timeout <;> cases noted <;>
      simpa [decorate, Clock.after, timing, noting, Effect.isSetAuthorization] using armed

/-- **What the effects of an accept leave**: its Session-Timeout is armed, or nothing is. -/
theorem leaves_accept (cfg : PaeConfig) (s : PortSession) (a : Authorization) (eap : Option Bytes)
    (grew : start <+: w.log)
    (empty : cfg.hostMode = .multiHost → (clockOf mac w).noted = none) :
    Leaves deps start mac
      (fun secs => (Armable deps cfg mac s w → secs = a.sessionTimeout.map UInt32.toNat) ∧
        (¬ Armable deps cfg mac s w → secs = none))
      ((eventQueue deps).actAll task (decorate cfg.hostMode mac (s.authorize a eap cfg).2) queue w).2 := by
  have effects : decorate cfg.hostMode mac (s.authorize a eap cfg).2 =
      decorate cfg.hostMode mac (eap.toList.map .txEapToSupplicant ++
        [.cancelAllTimers, .setAuthorization (.authorized a)]) ++
      (decorate cfg.hostMode mac (if s.accountingOpen then [] else [.accounting .start]) ++
        decorate cfg.hostMode mac ((if cfg.reauthEnabled then [.armTimer .reauth] else []) ++
          (if a.sessionTimeout.isSome then [.armTimer .sessionTimeout] else []))) := by
    simp [PortSession.authorize, decorate]
  rw [effects]
  refine leaves_plain (plain_decorate ?_) grew fun w' grown moved built => ?_
  · cases eap <;> simp [Effect.isRequest]
  have clock : clockOf mac w' =
      ⟨if cfg.hostMode = .multiHost then none else a.sessionTimeout, none⟩ := by
    rw [moved]
    cases eap <;> by_cases multi : cfg.hostMode = .multiHost <;>
      simp [decorate, Clock.after, timing, noting, Effect.isSetAuthorization, multi, empty]
  have value : (s.accountingOpen = true ∨ ∃ request, builtAccounting deps mac .start w = .ok request) →
      ∀ secs, secs = (if a.sessionTimeout.isSome then
        (if cfg.hostMode = .multiHost then none else a.sessionTimeout).map UInt32.toNat else none) →
      (Armable deps cfg mac s w → secs = a.sessionTimeout.map UInt32.toNat) ∧
        (¬ Armable deps cfg mac s w → secs = none) := by
    rintro ready secs rfl
    by_cases multi : cfg.hostMode = .multiHost
    · simp [Armable, multi]
    · refine ⟨fun _ => ?_, fun unarmable => absurd ⟨multi, ready⟩ unarmable⟩
      cases a.sessionTimeout <;> simp [multi]
  by_cases opened : s.accountingOpen = true
  · rw [if_pos opened]
    exact leaves_arming grown clock (value (Or.inl opened) _ rfl)
  · have due : decorate cfg.hostMode mac [.accounting .start] = [⟨some mac, .accounting .start⟩] := by
      simp [decorate, Effect.isSetAuthorization]
    rw [if_neg opened, due]
    refine leaves_accounting grown (fun missing => ?_) fun later further same ready => ?_
    · rw [built] at missing
      rw [clock]
      exact ⟨fun armable => absurd armable.2 (not_or.mpr ⟨opened, missing⟩), fun _ => rfl⟩
    · rw [built] at ready
      exact leaves_arming further (same.trans clock) (value (Or.inr ready) _ rfl)

end Accepts

/-! ## The end of a call -/

section Calls

variable {ω : Type} [RadiusProto] (deps : Deps ω)

/-- The moments of one call. -/
def callHistory (mac : MacAddr) (event : Event) (w : World ω) : List (Moment ω) :=
  ((eventQueue deps).traced.drain 64 [(mac, event)] (w, [])).2.2

/-- The effects of the event, given at `w₀`, lead to `w'`. -/
structure Concluded (cfg : PaeConfig) (start : List Entry) (task : MacAddr × Event)
    (w₀ w' : World ω) : Prop where
  unnoted : Unnoted cfg [] w₀
  grew : start <+: w₀.log
  ends : w' = ((eventQueue deps).actAll task (feedPae task.1 task.2 w₀).1 []
    (feedPae task.1 task.2 w₀).2).2

/-- Inside the effects of one event: if a reply was given, it is this one. -/
structure Concluding (cfg : PaeConfig) (start : List Entry) (task : MacAddr × Event)
    (rest : List DirectedEffect) (queue : List (MacAddr × Event))
    (s : World ω × List (Moment ω)) : Prop where
  unnoted : Unnoted cfg rest s.1
  grew : start <+: s.1.log
  order : AsksThenArms rest
  asking : (∃ de ∈ rest, de.effect.isRequest = true) → queue = [] ∧ ¬ task.2.IsReply
  short : queue.length ≤ 1
  last : task.2.IsReply → queue = []
  given : ∀ next w₀, .expand next w₀ ∈ s.2 → next.2.IsReply →
    next = task ∧ Concluded deps cfg start next w₀ ((eventQueue deps).actAll task rest [] s.1).2

variable {deps} {cfg : PaeConfig} {start : List Entry} {task : MacAddr × Event}
variable {de : DirectedEffect} {rest : List DirectedEffect} {queue : List (MacAddr × Event)}
variable {w : World ω} {history : List (Moment ω)}

theorem Concluding.enter (unnoted : Unnoted cfg [] w) (grew : start <+: w.log)
    (fresh : ∀ next w₀, .expand next w₀ ∈ history → ¬ next.2.IsReply) :
    Concluding deps cfg start task (feedPae task.1 task.2 w).1 []
      ((feedPae task.1 task.2 w).2, history ++ [.expand task w]) := by
  refine ⟨unnoted.enter task.1 task.2, grew.trans ⟨_, rfl⟩,
    w.pae.handle_order task.1 task.2, ?_, by simp, fun _ => rfl, ?_⟩
  · rintro ⟨de, member, asks⟩
    exact ⟨rfl, w.pae.handle_unasked task.1 task.2 member asks⟩
  · intro next w₀ member isReply
    rcases List.mem_append.mp member with old | new
    · exact absurd isReply (fresh next w₀ old)
    · cases List.mem_singleton.mp new
      exact ⟨rfl, unnoted, grew, rfl⟩

/-- Inside the effects of a reply nothing is asked. -/
theorem Concluding.quiet {s : World ω × List (Moment ω)}
    (concluding : Concluding deps cfg start task (de :: rest) queue s) (isReply : task.2.IsReply) :
    de.asks = none := by
  cases asked : de.asks with
  | none => rfl
  | some station =>
      have asks := DirectedEffect.isRequest_of_asks asked
      exact absurd isReply (concluding.asking ⟨de, List.mem_cons_self, asks⟩).2

theorem Concluding.act (concluding : Concluding deps cfg start task (de :: rest) queue (w, history))
    {follow : Option Event} (done : (dispatch deps de w).1 = .ok follow) :
    Concluding deps cfg start task rest
      (queue ++ (follow.map fun event => (de.mac.getD task.1, event)).toList)
      ((dispatch deps de w).2, history ++ [.act task de w]) := by
  have silent := concluding.quiet
  obtain ⟨unnoted, grew, order, asking, short, last, given⟩ := concluding
  obtain ⟨calls, performed⟩ := dispatch_performed deps de w
  have given : ∀ next w₀, .expand next w₀ ∈ history ++ [.act task de w] → next.2.IsReply →
      next = task ∧ Concluded deps cfg start next w₀
        ((eventQueue deps).actAll task rest [] (dispatch deps de w).2).2 := by
    intro next w₀ member isReply
    have old : .expand next w₀ ∈ history := by simpa using member
    obtain ⟨rfl, concluded⟩ := given next w₀ old isReply
    rw [actAll_quiet deps (silent isReply), done] at concluded
    exact ⟨rfl, concluded⟩
  cases asked : de.asks with
  | none =>
      obtain rfl := dispatch_quiet_follow deps asked done
      rw [Option.map_none, Option.toList_none, List.append_nil]
      refine ⟨unnoted.dispatch deps, grew.trans ⟨_, performed.log.symm⟩, order.2, ?_, short, last, given⟩
      rintro ⟨next, member, asks⟩
      exact asking ⟨next, List.mem_cons_of_mem _ member, asks⟩
  | some station =>
      have asks := DirectedEffect.isRequest_of_asks asked
      obtain ⟨rfl, own⟩ := asking ⟨de, List.mem_cons_self, asks⟩
      refine ⟨unnoted.dispatch deps, grew.trans ⟨_, performed.log.symm⟩, order.2,
        fun more => absurd more (order.last asks), ?_, fun isReply => absurd isReply own, given⟩
      cases follow <;> simp

/-- **A reply is the last event of its call**: what its effects leave is what the call leaves. -/
theorem reply_concludes (unnoted : Unnoted cfg [] w) {mac : MacAddr} {event : Event} {w₀ : World ω}
    (given : .expand task w₀ ∈ callHistory deps mac event w) (isReply : task.2.IsReply) :
    Concluded deps cfg w.log task w₀ (handleEvent deps mac event w).2 := by
  let concluded : World ω × List (Moment ω) → Prop := fun s =>
    ∀ next w₀, .expand next w₀ ∈ s.2 → next.2.IsReply → Concluded deps cfg w.log next w₀ s.1
  have keeps : (eventQueue deps).traced.Keeps (fun _ _ _ => True)
      (fun queue s => Unnoted cfg [] s.1 ∧ w.log <+: s.1.log ∧ queue.length ≤ 1 ∧
        (queue ≠ [] → ∀ next w₀, .expand next w₀ ∈ s.2 → ¬ next.2.IsReply) ∧ concluded s)
      (fun task rest queue s => Concluding deps cfg w.log task rest queue s) concluded := by
    refine traced_keeps ?_ (fun _ _ _ _ _ _ _ concluding done => concluding.act done) ?_ ?_
    · rintro task queue w' history ⟨unnoted, grew, short, fresh, -⟩
      obtain rfl : queue = [] := by simpa using short
      exact .enter unnoted grew (fresh (by simp))
    · intro task de rest queue w' history e concluding failed next w₀ member isReply
      have old : .expand next w₀ ∈ history := by simpa using member
      obtain ⟨rfl, ended⟩ := concluding.given next w₀ old isReply
      rwa [actAll_quiet deps (concluding.quiet isReply), failed] at ended
    · rintro task queue ⟨w', history⟩ concluding
      refine ⟨concluding.unnoted, concluding.grew, concluding.short, ?_, ?_⟩
      · intro some_ next w₀ member isReply
        obtain ⟨rfl, -⟩ := concluding.given next w₀ member isReply
        exact some_ (concluding.last isReply)
      · intro next w₀ member isReply
        exact (concluding.given next w₀ member isReply).2
  have ended : concluded ((eventQueue deps).traced.drain 64 [(mac, event)] (w, [])).2 :=
    drainTraced_invariant keeps (fun _ _ held => held.2.2.2.2) (fun _ held => held)
      ⟨unnoted, List.prefix_refl _, by simp, by simp, by simp [concluded]⟩
  have same : (handleEvent deps mac event w).2 =
      ((eventQueue deps).traced.drain 64 [(mac, event)] (w, [])).2.1 := by
    rw [handleEvent, (eventQueue deps).traced_drain 64 [(mac, event)] (w, [])]
  rw [same]
  exact ended task w₀ given isReply

end Calls

/-! ## The main result -/

section Main

variable {ω : Type}

/-- The event that is given to the PAE at a moment, and the session of its MAC. -/
def Moment.given : Moment ω → Option (MacAddr × Event × Option PortSession)
  | .expand (mac, event) w => some (mac, event, w.pae.session mac)
  | .act _ _ _ => none

/-- **The Session-Timeout of an accept is armed exactly when its grant notes it.**  At every
state of every run, for every call in which all boundary calls succeed: if at the moment `x` an
accept finds its session in `AuthServer`, then when the call returns, the SessionTimeout of its
MAC is armed with the duration the accept carries, and not armed if it carries none, if and only
if it carries none, or the host mode is not `multiHost` and the Accounting-Start that is due
before the arming, if any, can be built. -/
theorem session_timeout_armed_iff [RadiusProto] (deps : Deps ω) (port : String)
    (ctxTemplate : RequestContext) (cfg : PaeConfig) (env : ω) (inputs : List (MacAddr × Event))
    (mac : MacAddr) (event : Event) (x : Moment ω)
    (within : x ∈ callHistory deps mac event (serve deps (.start port ctxTemplate cfg env) inputs))
    (station : MacAddr) (a : Authorization) (eap : Option Bytes) (s : PortSession)
    (given : x.given = some (station, .accessAccept a eap, some s)) (asked : s.state = .authServer)
    (unfailing : Unfailing deps.secret (serve deps (.start port ctxTemplate cfg env) inputs).log
      (handleEvent deps mac event (serve deps (.start port ctxTemplate cfg env) inputs)).2.log) :
    sessionTimer station
        (handleEvent deps mac event (serve deps (.start port ctxTemplate cfg env) inputs)).2.log =
      a.sessionTimeout.map UInt32.toNat ↔
    a.sessionTimeout = none ∨ Armable deps cfg station s x.state := by
  cases x with
  | act => cases given
  | expand task w₀ =>
      obtain ⟨mac', event'⟩ := task
      have same := Option.some.inj given
      obtain ⟨rfl, rfl, found⟩ : mac' = station ∧ event' = .accessAccept a eap ∧
          w₀.pae.session mac' = some s := by simpa using same
      obtain ⟨unnoted, grew, ends⟩ :=
        reply_concludes (unnoted_serve deps port ctxTemplate cfg env inputs) within trivial
      have effects : (feedPae mac' (.accessAccept a eap) w₀).1 =
          decorate cfg.hostMode mac' (s.authorize a eap cfg).2 := by
        obtain ⟨known, P, inv⟩ := unnoted.port
        rcases PortPae.handle_lane inv mac' (.accessAccept a eap) with ⟨missing, -⟩ | ⟨-, -, fx⟩
        · rw [found] at missing
          cases missing
        · show (w₀.pae.handle mac' (.accessAccept a eap)).2 = _
          rw [fx, found, known]
          simp [lane, PortSession.step, asked, PortSession.inAuthServer]
      rw [ends] at unfailing ⊢
      rw [effects] at unfailing ⊢
      have fed : (serve deps (.start port ctxTemplate cfg env) inputs).log <+:
          (feedPae mac' (.accessAccept a eap) w₀).2.log := grew.trans ⟨_, rfl⟩
      obtain ⟨armed, unarmed⟩ := leaves_accept cfg s a eap fed
        (fun multi => unnoted.empty multi mac') unfailing
      by_cases armable : Armable deps cfg mac' s w₀
      · exact iff_of_true (armed armable) (Or.inr armable)
      · rw [unarmed armable]
        cases a.sessionTimeout with
        | none => simp
        | some secs => exact iff_of_false (by simp) (not_or.mpr ⟨by simp, armable⟩)

end Main

section Witness

attribute [local instance] Site.proto

/-- An accept of the first request, for an hour. -/
def hourAccept : Packet :=
  { Site.accept with
    attributes := Site.accept.attributes ++ [⟨AttributeType.sessionTimeout, [0, 0, 0x0e, 0x10]⟩] }

def hourScript : Site.Script := ⟨[.ok hourAccept], [.ok ()]⟩

def hourGrant : Authorization := { vlan := some "42", sessionTimeout := some 3600 }

/-- The session of a station that is being bypassed. -/
def bypassing : PortSession :=
  { PortSession.new Site.station with state := .authServer, authKind := .mab, eapId := 1, txCount := 1 }

def hostConfig (hostMode : HostMode) : PaeConfig := { Site.config with hostMode := hostMode }

/-- A supplicant has shown up, and stays silent. -/
def greeted (hostMode : HostMode) : World Site.Script :=
  serve Site.deps (.start "Ethernet4" Site.context (hostConfig hostMode) hourScript)
    [(Site.station, .eapolStart)]

def bypassCall (hostMode : HostMode) : List (Moment Site.Script) :=
  callHistory Site.deps Site.station (.timer .txPeriod) (greeted hostMode)

def singlePlace : Fin (bypassCall .singleHost).length := ⟨4, by decide +kernel⟩

def multiPlace : Fin (bypassCall .multiHost).length := ⟨4, by decide +kernel⟩

/-- In `singleHost` the station is granted an hour, and its timer is armed with it. -/
theorem session_timeout_armed_hour :
    sessionTimer Site.station (handleEvent Site.deps Site.station (.timer .txPeriod)
      (greeted .singleHost)).2.log = some 3600 := by
  have given : ((bypassCall .singleHost).get singlePlace).given =
      some (Site.station, .accessAccept hourGrant none, some bypassing) := by
    decide +kernel
  have unfailing : Unfailing Site.deps.secret (greeted .singleHost).log
      (handleEvent Site.deps Site.station (.timer .txPeriod) (greeted .singleHost)).2.log :=
    ⟨(handleEvent Site.deps Site.station (.timer .txPeriod)
      (greeted .singleHost)).2.log.drop (greeted .singleHost).log.length,
      by decide +kernel, by decide +kernel⟩
  have built : (builtAccounting Site.deps Site.station .start
      ((bypassCall .singleHost).get singlePlace).state).toOption.isSome = true := by
    decide +kernel
  have armable : Armable Site.deps (hostConfig .singleHost) Site.station bypassing
      ((bypassCall .singleHost).get singlePlace).state := by
    refine ⟨by decide, Or.inr ?_⟩
    cases made : builtAccounting Site.deps Site.station .start
        ((bypassCall .singleHost).get singlePlace).state with
    | ok request => exact ⟨request, rfl⟩
    | error e =>
        rw [made] at built
        cases built
  have within := List.get_mem _ singlePlace
  unfold bypassCall greeted at within
  unfold greeted at unfailing ⊢
  exact (session_timeout_armed_iff Site.deps "Ethernet4" Site.context (hostConfig .singleHost)
    hourScript [(Site.station, .eapolStart)] Site.station (.timer .txPeriod) _ within Site.station
    hourGrant none bypassing given rfl unfailing).mpr (Or.inr armable)

/-- In `multiHost` the station is granted an hour, every call succeeds, and no timer is armed. -/
theorem port_wide_timeout_unarmed :
    ¬ ∀ (deps : Deps Site.Script) (port : String) (ctxTemplate : RequestContext) (cfg : PaeConfig)
      (env : Site.Script) (inputs : List (MacAddr × Event)) (mac : MacAddr) (event : Event)
      (x : Moment Site.Script),
      x ∈ callHistory deps mac event (serve deps (.start port ctxTemplate cfg env) inputs) →
      ∀ (station : MacAddr) (a : Authorization) (eap : Option Bytes) (s : PortSession),
        x.given = some (station, .accessAccept a eap, some s) → s.state = .authServer →
        Unfailing deps.secret [] (handleEvent deps mac event
          (serve deps (.start port ctxTemplate cfg env) inputs)).2.log →
        sessionTimer station (handleEvent deps mac event
          (serve deps (.start port ctxTemplate cfg env) inputs)).2.log =
            a.sessionTimeout.map UInt32.toNat := by
  intro claim
  have given : ((bypassCall .multiHost).get multiPlace).given =
      some (Site.station, .accessAccept hourGrant none, some bypassing) := by
    decide +kernel
  have unarmed : sessionTimer Site.station (handleEvent Site.deps Site.station (.timer .txPeriod)
      (greeted .multiHost)).2.log = none := by
    decide +kernel
  have unfailing : Unfailing Site.deps.secret [] (handleEvent Site.deps Site.station
      (.timer .txPeriod) (greeted .multiHost)).2.log :=
    ⟨_, (List.nil_append _).symm, by decide +kernel⟩
  have within := List.get_mem _ multiPlace
  unfold bypassCall greeted at within
  unfold greeted at unfailing unarmed
  have armed := claim Site.deps "Ethernet4" Site.context (hostConfig .multiHost) hourScript
    [(Site.station, .eapolStart)] Site.station (.timer .txPeriod) _ within Site.station hourGrant none
    bypassing given rfl unfailing
  exact absurd (unarmed.symm.trans armed) (by decide)

end Witness

end Authenticator.Authd
