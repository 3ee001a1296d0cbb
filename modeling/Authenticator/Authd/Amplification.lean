/-
# Authd.Amplification -- what a frame may cost

Anybody who reaches the port can send it frames, and every frame may make the authenticator speak:
to the server, to the supplicant, to the dataplane.  `port_amplifies` bounds what a whole run of
`run_port` does by what came in: a frame that became an event, or a timer that expired, costs at
most one Access-Request, one Accounting-Request, two EAP packets and two calls of the enforcer.

Every event has a price and every effect a toll (`Theory.Budget`).  A request pays for the reply
it brings, so a reply costs nothing beyond what its request was charged.
-/
import Authenticator.Theory.Budget
import Authenticator.Authd.EventLoop

namespace Authenticator.Pae

set_option autoImplicit false

open Authenticator.Pacp

/-! ## Prices and tolls -/

/-- What the authenticator spends. -/
inductive Expense where
  | request
  | record
  | packet
  | command
  deriving DecidableEq, Repr

namespace Expense

/-- The effects that spend. -/
def charges : Expense → Effect → Bool
  | .request, effect => effect.isRequest
  | .record, .accounting _ => true
  | .packet, .txEapToSupplicant _ => true
  | .command, .setAuthorization _ => true
  | _, _ => false

/-- An effect is charged for what it spends; a request, for what its reply does. -/
def toll (expense : Expense) (effect : Effect) : Nat :=
  (effect.isRequest || expense.charges effect).toNat

def priceOfReply : Expense → Nat
  | .request => 0
  | _ => 1

def priceOfInput : Expense → Nat
  | .request | .record => 1
  | .packet | .command => 2

def price (expense : Expense) : Event → Nat
  | .accessChallenge _ | .accessAccept _ _ | .accessReject _ => expense.priceOfReply
  | _ => expense.priceOfInput

theorem price_of_isReply (expense : Expense) {event : Event} (reply : event.IsReply) :
    expense.price event = expense.priceOfReply := by
  cases event <;> first | rfl | exact absurd reply id

theorem price_of_not_isReply (expense : Expense) {event : Event} (input : ¬ event.IsReply) :
    expense.price event = expense.priceOfInput := by
  cases event <;> first | rfl | exact absurd trivial input

theorem toll_of_isRequest (expense : Expense) {effect : Effect} (asks : effect.isRequest = true) :
    expense.toll effect = 1 := by
  simp [toll, asks]

variable {cfg : PaeConfig} {s s' : PortSession} {event : Event} {fx : List Effect}

/-- One step is charged once at most. -/
theorem tolls_transition (expense : Expense) (moved : Transition cfg s event s' fx) :
    (fx.map expense.toll).sum ≤ 1 := by
  cases moved with
  | ignored => exact Nat.zero_le 1
  | enabled => cases expense <;> exact Nat.le_of_ble_eq_true rfl
  | solicited _ _ cancel _ _ cancels =>
      rcases cancels with rfl | ⟨kind, -, rfl⟩ <;> cases expense <;> exact Nat.le_of_ble_eq_true rfl
  | relayed | bypassed | challenged | coaAuthorized =>
      cases expense <;> exact Nat.le_of_ble_eq_true rfl
  | survived => split <;> cases expense <;> exact Nat.le_of_ble_eq_true rfl
  | fellBack _ reason _ eap =>
      cases eap <;> split <;> cases expense <;> exact Nat.le_of_ble_eq_true rfl
  | held _ eap => cases eap <;> cases expense <;> exact Nat.le_of_ble_eq_true rfl
  | authorized a eap =>
      unfold PortSession.authorize
      cases eap <;> cases s.accountingOpen <;> cases cfg.reauthEnabled <;>
        cases a.sessionTimeout.isSome <;> cases expense <;> exact Nat.le_of_ble_eq_true rfl
  | tornDown _ cause eap =>
      unfold PortSession.teardown
      cases eap <;> split <;> cases s.accountingOpen <;> cases expense <;>
        exact Nat.le_of_ble_eq_true rfl
  | expired =>
      unfold PortSession.teardown
      split <;> cases s.accountingOpen <;> cases expense <;> exact Nat.le_of_ble_eq_true rfl

/-- What asks nothing costs no request. -/
theorem tolls_request (quiet : fx.filter Effect.isRequest = []) :
    (fx.map request.toll).sum = 0 := by
  rw [List.sum_eq_zero_iff]
  rintro _ member
  obtain ⟨effect, inside, rfl⟩ := List.mem_map.mp member
  have calm := List.filter_eq_nil_iff.mp quiet effect inside
  simp [toll, charges, calm]

theorem tolls_step (expense : Expense) (cfg : PaeConfig) (s : PortSession) (event : Event) :
    ((s.step event cfg).2.map expense.toll).sum ≤ expense.price event := by
  have once := expense.tolls_transition (PortSession.step_transition cfg s event)
  by_cases reply : event.IsReply
  · rw [expense.price_of_isReply reply]
    cases expense with
    | request =>
        rcases (PortSession.step_outputs cfg s event).requests with quiet | ⟨asked, -, unanswered⟩
        · exact Nat.le_of_eq (tolls_request quiet)
        · exact absurd reply unanswered
    | _ => exact once
  · rw [expense.price_of_not_isReply reply]
    cases expense <;> first | exact once | exact Nat.le_succ_of_le once

/-- A session that is let in is greeted first, and a reply finds nothing to answer. -/
theorem tolls_admitted (expense : Expense) (cfg : PaeConfig) (mac : MacAddr) (event : Event) :
    ((admitted cfg mac event).2.map expense.toll).sum ≤ expense.price event := by
  have greeted : (((PortSession.new mac).step .enable cfg).2.map expense.toll).sum ≤
      expense.priceOfReply ∧ (((PortSession.new mac).step .enable cfg).2.map expense.toll).sum + 1 ≤
        expense.priceOfInput := by
    cases expense <;> exact ⟨Nat.le_of_ble_eq_true rfl, Nat.le_of_ble_eq_true rfl⟩
  unfold admitted
  split
  · rename_i opens
    have input : ¬ event.IsReply := by
      rcases opens with rfl | rfl <;> exact id
    rw [expense.price_of_not_isReply input]
    exact (Nat.le_succ _).trans greeted.2
  · dsimp only
    rw [List.map_append, List.sum_append]
    by_cases reply : event.IsReply
    · have ignored : (((PortSession.new mac).step .enable cfg).1.step event cfg).2 = [] := by
        cases event <;> first | rfl | exact absurd reply id
      rw [ignored, expense.price_of_isReply reply]
      exact greeted.1
    · have once := expense.tolls_transition
        (PortSession.step_transition cfg ((PortSession.new mac).step .enable cfg).1 event)
      rw [expense.price_of_not_isReply reply]
      omega

/-- **An event pays for its effects.** -/
theorem tolls_handle (expense : Expense) (p : PortPae) (mac : MacAddr) (event : Event) :
    ((p.handle mac event).2.map fun de => expense.toll de.effect).sum ≤ expense.price event := by
  have bare : ∀ fx, (decorate p.cfg.hostMode mac fx).map (fun de => expense.toll de.effect) =
      fx.map expense.toll := by
    intro fx
    simp [decorate, Function.comp_def]
  obtain ⟨before, s, later, -, rfl, same⟩ | ⟨-, -, same⟩ | ⟨-, -, same⟩ := p.handle_cases mac event
  · rw [same, bare]
    exact expense.tolls_step p.cfg s event
  · rw [same, bare]
    exact expense.tolls_admitted p.cfg mac event
  · rw [same]
    exact Nat.zero_le _

end Expense

end Authenticator.Pae

namespace Authenticator.Authd

open Authenticator.Pacp Authenticator.Pae Authenticator.Radius Authenticator.Theory
open Authenticator.Theory.Timers (Background takings)

/-- The calls that spend. -/
def spends : Expense → Call → Bool
  | .request, .accessRequest _ _ => true
  | .record, .accounting _ _ => true
  | .packet, .sendEap _ _ _ => true
  | .command, .apply _ _ _ => true
  | _, _ => false

/-- What a log spent. -/
def spent (expense : Expense) (log : List Entry) : Nat :=
  log.countP fun entry => spends expense entry.call

/-! ## One event -/

section Effects

variable {ω : Type} [RadiusProto] {deps : Deps ω} {port : String} {env env' : ω}
variable {de : DirectedEffect} {calls : List Call} {result : Except AuthdError (Option Event)}

/-- An effect spends no more than its toll. -/
theorem Dispatched.countP_spends (outcome : Dispatched deps port env de calls env' result)
    (expense : Expense) : calls.countP (spends expense) ≤ expense.toll de.effect := by
  have asking : ∀ {mac}, de.asks = some mac → calls.length ≤ 1 →
      calls.countP (spends expense) ≤ expense.toll de.effect := by
    intro mac asked short
    rw [expense.toll_of_isRequest (DirectedEffect.isRequest_of_asks asked)]
    exact List.countP_le_length.trans short
  cases outcome with
  | refused _ _ asked | unanswered _ _ asked | discarded _ _ asked | answered _ _ asked =>
      exact asking asked (by simp)
  | idle | unarmed | unaccounted => exact Nat.zero_le _
  | sent | applied | armed | cancelled | cancelledAll | accounted =>
      cases expense <;> exact Nat.le_of_ble_eq_true rfl

/-- What follows is paid for as well. -/
theorem Dispatched.pays {follow : Option Event}
    (outcome : Dispatched deps port env de calls env' (.ok follow)) (expense : Expense) :
    calls.countP (spends expense) + (follow.toList.map expense.price).sum ≤
      expense.toll de.effect := by
  cases follow with
  | none => exact outcome.countP_spends expense
  | some event =>
      obtain ⟨mac, request, reply, pending, asked, rfl, -, -, -, parsed⟩ := outcome.followed rfl
      rw [expense.toll_of_isRequest (DirectedEffect.isRequest_of_asks asked), Option.toList_some,
        List.map_singleton, List.sum_singleton, expense.price_of_isReply (isReply_of_parseReply parsed)]
      cases expense <;> exact Nat.le_of_ble_eq_true rfl

omit [RadiusProto] in
theorem spent_dispatched (expense : Expense) (log : List Entry) (serving : Option MacAddr)
    (calls : List Call) : spent expense (log ++ calls.map fun call => ⟨serving, call⟩) =
      spent expense log + calls.countP (spends expense) := by
  rw [spent, List.countP_append, List.countP_map]
  rfl

theorem eventQueue_budgeted (deps : Deps ω) (expense : Expense) :
    (eventQueue deps).Budgeted (fun w => spent expense w.log) (fun task => expense.price task.2)
      fun de => expense.toll de.effect := by
  refine ⟨?_, ?_, ?_⟩
  · intro task w
    have silent : ∀ event fx, spends expense (.handled task.1 event fx) = false := by
      cases expense <;> exact fun _ _ => rfl
    refine ⟨?_, expense.tolls_handle w.pae task.1 task.2⟩
    show spent expense (w.log ++ [⟨some task.1, .handled task.1 task.2 _⟩]) = _
    simp [spent, silent]
  · intro task de w follow w' acted
    obtain ⟨event, calls, rfl, performed⟩ := eventQueue_act_ok acted
    have log : w'.log = w.log ++ calls.map fun call => ⟨w.serving, call⟩ := performed.log
    have pays := performed.outcome.pays expense
    rw [log, spent_dispatched, Nat.add_assoc]
    cases event <;> exact Nat.add_le_add_left pays _
  · intro task de w e w' acted
    obtain ⟨calls, performed⟩ := eventQueue_act_error acted
    have log : w'.log = w.log ++ calls.map fun call => ⟨w.serving, call⟩ := performed.log
    rw [log, spent_dispatched]
    exact Nat.add_le_add_left (performed.outcome.countP_spends expense) _

/-- **A call of `handle_event` costs the price of its event**, whatever fails. -/
theorem spent_handleEvent (deps : Deps ω) (expense : Expense) (mac : MacAddr) (event : Event)
    (w : World ω) :
    spent expense (handleEvent deps mac event w).2.log ≤ spent expense w.log + expense.price event :=
  (eventQueue_budgeted deps expense).drain 64 [(mac, event)] w

theorem spent_serve (deps : Deps ω) (expense : Expense) (w : World ω)
    (inputs : List (MacAddr × Event)) :
    spent expense (serve deps w inputs).log ≤
      spent expense w.log + (inputs.map fun input => expense.price input.2).sum := by
  induction inputs generalizing w with
  | nil => exact Nat.le_refl _
  | cons input rest ih =>
      have one := spent_handleEvent deps expense input.1 input.2 w
      have later := ih (handleEvent deps input.1 input.2 w).2
      rw [List.map_cons, List.sum_cons]
      exact later.trans (by omega)

end Effects

/-! ## Whole runs -/

section Runs

variable {ω : Type} [RadiusProto] (base : Deps ω) (opening : Opening ω) (port : String)
  (ctxTemplate : RequestContext) (cfg : PaeConfig) (expense : Expense)

/-- Before its loop a port closes itself, and does nothing else. -/
theorem spent_openPort (w : World ω) :
    spent expense (openPort base opening port cfg w).2.log ≤
      spent expense w.log + expense.toll (.setAuthorization .unauthorized) := by
  let Bounded : World ω → Prop := fun v =>
    spent expense v.log ≤ spent expense w.log + expense.toll (.setAuthorization .unauthorized)
  have calls : ∀ {ε : Type} (m : Prog ε ω Unit) (v : World ω), v.log = w.log →
      Prog.Ends (fun _ v => v.log = w.log) Bounded
        (m.zoom World.env (fun (env : ω) (v : World ω) => { v with env := env }) v) := by
    intro ε m v same
    show Prog.Ends _ _ ((m v.env).1, { v with env := (m v.env).2 })
    cases (m v.env).1 with
    | ok u => exact same
    | error e =>
        show spent expense v.log ≤ _
        rw [same]
        exact Nat.le_add_right _ _
  have closes : ∀ v : World ω, v.log = w.log →
      Bounded (applyEffects base (PortPae.new cfg).enable v).2 := by
    intro v same
    obtain ⟨made, performed⟩ := dispatch_performed base ⟨none, .setAuthorization .unauthorized⟩ v
    have one : (applyEffects base (PortPae.new cfg).enable v).2 =
        (dispatch base ⟨none, .setAuthorization .unauthorized⟩ v).2 := applyEffects_singleton _ _ _
    rw [one]
    show spent expense (dispatch base ⟨none, .setAuthorization .unauthorized⟩ v).2.log ≤ _
    rw [performed.log, spent_dispatched, same]
    exact Nat.add_le_add_left (performed.outcome.countP_spends expense) _
  have ended : Prog.Ends (fun _ => Bounded) Bounded (openPort base opening port cfg w) :=
    ((calls _ w rfl).mapError _).bind fun _ v same => (calls _ v same).bind fun _ v same =>
      Prog.ends_state (closes v same)
  exact ended.state (fun _ _ bounded => bounded) fun _ bounded => bounded

variable (schedule : List (List (Background TimerKey))) (env : ω) (picks : List Pick)

/-- A run costs its inputs, and the command that closed the port before them. -/
theorem spent_run :
    let run := runPortUntilError base opening port cfg picks
      (.start port ctxTemplate cfg ⟨.new, schedule, env⟩)
    spent expense run.2.log ≤ expense.toll (.setAuthorization .unauthorized) + expense.priceOfInput *
      ((picks.filterMap Pick.event).length + (takings run.2.env.scheduler).length) := by
  intro run
  obtain ⟨served, inputs, serves, -⟩ :=
    port_serves base opening port ctxTemplate cfg schedule env picks
  have opens := spent_openPort (timerless base) opening port cfg expense
    (.start port ctxTemplate cfg env)
  have serving := spent_serve (timerless base) expense
    (openPort (timerless base) opening port cfg (.start port ctxTemplate cfg env)).2 inputs
  rw [← serves.reached] at serving
  have prices : inputs.map (fun input => expense.price input.2) =
      List.replicate inputs.length expense.priceOfInput := by
    rw [List.eq_replicate_iff]
    refine ⟨List.length_map _, fun price member => ?_⟩
    obtain ⟨input, inside, rfl⟩ := List.mem_map.mp member
    refine expense.price_of_not_isReply fun reply => ?_
    have daemon := serves.daemon input inside
    cases kind : input.2 with
    | accessChallenge | accessAccept | accessReject =>
        rw [kind] at daemon
        exact daemon
    | _ =>
        rw [kind] at reply
        exact reply
  rw [prices, List.sum_replicate_nat, Nat.mul_comm] at serving
  have frames : (inputs.filter fun input => !isExpiry input).length ≤
      (picks.filterMap Pick.event).length := by
    rw [serves.frames]
    exact (serves.inOrder.sublist.filterMap _).length_le
  have expired : (inputs.filter isExpiry).length = (takings run.2.env.scheduler).length := by
    have taken := congrArg List.length serves.expiries
    simpa using taken.symm
  have split : inputs.length = (inputs.filter isExpiry).length +
      (inputs.filter fun input => !isExpiry input).length :=
    List.length_eq_length_filter_add isExpiry
  have fewer : expense.priceOfInput * inputs.length ≤ expense.priceOfInput *
      ((picks.filterMap Pick.event).length + (takings run.2.env.scheduler).length) :=
    Nat.mul_le_mul_left _ (by omega)
  have unspent : spent expense (World.start port ctxTemplate cfg env).log = 0 := rfl
  rw [unspent, Nat.zero_add] at opens
  exact serving.trans (Nat.add_le_add opens fewer)

/-- **What comes in bounds what is done.**  In every run of `run_port`, whatever the boundaries
answer and whenever the timers fire: every frame that is an event and every expiry costs at most
one Access-Request, one Accounting-Request, two EAP packets and two calls of the enforcer, and
nothing else costs anything, but for the call that closes the port before the first round. -/
theorem port_amplifies :
    let run := runPortUntilError base opening port cfg picks
      (.start port ctxTemplate cfg ⟨.new, schedule, env⟩)
    let inputs := (picks.filterMap Pick.event).length + (takings run.2.env.scheduler).length
    spent .request run.2.log ≤ inputs ∧ spent .record run.2.log ≤ inputs ∧
      spent .packet run.2.log ≤ 2 * inputs ∧ spent .command run.2.log ≤ 1 + 2 * inputs := by
  intro run inputs
  have bound := fun expense =>
    spent_run base opening port ctxTemplate cfg expense schedule env picks
  refine ⟨?_, ?_, ?_, bound .command⟩
  · simpa [Expense.toll, Expense.charges, Effect.isRequest, Expense.priceOfInput] using bound .request
  · simpa [Expense.toll, Expense.charges, Effect.isRequest, Expense.priceOfInput] using bound .record
  · simpa [Expense.toll, Expense.charges, Effect.isRequest, Expense.priceOfInput] using bound .packet

end Runs

end Authenticator.Authd
