/-
# Pae.Accounting -- accounting records come in pairs

Of the effects directed at a MAC, the accounting triggers make a word of Starts and Stops.
The flag `accountingOpen` of its session is the meter of that word: every transition that
raises the flag emits a Start, and every one that lowers it a Stop, but `enable`, which
clears the flag and emits nothing.

`triggers_step` is the step lemma, one case per `Transition`; `accounted_step` lifts it to
a port, lane by lane.  `accounting_balanced_iff` is the result: the records of all MACs are
balanced throughout a run exactly when no `Enable` hits a session whose accounting is open.
The pole is `accounting_start_without_stop`.
-/
import Mathlib.Data.List.Induction
import Authenticator.Theory.Alternation
import Authenticator.Pae.PortLanes

namespace Authenticator.Pae

set_option autoImplicit false

open Authenticator.Pacp Authenticator.Theory

def AcctTrigger.isStart : AcctTrigger → Bool
  | .start => true
  | .stop _ => false

/-- The accounting record an effect asks for. -/
def Effect.trigger : Effect → Option AcctTrigger
  | .accounting trigger => some trigger
  | _ => none

/-- The accounting records of a list of effects. -/
def triggers (fx : List Effect) : List AcctTrigger := fx.filterMap Effect.trigger

/-- The accounting records of a MAC. -/
def accountingOf (mac : MacAddr) (fx : List DirectedEffect) : List AcctTrigger :=
  (fx.filter (reaches mac)).filterMap fun de => de.effect.trigger

/-- Whether a lane has a session with open accounting. -/
def opened (slot : Option PortSession) : Bool := slot.any PortSession.accountingOpen

/-! ## One session -/

@[simp] theorem triggers_append (first second : List Effect) :
    triggers (first ++ second) = triggers first ++ triggers second := List.filterMap_append

@[simp] theorem triggers_relay (eap : Option Bytes) : triggers (relay eap) = [] := by
  cases eap <;> rfl

namespace PortSession

variable {cfg : PaeConfig} {s : PortSession} {event : Event}

/-- The records of a teardown close what was open. -/
theorem triggers_teardown (cause : TerminateCause) (live : s.state ≠ .new) :
    meter AcctTrigger.isStart s.accountingOpen (triggers (s.teardown cause).2) = some false := by
  rw [(s.teardown_live cause live).2]
  cases s.accountingOpen <;> rfl

/-- **The step lemma of the accounting flag**: it meters the records, unless `Enable`
clears it. -/
theorem triggers_step (spared : event = .enable → s.accountingOpen = false) :
    meter AcctTrigger.isStart s.accountingOpen (triggers (s.step event cfg).2) =
      some (s.step event cfg).1.accountingOpen := by
  have moved := step_transition cfg s event
  generalize (s.step event cfg).1 = s', (s.step event cfg).2 = fx at moved
  cases moved with
  | enabled => rw [spared rfl]; rfl
  | solicited _ count cancel idle free cancels silent =>
      rcases cancels with rfl | ⟨kind, -, rfl⟩ <;> rfl
  | authorized a eap asked =>
      have quiet := triggers_relay eap
      unfold relay at quiet
      simp only [authorize, triggers_append, quiet]
      cases s.accountingOpen <;> cases cfg.reauthEnabled <;> cases a.sessionTimeout <;> rfl
  | survived _ asked opened silent =>
      cases cfg.reauthEnabled <;> rfl
  | fellBack _ reason vlan eap live closed configured silent =>
      rw [triggers_append, triggers_append, triggers_relay]
      cases reason <;> rfl
  | held _ eap live closed silent =>
      rw [triggers_append, triggers_relay]
      rfl
  | tornDown _ cause eap live silent =>
      rw [triggers_append, triggers_relay, List.nil_append, s.triggers_teardown cause live,
        (s.teardown_live cause live).1]
  | expired running =>
      have live : s.state ≠ .new := by simp [running]
      rw [triggers_append, meter_append, s.triggers_teardown .sessionTimeout live,
        (s.teardown_live .sessionTimeout live).1]
      rfl
  | _ => rfl

/-- A session that goes away has its accounting closed. -/
theorem closed_of_gone (live : s.state ≠ .new) (gone : (s.step event cfg).1.state = .new) :
    (s.step event cfg).1.accountingOpen = false := by
  have moved := step_transition cfg s event
  generalize (s.step event cfg).1 = s', (s.step event cfg).2 = fx at moved gone
  cases moved with
  | ignored => exact absurd gone live
  | coaAuthorized => exact absurd gone live
  | tornDown _ cause => rw [(s.teardown_live cause live).1]
  | _ => cases gone

end PortSession

/-! ## One lane -/

variable {cfg : PaeConfig} {mac : MacAddr}

/-- The records of a new session start from closed. -/
theorem triggers_admitted (cfg : PaeConfig) (mac : MacAddr) (event : Event) :
    meter AcctTrigger.isStart false (triggers (admitted cfg mac event).2) =
        some (admitted cfg mac event).1.accountingOpen ∧
      ((admitted cfg mac event).1.state = .new →
        (admitted cfg mac event).1.accountingOpen = false) := by
  unfold admitted
  split
  · exact ⟨rfl, fun gone => by cases gone⟩
  · have live : ((PortSession.new mac).step .enable cfg).1.state ≠ .new := by
      intro gone
      cases gone
    refine ⟨?_, PortSession.closed_of_gone live⟩
    rw [triggers_append, meter_append]
    have enabled : (meter AcctTrigger.isStart false
        (triggers ((PortSession.new mac).step .enable cfg).2)) =
          some ((PortSession.new mac).step .enable cfg).1.accountingOpen := rfl
    rw [enabled]
    exact PortSession.triggers_step fun _ => rfl

theorem triggers_lane {slot : Option PortSession} (live : ∀ s ∈ slot, s.state ≠ .new)
    {event : Event} (spared : event = .enable → opened slot = false) :
    meter AcctTrigger.isStart (opened slot) (triggers (lane cfg mac slot event).2) =
      some (opened (lane cfg mac slot event).1) := by
  have pruned : ∀ s : PortSession, (s.state = .new → s.accountingOpen = false) →
      opened (if s.state = .new then none else some s) = s.accountingOpen := by
    intro s closed
    split
    · rename_i gone
      exact (closed gone).symm
    · rfl
  cases slot with
  | none =>
      obtain ⟨read, closed⟩ := triggers_admitted cfg mac event
      show meter _ false (triggers (admitted cfg mac event).2) = some (opened (if _ then _ else _))
      rw [pruned _ closed]
      exact read
  | some s =>
      show meter _ s.accountingOpen (triggers (s.step event cfg).2) =
        some (opened (if _ then _ else _))
      rw [pruned _ (PortSession.closed_of_gone (live s rfl))]
      exact PortSession.triggers_step spared

/-! ## The port -/

@[simp] theorem accountingOf_append (mac : MacAddr) (first second : List DirectedEffect) :
    accountingOf mac (first ++ second) = accountingOf mac first ++ accountingOf mac second := by
  simp [accountingOf]

theorem accountingOf_decorate (hostMode : HostMode) (mac other : MacAddr) (fx : List Effect) :
    accountingOf mac (decorate hostMode other fx) = if other = mac then triggers fx else [] := by
  unfold accountingOf decorate
  rw [List.filterMap_filter, List.filterMap_map]
  split
  · rename_i own
    refine List.filterMap_congr fun effect _ => ?_
    cases effect <;> simp [reaches, Effect.trigger, Effect.isSetAuthorization, own]
  · rename_i foreign
    rw [List.filterMap_eq_nil_iff]
    intro effect _
    cases effect <;> simp [reaches, Effect.trigger, Effect.isSetAuthorization, foreign]

theorem accountingOf_linkDown {p : PortPae} {P : Postures} (inv : PortInv p P) (mac : MacAddr) :
    meter AcctTrigger.isStart (opened (p.session mac)) (accountingOf mac p.linkDown.2) =
      some false := by
  unfold accountingOf
  rw [filter_reaches_linkDown mac inv]
  cases found : p.session mac with
  | none => rfl
  | some s =>
      have live : s.state ≠ .new := inv.live s ((PortPae.session_eq_some inv).mp found).1
      have same : ((s.step .linkDown p.cfg).2.map fun effect =>
          (⟨some mac, effect⟩ : DirectedEffect)).filterMap (fun de => de.effect.trigger) =
            triggers (s.teardown .portLinkDown).2 := List.filterMap_map
      simp only [same]
      exact s.triggers_teardown .portLinkDown live

/-- The state before the input spares the records: `Enable` finds no open accounting. -/
def Spares (p : PortPae) : PortInput → Prop
  | .handle mac event => event = .enable → opened (p.session mac) = false
  | .linkDown => True

/-- **The step lemma of the records of a port.** -/
theorem accounted_step {p : PortPae} (orderly : Orderly cfg p) {input : PortInput}
    (spared : Spares p input) (mac : MacAddr) :
    meter AcctTrigger.isStart (opened (p.session mac))
        (accountingOf mac (portMachine.step p input).2) =
      some (opened ((portMachine.step p input).1.session mac)) := by
  obtain ⟨-, P, inv⟩ := orderly
  cases input with
  | linkDown =>
      show meter _ _ (accountingOf mac p.linkDown.2) = some (opened (p.linkDown.1.session mac))
      rw [PortPae.linkDown_session inv, accountingOf_linkDown inv]
      rfl
  | handle other event =>
      show meter _ _ (accountingOf mac (p.handle other event).2) =
        some (opened ((p.handle other event).1.session mac))
      rcases PortPae.handle_lane inv other event with ⟨-, -, same⟩ | ⟨-, sessions, effects⟩
      · rw [same]
        rfl
      · rw [sessions, effects, accountingOf_decorate]
        by_cases own : other = mac
        · subst own
          have live : ∀ s ∈ p.session other, s.state ≠ .new := by
            intro s found
            exact inv.live s ((PortPae.session_eq_some inv).mp found).1
          rw [if_pos rfl, Function.update_self]
          exact triggers_lane live spared
        · rw [if_neg own, Function.update_of_ne (Ne.symm own)]
          rfl

/-- What the accounting records of the MACs owe a port: each word alternates from a Start,
ends in a Start exactly while the MAC has a session with open accounting, and holds as many
Starts as Stops where the MAC has no session. -/
def AccountingBalanced (p : PortPae) (fx : List DirectedEffect) : Prop :=
  ∀ mac, Alternates AcctTrigger.isStart (accountingOf mac fx) ∧
    ((accountingOf mac fx).getLast? = some .start ↔
      ∃ s, p.session mac = some s ∧ s.accountingOpen = true) ∧
    (p.session mac = none →
      (accountingOf mac fx).countP AcctTrigger.isStart =
        (accountingOf mac fx).countP fun trigger => !trigger.isStart)

theorem opened_eq_true {slot : Option PortSession} :
    opened slot = true ↔ ∃ s, slot = some s ∧ s.accountingOpen = true := by
  cases slot <;> simp [opened]

theorem accountingBalanced_of_meter {p : PortPae} {fx : List DirectedEffect}
    (read : ∀ mac, meter AcctTrigger.isStart false (accountingOf mac fx) =
      some (opened (p.session mac))) : AccountingBalanced p fx := by
  intro mac
  refine ⟨alternates_of_meter (read mac), ?_, ?_⟩
  · rw [← opened_eq_true, ← meter_getLast? (read mac)]
    constructor
    · intro last
      exact ⟨.start, last, rfl⟩
    · rintro ⟨trigger, last, starts⟩
      cases trigger with
      | start => exact last
      | stop cause => cases starts
  · intro absent
    have counted := meter_count (read mac)
    rw [absent] at counted
    simpa [opened] using counted

/-- `Enable` never hits a session with open accounting. -/
def EnablesSpared (cfg : PaeConfig) (inputs : List PortInput) : Prop :=
  ∀ before input, before ++ [input] <+: inputs →
    Spares (portMachine.run (.new cfg) before).1 input

/-- The records of a spared run are those its flags meter. -/
theorem accounted_run (cfg : PaeConfig) (inputs : List PortInput)
    (spared : EnablesSpared cfg inputs) (mac : MacAddr) :
    meter AcctTrigger.isStart false
        (accountingOf mac (portMachine.run (.new cfg) inputs).2) =
      some (opened ((portMachine.run (.new cfg) inputs).1.session mac)) := by
  induction inputs using List.reverseRecOn with
  | nil => rfl
  | append_singleton inputs input ih =>
      have earlier : EnablesSpared cfg inputs := by
        intro before next within
        exact spared before next (within.trans (List.prefix_append inputs [input]))
      have orderly : Orderly cfg (portMachine.run (.new cfg) inputs).1 :=
        portMachine.run_invariant (orderly_step cfg) (orderly_new cfg) inputs
      have here := accounted_step orderly (spared inputs input (List.prefix_refl _)) mac
      rw [portMachine.run_concat, accountingOf_append, meter_append, ih earlier]
      exact here

/-- An `Enable` that hits a session with open accounting leaves its Start without a Stop. -/
theorem unbalanced_of_enable {p : PortPae} (orderly : Orderly cfg p) {fx : List DirectedEffect}
    (balanced : AccountingBalanced p fx) {mac : MacAddr} (hit : opened (p.session mac) = true) :
    ¬ AccountingBalanced (p.handle mac .enable).1 (fx ++ (p.handle mac .enable).2) := by
  obtain ⟨-, P, inv⟩ := orderly
  obtain ⟨s, found, isOpen⟩ := opened_eq_true.mp hit
  intro later
  obtain ⟨-, last, -⟩ := balanced mac
  obtain ⟨-, last', -⟩ := later mac
  have started := last.mpr ⟨s, found, isOpen⟩
  rcases PortPae.handle_lane inv mac .enable with ⟨missing, -, -⟩ | ⟨-, sessions, effects⟩
  · rw [found] at missing
    cases missing
  · have silent : accountingOf mac (p.handle mac .enable).2 = [] := by
      rw [effects, accountingOf_decorate, if_pos rfl, found]
      rfl
    have closed : opened ((p.handle mac .enable).1.session mac) = false := by
      rw [sessions, Function.update_self, found]
      rfl
    rw [accountingOf_append, silent, List.append_nil] at last'
    have reopened := opened_eq_true.mpr (last'.mp started)
    rw [closed] at reopened
    cases reopened

/-- **Accounting is balanced throughout a run exactly when every `Enable` of the run finds
its MAC without open accounting.** -/
theorem accounting_balanced_iff (cfg : PaeConfig) (inputs : List PortInput) :
    (∀ prior, prior <+: inputs →
      AccountingBalanced (portMachine.run (.new cfg) prior).1
        (portMachine.run (.new cfg) prior).2) ↔
      EnablesSpared cfg inputs := by
  constructor
  · intro balanced before input within
    cases input with
    | linkDown => trivial
    | handle mac event =>
        rintro rfl
        by_contra hit
        have hit : opened ((portMachine.run (.new cfg) before).1.session mac) = true := by
          simpa using hit
        have orderly : Orderly cfg (portMachine.run (.new cfg) before).1 :=
          portMachine.run_invariant (orderly_step cfg) (orderly_new cfg) before
        have earlier := balanced before ((List.prefix_append before _).trans within)
        have later := balanced _ within
        rw [portMachine.run_concat] at later
        exact unbalanced_of_enable orderly earlier hit later
  · intro spared prior within
    refine accountingBalanced_of_meter fun mac => accounted_run cfg prior ?_ mac
    intro before input inside
    exact spared before input (inside.trans within)

/-- A station is authorized, and its port is brought into service again. -/
def enabledWhileOpen : List PortInput :=
  [.handle #v[0, 0x11, 0x22, 0x33, 0x44, 0x55] .eapolStart,
    .handle #v[0, 0x11, 0x22, 0x33, 0x44, 0x55]
      (.eapFromSupplicant ⟨.response, 1, some .identity, [2, 1, 0, 6, 1, 97]⟩),
    .handle #v[0, 0x11, 0x22, 0x33, 0x44, 0x55] (.accessAccept {} none),
    .handle #v[0, 0x11, 0x22, 0x33, 0x44, 0x55] .enable]

/-- Its Start is never followed by a Stop: the session is live, its accounting is closed,
and the last record of the MAC is a Start. -/
theorem accounting_start_without_stop :
    ¬ ∀ (cfg : PaeConfig) (inputs : List PortInput),
      AccountingBalanced (portMachine.run (.new cfg) inputs).1
        (portMachine.run (.new cfg) inputs).2 := by
  intro claim
  obtain ⟨-, last, -⟩ := claim {} enabledWhileOpen #v[0, 0x11, 0x22, 0x33, 0x44, 0x55]
  have started : (accountingOf #v[0, 0x11, 0x22, 0x33, 0x44, 0x55]
      (portMachine.run (.new {}) enabledWhileOpen).2).getLast? = some .start := by decide
  have closed : opened ((portMachine.run (.new {}) enabledWhileOpen).1.session
      #v[0, 0x11, 0x22, 0x33, 0x44, 0x55]) = false := by decide
  rw [opened_eq_true.mpr (last.mp started)] at closed
  cases closed

end Authenticator.Pae
