/-
# Authd.FailedGrant -- a grant the enforcer refuses is believed all the same

The session commits to `Authenticated` before its effects are performed, and the error of the
enforcer goes straight to the caller: nothing tells the session, and no later effect is
performed.  So whenever the enforcer refuses a grant, whichever event it comes from, the
session of its MAC is left authorized (`failed_grant_believed`).
-/
import Authenticator.Pae.Exchange
import Authenticator.Authd.Run

namespace Authenticator.Authd

set_option autoImplicit false

open Authenticator.Pacp Authenticator.Pae Authenticator.Radius Authenticator.Theory
open Authenticator.Enforce (Target)

/-! ## The port -/

/-- The session of `mac` is authorized. -/
def IsAuthorized (p : PortPae) (mac : MacAddr) : Prop :=
  ∃ s, p.session mac = some s ∧ s.isAuthorized = true

/-- **A call that grants leaves its session authorized.** -/
theorem handle_granted {p : PortPae} {P : Postures} (inv : PortInv p P) (mac : MacAddr)
    (event : Event) {de : DirectedEffect} {a : Authorization}
    (member : de ∈ (p.handle mac event).2) (grants : de.effect.grant = some a) :
    IsAuthorized (p.handle mac event).1 mac := by
  have settled : ∀ r : PortSession, r.state = .authenticated →
      ∃ s, (if r.state = .new then none else some r) = some s ∧ s.isAuthorized = true := by
    intro r running
    exact ⟨r, by simp [running], by simp [PortSession.isAuthorized, running]⟩
  rcases PortPae.handle_lane inv mac event with ⟨-, -, same⟩ | ⟨-, sessions, effects⟩
  · rw [same] at member
    cases member
  · rw [effects] at member
    obtain ⟨effect, inside, rfl⟩ := List.mem_map.mp member
    unfold IsAuthorized
    rw [sessions, Function.update_self]
    cases found : p.session mac with
    | some s =>
        rw [found] at inside
        exact settled _ (s.step_granted p.cfg event inside grants)
    | none =>
        rw [found] at inside
        have opening : effect ∉ ((PortSession.new mac).step .enable p.cfg).2 := by
          intro opened
          have three : effect ∈ [Effect.setAuthorization .unauthorized,
              .txEapToSupplicant (requestIdentity 1), .armTimer .txPeriod] := opened
          simp only [List.mem_cons, List.not_mem_nil, or_false] at three
          rcases three with rfl | rfl | rfl <;> cases grants
        unfold lane admitted at inside ⊢
        dsimp only at inside ⊢
        split at inside
        · exact absurd inside opening
        · rename_i other
          rw [if_neg other]
          rcases List.mem_append.mp inside with first | second
          · exact absurd first opening
          · exact settled _ (PortSession.step_granted p.cfg _ event second grants)

/-! ## One call of the orchestrator -/

/-- Among the entries, the enforcer refuses a grant of `mac`. -/
def FailedGrant (mac : MacAddr) (entries : List Entry) : Prop :=
  ∃ target a e, ⟨some mac, .apply target (.authorized a) (.error e)⟩ ∈ entries

section Invariant

variable {ω : Type} {cfg : PaeConfig} {start : List Entry}

/-- The log grew from `start`, and no grant was refused. -/
structure Granting (cfg : PaeConfig) (start : List Entry) (w : World ω) : Prop where
  orderly : Orderly cfg w.pae
  grew : ∃ new, w.log = start ++ new ∧ ∀ mac, ¬ FailedGrant mac new

/-- Inside the effects of one event, whose session is authorized if one of them grants. -/
structure Committed (cfg : PaeConfig) (start : List Entry) (mac : MacAddr)
    (rest : List DirectedEffect) (w : World ω) : Prop where
  granting : Granting cfg start w
  serving : w.serving = some mac
  believed : ∀ de ∈ rest, ∀ a, de.effect.grant = some a → IsAuthorized w.pae mac

theorem Granting.enter {w : World ω} (granting : Granting cfg start w) (mac : MacAddr)
    (event : Event) :
    Committed cfg start mac (feedPae mac event w).1 (feedPae mac event w).2 := by
  have orderly := orderly_step cfg w.pae (.handle mac event) granting.orderly
  obtain ⟨⟨-, P, inv⟩, new, log, spared⟩ := granting
  refine ⟨⟨orderly, new ++ [_], by rw [← List.append_assoc, ← log]; rfl, ?_⟩, rfl, ?_⟩
  · rintro m ⟨target, a, e, member⟩
    rcases List.mem_append.mp member with old | fed
    · exact spared m ⟨target, a, e, old⟩
    · cases List.mem_singleton.mp fed
  · intro de member a grants
    exact handle_granted inv mac event member grants

variable [RadiusProto] {deps : Deps ω}

/-- A refused grant was asked for, and is an error. -/
theorem Dispatched.failed_grant {port : String} {env env' : ω} {de : DirectedEffect}
    {calls : List Call} {result : Except AuthdError (Option Event)} {target : Target}
    {a : Authorization} {e : String} (outcome : Dispatched deps port env de calls env' result)
    (refused : .apply target (.authorized a) (.error e) ∈ calls) :
    de.effect.grant = some a ∧ result = .error (.enforce e) := by
  cases outcome with
  | applied mac auth =>
      obtain ⟨-, rfl, failed⟩ := Call.apply.inj (List.mem_singleton.mp refused)
      refine ⟨rfl, ?_⟩
      rw [← failed]
      rfl
  | idle | refused | unarmed | unaccounted => cases refused
  | _ => simp at refused

variable {mac : MacAddr} {de : DirectedEffect} {rest : List DirectedEffect} {w : World ω}

/-- What an effect adds to the log. -/
theorem Committed.performed (committed : Committed cfg start mac (de :: rest) w)
    {r : Except AuthdError (Option Event) × World ω} {calls : List Call}
    (performed : Performed deps w de r calls) :
    Orderly cfg r.2.pae ∧ r.2.serving = some mac ∧ r.2.pae = w.pae ∧
      ∃ new, r.2.log = start ++ new ∧ ∀ m, FailedGrant m new → m = mac ∧ ∃ target a e,
        .apply target (.authorized a) (.error e) ∈ calls := by
  obtain ⟨⟨orderly, new, log, spared⟩, serving, -⟩ := committed
  refine ⟨by rw [performed.pae]; exact orderly, by rw [performed.serving, serving], performed.pae,
    new ++ calls.map fun call => ⟨w.serving, call⟩, by rw [performed.log, log, List.append_assoc], ?_⟩
  rintro m ⟨target, a, e, member⟩
  rcases List.mem_append.mp member with old | called
  · exact absurd ⟨target, a, e, old⟩ (spared m)
  · obtain ⟨call, inside, same⟩ := List.mem_map.mp called
    rw [serving] at same
    cases same
    exact ⟨rfl, target, a, e, inside⟩

theorem Committed.act (committed : Committed cfg start mac (de :: rest) w) {follow : Option Event}
    {w' : World ω} {calls : List Call} (performed : Performed deps w de (.ok follow, w') calls) :
    Committed cfg start mac rest w' := by
  obtain ⟨orderly, serving, same, new, log, refusals⟩ := committed.performed performed
  refine ⟨⟨orderly, new, log, ?_⟩, serving, ?_⟩
  · intro m failed
    obtain ⟨-, target, a, e, called⟩ := refusals m failed
    cases (performed.outcome.failed_grant called).2
  · intro later member a grants
    rw [show w'.pae = w.pae from same]
    exact committed.believed later (List.mem_cons_of_mem _ member) a grants

theorem Committed.abandon (committed : Committed cfg start mac (de :: rest) w) {e : AuthdError}
    {w' : World ω} {calls : List Call} (performed : Performed deps w de (.error e, w') calls) :
    ∃ new, w'.log = start ++ new ∧ ∀ m, FailedGrant m new → IsAuthorized w'.pae m := by
  obtain ⟨-, -, same, new, log, refusals⟩ := committed.performed performed
  refine ⟨new, log, ?_⟩
  intro m failed
  obtain ⟨rfl, target, a, e, called⟩ := refusals m failed
  rw [show w'.pae = w.pae from same]
  exact committed.believed de List.mem_cons_self a (performed.outcome.failed_grant called).1

end Invariant

section Main

variable {ω : Type} [RadiusProto] (deps : Deps ω)

/-- In a call, a MAC whose grant is refused is authorized at the end. -/
theorem handleEvent_failed_grant {cfg : PaeConfig} {w : World ω} (orderly : Orderly cfg w.pae)
    (mac : MacAddr) (event : Event) :
    ∃ new, (handleEvent deps mac event w).2.log = w.log ++ new ∧
      ∀ m, FailedGrant m new → IsAuthorized (handleEvent deps mac event w).2.pae m := by
  have keeps : (eventQueue deps).Keeps (fun _ _ _ => True)
      (fun _ w' => Granting cfg w.log w')
      (fun task rest _ w' => Committed cfg w.log task.1 rest w')
      (fun w' => ∃ new, w'.log = w.log ++ new ∧ ∀ m, FailedGrant m new → IsAuthorized w'.pae m) := by
    refine ⟨fun task _ w' granting => granting.enter task.1 task.2, ?_, ?_,
      fun _ _ _ committed => committed.granting⟩
    · intro task de rest queue w' follow w'' committed acted
      obtain ⟨event, calls, -, performed⟩ := eventQueue_act_ok acted
      exact committed.act performed
    · intro task de rest queue w' e w'' committed acted _
      obtain ⟨calls, performed⟩ := eventQueue_act_error acted
      exact committed.abandon performed
  have begin_ : Granting cfg w.log w :=
    ⟨orderly, [], (List.append_nil _).symm, fun m failed => by
      obtain ⟨_, _, _, member⟩ := failed
      cases member⟩
  refine handleEvent_invariant keeps ?_ (fun _ failed => failed) begin_
    ((eventQueue deps).drainsWithin_of_forall _ (fun _ _ _ => trivial) 64 _ w)
  rintro queue w' ⟨-, new, log, spared⟩
  exact ⟨new, log, fun m failed => absurd failed (spared m)⟩

/-- **A refused grant is always believed.**  At every state of every run, for every event and
host mode: after the call, no MAC whose grant the enforcer refused during it is authorized if
and only if the enforcer refused no grant. -/
theorem failed_grant_believed (port : String) (ctxTemplate : RequestContext) (cfg : PaeConfig)
    (env : ω) (inputs : List (MacAddr × Event)) (mac : MacAddr) (event : Event) :
    let w := serve deps (.start port ctxTemplate cfg env) inputs
    let w' := (handleEvent deps mac event w).2
    (∀ m, FailedGrant m (w'.log.drop w.log.length) → ¬ IsAuthorized w'.pae m) ↔
      ∀ m, ¬ FailedGrant m (w'.log.drop w.log.length) := by
  intro w w'
  have orderly : Orderly cfg w.pae := orderly_serve deps port ctxTemplate cfg env inputs
  obtain ⟨new, log, believed⟩ := handleEvent_failed_grant deps orderly mac event
  have growth : w'.log.drop w.log.length = new := by
    rw [show w'.log = w.log ++ new from log, List.drop_left]
  rw [growth]
  constructor
  · intro closed m failed
    exact closed m failed (believed m failed)
  · intro spared m failed
    exact absurd failed (spared m)

end Main

section Witness

attribute [local instance] Site.proto

/-- The site, with an enforcer that lets nobody through. -/
def refusingDeps : Deps Site.Script :=
  { Site.deps with
    apply := fun _ _ auth =>
      match auth with
      | .authorized _ => Prog.fail "redis"
      | _ => pure () }

/-- The supplicant is bypassed and accepted, the enforcer refuses the grant, and the session is
authorized. -/
theorem refused_bypass_believed :
    ¬ ∀ (deps : Deps Site.Script) (port : String) (ctxTemplate : RequestContext) (cfg : PaeConfig)
      (env : Site.Script) (inputs : List (MacAddr × Event)) (mac : MacAddr) (event : Event),
      let w := serve deps (.start port ctxTemplate cfg env) inputs
      let w' := (handleEvent deps mac event w).2
      ∀ m, FailedGrant m (w'.log.drop w.log.length) → ¬ IsAuthorized w'.pae m := by
  intro claim
  refine claim refusingDeps "Ethernet4" Site.context Site.config ⟨[.ok Site.accept], []⟩
    [(Site.station, .eapolStart)] Site.station (.timer .txPeriod) Site.station
    ⟨.mac Site.station, { vlan := some "42" }, "redis", by decide +kernel⟩ ?_
  exact ⟨⟨Site.station, .authenticated, .mab, 1, 1, some { vlan := some "42" }, true⟩,
    by decide +kernel, rfl⟩

end Witness

end Authenticator.Authd
