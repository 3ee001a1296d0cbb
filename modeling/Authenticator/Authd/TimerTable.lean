/-
# Authd.TimerTable -- the timers of a port, exactly

Between two rounds of `run_port` the scheduler holds, for every session, the guard timer of its
state, and no task but that one and the Session-Timeout of a grant: no session is stranded, and
no timer is leaked.

An expiry that was on its way may be handled after its timer was armed anew, so the wheel is
read from two sides: what is still to come (`Booked.due`) and what still sleeps
(`Booked.asleep`).  Each side is an account of the effects performed, and the step lemmas of
`Pae.TimerTable` keep both.
-/
import Authenticator.Theory.Pending
import Authenticator.Pae.TimerTable
import Authenticator.Authd.ServerTimer
import Authenticator.Authd.Quiescent

namespace Authenticator.Authd

set_option autoImplicit false

open Authenticator.Pacp Authenticator.Pae Authenticator.Radius Authenticator.Theory
open Authenticator.Theory.Timers

/-! ## The port -/

section Port

variable {p : PortPae} {P : Postures} {A : Armed}

/-- Every session has the timer it waits for. -/
def Attended (p : PortPae) (A : Armed) : Prop :=
  ∀ mac s, p.session mac = some s → ∀ kind, s.WaitsFor p.cfg kind → kind ∈ A mac

/-- Every armed timer is one a session has use for. -/
def Accounts (p : PortPae) (A : Armed) : Prop :=
  ∀ mac, SlotAccounted p.cfg (p.session mac) (A mac)

/-- A call acts on the timers of its MAC alone. -/
theorem scheduledAll_handle_of_ne (inv : PortInv p P) {mac other : MacAddr} {event : Event}
    (foreign : other ≠ mac) : scheduledAll A (p.handle mac event).2 other = A other := by
  rcases PortPae.handle_lane inv mac event with ⟨-, -, same⟩ | ⟨-, -, effects⟩
  · rw [same]
    rfl
  · rw [effects, scheduledAll_decorate, Function.update_of_ne foreign]

/-- **The step lemma of a port, from below**: the timer that expired may be gone. -/
theorem attended_handle (inv : PortInv p P) {mac : MacAddr} {event : Event}
    (attended : ∀ other s, p.session other = some s → ∀ kind, s.WaitsFor p.cfg kind →
      ¬ (other = mac ∧ event = .timer kind) → kind ∈ A other) :
    Attended (p.handle mac event).1 (scheduledAll A (p.handle mac event).2) := by
  intro other s found kind waits
  rw [PortPae.handle_cfg] at waits
  rcases PortPae.handle_session inv found with ⟨foreign, before⟩ | ⟨rfl, r, rfl, effects, origin⟩
  · rw [scheduledAll_handle_of_ne inv foreign]
    exact attended other s before kind waits fun here => foreign here.1
  · rw [effects, scheduledAll_decorate, Function.update_self]
    rcases origin with ⟨before, slot, rfl⟩ | rfl
    · refine PortSession.waitsFor_step (fun kind waits unexpired => ?_) waits
      exact attended other before slot kind waits fun here => unexpired here.2
    · exact waitsFor_admitted p.cfg other event waits _

/-- **The step lemma of a port, from above.** -/
theorem accounts_handle (inv : PortInv p P) (accounts : Accounts p A) (spared : p.Spared)
    (mac : MacAddr) {event : Event} (served : event ≠ .enable) :
    Accounts (p.handle mac event).1 (scheduledAll A (p.handle mac event).2) := by
  intro other
  rw [PortPae.handle_cfg]
  have before := accounts other
  rcases PortPae.handle_lane inv mac event with ⟨-, -, same⟩ | ⟨-, sessions, effects⟩
  · rw [same]
    exact before
  · rw [sessions, effects, scheduledAll_decorate]
    by_cases own : other = mac
    · subst own
      rw [Function.update_self, Function.update_self]
      exact slotAccounted_lane before (spared other) other served
    · rw [Function.update_of_ne own, Function.update_of_ne own]
      exact before

end Port

/-! ## The scheduler -/

section Scheduler

variable {ω : Type} {A B : Armed} {s : TokioScheduler}

/-- Two accounts of a scheduler: what is still to come, and what still sleeps. -/
structure Booked (A B : Armed) (s : TokioScheduler) : Prop where
  kept : Kept s
  due : ∀ mac kind, kind ∈ A mac → kind ≠ .sessionTimeout → s.Pending (mac, kind)
  asleep : ∀ mac kind, s.Sleeps (mac, kind) → kind ∈ B mac

theorem Booked.background (booked : Booked A B s) (actions : List (Background TimerKey)) :
    Booked A B (actions.foldl Background.run s) where
  kept := booked.kept.background actions
  due mac kind armed limited := pending_background actions (booked.due mac kind armed limited)
  asleep mac kind asleep := booked.asleep mac kind (sleeps_background actions asleep)

theorem Booked.interlude {r : Runtime ω} (booked : Booked A B r.scheduler) :
    Booked A B r.interlude.scheduler := by
  unfold Runtime.interlude
  split
  · exact booked
  · exact booked.background _

theorem Booked.arm (booked : Booked A B s) (mac : MacAddr) (kind : TimerKind) (secs : Nat) :
    Booked (Function.update A mac (insert kind (A mac))) (Function.update B mac (insert kind (B mac)))
      (TokioScheduler.arm mac kind secs s) where
  kept := booked.kept.arm _
  due other later armed limited := by
    refine pending_arm booked.kept ?_
    by_cases own : other = mac
    · subst own
      rw [Function.update_self, Finset.mem_insert] at armed
      rcases armed with rfl | before
      · exact Or.inl rfl
      · exact Or.inr (booked.due other later before limited)
    · rw [Function.update_of_ne own] at armed
      exact Or.inr (booked.due other later armed limited)
  asleep other later asleep := by
    rcases (sleeps_arm booked.kept).mp asleep with same | before
    · obtain ⟨rfl, rfl⟩ := Prod.mk.inj same
      simp
    · have member := booked.asleep other later before
      by_cases own : other = mac
      · subst own
        rw [Function.update_self]
        exact Finset.mem_insert_of_mem member
      · rwa [Function.update_of_ne own]

theorem Booked.disarm (booked : Booked A B s) {keys : List TimerKey} {A' B' : Armed}
    (fewer : ∀ mac kind, kind ∈ A' mac → kind ∈ A mac ∧ (mac, kind) ∉ keys)
    (spared : ∀ mac kind, kind ∈ B mac → (mac, kind) ∉ keys → kind ∈ B' mac) :
    Booked A' B' (Wheel.disarm keys s) where
  kept := booked.kept.disarm keys
  due mac kind armed limited := by
    obtain ⟨before, away⟩ := fewer mac kind armed
    exact pending_disarm booked.kept (booked.due mac kind before limited) away
  asleep mac kind asleep := by
    obtain ⟨before, away⟩ := (sleeps_disarm booked.kept).mp asleep
    exact spared mac kind (booked.asleep mac kind before) away

theorem TokioScheduler.mem_keysOf {mac other : MacAddr} {kind : TimerKind} :
    (other, kind) ∈ keysOf mac ↔ other = mac := by
  cases kind <;> simp [keysOf]

variable [RadiusProto]

/-- **An effect that succeeds does to the scheduler what the accounts say.** -/
theorem Dispatched.booked {base : Deps ω} {port : String} {env env' : Runtime ω}
    {de : DirectedEffect} {calls : List Call} {follow : Option Event}
    (outcome : Dispatched (onTokio base) port env de calls env' (.ok follow))
    (booked : Booked A B env.scheduler) :
    Booked (schedule A de) (schedule B de) env'.scheduler := by
  have paused : Booked A B env.interlude.scheduler := booked.interlude
  have quiet : ∀ {mac}, de.asks = some mac → ∀ A, schedule A de = A := by
    intro mac asked A
    apply schedule_quiet
    intro armed
    have asking := DirectedEffect.isRequest_of_asks asked
    cases effect : de.effect <;> rw [effect] at asking <;> first | rfl | cases asking
  generalize known : Except.ok follow = result at outcome
  cases outcome with
  | idle => exact booked
  | sent | accounted | applied =>
      rw [schedule_quiet fun _ => rfl, schedule_quiet fun _ => rfl]
      exact paused
  | refused | unanswered | discarded | unaccounted => cases known
  | answered _ mac asked request reply pending event _ called =>
      rw [quiet asked, quiet asked]
      obtain rfl : _ = env' := congrArg Prod.snd called
      exact Booked.interlude paused
  | armed mac kind secs => exact paused.arm mac kind secs
  | unarmed mac =>
      -- A Session-Timeout without a value is asked for and not armed.
      refine ⟨booked.kept, fun other kind armed limited => ?_, fun other kind asleep => ?_⟩
      · refine booked.due other kind ?_ limited
        by_cases own : other = mac
        · subst own
          simpa [schedule, Effect.schedule, limited] using armed
        · simpa [schedule, Function.update_of_ne own] using armed
      · have member := booked.asleep other kind asleep
        by_cases own : other = mac
        · subst own
          simp [schedule, Effect.schedule, member]
        · simpa [schedule, Function.update_of_ne own] using member
  | cancelled mac kind =>
      refine paused.disarm (fun other later => ?_) fun other later => ?_
      all_goals
        by_cases own : other = mac
        · subst own
          simp +contextual [schedule, Effect.schedule]
        · simp [schedule, own]
  | cancelledAll mac =>
      refine paused.disarm (fun other later => ?_) fun other later => ?_
      all_goals
        by_cases own : other = mac
        · simp [schedule, Effect.schedule, own, TokioScheduler.mem_keysOf]
        · simp [schedule, own, TokioScheduler.mem_keysOf]

end Scheduler

/-! ## The invariant of one event -/

section Invariant

variable {ω : Type} {cfg : PaeConfig}

/-- Once the effects left are performed, the two accounts fit the sessions. -/
structure Keeping (cfg : PaeConfig) (rest : List DirectedEffect) (w : World (Runtime ω)) : Prop where
  cfg : w.pae.cfg = cfg
  booked : ∃ A B, Booked A B w.env.scheduler ∧ Attended w.pae (scheduledAll A rest) ∧
    Accounts w.pae (scheduledAll B rest)

/-- Before an event: the timer that it reports may be gone. -/
structure Incoming (cfg : PaeConfig) (queue : List (MacAddr × Event)) (w : World (Runtime ω)) : Prop where
  cfg : w.pae.cfg = cfg
  served : ∀ task ∈ queue, task.2 ≠ .enable
  booked : ∃ A B, Booked A B w.env.scheduler ∧ Accounts w.pae B ∧
    ∀ mac s, w.pae.session mac = some s → ∀ kind, s.WaitsFor w.pae.cfg kind →
      (∀ rest, queue ≠ (mac, .timer kind) :: rest) → kind ∈ A mac

theorem Keeping.announce {w : World (Runtime ω)} {queue : List (MacAddr × Event)}
    (keeping : Keeping cfg [] w) (served : ∀ task ∈ queue, task.2 ≠ .enable) : Incoming cfg queue w := by
  obtain ⟨same, A, B, booked, attended, accounts⟩ := keeping
  exact ⟨same, served, A, B, booked, accounts, fun mac s found kind waits _ =>
    attended mac s found kind waits⟩

theorem Incoming.settle {w : World (Runtime ω)} (incoming : Incoming cfg [] w) :
    Keeping cfg [] w := by
  obtain ⟨same, -, A, B, booked, accounts, attended⟩ := incoming
  exact ⟨same, A, B, booked, (fun mac s found kind waits =>
    attended mac s found kind waits (by simp)), accounts⟩

theorem Incoming.enter {w : World (Runtime ω)} {P : Postures} {task : MacAddr × Event}
    {queue : List (MacAddr × Event)} (incoming : Incoming cfg (task :: queue) w) (inv : PortInv w.pae P)
    (spared : w.pae.Spared) :
    Keeping cfg (feedPae task.1 task.2 w).1 (feedPae task.1 task.2 w).2 := by
  obtain ⟨same, served, A, B, booked, accounts, attended⟩ := incoming
  refine ⟨(PortPae.handle_cfg w.pae task.1 task.2).trans same, A, B, booked, ?_, ?_⟩
  · refine attended_handle inv fun other s found kind waits unexpired => ?_
    refine attended other s found kind waits fun rest known => unexpired ?_
    have first := (List.cons.inj known).1
    exact ⟨(congrArg Prod.fst first).symm, congrArg Prod.snd first⟩
  · exact accounts_handle inv accounts spared task.1 (served task List.mem_cons_self)

variable [RadiusProto] {base : Deps ω} {w : World (Runtime ω)} {de : DirectedEffect}
variable {rest : List DirectedEffect}

theorem Keeping.act (keeping : Keeping cfg (de :: rest) w) {follow : Option Event}
    (done : (dispatch (onTokio base) de w).1 = .ok follow) :
    Keeping cfg rest (dispatch (onTokio base) de w).2 := by
  obtain ⟨same, A, B, booked, attended, accounts⟩ := keeping
  obtain ⟨calls, performed⟩ := dispatch_performed (onTokio base) de w
  have outcome := performed.outcome
  rw [done] at outcome
  refine ⟨by rw [performed.pae]; exact same, schedule A de, schedule B de, outcome.booked booked, ?_, ?_⟩
  · rw [performed.pae]
    exact attended
  · rw [performed.pae]
    exact accounts

omit [RadiusProto] in
/-- No event but a reply is left behind. -/
theorem Expecting.served {task : MacAddr × Event} {queue : List (MacAddr × Event)}
    (expecting : Expecting task rest queue w) : ∀ later ∈ queue, later.2 ≠ .enable := by
  intro later member same
  cases expecting.pend with
  | asking => cases member
  | awaiting event reply unanswered alone arms =>
      rw [List.mem_singleton] at member
      subst member
      obtain rfl : event = .enable := same
      cases reply

theorem keeps_keeping (cfg : PaeConfig) (base : Deps ω) :
    (eventQueue (onTokio base)).Keeps (fun _ _ _ => True)
      (fun queue w => Expected queue w ∧ Incoming cfg queue w)
      (fun task rest queue w => Expecting task rest queue w ∧ Keeping cfg rest w)
      fun _ => True := by
  refine eventQueue_keeps ?_ ?_ (fun _ _ _ _ _ _ _ _ _ => trivial) ?_
  · rintro task queue w ⟨expected, incoming⟩
    obtain ⟨P, inv⟩ := expected.1.port
    exact ⟨.enter expected, incoming.enter inv expected.1.uncritical.spared⟩
  · rintro task de rest queue w follow ⟨expecting, keeping⟩ done
    exact ⟨expecting.act done, keeping.act done⟩
  · rintro task queue w ⟨expecting, keeping⟩
    exact ⟨(keeps_expecting (onTokio base)).leave task queue w expecting,
      keeping.announce expecting.served⟩

end Invariant

/-! ## Whole runs -/

section Runs

variable {ω : Type} [RadiusProto] (base : Deps ω) (opening : Opening ω) (port : String)
  (ctxTemplate : RequestContext) (cfg : PaeConfig) (schedule : List (List (Background TimerKey)))
  (env : ω) (picks : List Pick)

omit [RadiusProto] in
theorem rounds_keeping :
    Rounds (fun w : World (Runtime ω) => Quiet w ∧ Keeping cfg [] w)
      (fun mac event w => Quiet w ∧ Incoming cfg [(mac, event)] w) where
  interlude w held := by
    obtain ⟨quiet, same, A, B, booked, attended, accounts⟩ := held
    exact ⟨quiet.unseen _, same, A, B, booked.interlude, attended, accounts⟩
  frame mac event w daemon _ held := by
    refine ⟨held.1, held.2.announce fun task member same => ?_⟩
    rw [List.mem_singleton.mp member] at same
    obtain rfl : event = .enable := same
    cases daemon
  expiry w task scheduler held taken := by
    obtain ⟨quiet, same, A, B, booked, attended, accounts⟩ := held
    obtain ⟨id, expired, due⟩ := task
    let spent : Armed := Function.update A expired ((A expired).erase due)
    have fits : Booked spent B scheduler := by
      refine ⟨booked.kept.take taken, fun mac kind armed limited => ?_, fun mac kind asleep =>
        booked.asleep mac kind ((sleeps_take taken).mp asleep)⟩
      by_cases own : mac = expired
      · subst own
        simp only [spent, Function.update_self, Finset.mem_erase] at armed
        exact (booked.due mac kind armed.2 limited).take taken (by simp [armed.1])
      · simp only [spent, Function.update_of_ne own] at armed
        exact (booked.due mac kind armed limited).take taken (by simp [own])
    refine ⟨quiet.unseen _, same, by simp, spent, B, fits, accounts, ?_⟩
    intro mac s found kind waits foreign
    have armed : kind ∈ A mac := attended mac s found kind waits
    by_cases own : mac = expired
    · subst own
      have other : kind ≠ due := by
        rintro rfl
        exact foreign [] rfl
      simp only [spent, Function.update_self]
      exact Finset.mem_erase_of_ne_of_mem other armed
    · simpa [spent, Function.update_of_ne own] using armed

theorem ends_keeping :
    Prog.Ends (fun _ w => Quiet w ∧ Keeping cfg [] w) (fun _ => True)
      (runPortUntilError base opening port cfg picks
        (.start port ctxTemplate cfg ⟨.new, schedule, env⟩)) := by
  have events : KeepsEvents (onTokio base) (fun mac event w => Quiet w ∧ Incoming cfg [(mac, event)] w)
      (fun w => Quiet w ∧ Keeping cfg [] w) fun _ => True :=
    keepsEvents_of_settles (keeps_keeping cfg base)
      (fun _ others _ _ held => held.1.falls others)
      (fun mac event _ held => ⟨held.1.expected mac event, held.2⟩)
      fun _ held => ⟨held.1.quiet, held.2.settle⟩
  refine ends_runPort events (rounds_keeping cfg) (fun _ _ => trivial) ⟨?_, ?_⟩ cfg picks
    (fun w held => ends_applyEffects (fun de member w held => ?_) held) ⟨quiet_start port ctxTemplate cfg _, ?_⟩
  · rintro w ⟨quiet, same, A, B, booked, attended, accounts⟩
    exact ⟨quiet.unseen _, same, A, B, booked, attended, accounts⟩
  · rintro w ⟨quiet, same, A, B, booked, attended, accounts⟩
    exact ⟨quiet.unseen _, same, A, B, booked, attended, accounts⟩
  · rw [List.mem_singleton.mp member]
    have shut := @Quiet.shut _ _ _ (onTokio base) held.1
    have aside : Keeping cfg [⟨none, .setAuthorization .unauthorized⟩] w := by
      obtain ⟨-, same, A, B, booked, attended, accounts⟩ := held
      exact ⟨same, A, B, booked, attended, accounts⟩
    cases ran : dispatch (onTokio base) ⟨none, .setAuthorization .unauthorized⟩ w with
    | mk result w' =>
        rw [ran] at shut
        cases result with
        | ok follow =>
            have keeping := aside.act (congrArg Prod.fst ran)
            rw [ran] at keeping
            exact ⟨shut, keeping⟩
        | error e => trivial
  · refine ⟨rfl, fun _ => ∅, fun _ => ∅, ⟨kept_new, ?_, ?_⟩, ?_, fun _ => rfl⟩
    · intro mac kind armed
      cases armed
    · rintro mac kind ⟨t, member, -⟩
      cases member
    · intro mac s found
      cases found

/-- **No session is stranded, and no timer is leaked.**  Whenever `run_port` is back at `select!`,
whatever the boundaries answered and whenever the timers fired: the expiry of every timer a
session waits for is still to come, and every task that still sleeps is the timer its session
waits for, or the Session-Timeout of a session whose accounting is open. -/
theorem port_timers {w : World (Runtime ω)}
    (ran : runPortUntilError base opening port cfg picks
      (.start port ctxTemplate cfg ⟨.new, schedule, env⟩) = (.ok (), w)) :
    (∀ mac s, w.pae.session mac = some s → ∀ kind, s.WaitsFor cfg kind →
      w.env.scheduler.Pending (mac, kind)) ∧
    ∀ t ∈ w.env.scheduler.sleeping, ∃ s, w.pae.session t.key.1 = some s ∧
      (s.WaitsFor cfg t.key.2 ∨ (t.key.2 = .sessionTimeout ∧ s.accountingOpen = true)) := by
  have ended := ends_keeping base opening port ctxTemplate cfg schedule env picks
  rw [ran] at ended
  obtain ⟨-, rfl, A, B, booked, attended, accounts⟩ := ended
  constructor
  · intro mac s found kind waits
    exact booked.due mac kind (attended mac s found kind waits) waits.ne_sessionTimeout
  · intro t member
    have armed := booked.asleep t.key.1 t.key.2 ⟨t, member, rfl⟩
    have accounted := accounts t.key.1
    cases slot : w.pae.session t.key.1 with
    | none =>
        rw [slot] at accounted
        have none_ : B t.key.1 = ∅ := accounted
        rw [none_] at armed
        cases armed
    | some s =>
        rw [slot] at accounted
        exact ⟨s, rfl, accounted.used t.key.2 armed⟩

end Runs

/-- A station that shows up twice is prompted again: one of its two timers was replaced, and one
is still to report. -/
theorem port_timers_start :
    ∃ w, @runPortUntilError _ Site.proto Site.deps Site.opening "Ethernet4" Site.config
        [.source (.frame startFrame), .source (.frame startFrame)]
        (.start "Ethernet4" Site.context Site.config ⟨.new, [], ⟨[], []⟩⟩) = (.ok (), w) ∧
      w.env.scheduler.Pending (Site.station, .txPeriod) := by
  have done : (@runPortUntilError _ Site.proto Site.deps Site.opening "Ethernet4" Site.config
      [.source (.frame startFrame), .source (.frame startFrame)]
      (.start "Ethernet4" Site.context Site.config ⟨.new, [], ⟨[], []⟩⟩)).1 = .ok () := by
    decide +kernel
  have solicited : ((@runPortUntilError _ Site.proto Site.deps Site.opening "Ethernet4" Site.config
      [.source (.frame startFrame), .source (.frame startFrame)]
      (.start "Ethernet4" Site.context Site.config ⟨.new, [], ⟨[], []⟩⟩)).2.pae.session
        Site.station).map PortSession.state = some .connecting := by
    decide +kernel
  obtain ⟨s, found, connecting⟩ := Option.map_eq_some_iff.mp solicited
  refine ⟨_, Prod.ext done rfl, ?_⟩
  refine (@port_timers _ Site.proto Site.deps Site.opening "Ethernet4" Site.context Site.config []
    ⟨[], []⟩ _ _ (Prod.ext done rfl)).1 Site.station s found .txPeriod ⟨?_, by simp⟩
  rw [connecting]
  rfl

end Authenticator.Authd
