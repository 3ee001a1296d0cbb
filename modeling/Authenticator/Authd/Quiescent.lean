/-
# Authd.Quiescent -- between two rounds nothing waits for the server

`run_port` awaits every RADIUS round-trip inside the round that asked for it, and the first
error ends it.  So whenever it waits for a frame or an expiry, no session is in `AuthServer`
and no request is outstanding (`port_quiescent`).

`ServerTimeout` and the critical VLAN are for a session that waits.  An expiry is only looked
at between two rounds, so it never meets one, and a server that fails ends the loop
(`critical_vlan_unreachable`).

`Pend` is what holds inside the effects of one event: the one session that may wait has its
request among the effects that are left, or its reply in the queue.
-/
import Authenticator.Pae.Critical
import Authenticator.Authd.PortLoop
import Authenticator.Authd.ReplyBinding

namespace Authenticator.Authd

set_option autoImplicit false

open Authenticator.Pacp Authenticator.Pae Authenticator.Radius Authenticator.Theory
open Authenticator.Theory.Timers (Background)

/-! ## What one effect leaves outstanding -/

section Outstanding

variable {ω : Type} [RadiusProto] (deps : Deps ω) {w : World ω}

/-- No session has a request outstanding. -/
def NothingOutstanding (w : World ω) : Prop := ∀ mac, (w.orch.session mac).radius.pending = none

/-- A round-trip that succeeds brings a reply, which takes its request. -/
theorem roundTrip_ok {mac : MacAddr}
    {build : RequestContext → Auth16 → Prog AuthdError RadiusSession Packet} {follow : Option Event}
    (done : (roundTrip deps mac build w).1 = .ok follow) :
    (∃ event, follow = some event ∧ event.IsReply) ∧
      (NothingOutstanding w → NothingOutstanding (roundTrip deps mac build w).2) := by
  rw [roundTrip_eq] at done ⊢
  dsimp only at done ⊢
  generalize build (w.orch.ctxFor mac) (deps.generateRequestAuthenticator w.env).1
    (w.orch.session mac).radius = made at done ⊢
  obtain ⟨outcome, radius⟩ := made
  cases outcome with
  | error e => cases done
  | ok request =>
      dsimp only at done ⊢
      generalize deps.accessRequest request (deps.generateRequestAuthenticator w.env).2 = called
        at done ⊢
      obtain ⟨answer, env⟩ := called
      cases answer with
      | error e => cases done
      | ok reply =>
          dsimp only at done ⊢
          constructor
          · cases taken : (RadiusSession.handleReply reply deps.secret radius).1 with
            | error e =>
                rw [taken] at done
                cases done
            | ok event =>
                rw [taken] at done
                obtain ⟨-, -, -, -, parsed⟩ := RadiusSession.handleReply_ok_iff.mp taken
                exact ⟨event, (Except.ok.inj done).symm, isReply_of_parseReply parsed⟩
          · intro nothing other
            have taken := RadiusSession.pending_handleReply radius reply deps.secret
            simp only [World.withRadius, World.record, Orchestrator.session_setSession]
            split
            · exact taken
            · exact nothing other

/-- An effect that succeeds leaves nothing outstanding. -/
theorem nothingOutstanding_dispatch (nothing : NothingOutstanding w) {de : DirectedEffect}
    {follow : Option Event} (done : (dispatch deps de w).1 = .ok follow) :
    NothingOutstanding (dispatch deps de w).2 := by
  cases asked : de.asks with
  | none =>
      intro mac
      obtain ⟨n, radius⟩ := (noted_dispatch deps asked w).radius mac
      rw [radius]
      exact nothing mac
  | some mac =>
      obtain ⟨build, same, -⟩ := dispatch_asks deps asked
      rw [same] at done ⊢
      exact (roundTrip_ok deps done).2 nothing

/-- An effect that asks and succeeds brings a reply. -/
theorem reply_of_asks {de : DirectedEffect} {mac : MacAddr} (asked : de.asks = some mac)
    {follow : Option Event} (done : (dispatch deps de w).1 = .ok follow) :
    ∃ event, follow = some event ∧ event.IsReply := by
  obtain ⟨build, same, -⟩ := dispatch_asks deps asked
  rw [same] at done
  exact (roundTrip_ok deps done).1

end Outstanding

/-! ## The invariant of one event -/

/-- No call put anybody into the critical VLAN. -/
def NeverCritical (log : List Entry) : Prop :=
  ∀ entry ∈ log, ∀ target vlan result,
    entry.call ≠ .apply target (.fallback .critical vlan) result

section Invariant

variable {ω : Type}

/-- Nobody is in the critical VLAN, and nobody was put there. -/
structure Uncritical (w : World ω) : Prop where
  spared : w.pae.Spared
  log : NeverCritical w.log

/-- What holds throughout. -/
structure Calm (w : World ω) : Prop where
  port : ∃ P, PortInv w.pae P
  nothing : NothingOutstanding w
  uncritical : Uncritical w

/-- Who may wait inside the effects of one event. -/
inductive Pend (p : PortPae) (task : MacAddr × Event) (rest : List DirectedEffect) :
    List (MacAddr × Event) → Prop
  | asking (order : AsksThenArms rest)
      (unanswered : (∃ de ∈ rest, de.effect.isRequest = true) → ¬ task.2.IsReply)
      (alone : ∀ mac, p.Waiting mac → mac = task.1 ∧ ∃ de ∈ rest, de.asks = some mac) :
      Pend p task rest []
  | awaiting (event : Event) (reply : event.IsReply) (unanswered : ¬ task.2.IsReply)
      (alone : ∀ mac, p.Waiting mac → mac = task.1)
      (arms : ∀ de ∈ rest, ∃ kind, de.effect = .armTimer kind) :
      Pend p task rest [(task.1, event)]

/-- Between two events: nobody waits, but the one whose reply comes next. -/
def Expected (queue : List (MacAddr × Event)) (w : World ω) : Prop :=
  Calm w ∧ queue.length ≤ 1 ∧
    ∀ mac, w.pae.Waiting mac → ∃ event, queue = [(mac, event)] ∧ event.IsReply

/-- Inside the effects of one event. -/
structure Expecting (task : MacAddr × Event) (rest : List DirectedEffect)
    (queue : List (MacAddr × Event)) (w : World ω) : Prop where
  calm : Calm w
  uncritical : ∀ de ∈ rest, de.effect.Uncritical
  aimed : ∀ de ∈ rest, ∀ other, de.asks = some other → other = task.1 ∧ de.mac = some task.1
  pend : Pend w.pae task rest queue

theorem Expecting.enter {task : MacAddr × Event} {queue : List (MacAddr × Event)} {w : World ω}
    (expected : Expected (task :: queue) w) :
    Expecting task (feedPae task.1 task.2 w).1 queue (feedPae task.1 task.2 w).2 := by
  obtain ⟨⟨⟨P, inv⟩, nothing, spared, log⟩, short, waits⟩ := expected
  obtain rfl : queue = [] := by simpa using short
  have answered : w.pae.Waiting task.1 → task.2.IsReply := by
    intro waiting
    obtain ⟨event, same, reply⟩ := waits task.1 waiting
    have known : task.2 = event := congrArg Prod.snd (List.head_eq_of_cons_eq same)
    rwa [known]
  obtain ⟨spared', uncritical⟩ := PortPae.handle_uncritical inv answered spared
  refine ⟨⟨⟨_, PortPae.portInv_handle inv task.1 task.2⟩, nothing, spared', ?_⟩, uncritical,
    fun de member other => w.pae.handle_asks task.1 task.2 member,
    .asking (w.pae.handle_order task.1 task.2) ?_ ?_⟩
  · intro entry member target vlan result same
    rcases List.mem_append.mp member with old | new
    · exact log entry old target vlan result same
    · rw [List.mem_singleton.mp new] at same
      cases same
  · rintro ⟨de, member, asks⟩
    exact w.pae.handle_unasked task.1 task.2 member asks
  · intro mac waiting
    rcases PortPae.handle_waiting inv waiting with
      ⟨foreign, before⟩ | ⟨rfl, ⟨de, member, asks⟩ | ⟨before, unanswered⟩⟩
    · obtain ⟨event, same, -⟩ := waits mac before
      exact absurd (congrArg Prod.fst (List.head_eq_of_cons_eq same)).symm foreign
    · exact ⟨rfl, de, member, w.pae.handle_asks_of_isRequest task.1 task.2 member asks⟩
    · exact absurd (answered before) unanswered

variable [RadiusProto] {deps : Deps ω} {task : MacAddr × Event} {de : DirectedEffect}
variable {rest : List DirectedEffect} {queue : List (MacAddr × Event)} {w : World ω}

/-- Performing an effect applies nothing else. -/
theorem Dispatched.never_critical {port : String} {env env' : ω} {calls : List Call}
    {result : Except AuthdError (Option Event)}
    (outcome : Dispatched deps port env de calls env' result) (uncritical : de.effect.Uncritical) :
    ∀ call ∈ calls, ∀ target vlan answer,
      call ≠ .apply target (.fallback .critical vlan) answer := by
  intro call member target vlan answer same
  subst same
  cases outcome with
  | applied mac auth =>
      rw [List.mem_singleton] at member
      cases member
      exact uncritical vlan rfl
  | _ => simp at member

theorem Uncritical.dispatch (deps : Deps ω) (held : Uncritical w)
    (uncritical : de.effect.Uncritical) : Uncritical (dispatch deps de w).2 := by
  obtain ⟨spared, log⟩ := held
  obtain ⟨calls, performed⟩ := dispatch_performed deps de w
  refine ⟨by rw [performed.pae]; exact spared, ?_⟩
  rw [performed.log]
  intro entry member
  rcases List.mem_append.mp member with old | new
  · exact log entry old
  · obtain ⟨call, made, rfl⟩ := List.mem_map.mp new
    exact performed.outcome.never_critical uncritical call made

theorem Calm.dispatch (calm : Calm w) (uncritical : de.effect.Uncritical) {follow : Option Event}
    (done : (dispatch deps de w).1 = .ok follow) : Calm (dispatch deps de w).2 := by
  obtain ⟨port, nothing, held⟩ := calm
  obtain ⟨calls, performed⟩ := dispatch_performed deps de w
  refine ⟨?_, nothingOutstanding_dispatch deps nothing done, held.dispatch deps uncritical⟩
  rw [performed.pae]
  exact port

theorem Expecting.act (expecting : Expecting task (de :: rest) queue w) {follow : Option Event}
    (done : (dispatch deps de w).1 = .ok follow) :
    Expecting task rest (queue ++ (follow.map fun event => (de.mac.getD task.1, event)).toList)
      (dispatch deps de w).2 := by
  obtain ⟨calm, uncritical, aimed, pend⟩ := expecting
  obtain ⟨calls, performed⟩ := dispatch_performed deps de w
  refine ⟨calm.dispatch (uncritical de List.mem_cons_self) done,
    fun later member => uncritical later (List.mem_cons_of_mem _ member),
    fun later member => aimed later (List.mem_cons_of_mem _ member), ?_⟩
  rw [performed.pae]
  cases pend with
  | asking order unanswered alone =>
      cases asked : de.asks with
      | none =>
          obtain rfl := dispatch_quiet_follow deps asked done
          refine .asking order.2 ?_ ?_
          · rintro ⟨later, member, asks⟩
            exact unanswered ⟨later, List.mem_cons_of_mem _ member, asks⟩
          · intro mac waiting
            obtain ⟨own, later, member, asks⟩ := alone mac waiting
            rcases List.mem_cons.mp member with rfl | behind
            · rw [asked] at asks
              cases asks
            · exact ⟨own, later, behind, asks⟩
      | some mac =>
          obtain ⟨event, rfl, reply⟩ := reply_of_asks deps asked done
          have asks := DirectedEffect.isRequest_of_asks asked
          obtain ⟨-, directed⟩ := aimed de List.mem_cons_self mac asked
          rw [directed]
          exact .awaiting event reply (unanswered ⟨de, List.mem_cons_self, asks⟩)
            (fun other waiting => (alone other waiting).1) (order.1 asks)
  | awaiting event reply unanswered alone arms =>
      obtain ⟨kind, arm⟩ := arms de List.mem_cons_self
      have none_ : (dispatch deps de w).1 = .ok none := performed.outcome.timers (Or.inl ⟨kind, arm⟩)
      rw [none_] at done
      cases done
      exact .awaiting event reply unanswered alone fun later member =>
        arms later (List.mem_cons_of_mem _ member)

theorem keeps_expecting (deps : Deps ω) :
    (eventQueue deps).Keeps (fun _ _ _ => True) Expected Expecting Uncritical := by
  refine eventQueue_keeps (fun _ _ _ expected => .enter expected) ?_ ?_ ?_
  · intro task de rest queue w follow expecting done
    exact expecting.act done
  · intro task de rest queue w e expecting _ _
    exact expecting.calm.uncritical.dispatch deps (expecting.uncritical de List.mem_cons_self)
  · intro task queue w expecting
    refine ⟨expecting.calm, ?_⟩
    cases expecting.pend with
    | asking order unanswered alone =>
        refine ⟨by simp, fun mac waiting => ?_⟩
        obtain ⟨-, de, member, -⟩ := alone mac waiting
        cases member
    | awaiting event reply unanswered alone arms =>
        refine ⟨by simp, fun mac waiting => ?_⟩
        obtain rfl := alone mac waiting
        exact ⟨event, rfl, reply⟩

omit [RadiusProto] in
theorem Expecting.falls (expecting : Expecting task [] queue w) (others : List (MacAddr × Event)) :
    queueWeight queue < queueWeight (task :: others) := by
  have here := taskWeight_bounds task
  have most := queueWeight_cons task others
  cases expecting.pend with
  | asking =>
      have none_ : queueWeight [] = 0 := rfl
      omega
  | awaiting event reply unanswered alone arms =>
      have follow := (taskWeight_bounds (task.1, event)).2.2.mp reply
      have one := queueWeight_singleton (task.1, event)
      have two : taskWeight task ≠ 1 := fun same => unanswered (here.2.2.mpr same)
      omega

end Invariant

/-! ## Whole runs -/

/-- Nobody waits, and nobody was put into the critical VLAN. -/
def Quiet {ω : Type} (w : World ω) : Prop := Calm w ∧ ∀ mac, ¬ w.pae.Waiting mac

section Quiet

variable {ω : Type} {w : World ω}

theorem Quiet.expected (quiet : Quiet w) (mac : MacAddr) (event : Event) :
    Expected [(mac, event)] w :=
  ⟨quiet.1, by simp, fun other waiting => absurd waiting (quiet.2 other)⟩

theorem Expected.quiet (expected : Expected [] w) : Quiet w := by
  obtain ⟨calm, -, waits⟩ := expected
  refine ⟨calm, fun mac waiting => ?_⟩
  obtain ⟨event, same, -⟩ := waits mac waiting
  cases same

theorem Quiet.unseen (quiet : Quiet w) (env : ω) : Quiet { w with env := env } :=
  ⟨⟨quiet.1.port, quiet.1.nothing, quiet.1.uncritical.spared, quiet.1.uncritical.log⟩, quiet.2⟩

theorem quiet_start (port : String) (ctxTemplate : RequestContext) (cfg : PaeConfig) (env : ω) :
    Quiet (.start port ctxTemplate cfg env) := by
  refine ⟨⟨⟨_, .new cfg⟩, fun _ => rfl, ?_, ?_⟩, ?_⟩
  · intro mac s found
    cases found
  · intro entry member
    cases member
  · rintro mac ⟨s, found, -⟩
    cases found

variable [RadiusProto] {deps : Deps ω}

/-- The command that closes the port disturbs nobody. -/
theorem Quiet.shut (quiet : Quiet w) :
    Prog.Ends (fun _ w' => Quiet w') Uncritical
      (dispatch deps ⟨none, .setAuthorization .unauthorized⟩ w) := by
  have uncritical : Effect.Uncritical (.setAuthorization .unauthorized) := by
    intro vlan same
    cases same
  generalize known : (⟨none, .setAuthorization .unauthorized⟩ : DirectedEffect) = de
  replace uncritical : de.effect.Uncritical := known ▸ uncritical
  obtain ⟨calls, performed⟩ := dispatch_performed deps de w
  have left := quiet.1.uncritical.dispatch deps uncritical
  have pae := performed.pae
  cases ran : dispatch deps de w with
  | mk result w' =>
      rw [ran] at left pae
      cases result with
      | ok follow =>
          have calm := quiet.1.dispatch uncritical (congrArg Prod.fst ran)
          rw [ran] at calm
          refine ⟨calm, fun mac waiting => quiet.2 mac ?_⟩
          rwa [← pae]
      | error e => exact left

end Quiet

section Runs

variable {ω : Type} [RadiusProto] (base : Deps ω) (opening : Opening ω) (port : String)
  (ctxTemplate : RequestContext) (cfg : PaeConfig) (schedule : List (List (Background TimerKey)))
  (env : ω) (picks : List Pick)

theorem ends_quiet :
    Prog.Ends (fun _ w => Quiet w) Uncritical
      (runPortUntilError base opening port cfg picks
        (.start port ctxTemplate cfg ⟨.new, schedule, env⟩)) := by
  have events : KeepsEvents (onTokio base) (fun _ _ => Quiet) Quiet Uncritical :=
    keepsEvents_of_settles (keeps_expecting _) (fun _ others _ _ expecting => expecting.falls others)
      (fun mac event _ quiet => quiet.expected mac event) fun _ expected => expected.quiet
  refine ends_runPort events (Unmoved.rounds fun _ _ _ quiet => quiet.unseen _)
    (fun _ quiet => quiet.1.uncritical) ⟨fun _ quiet => quiet.unseen _, fun _ quiet => quiet.unseen _⟩
    cfg picks (fun w quiet => ends_applyEffects (fun de member w quiet => ?_) quiet)
    (quiet_start port ctxTemplate cfg _)
  rw [List.mem_singleton.mp member]
  exact quiet.shut

/-- **Between two rounds nothing waits.**  Whenever `run_port` is back at `select!`, whatever the
boundaries answered and whenever the timers fired: no session is in `AuthServer`, and none has
a request outstanding. -/
theorem port_quiescent {w : World (Runtime ω)}
    (ran : runPortUntilError base opening port cfg picks
      (.start port ctxTemplate cfg ⟨.new, schedule, env⟩) = (.ok (), w)) :
    (∀ mac s, w.pae.session mac = some s → s.state ≠ .authServer) ∧
      ∀ mac, (w.orch.session mac).radius.pending = none := by
  have ended := ends_quiet base opening port ctxTemplate cfg schedule env picks
  rw [ran] at ended
  obtain ⟨calm, idle⟩ := ended
  exact ⟨fun mac s found waiting => idle mac ⟨s, found, waiting⟩, calm.nothing⟩

/-- **The critical VLAN is never entered.**  In every run of `run_port`, whatever the boundaries
answer and whenever the timers fire, no authorization that is applied is the critical fallback,
and no session ever is in it: a server that fails ends the run instead. -/
theorem critical_vlan_unreachable :
    let run := runPortUntilError base opening port cfg picks
      (.start port ctxTemplate cfg ⟨.new, schedule, env⟩)
    (∀ entry ∈ run.2.log, ∀ target vlan result,
      entry.call ≠ .apply target (.fallback .critical vlan) result) ∧
    ∀ mac s, run.2.pae.session mac = some s → s.state ≠ .fallback .critical := by
  intro run
  have ended : Prog.Ends (fun _ w => Quiet w) Uncritical run :=
    ends_quiet base opening port ctxTemplate cfg schedule env picks
  cases outcome : run with
  | mk result w =>
      rw [outcome] at ended
      cases result with
      | ok u => exact ⟨ended.1.uncritical.log, ended.1.uncritical.spared⟩
      | error e => exact ⟨ended.log, ended.spared⟩

end Runs

section Witness

attribute [local instance] Site.proto

/-- A silent station, from the start of its port until the server let it in by its address. -/
def bypassedRun : Except AuthdError Unit × World (Runtime Site.Script) :=
  runPortUntilError Site.deps Site.opening "Ethernet4" Site.config
    [.source (.frame startFrame), .source .timer]
    (.start "Ethernet4" Site.context Site.config
      ⟨.new, expiry, ⟨[.ok Site.accept], [.ok ()]⟩⟩)

/-- The server was asked and answered, and nothing waits for it any more. -/
theorem port_quiescent_bypass :
    bypassedRun.1 = .ok () ∧
      (∃ s ∈ bypassedRun.2.pae.sessions, s.state = .authenticated) ∧
      (∀ mac s, bypassedRun.2.pae.session mac = some s → s.state ≠ .authServer) ∧
      ∀ mac, (bypassedRun.2.orch.session mac).radius.pending = none := by
  have pair : ∀ r : Except AuthdError Unit × World (Runtime Site.Script),
      r.1 = .ok () → r = (.ok (), r.2) := fun _ ended => Prod.ext ended rfl
  have done : bypassedRun = (.ok (), bypassedRun.2) := pair bypassedRun (by decide +kernel)
  refine ⟨by decide +kernel, by decide +kernel, ?_⟩
  exact port_quiescent Site.deps Site.opening "Ethernet4" Site.context Site.config expiry
    ⟨[.ok Site.accept], [.ok ()]⟩ _ done

end Witness

end Authenticator.Authd
