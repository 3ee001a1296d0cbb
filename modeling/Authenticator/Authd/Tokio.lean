/-
# Authd.Tokio -- the port loop with its timers

The scheduler of a port spawns a task for every timer, which sleeps and then sends the expiry
over the channel of the loop; the loop takes a frame or an expiry, whichever `select!` picks.
Tasks run beside the loop: they may wake up and send at any moment, also while a boundary call
is awaited.  `Runtime.schedule` is what they do, in the order the moments come up, so a result
for every schedule is one for every interleaving.

An abort cannot recall an expiry that is on its way.  `timers_live` says that this is the only
way a timer that was cancelled or armed anew still acts; `superseded_timer_acts` that it does.
-/
import Authenticator.Theory.Timers
import Authenticator.Authd.Worker

namespace Authenticator.Authd

set_option autoImplicit false

open Authenticator.Pacp Authenticator.Pae Authenticator.Radius Authenticator.Theory
open Authenticator.Theory.Timers

abbrev TimerKey := MacAddr × TimerKind

/-- The handles, the tasks and the channel of a port. -/
abbrev TokioScheduler := Wheel TimerKey

namespace TokioScheduler

/-- Spawn a task for the timer; the one it replaces is aborted.  The task may wake up at any
moment from now on, whatever the duration. -/
def arm (mac : MacAddr) (kind : TimerKind) (_secs : Nat) (s : TokioScheduler) : TokioScheduler :=
  Wheel.arm (mac, kind) s

def cancel (mac : MacAddr) (kind : TimerKind) (s : TokioScheduler) : TokioScheduler :=
  Wheel.disarm [(mac, kind)] s

/-- The keys of one MAC. -/
def keysOf (mac : MacAddr) : List TimerKey :=
  [(mac, .txPeriod), (mac, .held), (mac, .reauth), (mac, .serverTimeout), (mac, .suppTimeout),
    (mac, .sessionTimeout)]

def cancelAll (mac : MacAddr) (s : TokioScheduler) : TokioScheduler := Wheel.disarm (keysOf mac) s

end TokioScheduler

/-- The scheduler, what its tasks will do beside the loop, and the rest of the environment. -/
structure Runtime (ω : Type) where
  scheduler : TokioScheduler
  schedule : List (List (Background TimerKey))
  env : ω

section Code

variable {ω : Type}

/-- Let the tasks run until the next moment. -/
def Runtime.interlude (r : Runtime ω) : Runtime ω :=
  match r.schedule with
  | [] => r
  | actions :: rest =>
      { r with scheduler := actions.foldl Background.run r.scheduler, schedule := rest }

/-- A boundary call; the tasks run meanwhile. -/
def awaiting {ε α : Type} (m : Prog ε ω α) : Prog ε (Runtime ω) α := fun r =>
  ((m r.interlude.env).1, { r.interlude with env := (m r.interlude.env).2 })

/-- A call of the scheduler. -/
def scheduling (f : TokioScheduler → TokioScheduler) (r : Runtime ω) : Runtime ω :=
  { r.interlude with scheduler := f r.interlude.scheduler }

/-- The boundaries of `base`, with the tokio scheduler in place of its scheduler. -/
def onTokio (base : Deps ω) : Deps (Runtime ω) where
  sendEap mac eap := awaiting (base.sendEap mac eap)
  accessRequest request := awaiting (base.accessRequest request)
  accounting request := awaiting (base.accounting request)
  apply port target auth := awaiting (base.apply port target auth)
  arm mac kind secs := scheduling (TokioScheduler.arm mac kind secs)
  cancel mac kind := scheduling (TokioScheduler.cancel mac kind)
  cancelAll mac := scheduling (TokioScheduler.cancelAll mac)
  generateRequestAuthenticator r :=
    ((base.generateRequestAuthenticator r.interlude.env).1,
      { r.interlude with env := (base.generateRequestAuthenticator r.interlude.env).2 })
  timers := base.timers
  secret := base.secret

/-- What `select!` picks. -/
inductive Source where
  | frame (bytes : Bytes)
  | timer
  deriving DecidableEq, Repr

variable [RadiusProto] (base : Deps ω)

/-- One round of the loop; with an empty channel there is no expiry to pick. -/
def turn (source : Source) : Prog AuthdError (World (Runtime ω)) Unit := fun w =>
  let w := { w with env := w.env.interlude }
  match source with
  | .frame bytes => dispatchFrame (onTokio base) bytes w
  | .timer =>
      match w.env.scheduler.take with
      | none => (.ok (), w)
      | some (task, scheduler) =>
          handleEvent (onTokio base) task.key.1 (.timer task.key.2)
            { w with env := { w.env with scheduler := scheduler } }

/-- The loop goes on whatever a round returns, so it covers the loop that stops at the first
error. -/
def loop (w : World (Runtime ω)) : List Source → World (Runtime ω)
  | [] => w
  | source :: rest => loop (turn base source w).2 rest

/-- `run_port`, from the moment its socket is open. -/
def runPort (port : String) (ctxTemplate : RequestContext) (cfg : PaeConfig)
    (schedule : List (List (Background TimerKey))) (env : ω) (sources : List Source) :
    World (Runtime ω) :=
  loop base (applyEffects (onTokio base) (PortPae.new cfg).enable
    (.start port ctxTemplate cfg ⟨.new, schedule, env⟩)).2 sources

end Code

/-! ## The scheduler of every run is sound -/

section Soundness

variable {ω : Type}

def Runtime.Sound (r : Runtime ω) : Prop := Timers.Sound r.scheduler

theorem Runtime.Sound.interlude {r : Runtime ω} (sound : r.Sound) : r.interlude.Sound := by
  unfold Runtime.interlude
  split
  · exact sound
  · exact Timers.Sound.background sound _

theorem onTokio_keeps (base : Deps ω) : (onTokio base).Keeps Runtime.Sound where
  sendEap _ _ _ sound := sound.interlude
  accessRequest _ _ sound := sound.interlude
  accounting _ _ sound := sound.interlude
  apply _ _ _ _ sound := sound.interlude
  arm mac kind _ _ sound := Timers.Sound.arm sound.interlude (mac, kind)
  cancel mac kind _ sound := Timers.Sound.disarm sound.interlude [(mac, kind)]
  cancelAll mac _ sound := Timers.Sound.disarm sound.interlude (TokioScheduler.keysOf mac)
  generate _ sound := sound.interlude

variable [RadiusProto] (base : Deps ω)

theorem sound_turn (source : Source) {w : World (Runtime ω)} (sound : w.env.Sound) :
    (turn base source w).2.env.Sound := by
  cases source with
  | frame bytes => exact dispatchFrame_env (onTokio_keeps base) bytes sound.interlude
  | timer =>
      unfold turn
      dsimp only
      split
      · exact sound.interlude
      · rename_i task scheduler taken
        have left : Runtime.Sound { w.env.interlude with scheduler := scheduler } :=
          Timers.Sound.take sound.interlude taken
        exact handleEvent_env (onTokio_keeps base) task.key.1 (.timer task.key.2) left

theorem sound_loop (sources : List Source) {w : World (Runtime ω)} (sound : w.env.Sound) :
    (loop base w sources).env.Sound := by
  induction sources generalizing w with
  | nil => exact sound
  | cons source rest ih => exact ih (sound_turn base source sound)

theorem sound_runPort (port : String) (ctxTemplate : RequestContext) (cfg : PaeConfig)
    (schedule : List (List (Background TimerKey))) (env : ω) (sources : List Source) :
    (runPort base port ctxTemplate cfg schedule env sources).env.Sound := by
  refine sound_loop base sources ?_
  rw [PortPae.enable, applyEffects_singleton]
  obtain ⟨calls, performed⟩ := dispatch_performed (onTokio base)
    ⟨none, .setAuthorization .unauthorized⟩ (.start port ctxTemplate cfg ⟨.new, schedule, env⟩)
  have start : Runtime.Sound (⟨.new, schedule, env⟩ : Runtime ω) := sound_new
  exact performed.outcome.env (onTokio_keeps base) start

end Soundness

/-! ## The main result -/

/-- **An abort recalls a timer until its task wakes up, and not after.**  In every run of the
loop, under every schedule of the tasks: as long as no timer is cancelled or armed while an
expiry of it is on its way, every expiry that is handled is that of a timer neither cancelled
nor armed anew since it was armed.  In any run, an expiry is that of such a timer exactly when
the timer was neither cancelled nor armed anew since its task woke up. -/
theorem timers_live {ω : Type} [RadiusProto] (base : Deps ω) (port : String)
    (ctxTemplate : RequestContext) (cfg : PaeConfig)
    (schedule : List (List (Background TimerKey))) (env : ω) (sources : List Source) :
    let history := (runPort base port ctxTemplate cfg schedule env sources).env.scheduler.history
    (Never Recalls history → ∀ before t after, history = before ++ .taken t :: after →
      Live t before) ∧
    ∀ before t after, history = before ++ .taken t :: after → (Live t before ↔ Unrecalled t before) := by
  have sound : Timers.Sound _ := sound_runPort base port ctxTemplate cfg schedule env sources
  exact ⟨fun punctual _ _ _ split => sound.taken_live punctual split,
    fun _ _ _ split => sound.taken_live_iff split⟩

section Witness

attribute [local instance] Site.proto

/-- An EAPOL-Start of the station. -/
def startFrame : Bytes :=
  [0x01, 0x80, 0xc2, 0x00, 0x00, 0x03] ++ Site.station.toList ++ [0x88, 0x8e, 3, 1, 0, 0]

/-- The `id`-th timer of a run, the `tx-period` of the station. -/
def prompt (id : Nat) : Timers.Task TimerKey := ⟨id, (Site.station, .txPeriod)⟩

/-- The first timer of the run expires before the second round of the loop. -/
def expiry : List (List (Background TimerKey)) :=
  [[], [], [], [], [], [.expires (prompt 0), .sends (prompt 0)]]

/-- A station that shows up and is prompted again. -/
def prompted : List (Moment TimerKey) :=
  [.armed (prompt 0), .fired (prompt 0), .taken (prompt 0), .armed (prompt 1)]

theorem punctual_prompted : Never Recalls prompted := by
  have start : Never Recalls ([] : List (Moment TimerKey)) := never_nil
  have armed : Never Recalls ([] ++ [Moment.armed (prompt 0)]) :=
    never_concat.mpr ⟨start, by simp [Recalls]⟩
  have fired := never_concat.mpr ⟨armed, show ¬ Recalls _ (.fired (prompt 0)) by
    simp [Recalls, Moment.Undoes]⟩
  have taken := never_concat.mpr ⟨fired, show ¬ Recalls _ (.taken (prompt 0)) by
    simp [Recalls, Moment.Undoes]⟩
  exact never_concat.mpr ⟨taken, show ¬ Recalls _ (.armed (prompt 1)) by simp [Recalls]⟩

/-- The prompt of the station expires and is handled, and it was the one in force. -/
theorem timers_live_prompt :
    (runPort Site.deps "Ethernet4" Site.context {} expiry ⟨[], []⟩
      [.frame startFrame, .timer]).env.scheduler.history = prompted ∧
      Live (prompt 0) [.armed (prompt 0), .fired (prompt 0)] := by
  have history : (runPort Site.deps "Ethernet4" Site.context {} expiry ⟨[], []⟩
      [.frame startFrame, .timer]).env.scheduler.history = prompted := by decide +kernel
  refine ⟨history, ?_⟩
  have live := (timers_live Site.deps "Ethernet4" Site.context {} expiry ⟨[], []⟩
    [.frame startFrame, .timer]).1
  rw [history] at live
  exact live punctual_prompted [.armed (prompt 0), .fired (prompt 0)] (prompt 0)
    [.armed (prompt 1)] rfl

/-- The station sends a second EAPOL-Start after its prompt expired and before the loop takes
the expiry: the timer is armed anew, and the expiry of the old one is handled all the same. -/
theorem superseded_timer_acts :
    ¬ ∀ (base : Deps Site.Script) (port : String) (ctxTemplate : RequestContext) (cfg : PaeConfig)
      (schedule : List (List (Background TimerKey))) (env : Site.Script) (sources : List Source),
      ∀ before t after,
        (runPort base port ctxTemplate cfg schedule env sources).env.scheduler.history =
          before ++ .taken t :: after → Live t before := by
  intro claim
  have live := claim Site.deps "Ethernet4" Site.context {} expiry ⟨[], []⟩
    [.frame startFrame, .frame startFrame, .timer]
    ([.armed (prompt 0), .fired (prompt 0)] ++ [.armed (prompt 1)]) (prompt 0) [.armed (prompt 2)]
    (by decide +kernel)
  rcases since_concat.mp live with same | ⟨-, calm⟩
  · cases same
  · exact calm rfl

end Witness

end Authenticator.Authd
