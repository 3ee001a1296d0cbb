/-
# Pae.Prompts -- how often a silent endpoint is prompted

In `Connecting` every `txPeriod` expiry, EAPOL-Start and link-up sends another
EAP-Request/Identity, but only an expiry is counted against `maxReauthReq`.  The first
prompt is counted on the way in, and the bound is read before the count is raised, so a
bound of zero still allows one expiry.

`run_prompting` is the run of a session nobody answers, from any count it starts with:
the state it leaves and the frames it sends.  `silent_endpoint_prompted` reads it from the
two ways into `Connecting`, a new session and a re-authentication.
-/
import Authenticator.Pae.SessionPosture

namespace Authenticator.Pae

set_option autoImplicit false

open Authenticator.Pacp Authenticator.Theory

/-- What a port sees of an endpoint that never answers a prompt. -/
def Event.Unanswering : Event → Prop
  | .timer .txPeriod | .eapolStart | .linkUp => True
  | _ => False

/-- The expiries among the events. -/
def expiries (events : List Event) : Nat := events.count (.timer .txPeriod)

/-- `n` prompts in a row after the Identifier `id`, each one above the one before, modulo
256. -/
def prompts (id : UInt8) : Nat → List Effect
  | 0 => []
  | n + 1 =>
      .txEapToSupplicant (requestIdentity (id + 1)) :: .armTimer .txPeriod :: prompts (id + 1) n

namespace PortSession

variable {cfg : PaeConfig} {s : PortSession} {event : Event}

/-- An event of a silent endpoint other than an expiry prompts again, uncounted. -/
theorem step_prompts_uncounted (soliciting : s.state = .connecting)
    (unanswering : event.Unanswering) (uncounted : event ≠ .timer .txPeriod) :
    s.step event cfg = s.sendIdentity := by
  unfold Event.Unanswering at unanswering
  split at unanswering
  · exact absurd rfl uncounted
  · simp [step, soliciting, inConnecting]
  · simp [step, soliciting, inConnecting]
  · cases unanswering

theorem step_prompts_counted (soliciting : s.state = .connecting)
    (below : s.txCount < cfg.maxReauthReq) :
    s.step (.timer .txPeriod) cfg =
      { s with txCount := saturatingSucc s.txCount }.sendIdentity := by
  simp [step, soliciting, inConnecting, below]

theorem step_prompts_spent (soliciting : s.state = .connecting)
    (spent : ¬ s.txCount < cfg.maxReauthReq) :
    s.step (.timer .txPeriod) cfg = s.noSupplicant cfg := by
  simp [step, soliciting, inConnecting, spent]

end PortSession

/-- The session goes on being prompted, with `count` prompts counted. -/
structure Prompting (s : PortSession) (count : Nat) (opened : Bool) (mac : MacAddr) : Prop where
  soliciting : s.state = .connecting
  counted : s.txCount.toNat = count
  accounting : s.accountingOpen = opened
  address : s.mac = mac

section Runs

variable {cfg : PaeConfig} {s : PortSession} {opened : Bool} {mac : MacAddr}

/-- **The run of a silent endpoint.**  As long as the expiries do not pass the bound, the
session stays in `Connecting`, counts them, and prompts once for every event. -/
theorem run_prompting (events : List Event) {count : Nat} (started : Prompting s count opened mac)
    (silent : ∀ event ∈ events, event.Unanswering)
    (within : expiries events = 0 ∨ count + expiries events ≤ cfg.maxReauthReq.toNat) :
    Prompting ((sessionMachine cfg).run s events).1 (count + expiries events) opened mac ∧
      ((sessionMachine cfg).run s events).2 = prompts s.eapId events.length := by
  induction events generalizing s count with
  | nil => exact ⟨started, rfl⟩
  | cons event rest ih =>
      have here := silent event List.mem_cons_self
      have later := fun next (member : next ∈ rest) => silent next (List.mem_cons_of_mem _ member)
      show Prompting ((sessionMachine cfg).run (s.step event cfg).1 rest).1 _ _ _ ∧
        (s.step event cfg).2 ++ ((sessionMachine cfg).run (s.step event cfg).1 rest).2 = _
      by_cases expiry : event = .timer .txPeriod
      · subst expiry
        have total : expiries (.timer .txPeriod :: rest) = expiries rest + 1 := by
          simp [expiries]
        have below : s.txCount < cfg.maxReauthReq := by
          rw [UInt32.lt_iff_toNat_lt, started.counted]
          omega
        rw [PortSession.step_prompts_counted started.soliciting below, total]
        have next : Prompting { s with txCount := saturatingSucc s.txCount }.sendIdentity.1
            (count + 1) opened mac :=
          ⟨started.soliciting, by rw [← started.counted]; exact saturatingSucc_toNat below,
            started.accounting, started.address⟩
        obtain ⟨reached, sent⟩ := ih next later (by omega)
        refine ⟨?_, ?_⟩
        · rw [show count + (expiries rest + 1) = count + 1 + expiries rest by omega]
          exact reached
        · rw [sent]
          rfl
      · have total : expiries (event :: rest) = expiries rest := by
          simp [expiries, List.count_cons_of_ne expiry]
        rw [PortSession.step_prompts_uncounted started.soliciting here expiry, total]
        have next : Prompting s.sendIdentity.1 count opened mac :=
          ⟨started.soliciting, started.counted, started.accounting, started.address⟩
        obtain ⟨reached, sent⟩ := ih next later (by omega)
        refine ⟨reached, ?_⟩
        rw [sent]
        rfl

/-- The expiry that finds the bound reached ends the prompting. -/
theorem Prompting.spent (cfg : PaeConfig) {count : Nat} (reached : Prompting s count opened mac)
    (bound : cfg.maxReauthReq.toNat ≤ count) :
    s.step (.timer .txPeriod) cfg = s.noSupplicant cfg := by
  refine PortSession.step_prompts_spent reached.soliciting ?_
  rw [UInt32.lt_iff_toNat_lt, reached.counted]
  omega

/-- An open session is torn down by it. -/
theorem Prompting.teardown (cfg : PaeConfig) {count : Nat} (reached : Prompting s count true mac)
    (bound : cfg.maxReauthReq.toNat ≤ count) :
    (s.step (.timer .txPeriod) cfg).1.state = .new ∧
      (s.step (.timer .txPeriod) cfg).2 =
        [.accounting (.stop .reauthFailure), .cancelAllTimers, .setAuthorization .unauthorized] := by
  rw [reached.spent cfg bound]
  simp [PortSession.noSupplicant, reached.accounting, PortSession.teardown, reached.soliciting]

/-- A session that was not open starts MAB, enters the guest VLAN or is held by it. -/
theorem Prompting.gives_up (cfg : PaeConfig) {count : Nat} (reached : Prompting s count false mac)
    (bound : cfg.maxReauthReq.toNat ≤ count) :
    let last := s.step (.timer .txPeriod) cfg
    (cfg.mabEnabled = true →
      last.1.state = .authServer ∧
        last.2 = [.cancelTimer .txPeriod, .startMab mac, .armTimer .serverTimeout]) ∧
    (cfg.mabEnabled = false → ∀ vlan, cfg.guestVlan = some vlan →
      last.1.state = .fallback .guest ∧
        last.2 = [.cancelAllTimers, .setAuthorization (.fallback .guest (some vlan))]) ∧
    (cfg.mabEnabled = false → cfg.guestVlan = none →
      last.1.state = .held ∧
        last.2 = [.cancelAllTimers, .setAuthorization .unauthorized, .armTimer .held]) := by
  intro last
  have ends : last = s.noSupplicant cfg := reached.spent cfg bound
  rw [ends]
  refine ⟨?_, ?_, ?_⟩
  · intro bypass
    simp [PortSession.noSupplicant, reached.accounting, bypass, reached.address]
  · intro unbypassed vlan configured
    simp [PortSession.noSupplicant, reached.accounting, unbypassed, configured,
      PortSession.enterFallback]
  · intro unbypassed unconfigured
    simp [PortSession.noSupplicant, reached.accounting, unbypassed, unconfigured, PortSession.hold]

/-- A silent endpoint after the event that first prompts it. -/
theorem run_prompting_after (opening : Event) (events : List Event)
    (entered : Prompting (s.step opening cfg).1 1 opened mac)
    (silent : ∀ event ∈ events, event.Unanswering)
    (few : expiries events < max 1 cfg.maxReauthReq.toNat) :
    Prompting ((sessionMachine cfg).run s (opening :: events)).1 (expiries events + 1) opened mac ∧
      ((sessionMachine cfg).run s (opening :: events)).2 =
        (s.step opening cfg).2 ++ prompts (s.step opening cfg).1.eapId events.length := by
  have within : expiries events = 0 ∨ 1 + expiries events ≤ cfg.maxReauthReq.toNat := by omega
  obtain ⟨reached, sent⟩ := run_prompting events entered silent within
  rw [Nat.add_comm] at reached
  refine ⟨reached, ?_⟩
  rw [← sent]
  rfl

/-- **A silent endpoint is prompted `max 1 maxReauthReq` times.**  After `enable`, the
session is still prompted as long as fewer prompts have expired, one Request/Identity for
each event, each with the next Identifier; the expiry that reaches the bound starts MAB if
it is enabled, else enters the guest VLAN if there is one, else holds the port.  A
re-authentication is counted the same way, and the same expiry tears the open session
down. -/
theorem silent_endpoint_prompted (cfg : PaeConfig) (s : PortSession) (events : List Event)
    (silent : ∀ event ∈ events, event.Unanswering) :
    (expiries events < max 1 cfg.maxReauthReq.toNat →
      let run := (sessionMachine cfg).run s (.enable :: events)
      run.1.state = .connecting ∧ run.1.txCount.toNat = expiries events + 1 ∧
        run.2 = .setAuthorization .unauthorized :: prompts s.eapId (events.length + 1)) ∧
    (expiries events + 1 = max 1 cfg.maxReauthReq.toNat →
      let last := ((sessionMachine cfg).run s (.enable :: events)).1.step (.timer .txPeriod) cfg
      (cfg.mabEnabled = true →
        last.1.state = .authServer ∧
          last.2 = [.cancelTimer .txPeriod, .startMab s.mac, .armTimer .serverTimeout]) ∧
      (cfg.mabEnabled = false → ∀ vlan, cfg.guestVlan = some vlan →
        last.1.state = .fallback .guest ∧
          last.2 = [.cancelAllTimers, .setAuthorization (.fallback .guest (some vlan))]) ∧
      (cfg.mabEnabled = false → cfg.guestVlan = none →
        last.1.state = .held ∧
          last.2 = [.cancelAllTimers, .setAuthorization .unauthorized, .armTimer .held])) ∧
    (∀ opening ∈ [Event.timer .reauth, .eapolStart, .coaReauthenticate],
      s.state = .authenticated → s.accountingOpen = true →
      let run := (sessionMachine cfg).run s (opening :: events)
      (expiries events < max 1 cfg.maxReauthReq.toNat →
        run.1.state = .connecting ∧ run.1.txCount.toNat = expiries events + 1 ∧
          run.1.accountingOpen = true ∧
          run.2 = .cancelTimer .reauth :: prompts s.eapId (events.length + 1)) ∧
      (expiries events + 1 = max 1 cfg.maxReauthReq.toNat →
        (run.1.step (.timer .txPeriod) cfg).1.state = .new ∧
          (run.1.step (.timer .txPeriod) cfg).2 =
            [.accounting (.stop .reauthFailure), .cancelAllTimers,
              .setAuthorization .unauthorized])) := by
  have enabled : Prompting (s.step .enable cfg).1 1 false s.mac := ⟨rfl, rfl, rfl, rfl⟩
  refine ⟨?_, ?_, ?_⟩
  · intro few
    obtain ⟨reached, sent⟩ := run_prompting_after .enable events enabled silent few
    exact ⟨reached.soliciting, reached.counted, sent⟩
  · intro all
    obtain ⟨reached, -⟩ := run_prompting_after .enable events enabled silent (by omega)
    exact reached.gives_up cfg (by omega)
  · intro opening member running opened
    have begun : s.step opening cfg = s.beginReauth := by
      simp only [List.mem_cons, List.not_mem_nil, or_false] at member
      rcases member with rfl | rfl | rfl <;>
        simp [PortSession.step, running, PortSession.inAuthenticated]
    have started : Prompting (s.step opening cfg).1 1 true s.mac := by
      rw [begun]
      exact ⟨rfl, rfl, opened, rfl⟩
    refine ⟨?_, ?_⟩
    · intro few
      obtain ⟨reached, sent⟩ := run_prompting_after opening events started silent few
      rw [begun] at sent
      exact ⟨reached.soliciting, reached.counted, reached.accounting, sent⟩
    · intro all
      obtain ⟨reached, -⟩ := run_prompting_after opening events started silent (by omega)
      exact reached.teardown cfg (by omega)

end Runs

/-- A session that was granted, on a port that tries MAB after two expiries: silent after
`enable`, and silent when it is re-authenticated. -/
theorem silent_endpoint_prompted_twice :
    let cfg : PaeConfig := { mabEnabled := true }
    let granted : PortSession :=
      { PortSession.new (Vector.replicate 6 1) with state := .authenticated, accountingOpen := true }
    let quiet : List Event := [.eapolStart, .timer .txPeriod, .linkUp]
    let new := (sessionMachine cfg).run granted (.enable :: quiet)
    let again := (sessionMachine cfg).run granted (.coaReauthenticate :: quiet)
    new.1.txCount.toNat = 2 ∧ (new.1.step (.timer .txPeriod) cfg).1.state = .authServer ∧
      again.1.txCount.toNat = 2 ∧ (again.1.step (.timer .txPeriod) cfg).1.state = .new := by
  intro cfg granted quiet new again
  have silent : ∀ event ∈ quiet, event.Unanswering := by
    intro event member
    simp only [quiet, List.mem_cons, List.not_mem_nil, or_false] at member
    rcases member with rfl | rfl | rfl <;> exact trivial
  obtain ⟨few, last, reauth⟩ := silent_endpoint_prompted cfg granted quiet silent
  obtain ⟨fewOpen, lastOpen⟩ := reauth .coaReauthenticate (by simp) rfl rfl
  exact ⟨(few (by decide)).2.1, ((last (by decide)).1 rfl).1, (fewOpen (by decide)).2.1,
    (lastOpen (by decide)).1⟩

end Authenticator.Pae
