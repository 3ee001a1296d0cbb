/-
# Pae.Fallback -- which fallback VLANs a port asks for

A reject, a silent supplicant and a server outage each park the port on a VLAN of the
configuration.  With MAB enabled a silent supplicant is tried by its address instead, so
the guest VLAN is never used.

`fallback_emitted_iff` says exactly which VLANs the runs of a port can ask for: each of
them is asked for by some run, and no run asks for another.
-/
import Authenticator.Pae.PortPosture

namespace Authenticator.Pae

set_option autoImplicit false

open Authenticator.Pacp Authenticator.Theory

/-- The VLAN the machine can park a port on for a reason. -/
def PaeConfig.fallbackInUse (cfg : PaeConfig) : FallbackReason → Option String
  | .guest => if cfg.mabEnabled then none else cfg.guestVlan
  | reason => cfg.fallbackVlan reason

/-! ## No other VLAN is asked for -/

namespace PortSession

variable {cfg : PaeConfig} {s : PortSession}

/-- With MAB enabled the guest VLAN is never read. -/
theorem step_guestVlan (bypass : cfg.mabEnabled = true) (event : Event) :
    s.step event cfg = s.step event { cfg with guestVlan := none } := by
  unfold step inConnecting noSupplicant
  simp only [bypass, if_true]
  rfl

/-- A fallback command names the VLAN configured for its reason. -/
theorem step_fallbackVlan {event : Event} {reason : FallbackReason} {vlan : Option String}
    (member : .setAuthorization (.fallback reason vlan) ∈ (s.step event cfg).2) :
    ∃ v, vlan = some v ∧ cfg.fallbackVlan reason = some v := by
  have moved := step_transition cfg s event
  generalize (s.step event cfg).1 = s', (s.step event cfg).2 = fx at moved member
  cases moved with
  | fellBack _ cause v eap live closed configured silent =>
      have same : reason = cause ∧ vlan = some v := by
        cases eap <;> cases cause <;> simpa [relay] using member
      exact ⟨v, same.2, same.1 ▸ configured⟩
  | solicited _ count cancel idle free cancels silent =>
      rcases cancels with rfl | ⟨kind, -, rfl⟩ <;> simp at member
  | enabled => simp [enable, after, sendIdentity] at member
  | authorized a eap asked => cases eap <;> simp [authorize] at member
  | survived => simp at member
  | held _ eap => cases eap <;> simp [relay] at member
  | tornDown _ cause eap live =>
      rw [(s.teardown_live cause live).2] at member
      cases eap <;> simp [relay] at member
  | expired running =>
      rw [(s.teardown_live .sessionTimeout (by simp [running])).2] at member
      simp at member
  | _ => simp at member

theorem step_fallback {event : Event} {reason : FallbackReason} {vlan : Option String}
    (member : .setAuthorization (.fallback reason vlan) ∈ (s.step event cfg).2) :
    ∃ v, vlan = some v ∧ cfg.fallbackInUse reason = some v := by
  obtain ⟨v, same, configured⟩ := step_fallbackVlan member
  refine ⟨v, same, ?_⟩
  cases reason with
  | guest =>
      cases bypass : cfg.mabEnabled with
      | false => simpa [PaeConfig.fallbackInUse, PaeConfig.fallbackVlan, bypass] using configured
      | true =>
          rw [step_guestVlan bypass] at member
          obtain ⟨_, -, unread⟩ := step_fallbackVlan member
          cases unread
  | authFail => exact configured
  | critical => exact configured

end PortSession

/-- The command of a fallback VLAN, whatever it is directed at. -/
def DirectedEffect.Parks (de : DirectedEffect) (reason : FallbackReason) (vlan : Option String) :
    Prop :=
  de.effect = .setAuthorization (.fallback reason vlan)

theorem mem_decorate {hostMode : HostMode} {mac : MacAddr} {fx : List Effect} {de : DirectedEffect}
    (member : de ∈ decorate hostMode mac fx) : de.effect ∈ fx := by
  obtain ⟨effect, inside, rfl⟩ := List.mem_map.mp member
  exact inside

theorem admitted_fallback {cfg : PaeConfig} {mac : MacAddr} {event : Event}
    {reason : FallbackReason} {vlan : Option String}
    (member : .setAuthorization (.fallback reason vlan) ∈ (admitted cfg mac event).2) :
    ∃ v, vlan = some v ∧ cfg.fallbackInUse reason = some v := by
  unfold admitted at member
  split at member
  · exact PortSession.step_fallback member
  · rcases List.mem_append.mp member with first | second
    · exact PortSession.step_fallback first
    · exact PortSession.step_fallback second

/-- Every fallback VLAN a call asks for is one in use. -/
theorem step_parks {p : PortPae} {input : PortInput} {de : DirectedEffect}
    {reason : FallbackReason} {vlan : Option String}
    (member : de ∈ (portMachine.step p input).2) (parks : de.Parks reason vlan) :
    ∃ v, vlan = some v ∧ p.cfg.fallbackInUse reason = some v := by
  cases input with
  | handle mac event =>
      have member : de ∈ (p.handle mac event).2 := member
      obtain ⟨_, s, _, -, -, same⟩ | ⟨-, -, same⟩ | ⟨-, -, same⟩ := p.handle_cases mac event
      · rw [same] at member
        exact PortSession.step_fallback (parks ▸ mem_decorate member)
      · rw [same] at member
        exact admitted_fallback (parks ▸ mem_decorate member)
      · rw [same] at member
        cases member
  | linkDown =>
      rcases List.mem_append.mp member with inside | last
      · obtain ⟨s, -, lowered⟩ := List.mem_flatMap.mp inside
        obtain ⟨effect, emitted, rfl⟩ := List.mem_map.mp lowered
        exact PortSession.step_fallback ((show effect = _ from parks) ▸ emitted)
      · rw [List.mem_singleton.mp last] at parks
        cases parks

theorem step_cfg (p : PortPae) (input : PortInput) : (portMachine.step p input).1.cfg = p.cfg := by
  cases input with
  | handle mac event => exact p.handle_cfg mac event
  | linkDown => rfl

theorem run_parks (inputs : List PortInput) {p : PortPae} {de : DirectedEffect}
    {reason : FallbackReason} {vlan : Option String}
    (member : de ∈ (portMachine.run p inputs).2) (parks : de.Parks reason vlan) :
    ∃ v, vlan = some v ∧ p.cfg.fallbackInUse reason = some v := by
  induction inputs generalizing p with
  | nil => cases member
  | cons input rest ih =>
      rcases List.mem_append.mp member with here | later
      · exact step_parks here parks
      · rw [← step_cfg p input]
        exact ih later

/-! ## Every VLAN in use is asked for -/

section Reach

variable {cfg : PaeConfig} {mac : MacAddr} {s : PortSession}

/-- Some run of the port leads to `s` as its only session. -/
def Arrives (cfg : PaeConfig) (s : PortSession) : Prop :=
  ∃ inputs, (portMachine.run (.new cfg) inputs).1 = { cfg := cfg, sessions := [s] }

/-- A port with one session steps it. -/
theorem handle_one (event : Event) :
    ({ cfg := cfg, sessions := [s] } : PortPae).handle s.mac event =
      ({ cfg := cfg, sessions := [(s.step event cfg).1] : PortPae }.prune,
        decorate cfg.hostMode s.mac (s.step event cfg).2) := by
  simp [PortPae.handle, stepFirst]

theorem Arrives.step (arrives : Arrives cfg s) (event : Event)
    (alive : (s.step event cfg).1.state ≠ .new) : Arrives cfg (s.step event cfg).1 := by
  obtain ⟨inputs, reached⟩ := arrives
  refine ⟨inputs ++ [.handle s.mac event], ?_⟩
  rw [Transducer.run_concat, reached]
  show (PortPae.handle _ s.mac event).1 = _
  rw [handle_one]
  simp [PortPae.prune, alive]

/-- What the session of a reachable port does is the output of some run. -/
theorem Arrives.emits (arrives : Arrives cfg s) (event : Event) {reason : FallbackReason}
    {vlan : Option String}
    (member : .setAuthorization (.fallback reason vlan) ∈ (s.step event cfg).2) :
    ∃ inputs, ∃ de ∈ (portMachine.run (.new cfg) inputs).2, de.Parks reason vlan := by
  obtain ⟨inputs, reached⟩ := arrives
  refine ⟨inputs ++ [.handle s.mac event], ?_⟩
  rw [Transducer.run_concat, reached]
  refine ⟨⟨if cfg.hostMode = .multiHost then none else some s.mac, _⟩,
    List.mem_append_right _ ?_, rfl⟩
  show _ ∈ (PortPae.handle _ s.mac event).2
  rw [handle_one]
  refine List.mem_map.mpr ⟨_, member, ?_⟩
  simp [Effect.isSetAuthorization]

theorem canAdmit_new (cfg : PaeConfig) : (PortPae.new cfg).canAdmit = true := by
  unfold PortPae.canAdmit PortPae.new PortPae.activeSessions
  cases cfg.hostMode <;> rfl

theorem arrives_enable (cfg : PaeConfig) (mac : MacAddr) :
    Arrives cfg (PortSession.new mac).enable.1 := by
  refine ⟨[.handle mac .enable], ?_⟩
  show ((PortPae.new cfg).handle mac .enable).1 = _
  obtain ⟨_, _, _, split, -⟩ | ⟨-, -, same⟩ | ⟨-, full, -⟩ :=
    (PortPae.new cfg).handle_cases mac .enable
  · simp [PortPae.new] at split
  · rw [same]
    rfl
  · rw [canAdmit_new] at full
    cases full

/-- An EAP-Response. -/
def anyResponse : InboundEap := { code := .response, identifier := 0, eapType := none, packet := [] }

/-- The session of a supplicant that answered the first prompt. -/
theorem arrives_asked (cfg : PaeConfig) (mac : MacAddr) :
    Arrives cfg { (PortSession.new mac).enable.1 with state := .authServer } :=
  (arrives_enable cfg mac).step (.eapFromSupplicant anyResponse) (by
    show State.authServer ≠ .new
    decide)

/-- A closed session that is prompted in vain ends on the guest VLAN. -/
theorem Arrives.guest {v : String} (unbypassed : cfg.mabEnabled = false)
    (configured : cfg.guestVlan = some v) (arrives : Arrives cfg s)
    (soliciting : s.state = .connecting) (closed : s.accountingOpen = false) :
    ∃ inputs, ∃ de ∈ (portMachine.run (.new cfg) inputs).2, de.Parks .guest (some v) := by
  induction left : cfg.maxReauthReq.toNat - s.txCount.toNat generalizing s with
  | zero =>
      have spent : ¬ s.txCount < cfg.maxReauthReq := by
        rw [UInt32.lt_iff_toNat_lt]
        omega
      refine arrives.emits (.timer .txPeriod) ?_
      simp [PortSession.step, soliciting, PortSession.inConnecting, spent, PortSession.noSupplicant,
        closed, unbypassed, configured, PortSession.enterFallback]
  | succ n ih =>
      have more : s.txCount < cfg.maxReauthReq := by
        rw [UInt32.lt_iff_toNat_lt]
        omega
      have moved : (s.step (.timer .txPeriod) cfg).1 =
          { s with txCount := saturatingSucc s.txCount, eapId := s.eapId + 1 } := by
        simp [PortSession.step, soliciting, PortSession.inConnecting, more, PortSession.sendIdentity]
      have counted := saturatingSucc_toNat more
      have next := arrives.step (.timer .txPeriod) (by rw [moved]; simp [soliciting])
      rw [moved] at next
      exact ih next soliciting closed (by rw [counted]; omega)

/-- **Which fallback VLANs a port asks for.** -/
theorem fallback_emitted_iff (cfg : PaeConfig) (reason : FallbackReason) (v : String) :
    (∃ inputs, ∃ de ∈ (portMachine.run (.new cfg) inputs).2, de.Parks reason (some v)) ↔
      cfg.fallbackInUse reason = some v := by
  constructor
  · rintro ⟨inputs, de, member, parks⟩
    obtain ⟨w, same, used⟩ := run_parks inputs member parks
    rw [Option.some.inj same]
    exact used
  · intro used
    cases reason with
    | guest =>
        cases bypass : cfg.mabEnabled with
        | true => simp [PaeConfig.fallbackInUse, bypass] at used
        | false =>
            have configured : cfg.guestVlan = some v := by
              simpa [PaeConfig.fallbackInUse, bypass] using used
            exact (arrives_enable cfg (Vector.replicate 6 1)).guest bypass configured rfl rfl
    | authFail =>
        have configured : cfg.authFailVlan = some v := used
        refine (arrives_asked cfg (Vector.replicate 6 1)).emits (.accessReject none) ?_
        simp [PortSession.step, PortSession.inAuthServer, PortSession.reject, PortSession.after,
          PortSession.enable, PortSession.sendIdentity, configured, PortSession.enterFallback]
    | critical =>
        have configured : cfg.criticalVlan = some v := used
        refine (arrives_asked cfg (Vector.replicate 6 1)).emits .serverUnreachable ?_
        simp [PortSession.step, PortSession.inAuthServer, PortSession.serverUnreachable,
          PortSession.after, PortSession.enable, PortSession.sendIdentity, configured,
          PortSession.enterFallback]

end Reach

end Authenticator.Pae
