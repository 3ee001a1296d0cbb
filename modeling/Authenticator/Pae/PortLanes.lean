/-
# Pae.PortLanes -- a port is one lane for each MAC

A call of `handle` touches the session of its own MAC and no other: `lane` is what it
makes of that session, and `handle_lane` that it does nothing else, unless the host mode
has no room.  A lost link empties every lane.

Two results rest on it.  The sessions of a port are distinct, live and never more than the
host mode allows (`sessions_within_capacity`).  And where the host mode has no bound, the
lanes do not notice each other: by unwinding (`Theory.Purge`), what a MAC sees of a run is
what it sees of its own events and the lost links alone (`lanes_independent`).
-/
import Mathlib.Data.List.Nodup
import Authenticator.Theory.Purge
import Authenticator.Pae.PortPosture

namespace Authenticator.Pae

set_option autoImplicit false

open Authenticator.Pacp Authenticator.Theory

/-- What an event makes of the session of `mac`, on a port that lets it in. -/
def lane (cfg : PaeConfig) (mac : MacAddr) (slot : Option PortSession) (event : Event) :
    Option PortSession × List Effect :=
  let r :=
    match slot with
    | some s => s.step event cfg
    | none => admitted cfg mac event
  (if r.1.state = .new then none else some r.1, r.2)

namespace PortPae

variable {p : PortPae} {P : Postures}

/-! ## Looking a session up -/

theorem session_eq_none {mac : MacAddr} : p.session mac = none ↔ ∀ s ∈ p.sessions, s.mac ≠ mac := by
  simp [session]

theorem session_eq_some (inv : PortInv p P) {mac : MacAddr} {s : PortSession} :
    p.session mac = some s ↔ s ∈ p.sessions ∧ s.mac = mac := by
  constructor
  · intro found
    refine ⟨List.mem_of_find?_eq_some found, ?_⟩
    simpa using List.find?_some found
  · rintro ⟨member, rfl⟩
    cases found : p.session s.mac with
    | none => exact absurd rfl (session_eq_none.mp found s member)
    | some t =>
        have inside : t ∈ p.sessions := List.mem_of_find?_eq_some found
        have same : t.mac = s.mac := by simpa using List.find?_some found
        rw [List.inj_on_of_nodup_map inv.distinct inside member same]

/-! ## What a call does to the lanes -/

theorem mem_handle_of_split {before later : List PortSession} {s s' t : PortSession}
    (split : p.sessions = before ++ s :: later) (inv : PortInv p P) (own : s'.mac = s.mac) :
    t ∈ { p with sessions := before ++ s' :: later }.prune.sessions ↔
      (t = s' ∧ s'.state ≠ .new) ∨ (t ∈ p.sessions ∧ t.mac ≠ s.mac) := by
  have others := others_of_split inv split
  have member : t ∈ p.sessions ↔ t = s ∨ t ∈ before ++ later := by
    rw [split]
    simp only [List.mem_append, List.mem_cons]
    tauto
  rw [mem_prune, member]
  have inside : t ∈ before ++ s' :: later ↔ t = s' ∨ t ∈ before ++ later := by
    simp only [List.mem_append, List.mem_cons]
    tauto
  show (t ∈ before ++ s' :: later) ∧ _ ↔ _
  rw [inside]
  constructor
  · rintro ⟨rfl | other, alive⟩
    · exact Or.inl ⟨rfl, alive⟩
    · exact Or.inr ⟨Or.inr other, others.different t other⟩
  · rintro (⟨rfl, alive⟩ | ⟨rfl | other, foreign⟩)
    · exact ⟨Or.inl rfl, alive⟩
    · exact absurd rfl foreign
    · exact ⟨Or.inr other, others.live t other⟩

theorem mem_handle_of_admission {mac : MacAddr} {r t : PortSession} (inv : PortInv p P)
    (absent : ∀ s ∈ p.sessions, s.mac ≠ mac) :
    t ∈ { p with sessions := p.sessions ++ [r] }.prune.sessions ↔
      (t = r ∧ r.state ≠ .new) ∨ (t ∈ p.sessions ∧ t.mac ≠ mac) := by
  rw [mem_prune]
  show t ∈ p.sessions ++ [r] ∧ _ ↔ _
  rw [List.mem_append, List.mem_singleton]
  constructor
  · rintro ⟨member | rfl, alive⟩
    · exact Or.inr ⟨member, absent t member⟩
    · exact Or.inl ⟨rfl, alive⟩
  · rintro (⟨rfl, alive⟩ | ⟨member, -⟩)
    · exact ⟨Or.inr rfl, alive⟩
    · exact ⟨Or.inl member, inv.live t member⟩

/-- A port that has `r` in place of the session of `mac`, if it is live. -/
theorem session_update {q : PortPae} {Q : Postures} (inv : PortInv p P) (later : PortInv q Q)
    {mac : MacAddr} {r : PortSession} (own : r.mac = mac)
    (inside : ∀ t, t ∈ q.sessions ↔
      (t = r ∧ r.state ≠ .new) ∨ (t ∈ p.sessions ∧ t.mac ≠ mac)) :
    q.session = Function.update p.session mac (if r.state = .new then none else some r) := by
  funext other
  apply Option.ext
  intro t
  rw [session_eq_some later, inside]
  by_cases here : other = mac
  · subst here
    rw [Function.update_self]
    by_cases gone : r.state = .new
    · simp only [gone, ne_eq, not_true, and_false, false_or, if_true]
      constructor
      · rintro ⟨⟨-, foreign⟩, same⟩
        exact absurd same foreign
      · intro found
        cases found
    · simp only [gone, ne_eq, not_false_iff, and_true, if_false, Option.some.injEq]
      constructor
      · rintro ⟨rfl | ⟨-, foreign⟩, same⟩
        · rfl
        · exact absurd same foreign
      · rintro rfl
        exact ⟨Or.inl rfl, own⟩
  · rw [Function.update_of_ne here, session_eq_some inv]
    constructor
    · rintro ⟨⟨rfl, -⟩ | ⟨member, -⟩, rfl⟩
      · exact absurd own here
      · exact ⟨member, rfl⟩
    · rintro ⟨member, rfl⟩
      exact ⟨Or.inr ⟨member, here⟩, rfl⟩

/-- **What a call does to the lanes**: it moves on the lane of its MAC and keeps the
others, or drops the event because the port is full. -/
theorem handle_lane (inv : PortInv p P) (mac : MacAddr) (event : Event) :
    (p.session mac = none ∧ p.canAdmit = false ∧ p.handle mac event = (p, [])) ∨
      ((p.session mac = none → p.canAdmit = true) ∧
        (p.handle mac event).1.session =
          Function.update p.session mac (lane p.cfg mac (p.session mac) event).1 ∧
        (p.handle mac event).2 =
          decorate p.cfg.hostMode mac (lane p.cfg mac (p.session mac) event).2) := by
  have later := portInv_handle inv mac event
  obtain ⟨before, s, rest, split, rfl, same⟩ | ⟨absent, free, same⟩ | ⟨absent, full, same⟩ :=
    p.handle_cases mac event
  · have found : p.session s.mac = some s :=
      (session_eq_some inv).mpr ⟨by simp [split], rfl⟩
    have own := s.step_mac p.cfg event
    refine Or.inr ⟨fun missing => absurd (found.symm.trans missing) (by simp), ?_, ?_⟩
    · rw [session_update inv later own, found]
      · rfl
      · intro t
        rw [same]
        exact mem_handle_of_split split inv own
    · rw [same, found]
      rfl
  · have missing : p.session mac = none := session_eq_none.mpr absent
    refine Or.inr ⟨fun _ => free, ?_, ?_⟩
    · rw [session_update inv later (admitted_mac p.cfg mac event), missing]
      · rfl
      · intro t
        rw [same]
        exact mem_handle_of_admission inv absent
    · rw [same, missing]
      rfl
  · refine Or.inl ⟨session_eq_none.mpr absent, full, ?_⟩
    rw [same, prune_eq inv]

/-- A lost link empties every lane. -/
theorem linkDown_session (inv : PortInv p P) (mac : MacAddr) : p.linkDown.1.session mac = none := by
  rw [session_eq_none, linkDown_sessions inv]
  simp

end PortPae

/-! ## Capacity -/

/-- **Host-mode capacity and session uniqueness.**  After every run of `handle` and
`linkDown` calls the sessions have distinct MACs, are live and are no more than the host
mode admits; the port admits another exactly while there is room; and an event of a MAC
that is neither there nor admissible changes nothing. -/
theorem sessions_within_capacity (cfg : PaeConfig) (inputs : List PortInput) :
    let p := (portRun cfg inputs).1
    (p.sessions.map PortSession.mac).Nodup ∧ (∀ s ∈ p.sessions, s.state ≠ .new) ∧
      (∀ n, maxSessions cfg.hostMode = some n → p.sessions.length ≤ n) ∧
      (p.canAdmit = true ↔ ∀ n, maxSessions cfg.hostMode = some n → p.activeSessions < n) ∧
      ∀ mac event, p.session mac = none → p.canAdmit = false → p.handle mac event = (p, []) := by
  intro p
  obtain ⟨same, inv⟩ := portInv_run cfg inputs
  have same : p.cfg = cfg := same
  have inv : PortInv p (portRun cfg inputs).2 := inv
  refine ⟨inv.distinct, inv.live, ?_, ?_, ?_⟩
  · rw [← same]
    exact inv.capacity
  · unfold PortPae.canAdmit
    rw [← same]
    cases p.cfg.hostMode <;> simp [maxSessions]
  · intro mac event missing full
    rcases PortPae.handle_lane inv mac event with ⟨-, -, dropped⟩ | ⟨room, -, -⟩
    · exact dropped
    · rw [room missing] at full
      cases full

/-! ## Independence -/

section Independence

variable (cfg : PaeConfig) (mac : MacAddr)

/-- The inputs that concern a MAC: its own events, and a lost link. -/
def concerns : PortInput → Bool
  | .handle other _ => other = mac
  | .linkDown => true

/-- The effects directed at a MAC. -/
def reaches (de : DirectedEffect) : Bool := de.mac = some mac

theorem filter_reaches_decorate (other : MacAddr) (fx : List Effect) {hostMode : HostMode}
    (apart : hostMode ≠ .multiHost) :
    (decorate hostMode other fx).filter (reaches mac) =
      if other = mac then decorate hostMode other fx else [] := by
  have tagged : ∀ de ∈ decorate hostMode other fx, de.mac = some other := by
    intro de member
    obtain ⟨effect, -, rfl⟩ := List.mem_map.mp member
    simp [apart]
  split
  · rename_i own
    rw [List.filter_eq_self]
    intro de member
    simp [reaches, tagged de member, own]
  · rename_i foreign
    rw [List.filter_eq_nil_iff]
    intro de member
    simp [reaches, tagged de member, foreign]

/-- Of a lost link, a MAC sees its own session go down. -/
theorem filter_reaches_linkDown {p : PortPae} {P : Postures} (inv : PortInv p P) :
    p.linkDown.2.filter (reaches mac) =
      match p.session mac with
      | some s => (s.step .linkDown p.cfg).2.map fun effect => ⟨some mac, effect⟩
      | none => [] := by
  have lowered : ∀ sessions : List PortSession, (sessions.map PortSession.mac).Nodup →
      ((sessions.flatMap fun s => (s.step .linkDown p.cfg).2.map fun effect =>
          (⟨some s.mac, effect⟩ : DirectedEffect)).filter (reaches mac)) =
        match sessions.find? fun s => s.mac = mac with
        | some s => (s.step .linkDown p.cfg).2.map fun effect => ⟨some mac, effect⟩
        | none => [] := by
    intro sessions distinct
    induction sessions with
    | nil => rfl
    | cons s rest ih =>
        rw [List.map_cons, List.nodup_cons] at distinct
        rw [List.flatMap_cons, List.filter_append, ih distinct.2]
        by_cases own : s.mac = mac
        · subst own
          have gone : (rest.find? fun t => t.mac = s.mac) = none := by
            rw [List.find?_eq_none]
            intro t member same
            exact distinct.1 (List.mem_map.mpr ⟨t, member, by simpa using same⟩)
          rw [gone, List.find?_cons_of_pos (by simp), List.append_nil, List.filter_eq_self]
          intro de member
          obtain ⟨effect, -, rfl⟩ := List.mem_map.mp member
          simp [reaches]
        · rw [List.find?_cons_of_neg (by simpa using own)]
          have hidden : ((s.step .linkDown p.cfg).2.map fun effect =>
              (⟨some s.mac, effect⟩ : DirectedEffect)).filter (reaches mac) = [] := by
            rw [List.filter_eq_nil_iff]
            intro de member
            obtain ⟨effect, -, rfl⟩ := List.mem_map.mp member
            simp [reaches, own]
          rw [hidden, List.nil_append]
  show (_ ++ [_]).filter (reaches mac) = _
  rw [List.filter_append, lowered p.sessions inv.distinct]
  simp [reaches, PortPae.session]

/-- A port of this configuration in good order. -/
def Orderly (p : PortPae) : Prop := p.cfg = cfg ∧ ∃ P, PortInv p P

theorem orderly_new : Orderly cfg (.new cfg) := ⟨rfl, _, .new cfg⟩

theorem orderly_step (p : PortPae) (input : PortInput) (orderly : Orderly cfg p) :
    Orderly cfg (portMachine.step p input).1 := by
  obtain ⟨same, P, inv⟩ := orderly
  cases input with
  | handle mac event =>
      exact ⟨(p.handle_cfg mac event).trans same, _, PortPae.portInv_handle inv mac event⟩
  | linkDown => exact ⟨same, _, PortPae.portInv_linkDown inv⟩

/-- One step of a port without a bound, as one MAC sees it. -/
theorem port_unwinds (independent : cfg.hostMode = .multiAuth) :
    Unwinds portMachine (Orderly cfg) (fun p => p.session mac) (reaches mac) (concerns mac) := by
  have unshared : cfg.hostMode ≠ .multiHost := by simp [independent]
  have moves : ∀ p other event, Orderly cfg p →
      (p.handle other event).1.session =
          Function.update p.session other (lane cfg other (p.session other) event).1 ∧
        (p.handle other event).2 =
          decorate cfg.hostMode other (lane cfg other (p.session other) event).2 := by
    rintro p other event ⟨rfl, P, inv⟩
    rcases PortPae.handle_lane inv other event with ⟨-, full, -⟩ | ⟨-, sessions, effects⟩
    · simp [PortPae.canAdmit, independent] at full
    · exact ⟨sessions, effects⟩
  refine ⟨orderly_step cfg, ?_, ?_⟩
  · rintro p q (⟨other, event⟩ | _) left right concern same
    · have own : other = mac := by simpa [concerns] using concern
      subst own
      obtain ⟨sessions, effects⟩ := moves p other event left
      obtain ⟨sessions', effects'⟩ := moves q other event right
      have same : p.session other = q.session other := same
      refine ⟨?_, ?_⟩
      · show (p.handle other event).1.session other = (q.handle other event).1.session other
        rw [sessions, sessions', Function.update_self, Function.update_self, same]
      · show (p.handle other event).2.filter _ = (q.handle other event).2.filter _
        rw [effects, effects', same]
    · obtain ⟨rfl, P, inv⟩ := left
      obtain ⟨config, Q, inv'⟩ := right
      have same : p.session mac = q.session mac := same
      refine ⟨?_, ?_⟩
      · exact (PortPae.linkDown_session inv mac).trans (PortPae.linkDown_session inv' mac).symm
      · show p.linkDown.2.filter _ = q.linkDown.2.filter _
        rw [filter_reaches_linkDown mac inv, filter_reaches_linkDown mac inv', same, config]
  · rintro p (⟨other, event⟩ | _) orderly foreign
    · have foreign : other ≠ mac := by simpa [concerns] using foreign
      obtain ⟨sessions, effects⟩ := moves p other event orderly
      refine ⟨?_, ?_⟩
      · show (p.handle other event).1.session mac = p.session mac
        rw [sessions, Function.update_of_ne foreign.symm]
      · show (p.handle other event).2.filter _ = []
        rw [effects, filter_reaches_decorate mac other _ unshared, if_neg foreign]
    · cases foreign

end Independence

/-- **Multi-auth sessions are independent.**  What a run leaves of the session of a MAC,
and the effects it directs at that MAC, are those of a fresh port that gets only the
events of that MAC and the lost links; so two neighbouring events of different MACs can be
swapped and nobody notices. -/
theorem lanes_independent (cfg : PaeConfig) (independent : cfg.hostMode = .multiAuth) :
    (∀ (mac : MacAddr) (inputs : List PortInput),
      (portMachine.run (.new cfg) inputs).1.session mac =
          (portMachine.run (.new cfg) (inputs.filter (concerns mac))).1.session mac ∧
        (portMachine.run (.new cfg) inputs).2.filter (reaches mac) =
          (portMachine.run (.new cfg) (inputs.filter (concerns mac))).2.filter (reaches mac)) ∧
    ∀ (a b : MacAddr) (x y : Event) (before later : List PortInput), a ≠ b → ∀ mac,
      (portMachine.run (.new cfg) (before ++ .handle a x :: .handle b y :: later)).1.session mac =
          (portMachine.run (.new cfg)
            (before ++ .handle b y :: .handle a x :: later)).1.session mac ∧
        (portMachine.run (.new cfg) (before ++ .handle a x :: .handle b y :: later)).2.filter
            (reaches mac) =
          (portMachine.run (.new cfg) (before ++ .handle b y :: .handle a x :: later)).2.filter
            (reaches mac) := by
  have alone : ∀ (mac : MacAddr) (inputs : List PortInput),
      (portMachine.run (.new cfg) inputs).1.session mac =
          (portMachine.run (.new cfg) (inputs.filter (concerns mac))).1.session mac ∧
        (portMachine.run (.new cfg) inputs).2.filter (reaches mac) =
          (portMachine.run (.new cfg) (inputs.filter (concerns mac))).2.filter (reaches mac) := by
    intro mac inputs
    exact (port_unwinds cfg mac independent).purge inputs (orderly_new cfg) (orderly_new cfg) rfl
  refine ⟨alone, ?_⟩
  intro a b x y before later apart mac
  obtain ⟨sessions, effects⟩ := alone mac (before ++ .handle a x :: .handle b y :: later)
  obtain ⟨sessions', effects'⟩ := alone mac (before ++ .handle b y :: .handle a x :: later)
  -- purged for one MAC, the two orders are the same list
  have same : (before ++ .handle a x :: .handle b y :: later).filter (concerns mac) =
      (before ++ .handle b y :: .handle a x :: later).filter (concerns mac) := by
    simp only [List.filter_append, List.filter_cons, concerns]
    by_cases first : a = mac
    · have second : b ≠ mac := fun both => apart (first.trans both.symm)
      simp [first, second]
    · simp [first]
  rw [sessions, sessions', effects, effects', same]
  exact ⟨rfl, rfl⟩

/-- Two stations, one of which logs off while the other is soliciting. -/
theorem lanes_independent_logoff :
    (portMachine.run (.new {}) [.handle (Vector.replicate 6 1) .eapolStart,
        .handle (Vector.replicate 6 2) .eapolStart,
        .handle (Vector.replicate 6 2) .eapolLogoff]).1.session (Vector.replicate 6 1) =
      (portMachine.run (.new {}) [.handle (Vector.replicate 6 1) .eapolStart]).1.session
        (Vector.replicate 6 1) :=
  ((lanes_independent {} rfl).1 (Vector.replicate 6 1) [.handle (Vector.replicate 6 1) .eapolStart,
    .handle (Vector.replicate 6 2) .eapolStart, .handle (Vector.replicate 6 2) .eapolLogoff]).1

end Authenticator.Pae
