/-
# Enforce.FailClosed -- enforcement errors and the default-deny rule

A call writes its batch before it reads anything back, and nothing is rolled back.
Opening a port deletes the deny rule last but one, so `error_keeps_closed_iff` is a
matter of where the backend stops and how the final read turns out.
-/
import Authenticator.Enforce.Enforcer

namespace Authenticator.Enforce

set_option autoImplicit false

open Authenticator.Pae

section FailClosed

variable {port : String} {old new : Desired}

/-- What a transition performs before the open/close delta. -/
def lead (port : String) (old new : Desired) : List DbOp :=
  vlanDelta port old new ++ filterDelta port old new

theorem lead_spares_deny : ∀ op ∈ lead port old new, op ≠ ⟨.config, .del (denyRuleKey port)⟩ := by
  rintro op member rfl
  rcases List.mem_append.mp member with inside | inside
  · obtain ⟨-, v, -, written⟩ := mem_vlanDelta port old new inside
    exact vlanMemberKey_ne_denyRuleKey v port port written.symm
  · obtain ⟨-, table, -, written⟩ := mem_filterDelta port old new inside
    exact denyRuleKey_ne_aclTableKey port table written

/-- Only opening the port deletes the deny rule. -/
theorem transition_spares_deny (shut : old.authorized = true ∨ new.authorized = false) :
    ∀ op ∈ transition port old new, op ≠ ⟨.config, .del (denyRuleKey port)⟩ := by
  intro op member
  rcases List.mem_append.mp member with inside | inside
  · exact lead_spares_deny op inside
  · have closing : controlledDelta port old new = [] ∨
        controlledDelta port old new = closeControlledPort port := by
      unfold controlledDelta
      cases before : old.authorized <;> cases after : new.authorized <;> simp_all
    rcases closing with empty | same
    · rw [empty] at inside
      cases inside
    · rw [same] at inside
      simp only [closeControlledPort, List.mem_cons, List.not_mem_nil, or_false] at inside
      rcases inside with rfl | rfl | rfl <;> simp

/-- Opening deletes the deny rule last but one. -/
theorem transition_opening (shut : old.authorized = false) (opens : new.authorized = true) :
    transition port old new =
      lead port old new ++
        [del .config (denyRuleKey port), del .config (eapolPermitKey port)] := by
  simp [transition, lead, controlledDelta, shut, opens, openControlledPort]

/-- Of an opening batch, exactly the prefixes that stop short of the deletion keep the
deny rule. -/
theorem opening_prefix_iff (shut : old.authorized = false) (opens : new.authorized = true)
    {dbs : Databases} (closed : (dbs .config (denyRuleKey port)).isSome = true) (performed : Nat) :
    (runOps ((transition port old new).take performed) dbs .config
        (denyRuleKey port)).isSome = true ↔
      performed + 2 ≤ (transition port old new).length := by
  rw [transition_opening shut opens, List.length_append]
  have two : [del .config (denyRuleKey port), del .config (eapolPermitKey port)].length = 2 := rfl
  rw [two]
  by_cases early : performed ≤ (lead port old new).length
  · have kept : (runOps ((lead port old new).take performed) dbs .config
        (denyRuleKey port)).isSome = true :=
      runOps_present (fun op member => lead_spares_deny op (List.mem_of_mem_take member)) closed
    rw [List.take_append_of_le_length early]
    exact ⟨fun _ => by omega, fun _ => kept⟩
  · obtain ⟨extra, past⟩ : ∃ extra, performed = (lead port old new).length + (extra + 1) :=
      ⟨performed - (lead port old new).length - 1, by omega⟩
    have gone : runOps ((lead port old new ++
        [del .config (denyRuleKey port), del .config (eapolPermitKey port)]).take performed) dbs
          .config (denyRuleKey port) = none := by
      rw [past, List.take_length_add_append, List.take_succ_cons, runOps_append, runOps_cons,
        runOps_of_ne]
      · simp [del]
      · intro op member _
        have permit : op = del .config (eapolPermitKey port) := by
          simpa using List.mem_of_mem_take member
        rw [permit]
        exact denyRuleKey_ne_eapolPermitKey port port
    rw [gone]
    constructor
    · intro present
      cases present
    · intro short
      omega

/-- When an error of `apply` leaves a closed port closed: the call does not open the
port, or is refused before it writes, or the backend stops before the deletion of the
deny rule, or nothing goes wrong after it.  The last means that the VLAN membership is
read truthfully and is there (written by this call, or present before), or, without a
VLAN, that the read of the deny rule does not fail. -/
def StaysClosed {ε : Type} (faults : Faults ε) (s : SonicEnforcer Databases) (port : String)
    (auth : PortAuthorization) : Prop :=
  let old := s.cached port
  let new := Desired.fromAuthorization auth
  old.authorized = true ∨ new.authorized = false ∨ ¬ Admissible faults s.conn new ∨
    match faults.stop with
    | some (performed, _) => performed + 2 ≤ (transition port old new).length
    | none =>
        match new.vlan with
        | some vlan =>
            faults.answer .config (vlanMemberKey vlan port) = .truthful ∧
              (old.vlan = some vlan → (s.conn .config (vlanMemberKey vlan port)).isSome = true)
        | none => ∀ e, faults.answer .config (denyRuleKey port) ≠ .failed e

theorem reads_present {ε : Type} {faults : Faults ε} {dbs : Databases} {db : Db} {key : String} :
    faults.reads dbs db key = .ok true ↔
      faults.answer db key = .truthful ∧ (dbs db key).isSome = true := by
  unfold Faults.reads
  cases faults.answer db key <;> simp

theorem reads_absent {ε : Type} {faults : Faults ε} {dbs : Databases} {db : Db} {key : String}
    (absent : dbs db key = none) :
    faults.reads dbs db key = .ok false ↔ ∀ e, faults.answer db key ≠ .failed e := by
  unfold Faults.reads
  cases faults.answer db key <;> simp [absent]

/-- The read-back of an opening batch, in terms of the database before it. -/
theorem landed_opening_iff {ε : Type} (faults : Faults ε) (shut : old.authorized = false)
    (opens : new.authorized = true) (dbs : Databases) :
    Landed faults (runOps (transition port old new) dbs) port new ↔
      match new.vlan with
      | some vlan =>
          faults.answer .config (vlanMemberKey vlan port) = .truthful ∧
            (old.vlan = some vlan → (dbs .config (vlanMemberKey vlan port)).isSome = true)
      | none => ∀ e, faults.answer .config (denyRuleKey port) ≠ .failed e := by
  unfold Landed
  rw [if_pos opens]
  cases assigned : new.vlan with
  | some vlan =>
      dsimp only
      rw [reads_present, transition_vlan, assigned]
      by_cases same : old.vlan = some vlan <;> simp [same]
  | none =>
      have gone : runOps (transition port old new) dbs .config (denyRuleKey port) = none := by
        have rule := transition_rule port old new dbs (Or.inl rfl)
        simpa [shut, opens] using rule
      exact reads_absent gone

/-- **When an enforcement error leaves a closed port closed.**  The ops are written
before the read-backs and nothing is rolled back, so an error after the deny rule was
deleted leaves the port open. -/
theorem error_keeps_closed_iff {ε : Type} (faults : Faults ε) (s : SonicEnforcer Databases)
    (port : String) (target : Target) (auth : PortAuthorization)
    (closed : (s.conn .config (denyRuleKey port)).isSome = true) :
    (∀ e, (SonicEnforcer.apply (faultyConn faults) port target auth s).1 = .error e →
      ((SonicEnforcer.apply (faultyConn faults) port target auth s).2.conn .config
        (denyRuleKey port)).isSome = true) ↔
      StaysClosed faults s port auth := by
  have cases := SonicEnforcer.apply_cases faults s port target auth
  generalize SonicEnforcer.apply (faultyConn faults) port target auth s = r at cases ⊢
  unfold StaysClosed
  generalize Desired.fromAuthorization auth = new at cases ⊢
  generalize s.cached port = old at cases ⊢
  dsimp only at cases ⊢
  by_cases opening : old.authorized = false ∧ new.authorized = true
  · obtain ⟨shut, opens⟩ := opening
    rcases cases with ⟨refused, e, rfl⟩ | ⟨admissible, performed, e, stop, rfl⟩ |
      ⟨admissible, stop, lost, e, rfl⟩ | ⟨admissible, stop, landed, rfl⟩
    · exact ⟨fun _ => Or.inr (Or.inr (Or.inl refused)), fun _ _ _ => closed⟩
    · have stopped := opening_prefix_iff shut opens closed performed
      simp [shut, opens, admissible, stop, stopped]
    · have gone : (runOps (transition port old new) s.conn .config
          (denyRuleKey port)).isSome = false := by
        simpa [shut, opens] using transition_rule port old new s.conn (Or.inl rfl)
      rw [landed_opening_iff faults shut opens] at lost
      simp [shut, opens, admissible, stop, gone, lost]
    · rw [landed_opening_iff faults shut opens] at landed
      simp [shut, opens, admissible, stop, landed]
  · have shut : old.authorized = true ∨ new.authorized = false := by
      cases before : old.authorized <;> cases after : new.authorized <;> simp_all
    have spared : ∀ op ∈ transition port old new, op ≠ ⟨.config, .del (denyRuleKey port)⟩ :=
      transition_spares_deny shut
    constructor
    · intro _
      tauto
    · intro _ e failed
      rcases cases with ⟨-, e, rfl⟩ | ⟨-, performed, e, -, rfl⟩ | ⟨-, -, -, e, rfl⟩ |
        ⟨-, -, -, rfl⟩
      · exact closed
      · exact runOps_present (fun op member => spared op (List.mem_of_mem_take member)) closed
      · exact runOps_present spared closed
      · cases failed

/-- `Ethernet0` right after bring-up. -/
def closedPort : SonicEnforcer Databases :=
  (SonicEnforcer.ensureEapolTrap (redisConn String) "Ethernet0"
    (SonicEnforcer.new emptyDatabases)).2

theorem error_keeps_closed_unprovisioned :
    (closedPort.conn .config (denyRuleKey "Ethernet0")).isSome = true ∧
      ∀ e, (SonicEnforcer.apply (faultyConn ({} : Faults String)) "Ethernet0" .port
          (.authorized { filterId := some "EMPLOYEE" }) closedPort).1 = .error e →
        ((SonicEnforcer.apply (faultyConn ({} : Faults String)) "Ethernet0" .port
          (.authorized { filterId := some "EMPLOYEE" }) closedPort).2.conn .config
            (denyRuleKey "Ethernet0")).isSome = true := by
  have closed : (closedPort.conn .config (denyRuleKey "Ethernet0")).isSome = true := by decide
  refine ⟨closed, (error_keeps_closed_iff _ _ _ _ _ closed).mpr ?_⟩
  refine Or.inr (Or.inr (Or.inl ?_))
  rintro ⟨-, provisioned⟩
  have found := provisioned "EMPLOYEE" rfl
  revert found
  decide

/-- The read-back of the VLAN membership is denied, as in the test of an unconfirmed
change. -/
def unconfirmedVlan : Faults String where
  answer db key := if db = .config ∧ key = vlanMemberKey "42" "Ethernet0" then .denied else .truthful

/-- Granting VLAN 42 on a closed port whose read-back is denied returns an error and
leaves the port open. -/
theorem error_leaves_open_unconfirmed :
    ¬ ∀ (faults : Faults String) (s : SonicEnforcer Databases) (port : String) (target : Target)
      (auth : PortAuthorization), (s.conn .config (denyRuleKey port)).isSome = true →
      ∀ e, (SonicEnforcer.apply (faultyConn faults) port target auth s).1 = .error e →
        ((SonicEnforcer.apply (faultyConn faults) port target auth s).2.conn .config
          (denyRuleKey port)).isSome = true := by
  intro claim
  have kept := claim unconfirmedVlan closedPort "Ethernet0" .port
    (.authorized { vlan := some "42" }) (by decide)
    (.unconfirmed .config (vlanMemberKey "42" "Ethernet0")) (by decide)
  revert kept
  decide

end FailClosed

end Authenticator.Enforce
