/-
# Enforce.Resync -- coming back after failures

Deltas are planned from a cache that is written only on full success, so a failed
call leaves the cache behind the database.  `represents_transition_iff` says exactly
what the next delta can repair, and `apply_resyncs_iff` takes it over any history of
failed calls.
-/
import Authenticator.Enforce.FailClosed

namespace Authenticator.Enforce

set_option autoImplicit false

open Authenticator.Pae Authenticator.Theory

section Resync

variable {port : String} {old new : Desired} {dbs : Databases}

/-- When planning from `old` brings `port` to `new`: what the two postures share is in
CONFIG_DB as `new` has it, and what they do not share holds no entry of the port
beyond theirs. -/
structure Resyncs (t : Table) (port : String) (old new : Desired) : Prop where
  rules : old.authorized = new.authorized →
    (t (denyRuleKey port)).isSome = !new.authorized ∧
      (t (eapolPermitKey port)).isSome = !new.authorized
  vlan : if old.vlan = new.vlan
    then ∀ v, (t (vlanMemberKey v port)).isSome = true ↔ new.vlan = some v
    else ∀ v, (t (vlanMemberKey v port)).isSome = true → old.vlan = some v ∨ new.vlan = some v
  filter : ∀ table, OperatorTable table → if old.filterId = new.filterId
    then (port ∈ ports t table ↔ new.filterId = some table)
    else port ∈ ports t table → old.filterId = some table ∨ new.filterId = some table
  listed : ∀ table, OperatorTable table → new.filterId = some table → ListName port

theorem transition_rule_iff {key : String}
    (rule : key = denyRuleKey port ∨ key = eapolPermitKey port) :
    (runOps (transition port old new) dbs .config key).isSome = (!new.authorized) ↔
      (old.authorized = new.authorized → (dbs .config key).isSome = !new.authorized) := by
  rw [transition_rule port old new dbs rule]
  by_cases same : old.authorized = new.authorized <;> simp [same]

theorem transition_vlan_iff :
    (∀ v, (runOps (transition port old new) dbs .config (vlanMemberKey v port)).isSome = true ↔
      new.vlan = some v) ↔
    if old.vlan = new.vlan
    then ∀ v, (dbs .config (vlanMemberKey v port)).isSome = true ↔ new.vlan = some v
    else ∀ v, (dbs .config (vlanMemberKey v port)).isSome = true →
      old.vlan = some v ∨ new.vlan = some v := by
  simp only [transition_vlan]
  split
  · rfl
  · apply forall_congr'
    intro v
    tauto

theorem transition_filter_iff {table : String} (operator : OperatorTable table) :
    (port ∈ ports (runOps (transition port old new) dbs .config) table ↔
      new.filterId = some table) ↔
    (if old.filterId = new.filterId
      then (port ∈ ports (dbs .config) table ↔ new.filterId = some table)
      else port ∈ ports (dbs .config) table →
        old.filterId = some table ∨ new.filterId = some table) ∧
      (new.filterId = some table → ListName port) := by
  by_cases clean : ListName port
  · rw [transition_ports port old new dbs clean (operator.ne_denyTable port)]
    by_cases same : old.filterId = new.filterId
    · simp [same, clean]
    · simp only [same, ne_eq, not_true_eq_false, or_self, if_false, clean, implies_true, and_true]
      tauto
  · have absent := not_mem_ports clean
    simp only [absent, clean, false_iff]
    split <;> tauto

/-- Planning from the cached posture reaches the new one exactly when they `Resyncs`. -/
theorem represents_transition_iff :
    Represents (runOps (transition port old new) dbs .config) port new ↔
      Resyncs (dbs .config) port old new := by
  constructor
  · intro held
    have listed := fun table operator =>
      (transition_filter_iff operator).mp (held.filter table operator)
    refine ⟨?_, transition_vlan_iff.mp held.vlan, fun table operator => (listed table operator).1,
      fun table operator => (listed table operator).2⟩
    intro same
    exact ⟨(transition_rule_iff (Or.inl rfl)).mp held.deny same,
      (transition_rule_iff (Or.inr rfl)).mp held.permit same⟩
  · intro close
    refine ⟨?_, ?_, transition_vlan_iff.mpr close.vlan, ?_⟩
    · exact (transition_rule_iff (Or.inl rfl)).mpr fun same => (close.rules same).1
    · exact (transition_rule_iff (Or.inr rfl)).mpr fun same => (close.rules same).2
    · intro table operator
      exact (transition_filter_iff operator).mpr ⟨close.filter table operator,
        close.listed table operator⟩

/-- A database that represents the cached posture reaches every other one. -/
theorem Represents.resyncs (clean : ListName port) (held : Represents (dbs .config) port old) :
    Resyncs (dbs .config) port old new :=
  represents_transition_iff.mp (represents_transition clean held)

/-- A database that has the new posture already keeps it, whatever is cached: what landed without
being confirmed can be asked for again. -/
theorem Represents.retried (clean : ListName port) (held : Represents (dbs .config) port new) :
    Resyncs (dbs .config) port old new where
  rules _ := ⟨held.deny, held.permit⟩
  vlan := by
    split
    · exact held.vlan
    · exact fun v member => Or.inr ((held.vlan v).mp member)
  filter table operator := by
    split
    · exact held.filter table operator
    · exact fun listed => Or.inr ((held.filter table operator).mp listed)
  listed _ _ _ := clean

/-- A represented posture always passes its own read-back. -/
theorem Represents.landed {ε : Type} (held : Represents (dbs .config) port new) :
    Landed ({} : Faults ε) dbs port new := by
  have truthful : ∀ key, ({} : Faults ε).reads dbs .config key = .ok (dbs .config key).isSome :=
    fun _ => rfl
  unfold Landed
  cases opened : new.authorized with
  | false =>
      simp only [truthful, held.deny, opened, Bool.false_eq_true, if_false, Bool.not_false]
  | true =>
      rw [if_pos rfl]
      cases assigned : new.vlan with
      | some vlan =>
          dsimp only
          rw [truthful, (held.vlan vlan).mpr assigned]
      | none =>
          dsimp only
          rw [truthful, held.deny, opened]
          rfl

end Resync

/-! ## Bring-up -/

/-- CONFIG_DB has no entry for `port`. -/
structure NoEntries (t : Table) (port : String) : Prop where
  deny : t (denyRuleKey port) = none
  permit : t (eapolPermitKey port) = none
  own : t (aclTableKey (denyTable port)) = none
  vlan : ∀ v, t (vlanMemberKey v port) = none
  filter : ∀ table, port ∉ ports t table

/-- The bring-up batch closes a port that has no entries. -/
theorem represents_bringUp {port : String} {dbs : Databases} (bare : NoEntries (dbs .config) port) :
    Represents (runOps (planEapolTrap ++ planClose port) dbs .config) port {} := by
  have touched : ∀ op ∈ planEapolTrap ++ planClose port, op.op.key = eapolTrapKey ∨
      op.op.key = denyRuleKey port ∨ op.op.key = eapolPermitKey port ∨
        op.op.key = aclTableKey (denyTable port) := by
    intro op member
    rcases List.mem_append.mp member with trap | close
    · rw [planEapolTrap, List.mem_singleton] at trap
      exact Or.inl (by rw [trap]; rfl)
    · exact Or.inr (mem_closeControlledPort port close).2
  have kept : ∀ key, key ≠ eapolTrapKey → key ≠ denyRuleKey port → key ≠ eapolPermitKey port →
      key ≠ aclTableKey (denyTable port) →
      runOps (planEapolTrap ++ planClose port) dbs .config key = dbs .config key := by
    intro key trap deny permit own
    apply runOps_of_ne
    rintro op member - rfl
    rcases touched op member with same | same | same | same
    · exact trap same
    · exact deny same
    · exact permit same
    · exact own same
  refine ⟨?_, ?_, ?_, ?_⟩
  · exact Op.apply_hSet_isSome _ _ _ _
  · show ((Op.hSet (denyRuleKey port) _).apply _ (eapolPermitKey port)).isSome = true
    rw [Op.apply_of_ne (denyRuleKey_ne_eapolPermitKey port port).symm]
    exact Op.apply_hSet_isSome _ _ _ _
  · intro v
    rw [kept _ (eapolTrapKey_ne_vlanMemberKey v port).symm (by simp) (by simp) (by simp), bare.vlan v]
    simp
  · intro table operator
    have outside : runOps (planEapolTrap ++ planClose port) dbs .config (aclTableKey table) =
        dbs .config (aclTableKey table) := by
      apply kept
      · exact (eapolTrapKey_ne_aclTableKey table).symm
      · exact (denyRuleKey_ne_aclTableKey port table).symm
      · exact (eapolPermitKey_ne_aclTableKey port table).symm
      · simpa using operator.ne_denyTable port
    have absent := bare.filter table
    unfold ports hget at absent ⊢
    rw [outside]
    simp [absent]

theorem noEntries_empty (port : String) : NoEntries (emptyDatabases .config) port := by
  constructor <;> intros <;> simp [emptyDatabases, ports, hget, members]

/-! ## Calls that succeed -/

namespace SonicEnforcer

variable {ε : Type} {s : SonicEnforcer Databases} {port : String} {target : Target}
variable {auth : PortAuthorization}

/-- A bring-up that succeeds has written its batch and cached the closed posture. -/
theorem ensureEapolTrap_ok (ran : (ensureEapolTrap (redisConn ε) port s).1 = .ok ()) :
    (ensureEapolTrap (redisConn ε) port s).2 =
      { conn := runOps (planEapolTrap ++ planClose port) s.conn,
        applied := Function.update s.applied port (some {}) } := by
  let wrote : SonicEnforcer Databases :=
    { s with conn := runOps (planEapolTrap ++ planClose port) s.conn }
  have started : ensureEapolTrap (redisConn ε) port s = (do
      requirePresent (redisConn ε) .config eapolTrapKey
      requirePresent (redisConn ε) .config (denyRuleKey port)
      remember port {}) wrote := rfl
  rw [started, ← faultyConn_clean] at ran ⊢
  rcases requirePresent_checks ({} : Faults ε) wrote .config eapolTrapKey with
    ⟨-, trapped⟩ | ⟨-, e, failed⟩
  · rw [Prog.bind_ok trapped] at ran ⊢
    rcases requirePresent_checks ({} : Faults ε) wrote .config (denyRuleKey port) with
      ⟨-, denied⟩ | ⟨-, e, failed⟩
    · rw [Prog.bind_ok denied]
      rfl
    · rw [Prog.bind_error failed] at ran
      cases ran
  · rw [Prog.bind_error failed] at ran
    cases ran

/-- A call that succeeds has written its delta and cached its posture. -/
theorem apply_ok (ran : (apply (redisConn ε) port target auth s).1 = .ok ()) :
    (apply (redisConn ε) port target auth s).2 =
      { conn := runOps (transition port (s.cached port) (Desired.fromAuthorization auth)) s.conn,
        applied := Function.update s.applied port (some (Desired.fromAuthorization auth)) } := by
  have cases := apply_cases ({} : Faults ε) s port target auth
  rw [faultyConn_clean] at cases
  generalize apply (redisConn ε) port target auth s = r at cases ran ⊢
  rcases cases with ⟨-, e, rfl⟩ | ⟨-, performed, e, stop, -⟩ | ⟨-, -, -, e, rfl⟩ | ⟨-, -, -, rfl⟩
  · cases ran
  · cases stop
  · cases ran
  · rfl

/-- The cache and the database hold one posture of the port. -/
structure Holds (s : SonicEnforcer Databases) (port : String) (posture : Desired) : Prop where
  cache : s.cached port = posture
  database : Represents (s.conn .config) port posture

theorem holds_bringUp (bare : NoEntries (s.conn .config) port)
    (ran : (ensureEapolTrap (redisConn ε) port s).1 = .ok ()) :
    (ensureEapolTrap (redisConn ε) port s).2.Holds port {} := by
  rw [ensureEapolTrap_ok ran]
  refine ⟨?_, represents_bringUp bare⟩
  simp [cached]

/-- A call that succeeds leaves its posture in both. -/
theorem Holds.apply {posture : Desired} (held : s.Holds port posture) (clean : ListName port)
    (ran : (apply (redisConn ε) port target auth s).1 = .ok ()) :
    (SonicEnforcer.apply (redisConn ε) port target auth s).2.Holds port
      (Desired.fromAuthorization auth) := by
  rw [apply_ok ran]
  refine ⟨by simp [cached], ?_⟩
  rw [held.cache]
  exact represents_transition clean held.database

/-- The cache and the deny rule agree on whether the port is open. -/
structure Gates (s : SonicEnforcer Databases) (port : String) (opened : Bool) : Prop where
  cache : (s.cached port).authorized = opened
  rule : (s.conn .config (denyRuleKey port)).isSome = !opened

/-- Bringing a port up closes it, whatever the database held. -/
theorem gates_bringUp (ran : (ensureEapolTrap (redisConn ε) port s).1 = .ok ()) :
    (ensureEapolTrap (redisConn ε) port s).2.Gates port false := by
  rw [ensureEapolTrap_ok ran]
  refine ⟨by simp [cached], ?_⟩
  exact Op.apply_hSet_isSome _ _ _ _

theorem Gates.written {opened : Bool} (gates : s.Gates port opened) (new : Desired) :
    (runOps (transition port (s.cached port) new) s.conn .config (denyRuleKey port)).isSome =
      !new.authorized := by
  rw [transition_rule port _ _ _ (Or.inl rfl), gates.cache, gates.rule]
  split
  · rename_i same
    rw [same]
  · rfl

/-- A call that succeeds opens or closes the port as it says. -/
theorem Gates.apply {opened : Bool} (gates : s.Gates port opened)
    (ran : (apply (redisConn ε) port target auth s).1 = .ok ()) :
    (SonicEnforcer.apply (redisConn ε) port target auth s).2.Gates port
      (Desired.fromAuthorization auth).authorized := by
  rw [apply_ok ran]
  exact ⟨by simp [cached], gates.written _⟩

/-- Closing a port that agrees with its cache cannot fail. -/
theorem Gates.close {opened : Bool} (gates : s.Gates port opened) :
    (SonicEnforcer.apply (redisConn ε) port target .unauthorized s).1 = .ok () := by
  have admissible : Admissible ({} : Faults ε) s.conn {} := ⟨by rintro v ⟨⟩, by rintro t ⟨⟩⟩
  have landed : Landed ({} : Faults ε) (runOps (transition port (s.cached port) {}) s.conn) port {} :=
    congrArg Except.ok (gates.written {})
  have cases := apply_cases ({} : Faults ε) s port target .unauthorized
  rw [faultyConn_clean] at cases
  generalize SonicEnforcer.apply (redisConn ε) port target .unauthorized s = r at cases ⊢
  rcases cases with ⟨refused, -⟩ | ⟨-, performed, e, stop, -⟩ | ⟨-, -, lost, -⟩ | ⟨-, -, -, rfl⟩
  · exact absurd admissible refused
  · cases stop
  · exact absurd landed lost
  · rfl

theorem Holds.gates {posture : Desired} (held : s.Holds port posture) :
    s.Gates port posture.authorized :=
  ⟨by rw [held.cache], held.database.deny⟩

end SonicEnforcer

/-- One call of the enforcer. -/
inductive EnforcerCall where
  | ensureEapolTrap (port : String)
  | apply (port : String) (target : Target) (auth : PortAuthorization)

/-- The enforcer after one call; a failed call is not retried. -/
def EnforcerCall.run {ε : Type} (s : SonicEnforcer Databases) :
    EnforcerCall × Faults ε → SonicEnforcer Databases
  | (.ensureEapolTrap port, faults) => (SonicEnforcer.ensureEapolTrap (faultyConn faults) port s).2
  | (.apply port target auth, faults) =>
      (SonicEnforcer.apply (faultyConn faults) port target auth s).2

/-- The enforcer after a history of calls, each with its own failure pattern. -/
def afterCalls {ε : Type} (history : List (EnforcerCall × Faults ε))
    (s : SonicEnforcer Databases) : SonicEnforcer Databases := history.foldl EnforcerCall.run s

/-- **When a clean call resynchronises.**  After any history of calls that failed
anywhere, a call whose backend does everything returns `Ok` with CONFIG_DB representing
exactly its posture if and only if the cached posture and the database `Resyncs`. -/
theorem apply_resyncs_iff {ε : Type} (start : SonicEnforcer Databases)
    (history : List (EnforcerCall × Faults ε)) (port : String) (target : Target)
    (auth : PortAuthorization)
    (valid : ∀ vlan, (Desired.fromAuthorization auth).vlan = some vlan → isValidVlan vlan = true)
    (provisioned : ∀ table, (Desired.fromAuthorization auth).filterId = some table →
      ((afterCalls history start).conn .config (aclTableKey table)).isSome = true) :
    (SonicEnforcer.apply (redisConn ε) port target auth (afterCalls history start)).1 = .ok () ∧
        Represents ((SonicEnforcer.apply (redisConn ε) port target auth
          (afterCalls history start)).2.conn .config) port (Desired.fromAuthorization auth) ↔
      Resyncs ((afterCalls history start).conn .config) port ((afterCalls history start).cached port)
        (Desired.fromAuthorization auth) := by
  generalize afterCalls history start = s at provisioned ⊢
  have admissible : Admissible ({} : Faults ε) s.conn (Desired.fromAuthorization auth) := by
    refine ⟨valid, ?_⟩
    intro table named
    show Except.ok (s.conn .config (aclTableKey table)).isSome = _
    rw [provisioned table named]
  have cases := SonicEnforcer.apply_cases ({} : Faults ε) s port target auth
  rw [faultyConn_clean] at cases
  generalize SonicEnforcer.apply (redisConn ε) port target auth s = r at cases ⊢
  rw [← represents_transition_iff]
  rcases cases with ⟨refused, -⟩ | ⟨-, performed, e, stop, -⟩ | ⟨-, -, lost, e, rfl⟩ |
    ⟨-, -, -, rfl⟩
  · exact absurd admissible refused
  · cases stop
  · constructor
    · rintro ⟨returned, -⟩
      cases returned
    · intro held
      exact absurd held.landed lost
  · exact ⟨fun both => both.2, fun held => ⟨rfl, held⟩⟩

/-- A clean bring-up of `Ethernet0`. -/
def bringUp : List (EnforcerCall × Faults String) := [(.ensureEapolTrap "Ethernet0", {})]

/-- Bring-up, then a grant whose read-back is denied: the port is open and the cache
still says closed. -/
def deniedGrant : List (EnforcerCall × Faults String) :=
  bringUp ++ [(.apply "Ethernet0" .port (.authorized { vlan := some "42" }), unconfirmedVlan)]

/-- After the denied grant, the grant is asked for again, and represented. -/
theorem apply_resyncs_after_deniedGrant :
    (SonicEnforcer.apply (redisConn String) "Ethernet0" .port (.authorized { vlan := some "42" })
        (afterCalls deniedGrant (.new emptyDatabases))).1 = .ok () ∧
      Represents ((SonicEnforcer.apply (redisConn String) "Ethernet0" .port
        (.authorized { vlan := some "42" })
        (afterCalls deniedGrant (.new emptyDatabases))).2.conn .config)
        "Ethernet0" (Desired.fromAuthorization (.authorized { vlan := some "42" })) := by
  have closed : Represents ((afterCalls bringUp (.new emptyDatabases)).conn .config)
      "Ethernet0" {} :=
    represents_bringUp (noEntries_empty "Ethernet0")
  have landed : Represents ((afterCalls deniedGrant (.new emptyDatabases)).conn .config)
      "Ethernet0" (Desired.fromAuthorization (.authorized { vlan := some "42" })) :=
    represents_transition (by decide) closed
  refine (apply_resyncs_iff _ _ _ _ _ ?_ ?_).mpr (landed.retried (by decide))
  · rintro vlan ⟨⟩
    decide
  · rintro table ⟨⟩

/-- After the denied grant, `apply(Unauthorized)` plans nothing and returns an error;
the port stays open. -/
theorem unauthorized_fails_to_reclose :
    ¬ ∀ (history : List (EnforcerCall × Faults String)) (port : String) (target : Target)
      (auth : PortAuthorization),
      (∀ vlan, (Desired.fromAuthorization auth).vlan = some vlan → isValidVlan vlan = true) →
      (∀ table, (Desired.fromAuthorization auth).filterId = some table →
        ((afterCalls history (.new emptyDatabases)).conn .config (aclTableKey table)).isSome = true) →
      (SonicEnforcer.apply (redisConn String) port target auth
          (afterCalls history (.new emptyDatabases))).1 = .ok () ∧
        Represents ((SonicEnforcer.apply (redisConn String) port target auth
          (afterCalls history (.new emptyDatabases))).2.conn .config) port
          (Desired.fromAuthorization auth) := by
  intro claim
  have closed := (claim deniedGrant "Ethernet0" .port .unauthorized (by rintro _ ⟨⟩)
    (by rintro _ ⟨⟩)).2.deny
  revert closed
  decide

end Authenticator.Enforce
