/-
# Enforce.Lossy -- grants on writes that did not land

A backend may acknowledge a batch and still lose some of it.  `lossyConn` performs any
part of what it is given and always answers `Ok`; its reads are truthful.  What `apply`
then knows is what it reads back: the VLAN membership when one is assigned, else the deny
rule.  The binding in the Filter-Id's table is never read back, and neither is the deny
rule of a port that was given a VLAN, so `lossy_apply_enforced_iff` is about these two.
-/
import Authenticator.Enforce.Resync

namespace Authenticator.Enforce

set_option autoImplicit false

open Authenticator.Pae Authenticator.Theory

/-- Which part of a batch takes effect. -/
structure Loss where
  landing : List DbOp → List DbOp
  sublist : ∀ ops, (landing ops).Sublist ops

/-- The connection that loses operations silently. -/
def lossyConn (ε : Type) (loss : Loss) : DbConn ε Databases where
  apply ops := fun dbs => (.ok (), runOps (loss.landing ops) dbs)
  confirm db key := fun dbs => (.ok (dbs db key).isSome, dbs)

/-- Lose one operation wherever it stands. -/
def Loss.of (lost : DbOp) : Loss where
  landing ops := ops.filter (· ≠ lost)
  sublist _ := List.filter_sublist

/-- CONFIG_DB enforces posture `d` on `port`: the deny rule is there exactly while the port
is closed, the assigned VLAN membership is there, and the port is bound to the table its
Filter-Id names. -/
structure Enforced (t : Table) (port : String) (d : Desired) : Prop where
  rule : (t (denyRuleKey port)).isSome = !d.authorized
  vlan : ∀ v, d.vlan = some v → (t (vlanMemberKey v port)).isSome = true
  filter : ∀ table, d.filterId = some table → port ∈ ports t table

/-! ## What a call that succeeds knows -/

/-- A call that succeeds over a lossy backend has performed what landed, and its read-back
was positive. -/
theorem SonicEnforcer.apply_lossy {ε : Type} {loss : Loss} {s : SonicEnforcer Databases}
    {port : String} {target : Target} {auth : PortAuthorization}
    (ran : (apply (lossyConn ε loss) port target auth s).1 = .ok ()) :
    let new := Desired.fromAuthorization auth
    let dbs := runOps (loss.landing (transition port (s.cached port) new)) s.conn
    (apply (lossyConn ε loss) port target auth s).2.conn = dbs ∧
      Landed ({} : Faults ε) dbs port new := by
  intro new dbs
  let wrote : SonicEnforcer Databases := { s with conn := dbs }
  -- The reads of the lossy connection are those of one without faults.
  have started : apply (lossyConn ε loss) port target auth s = (do
      checkVlan new
      checkFilter (faultyConn ({} : Faults ε)) new
      let old ← previous port
      onConn ((lossyConn ε loss).apply (transition port old new))
      confirmLanded (faultyConn ({} : Faults ε)) port new
      remember port new) s := rfl
  rw [started] at ran ⊢
  rcases checkVlan_checks s new with ⟨-, valid⟩ | ⟨-, e, refused⟩
  · rcases checkFilter_checks ({} : Faults ε) s new with ⟨-, found⟩ | ⟨-, e, refused⟩
    · rw [Prog.bind_ok valid, Prog.bind_ok found] at ran ⊢
      have written : (do
          let old ← previous port
          onConn ((lossyConn ε loss).apply (transition port old new))
          confirmLanded (faultyConn ({} : Faults ε)) port new
          remember port new : Prog (SonicError ε) _ _) s =
        (do
          confirmLanded (faultyConn ({} : Faults ε)) port new
          remember port new) wrote := rfl
      rw [written] at ran ⊢
      rcases confirmLanded_checks ({} : Faults ε) wrote port new with
        ⟨landed, confirmed⟩ | ⟨-, e, refused⟩
      · rw [Prog.bind_ok confirmed]
        exact ⟨rfl, landed⟩
      · rw [Prog.bind_error refused] at ran
        cases ran
    · rw [Prog.bind_ok valid, Prog.bind_error refused] at ran
      cases ran
  · rw [Prog.bind_error refused] at ran
    cases ran

/-- The writes that no read-back covers take effect, or were not needed: with a VLAN, the
deny rule was absent or its deletion lands; with a Filter-Id, the port was bound or its
binding lands, and a list field can hold its name. -/
structure UnreadLands (loss : Loss) (s : SonicEnforcer Databases) (port : String)
    (new : Desired) : Prop where
  rule : ∀ v, new.vlan = some v →
    (s.conn .config (denyRuleKey port)).isSome = false ∨
      del .config (denyRuleKey port) ∈ loss.landing (transition port (s.cached port) new)
  filter : ∀ table, new.filterId = some table →
    port ∈ ports (s.conn .config) table ∨
      (ListName port ∧ ⟨.config, .listAdd (aclTableKey table) "ports" port⟩ ∈
        loss.landing (transition port (s.cached port) new))

/-- **When a reported grant is enforced.**  After any history of calls that reported their
failures, a call over a backend that silently loses any part of the batch and returns `Ok`
leaves CONFIG_DB enforcing its posture if and only if the writes it does not read back
landed or were not needed. -/
theorem lossy_apply_enforced_iff {ε : Type} (start : Databases)
    (history : List (EnforcerCall × Faults ε)) (loss : Loss) (port : String) (target : Target)
    (auth : PortAuthorization)
    (ran : (SonicEnforcer.apply (lossyConn ε loss) port target auth
      (afterCalls history (.new start))).1 = .ok ()) :
    Enforced ((SonicEnforcer.apply (lossyConn ε loss) port target auth
        (afterCalls history (.new start))).2.conn .config) port (Desired.fromAuthorization auth) ↔
      UnreadLands loss (afterCalls history (.new start)) port (Desired.fromAuthorization auth) := by
  generalize afterCalls history (.new start) = s at ran ⊢
  obtain ⟨wrote, landed⟩ := SonicEnforcer.apply_lossy ran
  rw [wrote]
  have shut := @Desired.fromAuthorization_closed auth
  generalize Desired.fromAuthorization auth = new at shut landed ⊢
  have inside := (loss.sublist (transition port (s.cached port) new)).subset
  cases opens : new.authorized with
  | false =>
      have bare := shut opens
      subst bare
      have denied : (_ : Option Row).isSome = true := Except.ok.inj landed
      refine ⟨fun _ => ⟨?_, ?_⟩, fun _ => ⟨denied, ?_, ?_⟩⟩ <;> rintro _ ⟨⟩
  | true =>
      have rule := runOps_deleted s.conn fun op member _ same =>
        opening_deletes op (inside member) opens same
      have binding := fun table (named : new.filterId = some table) =>
        runOps_listed s.conn fun op member _ same =>
          opening_binds op (inside member) opens named same
      unfold Landed at landed
      rw [if_pos opens] at landed
      constructor
      · intro held
        refine ⟨?_, fun table named => (binding table named).mp (held.filter table named)⟩
        intro v _
        have gone := held.rule
        rw [opens, Bool.not_true, Bool.eq_false_iff, Ne, rule, not_and_not_right] at gone
        cases present : (s.conn .config (denyRuleKey port)).isSome with
        | false => exact Or.inl rfl
        | true => exact Or.inr (gone present)
      · intro lands
        have bound := fun table named => (binding table named).mpr (lands.filter table named)
        cases assigned : new.vlan with
        | none =>
            rw [assigned] at landed
            refine ⟨?_, by simp [assigned], bound⟩
            rw [opens]
            exact Except.ok.inj landed
        | some v =>
            rw [assigned] at landed
            refine ⟨?_, ?_, bound⟩
            · rw [opens, Bool.not_true, Bool.eq_false_iff, Ne, rule]
              rintro ⟨present, spared⟩
              rcases lands.rule v assigned with absent | deleted
              · rw [present] at absent
                cases absent
              · exact spared deleted
            · intro w same
              rw [Option.some.inj (same.symm.trans assigned)]
              exact Except.ok.inj landed

/-- A switch on which the operator has provisioned the table `EMPLOYEE`. -/
def provisioned : Databases :=
  runOps [⟨.config, .hSet (aclTableKey "EMPLOYEE") [("type", "L3"), ("stage", "ingress")]⟩]
    emptyDatabases

/-- A grant with a VLAN and a Filter-Id, of which only the deletion of the EAPOL permit
rule is lost. -/
theorem lossy_apply_enforced_employee :
    (SonicEnforcer.apply (lossyConn String (.of (del .config (eapolPermitKey "Ethernet0"))))
        "Ethernet0" .port (.authorized { vlan := some "42", filterId := some "EMPLOYEE" })
        (afterCalls bringUp (.new provisioned))).1 = .ok () ∧
      Enforced ((SonicEnforcer.apply
        (lossyConn String (.of (del .config (eapolPermitKey "Ethernet0"))))
        "Ethernet0" .port (.authorized { vlan := some "42", filterId := some "EMPLOYEE" })
        (afterCalls bringUp (.new provisioned))).2.conn .config) "Ethernet0"
        { authorized := true, vlan := some "42", filterId := some "EMPLOYEE" } := by
  have ran : (SonicEnforcer.apply
      (lossyConn String (.of (del .config (eapolPermitKey "Ethernet0"))))
      "Ethernet0" .port (.authorized { vlan := some "42", filterId := some "EMPLOYEE" })
      (afterCalls bringUp (.new provisioned))).1 = .ok () := by decide
  refine ⟨ran, (lossy_apply_enforced_iff _ _ _ _ _ _ ran).mpr ⟨?_, ?_⟩⟩
  · intro v _
    exact Or.inr (by decide)
  · rintro table ⟨⟩
    exact Or.inr (by decide)

/-- The same grant with its ACL binding lost returns `Ok`: the port is open on VLAN 42
without the ACL the server asked for. -/
theorem lossy_apply_drops_acl :
    ¬ ∀ (start : Databases) (history : List (EnforcerCall × Faults String)) (loss : Loss)
      (port : String) (target : Target) (auth : PortAuthorization),
      (SonicEnforcer.apply (lossyConn String loss) port target auth
        (afterCalls history (.new start))).1 = .ok () →
      Enforced ((SonicEnforcer.apply (lossyConn String loss) port target auth
        (afterCalls history (.new start))).2.conn .config) port
        (Desired.fromAuthorization auth) := by
  intro claim
  have bound := (claim provisioned bringUp
    (.of ⟨.config, .listAdd (aclTableKey "EMPLOYEE") "ports" "Ethernet0"⟩) "Ethernet0" .port
    (.authorized { vlan := some "42", filterId := some "EMPLOYEE" }) (by decide)).filter
    "EMPLOYEE" rfl
  revert bound
  decide

end Authenticator.Enforce
