/-
# Enforce.Enforcer -- the SONiC enforcer, its cache and its failures

`SonicEnforcer` plans each change against the last posture it recorded for the
port, writes the batch, and records the new posture only when the read-back
succeeds.  The target of a call is accepted and ignored: all targets of a port
share one posture.

`apply_cases` says once what a call does under any failure pattern; every result
about the enforcer goes through it.
-/
import Authenticator.Enforce.Represent

namespace Authenticator.Enforce

set_option autoImplicit false

open Authenticator.Pacp Authenticator.Pae Authenticator.Theory

universe u v

/-- What an authorization applies to on a port. -/
inductive Target where
  | port
  | mac (mac : MacAddr)
  deriving DecidableEq, Repr

inductive SonicError (ε : Type u) where
  | backend (e : ε)
  | unconfirmed (db : Db) (key : String)
  | invalidVlan (vlan : String)
  deriving DecidableEq

/-- A connection and the last posture applied per port. -/
structure SonicEnforcer (ω : Type v) where
  conn : ω
  applied : String → Option Desired

namespace SonicEnforcer

section Code

variable {ε : Type} {ω : Type} (conn : DbConn ε ω)

/-- Wrap a database connection. -/
def new (state : ω) : SonicEnforcer ω := { conn := state, applied := fun _ => none }

/-- A call on the connection; its errors are backend errors. -/
def onConn {α : Type} (m : Prog ε ω α) : Prog (SonicError ε) (SonicEnforcer ω) α :=
  (m.mapError .backend).zoom SonicEnforcer.conn fun state s => { s with conn := state }

def previous (port : String) : Prog (SonicError ε) (SonicEnforcer ω) Desired := do
  let s ← Prog.get
  return (s.applied port).getD {}

def remember (port : String) (desired : Desired) : Prog (SonicError ε) (SonicEnforcer ω) Unit :=
  Prog.modify fun s => { s with applied := Function.update s.applied port (some desired) }

/-- Require `key` to exist in `db`, else fail closed. -/
def requirePresent (db : Db) (key : String) : Prog (SonicError ε) (SonicEnforcer ω) Unit := do
  if ← onConn (conn.confirm db key) then pure () else Prog.fail (.unconfirmed db key)

/-- Require `key` to be absent in `db`, else fail closed. -/
def requireAbsent (db : Db) (key : String) : Prog (SonicError ε) (SonicEnforcer ω) Unit := do
  if ← onConn (conn.confirm db key) then Prog.fail (.unconfirmed db key) else pure ()

/-- Install the EAPOL trap and close the controlled port. -/
def ensureEapolTrap (port : String) : Prog (SonicError ε) (SonicEnforcer ω) Unit := do
  onConn (conn.apply (planEapolTrap ++ planClose port))
  requirePresent conn .config eapolTrapKey
  requirePresent conn .config (denyRuleKey port)
  remember port {}

/-- Fail closed on a VLAN that is not a SONiC VLAN id. -/
def checkVlan (desired : Desired) : Prog (SonicError ε) (SonicEnforcer ω) Unit :=
  match desired.vlan with
  | some vlan => if isValidVlan vlan then pure () else Prog.fail (.invalidVlan vlan)
  | none => pure ()

/-- Fail closed if the Filter-Id table is not provisioned on the switch. -/
def checkFilter (desired : Desired) : Prog (SonicError ε) (SonicEnforcer ω) Unit :=
  match desired.filterId with
  | some table => requirePresent conn .config (aclTableKey table)
  | none => pure ()

/-- Confirm the load-bearing change landed. -/
def confirmLanded (port : String) (desired : Desired) :
    Prog (SonicError ε) (SonicEnforcer ω) Unit :=
  if desired.authorized then
    match desired.vlan with
    | some vlan => requirePresent conn .config (vlanMemberKey vlan port)
    | none => requireAbsent conn .config (denyRuleKey port)
  else requirePresent conn .config (denyRuleKey port)

def apply (port : String) (_target : Target) (auth : PortAuthorization) :
    Prog (SonicError ε) (SonicEnforcer ω) Unit := do
  let new := Desired.fromAuthorization auth
  checkVlan new
  checkFilter conn new
  let old ← previous port
  onConn (conn.apply (transition port old new))
  confirmLanded conn port new
  remember port new

end Code

end SonicEnforcer

/-! ## What a call does under a failure pattern -/

section Faulty

variable {ε : Type} (faults : Faults ε)

/-- The posture passes the checks made before anything is written. -/
def Admissible (dbs : Databases) (new : Desired) : Prop :=
  (∀ vlan, new.vlan = some vlan → isValidVlan vlan = true) ∧
    ∀ table, new.filterId = some table → faults.reads dbs .config (aclTableKey table) = .ok true

/-- The read-back after the batch is positive. -/
def Landed (dbs : Databases) (port : String) (new : Desired) : Prop :=
  if new.authorized then
    match new.vlan with
    | some vlan => faults.reads dbs .config (vlanMemberKey vlan port) = .ok true
    | none => faults.reads dbs .config (denyRuleKey port) = .ok false
  else faults.reads dbs .config (denyRuleKey port) = .ok true

namespace SonicEnforcer

variable (s : SonicEnforcer Databases) (port : String)

/-- The cached posture. -/
def cached : Desired := (s.applied port).getD {}

theorem confirm_run (db : Db) (key : String) :
    onConn ((faultyConn faults).confirm db key) s =
      ((faults.reads s.conn db key).mapError SonicError.backend, s) := rfl

theorem requirePresent_checks (db : Db) (key : String) :
    (requirePresent (faultyConn faults) db key).Checks s (faults.reads s.conn db key = .ok true) := by
  have read := confirm_run faults s db key
  unfold requirePresent
  rcases answer : faults.reads s.conn db key with e | _ | _ <;> rw [answer] at read
  · exact Or.inr ⟨by simp, _, Prog.bind_error read _⟩
  · exact Or.inr ⟨by simp, _, (Prog.bind_ok read _).trans rfl⟩
  · exact Or.inl ⟨rfl, (Prog.bind_ok read _).trans rfl⟩

theorem requireAbsent_checks (db : Db) (key : String) :
    (requireAbsent (faultyConn faults) db key).Checks s (faults.reads s.conn db key = .ok false) := by
  have read := confirm_run faults s db key
  unfold requireAbsent
  rcases answer : faults.reads s.conn db key with e | _ | _ <;> rw [answer] at read
  · exact Or.inr ⟨by simp, _, Prog.bind_error read _⟩
  · exact Or.inl ⟨rfl, (Prog.bind_ok read _).trans rfl⟩
  · exact Or.inr ⟨by simp, _, (Prog.bind_ok read _).trans rfl⟩

theorem checkVlan_checks (new : Desired) :
    (checkVlan new : Prog (SonicError ε) _ _).Checks s
      (∀ vlan, new.vlan = some vlan → isValidVlan vlan = true) := by
  unfold checkVlan
  cases new.vlan with
  | none => exact .pure_ok (by simp)
  | some vlan =>
      dsimp only
      by_cases valid : isValidVlan vlan = true
      · rw [if_pos valid]
        exact .pure_ok (by simpa using valid)
      · rw [if_neg valid]
        exact .fail _ (by simpa using valid)

theorem checkFilter_checks (new : Desired) :
    (checkFilter (faultyConn faults) new).Checks s
      (∀ table, new.filterId = some table →
        faults.reads s.conn .config (aclTableKey table) = .ok true) := by
  unfold checkFilter
  cases new.filterId with
  | none => exact .pure_ok (by simp)
  | some table => simpa using requirePresent_checks faults s .config (aclTableKey table)

theorem confirmLanded_checks (new : Desired) :
    (confirmLanded (faultyConn faults) port new).Checks s (Landed faults s.conn port new) := by
  unfold confirmLanded Landed
  split
  · split
    · exact requirePresent_checks faults s _ _
    · exact requireAbsent_checks faults s _ _
  · exact requirePresent_checks faults s _ _

/-- The batch under a failure pattern. -/
theorem apply_run (ops : List DbOp) :
    onConn ((faultyConn faults).apply ops) s =
      match faults.stop with
      | none => (.ok (), { s with conn := runOps ops s.conn })
      | some (performed, e) =>
          (.error (.backend e), { s with conn := runOps (ops.take performed) s.conn }) := by
  unfold onConn Prog.zoom Prog.mapError faultyConn
  cases faults.stop <;> rfl

/-- **What one call does**, under any failure pattern. -/
theorem apply_cases (target : Target) (auth : PortAuthorization) :
    let new := Desired.fromAuthorization auth
    let ops := transition port (s.cached port) new
    let r := apply (faultyConn faults) port target auth s
    (¬ Admissible faults s.conn new ∧ ∃ e, r = (.error e, s)) ∨
    (Admissible faults s.conn new ∧ ∃ performed e, faults.stop = some (performed, e) ∧
      r = (.error (.backend e), { s with conn := runOps (ops.take performed) s.conn })) ∨
    (Admissible faults s.conn new ∧ faults.stop = none ∧
      ¬ Landed faults (runOps ops s.conn) port new ∧
      ∃ e, r = (.error e, { s with conn := runOps ops s.conn })) ∨
    (Admissible faults s.conn new ∧ faults.stop = none ∧
      Landed faults (runOps ops s.conn) port new ∧
      r = (.ok (), { conn := runOps ops s.conn,
                     applied := Function.update s.applied port (some new) })) := by
  intro new ops r
  rcases checkVlan_checks s new with ⟨valid, vlanRan⟩ | ⟨invalid, e, vlanRan⟩
  · rcases checkFilter_checks faults s new with ⟨found, filterRan⟩ | ⟨missing, e, filterRan⟩
    · have planned : r = (do
          onConn ((faultyConn faults).apply ops)
          confirmLanded (faultyConn faults) port new
          remember port new) s :=
        (Prog.bind_ok vlanRan _).trans (Prog.bind_ok filterRan _)
      have wrote := apply_run faults s ops
      cases stop : faults.stop with
      | some failure =>
          rw [stop] at wrote
          exact Or.inr (Or.inl ⟨⟨valid, found⟩, failure.1, failure.2, rfl,
            planned.trans (Prog.bind_error wrote _)⟩)
      | none =>
          rw [stop] at wrote
          rcases confirmLanded_checks faults { s with conn := runOps ops s.conn } port new with
            ⟨landed, ran⟩ | ⟨lost, e, ran⟩
          · exact Or.inr (Or.inr (Or.inr ⟨⟨valid, found⟩, rfl, landed,
              planned.trans ((Prog.bind_ok wrote _).trans (Prog.bind_ok ran _))⟩))
          · exact Or.inr (Or.inr (Or.inl ⟨⟨valid, found⟩, rfl, lost, e,
              planned.trans ((Prog.bind_ok wrote _).trans (Prog.bind_error ran _))⟩))
    · exact Or.inl ⟨fun both => missing both.2, e,
        (Prog.bind_ok vlanRan _).trans (Prog.bind_error filterRan _)⟩
  · exact Or.inl ⟨fun both => invalid both.1, e, Prog.bind_error vlanRan _⟩

end SonicEnforcer

end Faulty

end Authenticator.Enforce
