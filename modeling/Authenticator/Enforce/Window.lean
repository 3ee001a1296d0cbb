/-
# Enforce.Window -- what a half-applied transition leaves open

The backend applies the operations of a transition one at a time and may stop after
any of them.  `Shielded` says that a database in between is safe: an open port has
the ACL of one of the two postures, and a port that is being opened has its VLAN.

The ACL delta comes before the open/close delta, and in it the old ACL is unbound
first.  That order is right for opening a port and wrong for closing it or for
replacing its ACL; `shielded_iff` says exactly when no prefix opens a window.
-/
import Authenticator.Enforce.FailClosed

namespace Authenticator.Enforce

set_option autoImplicit false

open Authenticator.Pae

/-- The ACL that a posture asks for, if any, is bound to the port. -/
def Guarded (t : Table) (port : String) (d : Desired) : Prop :=
  ∀ table, d.filterId = some table → port ∈ ports t table

/-- CONFIG_DB holds posture `d` for `port`, and its ACL is bound even where the
Filter-Id names a table that is not an operator's. -/
structure Programmed (t : Table) (port : String) (d : Desired) : Prop
    extends Represents t port d where
  guarded : Guarded t port d

/-- While the port is open, an authorized posture of the two is guarded; and if the
port was closed, the VLAN membership of the new posture is in place. -/
def Shielded (t : Table) (port : String) (old new : Desired) : Prop :=
  t (denyRuleKey port) = none →
    ((old.authorized = true ∧ Guarded t port old) ∨ (new.authorized = true ∧ Guarded t port new)) ∧
      (old.authorized = false → ∀ v, new.vlan = some v →
        (t (vlanMemberKey v port)).isSome = true)

/-- Nothing that the transition unbinds is needed while the port is open, and what it
binds can be bound: a port that is closed has no ACL; one that stays open has no ACL
or is already bound to the next; one that is opened needs no ACL or has a name that
the list of a table can hold. -/
structure Gapless (t : Table) (port : String) (old new : Desired) : Prop where
  closing : old.authorized = true → new.authorized = false → old.filterId = none
  replacing : old.authorized = true → new.authorized = true →
    old.filterId = none ∨ Guarded t port new
  opening : old.authorized = false → new.authorized = true → new.filterId = none ∨ ListName port

theorem Guarded.of_none {d : Desired} (t : Table) (port : String) (free : d.filterId = none) :
    Guarded t port d := by
  intro table named
  rw [free] at named
  cases named

section Prefixes

variable {port : String} {old new : Desired} {dbs : Databases}

/-! ## Closing a port and replacing its ACL -/

/-- The prefix that ends with the unbinding of the old ACL. -/
theorem take_unbind {prev : String} (bound : old.filterId = some prev)
    (replaced : old.filterId ≠ new.filterId) :
    (transition port old new).take ((vlanDelta port old new).length + 1) =
      vlanDelta port old new ++ [⟨.config, .listRemove (aclTableKey prev) "ports" port⟩] := by
  have unbinds : filterDelta port old new =
      ⟨.config, .listRemove (aclTableKey prev) "ports" port⟩ ::
      new.filterId.toList.map fun next => ⟨.config, .listAdd (aclTableKey next) "ports" port⟩ := by
    rw [filterDelta, if_pos replaced, bound]
    rfl
  rw [transition, List.append_assoc, List.take_length_add_append, unbinds, List.cons_append,
    List.take_succ_cons, List.take_zero]

theorem unbind_keeps_deny {prev : String} (bound : old.filterId = some prev)
    (replaced : old.filterId ≠ new.filterId) :
    runOps ((transition port old new).take ((vlanDelta port old new).length + 1)) dbs .config
      (denyRuleKey port) = dbs .config (denyRuleKey port) := by
  rw [take_unbind bound replaced, runOps_append, runOps_cons, runOps_nil,
    DbOp.apply_of_ne (by simp [Op.key]), runOps_of_ne]
  rintro op member - same
  obtain ⟨-, v, -, written⟩ := mem_vlanDelta port old new member
  exact vlanMemberKey_ne_denyRuleKey v port port (written.symm.trans same.symm)

/-- After the unbinding, the port is in no table that did not list it, nor in that of
the old ACL. -/
theorem ports_unbind {prev table : String} (bound : old.filterId = some prev)
    (replaced : old.filterId ≠ new.filterId)
    (listed : port ∈ ports (runOps
      ((transition port old new).take ((vlanDelta port old new).length + 1)) dbs .config) table) :
    table ≠ prev ∧ port ∈ ports (dbs .config) table := by
  rw [take_unbind bound replaced, runOps_append, runOps_cons, runOps_nil, ports,
    DbOp.apply_self] at listed
  by_cases here : table = prev
  · subst here
    rw [mem_members_listRemove] at listed
    exact absurd rfl listed.1
  · have kept : hget ((Op.listRemove (aclTableKey prev) "ports" port).apply
        (runOps (vlanDelta port old new) dbs .config)) (aclTableKey table) "ports" =
        hget (runOps (vlanDelta port old new) dbs .config) (aclTableKey table) "ports" := by
      unfold hget
      rw [Op.apply_of_ne (by simpa [Op.key] using here)]
    rw [kept] at listed
    exact ⟨here, by rwa [← vlanDelta_ports port old new dbs table]⟩

/-- **The window.**  An open port whose ACL is unbound stands without one, unless the
new posture is open and its ACL, if any, was bound before. -/
theorem unbind_not_shielded {prev : String} (held : Programmed (dbs .config) port old)
    (opened : old.authorized = true) (bound : old.filterId = some prev)
    (replaced : old.filterId ≠ new.filterId)
    (bare : new.authorized = true → ¬ Guarded (dbs .config) port new) :
    ¬ Shielded (runOps ((transition port old new).take ((vlanDelta port old new).length + 1)) dbs
      .config) port old new := by
  intro shielded
  have absent : dbs .config (denyRuleKey port) = none := by
    simpa [opened] using held.deny
  have exposed := (unbind_keeps_deny bound replaced).trans absent
  rcases (shielded exposed).1 with ⟨-, guarded⟩ | ⟨authorized, guarded⟩
  · exact (ports_unbind bound replaced (guarded prev bound)).1 rfl
  · apply bare authorized
    intro table named
    exact (ports_unbind bound replaced (guarded table named)).2

/-- A port that is already bound to the next ACL stays so. -/
theorem guarded_kept (opens : new.authorized = true) (guarded : Guarded (dbs .config) port new)
    (performed : Nat) :
    Guarded (runOps ((transition port old new).take performed) dbs .config) port new := by
  intro next named
  refine (runOps_listed dbs fun op member _ same => ?_).mpr (Or.inl (guarded next named))
  exact opening_binds op (List.mem_of_mem_take member) opens named same

/-! ## Opening a port -/

/-- Past the deletion of the deny rule, every key but the two rules is as the deltas
ahead of it left it. -/
theorem opened_agrees (shut : old.authorized = false) (opens : new.authorized = true)
    {performed : Nat} (late : (transition port old new).length < performed + 2) {key : String}
    (deny : key ≠ denyRuleKey port) (permit : key ≠ eapolPermitKey port) :
    runOps ((transition port old new).take performed) dbs .config key =
      runOps (lead port old new) dbs .config key := by
  rw [transition_opening shut opens] at late ⊢
  have through : (lead port old new).length ≤ performed := by
    simp only [List.length_append, List.length_cons, List.length_nil] at late
    omega
  rw [List.take_append, List.take_of_length_le through, runOps_append, runOps_of_ne]
  intro op member _
  have rules := List.mem_of_mem_take member
  simp only [List.mem_cons, List.not_mem_nil, or_false] at rules
  rcases rules with rfl | rfl
  · exact deny
  · exact permit

theorem guarded_opening (shut : old.authorized = false) (opens : new.authorized = true)
    (free : old.filterId = none) (clean : ListName port) {performed : Nat}
    (late : (transition port old new).length < performed + 2) :
    Guarded (runOps ((transition port old new).take performed) dbs .config) port new := by
  intro table named
  unfold ports hget
  rw [opened_agrees shut opens late (denyRuleKey_ne_aclTableKey port table).symm
    (eapolPermitKey_ne_aclTableKey port table).symm]
  change port ∈ ports (runOps (lead port old new) dbs .config) table
  rw [lead, runOps_append, filterDelta_ports port old new _ clean]
  simp [free, named]

theorem vlan_opening (shut : old.authorized = false) (opens : new.authorized = true)
    (free : old.vlan = none) {v : String} (assigned : new.vlan = some v) {performed : Nat}
    (late : (transition port old new).length < performed + 2) :
    (runOps ((transition port old new).take performed) dbs .config (vlanMemberKey v port)).isSome =
      true := by
  have whole := transition_vlan port old new dbs v
  have deny := vlanMemberKey_ne_denyRuleKey v port port
  have permit := vlanMemberKey_ne_eapolPermitKey v port port
  rw [← @List.take_length _ (transition port old new),
    opened_agrees shut opens (by omega) deny permit] at whole
  rw [opened_agrees shut opens late deny permit, whole]
  simp [free, assigned]

/-- An open port whose name no list holds has no ACL bound. -/
theorem not_shielded_unlistable (shut : old.authorized = false) (opens : new.authorized = true)
    {table : String} (named : new.filterId = some table) (dirty : ¬ ListName port) :
    ¬ Shielded (runOps (transition port old new) dbs .config) port old new := by
  intro shielded
  have gone : runOps (transition port old new) dbs .config (denyRuleKey port) = none := by
    simpa [shut, opens] using transition_rule port old new dbs (Or.inl rfl)
  rcases (shielded gone).1 with ⟨opened, -⟩ | ⟨-, guarded⟩
  · rw [shut] at opened
    cases opened
  · exact not_mem_ports dirty _ table (guarded table named)

/-! ## Every prefix -/

/-- Each kind of move that is `Gapless` shields every prefix. -/
theorem shielded_of_gapless (held : Programmed (dbs .config) port old)
    (blank : old.authorized = false → old = {}) (gapless : Gapless (dbs .config) port old new)
    (performed : Nat) :
    Shielded (runOps ((transition port old new).take performed) dbs .config) port old new := by
  intro gone
  cases opened : old.authorized with
  | true =>
      refine ⟨?_, by simp⟩
      cases opens : new.authorized with
      | true =>
          rcases gapless.replacing opened opens with free | guarded
          · exact Or.inl ⟨rfl, Guarded.of_none _ _ free⟩
          · exact Or.inr ⟨rfl, guarded_kept opens guarded performed⟩
      | false => exact Or.inl ⟨rfl, Guarded.of_none _ _ (gapless.closing opened opens)⟩
  | false =>
      have closed : (dbs .config (denyRuleKey port)).isSome = true := by
        simpa [opened] using held.deny
      cases opens : new.authorized with
      | false =>
          have spared : ∀ op ∈ (transition port old new).take performed,
              op ≠ ⟨.config, .del (denyRuleKey port)⟩ := fun op member =>
            transition_spares_deny (Or.inr opens) op (List.mem_of_mem_take member)
          have kept := runOps_present spared closed
          simp [gone] at kept
      | true =>
          have late : (transition port old new).length < performed + 2 := by
            have stopped := opening_prefix_iff opened opens closed performed
            simp only [gone, Option.isSome_none, Bool.false_eq_true, false_iff] at stopped
            omega
          refine ⟨Or.inr ⟨rfl, ?_⟩, ?_⟩
          · rcases gapless.opening opened opens with free | clean
            · exact Guarded.of_none _ _ free
            · exact guarded_opening opened opens (by rw [blank opened]) clean late
          · intro _ v assigned
            exact vlan_opening opened opens (by rw [blank opened]) assigned late

/-- And a move that is not leaves a window after some prefix. -/
theorem gapless_of_shielded (held : Programmed (dbs .config) port old)
    (blank : new.authorized = false → new = {})
    (shielded : ∀ performed,
      Shielded (runOps ((transition port old new).take performed) dbs .config) port old new) :
    Gapless (dbs .config) port old new := by
  constructor
  · intro opened shuts
    by_contra bound
    obtain ⟨prev, bound⟩ := Option.ne_none_iff_exists'.mp bound
    exact unbind_not_shielded held opened bound (by simp [bound, blank shuts]) (by simp [shuts])
      (shielded _)
  · intro opened opens
    by_contra exposed
    rw [not_or] at exposed
    obtain ⟨prev, bound⟩ := Option.ne_none_iff_exists'.mp exposed.1
    -- an ACL that stays is bound already, so this one is replaced
    have replaced : old.filterId ≠ new.filterId := by
      intro same
      apply exposed.2
      intro table named
      exact held.guarded table (same.trans named)
    exact unbind_not_shielded held opened bound replaced (fun _ => exposed.2) (shielded _)
  · intro shut opens
    by_contra exposed
    rw [not_or] at exposed
    obtain ⟨table, named⟩ := Option.ne_none_iff_exists'.mp exposed.1
    have whole := shielded (transition port old new).length
    rw [List.take_length] at whole
    exact not_shielded_unlistable shut opens named exposed.2 whole

end Prefixes

/-- **When no prefix of a transition opens a window.**  The ACL of the old posture is
unbound before the port is closed and before the next ACL is bound, so a port that has
an ACL stands open without one while it is closed, and between two ACLs. -/
theorem shielded_iff (port : String) (before after : PortAuthorization) (dbs : Databases)
    (held : Programmed (dbs .config) port (.fromAuthorization before)) :
    (∀ performed, Shielded (runOps ((transition port (.fromAuthorization before)
        (.fromAuthorization after)).take performed) dbs .config) port
        (.fromAuthorization before) (.fromAuthorization after)) ↔
      Gapless (dbs .config) port (.fromAuthorization before) (.fromAuthorization after) := by
  constructor
  · exact gapless_of_shielded held Desired.fromAuthorization_closed
  · exact shielded_of_gapless held Desired.fromAuthorization_closed


/-- `Ethernet0` is open under the operator's `EMPLOYEE` table. -/
def employeePort : Databases :=
  runOps [⟨.config, .hSet (aclTableKey "EMPLOYEE") [("ports", "Ethernet0")]⟩] emptyDatabases

theorem programmed_employeePort :
    Programmed (employeePort .config) "Ethernet0"
      (.fromAuthorization (.authorized { filterId := some "EMPLOYEE" })) := by
  have absent : ∀ key, key ≠ aclTableKey "EMPLOYEE" → employeePort .config key = none := by
    intro key apart
    exact runOps_of_ne (by simpa [Op.key] using apart) emptyDatabases
  have listed : "Ethernet0" ∈ ports (employeePort .config) "EMPLOYEE" := by decide
  have deny := absent _ (denyRuleKey_ne_aclTableKey "Ethernet0" "EMPLOYEE")
  have permit := absent _ (eapolPermitKey_ne_aclTableKey "Ethernet0" "EMPLOYEE")
  refine ⟨⟨by simp [deny, Desired.fromAuthorization], by simp [permit, Desired.fromAuthorization],
    ?_, ?_⟩, ?_⟩
  · intro v
    simp [absent _ (vlanMemberKey_ne_aclTableKey v "Ethernet0" "EMPLOYEE"),
      Desired.fromAuthorization]
  · intro table _
    by_cases here : table = "EMPLOYEE"
    · subst here
      exact ⟨fun _ => rfl, fun _ => listed⟩
    · have outside := absent (aclTableKey table) (by rwa [Ne, aclTableKey_inj])
      simp [ports, hget, outside, members, Desired.fromAuthorization, Ne.symm here]
  · rintro table named
    obtain rfl : "EMPLOYEE" = table := Option.some.inj named
    exact listed

/-- Moving the port to a VLAN under the ACL it has opens no window. -/
theorem shielded_under_same_acl :
    Programmed (employeePort .config) "Ethernet0"
        (.fromAuthorization (.authorized { filterId := some "EMPLOYEE" })) ∧
      ∀ performed, Shielded (runOps ((transition "Ethernet0"
        (.fromAuthorization (.authorized { filterId := some "EMPLOYEE" }))
        (.fromAuthorization (.authorized { vlan := some "42", filterId := some "EMPLOYEE" }))).take
          performed) employeePort .config) "Ethernet0"
        (.fromAuthorization (.authorized { filterId := some "EMPLOYEE" }))
        (.fromAuthorization (.authorized { vlan := some "42", filterId := some "EMPLOYEE" })) := by
  refine ⟨programmed_employeePort, (shielded_iff "Ethernet0" _ _ employeePort
    programmed_employeePort).mpr ⟨by decide, ?_, by decide⟩⟩
  exact fun _ _ => Or.inr programmed_employeePort.guarded

/-- Closing the port unbinds its ACL first, and leaves it open without one. -/
theorem closing_opens_window :
    ¬ ∀ (port : String) (before after : PortAuthorization) (dbs : Databases),
      Programmed (dbs .config) port (.fromAuthorization before) →
      ∀ performed, Shielded (runOps ((transition port (.fromAuthorization before)
        (.fromAuthorization after)).take performed) dbs .config) port
        (.fromAuthorization before) (.fromAuthorization after) := by
  intro claim
  refine unbind_not_shielded programmed_employeePort rfl rfl ?_ ?_
    (claim "Ethernet0" _ .unauthorized employeePort programmed_employeePort _)
  · decide
  · intro opens
    cases opens

end Authenticator.Enforce
