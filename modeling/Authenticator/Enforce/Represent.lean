/-
# Enforce.Represent -- delta planning is equivalent to full reprogramming

`Represents` says when CONFIG_DB holds a posture for a port: the deny and permit
rules are there exactly while the port is closed, one VLAN membership or none, and
the port listed in exactly the operator table its Filter-Id names.

Each delta of `transition` is read on its own aspect and shown to leave the others
alone; `represents_transition` puts the three together, and `represents_plan` takes
it over any sequence of postures.
-/
import Authenticator.Enforce.Schema

namespace Authenticator.Enforce

set_option autoImplicit false

open Authenticator.Pae

/-- The ports listed in an ACL table. -/
def ports (t : Table) (table : String) : List String := members (hget t (aclTableKey table) "ports")

/-- CONFIG_DB holds posture `d` for `port`. -/
structure Represents (t : Table) (port : String) (d : Desired) : Prop where
  deny : (t (denyRuleKey port)).isSome = !d.authorized
  permit : (t (eapolPermitKey port)).isSome = !d.authorized
  vlan : ∀ v, (t (vlanMemberKey v port)).isSome = true ↔ d.vlan = some v
  filter : ∀ table, OperatorTable table → (port ∈ ports t table ↔ d.filterId = some table)

variable (port : String) (old new : Desired) (dbs : Databases)

/-! ## The keys a transition writes -/

theorem mem_vlanDelta {op : DbOp} (member : op ∈ vlanDelta port old new) :
    op.db = .config ∧
      ∃ v, (old.vlan = some v ∨ new.vlan = some v) ∧ op.op.key = vlanMemberKey v port := by
  unfold vlanDelta at member
  split at member
  · simp only [List.mem_append, List.mem_map, Option.mem_toList] at member
    rcases member with ⟨v, known, rfl⟩ | ⟨v, known, rfl⟩
    · exact ⟨rfl, v, Or.inl known, rfl⟩
    · exact ⟨rfl, v, Or.inr known, rfl⟩
  · cases member

theorem mem_filterDelta {op : DbOp} (member : op ∈ filterDelta port old new) :
    op.db = .config ∧
      ∃ table, (old.filterId = some table ∨ new.filterId = some table) ∧
        op.op.key = aclTableKey table := by
  unfold filterDelta at member
  split at member
  · simp only [List.mem_append, List.mem_map, Option.mem_toList] at member
    rcases member with ⟨table, known, rfl⟩ | ⟨table, known, rfl⟩
    · exact ⟨rfl, table, Or.inl known, rfl⟩
    · exact ⟨rfl, table, Or.inr known, rfl⟩
  · cases member

theorem mem_closeControlledPort {op : DbOp} (member : op ∈ closeControlledPort port) :
    op.db = .config ∧ (op.op.key = denyRuleKey port ∨ op.op.key = eapolPermitKey port ∨
      op.op.key = aclTableKey (denyTable port)) := by
  simp only [closeControlledPort, List.mem_cons, List.not_mem_nil, or_false] at member
  rcases member with rfl | rfl | rfl <;> simp [Op.key]

theorem mem_controlledDelta {op : DbOp} (member : op ∈ controlledDelta port old new) :
    op.db = .config ∧ (op.op.key = denyRuleKey port ∨ op.op.key = eapolPermitKey port ∨
      op.op.key = aclTableKey (denyTable port)) := by
  unfold controlledDelta at member
  split at member
  · split at member
    · simp only [openControlledPort, List.mem_cons, List.not_mem_nil, or_false] at member
      rcases member with rfl | rfl <;> simp [del, Op.key]
    · exact mem_closeControlledPort port member
  · cases member

/-- The keys a transition may write. -/
def Touches (key : String) : Prop :=
  (∃ v, (old.vlan = some v ∨ new.vlan = some v) ∧ key = vlanMemberKey v port) ∨
    (∃ table, (old.filterId = some table ∨ new.filterId = some table) ∧ key = aclTableKey table) ∨
    key = denyRuleKey port ∨ key = eapolPermitKey port ∨ key = aclTableKey (denyTable port)

theorem mem_transition {op : DbOp} (member : op ∈ transition port old new) :
    op.db = .config ∧ Touches port old new op.op.key := by
  simp only [transition, List.mem_append] at member
  rcases member with (member | member) | member
  · obtain ⟨config, touched⟩ := mem_vlanDelta port old new member
    exact ⟨config, Or.inl touched⟩
  · obtain ⟨config, touched⟩ := mem_filterDelta port old new member
    exact ⟨config, Or.inr (Or.inl touched)⟩
  · obtain ⟨config, touched⟩ := mem_controlledDelta port old new member
    exact ⟨config, Or.inr (Or.inr touched)⟩

/-- **Frame.**  A transition keeps every key it does not touch. -/
theorem transition_frame {key : String} (apart : ¬ Touches port old new key) :
    runOps (transition port old new) dbs .config key = dbs .config key := by
  apply runOps_of_ne
  rintro op member - rfl
  exact apart (mem_transition port old new member).2

/-! ## Each aspect, one delta at a time -/

theorem vlanDelta_present (v : String) :
    (runOps (vlanDelta port old new) dbs .config (vlanMemberKey v port)).isSome = true ↔
      if old.vlan = new.vlan then (dbs .config (vlanMemberKey v port)).isSome = true
      else new.vlan = some v ∨
        (old.vlan ≠ some v ∧ (dbs .config (vlanMemberKey v port)).isSome = true) := by
  unfold vlanDelta
  by_cases same : old.vlan = new.vlan
  · simp [same]
  · rw [if_pos same, if_neg same, runOps_append]
    have removed : ∀ dbs : Databases,
        (runOps (old.vlan.toList.map fun prev => del .config (vlanMemberKey prev port)) dbs .config
          (vlanMemberKey v port)).isSome = true ↔
        old.vlan ≠ some v ∧ (dbs .config (vlanMemberKey v port)).isSome = true := by
      intro dbs
      cases old.vlan with
      | none => simp
      | some prev =>
          by_cases here : v = prev
          · subst here
            simp [del]
          · simp only [Option.toList_some, List.map_cons, List.map_nil, runOps_cons, runOps_nil,
              del, DbOp.apply_self, ne_eq, Option.some.injEq]
            rw [Op.apply_of_ne (by simpa [Op.key] using here)]
            simp [Ne.symm here]
    cases assigned : new.vlan with
    | none =>
        simp only [Option.toList_none, List.map_nil, runOps_nil, reduceCtorEq, false_or]
        exact removed dbs
    | some next =>
        simp only [Option.toList_some, List.map_cons, List.map_nil, runOps_cons, runOps_nil,
          DbOp.apply_self, Option.some.injEq]
        by_cases here : v = next
        · subst here
          simp [Op.apply_hSet_isSome]
        · rw [Op.apply_of_ne (by simpa [Op.key] using here), removed dbs]
          simp [Ne.symm here]

/-- The VLAN delta keeps the members of every ACL table. -/
theorem vlanDelta_ports (table : String) :
    ports (runOps (vlanDelta port old new) dbs .config) table = ports (dbs .config) table := by
  unfold ports hget
  rw [runOps_of_ne]
  rintro op member - same
  obtain ⟨-, v, -, written⟩ := mem_vlanDelta port old new member
  exact vlanMemberKey_ne_aclTableKey v port table (written.symm.trans same.symm)

/-- The members of an ACL table after the named-ACL delta. -/
theorem filterDelta_ports (clean : ListName port) (table name : String) :
    name ∈ ports (runOps (filterDelta port old new) dbs .config) table ↔
      if old.filterId = new.filterId ∨ name ≠ port then name ∈ ports (dbs .config) table
      else new.filterId = some table ∨
        (old.filterId ≠ some table ∧ name ∈ ports (dbs .config) table) := by
  have untouched : ∀ (t : Table) (op : Op), aclTableKey table ≠ op.key →
      ports (op.apply t) table = ports t table := by
    intro t op apart
    simp only [ports, hget, Op.apply_of_ne apart]
  have removed : ∀ dbs : Databases,
      name ∈ ports (runOps (old.filterId.toList.map fun prev =>
        ⟨.config, .listRemove (aclTableKey prev) "ports" port⟩) dbs .config) table ↔
      (old.filterId = some table → name ≠ port) ∧ name ∈ ports (dbs .config) table := by
    intro dbs
    cases old.filterId with
    | none => simp
    | some prev =>
        simp only [Option.toList_some, List.map_cons, List.map_nil, runOps_cons, runOps_nil,
          DbOp.apply_self, Option.some.injEq]
        by_cases here : prev = table
        · subst here
          simp only [ports, mem_members_listRemove, forall_const]
        · rw [untouched _ _ (by simpa [Op.key] using Ne.symm here)]
          simp [here]
  have added : ∀ dbs : Databases,
      name ∈ ports (runOps (new.filterId.toList.map fun next =>
        ⟨.config, .listAdd (aclTableKey next) "ports" port⟩) dbs .config) table ↔
      (new.filterId = some table ∧ name = port) ∨ name ∈ ports (dbs .config) table := by
    intro dbs
    cases new.filterId with
    | none => simp
    | some next =>
        simp only [Option.toList_some, List.map_cons, List.map_nil, runOps_cons, runOps_nil,
          DbOp.apply_self, Option.some.injEq]
        by_cases here : next = table
        · subst here
          simp only [ports, mem_members_listAdd clean, true_and]
        · rw [untouched _ _ (by simpa [Op.key] using Ne.symm here)]
          simp [here]
  unfold filterDelta
  by_cases same : old.filterId = new.filterId
  · simp [same]
  · rw [if_pos same, runOps_append, added, removed]
    by_cases own : name = port
    · simp [same, own]
    · simp [own]

/-- The rules of the port after the open/close delta. -/
theorem controlledDelta_present {key : String}
    (rule : key = denyRuleKey port ∨ key = eapolPermitKey port) :
    (runOps (controlledDelta port old new) dbs .config key).isSome =
      if old.authorized = new.authorized then (dbs .config key).isSome else !new.authorized := by
  unfold controlledDelta
  by_cases same : old.authorized = new.authorized
  · simp [same]
  · rw [if_pos same, if_neg same]
    cases new.authorized with
    | true =>
        simp only [if_true, openControlledPort, del, runOps_cons, runOps_nil, DbOp.apply_self,
          Bool.not_true]
        rcases rule with rfl | rfl
        · rw [Op.apply_of_ne (by simp [Op.key])]
          simp
        · simp
    | false =>
        simp only [Bool.false_eq_true, if_false, closeControlledPort, runOps_cons, runOps_nil,
          DbOp.apply_self, Bool.not_false]
        rcases rule with rfl | rfl
        · exact Op.apply_hSet_isSome _ _ _ _
        · rw [Op.apply_of_ne (by simp [Op.key, Ne.symm])]
          exact Op.apply_hSet_isSome _ _ _ _

/-! ## The whole transition -/

theorem transition_vlan (v : String) :
    (runOps (transition port old new) dbs .config (vlanMemberKey v port)).isSome = true ↔
      if old.vlan = new.vlan then (dbs .config (vlanMemberKey v port)).isSome = true
      else new.vlan = some v ∨
        (old.vlan ≠ some v ∧ (dbs .config (vlanMemberKey v port)).isSome = true) := by
  rw [transition, runOps_append, runOps_append, runOps_of_ne, runOps_of_ne]
  · exact vlanDelta_present port old new dbs v
  · rintro op member - same
    obtain ⟨-, table, -, written⟩ := mem_filterDelta port old new member
    simp [written] at same
  · rintro op member - same
    obtain ⟨-, written | written | written⟩ := mem_controlledDelta port old new member <;>
      simp [written] at same

theorem transition_ports (clean : ListName port) {table : String} (foreign : table ≠ denyTable port)
    (name : String) :
    name ∈ ports (runOps (transition port old new) dbs .config) table ↔
      if old.filterId = new.filterId ∨ name ≠ port then name ∈ ports (dbs .config) table
      else new.filterId = some table ∨
        (old.filterId ≠ some table ∧ name ∈ ports (dbs .config) table) := by
  have outside : ∀ dbs : Databases,
      ports (runOps (controlledDelta port old new) dbs .config) table = ports (dbs .config) table := by
    intro dbs
    unfold ports hget
    rw [runOps_of_ne]
    rintro op member - same
    obtain ⟨-, written | written | written⟩ := mem_controlledDelta port old new member
    · exact denyRuleKey_ne_aclTableKey port table (written.symm.trans same.symm)
    · exact eapolPermitKey_ne_aclTableKey port table (written.symm.trans same.symm)
    · exact foreign ((aclTableKey_inj _ _).mp (same.trans written))
  rw [transition, runOps_append, runOps_append, outside, filterDelta_ports port old new _ clean,
    vlanDelta_ports]

theorem transition_rule {key : String} (rule : key = denyRuleKey port ∨ key = eapolPermitKey port) :
    (runOps (transition port old new) dbs .config key).isSome =
      if old.authorized = new.authorized then (dbs .config key).isSome else !new.authorized := by
  have apartVlan : ∀ v, key ≠ vlanMemberKey v port := by
    rcases rule with rfl | rfl <;> intro v same
    · exact vlanMemberKey_ne_denyRuleKey v port port same.symm
    · exact vlanMemberKey_ne_eapolPermitKey v port port same.symm
  have apartTable : ∀ table, key ≠ aclTableKey table := by
    rcases rule with rfl | rfl <;> intro table same
    · exact denyRuleKey_ne_aclTableKey port table same
    · exact eapolPermitKey_ne_aclTableKey port table same
  have kept : runOps (filterDelta port old new) (runOps (vlanDelta port old new) dbs) .config key =
      dbs .config key := by
    rw [runOps_of_ne, runOps_of_ne]
    · rintro op member - same
      obtain ⟨-, v, -, written⟩ := mem_vlanDelta port old new member
      exact apartVlan v (same.trans written)
    · rintro op member - same
      obtain ⟨-, table, -, written⟩ := mem_filterDelta port old new member
      exact apartTable table (same.trans written)
  rw [transition, runOps_append, runOps_append, controlledDelta_present port old new _ rule, kept]

variable {port old new dbs}

/-- **A transition moves the representation from `old` to `new`.** -/
theorem represents_transition (clean : ListName port) (held : Represents (dbs .config) port old) :
    Represents (runOps (transition port old new) dbs .config) port new := by
  have rule : ∀ key, key = denyRuleKey port ∨ key = eapolPermitKey port →
      (dbs .config key).isSome = !old.authorized →
      (runOps (transition port old new) dbs .config key).isSome = !new.authorized := by
    intro key kind before
    rw [transition_rule port old new dbs kind]
    split
    · rename_i same
      rw [before, same]
    · rfl
  refine ⟨rule _ (Or.inl rfl) held.deny, rule _ (Or.inr rfl) held.permit, ?_, ?_⟩
  · intro v
    rw [transition_vlan, held.vlan v]
    split
    · rename_i same
      rw [same]
    · tauto
  · intro table operator
    rw [transition_ports port old new dbs clean (operator.ne_denyTable port), held.filter table operator]
    split
    · rename_i same
      rcases same with same | apart
      · rw [same]
      · exact absurd rfl apart
    · tauto

/-- Planning is silent exactly when nothing changes. -/
theorem transition_eq_nil_iff (port : String) (old new : Desired) :
    transition port old new = [] ↔ old = new := by
  have vlans : vlanDelta port old new = [] ↔ old.vlan = new.vlan := by
    unfold vlanDelta
    split
    · cases before : old.vlan <;> cases after : new.vlan <;> simp_all
    · simp_all
  have filters : filterDelta port old new = [] ↔ old.filterId = new.filterId := by
    unfold filterDelta
    split
    · cases before : old.filterId <;> cases after : new.filterId <;> simp_all
    · simp_all
  have rules : controlledDelta port old new = [] ↔ old.authorized = new.authorized := by
    unfold controlledDelta
    split
    · split <;> simp_all [openControlledPort, closeControlledPort]
    · simp_all
  rw [transition, List.append_eq_nil_iff, List.append_eq_nil_iff, vlans, filters, rules]
  cases old
  cases new
  simp only [Desired.mk.injEq]
  tauto

/-! ## What part of a transition does -/

section Part

variable {table : String} {part : List DbOp} (dbs)

theorem not_mem_ports (unclean : ¬ ListName port) (t : Table) (table : String) :
    port ∉ ports t table := fun member => unclean (listName_of_mem member)

/-- A key that a batch at most deletes is there afterwards unless it does. -/
theorem runOps_deleted {key : String}
    (only : ∀ op ∈ part, op.db = .config → key = op.op.key → op = del .config key) :
    (runOps part dbs .config key).isSome = true ↔
      (dbs .config key).isSome = true ∧ del .config key ∉ part := by
  induction part generalizing dbs with
  | nil => simp
  | cons op rest ih =>
      have later := fun next (member : next ∈ rest) => only next (List.mem_cons_of_mem _ member)
      rw [runOps_cons, ih _ later]
      by_cases here : op = del .config key
      · subst here
        simp [del]
      · have kept : op.apply dbs .config key = dbs .config key :=
          DbOp.apply_of_ne (fun config same => here (only op List.mem_cons_self config same)) dbs
        rw [kept, List.mem_cons, not_or]
        exact and_congr_right fun _ => (and_iff_right (Ne.symm here)).symm

/-- A list field that a batch at most adds `port` to. -/
theorem runOps_listed
    (only : ∀ op ∈ part, op.db = .config → aclTableKey table = op.op.key →
      op = ⟨.config, .listAdd (aclTableKey table) "ports" port⟩) :
    port ∈ ports (runOps part dbs .config) table ↔
      port ∈ ports (dbs .config) table ∨
        (ListName port ∧ ⟨.config, .listAdd (aclTableKey table) "ports" port⟩ ∈ part) := by
  induction part generalizing dbs with
  | nil => simp
  | cons op rest ih =>
      have later := fun next (member : next ∈ rest) => only next (List.mem_cons_of_mem _ member)
      rw [runOps_cons, ih _ later]
      by_cases here : op = ⟨.config, .listAdd (aclTableKey table) "ports" port⟩
      · subst here
        by_cases clean : ListName port
        · simp [ports, mem_members_listAdd clean, clean]
        · have outside := fun t : Table => not_mem_ports clean t table
          simp [outside, clean]
      · have kept : op.apply dbs .config (aclTableKey table) = dbs .config (aclTableKey table) :=
          DbOp.apply_of_ne (fun config same => here (only op List.mem_cons_self config same)) dbs
        have same : ports (op.apply dbs .config) table = ports (dbs .config) table := by
          simp only [ports, hget, kept]
        rw [same, List.mem_cons]
        simp only [Ne.symm here, false_or]

/-- Opening deltas at most delete the deny rule. -/
theorem opening_deletes (op : DbOp) (member : op ∈ transition port old new)
    (opens : new.authorized = true) (same : denyRuleKey port = op.op.key) :
    op = del .config (denyRuleKey port) := by
  simp only [transition, List.mem_append] at member
  rcases member with (inside | inside) | inside
  · obtain ⟨-, v, -, written⟩ := mem_vlanDelta port old new inside
    exact absurd (written.symm.trans same.symm) (vlanMemberKey_ne_denyRuleKey v port port)
  · obtain ⟨-, table, -, written⟩ := mem_filterDelta port old new inside
    exact absurd (same.trans written) (denyRuleKey_ne_aclTableKey port table)
  · unfold controlledDelta at inside
    rw [opens] at inside
    split at inside
    · simp only [if_true, openControlledPort, List.mem_cons, List.not_mem_nil, or_false] at inside
      rcases inside with rfl | rfl
      · rfl
      · exact absurd same (denyRuleKey_ne_eapolPermitKey port port)
    · cases inside

/-- Opening deltas at most add the port to the table of the new Filter-Id. -/
theorem opening_binds (op : DbOp) (member : op ∈ transition port old new)
    (opens : new.authorized = true) (named : new.filterId = some table)
    (same : aclTableKey table = op.op.key) :
    op = ⟨.config, .listAdd (aclTableKey table) "ports" port⟩ := by
  simp only [transition, List.mem_append] at member
  rcases member with (inside | inside) | inside
  · obtain ⟨-, v, -, written⟩ := mem_vlanDelta port old new inside
    exact absurd (written.symm.trans same.symm) (vlanMemberKey_ne_aclTableKey v port table)
  · unfold filterDelta at inside
    split at inside
    · rename_i changed
      simp only [List.mem_append, List.mem_map, Option.mem_toList] at inside
      rcases inside with ⟨prev, known, rfl⟩ | ⟨next, known, rfl⟩
      · rw [(aclTableKey_inj _ _).mp same] at named
        exact absurd (known.trans named.symm) changed
      · rw [(aclTableKey_inj _ _).mp same]
    · cases inside
  · unfold controlledDelta at inside
    rw [opens] at inside
    split at inside
    · simp only [if_true, openControlledPort, List.mem_cons, List.not_mem_nil, or_false] at inside
      rcases inside with rfl | rfl
      · exact absurd same.symm (denyRuleKey_ne_aclTableKey port table)
      · exact absurd same.symm (eapolPermitKey_ne_aclTableKey port table)
    · cases inside

end Part

/-! ## Other ports, and sequences of postures -/

/-- A posture the backend can program: a valid VLAN id, and a Filter-Id that names
an operator's table. -/
structure Programmable (d : Desired) : Prop where
  vlan : ∀ v, d.vlan = some v → isValidVlan v = true
  filter : ∀ table, d.filterId = some table → OperatorTable table

/-- The entries of `other` are the same in both tables, but for its place in the
tables `except`. -/
structure KeepsPort (before after : Table) (other : String) (except : String) : Prop where
  deny : after (denyRuleKey other) = before (denyRuleKey other)
  permit : after (eapolPermitKey other) = before (eapolPermitKey other)
  own : after (aclTableKey (denyTable other)) = before (aclTableKey (denyTable other))
  vlan : ∀ v, isValidVlan v = true → after (vlanMemberKey v other) = before (vlanMemberKey v other)
  filter : ∀ table, table ≠ except → (other ∈ ports after table ↔ other ∈ ports before table)

/-- A transition of one port leaves every other port alone. -/
theorem transition_keeps (clean : ListName port) (leaving : Programmable old)
    (entering : Programmable new) {other : String} (foreign : other ≠ port) :
    KeepsPort (dbs .config) (runOps (transition port old new) dbs .config) other
      (denyTable port) := by
  have operators : ∀ table, old.filterId = some table ∨ new.filterId = some table →
      OperatorTable table := by
    rintro table (known | known)
    · exact leaving.filter table known
    · exact entering.filter table known
  have vlans : ∀ v, old.vlan = some v ∨ new.vlan = some v → isValidVlan v = true := by
    rintro v (known | known)
    · exact leaving.vlan v known
    · exact entering.vlan v known
  constructor
  · apply transition_frame
    rintro (⟨v, -, same⟩ | ⟨table, -, same⟩ | same | same | same)
    · exact vlanMemberKey_ne_denyRuleKey v port other same.symm
    · exact denyRuleKey_ne_aclTableKey other table same
    · exact foreign ((denyRuleKey_inj _ _).mp same)
    · exact denyRuleKey_ne_eapolPermitKey other port same
    · exact denyRuleKey_ne_aclTableKey other _ same
  · apply transition_frame
    rintro (⟨v, -, same⟩ | ⟨table, -, same⟩ | same | same | same)
    · exact vlanMemberKey_ne_eapolPermitKey v port other same.symm
    · exact eapolPermitKey_ne_aclTableKey other table same
    · exact denyRuleKey_ne_eapolPermitKey port other same.symm
    · exact foreign ((eapolPermitKey_inj _ _).mp same)
    · exact eapolPermitKey_ne_aclTableKey other _ same
  · apply transition_frame
    rintro (⟨v, -, same⟩ | ⟨table, known, same⟩ | same | same | same)
    · exact vlanMemberKey_ne_aclTableKey v port _ same.symm
    · exact (operators table known).ne_denyTable other ((aclTableKey_inj _ _).mp same).symm
    · exact denyRuleKey_ne_aclTableKey port _ same.symm
    · exact eapolPermitKey_ne_aclTableKey port _ same.symm
    · exact foreign ((denyTable_inj _ _).mp ((aclTableKey_inj _ _).mp same))
  · intro v valid
    apply transition_frame
    rintro (⟨w, known, same⟩ | ⟨table, -, same⟩ | same | same | same)
    · exact foreign (vlanMemberKey_inj valid (vlans w known) same).2
    · exact vlanMemberKey_ne_aclTableKey v other table same
    · exact vlanMemberKey_ne_denyRuleKey v other port same
    · exact vlanMemberKey_ne_eapolPermitKey v other port same
    · exact vlanMemberKey_ne_aclTableKey v other _ same
  · intro table outside
    rw [transition_ports port old new dbs clean outside, if_pos (Or.inr foreign)]

/-- Move a port through a sequence of postures, one transition at a time. -/
def replan (port : String) : Desired → List Desired → Databases → Databases
  | _, [], dbs => dbs
  | old, new :: rest, dbs => replan port new rest (runOps (transition port old new) dbs)

theorem represents_replan (clean : ListName port) (postures : List Desired)
    (held : Represents (dbs .config) port old) :
    Represents (replan port old postures dbs .config) port (postures.getLastD old) := by
  induction postures generalizing old dbs with
  | nil => exact held
  | cons next rest ih =>
      rw [List.getLastD_cons]
      exact ih (represents_transition clean held)

/-- The entries of a port are the same in both tables. -/
structure SameEntries (t t' : Table) (port : String) : Prop where
  deny : (t (denyRuleKey port)).isSome = (t' (denyRuleKey port)).isSome
  permit : (t (eapolPermitKey port)).isSome = (t' (eapolPermitKey port)).isSome
  vlan : ∀ v, (t (vlanMemberKey v port)).isSome = (t' (vlanMemberKey v port)).isSome
  filter : ∀ table, OperatorTable table → (port ∈ ports t table ↔ port ∈ ports t' table)

/-- A posture has one representation. -/
theorem Represents.sameEntries {t t' : Table} {d : Desired} (first : Represents t port d)
    (second : Represents t' port d) : SameEntries t t' port := by
  refine ⟨first.deny.trans second.deny.symm, first.permit.trans second.permit.symm, ?_, ?_⟩
  · intro v
    rw [Bool.eq_iff_iff, first.vlan, second.vlan]
  · intro table operator
    rw [first.filter table operator, second.filter table operator]

/-- **Delta planning is equivalent to full reprogramming.**  A transition moves the
representation of its port from `old` to `new`, keeps the entries of every other
port outside the port's own `DOT1X_*` table, is empty exactly when nothing changes,
and any sequence of postures ends where one transition to the last of them does. -/
theorem transition_reprograms (port : String) (old new : Desired) (dbs : Databases)
    (clean : ListName port) (leaving : Programmable old) (entering : Programmable new)
    (held : Represents (dbs .config) port old) :
    Represents (runOps (transition port old new) dbs .config) port new ∧
      (∀ other, other ≠ port →
        KeepsPort (dbs .config) (runOps (transition port old new) dbs .config) other
          (denyTable port)) ∧
      (transition port old new = [] ↔ old = new) ∧
      ∀ postures : List Desired,
        SameEntries (replan port old postures dbs .config)
          (runOps (transition port old (postures.getLastD old)) dbs .config) port := by
  refine ⟨represents_transition clean held, ?_, transition_eq_nil_iff port old new, ?_⟩
  · intro other foreign
    exact transition_keeps clean leaving entering foreign
  · intro postures
    exact (represents_replan clean postures held).sameEntries (represents_transition clean held)

/-- A fresh database. -/
def emptyDatabases : Databases := fun _ _ => none

/-- A database in which no key of a port's own is present holds the open posture
without VLAN or ACL. -/
theorem represents_bare {t : Table} (deny : t (denyRuleKey port) = none)
    (permit : t (eapolPermitKey port) = none) (vlan : ∀ v, t (vlanMemberKey v port) = none)
    (filter : ∀ table, OperatorTable table → port ∉ ports t table) :
    Represents t port { authorized := true } := by
  refine ⟨by simp [deny], by simp [permit], by simp [vlan], ?_⟩
  intro table operator
  simp [filter table operator]

theorem transition_reprograms_open :
    Represents (emptyDatabases .config) "Ethernet0" { authorized := true } ∧
      Represents (runOps (transition "Ethernet0" { authorized := true } {}) emptyDatabases .config)
        "Ethernet0" {} := by
  have bare : Represents (emptyDatabases .config) "Ethernet0" { authorized := true } := by
    apply represents_bare <;> intros <;> simp [emptyDatabases, ports, hget, members]
  exact ⟨bare, (transition_reprograms "Ethernet0" { authorized := true } {} emptyDatabases
    (by decide) ⟨by simp, by simp⟩ ⟨by simp, by simp⟩ bare).1⟩

/-- An `ACL_TABLE` of `Ethernet0`'s own that lists a second port. -/
def sharedDenyTable : Databases :=
  runOps [⟨.config, .hSet (aclTableKey "DOT1X_Ethernet0") [("ports", "Ethernet0,Ethernet4")]⟩]
    emptyDatabases

/-- Closing a port rewrites the ports of its own table, so a second port listed
there loses its place. -/
theorem closing_overwrites_own_table :
    ¬ ∀ (port other table : String) (old new : Desired) (dbs : Databases), ListName port →
      Programmable old → Programmable new → Represents (dbs .config) port old → other ≠ port →
      (other ∈ ports (runOps (transition port old new) dbs .config) table ↔
        other ∈ ports (dbs .config) table) := by
  intro claim
  have absent : ∀ key, key ≠ aclTableKey "DOT1X_Ethernet0" →
      sharedDenyTable .config key = none := by
    intro key apart
    exact runOps_of_ne (by simpa [Op.key] using apart) emptyDatabases
  have bare : Represents (sharedDenyTable .config) "Ethernet0" { authorized := true } := by
    apply represents_bare
    · exact absent _ (denyRuleKey_ne_aclTableKey _ _)
    · exact absent _ (eapolPermitKey_ne_aclTableKey _ _)
    · exact fun v => absent _ (vlanMemberKey_ne_aclTableKey _ _ _)
    · intro table operator
      have outside : sharedDenyTable .config (aclTableKey table) = none :=
        absent _ (by
          rw [Ne, aclTableKey_inj]
          exact operator.ne_denyTable "Ethernet0")
      simp [ports, hget, outside, members]
  have moved := claim "Ethernet0" "Ethernet4" "DOT1X_Ethernet0" { authorized := true } {}
    sharedDenyTable (by decide) ⟨by simp, by simp⟩ ⟨by simp, by simp⟩ bare (by decide)
  revert moved
  decide

end Authenticator.Enforce
