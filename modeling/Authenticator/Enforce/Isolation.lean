/-
# Enforce.Isolation -- the ports of a switch do not disturb one another

Every port has a worker of its own, and all of them share one CONFIG_DB.  Between any two
commands of a worker the others may run.  What a worker depends on is small: the rules and the
VLAN memberships of its port, the CoPP trap, and which operator tables exist.  No worker
changes that of another, so each ends as if it ran alone (`ports_isolated`), although the
ports lists of the operator tables may lose bindings.
-/
import Authenticator.Enforce.Commands

namespace Authenticator.Enforce

set_option autoImplicit false

open Authenticator.Pae Authenticator.Theory
open RedisCommand (serve)

/-- The rows that only the worker of the port writes. -/
def Own (port key : String) : Prop :=
  key = denyRuleKey port ∨ key = eapolPermitKey port ∨
    ∃ vlan, isValidVlan vlan = true ∧ key = vlanMemberKey vlan port

/-- The operator tables that are there are the same. -/
def Stocked (before after : Databases) : Prop :=
  ∀ table, OperatorTable table →
    (after .config (aclTableKey table)).isSome = (before .config (aclTableKey table)).isSome

/-- The databases look the same from the port. -/
structure Alike (port : String) (before after : Databases) : Prop where
  own : ∀ key, Own port key → after .config key = before .config key
  tables : Stocked before after
  trap : (before .config eapolTrapKey).isSome = true → (after .config eapolTrapKey).isSome = true

/-- The table is there, if it is an operator's. -/
def Provisioned (dbs : Databases) (table : String) : Prop :=
  OperatorTable table → (dbs .config (aclTableKey table)).isSome = true

/-- The keys the worker of a port writes. -/
inductive Writes (port : String) (dbs : Databases) : String → Prop
  | own (key : String) (own : Own port key) : Writes port dbs key
  | table (table : String) (there : Provisioned dbs table) : Writes port dbs (aclTableKey table)
  | trap : Writes port dbs eapolTrapKey

/-- The commands the worker of a port sends. -/
inductive Sends (port : String) (dbs : Databases) : RedisCommand → Prop
  | hSet (key : String) (field : String × String) (rest : List (String × String))
      (writes : Writes port dbs key) : Sends port dbs (.hSet .config key (field :: rest))
  | del (key : String) (own : Own port key) : Sends port dbs (.del .config key)
  | hGet (db : Db) (key field : String) : Sends port dbs (.hGet db key field)
  | existsOwn (key : String) (own : Own port key) : Sends port dbs (.keyExists .config key)
  | existsTable (table : String) (operator : OperatorTable table) :
      Sends port dbs (.keyExists .config (aclTableKey table))
  | existsTrap (there : (dbs .config eapolTrapKey).isSome = true) :
      Sends port dbs (.keyExists .config eapolTrapKey)

section Stocked

variable {port : String} {a b : Databases} (stocked : Stocked a b)
include stocked

theorem Stocked.provisioned {table : String} (there : Provisioned a table) : Provisioned b table :=
  fun operator => (stocked table operator).trans (there operator)

theorem Stocked.writes {key : String} (may : Writes port a key) : Writes port b key := by
  cases may with
  | own _ own => exact .own key own
  | table table there => exact .table table (stocked.provisioned there)
  | trap => exact .trap

end Stocked

/-- The lists of the ACL tables are read and written, and nothing depends on them. -/
def OfLists : RedisCommand → Prop
  | .hSet _ key _ => ∃ table, key = aclTableKey table
  | .hGet .. => True
  | _ => False

namespace Alike

variable {port : String} {a b c : Databases}

theorem refl (port : String) (dbs : Databases) : Alike port dbs dbs :=
  ⟨fun _ _ => rfl, fun _ _ => rfl, id⟩

theorem trans (first : Alike port a b) (second : Alike port b c) : Alike port a c where
  own key own := (second.own key own).trans (first.own key own)
  tables table operator := (second.tables table operator).trans (first.tables table operator)
  trap there := second.trap (first.trap there)

theorem sends (alike : Alike port a b) {command : RedisCommand} (may : Sends port a command) :
    Sends port b command := by
  cases may with
  | hSet key field rest may => exact .hSet key field rest (alike.tables.writes may)
  | del key own => exact .del key own
  | hGet db key field => exact .hGet db key field
  | existsOwn key own => exact .existsOwn key own
  | existsTable table operator => exact .existsTable table operator
  | existsTrap there => exact .existsTrap (alike.trap there)

end Alike

/-! ## Keys -/

section Keys

variable {port other : String} {key table : String}

theorem Own.ne_aclTableKey (own : Own port key) : key ≠ aclTableKey table := by
  rcases own with rfl | rfl | ⟨vlan, -, rfl⟩ <;> simp

theorem Own.ne_eapolTrapKey (own : Own port key) : key ≠ eapolTrapKey := by
  rcases own with rfl | rfl | ⟨vlan, -, rfl⟩
  · rw [denyRuleKey_eq, eapolTrapKey_eq]
    exact append_ne_of_take 1 (by decide) (by decide) _ _
  · rw [eapolPermitKey_eq, eapolTrapKey_eq]
    exact append_ne_of_take 1 (by decide) (by decide) _ _
  · exact (eapolTrapKey_ne_vlanMemberKey _ _).symm

/-- Two ports own no key together. -/
theorem Own.port_eq (own : Own port key) (foreign : Own other key) : port = other := by
  rcases own with rfl | rfl | ⟨vlan, valid, rfl⟩ <;>
    rcases foreign with same | same | ⟨v, valid', same⟩
  · exact (denyRuleKey_inj _ _).mp same
  · exact absurd same (by simp)
  · exact absurd same.symm (by simp)
  · exact absurd same.symm (by simp)
  · exact (eapolPermitKey_inj _ _).mp same
  · exact absurd same.symm (by simp)
  · exact absurd same (by simp)
  · exact absurd same (by simp)
  · exact (vlanMemberKey_inj valid valid' same).2

/-- A table that is written is there. -/
theorem Writes.provisioned {dbs : Databases} (writes : Writes port dbs (aclTableKey table)) :
    Provisioned dbs table := by
  generalize known : aclTableKey table = key at writes
  cases writes with
  | own _ own => exact absurd known.symm own.ne_aclTableKey
  | table named there =>
      obtain rfl := (aclTableKey_inj _ _).mp known
      exact there
  | trap => exact absurd known.symm (eapolTrapKey_ne_aclTableKey _)

end Keys

/-! ## What a command does to a view -/

section Commands

variable {port other : String} {dbs dbs' : Databases}

theorem stocked_write (op : Op) (writes : Writes port dbs op.key) (kept : ∀ key, op ≠ .del key) :
    Stocked dbs (DbOp.apply dbs ⟨.config, op⟩) := by
  intro table operator
  by_cases here : aclTableKey table = op.key
  · have before : (dbs .config (aclTableKey table)).isSome = true :=
      (here ▸ writes).provisioned operator
    rw [before, DbOp.apply_self]
    exact Op.apply_present (kept _) before
  · exact congrArg Option.isSome (DbOp.apply_of_ne (fun _ => here) dbs)

theorem stocked_del {key : String} (own : Own port key) :
    Stocked dbs (DbOp.apply dbs ⟨.config, .del key⟩) := fun _ _ =>
  congrArg Option.isSome (DbOp.apply_of_ne (fun _ => own.ne_aclTableKey.symm) dbs)

/-- No worker creates or drops an operator table. -/
theorem stocked_sends {command : RedisCommand} (sends : Sends port dbs command) :
    Stocked dbs (serve command dbs).2 := by
  cases sends with
  | hSet key field rest writes => exact stocked_write (.hSet key (field :: rest)) writes (by simp)
  | del key own => exact stocked_del own
  | hGet | existsOwn | existsTable | existsTrap => exact fun _ _ => rfl

/-- A write to a row that the other port does not own. -/
theorem alike_write (op : Op) (writes : Writes port dbs op.key) (kept : ∀ key, op ≠ .del key)
    (foreign : ¬ Own other op.key) : Alike other dbs (DbOp.apply dbs ⟨.config, op⟩) where
  own key own := by
    refine DbOp.apply_of_ne (fun _ => ?_) dbs
    rintro rfl
    exact foreign own
  tables := stocked_write op writes kept
  trap there := by
    rw [DbOp.apply_self]
    exact Op.apply_present (kept _) there

theorem alike_del {key : String} (own : Own port key) (foreign : ¬ Own other key) :
    Alike other dbs (DbOp.apply dbs ⟨.config, .del key⟩) where
  own row ours := by
    refine DbOp.apply_of_ne (fun _ => ?_) dbs
    rintro rfl
    exact foreign ours
  tables := stocked_del own
  trap there := by
    rw [DbOp.apply_of_ne (fun _ => own.ne_eapolTrapKey.symm) dbs]
    exact there

/-- What a worker sends does not matter to another port. -/
theorem alike_foreign (apart : port ≠ other) {command : RedisCommand}
    (sends : Sends port dbs command) : Alike other dbs (serve command dbs).2 := by
  have foreign : ∀ {key}, Own port key → ¬ Own other key := fun own ours => apart (own.port_eq ours)
  cases sends with
  | hSet key field rest writes =>
      refine alike_write (.hSet key (field :: rest)) writes (by simp) ?_
      show ¬ Own other key
      cases writes with
      | own _ own => exact foreign own
      | table table there => exact fun ours => ours.ne_aclTableKey rfl
      | trap => exact fun ours => ours.ne_eapolTrapKey rfl
  | del key own => exact alike_del own (foreign own)
  | hGet | existsOwn | existsTable | existsTrap => exact .refl _ _

/-- What it does to the lists does not matter to its own port either. -/
theorem alike_lists {command : RedisCommand} (sends : Sends port dbs command)
    (lists : OfLists command) : Alike port dbs (serve command dbs).2 := by
  cases sends with
  | hSet key field rest writes =>
      obtain ⟨table, rfl⟩ := lists
      exact alike_write (.hSet (aclTableKey table) (field :: rest)) writes (by simp)
        fun ours => ours.ne_aclTableKey rfl
  | hGet => exact .refl _ _
  | del | existsOwn | existsTable | existsTrap => cases lists

/-- An `HSET` writes the same row over the same row. -/
theorem hSet_congr {key : String} {t t' : Table} (same : t key = t' key)
    (fields : List (String × String)) :
    (Op.hSet key fields).apply t key = (Op.hSet key fields).apply t' key := by
  show fields.foldl (fun t (f : String × String) => hset t key f.1 f.2) t key = fields.foldl _ t' key
  induction fields generalizing t t' with
  | nil => exact same
  | cons f rest ih =>
      refine ih ?_
      dsimp only
      unfold hset
      rw [Function.update_self, Function.update_self, same]

/-- What it sees is answered alike, and stays alike. -/
theorem alike_seen {command : RedisCommand} (alike : Alike port dbs dbs')
    (sends : Sends port dbs command) (seen : ¬ OfLists command) :
    (serve command dbs).1 = (serve command dbs').1 ∧
      Alike port (serve command dbs).2 (serve command dbs').2 := by
  cases sends with
  | hSet key field rest writes =>
      have listed : ∀ table, aclTableKey table ≠ key := fun table same => seen ⟨table, same.symm⟩
      refine ⟨rfl, ⟨fun row ours => ?_, fun table operator => ?_, fun there => ?_⟩⟩
      · show DbOp.apply dbs' ⟨.config, .hSet key (field :: rest)⟩ .config row =
          DbOp.apply dbs ⟨.config, .hSet key (field :: rest)⟩ .config row
        by_cases here : row = key
        · subst here
          rw [DbOp.apply_self, DbOp.apply_self]
          exact hSet_congr (alike.own row ours) _
        · rw [DbOp.apply_of_ne (fun _ => here), DbOp.apply_of_ne (fun _ => here)]
          exact alike.own row ours
      · show (DbOp.apply dbs' ⟨.config, .hSet key (field :: rest)⟩ .config _).isSome =
          (DbOp.apply dbs ⟨.config, .hSet key (field :: rest)⟩ .config _).isSome
        rw [DbOp.apply_of_ne (fun _ => listed table), DbOp.apply_of_ne (fun _ => listed table)]
        exact alike.tables table operator
      · show (DbOp.apply dbs' ⟨.config, .hSet key (field :: rest)⟩ .config _).isSome = true
        have there : (DbOp.apply dbs ⟨.config, .hSet key (field :: rest)⟩ .config
          eapolTrapKey).isSome = true := there
        by_cases here : eapolTrapKey = key
        · subst here
          rw [DbOp.apply_self]
          exact Op.apply_hSet_isSome _ _ _ _
        · rw [DbOp.apply_of_ne (fun _ => here)] at there ⊢
          exact alike.trap there
  | del key own =>
      refine ⟨rfl, ⟨fun row ours => ?_, fun table operator => ?_, fun there => ?_⟩⟩
      · show DbOp.apply dbs' ⟨.config, .del key⟩ .config row =
          DbOp.apply dbs ⟨.config, .del key⟩ .config row
        by_cases here : row = key
        · subst here
          rw [DbOp.apply_self, DbOp.apply_self, Op.apply_del, Op.apply_del]
        · rw [DbOp.apply_of_ne (fun _ => here), DbOp.apply_of_ne (fun _ => here)]
          exact alike.own row ours
      · show (DbOp.apply dbs' ⟨.config, .del key⟩ .config _).isSome =
          (DbOp.apply dbs ⟨.config, .del key⟩ .config _).isSome
        rw [DbOp.apply_of_ne (fun _ => own.ne_aclTableKey.symm),
          DbOp.apply_of_ne (fun _ => own.ne_aclTableKey.symm)]
        exact alike.tables table operator
      · show (DbOp.apply dbs' ⟨.config, .del key⟩ .config _).isSome = true
        have there : (DbOp.apply dbs ⟨.config, .del key⟩ .config eapolTrapKey).isSome = true := there
        rw [DbOp.apply_of_ne (fun _ => own.ne_eapolTrapKey.symm)] at there ⊢
        exact alike.trap there
  | hGet => exact absurd trivial seen
  | existsOwn key own =>
      exact ⟨congrArg Option.isSome (alike.own key own).symm, alike⟩
  | existsTable table operator => exact ⟨(alike.tables table operator).symm, alike⟩
  | existsTrap there => exact ⟨there.trans (alike.trap there).symm, alike⟩

end Commands

/-- What the worker of a port depends on. -/
def portView (port : String) : View serve where
  agree := Alike port
  refl := .refl port
  trans := .trans
  hidden := OfLists
  permitted := Sends port
  permitted_congr alike sends := alike.sends sends
  seen alike sends seen := alike_seen alike sends seen
  unseen sends lists := alike_lists sends lists

/-! ## Workers are steady -/

/-- The operations the worker of a port performs. -/
inductive Performs (port : String) (dbs : Databases) : DbOp → Prop
  | hSet (key : String) (field : String × String) (rest : List (String × String))
      (writes : Writes port dbs key) : Performs port dbs ⟨.config, .hSet key (field :: rest)⟩
  | del (key : String) (own : Own port key) : Performs port dbs ⟨.config, .del key⟩
  | listAdd (table field value : String) (there : Provisioned dbs table) :
      Performs port dbs ⟨.config, .listAdd (aclTableKey table) field value⟩
  | listRemove (table field value : String) (there : Provisioned dbs table) :
      Performs port dbs ⟨.config, .listRemove (aclTableKey table) field value⟩

theorem Performs.stocked {port : String} {dbs dbs' : Databases} {op : DbOp}
    (performs : Performs port dbs op) (stocked : Stocked dbs dbs') : Performs port dbs' op := by
  cases performs with
  | hSet key field rest may => exact .hSet key field rest (stocked.writes may)
  | del key own => exact .del key own
  | listAdd table field value there => exact .listAdd table field value (stocked.provisioned there)
  | listRemove table field value there =>
      exact .listRemove table field value (stocked.provisioned there)

namespace Worker

variable {port : String} {dbs : Databases} {E : Type}

/-- A change of a list, undone: nothing depends on it. -/
theorem alike_unwrite (op : Op) {table : String} (listed : op.key = aclTableKey table)
    (there : Provisioned dbs table) (kept : ∀ key, op ≠ .del key) :
    Alike port (DbOp.apply dbs ⟨.config, op⟩) dbs := by
  have written : Alike port dbs (DbOp.apply dbs ⟨.config, op⟩) :=
    alike_write op (listed ▸ .table table there : Writes port dbs op.key) kept
      fun ours => ours.ne_aclTableKey listed
  refine ⟨fun key own => (written.own key own).symm, fun table operator =>
    (written.tables table operator).symm, fun trapped => ?_⟩
  rwa [DbOp.apply_of_ne fun _ => by rw [listed]; exact eapolTrapKey_ne_aclTableKey _] at trapped

/-- The last command of a list operation. -/
theorem yields_list {op : Op} {table field value : String} (listed : op.key = aclTableKey table)
    (there : Provisioned dbs table) (kept : ∀ key, op ≠ .del key) :
    (portView port).Yields (hSet .config (aclTableKey table) [(field, value)]) dbs
      ((), DbOp.apply dbs ⟨.config, op⟩) :=
  ⟨.hSet _ _ _ (.table table there), fun _ _ => ⟨rfl, alike_unwrite _ listed there kept⟩,
    fun seen => absurd ⟨table, rfl⟩ seen⟩

theorem steady_perform {op : DbOp} (performs : Performs port dbs op) :
    (portView port).Steady (perform op.db op.op) dbs := by
  cases performs with
  | hSet key field rest writes =>
      by_cases lists : ∃ table, key = aclTableKey table
      · obtain ⟨table, rfl⟩ := lists
        exact ⟨.hSet _ _ _ writes, fun _ _ => ⟨rfl, alike_unwrite (.hSet _ (field :: rest)) rfl
          writes.provisioned (by simp)⟩, fun seen => absurd ⟨table, rfl⟩ seen⟩
      · exact View.steady_call (.hSet _ _ _ writes) lists (View.steady_done _ _)
  | del key own => exact View.steady_call (.del _ own) id (View.steady_done _ _)
  | listAdd table field value there =>
      unfold View.Steady
      rw [alone_perform]
      exact ⟨.hGet _ _ _, fun _ _ => yields_list rfl there (by simp), fun seen => absurd trivial seen⟩
  | listRemove table field value there =>
      unfold View.Steady
      rw [alone_perform]
      refine ⟨.hGet _ _ _, fun _ answer => ?_, fun seen => absurd trivial seen⟩
      cases answer with
      | some current => exact yields_list rfl there (by simp)
      | none => exact ⟨rfl, alike_unwrite _ rfl there (by simp)⟩

theorem stocked_of_steady {α : Type} {client : Worker α}
    (steady : (portView port).Steady client dbs) : Stocked dbs (client.alone serve dbs).2 :=
  View.Yields.alone_keeps (fun _ _ _ => rfl)
    (fun first second table operator => (second table operator).trans (first table operator))
    (fun _ _ sends => stocked_sends sends) steady

theorem steady_applyOps {ops : List DbOp} (all : ∀ op ∈ ops, Performs port dbs op) :
    (portView port).Steady (applyOps ops) dbs := by
  induction ops generalizing dbs with
  | nil => exact View.steady_done _ _
  | cons op rest ih =>
      have first := steady_perform (all op List.mem_cons_self)
      refine View.Steady.bind first (ih fun later member => ?_)
      exact (all later (List.mem_cons_of_mem _ member)).stocked (stocked_of_steady first)

theorem steady_batch {ops : List DbOp} (all : ∀ op ∈ ops, Performs port dbs op) :
    (portView port).Steady (batch (E := E) ops) dbs :=
  View.Steady.bind (steady_applyOps all) (View.steady_done _ _)

theorem steady_orFail {first second : Worker (Except (SonicError E) Unit)}
    (one : (portView port).Steady first dbs)
    (two : ∀ dbs', first.alone serve dbs = (.ok (), dbs') → (portView port).Steady second dbs') :
    (portView port).Steady (orFail first second) dbs := by
  refine View.Steady.bind one ?_
  rcases known : first.alone serve dbs with ⟨result, dbs'⟩
  cases result with
  | ok u => exact two dbs' known
  | error e => exact View.steady_done _ _

theorem steady_requirePresent {key : String} (sends : Sends port dbs (.keyExists .config key)) :
    (portView port).Steady (requirePresent (E := E) .config key) dbs :=
  View.steady_call sends id (View.steady_done _ _)

theorem steady_requireAbsent {key : String} (sends : Sends port dbs (.keyExists .config key)) :
    (portView port).Steady (requireAbsent (E := E) .config key) dbs :=
  View.steady_call sends id (View.steady_done _ _)

theorem own_denyRuleKey (port : String) : Own port (denyRuleKey port) := Or.inl rfl

theorem own_eapolPermitKey (port : String) : Own port (eapolPermitKey port) := Or.inr (Or.inl rfl)

theorem own_vlanMemberKey (port : String) {vlan : String} (valid : isValidVlan vlan = true) :
    Own port (vlanMemberKey vlan port) := Or.inr (Or.inr ⟨vlan, valid, rfl⟩)

/-- The daemon's own tables are written whether or not they are there. -/
theorem provisioned_denyTable (dbs : Databases) (port : String) : Provisioned dbs (denyTable port) :=
  fun operator => absurd rfl (operator.ne_denyTable port)

theorem performs_closing {op : DbOp} (member : op ∈ closeControlledPort port) :
    Performs port dbs op := by
  simp only [closeControlledPort, List.mem_cons, List.not_mem_nil, or_false] at member
  rcases member with rfl | rfl | rfl
  · exact .hSet _ _ _ (.table _ (provisioned_denyTable dbs port))
  · exact .hSet _ _ _ (.own _ (own_eapolPermitKey port))
  · exact .hSet _ _ _ (.own _ (own_denyRuleKey port))

/-- What the worker knows of the posture it cached: its VLAN is valid, its table there. -/
structure Fits (dbs : Databases) (desired : Desired) : Prop where
  vlan : ∀ vlan, desired.vlan = some vlan → isValidVlan vlan = true
  table : ∀ table, desired.filterId = some table → Provisioned dbs table

theorem performs_transition {old new : Desired} (leaving : Fits dbs old) (entering : Fits dbs new)
    {op : DbOp} (member : op ∈ transition port old new) : Performs port dbs op := by
  simp only [transition, List.mem_append] at member
  rcases member with (vlans | lists) | controlled
  · unfold vlanDelta at vlans
    split at vlans
    · simp only [List.mem_append, List.mem_map, Option.mem_toList] at vlans
      rcases vlans with ⟨vlan, known, rfl⟩ | ⟨vlan, known, rfl⟩
      · exact .del _ (own_vlanMemberKey port (leaving.vlan vlan known))
      · exact .hSet _ _ _ (.own _ (own_vlanMemberKey port (entering.vlan vlan known)))
    · cases vlans
  · unfold filterDelta at lists
    split at lists
    · simp only [List.mem_append, List.mem_map, Option.mem_toList] at lists
      rcases lists with ⟨table, known, rfl⟩ | ⟨table, known, rfl⟩
      · exact .listRemove _ _ _ (leaving.table table known)
      · exact .listAdd _ _ _ (entering.table table known)
    · cases lists
  · unfold controlledDelta at controlled
    split at controlled
    · split at controlled
      · simp only [openControlledPort, List.mem_cons, List.not_mem_nil, or_false] at controlled
        rcases controlled with rfl | rfl
        · exact .del _ (own_denyRuleKey port)
        · exact .del _ (own_eapolPermitKey port)
      · exact performs_closing controlled
    · cases controlled

theorem Fits.stocked {dbs' : Databases} {desired : Desired} (fits : Fits dbs desired)
    (stocked : Stocked dbs dbs') : Fits dbs' desired :=
  ⟨fits.vlan, fun table known => stocked.provisioned (fits.table table known)⟩

theorem fits_closed (dbs : Databases) : Fits dbs {} := ⟨by simp, by simp⟩

/-- A batch that is done. -/
theorem alone_batch (ops : List DbOp) :
    (batch (E := E) ops).alone serve dbs = (.ok (), runOps ops dbs) := by
  unfold batch
  rw [Client.alone_bind, alone_applyOps]
  rfl

theorem steady_ensureEapolTrap :
    (portView port).Steady (ensureEapolTrap (E := E) port) dbs := by
  have written : ∀ op ∈ planEapolTrap ++ planClose port, Performs port dbs op := by
    intro op member
    rcases List.mem_append.mp member with trap | closing
    · rw [List.mem_singleton.mp trap]
      exact .hSet _ _ _ .trap
    · exact performs_closing closing
  refine steady_orFail (steady_batch written) fun left ran => ?_
  rw [alone_batch] at ran
  obtain rfl := congrArg Prod.snd ran
  have installed : ((Op.hSet eapolTrapKey [("trap_ids", "eapol"), ("trap_group", "queue4_group1")]).apply
      (dbs .config) eapolTrapKey).isSome = true := Op.apply_hSet_isSome _ _ _ _
  have trapped : (runOps (planEapolTrap ++ planClose port) dbs .config eapolTrapKey).isSome = true := by
    rw [runOps_append]
    refine runOps_present (by simp [planClose, closeControlledPort]) ?_
    exact (congrArg (fun table : Table => (table eapolTrapKey).isSome) (DbOp.apply_self _ _ _)).trans
      installed
  exact steady_orFail (steady_requirePresent (.existsTrap trapped)) fun later ran =>
    steady_requirePresent (.existsOwn _ (own_denyRuleKey port))

/-- A VLAN that passed the check. -/
theorem valid_of_checkVlan {desired : Desired} {left : Databases}
    (ran : (checkVlan (E := E) desired).alone serve dbs = (.ok (), left)) :
    left = dbs ∧ ∀ vlan, desired.vlan = some vlan → isValidVlan vlan = true := by
  unfold checkVlan at ran
  cases known : desired.vlan with
  | none =>
      rw [known] at ran
      exact ⟨(congrArg Prod.snd ran).symm, by simp⟩
  | some vlan =>
      rw [known] at ran
      cases valid : isValidVlan vlan with
      | false => simp [valid] at ran
      | true => exact ⟨(congrArg Prod.snd ran).symm, fun v same => by cases same; exact valid⟩

/-- A table that passed the check. -/
theorem provisioned_of_checkFilter {desired : Desired} {left : Databases}
    (ran : (checkFilter (E := E) desired).alone serve dbs = (.ok (), left)) :
    left = dbs ∧ ∀ table, desired.filterId = some table → Provisioned dbs table := by
  unfold checkFilter at ran
  cases known : desired.filterId with
  | none =>
      rw [known] at ran
      exact ⟨(congrArg Prod.snd ran).symm, by simp⟩
  | some table =>
      rw [known] at ran
      cases found : (dbs .config (aclTableKey table)).isSome with
      | false => simp [requirePresent, confirm, Client.alone, serve, found] at ran
      | true =>
          refine ⟨(congrArg Prod.snd ran).symm, fun other same => ?_⟩
          cases same
          exact fun _ => found

theorem steady_apply {old new : Desired} (leaving : Fits dbs old)
    (operators : ∀ table, new.filterId = some table → OperatorTable table) :
    (portView port).Steady (apply (E := E) port old new) dbs := by
  refine steady_orFail ?_ fun left ran => ?_
  · unfold checkVlan
    split <;> exact View.steady_done _ _
  obtain ⟨rfl, valid⟩ := valid_of_checkVlan ran
  refine steady_orFail ?_ fun left ran => ?_
  · unfold checkFilter
    split
    · rename_i table named
      exact steady_requirePresent (.existsTable table (operators table named))
    · exact View.steady_done _ _
  obtain ⟨rfl, there⟩ := provisioned_of_checkFilter ran
  refine steady_orFail (steady_batch fun op member => performs_transition leaving ⟨valid, there⟩ member)
    fun left ran => ?_
  unfold confirmLanded
  split
  · split
    · rename_i vlan named
      exact steady_requirePresent (.existsOwn _ (own_vlanMemberKey port (valid vlan named)))
    · exact steady_requireAbsent (.existsOwn _ (own_denyRuleKey port))
  · exact steady_requirePresent (.existsOwn _ (own_denyRuleKey port))

theorem ok_of_orFail {first second : Worker (Except (SonicError E) Unit)} {left : Databases}
    (ran : (orFail first second).alone serve dbs = (.ok (), left)) :
    ∃ mid, first.alone serve dbs = (.ok (), mid) ∧ second.alone serve mid = (.ok (), left) := by
  rw [alone_orFail] at ran
  rcases known : first.alone serve dbs with ⟨result, mid⟩
  rw [known] at ran
  cases result with
  | ok u => exact ⟨mid, rfl, ran⟩
  | error e => cases congrArg Prod.fst ran

/-- A posture that was applied is a valid one. -/
theorem fits_of_apply {old new : Desired} {left : Databases}
    (ran : (apply (E := E) port old new).alone serve dbs = (.ok (), left)) : Fits dbs new := by
  obtain ⟨mid, first, later⟩ := ok_of_orFail ran
  obtain ⟨rfl, valid⟩ := valid_of_checkVlan first
  obtain ⟨_, second, -⟩ := ok_of_orFail later
  exact ⟨valid, (provisioned_of_checkFilter second).2⟩

end Worker

/-! ## The workers of a switch -/

section Workers

variable {E : Type} {port : String} {dbs : Databases}

/-- The Filter-Ids of the calls name operator tables. -/
def NamesOperatorTables (calls : List WorkerCall) : Prop :=
  ∀ call ∈ calls, ∀ table, call.desired.filterId = some table → OperatorTable table

theorem steady_call {call : WorkerCall} {old : Desired} (fits : Worker.Fits dbs old)
    (operators : ∀ table, call.desired.filterId = some table → OperatorTable table) :
    (portView port).Steady (call.client (E := E) port old) dbs ∧
      Worker.Fits ((call.client (E := E) port old).alone serve dbs).2
        (call.recorded ((call.client (E := E) port old).alone serve dbs).1 old) := by
  have steady : (portView port).Steady (call.client (E := E) port old) dbs := by
    cases call with
    | ensureEapolTrap => exact Worker.steady_ensureEapolTrap
    | apply target auth => exact Worker.steady_apply fits operators
  have stocked := Worker.stocked_of_steady steady
  refine ⟨steady, ?_⟩
  rcases known : (call.client (E := E) port old).alone serve dbs with ⟨result, left⟩
  rw [known] at stocked
  cases result with
  | error e => exact fits.stocked stocked
  | ok u =>
      cases call with
      | ensureEapolTrap => exact Worker.fits_closed left
      | apply target auth => exact (Worker.fits_of_apply known).stocked stocked

theorem steady_portWorker {calls : List WorkerCall} {old : Desired} (fits : Worker.Fits dbs old)
    (operators : NamesOperatorTables calls) :
    (portView port).Steady (portWorker (E := E) port calls old) dbs := by
  induction calls generalizing dbs old with
  | nil => exact View.steady_done _ _
  | cons call rest ih =>
      obtain ⟨steady, left⟩ := steady_call (E := E) fits (operators call List.mem_cons_self)
      exact steady.bind ((ih left fun later member =>
        operators later (List.mem_cons_of_mem _ member)).bind (View.steady_done _ _))

theorem apart_portView {κ : Type} {ports : κ → String} (distinct : Function.Injective ports) :
    Apart fun k => portView (ports k) := fun _ _ different _ _ sends =>
  alike_foreign (fun same => different (distinct same)) sends

end Workers

/-- **The ports of a switch do not disturb one another.**  Any number of workers, each for a
port of its own and none with a Filter-Id that names a table of the daemon, share one CONFIG_DB
and run command by command in any order: a worker that is done got the results its calls have
when the port is alone, and the rules and the VLAN memberships of its port are those it leaves
alone.  Only the ports lists of the operator tables may differ. -/
theorem ports_isolated {κ E : Type} [DecidableEq κ] (ports : κ → String)
    (distinct : Function.Injective ports) (calls : κ → List WorkerCall)
    (operators : ∀ k, NamesOperatorTables (calls k)) (start : Databases) (turns : List κ) (k : κ)
    {results : List (Except (SonicError E) Unit)}
    (finished : (System.run serve turns
      ⟨start, fun k => portWorker (ports k) (calls k) {}⟩).clients k = .done results) :
    let alone := runCalls (E := E) (ports k) (calls k) (.new start)
    results = alone.1 ∧ ∀ key, Own (ports k) key →
      (System.run serve turns ⟨start, fun k => portWorker (E := E) (ports k) (calls k) {}⟩).store
        .config key = alone.2.conn .config key := by
  intro alone
  obtain ⟨value, alike⟩ := isolated (apart_portView distinct)
    (fun k => steady_portWorker (Worker.fits_closed start) (operators k)) turns k finished
  have undisturbed := alone_portWorker (E := E) (ports k) (calls k) (.new start)
  have same : (portWorker (E := E) (ports k) (calls k) {}).alone serve start =
      (alone.1, alone.2.conn) := undisturbed
  rw [same] at value alike
  exact ⟨value, alike.own⟩

/-- Two ports, brought up and opened with one Filter-Id. -/
def twoPorts (one : Bool) : String := if one then "Ethernet0" else "Ethernet4"

def openings : List WorkerCall :=
  [.ensureEapolTrap, .apply .port (.authorized { filterId := some "EMPLOYEE" })]

/-- CONFIG_DB with the table of the operator. -/
def employeeTable : Databases :=
  Function.update emptyDatabases .config
    (hset (fun _ => none) (aclTableKey "EMPLOYEE") "type" "L3")

/-- The workers move in turn, so each reads the ports list before the other writes it. -/
def inTurn : List Bool := (List.replicate 12 [true, false]).flatten

def bothPorts : System Bool RedisCommand RedisCommand.Reply
    (List (Except (SonicError Empty) Unit)) Databases :=
  System.run serve inTurn ⟨employeeTable, fun one => portWorker (twoPorts one) openings {}⟩

/-- The binding of the first port is lost, and its rules are as if it had run alone. -/
theorem ports_isolated_racing :
    members (hget (bothPorts.store .config) (aclTableKey "EMPLOYEE") "ports") = ["Ethernet4"] ∧
      ∀ key, Own "Ethernet0" key → bothPorts.store .config key =
        (runCalls (E := Empty) "Ethernet0" openings (.new employeeTable)).2.conn .config key := by
  refine ⟨by decide +kernel, ?_⟩
  have distinct : Function.Injective twoPorts := by
    intro a b
    cases a <;> cases b <;> simp [twoPorts]
  have operators : NamesOperatorTables openings := by
    intro call member table named
    have one : table = "EMPLOYEE" := by
      simp only [openings, List.mem_cons, List.not_mem_nil, or_false] at member
      rcases member with rfl | rfl <;> cases named
      rfl
    rw [one]
    decide
  have finished : bothPorts.clients true = .done [.ok (), .ok ()] := rfl
  exact (ports_isolated twoPorts distinct (fun _ => openings) (fun _ => operators) employeeTable inTurn
    true finished).2

end Authenticator.Enforce
