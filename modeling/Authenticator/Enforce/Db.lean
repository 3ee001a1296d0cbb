/-
# Enforce.Db -- the SONiC databases, their operations and the connection

A database is a map from keys to hashes, as Redis keeps it: `HSET` creates or
merges, `DEL` removes the key, and a list field is a comma-separated text that
`ListAdd` and `ListRemove` read, change and write back.

`DbConn` is the connection the enforcer drives.  `redisConn` performs every
operation and answers every read truthfully; `faultyConn` stops after any number
of operations and denies or fails any read.
-/
import Mathlib.Logic.Function.Basic
import Authenticator.Theory.Prog
import Authenticator.Theory.SeparatedList

namespace Authenticator.Enforce

set_option autoImplicit false

open Authenticator.Theory

universe u v

/-- A SONiC Redis database. -/
inductive Db where
  | config
  | appl
  | asic
  | state
  deriving DecidableEq, Repr

/-- The kinds of mutation the planner emits. -/
inductive Op where
  | hSet (key : String) (fields : List (String × String))
  | del (key : String)
  | listAdd (key field value : String)
  | listRemove (key field value : String)
  deriving DecidableEq, Repr

structure DbOp where
  db : Db
  op : Op
  deriving DecidableEq, Repr

/-- The fields of one key. -/
abbrev Row := String → Option String

abbrev Table := String → Option Row

abbrev Databases := Db → Table

/-! ## List fields -/

/-- The non-empty comma-separated items of a field. -/
def members : Option String → List String
  | none => []
  | some text => (SeparatedList.items ',' text.toList).map String.ofList

/-- `items.join(",")`. -/
def joined (items : List String) : String :=
  String.ofList (SeparatedList.join ',' (items.map String.toList))

/-- The field after `ListAdd`. -/
def addMember (value : String) (current : Option String) : String :=
  let items := members current
  joined (if value ∈ items then items else items ++ [value])

/-- The field after `ListRemove`, when it was there. -/
def removeMember (value current : String) : String :=
  joined ((members (some current)).filter (· ≠ value))

/-- A name that a list field can hold: non-empty and free of commas. -/
def ListName (name : String) : Prop := SeparatedList.Clean ',' name.toList

instance (name : String) : Decidable (ListName name) :=
  inferInstanceAs (Decidable (SeparatedList.Clean _ _))

/-! ## Operations -/

/-- A field of a key. -/
def hget (t : Table) (key field : String) : Option String := (t key).bind fun row => row field

/-- Write one field, keeping the others. -/
def hset (t : Table) (key field value : String) : Table :=
  Function.update t key
    (some (Function.update ((t key).getD fun _ => none) field (some value)))

/-- `RedisDbConn::apply`, one operation. -/
def Op.apply (t : Table) : Op → Table
  | .hSet key fields => fields.foldl (fun t (f : String × String) => hset t key f.1 f.2) t
  | .del key => Function.update t key none
  | .listAdd key field value => hset t key field (addMember value (hget t key field))
  | .listRemove key field value =>
      match hget t key field with
      | some current => hset t key field (removeMember value current)
      | none => t

def DbOp.apply (dbs : Databases) (op : DbOp) : Databases :=
  Function.update dbs op.db (op.op.apply (dbs op.db))

/-- The operations of a batch, in order. -/
def runOps (ops : List DbOp) (dbs : Databases) : Databases := ops.foldl DbOp.apply dbs

/-! ## Connections -/

/-- `DbConn`: apply a batch, and ask whether a key exists. -/
structure DbConn (ε : Type u) (ω : Type v) where
  apply : List DbOp → Prog ε ω Unit
  confirm : Db → String → Prog ε ω Bool

/-- The connection that performs every operation and answers truthfully. -/
def redisConn (ε : Type u) : DbConn ε Databases where
  apply ops := fun dbs => (.ok (), runOps ops dbs)
  confirm db key := fun dbs => (.ok (dbs db key).isSome, dbs)

/-- How one read of a key turns out. -/
inductive Answer (ε : Type u) where
  | truthful
  | denied
  | failed (e : ε)
  deriving DecidableEq

/-- What goes wrong during one call of the enforcer: `stop` ends the batch with an
error after that many operations took effect, and `answer` is how the read of each
key turns out (one call reads no key twice). -/
structure Faults (ε : Type u) where
  stop : Option (Nat × ε) := none
  answer : Db → String → Answer ε := fun _ _ => .truthful

/-- The outcome of reading a key. -/
def Faults.reads {ε : Type u} (faults : Faults ε) (dbs : Databases) (db : Db) (key : String) :
    Except ε Bool :=
  match faults.answer db key with
  | .truthful => .ok (dbs db key).isSome
  | .denied => .ok false
  | .failed e => .error e

/-- The connection under a failure pattern. -/
def faultyConn {ε : Type u} (faults : Faults ε) : DbConn ε Databases where
  apply ops := fun dbs =>
    match faults.stop with
    | none => (.ok (), runOps ops dbs)
    | some (performed, e) => (.error e, runOps (ops.take performed) dbs)
  confirm db key := fun dbs => (faults.reads dbs db key, dbs)

/-- Without faults the two connections are one. -/
theorem faultyConn_clean (ε : Type u) : faultyConn ({} : Faults ε) = redisConn ε := rfl

/-! ## What the list fields say -/

theorem mem_members {text name : String} :
    name ∈ members (some text) ↔ name.toList ∈ SeparatedList.items ',' text.toList := by
  simp only [members, List.mem_map]
  constructor
  · rintro ⟨word, member, rfl⟩
    simpa using member
  · intro member
    exact ⟨name.toList, member, by simp⟩

theorem members_joined {items : List String} (clean : ∀ name ∈ items, ListName name) :
    members (some (joined items)) = items := by
  have back : SeparatedList.items ',' (joined items).toList = items.map String.toList := by
    rw [joined, String.toList_ofList]
    apply SeparatedList.items_join
    intro word member
    obtain ⟨name, inside, rfl⟩ := List.mem_map.mp member
    exact clean name inside
  simp [members, back]

theorem listName_of_mem {field : Option String} {name : String} (member : name ∈ members field) :
    ListName name := by
  cases field with
  | none => cases member
  | some text => exact SeparatedList.clean_of_mem_items _ (mem_members.mp member)

theorem members_addMember {value : String} (clean : ListName value) (current : Option String) :
    members (some (addMember value current)) =
      if value ∈ members current then members current else members current ++ [value] := by
  apply members_joined
  intro name member
  split at member
  · exact listName_of_mem member
  · rcases List.mem_append.mp member with old | new
    · exact listName_of_mem old
    · rw [List.mem_singleton.mp new]
      exact clean

theorem members_removeMember (value current : String) :
    members (some (removeMember value current)) =
      (members (some current)).filter (· ≠ value) := by
  apply members_joined
  intro name member
  exact listName_of_mem (List.mem_filter.mp member).1

/-! ## What one operation writes -/

@[simp] theorem DbOp.apply_self (dbs : Databases) (db : Db) (op : Op) :
    DbOp.apply dbs ⟨db, op⟩ db = op.apply (dbs db) := Function.update_self _ _ _

theorem hget_hset (t : Table) (key field value other : String) :
    hget (hset t key field value) key other =
      if other = field then some value else hget t key other := by
  unfold hget hset
  rw [Function.update_self, Option.bind_some]
  by_cases here : other = field
  · subst here
    simp
  · rw [Function.update_of_ne here, if_neg here]
    cases t key <;> rfl

@[simp] theorem hset_isSome (t : Table) (key field value : String) :
    (hset t key field value key).isSome = true := by
  unfold hset
  rw [Function.update_self]
  rfl

/-- A non-empty `HSET` leaves the key present. -/
theorem Op.apply_hSet_isSome (t : Table) (key : String) (f : String × String)
    (rest : List (String × String)) : ((Op.hSet key (f :: rest)).apply t key).isSome = true := by
  have kept : ∀ (fields : List (String × String)) (t : Table), (t key).isSome = true →
      (fields.foldl (fun t (f : String × String) => hset t key f.1 f.2) t key).isSome = true := by
    intro fields
    induction fields with
    | nil => exact fun _ present => present
    | cons g later ih => exact fun t _ => ih _ (hset_isSome t key g.1 g.2)
  exact kept rest _ (hset_isSome t key f.1 f.2)

@[simp] theorem Op.apply_del (t : Table) (key : String) : (Op.del key).apply t key = none :=
  Function.update_self _ _ _

/-- The members of a list field after `ListAdd` of a name it can hold. -/
theorem members_listAdd {value : String} (clean : ListName value) (t : Table)
    (key field : String) :
    members (hget ((Op.listAdd key field value).apply t) key field) =
      if value ∈ members (hget t key field) then members (hget t key field)
      else members (hget t key field) ++ [value] := by
  have written : hget ((Op.listAdd key field value).apply t) key field =
      some (addMember value (hget t key field)) := by
    show hget (hset _ _ _ _) _ _ = _
    rw [hget_hset, if_pos rfl]
  rw [written, members_addMember clean]

theorem members_listRemove (value : String) (t : Table) (key field : String) :
    members (hget ((Op.listRemove key field value).apply t) key field) =
      (members (hget t key field)).filter (· ≠ value) := by
  cases found : hget t key field with
  | none => simp [Op.apply, found, members]
  | some current =>
      have written : hget ((Op.listRemove key field value).apply t) key field =
          some (removeMember value current) := by
        simp only [Op.apply, found]
        rw [hget_hset, if_pos rfl]
      rw [written, members_removeMember]

theorem mem_members_listAdd {value : String} (clean : ListName value) (t : Table)
    (key field name : String) :
    name ∈ members (hget ((Op.listAdd key field value).apply t) key field) ↔
      name = value ∨ name ∈ members (hget t key field) := by
  rw [members_listAdd clean]
  split
  · constructor
    · exact Or.inr
    · rintro (rfl | member) <;> assumption
  · simp only [List.mem_append, List.mem_singleton]
    tauto

theorem mem_members_listRemove (value : String) (t : Table) (key field name : String) :
    name ∈ members (hget ((Op.listRemove key field value).apply t) key field) ↔
      name ≠ value ∧ name ∈ members (hget t key field) := by
  rw [members_listRemove, List.mem_filter]
  simp only [ne_eq, decide_not, Bool.not_eq_true', decide_eq_false_iff_not]
  tauto

/-! ## What a batch leaves alone -/

/-- The key an operation writes. -/
def Op.key : Op → String
  | .hSet key _ => key
  | .del key => key
  | .listAdd key _ _ => key
  | .listRemove key _ _ => key

theorem hset_of_ne {t : Table} {key other : String} (apart : other ≠ key) (field value : String) :
    hset t key field value other = t other := Function.update_of_ne apart _ _

theorem foldl_hset_of_ne {key other : String} (apart : other ≠ key)
    (fields : List (String × String)) (t : Table) :
    fields.foldl (fun t (f : String × String) => hset t key f.1 f.2) t other = t other := by
  induction fields generalizing t with
  | nil => rfl
  | cons f rest ih => rw [List.foldl_cons, ih, hset_of_ne apart]

theorem Op.apply_of_ne {op : Op} {key : String} (apart : key ≠ op.key) (t : Table) :
    op.apply t key = t key := by
  cases op with
  | hSet written fields => exact foldl_hset_of_ne apart fields t
  | del written => exact Function.update_of_ne apart _ _
  | listAdd written field value => exact hset_of_ne apart _ _
  | listRemove written field value =>
      have apart : key ≠ written := apart
      cases found : hget t written field with
      | some current => simpa [Op.apply, found] using hset_of_ne apart _ _
      | none => simp [Op.apply, found]

@[simp] theorem runOps_nil (dbs : Databases) : runOps [] dbs = dbs := rfl

@[simp] theorem runOps_cons (op : DbOp) (rest : List DbOp) (dbs : Databases) :
    runOps (op :: rest) dbs = runOps rest (op.apply dbs) := rfl

@[simp] theorem runOps_append (first second : List DbOp) (dbs : Databases) :
    runOps (first ++ second) dbs = runOps second (runOps first dbs) := List.foldl_append

theorem DbOp.apply_of_ne {op : DbOp} {db : Db} {key : String}
    (apart : op.db = db → key ≠ op.op.key) (dbs : Databases) :
    op.apply dbs db key = dbs db key := by
  unfold DbOp.apply
  by_cases here : op.db = db
  · subst here
    rw [Function.update_self, Op.apply_of_ne (apart rfl)]
  · rw [Function.update_of_ne (Ne.symm here)]

/-- A key that no operation of the batch writes is kept. -/
theorem runOps_of_ne {ops : List DbOp} {db : Db} {key : String}
    (apart : ∀ op ∈ ops, op.db = db → key ≠ op.op.key) (dbs : Databases) :
    runOps ops dbs db key = dbs db key := by
  induction ops generalizing dbs with
  | nil => rfl
  | cons op rest ih =>
      rw [runOps_cons, ih (fun later member => apart later (List.mem_cons_of_mem _ member)),
        DbOp.apply_of_ne (apart op List.mem_cons_self)]

theorem Op.apply_present {op : Op} {key : String} (kept : op ≠ .del key) {t : Table}
    (present : (t key).isSome = true) : (op.apply t key).isSome = true := by
  by_cases here : key = op.key
  · subst here
    cases op with
    | hSet written fields =>
        cases fields with
        | nil => exact present
        | cons f rest => exact Op.apply_hSet_isSome t written f rest
    | del written => exact absurd rfl kept
    | listAdd written field value => exact hset_isSome t written field _
    | listRemove written field value =>
        cases found : hget t written field with
        | some current => simp [Op.apply, found, Op.key]
        | none => simpa [Op.apply, found] using present
  · rw [Op.apply_of_ne here]
    exact present

/-- A key that no operation of the batch deletes stays present. -/
theorem runOps_present {ops : List DbOp} {db : Db} {key : String}
    (kept : ∀ op ∈ ops, op ≠ ⟨db, .del key⟩) {dbs : Databases}
    (present : (dbs db key).isSome = true) : (runOps ops dbs db key).isSome = true := by
  induction ops generalizing dbs with
  | nil => exact present
  | cons op rest ih =>
      refine ih (fun later member => kept later (List.mem_cons_of_mem _ member)) ?_
      by_cases here : op.db = db
      · subst here
        have spared : op.op ≠ .del key := by
          intro same
          exact kept op List.mem_cons_self (by rw [← same])
        rw [DbOp.apply, Function.update_self]
        exact Op.apply_present spared present
      · rw [DbOp.apply, Function.update_of_ne (Ne.symm here)]
        exact present

end Authenticator.Enforce
