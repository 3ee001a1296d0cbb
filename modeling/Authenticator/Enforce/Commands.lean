/-
# Enforce.Commands -- the enforcer of one port, a Redis command at a time

`RedisDbConn` sends `HSET`, `DEL`, `HGET` and `EXISTS`; the two list operations are an `HGET`
and an `HSET` that depends on its answer.  Here the calls of `SonicEnforcer` on one port are
clients of the server.

`alone_portWorker` connects them with the enforcer: undisturbed, a worker returns what the
calls return on `redisConn`, and leaves its databases.
-/
import Authenticator.Theory.Client
import Authenticator.Enforce.Enforcer

namespace Authenticator.Enforce

set_option autoImplicit false

open Authenticator.Pae Authenticator.Theory

/-- A command the server processes in one piece. -/
inductive RedisCommand where
  | hSet (db : Db) (key : String) (fields : List (String × String))
  | del (db : Db) (key : String)
  | hGet (db : Db) (key field : String)
  | keyExists (db : Db) (key : String)
  deriving DecidableEq, Repr

namespace RedisCommand

def Reply : RedisCommand → Type
  | .hGet .. => Option String
  | .keyExists .. => Bool
  | .hSet .. | .del .. => Unit

/-- The server. -/
def serve : Server Databases RedisCommand Reply
  | .hSet db key fields, dbs => ((), DbOp.apply dbs ⟨db, .hSet key fields⟩)
  | .del db key, dbs => ((), DbOp.apply dbs ⟨db, .del key⟩)
  | .hGet db key field, dbs => (hget (dbs db) key field, dbs)
  | .keyExists db key, dbs => ((dbs db key).isSome, dbs)

end RedisCommand

abbrev Worker (α : Type) := Client RedisCommand RedisCommand.Reply α

namespace Worker

/-! ## The connection -/

def hSet (db : Db) (key : String) (fields : List (String × String)) : Worker Unit :=
  .call (.hSet db key fields) fun _ => .done ()

/-- `RedisDbConn::apply`, one operation. -/
def perform (db : Db) : Op → Worker Unit
  | .hSet key fields => hSet db key fields
  | .del key => .call (.del db key) fun _ => .done ()
  | .listAdd key field value => .call (.hGet db key field) fun current =>
      hSet db key [(field, addMember value current)]
  | .listRemove key field value => .call (.hGet db key field) fun
      | some current => hSet db key [(field, removeMember value current)]
      | none => .done ()

def applyOps : List DbOp → Worker Unit
  | [] => pure ()
  | op :: rest => do
      perform op.db op.op
      applyOps rest

def confirm (db : Db) (key : String) : Worker Bool := .call (.keyExists db key) .done

/-! ## The enforcer -/

variable {E : Type}

/-- The second program runs only when the first returned `Ok`. -/
def orFail (first second : Worker (Except (SonicError E) Unit)) :
    Worker (Except (SonicError E) Unit) := do
  match ← first with
  | .ok _ => second
  | .error e => pure (.error e)

def requirePresent (db : Db) (key : String) : Worker (Except (SonicError E) Unit) := do
  let found ← confirm db key
  pure (if found then .ok () else .error (.unconfirmed db key))

def requireAbsent (db : Db) (key : String) : Worker (Except (SonicError E) Unit) := do
  let found ← confirm db key
  pure (if found then .error (.unconfirmed db key) else .ok ())

/-- A batch; no command fails. -/
def batch (ops : List DbOp) : Worker (Except (SonicError E) Unit) := do
  applyOps ops
  pure (.ok ())

def ensureEapolTrap (port : String) : Worker (Except (SonicError E) Unit) :=
  orFail (batch (planEapolTrap ++ planClose port)) <|
    orFail (requirePresent .config eapolTrapKey) (requirePresent .config (denyRuleKey port))

def checkVlan (desired : Desired) : Worker (Except (SonicError E) Unit) :=
  match desired.vlan with
  | some vlan => pure (if isValidVlan vlan then .ok () else .error (.invalidVlan vlan))
  | none => pure (.ok ())

def checkFilter (desired : Desired) : Worker (Except (SonicError E) Unit) :=
  match desired.filterId with
  | some table => requirePresent .config (aclTableKey table)
  | none => pure (.ok ())

def confirmLanded (port : String) (desired : Desired) : Worker (Except (SonicError E) Unit) :=
  if desired.authorized then
    match desired.vlan with
    | some vlan => requirePresent .config (vlanMemberKey vlan port)
    | none => requireAbsent .config (denyRuleKey port)
  else requirePresent .config (denyRuleKey port)

/-- `SonicEnforcer::apply`, where `old` is the cached posture. -/
def apply (port : String) (old new : Desired) : Worker (Except (SonicError E) Unit) :=
  orFail (checkVlan new) <| orFail (checkFilter new) <|
    orFail (batch (transition port old new)) (confirmLanded port new)

end Worker

/-- A call on the port of a worker. -/
inductive WorkerCall where
  | ensureEapolTrap
  | apply (target : Target) (auth : PortAuthorization)

namespace WorkerCall

/-- The posture a call records when it succeeds. -/
def desired : WorkerCall → Desired
  | .ensureEapolTrap => {}
  | .apply _ auth => Desired.fromAuthorization auth

variable {E : Type}

/-- The call, with the posture cached before. -/
def client (port : String) (old : Desired) : WorkerCall → Worker (Except (SonicError E) Unit)
  | .ensureEapolTrap => Worker.ensureEapolTrap port
  | .apply _ auth => Worker.apply port old (Desired.fromAuthorization auth)

/-- The call on an enforcer. -/
def run (port : String) : WorkerCall → Prog (SonicError E) (SonicEnforcer Databases) Unit
  | .ensureEapolTrap => SonicEnforcer.ensureEapolTrap (redisConn E) port
  | .apply target auth => SonicEnforcer.apply (redisConn E) port target auth

/-- The posture cached after the call. -/
def recorded (call : WorkerCall) (result : Except (SonicError E) Unit) (old : Desired) : Desired :=
  match result with
  | .ok _ => call.desired
  | .error _ => old

end WorkerCall

section Workers

variable {E : Type}

/-- The calls of one worker, one after the other, whatever each returns. -/
def portWorker (port : String) : List WorkerCall → Desired →
    Worker (List (Except (SonicError E) Unit))
  | [], _ => pure []
  | call :: rest, old => do
      let result ← call.client port old
      let later ← portWorker port rest (call.recorded result old)
      pure (result :: later)

/-- The calls on an enforcer. -/
def runCalls (port : String) : List WorkerCall → SonicEnforcer Databases →
    List (Except (SonicError E) Unit) × SonicEnforcer Databases
  | [], s => ([], s)
  | call :: rest, s =>
      let r := call.run port s
      (r.1 :: (runCalls port rest r.2).1, (runCalls port rest r.2).2)

end Workers

/-! ## A worker alone is the enforcer -/

namespace Worker

open RedisCommand (serve)

@[simp] theorem alone_perform (db : Db) (op : Op) (dbs : Databases) :
    (perform db op).alone serve dbs = ((), DbOp.apply dbs ⟨db, op⟩) := by
  cases op with
  | hSet key fields => rfl
  | del key => rfl
  | listAdd key field value => rfl
  | listRemove key field value =>
      cases found : hget (dbs db) key field with
      | none =>
          have idle : DbOp.apply dbs ⟨db, .listRemove key field value⟩ = dbs := by
            simp [DbOp.apply, Op.apply, found]
          rw [idle]
          simp [perform, Client.alone, serve, found]
      | some current =>
          simp [perform, hSet, Client.alone, serve, found, DbOp.apply, Op.apply]

@[simp] theorem alone_applyOps (ops : List DbOp) (dbs : Databases) :
    (applyOps ops).alone serve dbs = ((), runOps ops dbs) := by
  induction ops generalizing dbs with
  | nil => rfl
  | cons op rest ih =>
      unfold applyOps
      rw [Client.alone_bind, alone_perform, ih]
      rfl

variable {E : Type}

/-- A program of the enforcer, from this cache to that one, is this client. -/
def Realises (cache after : String → Option Desired)
    (m : Prog (SonicError E) (SonicEnforcer Databases) Unit)
    (client : Worker (Except (SonicError E) Unit)) : Prop :=
  ∀ dbs, m ⟨dbs, cache⟩ = ((client.alone serve dbs).1,
    ⟨(client.alone serve dbs).2, if (client.alone serve dbs).1.isOk then after else cache⟩)

variable {cache after : String → Option Desired}
variable {first second : Prog (SonicError E) (SonicEnforcer Databases) Unit}
variable {client later : Worker (Except (SonicError E) Unit)}

theorem alone_orFail (dbs : Databases) :
    (orFail client later).alone serve dbs =
      match client.alone serve dbs with
      | (.ok _, dbs') => later.alone serve dbs'
      | (.error e, dbs') => (.error e, dbs') := by
  unfold orFail
  rw [Client.alone_bind]
  rcases client.alone serve dbs with ⟨result, dbs'⟩
  cases result <;> rfl

theorem Realises.bind (one : Realises cache cache first client)
    (two : Realises cache after second later) :
    Realises cache after (first >>= fun _ => second) (orFail client later) := by
  intro dbs
  have ran := one dbs
  rw [ite_self] at ran
  rw [alone_orFail]
  rcases known : client.alone serve dbs with ⟨result, dbs'⟩
  rw [known] at ran
  cases result with
  | ok u =>
      rw [Prog.bind_ok ran]
      exact two dbs'
  | error e => exact Prog.bind_error ran _

/-- The read of a key, on both sides. -/
theorem confirm_truthful (db : Db) (key : String) (dbs : Databases) :
    SonicEnforcer.onConn ((redisConn E).confirm db key) ⟨dbs, cache⟩ =
      (.ok (dbs db key).isSome, ⟨dbs, cache⟩) := rfl

theorem realises_requirePresent (db : Db) (key : String) :
    Realises cache cache (SonicEnforcer.requirePresent (redisConn E) db key)
      (requirePresent db key) := by
  intro dbs
  unfold SonicEnforcer.requirePresent
  rw [Prog.bind_ok (confirm_truthful db key dbs), ite_self]
  cases found : (dbs db key).isSome <;> simp [requirePresent, confirm, Client.alone, serve, found] <;> rfl

theorem realises_requireAbsent (db : Db) (key : String) :
    Realises cache cache (SonicEnforcer.requireAbsent (redisConn E) db key)
      (requireAbsent db key) := by
  intro dbs
  unfold SonicEnforcer.requireAbsent
  rw [Prog.bind_ok (confirm_truthful db key dbs), ite_self]
  cases found : (dbs db key).isSome <;> simp [requireAbsent, confirm, Client.alone, serve, found] <;> rfl

theorem realises_pure : Realises (E := E) cache cache (pure ()) (pure (.ok ())) := fun _ => by
  rw [ite_self]
  rfl

theorem realises_batch (ops : List DbOp) :
    Realises cache cache (SonicEnforcer.onConn ((redisConn E).apply ops)) (batch ops) := by
  intro dbs
  have done : (batch ops).alone serve dbs = ((.ok () : Except (SonicError E) Unit), runOps ops dbs) := by
    unfold batch
    rw [Client.alone_bind, alone_applyOps]
    rfl
  rw [done, ite_self]
  rfl

theorem realises_checkVlan (desired : Desired) :
    Realises cache cache (SonicEnforcer.checkVlan desired) (checkVlan (E := E) desired) := by
  intro dbs
  rw [ite_self]
  unfold SonicEnforcer.checkVlan checkVlan
  cases desired.vlan with
  | none => rfl
  | some vlan => cases valid : isValidVlan vlan <;> simp [valid] <;> rfl

theorem realises_checkFilter (desired : Desired) :
    Realises cache cache (SonicEnforcer.checkFilter (redisConn E) desired) (checkFilter desired) := by
  unfold SonicEnforcer.checkFilter checkFilter
  cases desired.filterId with
  | none => exact realises_pure
  | some table => exact realises_requirePresent _ _

theorem realises_confirmLanded (port : String) (desired : Desired) :
    Realises cache cache (SonicEnforcer.confirmLanded (redisConn E) port desired)
      (confirmLanded port desired) := by
  unfold SonicEnforcer.confirmLanded confirmLanded
  split
  · cases desired.vlan with
    | some vlan => exact realises_requirePresent _ _
    | none => exact realises_requireAbsent _ _
  · exact realises_requirePresent _ _

/-- What is recorded after a program that succeeded. -/
theorem Realises.remember (one : Realises cache cache first client) (port : String)
    (desired : Desired) :
    Realises cache (Function.update cache port (some desired))
      (first >>= fun _ => SonicEnforcer.remember port desired) client := by
  intro dbs
  have ran := one dbs
  rw [ite_self] at ran
  rcases known : client.alone serve dbs with ⟨result, dbs'⟩
  rw [known] at ran
  cases result with
  | ok u =>
      rw [Prog.bind_ok ran]
      rfl
  | error e => exact Prog.bind_error ran _

theorem realises_ensureEapolTrap (port : String) :
    Realises cache (Function.update cache port (some {}))
      (SonicEnforcer.ensureEapolTrap (redisConn E) port) (ensureEapolTrap port) :=
  (realises_batch _).bind <| (realises_requirePresent _ _).bind <|
    (realises_requirePresent _ _).remember port {}

theorem realises_apply (port : String) (target : Target) (auth : PortAuthorization) :
    Realises cache (Function.update cache port (some (Desired.fromAuthorization auth)))
      (SonicEnforcer.apply (redisConn E) port target auth)
      (apply port ((cache port).getD {}) (Desired.fromAuthorization auth)) := by
  have planned : Realises cache (Function.update cache port (some (Desired.fromAuthorization auth)))
      (do
        let old ← SonicEnforcer.previous port
        SonicEnforcer.onConn ((redisConn E).apply
          (transition port old (Desired.fromAuthorization auth)))
        SonicEnforcer.confirmLanded (redisConn E) port (Desired.fromAuthorization auth)
        SonicEnforcer.remember port (Desired.fromAuthorization auth))
      (orFail (batch (transition port ((cache port).getD {}) (Desired.fromAuthorization auth)))
        (confirmLanded port (Desired.fromAuthorization auth))) := fun dbs =>
    (realises_batch _).bind ((realises_confirmLanded port _).remember port _) dbs
  exact (realises_checkVlan _).bind ((realises_checkFilter _).bind planned)

end Worker

section Alone

open RedisCommand (serve)

variable {E : Type}

/-- **A call of a worker that is not disturbed is the call of the enforcer.** -/
theorem realises_call (port : String) (call : WorkerCall) (cache : String → Option Desired) :
    Worker.Realises (E := E) cache (Function.update cache port (some call.desired)) (call.run port)
      (call.client port ((cache port).getD {})) := by
  cases call with
  | ensureEapolTrap => exact Worker.realises_ensureEapolTrap port
  | apply target auth => exact Worker.realises_apply port target auth

theorem alone_call (port : String) (call : WorkerCall) (s : SonicEnforcer Databases) :
    (call.client (E := E) port (s.cached port)).alone serve s.conn =
      ((call.run port s).1, (call.run (E := E) port s).2.conn) := by
  obtain ⟨conn, applied⟩ := s
  rw [realises_call port call applied conn]
  rfl

/-- The posture the worker hands on is the one the enforcer has cached. -/
theorem cached_run (port : String) (call : WorkerCall) (s : SonicEnforcer Databases) :
    (call.run (E := E) port s).2.cached port =
      call.recorded (call.run (E := E) port s).1 (s.cached port) := by
  obtain ⟨conn, applied⟩ := s
  rw [realises_call port call applied conn]
  generalize (call.client (E := E) port ((applied port).getD {})).alone serve conn = r
  rcases r with ⟨_ | _, dbs⟩
  · rfl
  · simp [SonicEnforcer.cached, WorkerCall.recorded, Except.isOk, Except.toBool]

/-- **The refinement**: a worker that is not disturbed is the enforcer of its port. -/
theorem alone_portWorker (port : String) (calls : List WorkerCall) (s : SonicEnforcer Databases) :
    (portWorker (E := E) port calls (s.cached port)).alone serve s.conn =
      ((runCalls port calls s).1, (runCalls (E := E) port calls s).2.conn) := by
  induction calls generalizing s with
  | nil => rfl
  | cons call rest ih =>
      unfold portWorker
      rw [Client.alone_bind, alone_call, Client.alone_bind]
      dsimp only
      rw [← cached_run, ih]
      rfl

end Alone

end Authenticator.Enforce
