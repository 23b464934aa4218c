import OpenSnow.Foundation.Mailbox

/-!
# The handle of the engine

The engine is pinned to one thread, and a handle to it is cloned freely.  Every
method of a handle sends a message and returns what the engine replies.
-/

namespace OpenSnow.Core.EngineHandle

open Foundation.Mailbox

inductive EngineMsg where
  | listTables (database schema : String)
  | executeSql (sql : String)
  | recordQueryHistory (tenantId warehouse sql : String)
      (durationMs rows : Int) (status : String)
  | listTenants
  | createTenant (name : String)
  | getTenant (id : String)
  | registerParquet (name path : String)
deriving DecidableEq, Repr

def EngineMsg.replies : EngineMsg → Bool
  | .recordQueryHistory .. => false
  | _ => true

inductive Reply (Batches Tenant : Type) where
  | tables (result : Except String (List (String × String)))
  | batches (result : Except String Batches)
  | recorded
  | tenants (result : Except String (List Tenant))
  | tenant (result : Except String Tenant)
  | found (result : Except String (Option Tenant))
  | registered (result : Except String Unit)

/-- What an operation makes of the engine; none is a panic. -/
abbrev Operation (State Result : Type) := State → Option (State × Result)

structure OpenSnowEngine (State Batches Tenant : Type) where
  listTables : String → String →
    Operation State (Except String (List (String × String)))
  executeSql : String → Operation State (Except String Batches)
  recordQueryHistoryForTenant : String → String → String → Int → Int →
    Option String → String → Operation State Unit
  listTenants : Operation State (Except String (List Tenant))
  createTenant : String → Operation State (Except String Tenant)
  getTenant : String → Operation State (Except String (Option Tenant))
  registerParquet : String → String → Operation State (Except String Unit)

variable {State Batches Tenant : Type}

/-- The loop of the worker. -/
def OpenSnowEngine.serve (engine : OpenSnowEngine State Batches Tenant)
    (state : State) : EngineMsg → Option (State × Reply Batches Tenant)
  | .listTables database schema =>
      (engine.listTables database schema state).map (.map id .tables)
  | .executeSql sql => (engine.executeSql sql state).map (.map id .batches)
  | .recordQueryHistory tenantId warehouse sql durationMs rows status =>
      (engine.recordQueryHistoryForTenant tenantId warehouse sql durationMs
        rows none status state).map (.map id fun _ => .recorded)
  | .listTenants => (engine.listTenants state).map (.map id .tenants)
  | .createTenant name =>
      (engine.createTenant name state).map (.map id .tenant)
  | .getTenant id => (engine.getTenant id state).map (.map (·) .found)
  | .registerParquet name path =>
      (engine.registerParquet name path state).map (.map id .registered)

/-- The worker of an engine behind its channel. -/
def OpenSnowEngine.worker (engine : OpenSnowEngine State Batches Tenant) :
    Server State EngineMsg (Reply Batches Tenant) where
  serve := engine.serve
  replies := EngineMsg.replies
  capacity := some 64

/-- What a method makes of how its call ended. -/
def method (result : Except Failure (Reply Batches Tenant)) :
    Except String (Reply Batches Tenant) :=
  result.mapError fun
    | .unsent => "engine worker died"
    | .unanswered => "engine reply dropped"

/--
Whatever calls interleave and are dropped, the engine has done what they ask
one after another, each call at most once and before every call that was made
after its return.  A method fails over its channels only if the engine died.
-/
theorem methods_linearizable (engine : OpenSnowEngine State Batches Tenant)
    (initial : State) (earlier later : List (Step EngineMsg)) :
    let world := earlier.foldl (perform engine.worker) (spawn initial)
    let last := (earlier ++ later).foldl (perform engine.worker) (spawn initial)
    Linearized engine.worker initial last ∧
      (∀ first call second message before after,
        world.calls[first]? = some call → call.phase.over →
          world.calls.length ≤ second →
            last.served = before ++ (second, message) :: after →
              (first, call.message) ∈ before) ∧
        ∀ number call result, last.calls[number]? = some call →
          call.phase = .returned result →
            match method result with
            | .ok reply =>
                Answers engine.worker initial last.served number call.message
                  reply
            | .error text =>
                text ∈ ["engine worker died", "engine reply dropped"] ∧
                  last.worker.alive = false := by
  refine ⟨linearized_run, fun _ _ _ _ _ _ here past new split =>
    served_in_real_time here past new split,
    fun number call result found returned => ?_⟩
  have placed := linearized_run.calls number call found
  rw [returned] at placed
  cases result with
  | ok reply => exact placed
  | error failure => cases failure <;> exact ⟨by simp, placed⟩

end OpenSnow.Core.EngineHandle
