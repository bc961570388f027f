import SuiLudka.Args.Resolve

/-!
# The two execution backends

`TransactionalAdapter` (`lib.rs`) is the capability set a test scenario runs against: execute a
transaction, create a checkpoint, advance the clock or the epoch, request gas, dev-inspect a
transaction, and query a transaction's events. The crate implements it twice, for
`ValidatorWithFullnode` and for the simulator `Simulacrum<StdRng>`.

A backend here answers one request in a state, with an answer and the state after it. The chain
itself (the authority pipelines, the simulator's ledger) belongs to other crates: what the adapter
calls of it is a parameter, except for the events a transaction emitted, which the event query
reads and which the model keeps as data.
-/

namespace SuiLudka

/-! ### Requests and answers -/

structure TransactionDigest where
  bytes : List UInt8
deriving DecidableEq, Repr

structure Event where
  contents : List UInt8
deriving DecidableEq, Repr

structure TransactionEvents where
  data : List Event
deriving DecidableEq, Repr

/-- `Transaction`, with what the adapter reads of it: the inputs of its programmable transaction. -/
structure Transaction where
  inputs : List CallArg
deriving DecidableEq, Repr

/-- `TransactionData::contains_shared_object`: some input is a shared object. -/
def Transaction.containsSharedObject (transaction : Transaction) : Bool :=
  transaction.inputs.any fun
    | .object (.sharedObject _ _ _) => true
    | _ => false

structure TransactionEffects where
  bytes : List UInt8

structure ExecutionError where
  message : String

structure VerifiedCheckpoint where
  sequenceNumber : Nat

structure TransactionKind where
  bytes : List UInt8

structure DevInspectResults where
  bytes : List UInt8

/-- The methods of `TransactionalAdapter`, as requests carrying their arguments. -/
inductive AdapterRequest where
  | executeTxn (transaction : Transaction)
  | createCheckpoint
  | advanceClock (durationMillis : Nat)
  | advanceEpoch
  | requestGas (address : SuiAddress) (amount : UInt64)
  | devInspectTransactionBlock (sender : SuiAddress) (transactionKind : TransactionKind)
      (gasPrice : Option UInt64)
  | queryTxEventsAsc (txDigest : TransactionDigest) (limit : Nat)

/-- What a method returns when it returns. An `anyhow` or `SuiError` failure is an `Error` of the
answer's `Except Fault`, and `unimplemented!` is a panic. -/
inductive AdapterAnswer where
  | executed (effects : TransactionEffects) (executionError : Option ExecutionError)
  | checkpoint (checkpoint : VerifiedCheckpoint)
  | effects (effects : TransactionEffects)
  | epochAdvanced
  | inspected (results : DevInspectResults)
  | events (events : List Event)

/-- A `SuiResult` handed back: its error becomes an error of the answer. -/
def liftSuiError {α : Type} : Except SuiError α → Except Fault α
  | .ok a => .ok a
  | .error e => .error (.error (.collaborator e.message))

/-- `unimplemented!(message)`. -/
def unimplemented (message : String) : Fault := .panic ("not implemented: " ++ message)

/-! ### `ValidatorWithFullnode` -/

/-- Modelled from the spec: the validator's state as far as the adapter reads it, the events each
committed transaction emitted, in emission order, as the fullnode's event index holds them. -/
structure AuthorityState where
  transactionEvents : TransactionDigest → List Event

/-- Modelled from the spec: `AuthorityState::query_events` under `EventFilter::Transaction`, from no
cursor and in ascending order: the transaction's first `limit` events, oldest first. -/
def AuthorityState.queryTransactionEvents (state : AuthorityState) (txDigest : TransactionDigest)
    (limit : Nat) : Except SuiError (List Event) :=
  .ok ((state.transactionEvents txDigest).take limit)

/-- What the validator backend calls of the two authorities: the execution pipeline
`send_and_confirm_transaction_with_execution_error`, told whether the transaction touches a shared
object, and the fullnode's `dev_inspect_transaction_block`. -/
structure AuthorityPipeline where
  sendAndConfirm : Transaction → Bool → AuthorityState →
    Except Error (TransactionEffects × Option ExecutionError) × AuthorityState
  devInspect : SuiAddress → TransactionKind → Option UInt64 → AuthorityState →
    Except SuiError DevInspectResults

/-- `<ValidatorWithFullnode as TransactionalAdapter>::query_tx_events_asc`; a failed query reads as
no events (`unwrap_or_default`). -/
def ValidatorWithFullnode.queryTxEventsAsc (state : AuthorityState) (txDigest : TransactionDigest)
    (limit : Nat) : Except SuiError (List Event) :=
  .ok (match state.queryTransactionEvents txDigest limit with
    | .ok events => events
    | .error _ => [])

/-- `impl TransactionalAdapter for ValidatorWithFullnode`, one request at a time. -/
def ValidatorWithFullnode.handle (pipeline : AuthorityPipeline) (state : AuthorityState) :
    AdapterRequest → Except Fault AdapterAnswer × AuthorityState
  | .executeTxn transaction =>
    let withShared := transaction.containsSharedObject
    let (result, state') := pipeline.sendAndConfirm transaction withShared state
    (liftError (result.map fun (effects, executionError) => .executed effects executionError),
      state')
  | .devInspectTransactionBlock sender transactionKind gasPrice =>
    (liftSuiError ((pipeline.devInspect sender transactionKind gasPrice state).map .inspected),
      state)
  | .queryTxEventsAsc txDigest limit =>
    (liftSuiError ((ValidatorWithFullnode.queryTxEventsAsc state txDigest limit).map .events),
      state)
  | .createCheckpoint => (.error (unimplemented "create_checkpoint not supported"), state)
  | .advanceClock _ => (.error (unimplemented "advance_clock not supported"), state)
  | .advanceEpoch => (.error (unimplemented "advance_epoch not supported"), state)
  | .requestGas _ _ => (.error (unimplemented "request_gas not supported"), state)

/-! ### `Simulacrum` -/

/-- What the simulator backend calls of the simulator, over its ledger `σ`: each operation is the
`Simulacrum` method of the same name, and `getTransactionEventsByTxDigest` reads its store. -/
structure SimulacrumChain (σ : Type) where
  executeTransaction : Transaction → σ →
    Except Error (TransactionEffects × Option ExecutionError) × σ
  createCheckpoint : σ → VerifiedCheckpoint × σ
  advanceClock : Nat → σ → TransactionEffects × σ
  advanceEpoch : σ → σ
  requestGas : SuiAddress → UInt64 → σ → Except Error TransactionEffects × σ
  getTransactionEventsByTxDigest : σ → TransactionDigest → Option TransactionEvents

section Simulacrum

variable {σ : Type}

/-- `<Simulacrum<StdRng> as TransactionalAdapter>::query_tx_events_asc`. The `_limit` argument is
not read: every event of the transaction is returned, none for an unknown digest. -/
def Simulacrum.queryTxEventsAsc (chain : SimulacrumChain σ) (state : σ)
    (txDigest : TransactionDigest) (_limit : Nat) : Except SuiError (List Event) :=
  .ok (((chain.getTransactionEventsByTxDigest state txDigest).map (·.data)).getD [])

/-- `impl TransactionalAdapter for Simulacrum<StdRng>`, one request at a time. -/
def Simulacrum.handle (chain : SimulacrumChain σ) (state : σ) :
    AdapterRequest → Except Fault AdapterAnswer × σ
  | .executeTxn transaction =>
    let (result, state') := chain.executeTransaction transaction state
    (liftError (result.map fun (effects, executionError) => .executed effects executionError),
      state')
  | .devInspectTransactionBlock _ _ _ =>
    (.error (unimplemented "dev_inspect_transaction_block not supported in simulator mode"), state)
  | .queryTxEventsAsc txDigest limit =>
    (liftSuiError ((Simulacrum.queryTxEventsAsc chain state txDigest limit).map .events), state)
  | .createCheckpoint =>
    let (checkpoint, state') := chain.createCheckpoint state
    (.ok (.checkpoint checkpoint), state')
  | .advanceClock duration =>
    let (effects, state') := chain.advanceClock duration state
    (.ok (.effects effects), state')
  | .advanceEpoch => (.ok .epochAdvanced, chain.advanceEpoch state)
  | .requestGas address amount =>
    let (result, state') := chain.requestGas address amount state
    (liftError (result.map .effects), state')

end Simulacrum

end SuiLudka
