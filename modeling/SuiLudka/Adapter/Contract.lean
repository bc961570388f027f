import SuiLudka.Adapter.Backends

/-!
# The adapter contract, backend by backend

The spec asks both backends to answer the event query the same way, with at most `limit` events,
oldest first. The validator's backend does so; the simulator's does not read `limit` and returns
every event of the transaction (`queryTxEventsAsc_limit_one_of_two`).

The backends also differ in what they support. The validator's panics, by `unimplemented!`, on the
four requests that drive the chain (a checkpoint, the clock, the epoch, gas), and the simulator's
on dev-inspect; nothing else panics. The two queries change neither backend.
-/

namespace SuiLudka

/-! ### A history with two events -/

def byteEvent (b : UInt8) : Event := ⟨[b]⟩

def someTxDigest : TransactionDigest := ⟨[1]⟩

/-- A simulator whose ledger is reduced to its event store; no other operation changes it. -/
def eventStoreChain : SimulacrumChain (TransactionDigest → Option TransactionEvents) where
  executeTransaction _ store := (.error (.collaborator "not executed"), store)
  createCheckpoint store := (⟨0⟩, store)
  advanceClock _ store := (⟨[]⟩, store)
  advanceEpoch store := store
  requestGas _ _ store := (.error (.collaborator "no gas"), store)
  getTransactionEventsByTxDigest store := store

/-- A transaction that emitted two events, queried with limit one: the simulator's backend returns
both, the validator's only the first. -/
theorem queryTxEventsAsc_limit_one_of_two :
    Simulacrum.queryTxEventsAsc eventStoreChain (fun _ => some ⟨[byteEvent 1, byteEvent 2]⟩)
        someTxDigest 1 = .ok [byteEvent 1, byteEvent 2] ∧
      ValidatorWithFullnode.queryTxEventsAsc ⟨fun _ => [byteEvent 1, byteEvent 2]⟩
        someTxDigest 1 = .ok [byteEvent 1] :=
  ⟨rfl, rfl⟩

/-! ### What each backend supports -/

/-- The four requests that move the chain on without a transaction of the test: a checkpoint, the
clock, the epoch and gas. -/
def AdapterRequest.drivesChain : AdapterRequest → Bool
  | .createCheckpoint | .advanceClock _ | .advanceEpoch | .requestGas _ _ => true
  | _ => false

/-- The two requests that only read the backend: dev-inspect and the event query. -/
def AdapterRequest.isQuery : AdapterRequest → Bool
  | .devInspectTransactionBlock _ _ _ | .queryTxEventsAsc _ _ => true
  | _ => false

section Support

variable {σ : Type}

theorem liftError_map_ne_panic {α β : Type} (x : Except Error α) (f : α → β) (m : String) :
    liftError (x.map f) ≠ .error (.panic m) := by
  cases x <;> simp [liftError, Except.map]

theorem liftSuiError_map_ne_panic {α β : Type} (x : Except SuiError α) (f : α → β) (m : String) :
    liftSuiError (x.map f) ≠ .error (.panic m) := by
  cases x <;> simp [liftSuiError, Except.map]

/-- The validator's backend panics exactly on the requests that drive the chain. -/
theorem ValidatorWithFullnode.panics_iff_drivesChain (pipeline : AuthorityPipeline)
    (authority : AuthorityState) (request : AdapterRequest) :
    (∃ m, (ValidatorWithFullnode.handle pipeline authority request).1 = .error (.panic m)) ↔
      request.drivesChain := by
  cases request <;> simp [ValidatorWithFullnode.handle, AdapterRequest.drivesChain, unimplemented,
    liftError_map_ne_panic, liftSuiError_map_ne_panic]

/-- The simulator's backend panics exactly on dev-inspect. -/
theorem Simulacrum.panics_iff_devInspect (chain : SimulacrumChain σ) (state : σ)
    (request : AdapterRequest) :
    (∃ m, (Simulacrum.handle chain state request).1 = .error (.panic m)) ↔
      ∃ sender kind gasPrice, request = .devInspectTransactionBlock sender kind gasPrice := by
  cases request <;> simp [Simulacrum.handle, unimplemented, liftError_map_ne_panic,
    liftSuiError_map_ne_panic]

theorem ValidatorWithFullnode.handle_query (pipeline : AuthorityPipeline)
    (authority : AuthorityState) {request : AdapterRequest} (hq : request.isQuery) :
    (ValidatorWithFullnode.handle pipeline authority request).2 = authority := by
  cases request <;> simp_all [AdapterRequest.isQuery, ValidatorWithFullnode.handle]

theorem Simulacrum.handle_query (chain : SimulacrumChain σ) (state : σ) {request : AdapterRequest}
    (hq : request.isQuery) : (Simulacrum.handle chain state request).2 = state := by
  cases request <;> simp_all [AdapterRequest.isQuery, Simulacrum.handle]

end Support

end SuiLudka
