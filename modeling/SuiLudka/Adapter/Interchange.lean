import SuiLudka.Adapter.Scripts

/-!
# When the two backends are interchangeable

A scenario is bound to one backend, and a test means the same on either only if both answer its
script alike. Suppose the two chains behave alike: from states that hold the same committed events,
the validator's pipeline and the simulator execute a transaction with the same result, to states
related again (`ChainSimulation`). The adapter layer then keeps the backends interchangeable on
exactly the scripts of transactions and event queries in which no query asks for fewer events than
its transaction emitted (`Interchangeable`): on every other script the two transcripts differ, at
the first request one backend does not support or the first query the validator truncates.
-/

namespace SuiLudka

section Interchange

variable {σ : Type} (pipeline : AuthorityPipeline) (chain : SimulacrumChain σ)

/-- A relation between the validator's state and the simulator's ledger under which the two chains
behave alike: related states hold the same committed events, and a transaction executes with the
same result on both, to related states. -/
structure ChainSimulation (R : AuthorityState → σ → Prop) : Prop where
  sameEvents : ∀ authority state, R authority state → ∀ txDigest,
    ((chain.getTransactionEventsByTxDigest state txDigest).map (·.data)).getD [] =
      authority.transactionEvents txDigest
  execute : ∀ authority state transaction, R authority state →
    (pipeline.sendAndConfirm transaction transaction.containsSharedObject authority).1 =
        (chain.executeTransaction transaction state).1 ∧
      R (pipeline.sendAndConfirm transaction transaction.containsSharedObject authority).2
        (chain.executeTransaction transaction state).2

/-- The scripts both backends answer alike: transactions and event queries only, and no query asks
for fewer events than its transaction had emitted when the query ran. -/
def Interchangeable : AuthorityState → List AdapterRequest → Prop
  | _, [] => True
  | authority, .executeTxn transaction :: rest =>
    Interchangeable
      (pipeline.sendAndConfirm transaction transaction.containsSharedObject authority).2 rest
  | authority, .queryTxEventsAsc txDigest limit :: rest =>
    (authority.transactionEvents txDigest).length ≤ limit ∧ Interchangeable authority rest
  | _, _ :: _ => False

theorem ValidatorWithFullnode.handle_executeTxn (authority : AuthorityState)
    (transaction : Transaction) :
    ValidatorWithFullnode.handle pipeline authority (.executeTxn transaction) =
      (liftError
          ((pipeline.sendAndConfirm transaction transaction.containsSharedObject authority).1.map
            fun (effects, executionError) => .executed effects executionError),
        (pipeline.sendAndConfirm transaction transaction.containsSharedObject authority).2) := rfl

theorem ValidatorWithFullnode.panicked_executeTxn (authority : AuthorityState)
    (transaction : Transaction) :
    panicked (ValidatorWithFullnode.handle pipeline authority (.executeTxn transaction)).1 =
      false :=
  panicked_eq_false fun ⟨_, h⟩ => liftError_map_ne_panic _ _ _ h

theorem Simulacrum.handle_executeTxn (state : σ) (transaction : Transaction) :
    Simulacrum.handle chain state (.executeTxn transaction) =
      (liftError ((chain.executeTransaction transaction state).1.map
          fun (effects, executionError) => .executed effects executionError),
        (chain.executeTransaction transaction state).2) := rfl

theorem Simulacrum.panicked_executeTxn (state : σ) (transaction : Transaction) :
    panicked (Simulacrum.handle chain state (.executeTxn transaction)).1 = false :=
  panicked_eq_false fun ⟨_, h⟩ => liftError_map_ne_panic _ _ _ h

/-- A request that drives the chain, or a dev-inspect, gets different answers from the two
backends, whatever their states: exactly one of them panics on it. -/
theorem handle_answers_ne (authority : AuthorityState) (state : σ) {request : AdapterRequest}
    (hr : request.drivesChain ∨ ∃ sender kind gasPrice,
      request = .devInspectTransactionBlock sender kind gasPrice) :
    (ValidatorWithFullnode.handle pipeline authority request).1 ≠
      (Simulacrum.handle chain state request).1 := by
  intro h
  have hpanics := ValidatorWithFullnode.panics_iff_drivesChain pipeline authority request
  rw [h, Simulacrum.panics_iff_devInspect chain state request] at hpanics
  rcases hr with hd | ⟨sender, kind, gasPrice, rfl⟩
  · obtain ⟨_, _, _, rfl⟩ := hpanics.2 hd
    simp [AdapterRequest.drivesChain] at hd
  · simpa [AdapterRequest.drivesChain] using hpanics.1 ⟨_, _, _, rfl⟩

end Interchange

/-! ### Transcripts, request by request -/

section Transcripts

variable {σ τ : Type} {handle : σ → AdapterRequest → Except Fault AdapterAnswer × σ}

theorem runScript_cons_of_not_panicked {state : σ} {request : AdapterRequest}
    {rest : List AdapterRequest} (h : panicked (handle state request).1 = false) :
    runScript handle state (request :: rest) =
      ((request, (handle state request).1) :: (runScript handle (handle state request).2 rest).1,
        (runScript handle (handle state request).2 rest).2) := by
  rcases hh : handle state request with ⟨answer, state'⟩
  rw [hh] at h
  simp only [runScript, hh, h, Bool.false_eq_true, if_false]

theorem runScript_head (state : σ) (request : AdapterRequest) (rest : List AdapterRequest) :
    (runScript handle state (request :: rest)).1.head? =
      some (request, (handle state request).1) := by
  rcases hh : handle state request with ⟨answer, state'⟩
  by_cases hp : panicked answer <;> simp [runScript, hh, hp]

/-- Two runs of a script whose first answers differ have different transcripts. -/
theorem runScript_ne_of_answer_ne
    {handle' : τ → AdapterRequest → Except Fault AdapterAnswer × τ}
    {state : σ} {state' : τ}
    {request : AdapterRequest} (rest : List AdapterRequest)
    (hne : (handle state request).1 ≠ (handle' state' request).1) :
    (runScript handle state (request :: rest)).1 ≠
      (runScript handle' state' (request :: rest)).1 :=
  fun h => hne (by simpa [runScript_head] using congrArg List.head? h)

end Transcripts

/-! ### Whole scripts -/

section Scripts

variable {σ : Type} {pipeline : AuthorityPipeline} {chain : SimulacrumChain σ}
  {R : AuthorityState → σ → Prop}

theorem transcripts_eq_iff_interchangeable (hsim : ChainSimulation pipeline chain R) :
    ∀ requests authority state, R authority state →
      ((runScript (ValidatorWithFullnode.handle pipeline) authority requests).1 =
          (runScript (Simulacrum.handle chain) state requests).1 ↔
        Interchangeable pipeline authority requests) := by
  intro requests
  induction requests with
  | nil => intros; simp [runScript, Interchangeable]
  | cons request rest ih =>
    intro authority state hrel
    have hdiffer : ∀ (hr : request.drivesChain ∨ ∃ sender kind gasPrice,
        request = .devInspectTransactionBlock sender kind gasPrice),
        ¬Interchangeable pipeline authority (request :: rest) →
        ((runScript (ValidatorWithFullnode.handle pipeline) authority (request :: rest)).1 =
            (runScript (Simulacrum.handle chain) state (request :: rest)).1 ↔
          Interchangeable pipeline authority (request :: rest)) := fun hr hI =>
      iff_of_false
        (runScript_ne_of_answer_ne rest (handle_answers_ne pipeline chain authority state hr)) hI
    cases request with
    | executeTxn transaction =>
      obtain ⟨hresult, hrel'⟩ := hsim.execute authority state transaction hrel
      rw [runScript_cons_of_not_panicked (ValidatorWithFullnode.panicked_executeTxn ..),
        runScript_cons_of_not_panicked (Simulacrum.panicked_executeTxn ..),
        ValidatorWithFullnode.handle_executeTxn, Simulacrum.handle_executeTxn, hresult]
      simp only [List.cons.injEq, true_and, Interchangeable, ih _ _ hrel']
    | queryTxEventsAsc txDigest limit =>
      rw [runScript_cons_of_not_panicked (by rfl), runScript_cons_of_not_panicked (by rfl)]
      simp [ValidatorWithFullnode.handle, Simulacrum.handle, ValidatorWithFullnode.queryTxEventsAsc,
        AuthorityState.queryTransactionEvents, Simulacrum.queryTxEventsAsc, liftSuiError,
        Except.map, hsim.sameEvents authority state hrel, Interchangeable, ih _ _ hrel,
        List.take_eq_self_iff]
    | createCheckpoint => exact hdiffer (.inl rfl) id
    | advanceClock _ => exact hdiffer (.inl rfl) id
    | advanceEpoch => exact hdiffer (.inl rfl) id
    | requestGas _ _ => exact hdiffer (.inl rfl) id
    | devInspectTransactionBlock _ _ _ => exact hdiffer (.inr ⟨_, _, _, rfl⟩) id

theorem runScript_related_of_interchangeable (hsim : ChainSimulation pipeline chain R) :
    ∀ requests authority state, R authority state →
      Interchangeable pipeline authority requests →
      R (runScript (ValidatorWithFullnode.handle pipeline) authority requests).2
        (runScript (Simulacrum.handle chain) state requests).2 := by
  intro requests
  induction requests with
  | nil => exact fun _ _ hrel _ => hrel
  | cons request rest ih =>
    intro authority state hrel hI
    cases request with
    | executeTxn transaction =>
      rw [runScript_cons_of_not_panicked (ValidatorWithFullnode.panicked_executeTxn ..),
        runScript_cons_of_not_panicked (Simulacrum.panicked_executeTxn ..)]
      exact ih _ _ (hsim.execute authority state transaction hrel).2 hI
    | queryTxEventsAsc txDigest limit =>
      rw [runScript_cons_of_not_panicked (by rfl), runScript_cons_of_not_panicked (by rfl)]
      exact ih _ _ hrel hI.2
    | createCheckpoint | advanceClock _ | advanceEpoch | requestGas _ _
    | devInspectTransactionBlock _ _ _ => exact hI.elim

end Scripts

/-- **Interchangeable backends.** Let the two chains behave alike under a relation between the
validator's state and the simulator's ledger. From related states, the two backends answer a
script alike exactly when it holds only transactions and event queries and no query asks for fewer
events than its transaction had emitted by then; the two runs then end in related states. -/
theorem backends_interchangeable {σ : Type} (pipeline : AuthorityPipeline)
    (chain : SimulacrumChain σ) (R : AuthorityState → σ → Prop)
    (hsim : ChainSimulation pipeline chain R) (authority : AuthorityState) (state : σ)
    (hrel : R authority state) (requests : List AdapterRequest) :
    ((runScript (ValidatorWithFullnode.handle pipeline) authority requests).1 =
        (runScript (Simulacrum.handle chain) state requests).1 ↔
      Interchangeable pipeline authority requests) ∧
    (Interchangeable pipeline authority requests →
      R (runScript (ValidatorWithFullnode.handle pipeline) authority requests).2
        (runScript (Simulacrum.handle chain) state requests).2) :=
  ⟨transcripts_eq_iff_interchangeable hsim requests authority state hrel,
    runScript_related_of_interchangeable hsim requests authority state hrel⟩

/-! ### Two chains that commit events -/

/-- Executing a transaction commits it under `someTxDigest` with two events. -/
def commitTwoEvents (events : TransactionDigest → List Event) : TransactionDigest → List Event :=
  Function.update events someTxDigest [byteEvent 1, byteEvent 2]

def committingPipeline : AuthorityPipeline where
  sendAndConfirm _ _ authority := (.ok (⟨[]⟩, none), ⟨commitTwoEvents authority.transactionEvents⟩)
  devInspect _ _ _ _ := .error ⟨"not inspected"⟩

def committingChain : SimulacrumChain (TransactionDigest → List Event) where
  executeTransaction _ store := (.ok (⟨[]⟩, none), commitTwoEvents store)
  createCheckpoint store := (⟨0⟩, store)
  advanceClock _ store := (⟨[]⟩, store)
  advanceEpoch store := store
  requestGas _ _ store := (.error (.collaborator "no gas"), store)
  getTransactionEventsByTxDigest store txDigest := some ⟨store txDigest⟩

def holdSameEvents (authority : AuthorityState) (store : TransactionDigest → List Event) : Prop :=
  authority.transactionEvents = store

theorem committingPipeline_simulates :
    ChainSimulation committingPipeline committingChain holdSameEvents :=
  ⟨fun _ _ h _ => congrFun h.symm _, fun _ _ _ h => ⟨rfl, congrArg commitTwoEvents h⟩⟩

/-- A query before the transaction, the transaction, and a query for its two events. -/
def queryExecuteQuery : List AdapterRequest :=
  [.queryTxEventsAsc someTxDigest 0, .executeTxn ⟨[]⟩, .queryTxEventsAsc someTxDigest 2]

theorem backends_interchangeable_on_two_events :
    ChainSimulation committingPipeline committingChain holdSameEvents ∧
    holdSameEvents ⟨fun _ => []⟩ (fun _ => []) ∧
    Interchangeable committingPipeline ⟨fun _ => []⟩ queryExecuteQuery ∧
    (((runScript (ValidatorWithFullnode.handle committingPipeline) ⟨fun _ => []⟩
          queryExecuteQuery).1 =
        (runScript (Simulacrum.handle committingChain) (fun _ => []) queryExecuteQuery).1 ↔
      Interchangeable committingPipeline ⟨fun _ => []⟩ queryExecuteQuery) ∧
    (Interchangeable committingPipeline ⟨fun _ => []⟩ queryExecuteQuery →
      holdSameEvents
        (runScript (ValidatorWithFullnode.handle committingPipeline) ⟨fun _ => []⟩
          queryExecuteQuery).2
        (runScript (Simulacrum.handle committingChain) (fun _ => []) queryExecuteQuery).2)) :=
  ⟨committingPipeline_simulates, rfl, by simp only [Interchangeable]; decide,
    backends_interchangeable committingPipeline committingChain holdSameEvents
      committingPipeline_simulates ⟨fun _ => []⟩ (fun _ => []) rfl queryExecuteQuery⟩

end SuiLudka
