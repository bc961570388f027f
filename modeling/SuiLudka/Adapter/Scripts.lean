import SuiLudka.Adapter.Contract

/-!
# Scripts run against a backend

`run_test` (`lib.rs`) hands a test file to the Move test framework's `run_test_impl`, which gives
its commands to the adapter one after another; a panic aborts the test. `runScript` is such a run
against one backend: each request paired with its answer, up to the first panic, and the state the
backend is left in.

What one step does (`Adapter.Contract`) decides two facts about whole runs. A script runs to its end
on the validator's backend exactly when none of its requests drives the chain, and on the
simulator's exactly when none is a dev-inspect (`scripts_panic_iff`). And the queries are invisible
to the rest of a run: dropping them from a script leaves the answers to the other requests and the
final state as they were (`scripts_without_queries`). On the simulator this holds of the event
queries only, since a dev-inspect there aborts the run.
-/

namespace SuiLudka

def panicked {α : Type} : Except Fault α → Bool
  | .error (.panic _) => true
  | _ => false

theorem panicked_iff {α : Type} (x : Except Fault α) :
    panicked x = true ↔ ∃ m, x = .error (.panic m) := by
  rcases x with (_ | _) | _ <;> simp [panicked]

theorem panicked_eq_false {α : Type} {x : Except Fault α} (h : ¬∃ m, x = .error (.panic m)) :
    panicked x = false :=
  Bool.eq_false_iff.2 fun hp => h ((panicked_iff x).1 hp)

/-- The event query, the one request that only reads on both backends. -/
def AdapterRequest.isEventQuery : AdapterRequest → Bool
  | .queryTxEventsAsc _ _ => true
  | _ => false

section Run

variable {σ : Type} (handle : σ → AdapterRequest → Except Fault AdapterAnswer × σ)

/-- A script run against a backend: each request with its answer, up to and including the first
panic, and the backend's state at the end. -/
def runScript :
    σ → List AdapterRequest → List (AdapterRequest × Except Fault AdapterAnswer) × σ
  | state, [] => ([], state)
  | state, request :: rest =>
    let (answer, state') := handle state request
    if panicked answer then ([(request, answer)], state')
    else
      let (transcript, final) := runScript state' rest
      ((request, answer) :: transcript, final)

/-- A run panics exactly when one of its requests does, when whether a step panics depends on the
request alone. -/
theorem runScript_panics_iff {P : AdapterRequest → Prop}
    (hstep : ∀ state request, (∃ m, (handle state request).1 = .error (.panic m)) ↔ P request)
    (state : σ) (requests : List AdapterRequest) :
    (∃ entry ∈ (runScript handle state requests).1, panicked entry.2) ↔
      ∃ request ∈ requests, P request := by
  induction requests generalizing state with
  | nil => simp [runScript]
  | cons request rest ih =>
    have hp := (panicked_iff _).trans (hstep state request)
    rcases h : handle state request with ⟨answer, state'⟩
    rw [h] at hp
    by_cases hpanic : panicked answer
    · simp only [runScript, h, hpanic, if_true]
      exact iff_of_true ⟨_, List.mem_singleton_self _, hpanic⟩
        ⟨request, List.mem_cons_self _ _, hp.1 hpanic⟩
    · simp only [runScript, h, hpanic, Bool.false_eq_true, if_false, List.mem_cons,
        exists_eq_or_imp, false_or, ih state', ← hp]

/-- Requests that leave the backend as it was and never panic can be dropped from a script: the
other requests get the same answers, and the run ends in the same state. -/
theorem runScript_filter {keep : AdapterRequest → Bool}
    (hdrop : ∀ state request, keep request = false →
      (handle state request).2 = state ∧ panicked (handle state request).1 = false)
    (state : σ) (requests : List AdapterRequest) :
    runScript handle state (requests.filter keep) =
      ((runScript handle state requests).1.filter (keep ·.1),
        (runScript handle state requests).2) := by
  induction requests generalizing state with
  | nil => rfl
  | cons request rest ih =>
    rcases h : handle state request with ⟨answer, state'⟩
    cases hk : keep request
    · obtain ⟨hstate, hpanic⟩ := hdrop state request hk
      rw [h] at hstate hpanic
      cases hstate
      simp only [List.filter_cons, hk, Bool.false_eq_true, if_false, ih, runScript, h, hpanic,
        List.filter_cons]
    · by_cases hpanic : panicked answer
      · simp [runScript, List.filter_cons, hk, h, hpanic]
      · simp only [List.filter_cons, hk, if_true, runScript, h, hpanic, Bool.false_eq_true,
          if_false, ih]

end Run

section Backends

variable {σ : Type}

/-- **Scripts.** A script runs to its end on the validator's backend exactly when none of its
requests drives the chain, and on the simulator's exactly when none is a dev-inspect. -/
theorem scripts_panic_iff (pipeline : AuthorityPipeline) (chain : SimulacrumChain σ)
    (authority : AuthorityState) (state : σ) (requests : List AdapterRequest) :
    ((∃ entry ∈ (runScript (ValidatorWithFullnode.handle pipeline) authority requests).1,
        panicked entry.2) ↔ ∃ request ∈ requests, request.drivesChain) ∧
    ((∃ entry ∈ (runScript (Simulacrum.handle chain) state requests).1, panicked entry.2) ↔
      ∃ request ∈ requests,
        ∃ sender kind gasPrice, request = .devInspectTransactionBlock sender kind gasPrice) :=
  ⟨runScript_panics_iff _ (ValidatorWithFullnode.panics_iff_drivesChain pipeline) authority
      requests,
    runScript_panics_iff _ (Simulacrum.panics_iff_devInspect chain) state requests⟩

/-- **Read-only queries.** Dropping the queries from a script run on the validator's backend, or
the event queries from one run on the simulator's, leaves the answers to the other requests and
the final state as they were. -/
theorem scripts_without_queries (pipeline : AuthorityPipeline) (chain : SimulacrumChain σ)
    (authority : AuthorityState) (state : σ) (requests : List AdapterRequest) :
    runScript (ValidatorWithFullnode.handle pipeline) authority
        (requests.filter fun request => !request.isQuery) =
      ((runScript (ValidatorWithFullnode.handle pipeline) authority requests).1.filter
          (fun entry => !entry.1.isQuery),
        (runScript (ValidatorWithFullnode.handle pipeline) authority requests).2) ∧
    runScript (Simulacrum.handle chain) state
        (requests.filter fun request => !request.isEventQuery) =
      ((runScript (Simulacrum.handle chain) state requests).1.filter
          (fun entry => !entry.1.isEventQuery),
        (runScript (Simulacrum.handle chain) state requests).2) := by
  refine ⟨runScript_filter _ (fun authority request hk => ⟨?_, ?_⟩) authority requests,
    runScript_filter _ (fun state request hk => ⟨?_, ?_⟩) state requests⟩
  · exact ValidatorWithFullnode.handle_query pipeline authority (by simpa using hk)
  · refine panicked_eq_false fun hp => ?_
    have hd := (ValidatorWithFullnode.panics_iff_drivesChain pipeline authority request).1 hp
    cases request <;> simp_all [AdapterRequest.isQuery, AdapterRequest.drivesChain]
  · cases request <;> simp_all [AdapterRequest.isEventQuery]
    exact Simulacrum.handle_query chain state rfl
  · refine panicked_eq_false fun hp => ?_
    obtain ⟨_, _, _, rfl⟩ := (Simulacrum.panics_iff_devInspect chain state request).1 hp
    simp [AdapterRequest.isEventQuery] at hk

end Backends

end SuiLudka
