import CrosEc.Board.PmuBoardInit
import CrosEc.Board.InitSequence

set_option relaxedAutoImplicit false
set_option autoImplicit false

/-!
# `pmu_board_init` refines the chained sequence

The C function of `CrosEc.Board.PmuBoardInit` threads one mutable `failure` through thirteen
guarded statements and an `||` condition. The sequence of `CrosEc.Board.InitSequence` chains
results and has no variable at all. They compute the same thing for every driver.

The abstraction of a frame is its result so far, `.ok ()` while `failure` is `0` and
`.error failure` after, together with the driver's state. One guarded statement is one step
of `chainThen` on that abstraction (`Frame.chainThen_guard`), so a run of them is the chain
(`Frame.guards_simulates`); the `||` condition is the version query and nothing else, since
`ver` is still indeterminate there and its read is never reached
(`Frame.workaround_of_ver_none`).

## Main definitions

* `CrosEc.Board.Frame.result` — the abstraction of a frame to a chain result.
* `CrosEc.Board.Frame.guards` — a run of guarded statements.

## Main results

* `CrosEc.Board.Frame.guards_simulates` — a run of guarded statements is `chainThen` on the
  abstraction.
* `CrosEc.Board.tpschromeBoardInit_refines` — for every driver and driver state, the C
  function never reads `ver` indeterminate, and returns what `boardInitChained` returns, in
  the same driver state.
* `CrosEc.Board.pmuBoardInit_chains` — for both board copies: the refinement, and the log of
  the calls issued observed through the logging driver.
-/

namespace CrosEc.Board

open CrosEc.Pmu

variable {σ : Type} (d : PmuDriver σ)

namespace Frame

/-- The abstraction of a frame: the chain result so far. -/
def result (f : Frame σ) : Except Int Unit := if f.failure = 0 then .ok () else .error f.failure

/-- A run of guarded statements, one per request. -/
def guards (cs : List PmuCall) (f : Frame σ) : Frame σ := cs.foldl (fun f c => f.guard d c) f

/-- Guarded calls leave `ver` alone. -/
@[simp] theorem guards_ver (cs : List PmuCall) (f : Frame σ) : (f.guards d cs).ver = f.ver := by
  induction cs generalizing f with
  | nil => rfl
  | cons c cs ih => exact (ih (f.guard d c)).trans (guard_ver d c f)

/-- `failure ? EC_ERROR_UNKNOWN : EC_SUCCESS` is the aggregate of the abstraction. -/
theorem aggregate_result (f : Frame σ) :
    aggregate f.result = if f.failure ≠ 0 then .ecErrorUnknown else .ecSuccess := by
  by_cases h : f.failure = 0 <;> simp [result, aggregate, h]

/-- **One guarded statement is one chain step.** -/
theorem chainThen_guard (c : PmuCall) (cs : List PmuCall) (f : Frame σ) :
    chainThen d f.result (c :: cs) f.pmu = chainThen d (f.guard d c).result cs (f.guard d c).pmu := by
  by_cases h : f.failure = 0
  · by_cases hc : (d.call f.pmu c).1 = 0 <;> simp [result, guard, chain, h, hc]
  · simp [result, h]

/-- **A run of guarded statements is the chain** on the frame's abstraction. -/
theorem guards_simulates (cs : List PmuCall) (f : Frame σ) :
    ((f.guards d cs).result, (f.guards d cs).pmu) = chainThen d f.result cs f.pmu := by
  induction cs generalizing f with
  | nil => simp [guards]
  | cons c cs ih => rw [chainThen_guard]; exact ih (f.guard d c)

/-- The statements after the condition, and the `return`, are `chainThen` over the extra
steps followed by the aggregate. -/
theorem finish_simulates (b : Bool) (g : Frame σ) :
    (if (if b then g.guards d legacySteps else g).failure ≠ 0 then EcErrorList.ecErrorUnknown
      else .ecSuccess, (if b then g.guards d legacySteps else g).pmu) =
    (aggregate (chainThen d g.result (extraSteps b) g.pmu).1,
      (chainThen d g.result (extraSteps b) g.pmu).2) := by
  rw [← guards_simulates, ← aggregate_result]
  cases b <;> rfl

end Frame

/-- The body of `pmu_board_init` over the step lists. -/
theorem tpschromeBoardInit_eq (s : σ) :
    tpschromeBoardInit d s = do
      let (before_es3, f) ← ((Frame.init s).guards d baseSteps).workaround d
      let f := if before_es3 then f.guards d legacySteps else f
      return (if f.failure ≠ 0 then .ecErrorUnknown else .ecSuccess, f.pmu) := rfl

/-- **`pmu_board_init` refines the chained sequence.** For every driver and driver state, the
function never reads `ver` while it is indeterminate, and returns what `boardInitChained`
returns, leaving the driver in the same state.

**Proof sketch.** The ten base statements are the base chain (`Frame.guards_simulates`) and
leave `ver` indeterminate, so the condition is the version query alone, with the value
`VersionReply.legacy` (`Frame.workaround_of_ver_none`). The query leaves `failure` as it
was, and what follows is `chainThen` over the extra steps (`Frame.finish_simulates`). -/
theorem tpschromeBoardInit_refines (s : σ) :
    tpschromeBoardInit d s = some (boardInitChained d s) := by
  have hb := Frame.guards_simulates d baseSteps (Frame.init s)
  have hv : ((Frame.init s).guards d baseSteps).ver = none := by simp [Frame.init]
  rw [tpschromeBoardInit_eq, Frame.workaround_of_ver_none d hv]
  generalize (Frame.init s).guards d baseSteps = f at hb
  simp only [Frame.init, Frame.result, if_true, chainThen_ok] at hb
  simp only [boardInitChained, ← hb]
  exact congrArg some (Frame.finish_simulates d _ _)

/-- What short-circuit Result chaining over `L` means for an implementation `run` of
`pmu_board_init`, with driver `d` in state `s`. The function returns what
`boardInitChained` returns, in the same driver state, without reading `ver` indeterminate.
Run through the logging driver, it issues the setter calls `evsB`, queries the version
exactly once, then issues `evsE`; `evsB` short-circuits over the base steps; `evsB ++ evsE`
short-circuits over `L = initSteps r.legacy`, where `r` is the reply to the query; and the
result is `EC_SUCCESS` exactly when every call issued returned `0`. -/
def ChainsOver (run : ∀ {τ : Type}, PmuDriver τ → τ → Option (EcErrorList × τ))
    (d : PmuDriver σ) (s : σ) : Prop :=
  run d s = some (boardInitChained d s) ∧
    ∃ (res : EcErrorList) (evsB evsE : List (PmuCall × Int)) (r : VersionReply),
      run d.logged (s, []) = some (res, (boardInitChained d s).2,
        evsB.map PmuEvent.ofSetter ++ .version r :: evsE.map PmuEvent.ofSetter) ∧
      ShortCircuits baseSteps evsB ∧
      ShortCircuits (initSteps r.legacy) (evsB ++ evsE) ∧
      (res = .ecSuccess ↔ ∀ e ∈ evsB ++ evsE, e.2 = 0)

/-- The body shared by both boards chains over `L`. -/
theorem tpschromeBoardInit_chainsOver (s : σ) : ChainsOver @tpschromeBoardInit d s := by
  refine ⟨tpschromeBoardInit_refines d s, (boardInitChained d s).1, baseEvents d s,
    extraEvents d s, versionReply d s, ?_, shortCircuits_chainEvents d _ _,
    shortCircuits_initSteps d s, boardInitChained_eq_success_iff d s⟩
  rw [tpschromeBoardInit_refines, boardInitChained_logged, List.nil_append]

/-- **Both copies of `pmu_board_init` are short-circuit Result chaining over `L`**, for every
driver and every driver state. -/
theorem pmuBoardInit_chains (s : σ) :
    ChainsOver @Snow.pmuBoardInit d s ∧ ChainsOver @Pit.pmuBoardInit d s :=
  ⟨tpschromeBoardInit_chainsOver d s, tpschromeBoardInit_chainsOver d s⟩

end CrosEc.Board
