import CrosEc.Pmu.Chain

set_option relaxedAutoImplicit false
set_option autoImplicit false

/-!
# The charger initialisation as a chain of fallible steps

What `pmu_board_init` is for: apply, in strict order, the fast-charge timeout, external
control, forced charging off, low-current charging, then the termination voltage and current
of the high, standard and ignored temperature ranges; on revisions before ES3, lower the
three termination currents to 75%. Each step is fallible, the sequence stops at the first
failure, and one aggregate result is reported.

`boardInitChained` is that sequence over the combinator `CrosEc.Pmu.chain`. The revision is
asked for between the two parts, whatever the first part did, and it decides whether the
second part is the three legacy steps or nothing.

## Main definitions

* `CrosEc.Board.baseSteps`, `CrosEc.Board.legacySteps` — the two parts of the sequence;
  `CrosEc.Board.initSteps` — the whole list `L` for a revision.
* `CrosEc.Board.VersionReply.legacy` — the revision needs the workaround: the query failed,
  or returned `0` with a revision below 3.
* `CrosEc.Board.boardInitChained` — the sequence as chained steps.

## Main results

* `CrosEc.Board.boardInitChained_logged` — observed through the logging driver, the run is
  the events of the base chain, the version query, then the events of the legacy chain.
* `CrosEc.Board.shortCircuits_initSteps` — the setter calls issued short-circuit over `L`.
* `CrosEc.Board.boardInitChained_eq_success_iff` — success exactly when every issued call
  returned `0`.
-/

namespace CrosEc.Pmu

/-- The revision needs the workaround: `pmu_version` failed, or returned `0` with a
revision below 3. -/
def VersionReply.legacy (r : VersionReply) : Bool :=
  r.rc ≠ 0 || r.ver.any fun v => v < 3

end CrosEc.Pmu

namespace CrosEc.Board

open CrosEc.Pmu

/-! ### The step list -/

/-- The ten steps every revision gets. -/
def baseSteps : List PmuCall :=
  [.pmuSetFastcharge .timeout6hrs, .pmuEnableExtControl 1, .pmuEnableCharger 0,
    .pmuLowCurrentCharging 1,
    .pmuSetTermVoltage .rangeT34 .termV2100, .pmuSetTermCurrent .rangeT34 .termI1000,
    .pmuSetTermVoltage .rangeT23 .termV2100, .pmuSetTermCurrent .rangeT23 .termI1000,
    .pmuSetTermVoltage .rangeT40 .termV2100, .pmuSetTermCurrent .rangeT40 .termI1000]

/-- The three steps lowering the termination currents to 75% before ES3. -/
def legacySteps : List PmuCall :=
  [.pmuSetTermCurrent .rangeT34 .termI0750, .pmuSetTermCurrent .rangeT23 .termI0750,
    .pmuSetTermCurrent .rangeT40 .termI0750]

/-- The steps after the version query. -/
def extraSteps (legacy : Bool) : List PmuCall := if legacy then legacySteps else []

/-- The whole step list `L` for a revision. -/
def initSteps (legacy : Bool) : List PmuCall := baseSteps ++ extraSteps legacy

/-- The single aggregate result of a chain. -/
def aggregate : Except Int Unit → EcErrorList
  | .ok () => .ecSuccess
  | .error _ => .ecErrorUnknown

/-- The aggregate is a success exactly when the chain is. -/
@[simp] theorem aggregate_eq_ecSuccess_iff (r : Except Int Unit) :
    aggregate r = .ecSuccess ↔ r = .ok () := by
  rcases r with e | ⟨⟨⟩⟩ <;> simp [aggregate]

variable {σ : Type} (d : PmuDriver σ)

/-- **The initialisation as chained steps.** Chain the base steps; query the revision,
whatever the chain did; continue with the extra steps only if the chain got through; report
the aggregate. -/
def boardInitChained (s : σ) : EcErrorList × σ :=
  let base := chain d baseSteps s
  let q := d.version base.2
  let rest := chainThen d base.1 (extraSteps q.1.legacy) q.2
  (aggregate rest.1, rest.2)

/-! ### What the chained sequence issues -/

/-- The exchanges of `chainThen d r cs s`: none when `r` is already a failure. -/
def chainThenEvents (r : Except Int Unit) (cs : List PmuCall) (s : σ) :
    List (PmuCall × Int) :=
  match r with
  | .ok () => chainEvents d cs s
  | .error _ => []

/-- `chain_logged`, for a chain that may not run at all. -/
theorem chainThen_logged (r : Except Int Unit) (cs : List PmuCall) (s : σ)
    (log : List PmuEvent) :
    chainThen d.logged r cs (s, log) =
      ((chainThen d r cs s).1, (chainThen d r cs s).2,
        log ++ (chainThenEvents d r cs s).map PmuEvent.ofSetter) := by
  rcases r with e | ⟨⟨⟩⟩ <;> simp [chainThenEvents, chain_logged]

/-- The setter exchanges of `boardInitChained d s`, before and after the version query. -/
def baseEvents (s : σ) : List (PmuCall × Int) := chainEvents d baseSteps s

/-- The reply to the version query of `boardInitChained d s`. -/
def versionReply (s : σ) : VersionReply := (d.version (chain d baseSteps s).2).1

/-- The setter exchanges of `boardInitChained d s` after the version query. -/
def extraEvents (s : σ) : List (PmuCall × Int) :=
  chainThenEvents d (chain d baseSteps s).1 (extraSteps (versionReply d s).legacy)
    (d.version (chain d baseSteps s).2).2

/-- **The run, observed.** Through the logging driver, `boardInitChained` answers as under
the driver itself, and its log is the base events, the one version query, then the extra
events. -/
theorem boardInitChained_logged (s : σ) (log : List PmuEvent) :
    boardInitChained d.logged (s, log) =
      ((boardInitChained d s).1, (boardInitChained d s).2,
        log ++ (baseEvents d s).map PmuEvent.ofSetter ++
          .version (versionReply d s) :: (extraEvents d s).map PmuEvent.ofSetter) := by
  simp [boardInitChained, chain_logged, chainThen_logged, baseEvents, extraEvents,
    versionReply]

/-- **The setter calls issued short-circuit over `L`**, where `L` is the step list of the
revision the query reported. -/
theorem shortCircuits_initSteps (s : σ) :
    ShortCircuits (initSteps (versionReply d s).legacy) (baseEvents d s ++ extraEvents d s) := by
  unfold initSteps extraEvents baseEvents
  rcases hr : (chain d baseSteps s).1 with e | ⟨⟨⟩⟩
  · simpa [chainThenEvents] using (shortCircuits_chainEvents d baseSteps s).append_of_fail
      (exists_chainEvents_ne_zero d hr) _
  · simpa [chainThenEvents, chainEvents_of_ok d hr] using
      (shortCircuits_chainEvents d _ _).append (A := baseSteps)

/-- **One aggregate result**: success exactly when every setter call issued returned `0`. -/
theorem boardInitChained_eq_success_iff (s : σ) :
    (boardInitChained d s).1 = .ecSuccess ↔ ∀ e ∈ baseEvents d s ++ extraEvents d s, e.2 = 0 := by
  simp only [boardInitChained, extraEvents, baseEvents]
  rcases hr : (chain d baseSteps s).1 with e | ⟨⟨⟩⟩
  · obtain ⟨ev, hev, hne⟩ := exists_chainEvents_ne_zero d hr
    simp only [chainThen_error, chainThenEvents, List.append_nil, aggregate]
    exact iff_of_false (by decide) fun h => hne (h ev hev)
  · rw [chainEvents_of_ok d hr, List.forall_mem_append]
    simp [chainThenEvents, chain_eq_ok_iff, versionReply]

end CrosEc.Board
