import CrosEc.Pmu.Driver

set_option relaxedAutoImplicit false
set_option autoImplicit false

/-!
# `pmu_board_init` of the snow and pit boards

The charger initialisation of `board/snow/board.c` and `board/pit/board.c`, statement by
statement. The two functions are the same text, so they are one definition,
`tpschromeBoardInit`, under two names.

The function's automatic variables and the driver's state form a `Frame`. Each of the
thirteen setter statements is `if (!failure) failure = <call>;`, which is `Frame.guard`. The
condition `pmu_version(&ver) || ver < 3` is `Frame.workaround`: the query always runs, and
`ver` is read only when it returned `0`.

`ver` is declared without an initialiser. It is `none` until `pmu_version` writes it, and
reading it while `none` has no value: `Frame.workaround`, and with it the whole function,
returns an `Option`, where `none` is that read. `CrosEc.Board.tpschromeBoardInit_refines`
shows it never happens.

## Main definitions

* `CrosEc.Board.Frame` — `ver`, `failure`, and the driver's state.
* `CrosEc.Board.Frame.guard` — `if (!failure) failure = <call>;`.
* `CrosEc.Board.Frame.workaround` — `pmu_version(&ver) || ver < 3`.
* `CrosEc.Board.Snow.pmuBoardInit`, `CrosEc.Board.Pit.pmuBoardInit` — the two copies.

## Main results

* `CrosEc.Board.Frame.guard_of_failure` — once `failure` is set, a guarded call issues
  nothing and changes nothing.
* `CrosEc.Board.Frame.workaround_of_ver_none` — with `ver` still indeterminate, the
  condition is decided by the reply alone, and never stuck.

## References

* `board/snow/board.c`, lines 219-279; `board/pit/board.c`, lines 134-194.
-/

namespace CrosEc.Board

open CrosEc.Pmu

/-- The automatic variables of `pmu_board_init` and the state of the driver it talks to.
`ver` is `none` while it is indeterminate. -/
structure Frame (σ : Type) where
  /-- `int ver;` -/
  ver : Option Int
  /-- `int failure = 0;` -/
  failure : Int
  /-- The driver's state. -/
  pmu : σ

variable {σ : Type} (d : PmuDriver σ)

namespace Frame

/-- `int ver, failure = 0;`, with the driver in state `s`. -/
def init (s : σ) : Frame σ := { ver := none, failure := 0, pmu := s }

/-- `if (!failure) failure = <call>;` -/
def guard (c : PmuCall) (f : Frame σ) : Frame σ :=
  if f.failure = 0 then { f with failure := (d.call f.pmu c).1, pmu := (d.call f.pmu c).2 }
  else f

/-- `pmu_version(&ver)`: its return code, and the frame after it. `ver` keeps its old value
when the driver did not write it. -/
def pmuVersion (f : Frame σ) : Int × Frame σ :=
  ((d.version f.pmu).1.rc,
    { f with ver := (d.version f.pmu).1.ver.or f.ver, pmu := (d.version f.pmu).2 })

/-- `pmu_version(&ver) || ver < 3`: `ver < 3` is evaluated only when the query returned
`0`, and is stuck (`none`) if `ver` is then still indeterminate. -/
def workaround (f : Frame σ) : Option (Bool × Frame σ) :=
  if (f.pmuVersion d).1 ≠ 0 then some (true, (f.pmuVersion d).2)
  else (f.pmuVersion d).2.ver.map fun v => (decide (v < 3), (f.pmuVersion d).2)

/-- Once `failure` is set, a guarded call issues nothing and changes nothing. -/
@[simp] theorem guard_of_failure {f : Frame σ} (h : f.failure ≠ 0) (c : PmuCall) :
    f.guard d c = f := by
  simp [guard, h]

/-- A guarded call leaves `ver` alone. -/
@[simp] theorem guard_ver (c : PmuCall) (f : Frame σ) : (f.guard d c).ver = f.ver := by
  unfold guard; split <;> rfl

/-- With `ver` still indeterminate, the condition is decided by the reply alone: it holds
when the query failed or reported a revision below 3, and it is never stuck. -/
theorem workaround_of_ver_none {f : Frame σ} (h : f.ver = none) :
    f.workaround d =
      some ((d.version f.pmu).1.rc ≠ 0 || ((d.version f.pmu).1.ver.any fun v => v < 3),
        { f with ver := (d.version f.pmu).1.ver, pmu := (d.version f.pmu).2 }) := by
  simp only [workaround, pmuVersion, h]
  obtain ⟨⟨rc, ver, hok⟩, s'⟩ := d.version f.pmu
  by_cases hrc : rc = 0
  · obtain ⟨v, rfl⟩ := Option.isSome_iff_exists.mp (hok hrc)
    simp [hrc]
  · simp [hrc]

end Frame

/-- `pmu_board_init`, the body shared by `board/snow/board.c` and `board/pit/board.c`.
`none` would be a read of `ver` while it is indeterminate. -/
def tpschromeBoardInit (s : σ) : Option (EcErrorList × σ) := do
  let f := Frame.init s
  -- Set fast charging timeout to 6 hours
  let f := f.guard d (.pmuSetFastcharge .timeout6hrs)
  -- Enable external gpio CHARGER_EN control
  let f := f.guard d (.pmuEnableExtControl 1)
  -- Disable force charging
  let f := f.guard d (.pmuEnableCharger 0)
  -- Set NOITERM bit
  let f := f.guard d (.pmuLowCurrentCharging 1)
  -- High temperature charging: termination voltage 2.1V, current 100%
  let f := f.guard d (.pmuSetTermVoltage .rangeT34 .termV2100)
  let f := f.guard d (.pmuSetTermCurrent .rangeT34 .termI1000)
  -- Standard temperature charging: termination voltage 2.1V, current 100%
  let f := f.guard d (.pmuSetTermVoltage .rangeT23 .termV2100)
  let f := f.guard d (.pmuSetTermCurrent .rangeT23 .termI1000)
  -- Ignore TPSCHROME NTC reading in T40
  let f := f.guard d (.pmuSetTermVoltage .rangeT40 .termV2100)
  let f := f.guard d (.pmuSetTermCurrent .rangeT40 .termI1000)
  -- Workaround init values before ES3
  let (before_es3, f) ← f.workaround d
  let f :=
    if before_es3 then
      -- Termination current: 75%
      let f := f.guard d (.pmuSetTermCurrent .rangeT34 .termI0750)
      let f := f.guard d (.pmuSetTermCurrent .rangeT23 .termI0750)
      f.guard d (.pmuSetTermCurrent .rangeT40 .termI0750)
    else f
  return (if f.failure ≠ 0 then .ecErrorUnknown else .ecSuccess, f.pmu)

/-- `pmu_board_init` of `board/snow/board.c`. -/
def Snow.pmuBoardInit (s : σ) : Option (EcErrorList × σ) := tpschromeBoardInit d s

/-- `pmu_board_init` of `board/pit/board.c`, the same text as the snow board's. Its comment
calls the two T40 settings "snow board specific", yet pit issues them as snow does. -/
def Pit.pmuBoardInit (s : σ) : Option (EcErrorList × σ) := tpschromeBoardInit d s

end CrosEc.Board
