import Mathlib.Data.List.Basic

set_option relaxedAutoImplicit false
set_option autoImplicit false

/-!
# The TPSChrome PMU driver, as the board code sees it

`pmu_board_init` in `board/snow/board.c` and `board/pit/board.c` programs the TPSChrome
charger through the driver functions `pmu_set_fastcharge`, `pmu_enable_ext_control`,
`pmu_enable_charger`, `pmu_low_current_charging`, `pmu_set_term_voltage`,
`pmu_set_term_current` and `pmu_version`. The driver is not part of the sources: it is an
external collaborator, and every result about the board code is stated for every driver.

A driver is a state machine over a state type of its own choosing. It answers each setter
request with an `int` return code, and the version query with a return code and whatever it
left in the caller's `ver`. Nothing constrains it but the contract of `pmu_version`: when it
returns `0` it has written the revision. That contract is a field of `VersionReply`, so a
reply that breaks it cannot be built.

## Main definitions

* `CrosEc.Pmu.PmuCall` — a setter request, named after the driver function, with its
  arguments.
* `CrosEc.Pmu.VersionReply` — what `pmu_version(&ver)` hands back.
* `CrosEc.Pmu.PmuDriver` — a driver: how it answers setters and the version query.
* `CrosEc.Pmu.PmuDriver.logged` — the same driver, with every exchange appended to a log
  kept beside its state. It observes the calls a program issues without changing the
  answers it gets.

## Design and deviations

* The header `pmu_tpschrome.h` and the error list of `common.h` are not among the sources.
  Their enumerations are represented by the enumerators the board files name, and nothing
  else: the board code only passes them through to the driver (the termination settings)
  or returns them (the error codes).
* Return codes are `Int`. The board code only tests them against zero, so every C `int` is
  one of the values the theorems cover.

## References

* `board/snow/board.c`, `board/pit/board.c`: `pmu_board_init`.
-/

namespace CrosEc.Pmu

/-! ### Arguments of the driver calls -/

/-- Modelled from the spec: the fast-charge safety timeout (`enum FASTCHARGE_TIMEOUT` of
the absent `pmu_tpschrome.h`), with the one enumerator the board code uses. -/
inductive FastchargeTimeout
  | timeout6hrs
  deriving DecidableEq, Repr

/-- Modelled from the spec: the battery temperature ranges with their own termination
settings (`enum TPS_TEMPERATURE_RANGE`): high (`RANGE_T34`), standard (`RANGE_T23`), and
the range whose sensor reading the board ignores (`RANGE_T40`). -/
inductive TpsTemperatureRange
  | rangeT23
  | rangeT34
  | rangeT40
  deriving DecidableEq, Repr

/-- Modelled from the spec: the termination voltage settings (`enum
TPS_TERMINATION_VOLTAGE`) the board code names. -/
inductive TpsTerminationVoltage
  | termV2100
  deriving DecidableEq, Repr

/-- Modelled from the spec: the termination current settings (`enum
TPS_TERMINATION_CURRENT`) the board code names, as a share of the nominal current. -/
inductive TpsTerminationCurrent
  | termI0750
  | termI1000
  deriving DecidableEq, Repr

/-- Modelled from the spec: the two codes of `enum ec_error_list` that `pmu_board_init`
returns, its single aggregate success or failure. -/
inductive EcErrorList
  | ecSuccess
  | ecErrorUnknown
  deriving DecidableEq, Repr

/-! ### Requests, replies and drivers -/

/-- A setter request of the board code, named after the driver function it calls. The
`int` flags of the enable calls are kept as the code passes them. -/
inductive PmuCall
  | pmuSetFastcharge (timeout : FastchargeTimeout)
  | pmuEnableExtControl (enable : Int)
  | pmuEnableCharger (enable : Int)
  | pmuLowCurrentCharging (enable : Int)
  | pmuSetTermVoltage (range : TpsTemperatureRange) (voltage : TpsTerminationVoltage)
  | pmuSetTermCurrent (range : TpsTemperatureRange) (current : TpsTerminationCurrent)
  deriving DecidableEq, Repr

/-- What `pmu_version(&ver)` hands back: its return code, and what it left in `ver`
(`none` when it did not write it). On success the driver has written the revision. -/
structure VersionReply where
  /-- The return code of `pmu_version`. -/
  rc : Int
  /-- The value written through the pointer, if any. -/
  ver : Option Int
  /-- The driver's contract: a successful query has written the revision. -/
  written_of_ok : rc = 0 → ver.isSome
  deriving DecidableEq

/-- A PMU driver: a state machine over `σ` answering the board code's requests. -/
structure PmuDriver (σ : Type) where
  /-- The return code of a setter request, and the driver's next state. -/
  call : σ → PmuCall → Int × σ
  /-- The reply to `pmu_version`, and the driver's next state. -/
  version : σ → VersionReply × σ

/-- One exchange between the board code and the driver. -/
inductive PmuEvent
  | setter (c : PmuCall) (rc : Int)
  | version (r : VersionReply)
  deriving DecidableEq

/-- A setter exchange, as a log entry. -/
def PmuEvent.ofSetter (e : PmuCall × Int) : PmuEvent :=
  .setter e.1 e.2

variable {σ : Type}

/-- The driver `d`, keeping a log of every exchange beside its state. It answers exactly
as `d` does. -/
def PmuDriver.logged (d : PmuDriver σ) : PmuDriver (σ × List PmuEvent) where
  call s c := ((d.call s.1 c).1, (d.call s.1 c).2, s.2 ++ [.setter c (d.call s.1 c).1])
  version s := ((d.version s.1).1, (d.version s.1).2, s.2 ++ [.version (d.version s.1).1])

/-- A logged setter call: the driver's answer, and one more log entry. -/
@[simp] theorem PmuDriver.logged_call (d : PmuDriver σ) (s : σ × List PmuEvent)
    (c : PmuCall) :
    d.logged.call s c =
      ((d.call s.1 c).1, (d.call s.1 c).2, s.2 ++ [.setter c (d.call s.1 c).1]) :=
  rfl

/-- A logged version query: the driver's reply, and one more log entry. -/
@[simp] theorem PmuDriver.logged_version (d : PmuDriver σ) (s : σ × List PmuEvent) :
    d.logged.version s =
      ((d.version s.1).1, (d.version s.1).2, s.2 ++ [.version (d.version s.1).1]) :=
  rfl

end CrosEc.Pmu
