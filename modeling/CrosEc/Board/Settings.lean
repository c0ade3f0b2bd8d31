import CrosEc.Board.Refinement

set_option relaxedAutoImplicit false
set_option autoImplicit false

/-!
# What an initialisation leaves in the charger

What the setter calls do to the charger is the driver's business, and the driver is not
among the sources. Its meaning is taken from the calls' names: each successful setter writes
the one setting it names. `PmuSettings` are those settings and `PmuSettings.write` is one
successful call. A driver `Realises` them when every setter succeeds and writes its setting.
It is `Atomic` when a setter may fail, but writes its setting exactly when it returns `0`.
Neither kind writes a setting on the version query.

Through `CrosEc.Board.tpschromeBoardInit_refines` and the logging driver, the results hold of
the C function. For every atomic driver, failing or not, both copies leave the settings of the
calls they issued that returned `0` (`okCalls`), in order: a prefix of the step list `L`, all
of `L` exactly on `EC_SUCCESS`. Once the ten base steps have gone through, the charger holds
their settings, and a range's termination current is 75% exactly when its legacy step was
issued and returned `0`, so a failure part-way through the legacy steps leaves the ranges
with different currents. For every realising driver, both copies return `EC_SUCCESS` with the
settings of `L`, and a second run leaves them as the first did.

## Main definitions

* `CrosEc.Pmu.PmuSettings` — the settings the initialisation programs.
* `CrosEc.Pmu.PmuSettings.Realises` — a driver whose setters all succeed and write.
* `CrosEc.Pmu.PmuSettings.Atomic` — a driver whose setters write exactly on success.
* `CrosEc.Pmu.okCalls` — the issued calls that returned `0`.
* `CrosEc.Board.initSettings` — the settings after the sequence `L` of a revision.

## Main results

* `CrosEc.Board.pmuBoardInit_settings_prefix` — under an atomic driver, both copies leave the
  settings of the calls that returned `0`, and those calls short-circuit over `L`.
* `CrosEc.Board.pmuBoardInit_settings_values` — under an atomic driver, once the base steps
  went through: their settings, and 75% on exactly the ranges whose legacy step went through.
* `CrosEc.Board.pmuBoardInit_settings` — under a realising driver both copies succeed and
  leave `initSettings`.
* `CrosEc.Board.pmuBoardInit_twice` — running the initialisation twice leaves the settings of
  running it once.
-/

namespace CrosEc.Pmu

/-- Modelled from the spec: the charger settings the initialisation programs, as the setter
calls name them; `none` where nothing has been written. -/
structure PmuSettings where
  /-- The fast-charge safety timeout. -/
  fastcharge : Option FastchargeTimeout
  /-- External control through the `CHARGER_EN` pin. -/
  extControl : Option Int
  /-- Forced charging. -/
  charger : Option Int
  /-- Low-current charging (the NOITERM bit). -/
  lowCurrent : Option Int
  /-- The termination voltage of each temperature range. -/
  termVoltage : TpsTemperatureRange → Option TpsTerminationVoltage
  /-- The termination current of each temperature range. -/
  termCurrent : TpsTemperatureRange → Option TpsTerminationCurrent

namespace PmuSettings

/-- Modelled from the spec: the setting a successful setter call writes. -/
def write (p : PmuSettings) : PmuCall → PmuSettings
  | .pmuSetFastcharge t => { p with fastcharge := some t }
  | .pmuEnableExtControl e => { p with extControl := some e }
  | .pmuEnableCharger e => { p with charger := some e }
  | .pmuLowCurrentCharging e => { p with lowCurrent := some e }
  | .pmuSetTermVoltage r v =>
    { p with termVoltage := fun r' => if r' = r then some v else p.termVoltage r' }
  | .pmuSetTermCurrent r i =>
    { p with termCurrent := fun r' => if r' = r then some i else p.termCurrent r' }

/-- Modelled from the spec: the driver `d` realises the setters as writes of the settings that
`view` reads from its state. Every setter succeeds and writes its setting; the version query
writes none. -/
structure Realises {σ : Type} (d : PmuDriver σ) (view : σ → PmuSettings) : Prop where
  call_ok : ∀ s c, (d.call s c).1 = 0
  call_view : ∀ s c, view (d.call s c).2 = (view s).write c
  version_view : ∀ s, view (d.version s).2 = view s

/-- Modelled from the spec: the setters of `d` are atomic for the settings `view` reads. A
setter that returns `0` has written its setting, one that fails has written nothing, and the
version query writes none. -/
structure Atomic {σ : Type} (d : PmuDriver σ) (view : σ → PmuSettings) : Prop where
  call_view : ∀ s c,
    view (d.call s c).2 = if (d.call s c).1 = 0 then (view s).write c else view s
  version_view : ∀ s, view (d.version s).2 = view s

/-- Nothing written yet. -/
def empty : PmuSettings := ⟨none, none, none, none, fun _ => none, fun _ => none⟩

end PmuSettings

/-- A driver that is its own settings: every setter succeeds and writes, and the revision is
2, before ES3. -/
def settingsDriver : PmuDriver PmuSettings where
  call p c := (0, p.write c)
  version p := (⟨0, some 2, fun _ => rfl⟩, p)

/-- A driver that is its own settings and refuses one request: `bad` returns `1` and writes
nothing, every other setter succeeds and writes, and the revision is 2. -/
def refusingDriver (bad : PmuCall) : PmuDriver PmuSettings where
  call p c := if c = bad then (1, p) else (0, p.write c)
  version p := (⟨0, some 2, fun _ => rfl⟩, p)

variable {σ : Type} {d : PmuDriver σ} {view : σ → PmuSettings}

/-- The settings driver realises its own settings. -/
theorem settingsDriver_realises : PmuSettings.Realises settingsDriver id :=
  ⟨fun _ _ => rfl, fun _ _ => rfl, fun _ => rfl⟩

/-- The refusing driver is atomic. -/
theorem refusingDriver_atomic (bad : PmuCall) : PmuSettings.Atomic (refusingDriver bad) id :=
  ⟨fun p c => by by_cases hc : c = bad <;> simp [refusingDriver, hc], fun _ => rfl⟩

/-! ### The calls that went through -/

/-- The calls among the exchanges `evs` that returned `0`, in order. -/
def okCalls (evs : List (PmuCall × Int)) : List PmuCall :=
  (evs.filter fun e => e.2 = 0).map Prod.fst

@[simp] theorem okCalls_nil : okCalls [] = [] := rfl

@[simp] theorem okCalls_cons (c : PmuCall) (rc : Int) (evs : List (PmuCall × Int)) :
    okCalls ((c, rc) :: evs) = if rc = 0 then c :: okCalls evs else okCalls evs := by
  by_cases h : rc = 0 <;> simp [okCalls, List.filter_cons, h]

@[simp] theorem okCalls_append (a b : List (PmuCall × Int)) :
    okCalls (a ++ b) = okCalls a ++ okCalls b := by
  simp [okCalls]

/-- Calls that all returned `0` all went through. -/
@[simp] theorem okCalls_map_zero (cs : List PmuCall) : okCalls (cs.map (·, 0)) = cs := by
  induction cs with
  | nil => rfl
  | cons c cs ih => simp [ih]

/-- A call went through exactly when it was issued and returned `0`. -/
theorem mem_okCalls {c : PmuCall} {evs : List (PmuCall × Int)} :
    c ∈ okCalls evs ↔ (c, 0) ∈ evs := by
  induction evs with
  | nil => simp
  | cons e evs ih =>
    obtain ⟨c', rc⟩ := e
    by_cases h : rc = 0 <;> simp [h, ih, eq_comm]

/-- What short-circuits over `L` went through on a prefix of `L`, and on all of `L` exactly
when every call returned `0`. -/
theorem ShortCircuits.okCalls_initSegment {L : List PmuCall} {evs : List (PmuCall × Int)}
    (h : ShortCircuits L evs) :
    okCalls evs <+: L ∧ ((∀ e ∈ evs, e.2 = 0) ↔ okCalls evs = L) := by
  rcases h with rfl | ⟨pre, c, rest, rc, rfl, hrc, rfl⟩
  · simp
  · have hok : okCalls (pre.map (·, 0) ++ [(c, rc)]) = pre := by simp [hrc]
    rw [hok]
    exact ⟨List.prefix_append _ _, iff_of_false (fun hall => hrc (hall (c, rc) (by simp)))
      fun he => by simpa using congrArg List.length he⟩

/-- **Under an atomic driver, a chain leaves the settings of the calls that went through.** -/
theorem chain_view_of_atomic (h : PmuSettings.Atomic d view) (cs : List PmuCall) (s : σ) :
    view (chain d cs s).2 = (okCalls (chainEvents d cs s)).foldl PmuSettings.write (view s) := by
  induction cs generalizing s with
  | nil => rfl
  | cons c cs ih =>
    by_cases hc : (d.call s c).1 = 0 <;> simp [chain, chainEvents, hc, ih, h.call_view]

/-- Under a realising driver, a chain succeeds and writes its steps in order. -/
theorem chain_of_realises (h : PmuSettings.Realises d view) (cs : List PmuCall) (s : σ) :
    (chain d cs s).1 = .ok () ∧ view (chain d cs s).2 = cs.foldl PmuSettings.write (view s) := by
  induction cs generalizing s with
  | nil => exact ⟨rfl, rfl⟩
  | cons c cs ih =>
    simpa [chain, h.call_ok, h.call_view] using ih (d.call s c).2

end CrosEc.Pmu

namespace CrosEc.Board

open CrosEc.Pmu

/-- The settings after the sequence `L` of a revision, from the settings `p`. -/
def initSettings (legacy : Bool) (p : PmuSettings) : PmuSettings :=
  (initSteps legacy).foldl PmuSettings.write p

/-- Running the sequence again writes nothing new. -/
theorem initSettings_idem (legacy : Bool) (p : PmuSettings) :
    initSettings legacy (initSettings legacy p) = initSettings legacy p := by
  cases legacy <;>
    simp only [initSettings, initSteps, baseSteps, extraSteps, legacySteps, List.foldl,
      List.cons_append, List.nil_append, if_true, if_false, PmuSettings.write,
      Bool.false_eq_true, PmuSettings.mk.injEq, true_and] <;>
    exact ⟨funext fun r => by cases r <;> rfl, funext fun r => by cases r <;> rfl⟩

variable {σ : Type} (d : PmuDriver σ) {view : σ → PmuSettings}

/-- Under a realising driver the chained sequence succeeds and leaves `initSettings`. -/
theorem boardInitChained_of_realises (h : PmuSettings.Realises d view) (s : σ) :
    (boardInitChained d s).1 = .ecSuccess ∧
      view (boardInitChained d s).2 = initSettings (versionReply d s).legacy (view s) := by
  obtain ⟨hb, hvb⟩ := chain_of_realises h baseSteps s
  simp only [boardInitChained, hb, chainThen_ok, aggregate_eq_ecSuccess_iff, versionReply]
  obtain ⟨he, hve⟩ := chain_of_realises h (extraSteps (d.version (chain d baseSteps s).2).1.legacy)
    (d.version (chain d baseSteps s).2).2
  refine ⟨he, ?_⟩
  rw [hve, h.version_view, hvb, initSettings, initSteps, List.foldl_append]

/-- **A successful initialisation, in the charger.** For every driver that realises the
setters as writes, both copies of `pmu_board_init` return `EC_SUCCESS` and leave the settings
`initSettings` gives for the revision the driver reported. -/
theorem pmuBoardInit_settings (h : PmuSettings.Realises d view) (s : σ) :
    ∃ s', Snow.pmuBoardInit d s = some (.ecSuccess, s') ∧
      Pit.pmuBoardInit d s = some (.ecSuccess, s') ∧
      view s' = initSettings (versionReply d s).legacy (view s) := by
  obtain ⟨hok, hv⟩ := boardInitChained_of_realises d h s
  exact ⟨(boardInitChained d s).2, by rw [Snow.pmuBoardInit, tpschromeBoardInit_refines, ← hok],
    by rw [Pit.pmuBoardInit, tpschromeBoardInit_refines, ← hok], hv⟩

/-- `pmuBoardInit_settings` at the settings driver, from nothing written. -/
theorem pmuBoardInit_settings_of_settingsDriver :
    PmuSettings.Realises settingsDriver id ∧
      ∃ s', Snow.pmuBoardInit settingsDriver PmuSettings.empty = some (.ecSuccess, s') ∧
        Pit.pmuBoardInit settingsDriver PmuSettings.empty = some (.ecSuccess, s') ∧
        id s' = initSettings (versionReply settingsDriver PmuSettings.empty).legacy
          (id PmuSettings.empty) :=
  ⟨settingsDriver_realises,
    pmuBoardInit_settings settingsDriver settingsDriver_realises PmuSettings.empty⟩

/-- **Running the initialisation twice leaves the settings of running it once**, for every
driver that realises the setters as writes and reports the same revision class every time. -/
theorem pmuBoardInit_twice (h : PmuSettings.Realises d view) (legacy : Bool)
    (hrev : ∀ s, (d.version s).1.legacy = legacy) (s : σ) :
    ∃ s₁ s₂, Snow.pmuBoardInit d s = some (.ecSuccess, s₁) ∧
      Snow.pmuBoardInit d s₁ = some (.ecSuccess, s₂) ∧
      Pit.pmuBoardInit d s = some (.ecSuccess, s₁) ∧
      Pit.pmuBoardInit d s₁ = some (.ecSuccess, s₂) ∧ view s₂ = view s₁ := by
  obtain ⟨hok₁, hv₁⟩ := boardInitChained_of_realises d h s
  obtain ⟨hok₂, hv₂⟩ := boardInitChained_of_realises d h (boardInitChained d s).2
  refine ⟨(boardInitChained d s).2, (boardInitChained d (boardInitChained d s).2).2,
    ?_, ?_, ?_, ?_, ?_⟩
  · rw [Snow.pmuBoardInit, tpschromeBoardInit_refines, ← hok₁]
  · rw [Snow.pmuBoardInit, tpschromeBoardInit_refines, ← hok₂]
  · rw [Pit.pmuBoardInit, tpschromeBoardInit_refines, ← hok₁]
  · rw [Pit.pmuBoardInit, tpschromeBoardInit_refines, ← hok₂]
  · rw [hv₂, hv₁, versionReply, versionReply, hrev, hrev, initSettings_idem]

/-- `pmuBoardInit_twice` at the settings driver, which reports revision 2 every time. -/
theorem pmuBoardInit_twice_of_settingsDriver :
    PmuSettings.Realises settingsDriver id ∧ (∀ s, (settingsDriver.version s).1.legacy = true) ∧
      ∃ s₁ s₂, Snow.pmuBoardInit settingsDriver PmuSettings.empty = some (.ecSuccess, s₁) ∧
        Snow.pmuBoardInit settingsDriver s₁ = some (.ecSuccess, s₂) ∧
        Pit.pmuBoardInit settingsDriver PmuSettings.empty = some (.ecSuccess, s₁) ∧
        Pit.pmuBoardInit settingsDriver s₁ = some (.ecSuccess, s₂) ∧ id s₂ = id s₁ :=
  have hrev : ∀ s, (settingsDriver.version s).1.legacy = true := fun _ => rfl
  ⟨settingsDriver_realises, hrev,
    pmuBoardInit_twice settingsDriver settingsDriver_realises true hrev PmuSettings.empty⟩

/-! ### Under an atomic driver -/

/-- Through the logging driver, the C function returns what the chained sequence returns, and
its log: the base events, the version query, the extra events. -/
theorem tpschromeBoardInit_logged_eq (s : σ) :
    tpschromeBoardInit d.logged (s, []) =
      some ((boardInitChained d s).1, (boardInitChained d s).2,
        (baseEvents d s).map PmuEvent.ofSetter ++
          .version (versionReply d s) :: (extraEvents d s).map PmuEvent.ofSetter) := by
  rw [tpschromeBoardInit_refines, boardInitChained_logged, List.nil_append]

/-- Under an atomic driver the chained sequence leaves the settings of the calls that went
through, before and after the version query. -/
theorem boardInitChained_view_of_atomic (h : PmuSettings.Atomic d view) (s : σ) :
    view (boardInitChained d s).2 =
      (okCalls (baseEvents d s ++ extraEvents d s)).foldl PmuSettings.write (view s) := by
  rw [okCalls_append, List.foldl_append, baseEvents, ← chain_view_of_atomic h,
    ← h.version_view (chain d baseSteps s).2]
  simp only [boardInitChained, extraEvents, versionReply]
  rcases (chain d baseSteps s).1 with e | ⟨⟨⟩⟩
  · rfl
  · exact chain_view_of_atomic h _ _

/-- **What any initialisation leaves in the charger.** For every driver whose setters are
atomic, observed through the logging driver, both copies of `pmu_board_init` issue setter
calls that short-circuit over the step list `L` of the revision the driver reported, around
one version query. They leave exactly the settings of the calls that returned `0`, in order:
a prefix of `L`, and they return `EC_SUCCESS` exactly when that prefix is the whole of `L`. -/
theorem pmuBoardInit_settings_prefix (h : PmuSettings.Atomic d view) (s : σ) :
    ∃ (res : EcErrorList) (s' : σ) (evsB evsE : List (PmuCall × Int)) (r : VersionReply),
      Snow.pmuBoardInit d.logged (s, []) =
        some (res, s', evsB.map PmuEvent.ofSetter ++ .version r :: evsE.map PmuEvent.ofSetter) ∧
      Pit.pmuBoardInit d.logged (s, []) =
        some (res, s', evsB.map PmuEvent.ofSetter ++ .version r :: evsE.map PmuEvent.ofSetter) ∧
      ShortCircuits (initSteps r.legacy) (evsB ++ evsE) ∧
      okCalls (evsB ++ evsE) <+: initSteps r.legacy ∧
      view s' = (okCalls (evsB ++ evsE)).foldl PmuSettings.write (view s) ∧
      (res = .ecSuccess ↔ okCalls (evsB ++ evsE) = initSteps r.legacy) := by
  have hsc := shortCircuits_initSteps d s
  exact ⟨_, _, _, _, _, tpschromeBoardInit_logged_eq d s, tpschromeBoardInit_logged_eq d s, hsc,
    hsc.okCalls_initSegment.1, boardInitChained_view_of_atomic d h s,
    (boardInitChained_eq_success_iff d s).trans hsc.okCalls_initSegment.2⟩

/-- `pmuBoardInit_settings_prefix` at a driver that refuses the second legacy step. -/
theorem pmuBoardInit_settings_prefix_of_refusingDriver :
    PmuSettings.Atomic (refusingDriver (.pmuSetTermCurrent .rangeT23 .termI0750)) id ∧
      ∃ (res : EcErrorList) (s' : PmuSettings) (evsB evsE : List (PmuCall × Int))
        (r : VersionReply),
        Snow.pmuBoardInit (refusingDriver (.pmuSetTermCurrent .rangeT23 .termI0750)).logged
          (PmuSettings.empty, []) =
          some (res, s', evsB.map PmuEvent.ofSetter ++ .version r :: evsE.map PmuEvent.ofSetter) ∧
        Pit.pmuBoardInit (refusingDriver (.pmuSetTermCurrent .rangeT23 .termI0750)).logged
          (PmuSettings.empty, []) =
          some (res, s', evsB.map PmuEvent.ofSetter ++ .version r :: evsE.map PmuEvent.ofSetter) ∧
        ShortCircuits (initSteps r.legacy) (evsB ++ evsE) ∧
        okCalls (evsB ++ evsE) <+: initSteps r.legacy ∧
        id s' = (okCalls (evsB ++ evsE)).foldl PmuSettings.write (id PmuSettings.empty) ∧
        (res = .ecSuccess ↔ okCalls (evsB ++ evsE) = initSteps r.legacy) :=
  ⟨refusingDriver_atomic _,
    pmuBoardInit_settings_prefix _ (refusingDriver_atomic _) PmuSettings.empty⟩

/-- The base steps program the fast-charge timeout, external control, forced charging and
the NOITERM bit, and on each range a 2.1 V termination voltage with a 100% current. -/
theorem baseSteps_settings (p : PmuSettings) :
    (baseSteps.foldl PmuSettings.write p).fastcharge = some .timeout6hrs ∧
    (baseSteps.foldl PmuSettings.write p).extControl = some 1 ∧
    (baseSteps.foldl PmuSettings.write p).charger = some 0 ∧
    (baseSteps.foldl PmuSettings.write p).lowCurrent = some 1 ∧
    ∀ rg ∈ [TpsTemperatureRange.rangeT34, .rangeT23, .rangeT40],
      (baseSteps.foldl PmuSettings.write p).termVoltage rg = some .termV2100 ∧
      (baseSteps.foldl PmuSettings.write p).termCurrent rg = some .termI1000 := by
  simp [baseSteps, PmuSettings.write]

/-- A run of 75% termination-current writes sets 75% on exactly the ranges it names and
touches nothing else. -/
theorem foldl_write_of_lowered (cs : List PmuCall)
    (hcs : ∀ c ∈ cs, ∃ rg, c = .pmuSetTermCurrent rg .termI0750) (p : PmuSettings) :
    cs.foldl PmuSettings.write p =
      { p with termCurrent := fun rg =>
          if .pmuSetTermCurrent rg .termI0750 ∈ cs then some .termI0750
          else p.termCurrent rg } := by
  induction cs generalizing p with
  | nil => rfl
  | cons c cs ih =>
    obtain ⟨r, rfl⟩ := hcs c (List.mem_cons_self _ _)
    rw [List.foldl_cons, ih (fun c hc => hcs c (List.mem_cons_of_mem _ hc))]
    simp only [PmuSettings.write, List.mem_cons, PmuCall.pmuSetTermCurrent.injEq, and_true]
    congr 1
    funext rg
    by_cases h₁ : PmuCall.pmuSetTermCurrent rg .termI0750 ∈ cs <;> by_cases h₂ : rg = r <;>
      simp [h₁, h₂]

/-- The steps after the version query are 75% termination-current writes. -/
theorem lowered_of_mem_extraSteps {b : Bool} {c : PmuCall} (h : c ∈ extraSteps b) :
    ∃ rg, c = .pmuSetTermCurrent rg .termI0750 := by
  cases b <;> simp only [extraSteps, legacySteps, if_true, if_false, Bool.false_eq_true,
    List.mem_cons, List.not_mem_nil, or_false] at h
  rcases h with rfl | rfl | rfl <;> exact ⟨_, rfl⟩

/-- **The settings once the base steps have gone through.** For every driver whose setters
are atomic, observed through the logging driver: if every base call of either copy of
`pmu_board_init` returned `0`, the charger holds a 6-hour fast-charge timeout, external
control on, forced charging off and the NOITERM bit set, and on the high, standard and T40
ranges a 2.1 V termination voltage; each range's termination current is 75% exactly when
its legacy step was issued and returned `0`, and 100% otherwise. A failure part-way through
the legacy steps leaves the ranges before it at 75% and the others at 100%. -/
theorem pmuBoardInit_settings_values (h : PmuSettings.Atomic d view) (s : σ) :
    ∃ (res : EcErrorList) (s' : σ) (evsB evsE : List (PmuCall × Int)) (r : VersionReply),
      Snow.pmuBoardInit d.logged (s, []) =
        some (res, s', evsB.map PmuEvent.ofSetter ++ .version r :: evsE.map PmuEvent.ofSetter) ∧
      Pit.pmuBoardInit d.logged (s, []) =
        some (res, s', evsB.map PmuEvent.ofSetter ++ .version r :: evsE.map PmuEvent.ofSetter) ∧
      ((∀ e ∈ evsB, e.2 = 0) →
        (view s').fastcharge = some .timeout6hrs ∧ (view s').extControl = some 1 ∧
        (view s').charger = some 0 ∧ (view s').lowCurrent = some 1 ∧
        ∀ rg ∈ [TpsTemperatureRange.rangeT34, .rangeT23, .rangeT40],
          (view s').termVoltage rg = some .termV2100 ∧
          (view s').termCurrent rg = some
            (if (.pmuSetTermCurrent rg .termI0750, 0) ∈ evsE then .termI0750 else .termI1000)) := by
  refine ⟨_, _, _, _, _, tpschromeBoardInit_logged_eq d s, tpschromeBoardInit_logged_eq d s,
    fun hB => ?_⟩
  -- the base chain got through, so the extra events are the chain over the extra steps
  have hok := (chain_eq_ok_iff d baseSteps s).mpr hB
  have hE : extraEvents d s = chainEvents d (extraSteps (versionReply d s).legacy)
      (d.version (chain d baseSteps s).2).2 := by
    simp only [extraEvents, hok, chainThenEvents]
  have hlow : ∀ c ∈ okCalls (extraEvents d s), ∃ rg, c = .pmuSetTermCurrent rg .termI0750 :=
    fun c hc => lowered_of_mem_extraSteps
      (((hE ▸ shortCircuits_chainEvents d _ _).okCalls_initSegment.1).subset hc)
  rw [boardInitChained_view_of_atomic d h s, okCalls_append, baseEvents, chainEvents_of_ok d hok,
    okCalls_map_zero, List.foldl_append, foldl_write_of_lowered _ hlow]
  obtain ⟨h₁, h₂, h₃, h₄, h₅⟩ := baseSteps_settings (view s)
  refine ⟨h₁, h₂, h₃, h₄, fun rg hrg => ⟨(h₅ rg hrg).1, ?_⟩⟩
  simp only [mem_okCalls]
  split_ifs
  · rfl
  · exact (h₅ rg hrg).2

/-- `pmuBoardInit_settings_values` at a driver that refuses the second legacy step. -/
theorem pmuBoardInit_settings_values_of_refusingDriver :
    PmuSettings.Atomic (refusingDriver (.pmuSetTermCurrent .rangeT23 .termI0750)) id ∧
      ∃ (res : EcErrorList) (s' : PmuSettings) (evsB evsE : List (PmuCall × Int))
        (r : VersionReply),
        Snow.pmuBoardInit (refusingDriver (.pmuSetTermCurrent .rangeT23 .termI0750)).logged
          (PmuSettings.empty, []) =
          some (res, s', evsB.map PmuEvent.ofSetter ++ .version r :: evsE.map PmuEvent.ofSetter) ∧
        Pit.pmuBoardInit (refusingDriver (.pmuSetTermCurrent .rangeT23 .termI0750)).logged
          (PmuSettings.empty, []) =
          some (res, s', evsB.map PmuEvent.ofSetter ++ .version r :: evsE.map PmuEvent.ofSetter) ∧
        ((∀ e ∈ evsB, e.2 = 0) →
          (id s').fastcharge = some .timeout6hrs ∧ (id s').extControl = some 1 ∧
          (id s').charger = some 0 ∧ (id s').lowCurrent = some 1 ∧
          ∀ rg ∈ [TpsTemperatureRange.rangeT34, .rangeT23, .rangeT40],
            (id s').termVoltage rg = some .termV2100 ∧
            (id s').termCurrent rg = some
              (if (.pmuSetTermCurrent rg .termI0750, 0) ∈ evsE then .termI0750 else .termI1000)) :=
  ⟨refusingDriver_atomic _,
    pmuBoardInit_settings_values _ (refusingDriver_atomic _) PmuSettings.empty⟩

/-- A failure in the middle of the legacy steps: the high range is left at 75% and the
standard range at 100%. -/
example :
    (Snow.pmuBoardInit (refusingDriver (.pmuSetTermCurrent .rangeT23 .termI0750))
        PmuSettings.empty).map
        (fun r => (r.1, r.2.termCurrent .rangeT34, r.2.termCurrent .rangeT23)) =
      some (.ecErrorUnknown, some .termI0750, some .termI1000) := by
  decide

end CrosEc.Board
