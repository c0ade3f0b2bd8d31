import CrosEc.Pmu.Driver

set_option relaxedAutoImplicit false
set_option autoImplicit false

/-!
# Short-circuit Result chaining over driver calls

The design of the charger initialisation is "an explicit ordered list of fallible steps
evaluated via short-circuiting composition (a Result-chaining combinator)": first failure
wins, nothing after it is attempted, and one aggregate success or failure is reported.
`chain` is that combinator over a list of setter requests. This file is the abstract side
of `CrosEc.Board.PmuBoardInit`: it says what an initialisation sequence is for, with no
failure variable and no C control flow.

## Main definitions

* `CrosEc.Pmu.chain` — issue the steps in order, stop at the first nonzero return code
  and report it.
* `CrosEc.Pmu.chainThen` — continue a chain only while it has succeeded.
* `CrosEc.Pmu.chainEvents` — the exchanges a chain has with the driver.
* `CrosEc.Pmu.ShortCircuits` — a list of exchanges is the calls of `L`, in order, up to and
  including the first that failed, or all of `L` with every call returning `0`.

## Main results

* `CrosEc.Pmu.chain_logged` — under the logging driver, a chain answers as under the
  driver itself and appends exactly its events to the log.
* `CrosEc.Pmu.shortCircuits_chainEvents` — the events of a chain over `L` short-circuit
  over `L`, for every driver.
* `CrosEc.Pmu.chain_eq_ok_iff` — a chain succeeds exactly when every call it issued
  returned `0`.
* `CrosEc.Pmu.ShortCircuits.append` — a sequence that short-circuits over `A` and, only if
  it got through `A`, continues over `B` short-circuits over `A ++ B`.
-/

namespace CrosEc.Pmu

variable {σ : Type} (d : PmuDriver σ)

/-! ### The combinator -/

/-- **Short-circuit Result chaining**: issue the requests in order; the first that returns
nonzero stops the chain and its code is the result. -/
def chain : List PmuCall → σ → Except Int Unit × σ
  | [], s => (.ok (), s)
  | c :: cs, s =>
    if (d.call s c).1 = 0 then chain cs (d.call s c).2
    else (.error (d.call s c).1, (d.call s c).2)

/-- Continue with the requests `cs` only if the result so far is a success. -/
def chainThen (r : Except Int Unit) (cs : List PmuCall) (s : σ) : Except Int Unit × σ :=
  match r with
  | .ok () => chain d cs s
  | .error e => (.error e, s)

/-- The exchanges `chain d cs s` has with the driver: each request with its return code. -/
def chainEvents : List PmuCall → σ → List (PmuCall × Int)
  | [], _ => []
  | c :: cs, s =>
    if (d.call s c).1 = 0 then (c, (d.call s c).1) :: chainEvents cs (d.call s c).2
    else [(c, (d.call s c).1)]

/-- After a success the chain goes on. -/
@[simp] theorem chainThen_ok (cs : List PmuCall) (s : σ) :
    chainThen d (.ok ()) cs s = chain d cs s := rfl

/-- After a failure nothing more is issued. -/
@[simp] theorem chainThen_error (e : Int) (cs : List PmuCall) (s : σ) :
    chainThen d (.error e) cs s = (.error e, s) := rfl

/-- Continuing with no steps keeps the result. -/
@[simp] theorem chainThen_nil (r : Except Int Unit) (s : σ) : chainThen d r [] s = (r, s) := by
  rcases r with e | ⟨⟨⟩⟩ <;> rfl

/-- Under the logging driver a chain gets the same answers, ends in the same driver state,
and appends exactly its events to the log. -/
theorem chain_logged (cs : List PmuCall) (s : σ) (log : List PmuEvent) :
    chain d.logged cs (s, log) =
      ((chain d cs s).1, (chain d cs s).2,
        log ++ (chainEvents d cs s).map PmuEvent.ofSetter) := by
  induction cs generalizing s log with
  | nil => simp [chain, chainEvents]
  | cons c cs ih =>
    by_cases hc : (d.call s c).1 = 0
    · simp [chain, chainEvents, hc, ih, PmuEvent.ofSetter]
    · simp [chain, chainEvents, hc, PmuEvent.ofSetter]

/-- A chain succeeds exactly when every call it issued returned `0`. -/
theorem chain_eq_ok_iff (cs : List PmuCall) (s : σ) :
    (chain d cs s).1 = .ok () ↔ ∀ e ∈ chainEvents d cs s, e.2 = 0 := by
  induction cs generalizing s with
  | nil => simp [chain, chainEvents]
  | cons c cs ih =>
    by_cases hc : (d.call s c).1 = 0
    · simp [chain, chainEvents, hc, ih]
    · simp [chain, chainEvents, hc]

/-- A chain that got through issued every step, each returning `0`. -/
theorem chainEvents_of_ok {cs : List PmuCall} {s : σ} (h : (chain d cs s).1 = .ok ()) :
    chainEvents d cs s = cs.map (·, 0) := by
  induction cs generalizing s with
  | nil => rfl
  | cons c cs ih =>
    by_cases hc : (d.call s c).1 = 0
    · simp only [chain, hc, if_true] at h
      simp [chainEvents, hc, ih h]
    · simp [chain, hc] at h

/-- A chain that failed issued a call that returned nonzero. -/
theorem exists_chainEvents_ne_zero {cs : List PmuCall} {s : σ} {e : Int}
    (h : (chain d cs s).1 = .error e) : ∃ ev ∈ chainEvents d cs s, ev.2 ≠ 0 := by
  by_contra hall
  simp only [not_exists, not_and, not_not] at hall
  simp [(chain_eq_ok_iff d cs s).mpr hall] at h

/-! ### What a chain issues -/

/-- `evs` is what short-circuit chaining over `L` issues: either every call of `L`, in
order, each returning `0`; or a prefix `pre` of `L` whose calls all returned `0`, then the
next call `c` of `L` with a nonzero code, and nothing of the `rest` after it. -/
def ShortCircuits (L : List PmuCall) (evs : List (PmuCall × Int)) : Prop :=
  evs = L.map (·, 0) ∨
    ∃ pre c rest rc, L = pre ++ c :: rest ∧ rc ≠ 0 ∧ evs = pre.map (·, 0) ++ [(c, rc)]

namespace ShortCircuits

/-- The empty chain issues nothing. -/
theorem nil : ShortCircuits [] [] := .inl rfl

/-- A call that returned `0` extends the sequence by one step of `L`. -/
theorem cons_zero {L : List PmuCall} {evs : List (PmuCall × Int)} (c : PmuCall)
    (h : ShortCircuits L evs) : ShortCircuits (c :: L) ((c, 0) :: evs) := by
  rcases h with rfl | ⟨pre, c', rest, rc, rfl, hrc, rfl⟩
  · exact .inl rfl
  · exact .inr ⟨c :: pre, c', rest, rc, rfl, hrc, rfl⟩

/-- A first call that failed is the whole sequence. -/
theorem cons_fail {rc : Int} (c : PmuCall) (L : List PmuCall) (h : rc ≠ 0) :
    ShortCircuits (c :: L) [(c, rc)] :=
  .inr ⟨[], c, L, rc, rfl, h, rfl⟩

/-- A sequence that got through `A` with every call returning `0`, then short-circuited over
`B`, short-circuits over `A ++ B`. -/
theorem append {A B : List PmuCall} {b : List (PmuCall × Int)}
    (hb : ShortCircuits B b) : ShortCircuits (A ++ B) (A.map (·, 0) ++ b) := by
  rcases hb with rfl | ⟨pre, c, rest, rc, rfl, hrc, rfl⟩
  · exact .inl (List.map_append _ _ _).symm
  · exact .inr ⟨A ++ pre, c, rest, rc, by simp, hrc, by simp⟩

/-- A sequence that stopped inside `A` short-circuits over `A ++ B` as well. -/
theorem append_of_fail {A : List PmuCall} {a : List (PmuCall × Int)}
    (ha : ShortCircuits A a) (hfail : ∃ e ∈ a, e.2 ≠ 0) (B : List PmuCall) :
    ShortCircuits (A ++ B) a := by
  rcases ha with rfl | ⟨pre, c, rest, rc, rfl, hrc, rfl⟩
  · simp at hfail
  · exact .inr ⟨pre, c, rest ++ B, rc, by simp, hrc, rfl⟩

end ShortCircuits

/-- **The events of a chain over `L` short-circuit over `L`**, whatever the driver
answers. -/
theorem shortCircuits_chainEvents (L : List PmuCall) (s : σ) :
    ShortCircuits L (chainEvents d L s) := by
  induction L generalizing s with
  | nil => exact .nil
  | cons c cs ih =>
    by_cases hc : (d.call s c).1 = 0
    · simpa [chainEvents, hc] using (ih (d.call s c).2).cons_zero c
    · simpa [chainEvents, hc] using ShortCircuits.cons_fail c cs hc

end CrosEc.Pmu
