import Mathlib.Data.BitVec

set_option relaxedAutoImplicit false
set_option autoImplicit false

/-!
# Early register configuration of the snow board

`board_config_pre_init` and `board_i2c_post_init` of `board/snow/board.c` configure the
STM32 by read-modify-write: each statement reads a 32-bit register, clears a field, ORs in a
value and writes it back. `fieldWrite m v r` is that idiom, `(r & ~m) | v`, and `Writes m v r
r'` says what it achieves: the bits of the field `m` read `v`, every other bit reads as
before.

The functions are translated statement by statement over `Regs`, the registers they touch.
Every write is then one `fieldWrite` of the register's value on entry, so what each function
does to each register is a field and a value.

## Main definitions

* `CrosEc.Board.fieldWrite`, `CrosEc.Board.Writes` — a field write and its effect.
* `CrosEc.Board.Snow.Regs` — the clock-enable, remap and pin-configuration registers, and
  the level driven on `EC_INT`.
* `CrosEc.Board.Snow.boardConfigPreInit`, `CrosEc.Board.Snow.boardI2cPostInit` — the two
  functions.

## Main results

* `CrosEc.Board.Snow.boardConfigPreInit_writes` — the fields `board_config_pre_init` sets,
  with every other bit of every register left as it was.
* `CrosEc.Board.Snow.boardConfigPreInit_idem`, `CrosEc.Board.Snow.boardI2cPostInit_idem` —
  running either again changes nothing.

## Design and deviations

* `Regs` reads every register back as it was last written, and gives `STM32_RCC_APB2ENR` no
  effect on the other registers. The results of this file hold of the code on hardware that
  behaves so. On the STM32 neither is given: `SWJ_CFG` is write-only, and a GPIO or AFIO
  register whose clock is off reads as zero and ignores writes. `CrosEc.Board.Snow.Bus`
  translates the functions access by access over any hardware, relates them to these when
  the registers read back as written (`boardConfigPreInitOn_ofRegs`), and treats the clock
  gating and the write-only field.
* `STM32_I2C1_PORT` and `STM32_I2C2_PORT` come from a chip header that is not among the
  sources; they are parameters, and no result depends on their values.
* `gpio_set_level` belongs to the GPIO driver, also absent; only the level it is asked to
  drive on `EC_INT` is kept.

## References

* `board/snow/board.c`, lines 141-197.
-/

namespace CrosEc.Board

/-! ### Field writes -/

section FieldWrite

variable {w : Nat}

/-- `(r & ~m) | v`: clear the field `m` of `r` and OR in `v`. -/
def fieldWrite (m v r : BitVec w) : BitVec w := (r &&& ~~~m) ||| v

/-- `r'` is `r` with `v` written into the field `m`: the bits of `m` read `v`, the others read
as in `r`. -/
def Writes (m v r r' : BitVec w) : Prop := r' &&& m = v ∧ r' &&& ~~~m = r &&& ~~~m

/-- The C idiom, read as a field write. -/
theorem and_not_or_eq_fieldWrite (m v r : BitVec w) : (r &&& ~~~m) ||| v = fieldWrite m v r :=
  rfl

@[simp] theorem getLsbD_fieldWrite (m v r : BitVec w) (i : Fin w) :
    (fieldWrite m v r).getLsbD i = (r.getLsbD i && !m.getLsbD i || v.getLsbD i) := by
  simp [fieldWrite]

/-- A value inside a field has its bits inside the field. -/
theorem getLsbD_of_and_not_eq_zero {m v : BitVec w} (h : v &&& ~~~m = 0) (i : Fin w) :
    v.getLsbD i = true → m.getLsbD i = true := by
  have hi := congrArg (BitVec.getLsbD · i) h
  simp only [BitVec.getLsbD_and, BitVec.getLsbD_not, i.isLt, decide_True, Bool.true_and,
    BitVec.ofNat_eq_ofNat, BitVec.getLsbD_zero] at hi
  intro hv
  simpa [hv] using hi

/-- Two disjoint fields share no bit. -/
theorem getLsbD_of_and_eq_zero {m₁ m₂ : BitVec w} (h : m₁ &&& m₂ = 0) (i : Fin w) :
    (m₁.getLsbD i && m₂.getLsbD i) = false := by
  simpa using congrArg (BitVec.getLsbD · i) h

/-- `r | v` writes the field `v` with itself. -/
theorem or_eq_fieldWrite (v r : BitVec w) : r ||| v = fieldWrite v v r := by
  apply BitVec.eq_of_getLsbD_eq; intro i
  rw [getLsbD_fieldWrite, BitVec.getLsbD_or]
  cases r.getLsbD i <;> cases v.getLsbD i <;> rfl

/-- A field write does what `Writes` says, when the value lies inside the field. -/
theorem writes_fieldWrite {m v : BitVec w} (hv : v &&& ~~~m = 0) (r : BitVec w) :
    Writes m v r (fieldWrite m v r) := by
  constructor
  all_goals
    apply BitVec.eq_of_getLsbD_eq; intro i
    have := getLsbD_of_and_not_eq_zero hv i
    revert this
    simp only [getLsbD_fieldWrite, BitVec.getLsbD_and, BitVec.getLsbD_not, i.isLt,
      decide_True, Bool.true_and]
    cases r.getLsbD i <;> cases m.getLsbD i <;> cases v.getLsbD i <;> decide

/-- Writing a field twice with the same value is writing it once. -/
theorem fieldWrite_idem {m v : BitVec w} (hv : v &&& ~~~m = 0) (r : BitVec w) :
    fieldWrite m v (fieldWrite m v r) = fieldWrite m v r := by
  apply BitVec.eq_of_getLsbD_eq; intro i
  have := getLsbD_of_and_not_eq_zero hv i
  revert this
  simp only [getLsbD_fieldWrite]
  cases r.getLsbD i <;> cases m.getLsbD i <;> cases v.getLsbD i <;> decide

/-- Two writes to disjoint fields are one write to their union. -/
theorem fieldWrite_fieldWrite {m₁ v₁ m₂ v₂ : BitVec w} (h₁ : v₁ &&& ~~~m₁ = 0)
    (h : m₁ &&& m₂ = 0) (r : BitVec w) :
    fieldWrite m₂ v₂ (fieldWrite m₁ v₁ r) = fieldWrite (m₁ ||| m₂) (v₁ ||| v₂) r := by
  apply BitVec.eq_of_getLsbD_eq; intro i
  have hv := getLsbD_of_and_not_eq_zero h₁ i
  have hm := getLsbD_of_and_eq_zero h i
  revert hv hm
  simp only [getLsbD_fieldWrite, BitVec.getLsbD_or]
  cases r.getLsbD i <;> cases m₁.getLsbD i <;> cases v₁.getLsbD i <;> cases m₂.getLsbD i <;>
    cases v₂.getLsbD i <;> decide

/-- A field write leaves the bits of a disjoint field as they were. -/
theorem and_fieldWrite_of_disjoint {m c m' : BitVec w} (hc : c &&& ~~~m = 0)
    (h : m &&& m' = 0) (v : BitVec w) : fieldWrite m c v &&& m' = v &&& m' := by
  apply BitVec.eq_of_getLsbD_eq; intro i
  have hcb := getLsbD_of_and_not_eq_zero hc i
  have hm := getLsbD_of_and_eq_zero h i
  revert hcb hm
  simp only [getLsbD_fieldWrite, BitVec.getLsbD_and]
  cases v.getLsbD i <;> cases m.getLsbD i <;> cases c.getLsbD i <;> cases m'.getLsbD i <;>
    decide

/-- A value masked to a field lies in the field. -/
theorem and_and_not_eq_zero (x m : BitVec w) : x &&& m &&& ~~~m = 0 := by
  apply BitVec.eq_of_getLsbD_eq; intro i
  simp only [BitVec.getLsbD_and, BitVec.getLsbD_not, i.isLt, decide_True, Bool.true_and,
    BitVec.ofNat_eq_ofNat, BitVec.getLsbD_zero]
  cases x.getLsbD i <;> cases m.getLsbD i <;> rfl

end FieldWrite

/-! ### The registers and the two functions -/

namespace Snow

/-- The registers the early configuration of the snow board writes, and the level it drives
on `EC_INT`. -/
structure Regs where
  /-- `STM32_RCC_APB2ENR`: clock enables of the GPIO ports and the alternate-function block. -/
  rccApb2enr : BitVec 32
  /-- `STM32_GPIO_AFIO_MAPR`: alternate-function remapping. -/
  afioMapr : BitVec 32
  /-- `STM32_GPIO_CRH(GPIO_A)`: configuration of pins PA8-PA15, four bits a pin. -/
  gpioCrhA : BitVec 32
  /-- `STM32_GPIO_CRL(GPIO_B)`: configuration of pins PB0-PB7. -/
  gpioCrlB : BitVec 32
  /-- `STM32_GPIO_CRH(GPIO_B)`: configuration of pins PB8-PB15. -/
  gpioCrhB : BitVec 32
  /-- The level last requested on `GPIO_EC_INT` through `gpio_set_level`. -/
  ecInt : Bool
  deriving DecidableEq

/-- `board_config_pre_init`. -/
def boardConfigPreInit (r : Regs) : Regs :=
  -- Enable all GPIOs clocks
  let r := { r with rccApb2enr := r.rccApb2enr ||| 0x1fd#32 }
  -- remap OSC_IN/OSC_OUT to PD0/PD1
  let r := { r with afioMapr := r.afioMapr ||| (1#32 <<< 15) }
  -- use PB3 as a GPIO, so disable JTAG and keep only SWD
  let r := { r with afioMapr := (r.afioMapr &&& ~~~(0x7#32 <<< 24)) ||| (2#32 <<< 24) }
  -- remap TIM2_CH2 to PB3
  let r := { r with afioMapr := (r.afioMapr &&& ~~~(0x3#32 <<< 8)) ||| (1#32 <<< 8) }
  -- USART1: PA9 Tx, alt. function output; PA10 Rx, input with pull-down
  let val := r.gpioCrhA &&& ~~~0x00000ff0#32
  let val := val ||| 0x00000890#32
  let r := { r with gpioCrhA := val }
  -- EC_INT is output, open-drain
  let val := r.gpioCrhB &&& ~~~0xf0#32
  let val := val ||| 0x50#32
  let r := { r with gpioCrhB := val }
  -- put GPIO in Hi-Z state
  { r with ecInt := true }

/-- `board_i2c_post_init(port)`, for the chip's port numbers `i2c1Port` and `i2c2Port`
(`STM32_I2C1_PORT`, `STM32_I2C2_PORT`). -/
def boardI2cPostInit (i2c1Port i2c2Port port : Int) (r : Regs) : Regs :=
  -- enable alt. function (open-drain)
  if port = i2c1Port then
    -- I2C1 is on PB6-7
    let val := r.gpioCrlB &&& ~~~0xff000000#32
    let val := val ||| 0xdd000000#32
    { r with gpioCrlB := val }
  else if port = i2c2Port then
    -- I2C2 is on PB10-11
    let val := r.gpioCrhB &&& ~~~0x0000ff00#32
    let val := val ||| 0x0000dd00#32
    { r with gpioCrhB := val }
  else r

/-- The bits of `STM32_GPIO_AFIO_MAPR` the early configuration writes: `PD01_REMAP` (bit 15),
`SWJ_CFG` (bits 24-26) and `TIM2_REMAP` (bits 8-9). -/
def afioMaprField : BitVec 32 := (1#32 <<< 15) ||| (0x7#32 <<< 24) ||| (0x3#32 <<< 8)

/-- What it writes there: OSC_IN/OSC_OUT on PD0/PD1, JTAG off with SWD kept, TIM2_CH2 on
PB3. -/
def afioMaprValue : BitVec 32 := (1#32 <<< 15) ||| (2#32 <<< 24) ||| (1#32 <<< 8)

/-- Every register written by `board_config_pre_init` is one field write of its value on
entry. -/
theorem boardConfigPreInit_eq (r : Regs) :
    boardConfigPreInit r =
      { rccApb2enr := fieldWrite 0x1fd#32 0x1fd#32 r.rccApb2enr
        afioMapr := fieldWrite afioMaprField afioMaprValue r.afioMapr
        gpioCrhA := fieldWrite 0xff0#32 0x890#32 r.gpioCrhA
        gpioCrlB := r.gpioCrlB
        gpioCrhB := fieldWrite 0xf0#32 0x50#32 r.gpioCrhB
        ecInt := true } := by
  simp only [boardConfigPreInit, and_not_or_eq_fieldWrite]
  simp only [or_eq_fieldWrite]
  simp (disch := decide) only [fieldWrite_fieldWrite, afioMaprField, afioMaprValue]

/-- **What `board_config_pre_init` configures, on registers that read back as written.** For
every prior content of `Regs`: the GPIO and alternate-function clock-enable bits are set;
`SWJ_CFG` is written `2` (JTAG disabled with SWD kept), and the OSC_IN/OSC_OUT and TIM2_CH2
remap bits are set; PA9 and PA10 are set up for USART1; PB9 (`EC_INT`) is an open-drain
output driven high. Every other bit of every register is left as it was, and
`STM32_GPIO_CRL(GPIO_B)` is not touched. Where `SWJ_CFG` is write-only the field ends as it
reads instead (`boardConfigPreInitOn_swjCfg`). -/
theorem boardConfigPreInit_writes (r : Regs) :
    Writes 0x1fd#32 0x1fd#32 r.rccApb2enr (boardConfigPreInit r).rccApb2enr ∧
    Writes afioMaprField afioMaprValue r.afioMapr (boardConfigPreInit r).afioMapr ∧
    Writes 0xff0#32 0x890#32 r.gpioCrhA (boardConfigPreInit r).gpioCrhA ∧
    (boardConfigPreInit r).gpioCrlB = r.gpioCrlB ∧
    Writes 0xf0#32 0x50#32 r.gpioCrhB (boardConfigPreInit r).gpioCrhB ∧
    (boardConfigPreInit r).ecInt = true := by
  rw [boardConfigPreInit_eq]
  exact ⟨writes_fieldWrite (by decide) _, writes_fieldWrite (by decide) _,
    writes_fieldWrite (by decide) _, rfl, writes_fieldWrite (by decide) _, rfl⟩

/-- **Running `board_config_pre_init` again changes nothing**, on registers that read back as
written. -/
theorem boardConfigPreInit_idem (r : Regs) :
    boardConfigPreInit (boardConfigPreInit r) = boardConfigPreInit r := by
  simp (disch := decide) only [boardConfigPreInit_eq, fieldWrite_idem]

section I2c

variable (i2c1Port i2c2Port : Int)

/-- `board_i2c_post_init` as field writes: PB6-PB7 for the first port, PB10-PB11 for the
second, nothing otherwise. -/
theorem boardI2cPostInit_eq (port : Int) (r : Regs) :
    boardI2cPostInit i2c1Port i2c2Port port r =
      if port = i2c1Port then { r with gpioCrlB := fieldWrite 0xff000000#32 0xdd000000#32 r.gpioCrlB }
      else if port = i2c2Port then { r with gpioCrhB := fieldWrite 0xff00#32 0xdd00#32 r.gpioCrhB }
      else r :=
  rfl

/-- **What `board_i2c_post_init` configures, on registers that read back as written.** On the
first port, PB6 and PB7 (I2C1) become
open-drain alternate-function pins; on the second, PB10 and PB11 (I2C2); every other bit of
the register, and every other register, is left as it was; any other port changes nothing. -/
theorem boardI2cPostInit_writes (port : Int) (r : Regs) :
    (port = i2c1Port → Writes 0xff000000#32 0xdd000000#32 r.gpioCrlB
        (boardI2cPostInit i2c1Port i2c2Port port r).gpioCrlB ∧
      boardI2cPostInit i2c1Port i2c2Port port r =
        { r with gpioCrlB := (boardI2cPostInit i2c1Port i2c2Port port r).gpioCrlB }) ∧
    (port ≠ i2c1Port → port = i2c2Port → Writes 0xff00#32 0xdd00#32 r.gpioCrhB
        (boardI2cPostInit i2c1Port i2c2Port port r).gpioCrhB ∧
      boardI2cPostInit i2c1Port i2c2Port port r =
        { r with gpioCrhB := (boardI2cPostInit i2c1Port i2c2Port port r).gpioCrhB }) ∧
    (port ≠ i2c1Port → port ≠ i2c2Port → boardI2cPostInit i2c1Port i2c2Port port r = r) := by
  refine ⟨fun h1 => ?_, fun h1 h2 => ?_, fun h1 h2 => ?_⟩
  · simp only [boardI2cPostInit_eq, if_pos h1]
    exact ⟨writes_fieldWrite (by decide) _, trivial⟩
  · simp only [boardI2cPostInit_eq, if_neg h1, if_pos h2]
    exact ⟨writes_fieldWrite (by decide) _, trivial⟩
  · simp only [boardI2cPostInit_eq, if_neg h1, if_neg h2]

/-- **Running `board_i2c_post_init` again on the same port changes nothing**, on registers that
read back as written. -/
theorem boardI2cPostInit_idem (port : Int) (r : Regs) :
    boardI2cPostInit i2c1Port i2c2Port port (boardI2cPostInit i2c1Port i2c2Port port r) =
      boardI2cPostInit i2c1Port i2c2Port port r := by
  simp only [boardI2cPostInit_eq]
  split_ifs <;> simp (disch := decide) only [fieldWrite_idem]

end I2c

end Snow

end CrosEc.Board
