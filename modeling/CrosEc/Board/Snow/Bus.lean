import CrosEc.Board.Snow.Registers

set_option relaxedAutoImplicit false
set_option autoImplicit false

/-!
# The early configuration, access by access

`CrosEc.Board.Snow.Registers` reads `board_config_pre_init` and `board_i2c_post_init` over
`Regs`, as if each register were a variable that reads back what was last written to it. In
C they are volatile registers: every read and every write in the text is an access to the
hardware, made in the order written, and what a read returns is the hardware's business.
This file translates the two functions once more, access by access, over any `Bus`: a state
machine of the hardware's own choosing that answers each read and takes each write.

Over `Bus.ofRegs`, registers that read back as written, the access-level functions are those
of `CrosEc.Board.Snow.Registers` (`boardConfigPreInitOn_ofRegs`), so that file's results hold
of the code wherever the registers read back as written. Over every bus, the logging bus
`Bus.logged` shows the accesses: read-modify-write pairs, each writing its field over the
value it has just read. The third pair on `STM32_GPIO_AFIO_MAPR` writes back the `SWJ_CFG`
bits it read, so the JTAG-disable written by the second pair is in the register at the end
only if the register reads it back.

On the STM32 a GPIO or AFIO register is reachable only while its clock, a bit of
`STM32_RCC_APB2ENR`, is on. Over `Bus.gated`, which reads such a register as zero and ignores
writes to it while the clock is off, `board_config_pre_init` still does all it does over
memory, from any prior state, because its first statement turns the clocks on; and
`board_i2c_post_init`, which turns on no clock, takes effect only after it.

## Main definitions

* `CrosEc.Board.Snow.Reg` — the registers the two functions access.
* `CrosEc.Board.Snow.Bus` — the hardware behind them; `Bus.logged`, the same hardware with a
  log of the accesses; `Bus.ofRegs`, registers that read back as written; `Bus.swjReadsAs`,
  registers whose `SWJ_CFG` bits read as a fixed value; `Bus.gated`, registers that read as
  zero and ignore writes while their clock is off.
* `CrosEc.Board.Snow.boardConfigPreInitOn`, `CrosEc.Board.Snow.boardI2cPostInitOn` — the two
  functions over a bus.
* `CrosEc.Board.Snow.RmwLog` — a log of read-modify-write pairs over given fields.

## Main results

* `CrosEc.Board.Snow.boardConfigPreInitOn_ofRegs`, `CrosEc.Board.Snow.boardI2cPostInitOn_ofRegs`
  — over registers that read back as written, the register-level functions.
* `CrosEc.Board.Snow.bringUp_accesses` — for every bus, the accesses of both functions:
  read-modify-write pairs of their fields, in the order of the text.
* `CrosEc.Board.Snow.boardConfigPreInitOn_swjCfg` — where `SWJ_CFG` reads as a fixed value,
  that value, and not the `2` the code writes, is what the function leaves there.
* `CrosEc.Board.Snow.boardConfigPreInitOn_gated_writes` — on clock-gated registers, from any
  prior content, clocks off included, the fields `board_config_pre_init` sets.
* `CrosEc.Board.Snow.boardI2cPostInit_after_preInit` — from reset clocks, the I2C pin setup
  takes effect after `board_config_pre_init` and is lost before it.

## Design and deviations

* `gpio_set_level` belongs to the GPIO driver, which is not among the sources. The bus takes
  the one call the early configuration makes, on `EC_INT`, as an operation of its own, and
  `Bus.ofRegs` keeps the level as `Regs.ecInt`, high for a nonzero argument.

## References

* `board/snow/board.c`, lines 141-197.
-/

namespace CrosEc.Board.Snow

/-! ### Registers, accesses and buses -/

/-- A register `board_config_pre_init` or `board_i2c_post_init` reads or writes. -/
inductive Reg
  | rccApb2enr
  | afioMapr
  | gpioCrhA
  | gpioCrlB
  | gpioCrhB
  deriving DecidableEq, Repr

/-- One access of the code to the hardware. -/
inductive Access
  | read (r : Reg) (v : BitVec 32)
  | write (r : Reg) (v : BitVec 32)
  | setEcInt (level : Int)
  deriving DecidableEq, Repr

/-- The hardware behind the early configuration: a state machine over `σ` that answers each
volatile read of a register, possibly changing state, takes each write, and takes
`gpio_set_level(GPIO_EC_INT, level)`. -/
structure Bus (σ : Type) where
  /-- A volatile read: the value the hardware answers, and its next state. -/
  read : σ → Reg → BitVec 32 × σ
  /-- A volatile write. -/
  write : σ → Reg → BitVec 32 → σ
  /-- `gpio_set_level(GPIO_EC_INT, level)`. -/
  setEcInt : σ → Int → σ

variable {σ : Type}

/-- The bus `b`, keeping a log of every access beside its state. It answers exactly as `b`
does. -/
def Bus.logged (b : Bus σ) : Bus (σ × List Access) where
  read s r := ((b.read s.1 r).1, (b.read s.1 r).2, s.2 ++ [.read r (b.read s.1 r).1])
  write s r v := (b.write s.1 r v, s.2 ++ [.write r v])
  setEcInt s l := (b.setEcInt s.1 l, s.2 ++ [.setEcInt l])

/-- The value of a register in `Regs`. -/
def Regs.get (r : Regs) : Reg → BitVec 32
  | .rccApb2enr => r.rccApb2enr
  | .afioMapr => r.afioMapr
  | .gpioCrhA => r.gpioCrhA
  | .gpioCrlB => r.gpioCrlB
  | .gpioCrhB => r.gpioCrhB

/-- `Regs` with one register replaced. -/
def Regs.set (r : Regs) : Reg → BitVec 32 → Regs
  | .rccApb2enr, v => { r with rccApb2enr := v }
  | .afioMapr, v => { r with afioMapr := v }
  | .gpioCrhA, v => { r with gpioCrhA := v }
  | .gpioCrlB, v => { r with gpioCrlB := v }
  | .gpioCrhB, v => { r with gpioCrhB := v }

/-- Registers that read back what was last written to them. -/
def Bus.ofRegs : Bus Regs where
  read r g := (r.get g, r)
  write r g v := r.set g v
  setEcInt r l := { r with ecInt := l ≠ 0 }

/-- `SWJ_CFG`, bits 24-26 of `STM32_GPIO_AFIO_MAPR`: which of the JTAG and SWD debug ports
hold their pins. -/
def swjCfgField : BitVec 32 := 0x7#32 <<< 24

/-- Registers that read back as written, except the `SWJ_CFG` bits of
`STM32_GPIO_AFIO_MAPR`, which read as those of `x` whatever was written: a write-only
field. -/
def Bus.swjReadsAs (x : BitVec 32) : Bus Regs :=
  { Bus.ofRegs with
    read := fun r g =>
      (if g = .afioMapr then fieldWrite swjCfgField (x &&& swjCfgField) r.afioMapr
        else r.get g, r) }

/-- The bit of `STM32_RCC_APB2ENR` that clocks a register: `AFIOEN` (bit 0) for the
alternate-function block, `IOPAEN` (bit 2) and `IOPBEN` (bit 3) for GPIO ports A and B. The
clock-enable register itself is always reachable. -/
def Reg.clockBit : Reg → Option Nat
  | .rccApb2enr => none
  | .afioMapr => some 0
  | .gpioCrhA => some 2
  | .gpioCrlB => some 3
  | .gpioCrhB => some 3

/-- The clock of register `g` is on in `r`. -/
def Regs.clocked (r : Regs) (g : Reg) : Bool :=
  match g.clockBit with
  | none => true
  | some k => r.rccApb2enr.getLsbD k

/-- Registers gated by their clocks: a GPIO or AFIO register whose enable bit in
`STM32_RCC_APB2ENR` is clear reads as zero and ignores writes; otherwise every register reads
back as it was last written. -/
def Bus.gated : Bus Regs where
  read r g := (if r.clocked g then r.get g else 0, r)
  write r g v := if r.clocked g then r.set g v else r
  setEcInt r l := { r with ecInt := l ≠ 0 }

/-! ### The two functions over a bus -/

/-- `board_config_pre_init`, access by access. -/
def boardConfigPreInitOn (b : Bus σ) (s : σ) : σ :=
  -- Enable all GPIOs clocks
  let (v, s) := b.read s .rccApb2enr
  let s := b.write s .rccApb2enr (v ||| 0x1fd#32)
  -- remap OSC_IN/OSC_OUT to PD0/PD1
  let (v, s) := b.read s .afioMapr
  let s := b.write s .afioMapr (v ||| (1#32 <<< 15))
  -- use PB3 as a GPIO, so disable JTAG and keep only SWD
  let (v, s) := b.read s .afioMapr
  let s := b.write s .afioMapr ((v &&& ~~~(0x7#32 <<< 24)) ||| (2#32 <<< 24))
  -- remap TIM2_CH2 to PB3
  let (v, s) := b.read s .afioMapr
  let s := b.write s .afioMapr ((v &&& ~~~(0x3#32 <<< 8)) ||| (1#32 <<< 8))
  -- USART1: PA9 Tx, alt. function output; PA10 Rx, input with pull-down
  let (val, s) := b.read s .gpioCrhA
  let val := val &&& ~~~0x00000ff0#32
  let val := val ||| 0x00000890#32
  let s := b.write s .gpioCrhA val
  -- EC_INT is output, open-drain
  let (val, s) := b.read s .gpioCrhB
  let val := val &&& ~~~0xf0#32
  let val := val ||| 0x50#32
  let s := b.write s .gpioCrhB val
  -- put GPIO in Hi-Z state
  b.setEcInt s 1

/-- `board_i2c_post_init(port)`, access by access, for the chip's port numbers `i2c1Port` and
`i2c2Port`. -/
def boardI2cPostInitOn (i2c1Port i2c2Port port : Int) (b : Bus σ) (s : σ) : σ :=
  -- enable alt. function (open-drain)
  if port = i2c1Port then
    -- I2C1 is on PB6-7
    let (val, s) := b.read s .gpioCrlB
    let val := val &&& ~~~0xff000000#32
    let val := val ||| 0xdd000000#32
    b.write s .gpioCrlB val
  else if port = i2c2Port then
    -- I2C2 is on PB10-11
    let (val, s) := b.read s .gpioCrhB
    let val := val &&& ~~~0x0000ff00#32
    let val := val ||| 0x0000dd00#32
    b.write s .gpioCrhB val
  else s

/-- **Over registers that read back as written, `board_config_pre_init` is the register-level
function.** -/
theorem boardConfigPreInitOn_ofRegs (r : Regs) :
    boardConfigPreInitOn Bus.ofRegs r = boardConfigPreInit r :=
  rfl

/-- **Over registers that read back as written, `board_i2c_post_init` is the register-level
function.** -/
theorem boardI2cPostInitOn_ofRegs (i2c1Port i2c2Port port : Int) (r : Regs) :
    boardI2cPostInitOn i2c1Port i2c2Port port Bus.ofRegs r =
      boardI2cPostInit i2c1Port i2c2Port port r := by
  unfold boardI2cPostInitOn boardI2cPostInit
  split_ifs <;> rfl

/-! ### The accesses, on every bus -/

/-- `log` is a run of read-modify-write pairs over the fields `fs`, in order: for each
register `r`, field `m` and value `c`, a read of `r` and then a write of `r` that holds `c` in
`m` and the bits just read everywhere else. -/
def RmwLog : List (Reg × BitVec 32 × BitVec 32) → List Access → Prop
  | [], log => log = []
  | (r, m, c) :: fs, log =>
    ∃ v w rest, log = .read r v :: .write r w :: rest ∧ Writes m c v w ∧ RmwLog fs rest

/-- The read-modify-write statements of `board_config_pre_init`, in order: the register, the
field, the value. -/
def preInitFields : List (Reg × BitVec 32 × BitVec 32) :=
  [(.rccApb2enr, 0x1fd#32, 0x1fd#32), (.afioMapr, 1#32 <<< 15, 1#32 <<< 15),
    (.afioMapr, 0x7#32 <<< 24, 2#32 <<< 24), (.afioMapr, 0x3#32 <<< 8, 1#32 <<< 8),
    (.gpioCrhA, 0xff0#32, 0x890#32), (.gpioCrhB, 0xf0#32, 0x50#32)]

/-- The read-modify-write statement of `board_i2c_post_init(port)`: none for a port that is
neither I2C port. -/
def i2cPostInitFields (i2c1Port i2c2Port port : Int) : List (Reg × BitVec 32 × BitVec 32) :=
  if port = i2c1Port then [(.gpioCrlB, 0xff000000#32, 0xdd000000#32)]
  else if port = i2c2Port then [(.gpioCrhB, 0xff00#32, 0xdd00#32)]
  else []

/-- No statements, no accesses. -/
theorem rmwLog_nil : RmwLog [] [] := rfl

/-- A read-modify-write pair whose value lies in its field. -/
theorem rmwLog_pair {r : Reg} {m c : BitVec 32} (hc : c &&& ~~~m = 0) (v : BitVec 32)
    {fs : List (Reg × BitVec 32 × BitVec 32)} {rest : List Access} (h : RmwLog fs rest) :
    RmwLog ((r, m, c) :: fs) (.read r v :: .write r (fieldWrite m c v) :: rest) :=
  ⟨v, _, rest, rfl, writes_fieldWrite hc v, h⟩

/-- **The accesses of the early configuration, on every bus.** Whatever the hardware answers,
`board_config_pre_init` makes the six read-modify-write pairs of `preInitFields` in the
order of the text, each writing its field over the value it has just read and nothing else,
and then sets `EC_INT`; `board_i2c_post_init` makes the pair of its port's pins, or no access
at all. Both leave the hardware as the functions without the log do. -/
theorem bringUp_accesses (b : Bus σ) (s : σ) (i2c1Port i2c2Port port : Int) :
    (∃ log, boardConfigPreInitOn b.logged (s, []) =
        (boardConfigPreInitOn b s, log ++ [.setEcInt 1]) ∧ RmwLog preInitFields log) ∧
      (∃ log, boardI2cPostInitOn i2c1Port i2c2Port port b.logged (s, []) =
        (boardI2cPostInitOn i2c1Port i2c2Port port b s, log) ∧
        RmwLog (i2cPostInitFields i2c1Port i2c2Port port) log) := by
  refine ⟨⟨_, rfl, ?_⟩, ?_⟩
  · simp only [Bus.logged, List.append_eq, List.nil_append, List.append_assoc,
      List.singleton_append, and_not_or_eq_fieldWrite]
    simp only [or_eq_fieldWrite]
    exact rmwLog_pair (by decide) _ <| rmwLog_pair (by decide) _ <| rmwLog_pair (by decide) _ <|
      rmwLog_pair (by decide) _ <| rmwLog_pair (by decide) _ <| rmwLog_pair (by decide) _ rmwLog_nil
  · unfold boardI2cPostInitOn i2cPostInitFields
    split_ifs
    · exact ⟨_, rfl, rmwLog_pair (by decide) _ rmwLog_nil⟩
    · exact ⟨_, rfl, rmwLog_pair (by decide) _ rmwLog_nil⟩
    · exact ⟨[], rfl, rfl⟩

/-- **The JTAG-disable depends on reading back a write-only field.** On registers whose
`SWJ_CFG` bits read as those of `x`, whatever was written, and which otherwise read back as
written, `board_config_pre_init` leaves the bits of `x` in `SWJ_CFG`, for every prior content
of the registers: the TIM2 remap after the JTAG-disable writes back what it read. It leaves
`2`, JTAG off with SWD kept, only when `x` reads `2` there; where the field reads as zero it
leaves the full JTAG port enabled. -/
theorem boardConfigPreInitOn_swjCfg (x : BitVec 32) (r : Regs) :
    (boardConfigPreInitOn (Bus.swjReadsAs x) r).afioMapr &&& swjCfgField =
      x &&& swjCfgField := by
  simp only [boardConfigPreInitOn, Bus.swjReadsAs, Bus.ofRegs, Regs.get, Regs.set, if_true,
    and_not_or_eq_fieldWrite]
  rw [and_fieldWrite_of_disjoint (by decide) (by decide),
    (writes_fieldWrite (and_and_not_eq_zero x swjCfgField) _).1]

/-! ### Clock gating -/

/-- The clock enables `board_config_pre_init` writes turn on `AFIOEN`, `IOPAEN` and `IOPBEN`,
whatever was set before. -/
theorem getLsbD_or_clockEnables (x : BitVec 32) {k : Nat}
    (hk : k = 0 ∨ k = 2 ∨ k = 3) : (x ||| 0x1fd#32).getLsbD k = true := by
  rcases hk with rfl | rfl | rfl <;> simp [BitVec.getLsbD_or]

/-- `board_config_pre_init` turns the clocks on before it reaches a gated register: on
clock-gated registers, from any prior content, clocks off included, it is the register-level
function. -/
theorem boardConfigPreInitOn_gated (r : Regs) :
    boardConfigPreInitOn Bus.gated r = boardConfigPreInit r := by
  simp only [boardConfigPreInitOn, Bus.gated, Regs.clocked, Reg.clockBit, Regs.get, Regs.set,
    getLsbD_or_clockEnables, true_or, or_true, if_true]
  rfl

/-- With the GPIOB clock on, gated registers behave as memory for `board_i2c_post_init`. -/
theorem boardI2cPostInitOn_gated_of_on (i2c1Port i2c2Port port : Int) {r : Regs}
    (h : r.rccApb2enr.getLsbD 3 = true) :
    boardI2cPostInitOn i2c1Port i2c2Port port Bus.gated r =
      boardI2cPostInit i2c1Port i2c2Port port r := by
  unfold boardI2cPostInitOn boardI2cPostInit
  split_ifs <;> simp [Bus.gated, Regs.clocked, Reg.clockBit, Regs.get, Regs.set, h]

/-- With the GPIOB clock off, `board_i2c_post_init` writes nothing. -/
theorem boardI2cPostInitOn_gated_of_off (i2c1Port i2c2Port port : Int) {r : Regs}
    (h : r.rccApb2enr.getLsbD 3 = false) :
    boardI2cPostInitOn i2c1Port i2c2Port port Bus.gated r = r := by
  unfold boardI2cPostInitOn
  split_ifs <;> simp [Bus.gated, Regs.clocked, Reg.clockBit, h]

/-- **What `board_config_pre_init` configures, on clock-gated registers.** On registers that
read back what was last written (`SWJ_CFG` included) while their clock is on, and whose GPIO
and AFIO registers read as zero and ignore writes while it is off, for every prior content,
clocks off included: the GPIO and alternate-function clock-enable bits are set; `SWJ_CFG` is
written `2` (JTAG disabled with SWD kept), and the OSC_IN/OSC_OUT and TIM2_CH2 remap bits are
set; PA9 and PA10 are set up for USART1; PB9 (`EC_INT`) is an open-drain output driven high.
Every other bit of every register is left as it was, and `STM32_GPIO_CRL(GPIO_B)` is not
touched. -/
theorem boardConfigPreInitOn_gated_writes (r : Regs) :
    Writes 0x1fd#32 0x1fd#32 r.rccApb2enr (boardConfigPreInitOn Bus.gated r).rccApb2enr ∧
    Writes afioMaprField afioMaprValue r.afioMapr (boardConfigPreInitOn Bus.gated r).afioMapr ∧
    Writes 0xff0#32 0x890#32 r.gpioCrhA (boardConfigPreInitOn Bus.gated r).gpioCrhA ∧
    (boardConfigPreInitOn Bus.gated r).gpioCrlB = r.gpioCrlB ∧
    Writes 0xf0#32 0x50#32 r.gpioCrhB (boardConfigPreInitOn Bus.gated r).gpioCrhB ∧
    (boardConfigPreInitOn Bus.gated r).ecInt = true := by
  rw [boardConfigPreInitOn_gated]
  exact boardConfigPreInit_writes r

/-- **The I2C pin setup needs the early configuration first.** On clock-gated registers, from
every prior content with the GPIOB clock off, as after reset: run after
`board_config_pre_init`, `board_i2c_post_init` configures its port's pins over what the early
configuration wrote; run before it, `board_i2c_post_init` writes nothing, and the early
configuration that follows leaves only its own fields. -/
theorem boardI2cPostInit_after_preInit (i2c1Port i2c2Port port : Int) (r : Regs)
    (hoff : r.rccApb2enr.getLsbD 3 = false) :
    boardI2cPostInitOn i2c1Port i2c2Port port Bus.gated (boardConfigPreInitOn Bus.gated r) =
        boardI2cPostInit i2c1Port i2c2Port port (boardConfigPreInit r) ∧
      boardConfigPreInitOn Bus.gated (boardI2cPostInitOn i2c1Port i2c2Port port Bus.gated r) =
        boardConfigPreInit r := by
  rw [boardI2cPostInitOn_gated_of_off _ _ _ hoff, boardConfigPreInitOn_gated]
  exact ⟨boardI2cPostInitOn_gated_of_on _ _ _
    (getLsbD_or_clockEnables r.rccApb2enr (Or.inr (Or.inr rfl))), rfl⟩

/-- `boardI2cPostInit_after_preInit` from the reset values of the registers, on the first of
the ports numbered `0` and `1`. -/
theorem boardI2cPostInit_after_preInit_of_reset :
    (0#32 : BitVec 32).getLsbD 3 = false ∧
      boardI2cPostInitOn 0 1 0 Bus.gated
          (boardConfigPreInitOn Bus.gated ⟨0, 0, 0x44444444, 0x44444444, 0x44444444, false⟩) =
        boardI2cPostInit 0 1 0
          (boardConfigPreInit ⟨0, 0, 0x44444444, 0x44444444, 0x44444444, false⟩) ∧
      boardConfigPreInitOn Bus.gated (boardI2cPostInitOn 0 1 0 Bus.gated
          ⟨0, 0, 0x44444444, 0x44444444, 0x44444444, false⟩) =
        boardConfigPreInit ⟨0, 0, 0x44444444, 0x44444444, 0x44444444, false⟩ :=
  ⟨by decide, boardI2cPostInit_after_preInit 0 1 0 _ (by decide)⟩

end CrosEc.Board.Snow
