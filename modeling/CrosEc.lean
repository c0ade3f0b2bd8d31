import CrosEc.Pmu.Driver
import CrosEc.Pmu.Chain
import CrosEc.Board.PmuBoardInit
import CrosEc.Board.InitSequence
import CrosEc.Board.Refinement
import CrosEc.Board.Snow.Registers
import CrosEc.Board.Snow.Bus
import CrosEc.Board.Settings
