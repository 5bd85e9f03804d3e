import WolkConnect.Lib.Run
import Mathlib.Data.Rat.Defs
import Mathlib.Algebra.Order.Ring.Rat

/-!
# The monitor of a computer

`application.cpp`: the main loop, its three timers, and `getMaximumTemperature`, with
`readTemperatures` of `cpuTemperatureReader.cpp`. Values of sensors are rational numbers.
-/

namespace WolkConnect

/-- A use of `vector[index]`. -/
structure Access where
  index : Int
  size : Nat
  deriving DecidableEq

namespace Access

variable (a : Access)

def InRange : Prop := 0 ≤ a.index ∧ a.index < a.size

instance : Decidable a.InRange := inferInstanceAs (Decidable (_ ∧ _))

end Access

/-- A value that is used as an index: it is cut towards zero. -/
def toIndex (value : ℚ) : Int := value.num.tdiv value.den

/-- `vector[index]`. Outside of the vector, `past` says what is there. -/
def elementAt (past : Int → ℚ) (vector : List ℚ) (index : Int) : ℚ :=
  if 0 ≤ index then vector[index.toNat]?.getD (past index) else past index

/-- The loop of `getMaximumTemperature`: the value so far, and the uses of `temperatures[...]`. -/
structure MaximumScan where
  maxValue : ℚ
  accesses : List Access

section

variable (past : Int → ℚ) (temperatures : List ℚ)

/-- One pass, in which the loop variable is used as an index, and again if the element is greater. -/
def MaximumScan.visit (scan : MaximumScan) (itr : ℚ) : MaximumScan :=
  let access : Access := ⟨toIndex itr, temperatures.length⟩
  let element := elementAt past temperatures (toIndex itr)
  if scan.maxValue < element then ⟨element, scan.accesses ++ [access, access]⟩
  else ⟨scan.maxValue, scan.accesses ++ [access]⟩

def getMaximumTemperature : MaximumScan :=
  temperatures.foldl (MaximumScan.visit past temperatures)
    ⟨elementAt past temperatures 0, [⟨0, temperatures.length⟩]⟩

end

/-- The last four values of the sensors, or nothing. -/
def readTemperatures (values : List ℚ) : List ℚ :=
  if 4 ≤ values.length then values.drop (values.length - 4) else []

inductive FeedValue
  | number (value : ℚ)
  | text (value : String)
  deriving DecidableEq

/-- What `addReading` is called with. -/
structure FeedReading where
  reference : String
  value : FeedValue
  deriving DecidableEq

/-- The variables of `main`. `ipAddress` is that of `deviceInfo`. -/
structure Monitor where
  temperatures : List ℚ
  temperaturesMax : List ℚ
  ip : String
  ipAddress : String

/-- What a step of the program does, besides changing the variables. -/
structure MonitorEffects where
  accesses : List Access
  readings : List FeedReading

namespace Monitor

variable (m : Monitor) (past : Int → ℚ)

/-- The variables at the start, with the initial address. -/
def create (ip : String) : Monitor := ⟨[], [], ip, ip⟩

def addressReading (ip : String) : FeedReading := ⟨"IP_ADD", .text ip⟩

/-- The end of a pass of the main loop. -/
def changeAddress (newIp : String) : List FeedReading × Monitor :=
  if m.ipAddress ≠ newIp then ([addressReading m.ip], { m with ip := newIp, ipAddress := newIp })
  else ([], m)

/-- A pass of the main loop, with what `retrieveIPAddress` and the sensors say. -/
def iterate (newIp : String) (values : List ℚ) : MonitorEffects × Monitor :=
  let temperatures := readTemperatures values
  let scan := getMaximumTemperature past temperatures
  let sampled := { m with
    temperatures := temperatures, temperaturesMax := m.temperaturesMax ++ [scan.maxValue] }
  let changed := sampled.changeAddress newIp
  (⟨scan.accesses, changed.1⟩, changed.2)

/-- The readings of the cores, in the order of the values. -/
def coreReadings (values : List ℚ) : List FeedReading :=
  ["CPU_T_core1", "CPU_T_core2", "CPU_T_core3", "CPU_T_core4"].zipWith
    (fun reference value => ⟨reference, .number value⟩) values

/-- The positions that the console and the readings take the values of the cores from. -/
def coreIndices : List Int := [0, 1, 2, 3]

def coreAccesses (temperatures : List ℚ) : List Access :=
  coreIndices.map fun index => ⟨index, temperatures.length⟩

/-- The tick of `timerCpu`. The values are printed, cleared, and then added. -/
def timerCpu : MonitorEffects × Monitor :=
  let cleared := { m with temperatures := [] }
  (⟨coreAccesses m.temperatures ++ coreAccesses cleared.temperatures,
    coreReadings (coreIndices.map (elementAt past cleared.temperatures))⟩, cleared)

/-- The tick of `timerCpuMax`. The maximum is computed for the reading, the log and the console. -/
def timerCpuMax : MonitorEffects × Monitor :=
  let scan := getMaximumTemperature past m.temperaturesMax
  (⟨scan.accesses ++ scan.accesses ++ scan.accesses, [⟨"CPU_T_core_max", .number scan.maxValue⟩]⟩,
    { m with temperaturesMax := [] })

def timerIp : MonitorEffects × Monitor := (⟨[], [addressReading m.ip]⟩, m)

end Monitor

/-! ## Runs of the program -/

inductive MonitorEvent
  | iterate (past : Int → ℚ) (newIp : String) (values : List ℚ)
  | timerCpu (past : Int → ℚ)
  | timerCpuMax (past : Int → ℚ)
  | timerIp

/-- `observed` has the addresses that the main loop was given, and `changes` the readings that it added
for a change. `sampled` has the four values that were sampled last, and `coreTicks` what each tick of
`timerCpu` added, with the values that were sampled last when it did. -/
structure MonitorSystem where
  monitor : Monitor
  accesses : List Access
  readings : List FeedReading
  observed : List String
  changes : List FeedReading
  sampled : List ℚ
  coreTicks : List (List FeedReading × List ℚ)

namespace MonitorSystem

variable (sys : MonitorSystem)

def create (ip : String) : MonitorSystem := ⟨.create ip, [], [], [], [], [], []⟩

/-- A step of the program, with what it does. -/
def perform (r : MonitorEffects × Monitor) : MonitorSystem :=
  { sys with
    monitor := r.2
    accesses := sys.accesses ++ r.1.accesses
    readings := sys.readings ++ r.1.readings }

def iterate (past : Int → ℚ) (newIp : String) (values : List ℚ) : MonitorSystem :=
  let r := sys.monitor.iterate past newIp values
  { sys.perform r with
    observed := sys.observed ++ [newIp]
    changes := sys.changes ++ r.1.readings
    sampled := if readTemperatures values = [] then sys.sampled else readTemperatures values }

def timerCpu (past : Int → ℚ) : MonitorSystem :=
  let r := sys.monitor.timerCpu past
  { sys.perform r with coreTicks := sys.coreTicks ++ [(r.1.readings, sys.sampled)] }

def step (sys : MonitorSystem) : MonitorEvent → Except Empty MonitorSystem
  | .iterate past newIp values => .ok (sys.iterate past newIp values)
  | .timerCpu past => .ok (sys.timerCpu past)
  | .timerCpuMax past => .ok (sys.perform (sys.monitor.timerCpuMax past))
  | .timerIp => .ok (sys.perform sys.monitor.timerIp)

end MonitorSystem

end WolkConnect
