import TransientFuel.Single

/-!
# The acceleration pump

With smoothing, extra fuel is not injected at once. A charge goes into an accumulator, a share of
which is injected in every period, evenly over the engine cycles of the period. At the end of a
period what was injected is taken out of the accumulator.
-/

namespace TransientFuel

/-- How a charge is spread. -/
structure Smoothing where
  /-- The engine cycles that a share is spread over. -/
  period : Int := 1
  /-- The accumulator is divided by this to give the share of one period. -/
  divisor : Float32 := 1.0
deriving DecidableEq

namespace Smoothing

/-- Whether charges are spread at all. -/
def isEnabled (smoothing : Smoothing) : Bool :=
  1 < smoothing.period ∨ 1.0 < smoothing.divisor

/-- The engine cycles of a period, at least one. -/
def cycles (smoothing : Smoothing) : Int :=
  max smoothing.period 1

/-- The divisor in force: at least one, and one in place of a divisor that is not finite. -/
def share (smoothing : Smoothing) : Float32 :=
  if smoothing.divisor.isFinite then Single.larger smoothing.divisor 1.0 else 1.0

end Smoothing

/-- The state of the pump; all amounts are milliseconds of injection. -/
structure Pump where
  /-- What is still owed. -/
  accumulated : Float32
  /-- The largest charge of the current cycle. -/
  cyclePeak : Float32
  /-- The largest charge of the finished cycles of the current period. -/
  periodPeak : Float32
  /-- The largest share of the current period. -/
  injectedPeak : Float32
  /-- The cycles left in the current period. -/
  countdown : Int
deriving DecidableEq

namespace Pump

/-- The pump with nothing owed. -/
def idle : Pump := ⟨0.0, 0.0, 0.0, 0.0, 0⟩

/-- An accumulator below this is taken as empty. -/
def residue : Float32 := 0.001

/-- The share of a charge that a period injects; a weak charge does not drain the pump. -/
def injection (pump : Pump) (smoothing : Smoothing) (charge : Float32) : Float32 :=
  Single.larger charge pump.accumulated / smoothing.share

/-- Notes a charge among the peaks. -/
def note (pump : Pump) (smoothing : Smoothing) (charge : Float32) : Pump :=
  { pump with
    cyclePeak := Single.larger charge pump.cyclePeak
    injectedPeak := Single.larger (pump.injection smoothing charge) pump.injectedPeak }

/-- What one cycle injects of a charge. -/
def dose (pump : Pump) (smoothing : Smoothing) (charge : Float32) : Float32 :=
  pump.injection smoothing charge / Float32.ofInt smoothing.cycles

/-- The largest charge of the current period once the current cycle counts as finished. -/
def peakAfterCycle (pump : Pump) : Float32 :=
  Single.larger pump.cyclePeak pump.periodPeak

/-- What is owed once the current cycle counts: the period's peak takes its former value's place. -/
def owedAfterCycle (pump : Pump) : Float32 :=
  pump.accumulated - pump.periodPeak + pump.peakAfterCycle

/-- The pump at the start of a new period, with what was injected taken off. -/
def startPeriod (pump : Pump) (smoothing : Smoothing) : Pump :=
  let left := pump.owedAfterCycle - pump.injectedPeak
  { accumulated := if left < residue then 0.0 else left
    cyclePeak := 0.0
    periodPeak := 0.0
    injectedPeak := 0.0
    countdown := smoothing.cycles }

/-- The pump after an engine cycle has ended. -/
def endCycle (pump : Pump) (smoothing : Smoothing) : Pump :=
  if pump.countdown - 1 ≤ 0 then
    pump.startPeriod smoothing
  else
    { accumulated := pump.owedAfterCycle
      cyclePeak := 0.0
      periodPeak := pump.peakAfterCycle
      injectedPeak := pump.injectedPeak
      countdown := pump.countdown - 1 }

end Pump
end TransientFuel
