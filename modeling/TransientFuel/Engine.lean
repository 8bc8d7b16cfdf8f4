import TransientFuel.Load
import TransientFuel.Throttle

/-!
# The engine

The engine drives both channels over a recorded trace. The throttle is read on every tick. The load
is read on the last tick of an engine cycle, and its correction holds until the next cycle ends.
-/

namespace TransientFuel

/-- One tick of a trace. -/
structure Sample where
  /-- The throttle position. -/
  throttle : Float32
  /-- The engine load. -/
  load : Float32
  /-- Whether an engine cycle ends with this tick. -/
  cycleEnd : Bool
deriving DecidableEq

/-- The corrections of one tick in milliseconds of injection. -/
structure Correction where
  /-- The throttle channel's correction. -/
  throttle : Float32
  /-- The load channel's correction. -/
  load : Float32
deriving DecidableEq

/-- The sum of both corrections. -/
def Correction.total (correction : Correction) : Float32 :=
  correction.throttle + correction.load

/-- Both channels, the load correction in force, and the cycles counted so far. -/
structure Engine where
  /-- The throttle channel. -/
  throttle : Throttle
  /-- The load channel. -/
  load : Load
  /-- The load correction in force. -/
  held : Float32
  /-- How many engine cycles have ended. -/
  cycles : Nat

/-- What a tick gives: the corrections, the snapshots published, and the engine after it. -/
structure Tick where
  /-- The corrections. -/
  correction : Correction
  /-- The snapshots in the order in which they were published. -/
  snapshots : List Snapshot
  /-- The engine after the tick. -/
  engine : Engine

namespace Engine

/-- An engine that has not run yet. -/
def create (throttle : Throttle) (load : Load) : Engine :=
  { throttle, load, held := 0.0, cycles := 0 }

/-- The engine's next tick. -/
def tick (engine : Engine) (sample : Sample) : Tick :=
  let throttle := (engine.throttle.sample sample.throttle).compute
  if sample.cycleEnd then
    let load := (engine.load.sample sample.load).compute
    { correction := ⟨throttle.correction, load.correction⟩
      snapshots := throttle.snapshot.toList ++ load.snapshot.toList
      engine :=
        { throttle := throttle.channel.endCycle
          load := load.channel
          held := load.correction
          cycles := engine.cycles + 1 } }
  else
    { correction := ⟨throttle.correction, engine.held⟩
      snapshots := throttle.snapshot.toList
      engine := { engine with throttle := throttle.channel } }

/-- The ticks of a trace, in order. -/
def run (engine : Engine) : List Sample → List Tick
  | [] => []
  | sample :: rest => engine.tick sample :: (engine.tick sample).engine.run rest

/-- The engine after a trace. -/
def after (engine : Engine) (trace : List Sample) : Engine :=
  trace.foldl (fun current sample => (current.tick sample).engine) engine

/-- Both channels reset, no load correction in force and no cycle counted. -/
def reset (engine : Engine) : Engine :=
  { throttle := engine.throttle.reset, load := engine.load.reset, held := 0.0, cycles := 0 }

end Engine
end TransientFuel
