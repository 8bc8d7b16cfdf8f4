import TransientFuel.Proofs.PumpDrain
import TransientFuel.Settings.Build

/-!
# Runs of the engine

A tick of the engine gives each channel its own part of a sample. The throttle channel gets the
throttle position and learns whether a cycle ends. The load channel gets the load at the ends of
cycles, and nothing otherwise. So the part of an engine's run that belongs to a channel is a run of
that channel alone: `map_run_throttle` and `map_run_load`. The windows of an engine that has just
been built or reset hold the newest readings of the trace: `toList_throttle_after` and
`toList_load_after`.
-/

namespace TransientFuel

namespace Sample

/-- What the throttle channel gets to know of a sample. -/
def throttleInput (sample : Sample) : Float32 × Bool :=
  (sample.throttle, sample.cycleEnd)

/-- What the load channel gets to know of a sample. -/
def loadInput (sample : Sample) : Option Float32 :=
  if sample.cycleEnd then some sample.load else none

end Sample

/-- The throttle positions of a trace, newest first. -/
def throttleReadings (trace : List Sample) : List Float32 :=
  (trace.map Sample.throttle).reverse

/-- The loads at the ends of the cycles of a trace, newest first. -/
def loadReadings (trace : List Sample) : List Float32 :=
  (trace.filterMap Sample.loadInput).reverse

/-- What can be done with an engine; its channels can also be operated on their own. -/
inductive EngineAction where
  | tick (sample : Sample)
  | run (trace : List Sample)
  | reset
  | throttle (operation : Operation ThrottleSettings)
  | load (operation : Operation LoadSettings)

namespace Throttle

/-- The channel after a tick that may be the last one of a cycle. -/
def turn (channel : Throttle) (input : Float32 × Bool) : Throttle :=
  if input.2 then (channel.tick input.1).channel.endCycle else (channel.tick input.1).channel

/-- The corrections of the channel, each with the pump after the tick. -/
def answers (channel : Throttle) : List (Float32 × Bool) → List (Float32 × Pump)
  | [] => []
  | input :: rest =>
    ((channel.tick input.1).correction, (channel.turn input).pump) ::
      (channel.turn input).answers rest

variable (channel : Throttle)

/-- A tick changes the window, by its reading, and the pump. -/
theorem turn_eq (input : Float32 × Bool) :
    channel.turn input =
      { channel.sample input.1 with pump := (channel.turn input).pump } := by
  rw [turn, tick_channel]
  split <;> rfl

theorem foldl_turn_eq (inputs : List (Float32 × Bool)) :
    inputs.foldl turn channel =
      { channel with
        window := (inputs.map Prod.fst).foldl Window.push channel.window
        pump := (inputs.foldl turn channel).pump } := by
  induction inputs generalizing channel with
  | nil => rfl
  | cons input rest inductionHypothesis =>
      rw [List.foldl_cons, inductionHypothesis, turn_eq]
      rfl

end Throttle

namespace Load

/-- The channel after a tick. -/
def turn (channel : Load) (input : Option Float32) : Load :=
  input.elim channel channel.sample

/-- The corrections in force, each with the number of cycles that have ended by then. -/
def answers (channel : Load) (held : Float32) (cycles : ℕ) :
    List (Option Float32) → List (Float32 × ℕ)
  | [] => []
  | none :: rest => (held, cycles) :: channel.answers held cycles rest
  | some reading :: rest =>
    let next := channel.sample reading
    (next.compute.correction, cycles + 1) ::
      next.answers next.compute.correction (cycles + 1) rest

variable (channel : Load)

@[simp]
theorem channel_compute : channel.compute.channel = channel := by
  rw [compute]
  split <;> rfl

theorem foldl_turn_eq (inputs : List (Option Float32)) :
    inputs.foldl turn channel =
      { channel with window := (inputs.filterMap id).foldl Window.push channel.window } := by
  induction inputs generalizing channel with
  | nil => rfl
  | cons input rest inductionHypothesis =>
      rw [List.foldl_cons, inductionHypothesis]
      cases input with
      | none => rfl
      | some reading => rfl

end Load

namespace Engine

variable (engine : Engine)

section Ticks

variable (sample : Sample)

theorem throttle_tick :
    (engine.tick sample).engine.throttle = engine.throttle.turn sample.throttleInput := by
  rw [tick, Throttle.turn, Sample.throttleInput]
  cases sample.cycleEnd <;> rfl

theorem correction_throttle_tick :
    (engine.tick sample).correction.throttle =
      (engine.throttle.tick sample.throttle).correction := by
  rw [tick]
  split <;> rfl

theorem load_tick : (engine.tick sample).engine.load = engine.load.turn sample.loadInput := by
  rw [tick, Sample.loadInput]
  split
  · exact Load.channel_compute _
  · rfl

/-- The load correction is computed at the end of a cycle and held in between. -/
theorem correction_load_tick :
    (engine.tick sample).correction.load =
      sample.loadInput.elim engine.held fun reading =>
        (engine.load.sample reading).compute.correction := by
  rw [tick, Sample.loadInput]
  split <;> rfl

theorem held_tick : (engine.tick sample).engine.held = (engine.tick sample).correction.load := by
  rw [tick]
  split <;> rfl

theorem cycles_tick :
    (engine.tick sample).engine.cycles = engine.cycles + [sample].countP Sample.cycleEnd := by
  rw [tick]
  cases ends : sample.cycleEnd <;> simp [ends]

end Ticks

section Runs

theorem after_concat (earlier : List Sample) (sample : Sample) :
    engine.after (earlier ++ [sample]) = ((engine.after earlier).tick sample).engine := by
  rw [after, List.foldl_concat, after]

/-- What holds at first and survives each tick holds after every trace. -/
theorem after_induction (Holds : List Sample → Engine → Prop) (atStart : Holds [] engine)
    (afterTick : ∀ earlier sample, Holds earlier (engine.after earlier) →
      Holds (earlier ++ [sample]) ((engine.after earlier).tick sample).engine)
    (trace : List Sample) : Holds trace (engine.after trace) := by
  induction trace using List.reverseRecOn with
  | nil => exact atStart
  | append_singleton earlier sample inductionHypothesis =>
      rw [after_concat]
      exact afterTick earlier sample inductionHypothesis

/-- A row of a run is a tick of the engine after the rows before. -/
theorem getElem?_run (samples : List Sample) (index : ℕ) :
    (engine.run samples)[index]? =
      samples[index]?.map fun sample => (engine.after (samples.take index)).tick sample := by
  induction samples generalizing engine index with
  | nil => rfl
  | cons sample rest inductionHypothesis =>
      cases index with
      | zero => rfl
      | succ index =>
          simp only [run, List.getElem?_cons_succ, inductionHypothesis]
          rfl

/-- The throttle channel's part of a run is a run of the throttle channel. -/
theorem map_run_throttle (trace : List Sample) :
    (engine.run trace).map (fun row => (row.correction.throttle, row.engine.throttle.pump)) =
      engine.throttle.answers (trace.map Sample.throttleInput) := by
  induction trace generalizing engine with
  | nil => rfl
  | cons sample rest inductionHypothesis =>
      simp only [run, List.map_cons, Throttle.answers, inductionHypothesis, throttle_tick,
        correction_throttle_tick]
      rfl

/-- The load channel's part of a run is a run of the load channel. -/
theorem map_run_load (trace : List Sample) :
    (engine.run trace).map (fun row => (row.correction.load, row.engine.cycles)) =
      engine.load.answers engine.held engine.cycles (trace.map Sample.loadInput) := by
  induction trace generalizing engine with
  | nil => rfl
  | cons sample rest inductionHypothesis =>
      simp only [run, List.map_cons, inductionHypothesis, load_tick, held_tick,
        correction_load_tick, cycles_tick]
      cases ends : sample.cycleEnd <;>
        simp [Sample.loadInput, ends, Load.answers, Load.turn]

theorem throttle_after (trace : List Sample) :
    (engine.after trace).throttle =
      (trace.map Sample.throttleInput).foldl Throttle.turn engine.throttle := by
  apply engine.after_induction fun trace current =>
    current.throttle = (trace.map Sample.throttleInput).foldl Throttle.turn engine.throttle
  · rfl
  · intro earlier sample past
    rw [throttle_tick, past, List.map_append, List.map_singleton, List.foldl_concat]

theorem load_after (trace : List Sample) :
    (engine.after trace).load = (trace.map Sample.loadInput).foldl Load.turn engine.load := by
  apply engine.after_induction fun trace current =>
    current.load = (trace.map Sample.loadInput).foldl Load.turn engine.load
  · rfl
  · intro earlier sample past
    rw [load_tick, past, List.map_append, List.map_singleton, List.foldl_concat]

/-- A window that begins empty holds the newest readings of the trace. -/
theorem toList_throttle_after_of_empty (empty : engine.throttle.window.toList = [])
    (trace : List Sample) :
    (engine.after trace).throttle.window.toList =
      (throttleReadings trace).take engine.throttle.window.capacity := by
  rw [throttle_after, Throttle.foldl_turn_eq, Window.toList_foldl_push, empty, List.append_nil,
    List.map_map]
  rfl

theorem toList_load_after_of_empty (empty : engine.load.window.toList = [])
    (trace : List Sample) :
    (engine.after trace).load.window.toList =
      (loadReadings trace).take engine.load.window.capacity := by
  rw [load_after, Load.foldl_turn_eq, Window.toList_foldl_push, empty, List.append_nil,
    List.filterMap_map]
  rfl

theorem cycles_after (trace : List Sample) :
    (engine.after trace).cycles = engine.cycles + trace.countP Sample.cycleEnd := by
  apply engine.after_induction fun trace current =>
    current.cycles = engine.cycles + trace.countP Sample.cycleEnd
  · rfl
  · intro earlier sample past
    rw [cycles_tick, past, List.countP_append, Nat.add_assoc]

end Runs

/-- The engine after an action, and the corrections that the action gave. -/
def apply : EngineAction → Engine × List Correction
  | .tick sample => ((engine.tick sample).engine, [(engine.tick sample).correction])
  | .run trace => (engine.after trace, (engine.run trace).map Tick.correction)
  | .reset => (engine.reset, [])
  | .throttle operation => ({ engine with throttle := (engine.throttle.apply operation).1 }, [])
  | .load operation => ({ engine with load := (engine.load.apply operation).1 }, [])

/-- The engine after a list of actions, and the corrections that each of them gave. -/
def perform (engine : Engine) : List EngineAction → Engine × List (List Correction)
  | [] => (engine, [])
  | action :: rest =>
    let (next, corrections) := engine.apply action
    let (last, more) := next.perform rest
    (last, corrections :: more)

/-- An engine that has not run since it was built or reset. -/
inductive Fresh : Engine → Prop
  | built {settings : Settings} {table : Option GridData} {taper : Option CurveData}
      {engine : Engine} (built : settings.build table taper = .ok engine) : Fresh engine
  | reset (engine : Engine) : Fresh engine.reset

end Engine

section Building

theorem inContext_eq_ok_iff {α : Type} {context : Context} {result : Except Report α} {value : α} :
    inContext context result = .ok value ↔ result = .ok value := by
  cases result with
  | error report => simp [inContext]
  | ok first => rfl

/-- All that building an engine does when it succeeds. -/
theorem Settings.build_eq_ok_iff {settings : Settings} {table : Option GridData}
    {taper : Option CurveData} {engine : Engine} :
    settings.build table taper = .ok engine ↔
      ∃ grid, Grid.ofData ((settings.tableInForce table).getD .zero) = .ok grid ∧
        ∃ curve, Curve.ofData (taper.getD settings.taper) = .ok curve ∧
          ∃ throttle, Throttle.create settings.throttle grid.lookup = .ok throttle ∧
            ∃ load, Load.create settings.load curve.lookup = .ok load ∧
              Engine.create throttle load = engine := by
  simp only [build, buildTable, buildTaper, buildThrottle, buildLoad, bind_eq_ok,
    inContext_eq_ok_iff, mapError_eq_ok_iff, pure, Except.pure, Except.ok.injEq]

end Building

/-- A new channel has no readings. -/
theorem Load.create_eq_ok {settings : LoadSettings} {taper : Float32 → Float32} {channel : Load}
    (created : create settings taper = .ok channel) :
    channel.settings = settings ∧ channel.taper = taper ∧
      channel.window.capacity = settings.windowLength ∧ channel.window.toList = [] := by
  obtain ⟨new, rfl, taperEq⟩ := create_eq_ok_iff.mp created
  exact ⟨rfl, taperEq, new.capacity_eq, new.toList_eq⟩

/-- The channels of an engine have the settings and the lengths that it was built with. -/
theorem Settings.channels_of_build {settings : Settings} {table : Option GridData}
    {taper : Option CurveData} {engine : Engine} (built : settings.build table taper = .ok engine) :
    engine.throttle.settings = settings.throttle ∧
      engine.throttle.window.capacity = settings.throttle.windowLength ∧
      engine.load.settings = settings.load ∧
      engine.load.window.capacity = settings.load.windowLength := by
  rcases build_eq_ok_iff.mp built with ⟨_, _, _, _, throttle, throttleMade, load, loadMade, rfl⟩
  rcases Throttle.create_eq_ok throttleMade with ⟨throttleSettings, _, _, throttleCapacity, _⟩
  rcases Load.create_eq_ok loadMade with ⟨loadSettings, _, loadCapacity, _⟩
  exact ⟨throttleSettings, throttleCapacity, loadSettings, loadCapacity⟩

namespace Engine.Fresh

variable {engine : Engine} (fresh : engine.Fresh)

include fresh

theorem throttle_eq : engine.throttle.window.toList = [] ∧ engine.throttle.pump = Pump.idle := by
  cases fresh with
  | built built =>
      rcases Settings.build_eq_ok_iff.mp built with ⟨_, _, _, _, throttle, created, _, _, rfl⟩
      rcases Throttle.create_eq_ok created with ⟨_, _, idle, _, empty⟩
      exact ⟨Window.toList_eq_nil (beq_iff_eq.mp empty), idle⟩
  | reset engine => exact ⟨Window.toList_eq_nil rfl, rfl⟩

theorem load_eq :
    engine.load.window.toList = [] ∧ engine.held = 0.0 ∧ engine.cycles = 0 := by
  cases fresh with
  | built built =>
      rcases Settings.build_eq_ok_iff.mp built with ⟨_, _, _, _, _, _, load, created, rfl⟩
      exact ⟨(Load.create_eq_ok created).2.2.2, rfl, rfl⟩
  | reset engine => exact ⟨Window.toList_eq_nil rfl, rfl, rfl⟩

theorem toList_throttle_after (trace : List Sample) :
    (engine.after trace).throttle.window.toList =
      (throttleReadings trace).take engine.throttle.window.capacity :=
  engine.toList_throttle_after_of_empty fresh.throttle_eq.1 trace

theorem toList_load_after (trace : List Sample) :
    (engine.after trace).load.window.toList =
      (loadReadings trace).take engine.load.window.capacity :=
  engine.toList_load_after_of_empty fresh.load_eq.1 trace

end Engine.Fresh

end TransientFuel
