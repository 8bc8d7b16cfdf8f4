import TransientFuel.Proofs.Reconfiguration

/-!
# A reset is a fresh start

After a reset the rings of an engine still hold old readings in their slots. Nothing that is done
with the engine later brings them to light: what an engine answers, and what can be seen of it
afterwards, depends on what can be seen of it before, `Engine.transcript_congr`. So a reset engine
cannot be told from a new one with the same tables, settings, window lengths and observers:
`Engine.reset_like_new`.
-/

namespace TransientFuel

/-- All of a throttle channel but the slots of its ring. -/
structure ThrottleView where
  settings : ThrottleSettings
  table : Float32 → Float32 → Float32
  window : Sliding
  pump : Pump
  observed : Bool

/-- All of a load channel but the slots of its ring. -/
structure LoadView where
  settings : LoadSettings
  taper : Float32 → Float32
  window : Sliding
  observed : Bool

/-- All that can be seen of an engine. -/
structure EngineView where
  throttle : ThrottleView
  load : LoadView
  held : Float32
  cycles : ℕ

/-- What can be seen of a tick. -/
structure TickView where
  correction : Correction
  snapshots : List Snapshot
  engine : EngineView

/-- What an engine answers to an action. -/
inductive Response where
  | ticks (rows : List TickView)
  | reply (reply : Reply)

namespace Window

variable {left right : Window}

theorem exists_resize (window : Window) {length : ℕ} (possible : Possible length) :
    ∃ resized, window.resize length = .ok resized ∧ resized.sliding = ⟨length, []⟩ := by
  rcases window.resize_cases length with ⟨_, _, resized, accepted, emptied⟩ | ⟨outside, _⟩
  · exact ⟨resized, accepted, emptied⟩
  · have := possible.1
    have := possible.2
    omega

/-- A window of another length is the same whatever it is made from. -/
theorem map_sliding_resize (left right : Window) (requested : Int) :
    (left.resize requested).map sliding = (right.resize requested).map sliding := by
  rcases left.resize_cases requested with ⟨lower, upper, leftResized, leftMade, leftEq⟩ |
    ⟨invalid, leftRefused⟩
  · rcases right.resize_cases requested with ⟨_, _, rightResized, rightMade, rightEq⟩ |
      ⟨invalid, _⟩
    · simp only [leftMade, rightMade, Except.map, leftEq, rightEq]
    · exact absurd ⟨lower, upper⟩ invalid
  · rcases right.resize_cases requested with ⟨lower, upper, _⟩ | ⟨_, rightRefused⟩
    · exact absurd ⟨lower, upper⟩ invalid
    · rw [leftRefused, rightRefused]

theorem map_sliding_fit (same : left.sliding = right.sliding) (length : ℕ) :
    (left.fit length).map sliding = (right.fit length).map sliding := by
  have capacityEq : left.capacity = right.capacity := congrArg Sliding.capacity same
  rw [fit, fit, capacityEq]
  split
  · exact congrArg Except.ok same
  · exact map_sliding_resize left right (request length)

end Window

namespace WindowChannel

open WindowSettings

variable {Channel Settings : Type} [WindowChannel Channel Settings]

/-- That two channels differ in the slots of their rings at most. -/
def Alike (left right : Channel) : Prop :=
  ∃ ring, ring.sliding = (window right).sliding ∧
    left = replace right (settings right) ring (observed right)

/-- After a step that keeps the ring, another ring that looks the same can take its place. -/
theorem Keeps.alike {channel after : Channel} (keeps : Keeps channel after) {ring : Window}
    (same : ring.sliding = (window channel).sliding) :
    Alike (replace after (settings channel) ring (observed channel)) after := by
  refine ⟨ring, ?_, ?_⟩
  · rw [keeps.window_eq, same]
  · rw [keeps.settings_eq, keeps.observed_eq]

namespace Alike

variable {left right : Channel} (alike : Alike left right)

include alike

theorem settings_eq : settings left = settings right := by
  obtain ⟨ring, _, rfl⟩ := alike
  rw [settings_replace]

theorem sliding_eq : (window left).sliding = (window right).sliding := by
  obtain ⟨ring, same, rfl⟩ := alike
  rw [window_replace, same]

theorem observed_eq : observed left = observed right := by
  obtain ⟨ring, _, rfl⟩ := alike
  rw [observed_replace]

/-- Windows that take the place of others have to look the same; those others need not. -/
theorem replaced (given : Settings) {leftRing rightRing : Window}
    (same : leftRing.sliding = rightRing.sliding) (switch : Bool) :
    Alike (replace left given leftRing switch) (replace right given rightRing switch) := by
  obtain ⟨ring, _, rfl⟩ := alike
  refine ⟨leftRing, ?_, ?_⟩
  · rw [window_replace, same]
  · simp only [settings_replace, observed_replace, replace_replace]

theorem sample (reading : Float32) :
    Alike (WindowChannel.sample left reading) (WindowChannel.sample right reading) := by
  rw [WindowChannel.sample, WindowChannel.sample, alike.settings_eq, alike.observed_eq]
  apply alike.replaced
  rw [Window.sliding_push, Window.sliding_push, alike.sliding_eq]

theorem compute :
    (WindowChannel.compute left).correction = (WindowChannel.compute right).correction ∧
      (WindowChannel.compute left).snapshot = (WindowChannel.compute right).snapshot ∧
      Alike (WindowChannel.compute left).channel (WindowChannel.compute right).channel := by
  have whole := alike
  obtain ⟨ring, same, rfl⟩ := alike
  simp only [WindowChannel.compute, window_replace, Window.steepest?_congr_sliding same,
    observed_replace, judge_replace _ _ _ _ same]
  cases (window right).steepest? with
  | none => exact ⟨rfl, rfl, whole⟩
  | some rise => exact ⟨rfl, rfl, (keeps_judge right rise).alike same⟩

theorem endCycle : Alike (WindowChannel.endCycle left) (WindowChannel.endCycle right) := by
  obtain ⟨ring, same, rfl⟩ := alike
  rw [endCycle_replace]
  exact (keeps_endCycle right).alike same

theorem reset : Alike (WindowChannel.reset left) (WindowChannel.reset right) := by
  obtain ⟨ring, same, rfl⟩ := alike
  refine ⟨ring.clear, ?_, ?_⟩
  · simp only [WindowChannel.reset, window_replace, Window.sliding_clear, same]
  · simp only [WindowChannel.reset, settings_replace, window_replace, observed_replace,
      idle_replace, replace_replace]

/-- Two changes of the window that come to the same are made or refused alike. -/
theorem settle (given : Settings) {leftRing rightRing : Except LengthRefused Window}
    (same : leftRing.map Window.sliding = rightRing.map Window.sliding) {switch : Bool} :
    (settle left (leftRing.map (replace left given · switch))).2 =
        (settle right (rightRing.map (replace right given · switch))).2 ∧
      Alike (settle left (leftRing.map (replace left given · switch))).1
        (settle right (rightRing.map (replace right given · switch))).1 := by
  cases leftRing with
  | error refusal =>
      cases rightRing with
      | error other => exact ⟨congrArg Reply.refused (Except.error.inj same), alike⟩
      | ok rightRing => contradiction
  | ok leftRing =>
      cases rightRing with
      | error refusal => contradiction
      | ok rightRing => exact ⟨rfl, alike.replaced given (Except.ok.inj same) switch⟩

variable [WindowSettings Settings]

/-- The reply to an operation, and what can be seen afterwards, do not depend on the ring. -/
theorem apply (operation : Operation Settings) :
    (WindowChannel.apply left operation).2 = (WindowChannel.apply right operation).2 ∧
      Alike (WindowChannel.apply left operation).1 (WindowChannel.apply right operation).1 := by
  cases operation with
  | sample reading => exact ⟨rfl, alike.sample reading⟩
  | compute =>
      obtain ⟨correctionEq, snapshotEq, after⟩ := alike.compute
      exact ⟨congrArg₂ Reply.correction correctionEq snapshotEq, after⟩
  | endCycle => exact ⟨rfl, alike.endCycle⟩
  | reset => exact ⟨rfl, alike.reset⟩
  | resize length =>
      rw [WindowChannel.apply, WindowChannel.apply, resize, resize, alike.settings_eq,
        alike.observed_eq]
      exact alike.settle _ ((window left).map_sliding_resize (window right) length)
  | reconfigure given =>
      rw [apply_reconfigure, apply_reconfigure, alike.observed_eq]
      exact alike.settle given (Window.map_sliding_fit alike.sliding_eq (windowLength given))
  | observe switch =>
      refine ⟨rfl, ?_⟩
      rw [WindowChannel.apply, WindowChannel.apply, observe, observe, alike.settings_eq]
      exact alike.replaced _ alike.sliding_eq switch

end Alike

section Renewal

variable [WindowSettings Settings] (channel : Channel)

theorem possible_apply (possible : Window.Possible (windowLength (settings channel)))
    (operation : Operation Settings) :
    Window.Possible (windowLength (settings (apply channel operation).1)) := by
  have settingsEq : settings (apply channel operation).1 =
      (operation.enforce windowLength (inForce channel)).1 :=
    congrArg Prod.fst (inForce_apply channel operation)
  rw [settingsEq]
  cases operation with
  | resize length =>
      rw [Operation.enforce]
      split <;> exact possible
  | reconfigure given =>
      rw [Operation.enforce]
      split
      · rename_i inside
        exact inside
      · exact possible
  | _ => exact possible

/-- A new channel with the settings, the length and the observer of another one. -/
def renewed : Except LengthRefused Channel := do
  let new ← (Window.ofLength (windowLength (settings channel))).map fun ring =>
    replace (idle channel) (settings channel) ring false
  let sized ← resize new (window channel).capacity
  return observe sized (observed channel)

theorem exists_renewed (possible : Window.Possible (windowLength (settings channel))) :
    ∃ twin, renewed channel = .ok twin ∧ Alike (reset channel) twin := by
  obtain ⟨ring, made⟩ := Window.exists_ofLength_of_possible possible
  obtain ⟨resized, accepted, emptied⟩ := ring.exists_resize (window channel).possible_capacity
  refine ⟨replace (idle channel) (settings channel) resized (observed channel), ?_, ?_⟩
  · simp only [renewed, made, Except.map, resize, accepted, bind, Except.bind, pure, Except.pure,
      observe, settings_replace, window_replace, observed_replace, replace_replace]
  · refine ⟨(window channel).clear, ?_, ?_⟩
    · rw [window_replace, Window.sliding_clear, emptied]
      rfl
    · rw [reset, settings_replace, observed_replace, replace_replace]

end Renewal

end WindowChannel

namespace Throttle

def view (channel : Throttle) : ThrottleView :=
  ⟨channel.settings, channel.table, channel.window.sliding, channel.pump, channel.observed⟩

theorem view_eq_iff {left right : Throttle} :
    left.view = right.view ↔ WindowChannel.Alike left right := by
  constructor
  · intro same
    rcases left with ⟨settings, table, window, pump, observed⟩
    simp only [view, ThrottleView.mk.injEq] at same
    obtain ⟨rfl, rfl, windowSame, rfl, rfl⟩ := same
    exact ⟨window, windowSame, rfl⟩
  · rintro ⟨ring, same, rfl⟩
    exact congrArg (fun window => { right.view with window }) same

/-- A new channel with the tables, the settings, the length and the observer of another one. -/
def renewed (channel : Throttle) : Except LengthRefused Throttle := do
  let new ← create channel.settings channel.table
  let sized ← new.resize channel.window.capacity
  return sized.observe channel.observed

end Throttle

namespace Load

def view (channel : Load) : LoadView :=
  ⟨channel.settings, channel.taper, channel.window.sliding, channel.observed⟩

theorem view_eq_iff {left right : Load} :
    left.view = right.view ↔ WindowChannel.Alike left right := by
  constructor
  · intro same
    rcases left with ⟨settings, taper, window, observed⟩
    simp only [view, LoadView.mk.injEq] at same
    obtain ⟨rfl, rfl, windowSame, rfl⟩ := same
    exact ⟨window, windowSame, rfl⟩
  · rintro ⟨ring, same, rfl⟩
    exact congrArg (fun window => { right.view with window }) same

/-- A new channel with the taper, the settings, the length and the observer of another one. -/
def renewed (channel : Load) : Except LengthRefused Load := do
  let new ← create channel.settings channel.taper
  let sized ← new.resize channel.window.capacity
  return sized.observe channel.observed

end Load

def Engine.view (engine : Engine) : EngineView :=
  ⟨engine.throttle.view, engine.load.view, engine.held, engine.cycles⟩

def Tick.view (tick : Tick) : TickView :=
  ⟨tick.correction, tick.snapshots, tick.engine.view⟩

namespace Engine

variable {engine left right : Engine}

/-- What the engine answers to an action. -/
def respond (engine : Engine) : EngineAction → Response
  | .tick sample => .ticks [(engine.tick sample).view]
  | .run trace => .ticks ((engine.run trace).map Tick.view)
  | .reset => .reply .done
  | .throttle operation => .reply (engine.throttle.apply operation).2
  | .load operation => .reply (engine.load.apply operation).2

/-- The answers to a list of actions, each with what can be seen of the engine afterwards. -/
def transcript (engine : Engine) : List EngineAction → List (Response × EngineView)
  | [] => []
  | action :: rest =>
    let next := (engine.apply action).1
    (engine.respond action, next.view) :: next.transcript rest

section Alike

theorem view_eq_iff :
    left.view = right.view ↔
      WindowChannel.Alike left.throttle right.throttle ∧ WindowChannel.Alike left.load right.load ∧
        left.held = right.held ∧ left.cycles = right.cycles := by
  simp only [view, EngineView.mk.injEq, Throttle.view_eq_iff, Load.view_eq_iff]

theorem view_tick (same : left.view = right.view) (sample : Sample) :
    (left.tick sample).view = (right.tick sample).view := by
  obtain ⟨throttleAlike, loadAlike, heldSame, cyclesSame⟩ := view_eq_iff.mp same
  obtain ⟨throttleCorrection, throttleSnapshot, throttleAfter⟩ :=
    (throttleAlike.sample sample.throttle).compute
  obtain ⟨loadCorrection, loadSnapshot, loadAfter⟩ := (loadAlike.sample sample.load).compute
  rw [tick, tick]
  split
  · simp only [Tick.view, TickView.mk.injEq, Correction.mk.injEq, view_eq_iff]
    exact ⟨⟨throttleCorrection, loadCorrection⟩,
      congrArg₂ (fun throttle load => throttle.toList ++ load.toList) throttleSnapshot
        loadSnapshot,
      throttleAfter.endCycle, loadAfter, loadCorrection, congrArg (· + 1) cyclesSame⟩
  · simp only [Tick.view, TickView.mk.injEq, Correction.mk.injEq, view_eq_iff]
    exact ⟨⟨throttleCorrection, heldSame⟩, congrArg Option.toList throttleSnapshot, throttleAfter,
      loadAlike, heldSame, cyclesSame⟩

theorem view_engine_tick (same : left.view = right.view) (sample : Sample) :
    (left.tick sample).engine.view = (right.tick sample).engine.view :=
  congrArg TickView.engine (view_tick same sample)

theorem view_run (same : left.view = right.view) (trace : List Sample) :
    (left.run trace).map Tick.view = (right.run trace).map Tick.view := by
  induction trace generalizing left right with
  | nil => rfl
  | cons sample rest inductionHypothesis =>
      simp only [run, List.map_cons, view_tick same sample,
        inductionHypothesis (view_engine_tick same sample)]

theorem view_after (same : left.view = right.view) (trace : List Sample) :
    (left.after trace).view = (right.after trace).view := by
  induction trace generalizing left right with
  | nil => exact same
  | cons sample rest inductionHypothesis => exact inductionHypothesis (view_engine_tick same sample)

/-- The answer to an action, and what can be seen afterwards, do not depend on the rings. -/
theorem apply_congr (same : left.view = right.view) (action : EngineAction) :
    left.respond action = right.respond action ∧
      (left.apply action).1.view = (right.apply action).1.view := by
  obtain ⟨throttleAlike, loadAlike, heldSame, cyclesSame⟩ := view_eq_iff.mp same
  cases action with
  | tick sample =>
      simp only [respond, apply, view_tick same sample, view_engine_tick same sample, and_self]
  | run trace =>
      simp only [respond, apply, view_run same trace, view_after same trace, and_self]
  | reset =>
      simp only [apply, view_eq_iff]
      exact ⟨rfl, throttleAlike.reset, loadAlike.reset, rfl, rfl⟩
  | throttle operation =>
      obtain ⟨replySame, after⟩ := throttleAlike.apply operation
      simp only [respond, apply, view_eq_iff, Throttle.apply_eq]
      exact ⟨congrArg Response.reply replySame, after, loadAlike, heldSame, cyclesSame⟩
  | load operation =>
      obtain ⟨replySame, after⟩ := loadAlike.apply operation
      simp only [respond, apply, view_eq_iff, Load.apply_eq]
      exact ⟨congrArg Response.reply replySame, throttleAlike, after, heldSame, cyclesSame⟩

/-- Engines that look the same are told apart by no list of actions. -/
theorem transcript_congr (same : left.view = right.view) (actions : List EngineAction) :
    left.transcript actions = right.transcript actions := by
  induction actions generalizing left right with
  | nil => rfl
  | cons action rest inductionHypothesis =>
      obtain ⟨responseSame, nextSame⟩ := apply_congr same action
      simp only [transcript, responseSame, nextSame, inductionHypothesis nextSame]

end Alike

/-- That both channels have settings that a channel can be made with. -/
structure Renewable (engine : Engine) : Prop where
  throttle : Window.Possible engine.throttle.settings.windowLength
  load : Window.Possible engine.load.settings.windowLength

namespace Renewable

theorem create {throttleSettings : ThrottleSettings} {table : Float32 → Float32 → Float32}
    {throttle : Throttle} (throttleMade : Throttle.create throttleSettings table = .ok throttle)
    {loadSettings : LoadSettings} {taper : Float32 → Float32} {load : Load}
    (loadMade : Load.create loadSettings taper = .ok load) :
    (Engine.create throttle load).Renewable := by
  obtain ⟨throttleEq, _, _, throttleLength, _⟩ := Throttle.create_eq_ok throttleMade
  obtain ⟨loadEq, _, loadLength, _⟩ := Load.create_eq_ok loadMade
  constructor
  · simp only [Engine.create, throttleEq, ← throttleLength]
    exact throttle.window.possible_capacity
  · simp only [Engine.create, loadEq, ← loadLength]
    exact load.window.possible_capacity

theorem tick (renewable : engine.Renewable) (sample : Sample) :
    (engine.tick sample).engine.Renewable := by
  constructor
  · rw [throttle_tick, Throttle.turn_eq]
    exact renewable.throttle
  · rw [load_tick]
    cases sample.loadInput <;> exact renewable.load

theorem apply (renewable : engine.Renewable) (action : EngineAction) :
    (engine.apply action).1.Renewable := by
  cases action with
  | tick sample => exact renewable.tick sample
  | run trace =>
      apply engine.after_induction fun _ current => current.Renewable
      · exact renewable
      · intro earlier sample past
        exact past.tick sample
  | reset => exact ⟨renewable.throttle, renewable.load⟩
  | throttle operation =>
      refine ⟨?_, renewable.load⟩
      simp only [Engine.apply, Throttle.apply_eq]
      exact WindowChannel.possible_apply engine.throttle renewable.throttle operation
  | load operation =>
      refine ⟨renewable.throttle, ?_⟩
      simp only [Engine.apply, Load.apply_eq]
      exact WindowChannel.possible_apply engine.load renewable.load operation

theorem perform (renewable : engine.Renewable) (actions : List EngineAction) :
    (engine.perform actions).1.Renewable := by
  induction actions generalizing engine with
  | nil => exact renewable
  | cons action rest inductionHypothesis => exact inductionHypothesis (renewable.apply action)

end Renewable

/-- A new engine with the tables, the settings, the lengths and the observers of another one. -/
def renewed (engine : Engine) : Except LengthRefused Engine := do
  let throttle ← engine.throttle.renewed
  let load ← engine.load.renewed
  return Engine.create throttle load

theorem exists_renewed (renewable : engine.Renewable) :
    ∃ twin, engine.renewed = .ok twin ∧ engine.reset.view = twin.view := by
  obtain ⟨throttle, throttleMade, throttleAlike⟩ :=
    WindowChannel.exists_renewed engine.throttle renewable.throttle
  obtain ⟨load, loadMade, loadAlike⟩ :=
    WindowChannel.exists_renewed engine.load renewable.load
  refine ⟨Engine.create throttle load, ?_, ?_⟩
  · simp only [renewed, bind_eq_ok]
    exact ⟨throttle, throttleMade, load, loadMade, rfl⟩
  · exact view_eq_iff.mpr ⟨throttleAlike, loadAlike, rfl, rfl⟩

/--
Make an engine and do with it and its channels whatever can be done. Then a new engine can be made
that has its tables and its settings and is given its window lengths and its observers. The engine
after a reset looks like the new one, and answers any later actions as the new one does, with the
same corrections, the same snapshots and the same refusals, and looks the same after each of them.
-/
theorem reset_like_new {throttleSettings : ThrottleSettings}
    {table : Float32 → Float32 → Float32} {throttle : Throttle}
    (throttleMade : Throttle.create throttleSettings table = .ok throttle)
    {loadSettings : LoadSettings} {taper : Float32 → Float32} {load : Load}
    (loadMade : Load.create loadSettings taper = .ok load) (past : List EngineAction) :
    let engine := ((Engine.create throttle load).perform past).1
    ∃ twin, engine.renewed = .ok twin ∧ engine.reset.view = twin.view ∧
      ∀ future, engine.reset.transcript future = twin.transcript future := by
  intro engine
  have renewable : engine.Renewable := (Renewable.create throttleMade loadMade).perform past
  obtain ⟨twin, made, same⟩ := exists_renewed renewable
  exact ⟨twin, made, same, transcript_congr same⟩

/-- The first slot of the reset ring still holds an old reading, and the new ring holds none. -/
theorem reset_like_new_over_old_readings : ∃ throttle load,
    Throttle.create { windowLength := 2 } (fun _ _ => 8.0) = .ok throttle ∧
      Load.create { riseMultiplier := 1.0 } (fun _ => 1.0) = .ok load ∧
      let engine := ((Engine.create throttle load).perform
        [.throttle (.observe true), .run [⟨20.0, 1.0, true⟩, ⟨85.0, 2.0, true⟩],
          .load (.resize 3)]).1
      engine.reset.throttle.window.slots.toList.head? = some 20.0 ∧
      (engine.renewed.toOption.bind fun twin => twin.throttle.window.slots.toList.head?) =
        some 0.0 ∧
      ∃ twin, engine.renewed = .ok twin ∧ engine.reset.view = twin.view ∧
        engine.reset.transcript [.tick ⟨90.0, 7.0, true⟩, .throttle .compute] =
          twin.transcript [.tick ⟨90.0, 7.0, true⟩, .throttle .compute] := by
  obtain ⟨twin, made, same, answers⟩ := reset_like_new
    (show Throttle.create { windowLength := 2 } (fun _ _ => 8.0) = .ok _ from rfl)
    (show Load.create { riseMultiplier := 1.0 } (fun _ => 1.0) = .ok _ from rfl)
    [.throttle (.observe true), .run [⟨20.0, 1.0, true⟩, ⟨85.0, 2.0, true⟩], .load (.resize 3)]
  exact ⟨_, _, rfl, rfl, by decide +kernel, by decide +kernel, twin, made, same, answers _⟩

end Engine

end TransientFuel
