import TransientFuel.Command.Override
import TransientFuel.Proofs.EngineRuns

/-!
# What overrides do

Overriding a channel first gives its window the length that is asked for and then hands it the
other settings. The settings are made to agree with the window, whether the length was accepted or
refused, so they are always adopted: `WindowChannel.override_of_fits`. A new window that is given
another length is like one made with that length, `Window.ofLength_asked`. So an engine that has
been built and then overridden is the one that the overridden settings build:
`Settings.override_like_configured`.
-/

namespace TransientFuel

/-- The length of a window that another length may have been asked for. -/
def lengthInForce (requested : Option ℤ) (configured : ℕ) : ℕ :=
  match requested with
  | none => configured
  | some length => if 1 ≤ length ∧ length ≤ 32 then length.toNat else configured

/-- The settings with what is given in place of what they say, an impossible length apart. -/
def ThrottleSettings.overridden (settings : ThrottleSettings) (overrides : ThrottleOverrides) :
    ThrottleSettings :=
  { settings with
    riseThreshold := overrides.riseThreshold.getD settings.riseThreshold
    dropThreshold := overrides.dropThreshold.getD settings.dropThreshold
    dropMultiplier := overrides.dropMultiplier.getD settings.dropMultiplier
    windowLength := lengthInForce overrides.windowLength settings.windowLength }

/-- The settings with what is given in place of what they say, an impossible length apart. -/
def LoadSettings.overridden (settings : LoadSettings) (overrides : LoadOverrides) : LoadSettings :=
  { settings with
    riseThreshold := overrides.riseThreshold.getD settings.riseThreshold
    riseMultiplier := overrides.riseMultiplier.getD settings.riseMultiplier
    dropThreshold := overrides.dropThreshold.getD settings.dropThreshold
    dropMultiplier := overrides.dropMultiplier.getD settings.dropMultiplier
    windowLength := lengthInForce overrides.windowLength settings.windowLength }

namespace Window

/-- That a window has the length in force; if another was asked for and accepted, it is empty. -/
structure Overridden (window original : Window) (requested : Option ℤ) : Prop where
  capacity : window.capacity = lengthInForce requested original.capacity
  readings : window = original ∨ window.toList = []

/-- That a window differs from another one in its length at most. -/
structure WithLength (window original : Window) (length : ℕ) : Prop where
  capacity : window.capacity = length
  slots : window.slots = original.slots
  head : window.head = original.head
  count : window.count = original.count

/-- The window after a length was asked for; one that is refused changes nothing. -/
def asked (window : Window) : Option ℤ → Window
  | none => window
  | some length =>
    match window.resize length with
    | .ok resized => resized
    | .error _ => window

variable {window original : Window} {requested : Option ℤ} {length : ℕ}

theorem Overridden.toList_eq_nil (overridden : window.Overridden original requested)
    (empty : original.toList = []) : window.toList = [] := by
  rcases overridden.readings with rfl | emptied
  · exact empty
  · exact emptied

/-- Either a length is accepted and the window is emptied, or nothing happens to the window. -/
theorem overridden_asked (window : Window) (requested : Option ℤ) :
    (window.asked requested).Overridden window requested := by
  cases requested with
  | none => exact ⟨rfl, Or.inl rfl⟩
  | some length =>
      rcases window.resize_cases length with
        ⟨lower, upper, resized, accepted, emptied⟩ | ⟨invalid, refused⟩
      · simp only [asked, accepted]
        refine ⟨?_, Or.inr (congrArg Sliding.readings emptied)⟩
        rw [lengthInForce, if_pos ⟨lower, upper⟩]
        exact congrArg Sliding.capacity emptied
      · simp only [asked, refused]
        exact ⟨(if_neg invalid).symm, Or.inl rfl⟩

theorem ofLength_eq_ok (made : ofLength length = .ok window) :
    window.capacity = length ∧ window.slots = empty.slots ∧ window.head = 0 ∧ window.count = 0 := by
  refine ⟨congrArg Sliding.capacity (Fresh.ofLength made).sliding_eq, ?_⟩
  rw [ofLength, resize] at made
  split at made
  · cases made
    exact ⟨rfl, rfl, rfl⟩
  · contradiction

theorem resize_eq_of_slots (same : window.slots = original.slots) (length : ℤ) :
    window.resize length = original.resize length := by
  simp only [resize, same]

/-- A new window that is asked for a length is one made with the length in force. -/
theorem ofLength_asked (made : ofLength length = .ok window) (requested : Option ℤ) :
    ofLength (lengthInForce requested length) = .ok (window.asked requested) := by
  cases requested with
  | none => exact made
  | some other =>
      rcases window.resize_cases other with
        ⟨lower, upper, resized, accepted, _⟩ | ⟨invalid, refused⟩
      · have exact : request other.toNat = other := by
          simp only [request, longestRequest]
          omega
        simp only [asked, accepted, lengthInForce, if_pos (And.intro lower upper), ofLength, exact]
        rw [← accepted]
        exact resize_eq_of_slots (ofLength_eq_ok made).2.1.symm other
      · simp only [asked, refused, lengthInForce, if_neg invalid, made]

theorem withLength_asked (made : ofLength length = .ok window) (requested : Option ℤ) :
    (window.asked requested).WithLength window (lengthInForce requested length) := by
  rcases ofLength_eq_ok made with ⟨_, slots, head, count⟩
  rcases ofLength_eq_ok (ofLength_asked made requested) with
    ⟨capacity, askedSlots, askedHead, askedCount⟩
  exact ⟨capacity, askedSlots.trans slots.symm, askedHead.trans head.symm,
    askedCount.trans count.symm⟩

end Window

/-- The override in which settings that are refused are a failure and not passed over. -/
def Adjustment.overrideStrictly {Channel Settings : Type}
    (adjustment : Adjustment Channel Settings) (channel : Channel) (settings : Settings)
    (requested : Option ℤ) : Except LengthRefused (Channel × Option LengthKept) :=
  match requested with
  | none => (adjustment.reconfigure channel settings).map (·, none)
  | some length =>
    match adjustment.resize channel length with
    | .ok resized =>
      (adjustment.reconfigure resized (adjustment.fitted settings resized)).map (·, none)
    | .error refusal =>
      (adjustment.reconfigure channel settings).map
        (·, some ⟨adjustment.option, refusal, adjustment.windowLength settings⟩)

namespace WindowChannel

open WindowSettings

variable {Channel Settings : Type} [WindowSettings Settings] [WindowChannel Channel Settings]

/-- How any channel is adjusted. -/
def adjustment (option : String) : Adjustment Channel Settings where
  option
  resize
  reconfigure
  windowLength
  fitted given channel := withLength given (window channel).capacity

variable {channel : Channel} {given : Settings}

theorem reconfigure_of_fits (fits : windowLength given = (window channel).capacity) :
    reconfigure channel given =
      .ok (replace channel given (window channel) (observed channel)) := by
  rw [reconfigure, if_pos fits]

/-- If they agree with the window, settings are adopted whether or not a length is accepted. -/
theorem override_of_fits (option : String) (fits : windowLength given = (window channel).capacity)
    (requested : Option ℤ) :
    (adjustment option).overrideStrictly channel given requested =
        .ok ((adjustment option).override channel given requested) ∧
      ((adjustment option).override channel given requested).1 =
        replace channel (withLength given ((window channel).asked requested).capacity)
          ((window channel).asked requested) (observed channel) := by
  have named : withLength given (window channel).capacity = given := by
    rw [← fits, withLength_windowLength]
  cases requested with
  | none =>
      simp only [Adjustment.overrideStrictly, Adjustment.override, Adjustment.adopt, adjustment,
        reconfigure_of_fits fits, Except.map, Window.asked, named, and_self]
  | some length =>
      cases resized : (window channel).resize length with
      | ok ring =>
          have accepted : resize channel length =
              .ok (replace channel (settings channel) ring (observed channel)) := by
            rw [resize, resized, Except.map]
          have renamed : windowLength (withLength given ring.capacity) =
              (window (replace channel (settings channel) ring (observed channel))).capacity := by
            rw [windowLength_withLength, window_replace]
          simp only [Adjustment.overrideStrictly, Adjustment.override, Adjustment.adopt,
            adjustment, accepted, window_replace, reconfigure_of_fits renamed, observed_replace,
            replace_replace, Except.map, Window.asked, resized, and_self]
      | error refusal =>
          have refused : resize channel length = .error refusal := by
            rw [resize, resized, Except.map]
          simp only [Adjustment.overrideStrictly, Adjustment.override, Adjustment.adopt,
            adjustment, refused, reconfigure_of_fits fits, Except.map, Window.asked, resized,
            named, and_self]

namespace New

variable (new : New channel) (given : Settings)
  (fits : windowLength given = windowLength (settings channel)) (requested : Option ℤ)

include new fits

theorem withLength_asked :
    ((window channel).asked requested).WithLength (window channel)
      (lengthInForce requested (windowLength given)) := by
  rw [fits]
  exact Window.withLength_asked new.made requested

/-- Of a new channel, overrides change no more than the settings and the window. -/
theorem override_eq (option : String) :
    (adjustment option).overrideStrictly channel given requested =
        .ok ((adjustment option).override channel given requested) ∧
      ((adjustment option).override channel given requested).1 =
        replace channel (withLength given (lengthInForce requested (windowLength given)))
          ((window channel).asked requested) (observed channel) := by
  rw [← (new.withLength_asked given fits requested).capacity]
  exact override_of_fits option (fits.trans new.capacity_eq.symm) requested

/-- A new channel with overrides is new as well, for a window of the length in force is new. -/
theorem overridden :
    New (replace channel (withLength given (lengthInForce requested (windowLength given)))
      ((window channel).asked requested) (observed channel)) := by
  refine ⟨?_, ?_, ?_⟩
  · rw [settings_replace, window_replace, windowLength_withLength, fits]
    exact Window.ofLength_asked new.made requested
  · rw [idle_replace, new.idle_eq]
  · rw [observed_replace, new.unobserved]

end New

end WindowChannel

/-- The override in which settings that are refused are a failure and not passed over. -/
def Throttle.overrideStrictly (channel : Throttle) (overrides : ThrottleOverrides) :
    Except LengthRefused (Throttle × Option LengthKept) :=
  adjustment.overrideStrictly channel (overrides.apply channel.settings) overrides.windowLength

/-- The override in which settings that are refused are a failure and not passed over. -/
def Load.overrideStrictly (channel : Load) (overrides : LoadOverrides) :
    Except LengthRefused (Load × Option LengthKept) :=
  adjustment.overrideStrictly channel (overrides.apply channel.settings) overrides.windowLength

/-- The override in which settings that are refused are a failure and not passed over. -/
def Engine.overrideStrictly (engine : Engine) (options : ReplayOptions) :
    Except LengthRefused (Engine × List LengthKept) := do
  let (throttle, throttleRefused) ← engine.throttle.overrideStrictly options.throttle
  let (load, loadRefused) ← engine.load.overrideStrictly options.load
  return ({ engine with throttle, load }, throttleRefused.toList ++ loadRefused.toList)

/-- Of an engine with new channels, overrides change no more than their settings and windows. -/
theorem Engine.override_of_new (engine : Engine) (throttleNew : WindowChannel.New engine.throttle)
    (loadNew : WindowChannel.New engine.load) (options : ReplayOptions) :
    engine.overrideStrictly options = .ok (engine.override options) ∧
      (engine.override options).1 =
        { engine with
          throttle :=
            { engine.throttle with
              settings := engine.throttle.settings.overridden options.throttle
              window := engine.throttle.window.asked options.throttle.windowLength }
          load :=
            { engine.load with
              settings := engine.load.settings.overridden options.load
              window := engine.load.window.asked options.load.windowLength } } := by
  have throttle : engine.throttle.overrideStrictly options.throttle =
        .ok (engine.throttle.override options.throttle) ∧
      (engine.throttle.override options.throttle).1 = _ :=
    throttleNew.override_eq (options.throttle.apply engine.throttle.settings) rfl
      options.throttle.windowLength "tps-accel-len"
  have load : engine.load.overrideStrictly options.load =
        .ok (engine.load.override options.load) ∧
      (engine.load.override options.load).1 = _ :=
    loadNew.override_eq (options.load.apply engine.load.settings) rfl
      options.load.windowLength "load-accel-len"
  constructor
  · rw [overrideStrictly, throttle.1, load.1]
    rfl
  · simp only [override, throttle.2, load.2]
    rfl

namespace Settings

/-- The settings with what a replay is given in place of what they say. -/
def overridden (settings : Settings) (options : ReplayOptions) : Settings :=
  { settings with
    throttle := settings.throttle.overridden options.throttle
    load := settings.load.overridden options.load }

variable {settings : Settings} {table : Option GridData} {taper : Option CurveData}
  {engine : Engine}

/--
Overriding an engine that has been built never meets with a refusal of settings, whether or not a
length is refused. Each channel then has the settings given in place of the configured ones, and a
window of the length given if that is one of 1 to 32, else of the configured length; its settings
name the length that its window has. Nothing else has changed, neither tables nor pump nor readings
nor what is held and counted, so the engine is the one that the overridden settings build. What one
channel is given makes no difference to the other.
-/
theorem override_like_configured (built : settings.build table taper = .ok engine)
    (options : ReplayOptions) :
    engine.overrideStrictly options = .ok (engine.override options) ∧
      (settings.overridden options).build table taper = .ok (engine.override options).1 ∧
      (engine.override options).1 =
        { engine with
          throttle :=
            { engine.throttle with
              settings := (settings.overridden options).throttle
              window := (engine.override options).1.throttle.window }
          load :=
            { engine.load with
              settings := (settings.overridden options).load
              window := (engine.override options).1.load.window } } ∧
      (engine.override options).1.throttle.window.WithLength engine.throttle.window
        (settings.overridden options).throttle.windowLength ∧
      (engine.override options).1.load.window.WithLength engine.load.window
        (settings.overridden options).load.windowLength ∧
      (engine.override { options with load := {} }).1 =
        { engine with throttle := (engine.override options).1.throttle } ∧
      (engine.override { options with throttle := {} }).1 =
        { engine with load := (engine.override options).1.load } := by
  rcases build_eq_ok_iff.mp built with
    ⟨grid, gridBuilt, curve, curveBuilt, throttle, throttleMade, load, loadMade, rfl⟩
  obtain ⟨throttleNew, throttleSettings, throttleTable⟩ := Throttle.create_eq_ok_iff.mp throttleMade
  obtain ⟨loadNew, loadSettings, loadTaper⟩ := Load.create_eq_ok_iff.mp loadMade
  have overrides := (Engine.create throttle load).override_of_new throttleNew loadNew
  simp only [overridden, ← throttleSettings, ← loadSettings]
  refine ⟨(overrides options).1, ?_, ?_, ?_, ?_, ?_, ?_⟩
  · rw [(overrides options).2]
    have throttleAfter := throttleNew.overridden (options.throttle.apply throttle.settings) rfl
      options.throttle.windowLength
    have loadAfter := loadNew.overridden (options.load.apply load.settings) rfl
      options.load.windowLength
    exact build_eq_ok_iff.mpr ⟨grid, gridBuilt, curve, curveBuilt, _,
      Throttle.create_eq_ok_iff.mpr ⟨throttleAfter, rfl, throttleTable⟩, _,
      Load.create_eq_ok_iff.mpr ⟨loadAfter, rfl, loadTaper⟩, rfl⟩
  · rw [(overrides options).2]
    rfl
  · rw [(overrides options).2]
    exact throttleNew.withLength_asked throttle.settings rfl options.throttle.windowLength
  · rw [(overrides options).2]
    exact loadNew.withLength_asked load.settings rfl options.load.windowLength
  · rw [(overrides options).2, (overrides _).2]
    rfl
  · rw [(overrides options).2, (overrides _).2]
    rfl

/-- The length asked for is refused by the throttle channel and accepted by the load channel. -/
theorem override_like_configured_refused_length :
    let settings : Settings := {}
    let options : ReplayOptions :=
      { trace := "trace.csv"
        throttle := { windowLength := some 0, riseThreshold := some 5.0 }
        load := { windowLength := some 8 } }
    ∃ engine, settings.build none none = .ok engine ∧
      (engine.override options).1.throttle.window.capacity = 4 ∧
      (engine.override options).1.throttle.settings =
        { settings.throttle with riseThreshold := 5.0 } ∧
      (engine.override options).1.load.window.capacity = 8 ∧
      (engine.override options).1.load.settings = { settings.load with windowLength := 8 } := by
  intro settings options
  rcases (⟨_, rfl⟩ : ∃ engine, settings.build none none = .ok engine) with ⟨engine, built⟩
  rcases override_like_configured built options with
    ⟨_, _, overridden, throttleWindow, loadWindow, _⟩
  refine ⟨engine, built, throttleWindow.capacity, ?_, loadWindow.capacity, ?_⟩
  · rw [overridden]
    rfl
  · rw [overridden]
    rfl

end Settings

end TransientFuel
