import TransientFuel.Command.Request

/-!
# Overrides

What a replay is given takes the place of what the settings say, channel by channel. A window length
that is refused leaves the window as it is; the other overrides hold all the same.
-/

namespace TransientFuel

/-- A window length that was refused, and the length kept. -/
structure LengthKept where
  /-- The option that asked for the length. -/
  option : String
  /-- The refusal. -/
  refusal : LengthRefused
  /-- The length kept. -/
  kept : Nat
deriving DecidableEq, Repr

/-- The wording of a refused length. -/
def LengthKept.message (refused : LengthKept) : String :=
  "--" ++ refused.option ++ ": " ++ refused.refusal.message ++ s!"; keeping {refused.kept}"

/-- The settings with the overrides in force, the window length apart. -/
def ThrottleOverrides.apply (overrides : ThrottleOverrides) (settings : ThrottleSettings) :
    ThrottleSettings :=
  { settings with
    riseThreshold := overrides.riseThreshold.getD settings.riseThreshold
    dropThreshold := overrides.dropThreshold.getD settings.dropThreshold
    dropMultiplier := overrides.dropMultiplier.getD settings.dropMultiplier }

/-- The settings with the overrides in force, the window length apart. -/
def LoadOverrides.apply (overrides : LoadOverrides) (settings : LoadSettings) : LoadSettings :=
  { settings with
    riseThreshold := overrides.riseThreshold.getD settings.riseThreshold
    riseMultiplier := overrides.riseMultiplier.getD settings.riseMultiplier
    dropThreshold := overrides.dropThreshold.getD settings.dropThreshold
    dropMultiplier := overrides.dropMultiplier.getD settings.dropMultiplier }

/-- How the channels of one kind are given another window length and other settings. -/
structure Adjustment (Channel Settings : Type) where
  /-- The option that asks for a window length. -/
  option : String
  /-- Gives the window another length. -/
  resize : Channel → Int → Except LengthRefused Channel
  /-- Replaces the settings. -/
  reconfigure : Channel → Settings → Except LengthRefused Channel
  /-- The window length that settings name. -/
  windowLength : Settings → Nat
  /-- The settings with the length of a channel's window. -/
  fitted : Settings → Channel → Settings

namespace Adjustment

variable {Channel Settings : Type} (adjustment : Adjustment Channel Settings)

/-- The channel with other settings, or as it was if they are refused. -/
def adopt (channel : Channel) (settings : Settings) : Channel :=
  match adjustment.reconfigure channel settings with
  | .ok changed => changed
  | .error _ => channel

/-- The channel with overridden settings, and the length that was refused, if one was. -/
def override (channel : Channel) (settings : Settings) (requested : Option Int) :
    Channel × Option LengthKept :=
  match requested with
  | none => (adjustment.adopt channel settings, none)
  | some length =>
    match adjustment.resize channel length with
    | .ok resized => (adjustment.adopt resized (adjustment.fitted settings resized), none)
    | .error refusal =>
      (adjustment.adopt channel settings,
        some ⟨adjustment.option, refusal, adjustment.windowLength settings⟩)

end Adjustment

/-- How the throttle channel is adjusted. -/
def Throttle.adjustment : Adjustment Throttle ThrottleSettings where
  option := "tps-accel-len"
  resize := Throttle.resize
  reconfigure := Throttle.reconfigure
  windowLength := ThrottleSettings.windowLength
  fitted settings channel := { settings with windowLength := channel.window.capacity }

/-- The throttle channel with overrides, and the length that was refused, if one was. -/
def Throttle.override (channel : Throttle) (overrides : ThrottleOverrides) :
    Throttle × Option LengthKept :=
  adjustment.override channel (overrides.apply channel.settings) overrides.windowLength

/-- How the load channel is adjusted. -/
def Load.adjustment : Adjustment Load LoadSettings where
  option := "load-accel-len"
  resize := Load.resize
  reconfigure := Load.reconfigure
  windowLength := LoadSettings.windowLength
  fitted settings channel := { settings with windowLength := channel.window.capacity }

/-- The load channel with overrides, and the length that was refused, if one was. -/
def Load.override (channel : Load) (overrides : LoadOverrides) : Load × Option LengthKept :=
  adjustment.override channel (overrides.apply channel.settings) overrides.windowLength

/-- The engine with overrides of both channels, and the lengths that were refused. -/
def Engine.override (engine : Engine) (options : ReplayOptions) : Engine × List LengthKept :=
  let (throttle, throttleRefused) := engine.throttle.override options.throttle
  let (load, loadRefused) := engine.load.override options.load
  ({ engine with throttle, load }, throttleRefused.toList ++ loadRefused.toList)

end TransientFuel
