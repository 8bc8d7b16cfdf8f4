import TransientFuel.Settings

/-!
# Checks of settings

Settings are checked field by field, and the first fault found is reported with the name that the
field has in a settings file.
-/

namespace TransientFuel

/-- What is wrong with a list of bin positions. -/
inductive BinsFault where
  /-- There is none. -/
  | empty
  /-- One is not finite. -/
  | notFinite
  /-- One is not above the one before it. -/
  | notIncreasing
deriving DecidableEq, Repr

/-- What is wrong with settings or with the tables that come with them. -/
inductive SettingsFault where
  /-- There are no cylinders. -/
  | noCylinders
  /-- There are too many cylinders. -/
  | manyCylinders
  /-- A threshold is negative or not finite. -/
  | threshold (field : String)
  /-- A multiplier is not finite. -/
  | multiplier (field : String)
  /-- A window length is out of range. -/
  | windowLength (field : String) (length : Nat)
  /-- The smoothing period is too short. -/
  | period
  /-- The smoothing divisor is below one or not finite. -/
  | divisor
  /-- Bin positions do not form an axis. -/
  | bins (field : String) (fault : BinsFault)
  /-- The throttle table has another number of rows than positions before the rise. -/
  | rowCount (expected found : Nat)
  /-- A row has another length than there are positions after the rise. -/
  | columnCount (row expected found : Nat)
  /-- A row has a value that is not finite. -/
  | rowNotFinite (row : Nat)
  /-- The taper has another number of multipliers than ages. -/
  | multiplierCount (expected found : Nat)
  /-- The taper has a multiplier that is not finite. -/
  | multiplierNotFinite
  /-- The rotation of log files is not known. -/
  | rotation (found : String)
deriving DecidableEq, Repr

/-- The largest number of cylinders. -/
def maxCylinders : Nat := 16

/-- The wording of a fault of bin positions. -/
def BinsFault.message : BinsFault → String
  | .empty => "must not be empty"
  | .notFinite => "contains a non-finite value"
  | .notIncreasing => "must be strictly increasing"

/-- The wording of a fault. -/
def SettingsFault.message : SettingsFault → String
  | .noCylinders => "engine.cylinders must be >= 1"
  | .manyCylinders => s!"engine.cylinders must be <= {maxCylinders}"
  | .threshold name => s!"{name} must be finite and >= 0"
  | .multiplier name => s!"{name} must be finite"
  | .windowLength name length => s!"{name} must be in [1, {Window.maxLength}], got {length}"
  | .period => "throttle.fraction.period must be >= 1"
  | .divisor => "throttle.fraction.divisor must be >= 1.0"
  | .bins name fault => name ++ " " ++ fault.message
  | .rowCount expected found =>
    s!"throttle.table.values must have {expected} rows (one per from bin), got {found}"
  | .columnCount row expected found =>
    s!"throttle.table.values row {row} must have {expected} columns, got {found}"
  | .rowNotFinite row => s!"throttle.table.values row {row} contains a non-finite value"
  | .multiplierCount expected found =>
    s!"load.taper_mult must have {expected} entries to match load.taper_bins, got {found}"
  | .multiplierNotFinite => "load.taper_mult contains a non-finite value"
  | .rotation found => s!"logging.rotation must be one of never|daily|hourly, got {found}"

/-- Passes if a condition holds. -/
def require (condition : Bool) (fault : SettingsFault) : Except SettingsFault Unit :=
  if condition then .ok () else .error fault

/-- A threshold has to be finite and without a minus sign. -/
def checkThreshold (name : String) (threshold : Float32) : Except SettingsFault Unit :=
  require (threshold.isFinite && !Single.isNegative threshold) (.threshold name)

/-- A multiplier has to be finite. -/
def checkMultiplier (name : String) (multiplier : Float32) : Except SettingsFault Unit :=
  require multiplier.isFinite (.multiplier name)

/-- A window holds at least one reading and not too many. -/
def checkWindowLength (name : String) (length : Nat) : Except SettingsFault Unit :=
  require (1 ≤ length && length ≤ Window.maxLength) (.windowLength name length)

/-- Whether a position is not above the one before it. -/
def hasDescent : List Float32 → Bool
  | first :: second :: rest => second ≤ first || hasDescent (second :: rest)
  | _ => false

/-- Bin positions have to be there, finite, and each above the one before. -/
def checkBins (name : String) (bins : List Float32) : Except SettingsFault Unit := do
  require (!bins.isEmpty) (.bins name .empty)
  require (bins.all Float32.isFinite) (.bins name .notFinite)
  require (!hasDescent bins) (.bins name .notIncreasing)

namespace GridData

/-- The rows, from the one with a given number on, have to fit the columns and to be finite. -/
def checkRows (columns : Nat) : Nat → List (List Float32) → Except SettingsFault Unit
  | _, [] => .ok ()
  | number, row :: rest => do
    require (row.length == columns) (.columnCount number columns row.length)
    require (row.all Float32.isFinite) (.rowNotFinite number)
    checkRows columns (number + 1) rest

/-- Checks a throttle table as written down. -/
def check (data : GridData) : Except SettingsFault Unit := do
  checkBins "throttle.table.from_bins" data.before
  checkBins "throttle.table.to_bins" data.after
  require (data.values.length == data.before.length)
    (.rowCount data.before.length data.values.length)
  checkRows data.after.length 0 data.values

end GridData

/-- Checks a taper as written down. -/
def CurveData.check (data : CurveData) : Except SettingsFault Unit := do
  checkBins "load.taper_bins" data.bins
  require (data.multipliers.length == data.bins.length)
    (.multiplierCount data.bins.length data.multipliers.length)
  require (data.multipliers.all Float32.isFinite) .multiplierNotFinite

/-- Checks the throttle channel's settings. -/
def ThrottleSettings.check (settings : ThrottleSettings) : Except SettingsFault Unit := do
  checkThreshold "throttle.accel_threshold" settings.riseThreshold
  checkThreshold "throttle.decel_threshold" settings.dropThreshold
  checkMultiplier "throttle.decel_multiplier" settings.dropMultiplier
  checkWindowLength "throttle.history_len" settings.windowLength
  require (1 ≤ settings.smoothing.period) .period
  require (settings.smoothing.divisor.isFinite && !(settings.smoothing.divisor < 1.0)) .divisor

/-- Checks the load channel's settings, the number of cylinders apart. -/
def LoadSettings.check (settings : LoadSettings) : Except SettingsFault Unit := do
  checkThreshold "load.accel_threshold" settings.riseThreshold
  checkThreshold "load.decel_threshold" settings.dropThreshold
  checkMultiplier "load.accel_multiplier" settings.riseMultiplier
  checkMultiplier "load.decel_multiplier" settings.dropMultiplier
  checkWindowLength "load.history_len" settings.windowLength

/-- Checks the log's settings. -/
def Logging.check (logging : Logging) : Except SettingsFault Unit :=
  match logging.rotation with
  | none => .ok ()
  | some rotation =>
    require (["never", "daily", "hourly"].contains rotation) (.rotation rotation)

/-- Checks all settings. -/
def Settings.check (settings : Settings) : Except SettingsFault Unit := do
  require (settings.load.cylinders != 0) .noCylinders
  require (settings.load.cylinders ≤ maxCylinders) .manyCylinders
  settings.throttle.check
  match settings.table with
  | none => pure ()
  | some table => table.check
  settings.load.check
  settings.taper.check
  settings.logging.check

end TransientFuel
