import TransientFuel.Command.Replay
import TransientFuel.JsonValue
import TransientFuel.Settings.Build

/-!
# Listings

The lines of a replay and the settings in force are shown in words or as JSON, a value a line.
Snapshots are shown as JSON only.
-/

namespace TransientFuel

/-- A number with two places behind the point, seven wide. -/
def showReading (reading : Float32) : String :=
  Decimal.padLeft 7 (Decimal.fixed 2 reading)

/-- A number with three places behind the point, eight wide. -/
def showCorrection (correction : Float32) : String :=
  Decimal.padLeft 8 (Decimal.fixed 3 correction)

/-- A range with three places behind the points. -/
def Range.show (range : Range) : String :=
  Decimal.fixed 3 range.least ++ "/" ++ Decimal.fixed 3 range.greatest

/-- A snapshot as JSON. -/
def Snapshot.json : Snapshot → JsonValue
  | .throttle shot => .object
    [("accumulated_ms", .number shot.accumulated), ("cycle_countdown", .integer shot.countdown),
      ("debug", .text "tps_accel"), ("extra_ms", .number shot.extra),
      ("max_extra_per_period_ms", .number shot.periodPeak),
      ("max_injected_per_period_ms", .number shot.injectedPeak),
      ("table_value", .number shot.tableValue), ("tps_from", .number shot.before),
      ("tps_to", .number shot.after)]
  | .load shot => .object
    [("debug", .text "load_accel"), ("distance", .integer shot.age),
      ("result_ms", .number shot.result), ("taper", .number shot.taper)]

namespace Line

/-- A line in words, if it is shown in words. -/
def words? : Line → Option String
  | .snapshot _ => none
  | .row number sample correction => some <|
    Decimal.padLeft 6 (toString number) ++ "  tps=" ++ showReading sample.throttle ++ " load=" ++
      showReading sample.load ++ (if sample.cycleEnd then " |" else "  ") ++ "  tps_ms=" ++
      showCorrection correction.throttle ++ " load_ms=" ++ showCorrection correction.load
  | .summary totals cycles => some <|
    s!"Replay complete: rows={totals.rows} cycles={cycles} tps_ms[min/max]=" ++
      totals.throttleRange.show ++ " load_ms[min/max]=" ++ totals.loadRange.show

/-- A line as JSON. -/
def json : Line → JsonValue
  | .snapshot shot => shot.json
  | .row number sample correction => .object
    [("cycle_end", .bool sample.cycleEnd), ("load", .number sample.load),
      ("load_ms", .number correction.load), ("row", .integer number),
      ("total_ms", .number correction.total), ("tps", .number sample.throttle),
      ("tps_ms", .number correction.throttle)]
  | .summary totals cycles => .object
    [("summary", .object
      [("cycles", .integer cycles), ("min_load_ms", .number totals.loadRange.least),
        ("min_tps_ms", .number totals.throttleRange.least),
        ("peak_load_ms", .number totals.loadRange.greatest),
        ("peak_tps_ms", .number totals.throttleRange.greatest),
        ("rows", .integer totals.rows)])]

end Line

/-- The name of the channel observed. -/
def Watch.name : Watch → String
  | .off => "Off"
  | .throttle => "TpsAccel"
  | .load => "LoadAccel"

/-- The settings in force. -/
structure Info where
  /-- The throttle channel's settings. -/
  throttle : ThrottleSettings
  /-- The numbers of positions before and after the rise, if there is a throttle table. -/
  table : Option (Nat × Nat)
  /-- The load channel's settings. -/
  load : LoadSettings
  /-- The channel observed. -/
  watch : Watch
deriving DecidableEq

namespace Info

/-- The settings in force in an engine built from settings and perhaps a table. -/
def ofEngine (settings : Settings) (table : Option GridData) (engine : Engine) : Info where
  throttle := engine.throttle.settings
  table := (settings.tableInForce table).map fun data => (data.before.length, data.after.length)
  load := engine.load.settings
  watch := settings.watch

/-- The settings in force in words. -/
def words (info : Info) : List String :=
  [s!"tps accel length={info.throttle.windowLength}",
    "tps accel threshold=" ++ Decimal.fixed 2 info.throttle.riseThreshold ++
      " decel threshold=" ++ Decimal.fixed 2 info.throttle.dropThreshold ++
      " decel multiplier=" ++ Decimal.fixed 4 info.throttle.dropMultiplier,
    s!"tps fraction period={info.throttle.smoothing.period} divisor=" ++
      Decimal.fixed 2 info.throttle.smoothing.divisor,
    match info.table with
    | some (before, after) => s!"tps table {before}x{after}"
    | none => "tps table none (0 ms)",
    s!"load accel length={info.load.windowLength} cylinders={info.load.cylinders}",
    "load accel threshold=" ++ Decimal.fixed 2 info.load.riseThreshold ++
      " multiplier=" ++ Decimal.fixed 4 info.load.riseMultiplier,
    "load decel threshold=" ++ Decimal.fixed 2 info.load.dropThreshold ++
      " multiplier=" ++ Decimal.fixed 4 info.load.dropMultiplier,
    "debug mode=" ++ info.watch.name]

/-- The settings in force as JSON. -/
def json (info : Info) : JsonValue :=
  .object
    [("debug_mode", .text info.watch.name),
      ("load", .object
        [("accel_multiplier", .number info.load.riseMultiplier),
          ("accel_threshold", .number info.load.riseThreshold),
          ("cylinders", .integer info.load.cylinders),
          ("decel_multiplier", .number info.load.dropMultiplier),
          ("decel_threshold", .number info.load.dropThreshold),
          ("history_len", .integer info.load.windowLength)]),
      ("tps", .object
        [("accel_threshold", .number info.throttle.riseThreshold),
          ("decel_multiplier", .number info.throttle.dropMultiplier),
          ("decel_threshold", .number info.throttle.dropThreshold),
          ("fraction_divisor", .number info.throttle.smoothing.divisor),
          ("fraction_period", .integer info.throttle.smoothing.period),
          ("history_len", .integer info.throttle.windowLength),
          ("table", match info.table with
            | some (before, after) => .list [.integer before, .integer after]
            | none => .null)])]

end Info
end TransientFuel
