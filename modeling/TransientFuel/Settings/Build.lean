import TransientFuel.Engine
import TransientFuel.Report
import TransientFuel.Settings

/-!
# From settings to an engine

Tables given beside the settings take the place of those in them. Without a throttle table the
throttle channel adds nothing.
-/

namespace TransientFuel

/-- The throttle table that gives no fuel. -/
def GridData.zero : GridData := ⟨[0.0], [0.0], [[0.0]]⟩

namespace Settings

/-- The throttle table in force, if there is one. -/
def tableInForce (settings : Settings) (table : Option GridData) : Option GridData :=
  table.or settings.table

/-- Builds the throttle table in force. -/
def buildTable (settings : Settings) (table : Option GridData) : Except Report Grid :=
  inContext (.text "throttle table") <|
    (Grid.ofData ((settings.tableInForce table).getD .zero)).mapError TableFault.report

/-- Builds the taper in force. -/
def buildTaper (settings : Settings) (taper : Option CurveData) : Except Report Curve :=
  inContext (.text "load taper") <|
    (Curve.ofData (taper.getD settings.taper)).mapError TableFault.report

/-- Builds the throttle channel. -/
def buildThrottle (settings : Settings) (grid : Grid) : Except Report Throttle :=
  inContext (.text "tps enrichment") <|
    (Throttle.create settings.throttle grid.lookup).mapError LengthRefused.report

/-- Builds the load channel. -/
def buildLoad (settings : Settings) (curve : Curve) : Except Report Load :=
  inContext (.text "load enrichment") <|
    (Load.create settings.load curve.lookup).mapError LengthRefused.report

/-- Builds the engine. -/
def build (settings : Settings) (table : Option GridData) (taper : Option CurveData) :
    Except Report Engine := do
  let grid ← settings.buildTable table
  let curve ← settings.buildTaper taper
  let throttle ← settings.buildThrottle grid
  let load ← settings.buildLoad curve
  return Engine.create throttle load

end Settings
end TransientFuel
