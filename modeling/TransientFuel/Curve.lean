import TransientFuel.Axis

/-!
# The taper curve

A curve weights a rise of the engine load by its age, counted in samples.
-/

namespace TransientFuel

/-- A taper curve as written down. -/
structure CurveData where
  /-- The ages. -/
  bins : List Float32
  /-- A multiplier for each age. -/
  multipliers : List Float32
deriving DecidableEq

/-- A taper curve that can be looked up. -/
structure Curve where
  /-- The ages. -/
  ages : Axis
  /-- A multiplier for each age. -/
  multipliers : List Float32
  length_multipliers : multipliers.length = ages.size
  multipliers_finite : ∀ multiplier ∈ multipliers, multiplier.isFinite = true

namespace Curve

/-- The curve of a taper as written down. -/
def ofData (data : CurveData) : Except TableFault Curve :=
  match Axis.ofList? data.bins with
  | none => .error .taperBins
  | some ages =>
    if size : data.multipliers.length = ages.size then
      if finite : ∀ multiplier ∈ data.multipliers, multiplier.isFinite = true then
        .ok ⟨ages, data.multipliers, size, finite⟩
      else
        .error .taperNotFinite
    else
      .error .taperCount

/-- The curve that leaves every rise as it is. -/
def flat : Curve where
  ages :=
    { bins := [0.0]
      nonempty := by simp
      finite := by decide +kernel
      increasing := rfl }
  multipliers := [1.0]
  length_multipliers := rfl
  multipliers_finite := by decide +kernel

/-- The multiplier at an age's number. -/
def multiplier (curve : Curve) (index : Fin curve.ages.size) : Float32 :=
  curve.multipliers.get (index.cast curve.length_multipliers.symm)

/-- The multiplier for an age. -/
def lookup (curve : Curve) (age : Float32) : Float32 :=
  let cell := curve.ages.locate age
  interpolate (curve.multiplier cell.lower) (curve.multiplier cell.upper) cell.fraction

end Curve
end TransientFuel
