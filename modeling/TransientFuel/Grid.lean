import TransientFuel.Axis

/-!
# The throttle table

A grid gives the extra fuel for a throttle that moved from one position to another. Between its
values it interpolates along both axes; outside it holds its edge values.
-/

namespace TransientFuel

/-- A throttle table as written down: its axes and one row of values per position before. -/
structure GridData where
  /-- The throttle positions before the rise. -/
  before : List Float32
  /-- The throttle positions after the rise. -/
  after : List Float32
  /-- A row of values for each position before the rise. -/
  values : List (List Float32)
deriving DecidableEq

/-- A throttle table that can be looked up. -/
structure Grid where
  /-- The throttle positions before the rise. -/
  before : Axis
  /-- The throttle positions after the rise. -/
  after : Axis
  /-- The values row by row. -/
  values : List Float32
  length_values : values.length = before.size * after.size
  values_finite : ∀ value ∈ values, value.isFinite = true

namespace Grid

/-- The grid with the given axes and values, row by row. -/
def ofFlat (before after values : List Float32) : Except TableFault Grid :=
  match Axis.ofList? before with
  | none => .error .beforeBins
  | some beforeAxis =>
    match Axis.ofList? after with
    | none => .error .afterBins
    | some afterAxis =>
      if size : values.length = beforeAxis.size * afterAxis.size then
        if finite : ∀ value ∈ values, value.isFinite = true then
          .ok ⟨beforeAxis, afterAxis, values, size, finite⟩
        else
          .error .valueNotFinite
      else
        .error .valueCount

/-- The grid of a table as written down. -/
def ofData (data : GridData) : Except TableFault Grid :=
  if data.values.all (·.length == data.after.length) then
    ofFlat data.before data.after data.values.flatten
  else
    .error .raggedRow

/-- The value at a row and a column. -/
def value (grid : Grid) (row : Fin grid.before.size) (column : Fin grid.after.size) : Float32 :=
  grid.values.get ⟨row * grid.after.size + column, by
    rw [grid.length_values]
    calc row * grid.after.size + column
        < row * grid.after.size + grid.after.size := Nat.add_lt_add_left column.isLt _
      _ = (row + 1) * grid.after.size := (Nat.succ_mul _ _).symm
      _ ≤ grid.before.size * grid.after.size := Nat.mul_le_mul_right _ row.isLt⟩

/-- The extra fuel for a throttle that moved between two positions. -/
def lookup (grid : Grid) (before after : Float32) : Float32 :=
  let row := grid.before.locate before
  let column := grid.after.locate after
  let low := interpolate (grid.value row.lower column.lower) (grid.value row.lower column.upper)
    column.fraction
  let high := interpolate (grid.value row.upper column.lower) (grid.value row.upper column.upper)
    column.fraction
  interpolate low high row.fraction

end Grid
end TransientFuel
