import TransientFuel.Proofs.FaultFreedom
import TransientFuel.Proofs.TableAgreement
import TransientFuel.Proofs.TableNodes

/-!
# The search for a cell

The positions at or below a number form a prefix of an axis, so a search by halving finds where they
end: `partitionPoint_eq`. Between the ends of the axis that is neither at its first position nor
behind its last one, and both neighbours can be read. A number before the axis is taken to the first
position and one beyond it to the last, so lookups do not tell numbers outside of a table from its
edges: `Axis.locate_clamp`.
-/

namespace TransientFuel

/-- Where the positions at or below a number end, found by halving. Each index is tested. -/
def partitionPoint (bins : List Float32) (x : Float32) (low high : ℕ) : Access ℕ :=
  if low < high then do
    if (← Access.read bins ((low + high) / 2)) ≤ x then
      partitionPoint bins x ((low + high) / 2 + 1) high
    else
      partitionPoint bins x low ((low + high) / 2)
  else
    .ok low
termination_by high - low

namespace BareCell

/-- The cell of a number among any positions, searched by halving. -/
def seek (bins : List Float32) (x : Float32) : Access BareCell := do
  let last ← Access.sub bins.length 1
  let first ← Access.read bins 0
  if x.isNaN ∨ x ≤ first then
    return ⟨0, 0, 0.0⟩
  else
    let highest ← Access.read bins last
    if highest ≤ x then
      return ⟨last, last, 0.0⟩
    else
      let upper ← partitionPoint bins x 0 bins.length
      let lower ← Access.sub upper 1
      let start ← Access.read bins lower
      let stop ← Access.read bins upper
      let fraction ← Access.div (x - start) (stop - start)
      return ⟨lower, upper, fraction⟩

end BareCell

namespace Axis

variable (axis : Axis) {x : Float32}

theorem lt_length_takeWhile_le_iff {index : ℕ} (inside : index < axis.bins.length) :
    index < (axis.bins.takeWhile (· ≤ x)).length ↔ axis.bins[index] ≤ x := by
  have partitioned : axis.bins.Pairwise fun earlier later =>
      decide (later ≤ x) = true → decide (earlier ≤ x) = true := by
    apply (strictlyIncreasing_iff_pairwise.mp axis.increasing).imp
    intro earlier later less le
    exact decide_eq_true (Single.le_trans (Single.le_of_lt less) (of_decide_eq_true le))
  simp [lt_length_takeWhile_iff (· ≤ x) partitioned inside]

theorem partitionPoint_eq :
    partitionPoint axis.bins x 0 axis.size = .ok (axis.bins.takeWhile (· ≤ x)).length := by
  have upper : (axis.bins.takeWhile (· ≤ x)).length ≤ axis.size :=
    (List.takeWhile_prefix _).length_le
  apply halving _ _ (Nat.zero_le _) upper le_rfl
  · rw [partitionPoint, if_neg (lt_irrefl _)]
  · intro low high apart bound
    have inside : (low + high) / 2 < axis.size := by omega
    rw [partitionPoint, if_pos apart, Access.read_get axis.bins ⟨_, inside⟩, Access.ok_bind]
    simp only [axis.lt_length_takeWhile_le_iff inside, List.get_eq_getElem]

theorem seek_eq_locate (x : Float32) : BareCell.seek axis.bins x = BareCell.locate axis.bins x := by
  simp only [BareCell.seek, BareCell.locate, partitionPoint_eq, Access.ok_bind]

/-- A number at the last position or above is taken there, also if that is the only position. -/
theorem locate_of_beyond (beyond : axis.bin axis.last ≤ x) :
    axis.locate x = ⟨axis.last, axis.last, 0.0⟩ := by
  have located := axis.located x
  generalize axis.locate x = cell at located
  cases located with
  | first outside =>
      have notMissing : x.isNaN = false := (Single.le_iff.mp beyond).2.1
      have le := Single.le_trans beyond (outside.resolve_left (Bool.eq_false_iff.mp notMissing))
      have ends := axis.strictMono_bin.le_iff_le.mp (Single.le_iff.mp le).2.2
      have same : axis.first = axis.last := le_antisymm (Nat.zero_le _) ends
      rw [same]
  | last inside _ => rfl
  | between inside short => exact absurd beyond (Single.not_le_of_lt short)

/-- A number moved to the nearest place between the ends of an axis, a missing one to its start. -/
def clamp (x : Float32) : Float32 :=
  if x.isNaN ∨ x < axis.bin axis.first then axis.bin axis.first
  else if axis.bin axis.last < x then axis.bin axis.last
  else x

theorem clamp_mem (x : Float32) :
    axis.bin axis.first ≤ axis.clamp x ∧ axis.clamp x ≤ axis.bin axis.last := by
  have ends : axis.bin axis.first ≤ axis.bin axis.last := by
    have order : axis.first ≤ axis.last := Nat.zero_le _
    exact Single.le_iff.mpr ⟨axis.isNaN_bin _, axis.isNaN_bin _, axis.strictMono_bin.monotone order⟩
  rw [clamp]
  split_ifs with outside beyond
  · exact ⟨Single.le_refl (axis.isNaN_bin _), ends⟩
  · exact ⟨ends, Single.le_refl (axis.isNaN_bin _)⟩
  · rw [not_or, Bool.not_eq_true] at outside
    exact ⟨Single.le_of_not_lt outside.1 (axis.isNaN_bin _) outside.2,
      Single.le_of_not_lt (axis.isNaN_bin _) outside.1 beyond⟩

theorem locate_clamp (x : Float32) : axis.locate (axis.clamp x) = axis.locate x := by
  have start : axis.bin axis.first ≤ axis.bin axis.first := Single.le_refl (axis.isNaN_bin _)
  have stop : axis.bin axis.last ≤ axis.bin axis.last := Single.le_refl (axis.isNaN_bin _)
  rw [clamp]
  split_ifs with outside beyond
  · rw [locate, if_pos (Or.inr start), locate, if_pos (outside.imp_right Single.le_of_lt)]
  · rw [axis.locate_of_beyond stop, axis.locate_of_beyond (Single.le_of_lt beyond)]
  · rfl

end Axis

/-- The parts that an axis divides the numbers into. -/
inductive Region where
  /-- At the first position or below, and what is no number. -/
  | before
  /-- Above the first position, and at the last one or above. -/
  | beyond
  /-- Strictly between the first and the last position. -/
  | within
deriving DecidableEq

/-- That a number lies in a region, and a cell is the one to look it up in. -/
def Region.Settles (axis : Axis) (x : Float32) (cell : BareCell) : Region → Prop
  | before => (x.isNaN = true ∨ x ≤ axis.bin axis.first) ∧ cell = ⟨0, 0, 0.0⟩
  | beyond => (axis.bin axis.first < x ∧ axis.bin axis.last ≤ x) ∧
      cell = ⟨axis.bins.length - 1, axis.bins.length - 1, 0.0⟩
  | within => (axis.bin axis.first < x ∧ x < axis.bin axis.last) ∧
      ∃ start stop, axis.bins[cell.lower]? = some start ∧ axis.bins[cell.upper]? = some stop ∧
        cell.upper = cell.lower + 1 ∧ start ≤ x ∧ x < stop ∧
          cell.fraction = (x - start) / (stop - start)

namespace Axis

variable {axis : Axis} {x : Float32}

/-- The regions have no number in common. -/
theorem region_unique {cell other : BareCell} {region otherRegion : Region}
    (settles : region.Settles axis x cell) (otherSettles : otherRegion.Settles axis x other) :
    region = otherRegion := by
  cases region <;> cases otherRegion
  case before.before | beyond.beyond | within.within => rfl
  case before.beyond | before.within => exact absurd settles.1 (not_outside otherSettles.1.1)
  case beyond.before | within.before => exact absurd otherSettles.1 (not_outside settles.1.1)
  case beyond.within => exact absurd settles.1.2 (Single.not_le_of_lt otherSettles.1.2)
  case within.beyond => exact absurd otherSettles.1.2 (Single.not_le_of_lt settles.1.2)

theorem Located.exists_region {cell : Cell axis.size} (located : axis.Located x cell) :
    ∃ region : Region, region.Settles axis x ⟨cell.lower, cell.upper, cell.fraction⟩ := by
  cases located with
  | first outside => exact ⟨.before, outside, rfl⟩
  | last inside beyond => exact ⟨.beyond, ⟨inside, beyond⟩, rfl⟩
  | @between lower upper inside short _ next above below =>
      exact ⟨.within, ⟨inside, short⟩, axis.bin lower, axis.bin upper,
        List.getElem?_eq_getElem lower.isLt, List.getElem?_eq_getElem upper.isLt, next, above,
        below, rfl⟩

theorem Located.lower_le_upper {cell : Cell axis.size} (located : axis.Located x cell) :
    cell.lower ≤ cell.upper := by
  cases located with
  | first outside => exact le_rfl
  | last inside beyond => exact le_rfl
  | @between lower upper _ _ _ next =>
      change (lower : ℕ) ≤ upper
      omega

end Axis

/--
Positions are accepted if there is at least one, all are finite and each is above the one before it.
The search for the cell of a number then passes all of its tests, and the cell lies on the axis. It
is the first position, the last position or two neighbours around the number, and the regions in
which these are the answer exclude each other. A lookup in an accepted table or taper never reads
beside it, and gives the same for a number and for the place on the axis next to it.
-/
theorem cells_found_and_clamped :
    (∀ bins : List Float32,
      ((∃ axis, Axis.ofList? bins = some axis) ↔ Ascending bins) ∧
        ∀ axis, Axis.ofList? bins = some axis → ∀ x, ∃ cell : BareCell,
          BareCell.seek bins x = .ok cell ∧
            cell = ⟨(axis.locate x).lower, (axis.locate x).upper, (axis.locate x).fraction⟩ ∧
            cell.lower ≤ cell.upper ∧ cell.upper < bins.length ∧
            (∃! region : Region, region.Settles axis x cell) ∧
            axis.bin axis.first ≤ axis.clamp x ∧ axis.clamp x ≤ axis.bin axis.last) ∧
      (∀ (before after values : List Float32) (grid : Grid),
        Grid.ofFlat before after values = .ok grid → ∀ x y,
          BareGrid.lookup ⟨before, after, values⟩ x y = .ok (grid.lookup x y) ∧
            grid.lookup x y = grid.lookup (grid.before.clamp x) (grid.after.clamp y)) ∧
      (∀ (data : CurveData) (curve : Curve), Curve.ofData data = .ok curve → ∀ age,
        data.lookup age = .ok (curve.lookup age) ∧
          curve.lookup age = curve.lookup (curve.ages.clamp age)) := by
  refine ⟨?_, ?_, ?_⟩
  · intro bins
    refine ⟨by simp only [Axis.ofList?_eq_some_iff, ascending_iff], ?_⟩
    intro axis accepted x
    obtain rfl := Axis.ofList?_eq_some_iff.mp accepted
    have located := axis.located x
    obtain ⟨region, settles⟩ := located.exists_region
    refine ⟨_, ?_, rfl, located.lower_le_upper, (axis.locate x).upper.isLt, ⟨region, settles, ?_⟩,
      axis.clamp_mem x⟩
    · rw [axis.seek_eq_locate, located.bare]
    · intro other otherSettles
      exact Axis.region_unique otherSettles settles
  · intro before after values grid built x y
    obtain ⟨rfl, rfl, rfl⟩ := Grid.ofFlat_eq_ok_iff.mp built
    refine ⟨grid.lookup_bare x y, ?_⟩
    simp only [Grid.lookup, Axis.locate_clamp]
  · intro data curve built age
    have bare : curve.bare = data := by
      obtain ⟨ages, multipliers⟩ := Curve.ofData_eq_ok_iff.mp built
      simp [Curve.bare, ages, multipliers]
    refine ⟨bare ▸ curve.lookup_bare age, ?_⟩
    simp only [Curve.lookup, Axis.locate_clamp]

/-- A missing number, an infinite one, and one just below a position in the middle. -/
theorem cells_found_and_clamped_at_edges :
    let missing : Float32 := 0.0 / 0.0
    let infinite : Float32 := 1.0 / 0.0
    (∃ axis, Axis.ofList? [0.0, 30.0, 60.0] = some axis ∧ ∃ cell,
      BareCell.seek [0.0, 30.0, 60.0] 29.5 = .ok cell ∧ cell.upper < 3 ∧
        ∃! region : Region, region.Settles axis 29.5 cell) ∧
      (∃ grid, Grid.ofFlat [5.0] [0.0, 30.0] [1.0, 2.0] = .ok grid ∧
        grid.lookup missing infinite = grid.lookup 5.0 30.0) ∧
      ∃ curve, Curve.ofData ⟨[0.0, 2.0], [1.0, 0.5]⟩ = .ok curve ∧
        curve.lookup (-infinite) = curve.lookup 0.0 := by
  intro missing infinite
  refine ⟨?_, ?_, ?_⟩
  · obtain ⟨axis, accepted⟩ : ∃ axis, Axis.ofList? [0.0, 30.0, 60.0] = some axis := ⟨_, rfl⟩
    obtain ⟨cell, found, _, _, inside, region, _⟩ :=
      (cells_found_and_clamped.1 _).2 axis accepted 29.5
    exact ⟨axis, accepted, cell, found, inside, region⟩
  · obtain ⟨grid, built, start, stop⟩ : ∃ grid,
        Grid.ofFlat [5.0] [0.0, 30.0] [1.0, 2.0] = .ok grid ∧
          grid.before.clamp missing = 5.0 ∧ grid.after.clamp infinite = 30.0 :=
      ⟨_, rfl, by decide +kernel, by decide +kernel⟩
    refine ⟨grid, built, ?_⟩
    rw [(cells_found_and_clamped.2.1 _ _ _ grid built missing infinite).2, start, stop]
  · obtain ⟨curve, built, start⟩ : ∃ curve,
        Curve.ofData ⟨[0.0, 2.0], [1.0, 0.5]⟩ = .ok curve ∧ curve.ages.clamp (-infinite) = 0.0 :=
      ⟨_, rfl, by decide +kernel⟩
    refine ⟨curve, built, ?_⟩
    rw [(cells_found_and_clamped.2.2 _ curve built (-infinite)).2, start]

end TransientFuel
