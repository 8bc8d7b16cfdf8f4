import TransientFuel.Proofs.BareEngine
import TransientFuel.Proofs.CheckedSettings
import TransientFuel.Proofs.Interpolation

/-!
# Checked settings never lead to a fault

An engine that forgets its proofs is a bare engine. Each step of the bare engine passes all of its
tests and gives what the engine gives, so the two stay together through any list of actions:
`Engine.apply_bare`. Settings that pass their check describe a bare engine of this kind, and so it
never stops at a fault: `Settings.perform_bareEngine`.
-/

namespace TransientFuel

namespace Access

theorem ok_bind {α β : Type} (value : α) (next : α → Access β) :
    (Except.ok value >>= next) = next value :=
  rfl

theorem read_get (list : List Float32) (index : Fin list.length) :
    read list index = .ok (list.get index) := by
  simp [read]

theorem write_of_lt {list : List Float32} {index : ℕ} (inside : index < list.length)
    (value : Float32) : write list index value = .ok (list.set index value) :=
  if_pos inside

theorem sub_of_le {left right : ℕ} (le : right ≤ left) : sub left right = .ok (left - right) :=
  if_pos le

theorem mod_of_pos {modulus : ℕ} (positive : 0 < modulus) (number : ℕ) :
    mod number modulus = .ok (number % modulus) :=
  if_pos positive

theorem div_of_pos {divisor : Float32} (positive : 0.0 < divisor) (number : Float32) :
    div number divisor = .ok (number / divisor) :=
  if_pos positive

end Access

open Access (ok_bind)

namespace Window

/-- The window without its proofs. -/
def bare (window : Window) : BareWindow :=
  ⟨window.slots.toList, window.capacity, window.head, window.count⟩

variable (window : Window)

theorem push_bare (reading : Float32) :
    window.bare.push reading = .ok (window.push reading).bare := by
  have below : window.head < 32 := window.head_lt.trans_le window.capacity_le
  have inside : window.bare.head < window.bare.slots.length := by
    simpa [bare] using below
  have capacityPos : 0 < window.bare.capacity := window.capacity_pos
  have written : window.bare.slots.set window.bare.head reading =
      (window.push reading).bare.slots :=
    (Vector.toList_set below).symm
  rw [BareWindow.push, Access.write_of_lt inside, ok_bind, Access.mod_of_pos capacityPos, ok_bind,
    written]
  rfl

theorem slot_bare (offset : ℕ) :
    window.bare.slot offset = .ok ((window.slot? offset).map Fin.val) := by
  rw [BareWindow.slot, slot?]
  have capacityPos : 0 < window.bare.capacity := window.capacity_pos
  have countLe : window.bare.count ≤ window.bare.capacity := window.count_le
  by_cases held : offset < window.count
  · have heldBare : offset < window.bare.count := held
    rw [if_pos held, if_pos heldBare, Access.sub_of_le (by omega), ok_bind,
      Access.sub_of_le (by omega), ok_bind, Access.mod_of_pos capacityPos, ok_bind]
    rfl
  · have missing : ¬offset < window.bare.count := held
    rw [if_neg held, if_neg missing]
    rfl

theorem get_bare (offset : ℕ) : window.bare.get offset = .ok (window.get? offset) := by
  rw [BareWindow.get, slot_bare, ok_bind, get?]
  cases window.slot? offset with
  | none => rfl
  | some slot =>
      have read : Access.read window.bare.slots slot = .ok window.slots[slot] := by
        simp [Access.read, bare]
      simp only [Option.map_some, read, ok_bind]
      rfl

theorem riseAt_bare (offset : ℕ) : window.bare.riseAt offset = .ok (window.riseAt? offset) := by
  rw [BareWindow.riseAt, get_bare, ok_bind, get_bare, ok_bind, riseAt?]
  cases window.get? offset <;> cases window.get? (offset + 1) <;> rfl

theorem steepest_bare : window.bare.steepest = .ok window.steepest? := by
  rw [BareWindow.steepest, riseAt_bare, ok_bind, steepest?]
  cases window.riseAt? 0 with
  | none => rfl
  | some newest =>
      have walk : (List.range' 1 (window.bare.count - 2)).foldlM (fun best offset => do
            return (← window.bare.riseAt offset).elim best best.steeper) newest =
          (.ok (((List.range' 1 (window.count - 2)).filterMap window.riseAt?).foldl
            Rise.steeper newest) : Access Rise) := by
        simp only [riseAt_bare, ok_bind, List.foldlM_pure, List.foldl_filterMap]
        refine congrArg Except.ok (List.foldl_ext _ _ _ ?_)
        intro best offset _
        cases window.riseAt? offset <;> rfl
      simp only [walk, ok_bind]
      rfl

theorem age_bare (offset : ℕ) :
    window.bare.age offset = .ok ((window.age? offset).getD 0) := by
  rw [BareWindow.age, slot_bare, ok_bind, age?]
  cases window.slot? offset with
  | none => rfl
  | some slot => rfl

theorem resize_bare (requested : Int) :
    window.bare.resize requested = (window.resize requested).toOption.map bare := by
  rw [BareWindow.resize, resize]
  split <;> rfl

theorem fit_bare (length : ℕ) :
    window.bare.fit length = (window.fit length).toOption.map bare := by
  rw [BareWindow.fit, fit, resize_bare]
  by_cases same : length = window.capacity
  · have sameBare : length = window.bare.capacity := same
    rw [if_pos same, if_pos sameBare]
    rfl
  · have otherBare : ¬length = window.bare.capacity := same
    rw [if_neg same, if_neg otherBare]

end Window

/-- How channels forget their proofs, and how settings and a window are replaced without them. -/
structure Stripping (Channel Settings Bare : Type) [WindowChannel Channel Settings] where
  bare : Channel → Bare
  replace : Bare → Settings → BareWindow → Bare
  replace_bare (channel : Channel) (settings : Settings) (window : Window) (observed : Bool) :
    replace (bare channel) settings window.bare =
      bare (WindowChannel.replace channel settings window observed)

namespace Stripping

variable {Channel Settings Bare : Type} [WindowChannel Channel Settings]
  (stripping : Stripping Channel Settings Bare) (channel : Channel)

/-- To take in a reading passes all tests. -/
theorem sample_bare (reading : Float32) :
    ((WindowChannel.window channel).bare.push reading >>= fun pushed =>
        .ok (stripping.replace (stripping.bare channel) (WindowChannel.settings channel) pushed) :
          Access Bare) =
      .ok (stripping.bare (WindowChannel.sample channel reading)) := by
  rw [Window.push_bare, ok_bind, stripping.replace_bare channel _ _ _, WindowChannel.sample]

/-- A length is accepted or refused alike with and without proofs. -/
theorem resize_bare (length : ℤ) :
    (match (WindowChannel.window channel).bare.resize length with
      | some window =>
        stripping.replace (stripping.bare channel) (WindowChannel.settings channel) window
      | none => stripping.bare channel) =
      stripping.bare (settle channel (WindowChannel.resize channel length)).1 := by
  rw [Window.resize_bare, WindowChannel.resize]
  cases (WindowChannel.window channel).resize length with
  | error refusal => rfl
  | ok window => exact stripping.replace_bare channel _ window _

theorem reconfigure_bare [WindowSettings Settings] (settings : Settings) :
    (match (WindowChannel.window channel).bare.fit (WindowSettings.windowLength settings) with
      | some window => stripping.replace (stripping.bare channel) settings window
      | none => stripping.bare channel) =
      stripping.bare (settle channel (WindowChannel.reconfigure channel settings)).1 := by
  rw [Window.fit_bare, WindowChannel.reconfigure_eq]
  cases (WindowChannel.window channel).fit (WindowSettings.windowLength settings) with
  | error refusal => rfl
  | ok window => exact stripping.replace_bare channel settings window _

end Stripping

namespace Axis

variable {axis : Axis} {x : Float32}

theorem not_outside (inside : axis.bin axis.first < x) :
    ¬(x.isNaN = true ∨ x ≤ axis.bin axis.first) := by
  rintro (missing | le)
  · rw [(Single.lt_iff.mp inside).2.1] at missing
    contradiction
  · exact Single.not_le_of_lt inside le

/-- Neighbouring positions are apart, so that the way between them can be divided by. -/
theorem Located.bare {cell : Cell axis.size} (located : axis.Located x cell) :
    BareCell.locate axis.bins x = .ok ⟨cell.lower, cell.upper, cell.fraction⟩ := by
  have readFirst : Access.read axis.bins 0 = .ok (axis.bin axis.first) :=
    Access.read_get axis.bins axis.first
  have readLast : Access.read axis.bins (axis.bins.length - 1) = .ok (axis.bin axis.last) :=
    Access.read_get axis.bins axis.last
  rw [BareCell.locate, Access.sub_of_le axis.size_pos, ok_bind, readFirst, ok_bind]
  cases located with
  | first outside =>
      rw [if_pos outside]
      rfl
  | last inside beyond =>
      rw [if_neg (not_outside inside), readLast, ok_bind, if_pos beyond]
      rfl
  | @between lower upper inside short partition next above below =>
      have notBeyond : ¬axis.bin axis.last ≤ x := Single.not_le_of_lt short
      have lowerEq : (upper : ℕ) - 1 = lower := by omega
      have apart : 0.0 < axis.bin upper - axis.bin lower := by
        have lowerFinite := axis.isFinite_bin lower
        have upperFinite := axis.isFinite_bin upper
        have lt : Single.toRat (axis.bin lower) < Single.toRat (axis.bin upper) :=
          (Single.le_iff.mp above).2.2.trans_lt (Single.lt_iff.mp below).2.2
        rw [Single.lt_iff, Single.toRat_zero]
        exact ⟨by decide, (Single.standsFor_sub upperFinite lowerFinite).1,
          Single.sub_pos_of_lt lowerFinite upperFinite lt⟩
      rw [if_neg (not_outside inside), readLast, ok_bind, if_neg notBeyond]
      simp only [← partition]
      rw [Access.sub_of_le (by omega), ok_bind, lowerEq, Access.read_get axis.bins lower, ok_bind,
        Access.read_get axis.bins upper, ok_bind]
      change (Access.div (x - axis.bin lower) (axis.bin upper - axis.bin lower) >>= _) = _
      rw [Access.div_of_pos apart, ok_bind]
      rfl

end Axis

namespace Grid

/-- The grid without its proofs. -/
def bare (grid : Grid) : BareGrid :=
  ⟨grid.before.bins, grid.after.bins, grid.values⟩

variable (grid : Grid)

theorem value_bare (row : Fin grid.before.size) (column : Fin grid.after.size) :
    grid.bare.value row column = .ok (grid.value row column) :=
  Access.read_get grid.values ⟨_, _⟩

theorem lookup_bare (before after : Float32) :
    grid.bare.lookup before after = .ok (grid.lookup before after) := by
  have row : BareCell.locate grid.bare.before before = .ok _ := (grid.before.located before).bare
  have column : BareCell.locate grid.bare.after after = .ok _ := (grid.after.located after).bare
  rw [BareGrid.lookup, row, ok_bind, column, ok_bind]
  simp only [value_bare, ok_bind]
  rfl

end Grid

namespace Curve

/-- The curve without its proofs. -/
def bare (curve : Curve) : CurveData :=
  ⟨curve.ages.bins, curve.multipliers⟩

variable (curve : Curve)

theorem multiplier_bare (index : Fin curve.ages.size) :
    Access.read curve.bare.multipliers index = .ok (curve.multiplier index) :=
  Access.read_get curve.multipliers (index.cast curve.length_multipliers.symm)

theorem lookup_bare (age : Float32) : curve.bare.lookup age = .ok (curve.lookup age) := by
  have located : BareCell.locate curve.bare.bins age = .ok _ := (curve.ages.located age).bare
  rw [CurveData.lookup, located, ok_bind]
  simp only [multiplier_bare, ok_bind]
  rfl

end Curve

namespace Smoothing

variable (smoothing : Smoothing)

theorem share_pos : 0.0 < smoothing.share := by
  rcases smoothing.share_spec with ⟨finite, large⟩
  rw [Single.lt_iff, Single.toRat_zero]
  exact ⟨by decide, (Single.standsFor_of_isFinite finite).1, by linarith⟩

/-- Whatever the period is, it is divided by at least one. -/
theorem ofInt_cycles_pos : 0.0 < Float32.ofInt smoothing.cycles := by
  rcases smoothing.ofInt_cycles_large with ⟨known, large⟩
  rw [Single.lt_iff, Single.toRat_zero]
  exact ⟨by decide, known, by linarith⟩

end Smoothing

namespace Throttle

/-- The channel without its proofs, and with a table in place of what it says. -/
def bare (channel : Throttle) (grid : BareGrid) : BareThrottle :=
  ⟨channel.settings, grid, channel.window.bare, channel.pump⟩

def stripping (grid : BareGrid) : Stripping Throttle ThrottleSettings BareThrottle where
  bare channel := channel.bare grid
  replace channel settings window := { channel with settings, window }
  replace_bare _ _ _ _ := rfl

variable {channel : Throttle} {grid : Grid}

theorem sample_bare (reading : Float32) :
    (channel.bare grid.bare).sample reading = .ok ((channel.sample reading).bare grid.bare) :=
  (stripping grid.bare).sample_bare channel reading

theorem inject_bare (charge : Float32) :
    (channel.bare grid.bare).inject charge =
      .ok ({ channel with pump := channel.charged charge }.bare grid.bare,
        channel.injected charge) := by
  rw [BareThrottle.inject, charged, injected]
  by_cases enabled : channel.settings.smoothing.isEnabled = true
  · have enabledBare : (channel.bare grid.bare).settings.smoothing.isEnabled = true := enabled
    simp only [if_pos enabledBare]
    rw [Access.div_of_pos (Smoothing.share_pos _), ok_bind,
      Access.div_of_pos (Smoothing.ofInt_cycles_pos _), ok_bind, if_pos enabled, if_pos enabled]
    rfl
  · have disabledBare : ¬(channel.bare grid.bare).settings.smoothing.isEnabled = true := enabled
    simp only [if_neg disabledBare]
    rw [if_neg enabled, if_neg enabled]
    rfl

theorem compute_bare (uses : channel.table = grid.lookup) :
    (channel.bare grid.bare).compute =
      .ok (channel.compute.channel.bare grid.bare, channel.compute.correction) := by
  have walked : (channel.bare grid.bare).window.steepest = .ok _ := channel.window.steepest_bare
  rw [BareThrottle.compute, walked, ok_bind, compute]
  cases channel.window.steepest? with
  | none => rfl
  | some rise =>
      have found : (channel.bare grid.bare).grid.lookup rise.before rise.after =
          .ok (channel.table rise.before rise.after) := by
        rw [uses]
        exact grid.lookup_bare rise.before rise.after
      simp only [found, ok_bind]
      exact inject_bare (channel.charge rise)

/-- Operations change the settings, the window and the pump, but not the table. -/
theorem table_apply (channel : Throttle) (operation : Operation ThrottleSettings) :
    (channel.apply operation).1.table = channel.table := by
  rw [apply_eq]
  exact WindowChannel.kept_apply channel (fun _ _ _ _ => rfl) (fun _ _ => rfl) (fun _ => rfl)
    (fun _ => rfl) operation

theorem apply_bare (uses : channel.table = grid.lookup)
    (operation : Operation ThrottleSettings) :
    (channel.bare grid.bare).apply operation =
      .ok ((channel.apply operation).1.bare grid.bare) := by
  cases operation with
  | sample reading => exact sample_bare reading
  | compute =>
      rw [BareThrottle.apply, compute_bare uses, ok_bind]
      rfl
  | endCycle => rfl
  | reset => rfl
  | resize length =>
      exact congrArg Except.ok ((stripping grid.bare).resize_bare channel length)
  | reconfigure settings =>
      exact congrArg Except.ok ((stripping grid.bare).reconfigure_bare channel settings)
  | observe observed => rfl

end Throttle

namespace Load

/-- The channel without its proofs, and with a curve in place of what it says. -/
def bare (channel : Load) (curve : CurveData) : BareLoad :=
  ⟨channel.settings, curve, channel.window.bare⟩

def stripping (curve : CurveData) : Stripping Load LoadSettings BareLoad where
  bare channel := channel.bare curve
  replace channel settings window := { channel with settings, window }
  replace_bare _ _ _ _ := rfl

variable {channel : Load} {curve : Curve}

theorem sample_bare (reading : Float32) :
    (channel.bare curve.bare).sample reading = .ok ((channel.sample reading).bare curve.bare) :=
  (stripping curve.bare).sample_bare channel reading

theorem compute_bare (uses : channel.taper = curve.lookup) :
    (channel.bare curve.bare).compute = .ok channel.compute.correction := by
  have walked : (channel.bare curve.bare).window.steepest = .ok _ := channel.window.steepest_bare
  rw [BareLoad.compute, walked, ok_bind, compute]
  cases channel.window.steepest? with
  | none => rfl
  | some rise =>
      have aged : (channel.bare curve.bare).window.age rise.offset =
          .ok ((channel.window.age? rise.offset).getD 0) := channel.window.age_bare rise.offset
      have found (age : Float32) : (channel.bare curve.bare).curve.lookup age =
          .ok (channel.taper age) := by
        rw [uses]
        exact curve.lookup_bare age
      simp only [aged, ok_bind, found, assess]
      change (if channel.settings.riseThreshold < channel.scaled rise then _
        else if channel.scaled rise < -channel.settings.dropThreshold then _ else _) = _
      split
      · rfl
      · split <;> rfl

/-- Operations change the settings and the window, but not the taper. -/
theorem taper_apply (channel : Load) (operation : Operation LoadSettings) :
    (channel.apply operation).1.taper = channel.taper := by
  rw [apply_eq]
  exact WindowChannel.kept_apply channel (fun _ _ _ _ => rfl) (fun _ _ => rfl) (fun _ => rfl)
    (fun _ => rfl) operation

theorem apply_bare (uses : channel.taper = curve.lookup) (operation : Operation LoadSettings) :
    (channel.bare curve.bare).apply operation =
      .ok ((channel.apply operation).1.bare curve.bare) := by
  cases operation with
  | sample reading => exact sample_bare reading
  | compute =>
      rw [BareLoad.apply, compute_bare uses, ok_bind, apply, channel_compute]
      rfl
  | endCycle => rfl
  | reset => rfl
  | resize length =>
      exact congrArg Except.ok ((stripping curve.bare).resize_bare channel length)
  | reconfigure settings =>
      exact congrArg Except.ok ((stripping curve.bare).reconfigure_bare channel settings)
  | observe observed => rfl

end Load

namespace Engine

/-- The engine without its proofs. -/
def bare (engine : Engine) (grid : BareGrid) (curve : CurveData) : BareEngine :=
  ⟨engine.throttle.bare grid, engine.load.bare curve, engine.held, engine.cycles⟩

/-- That the channels ask a grid and a curve. -/
structure Uses (engine : Engine) (grid : Grid) (curve : Curve) : Prop where
  table : engine.throttle.table = grid.lookup
  taper : engine.load.taper = curve.lookup

variable {engine : Engine} {grid : Grid} {curve : Curve}

namespace Uses

theorem tick (uses : engine.Uses grid curve) (sample : Sample) :
    (engine.tick sample).engine.Uses grid curve := by
  constructor
  · rw [throttle_tick, Throttle.turn_eq]
    exact uses.table
  · rw [load_tick]
    cases sample.loadInput with
    | none => exact uses.taper
    | some reading => exact uses.taper

theorem after (uses : engine.Uses grid curve) (trace : List Sample) :
    (engine.after trace).Uses grid curve := by
  apply engine.after_induction fun _ current => current.Uses grid curve
  · exact uses
  · intro earlier sample past
    exact past.tick sample

theorem apply (uses : engine.Uses grid curve) (action : EngineAction) :
    (engine.apply action).1.Uses grid curve := by
  cases action with
  | tick sample => exact uses.tick sample
  | run trace => exact uses.after trace
  | reset => exact ⟨uses.table, uses.taper⟩
  | throttle operation =>
      exact ⟨(engine.throttle.table_apply operation).trans uses.table, uses.taper⟩
  | load operation =>
      exact ⟨uses.table, (engine.load.taper_apply operation).trans uses.taper⟩

end Uses

theorem tick_bare (uses : engine.Uses grid curve) (sample : Sample) :
    (engine.bare grid.bare curve.bare).tick sample =
      .ok ((engine.tick sample).engine.bare grid.bare curve.bare,
        (engine.tick sample).correction) := by
  have sampled : (engine.bare grid.bare curve.bare).throttle.sample sample.throttle = .ok _ :=
    Throttle.sample_bare sample.throttle
  have computed : ((engine.throttle.sample sample.throttle).bare grid.bare).compute = .ok _ :=
    Throttle.compute_bare uses.table
  have loaded : (engine.bare grid.bare curve.bare).load.sample sample.load = .ok _ :=
    Load.sample_bare sample.load
  have answered : ((engine.load.sample sample.load).bare curve.bare).compute = .ok _ :=
    Load.compute_bare uses.taper
  rw [BareEngine.tick, sampled, ok_bind, computed, ok_bind, Engine.tick]
  cases sample.cycleEnd with
  | false => rfl
  | true =>
      simp only [loaded, ok_bind, answered, Load.channel_compute]
      rfl

theorem run_bare (uses : engine.Uses grid curve) (trace : List Sample) :
    (engine.bare grid.bare curve.bare).run trace =
      .ok ((engine.after trace).bare grid.bare curve.bare,
        (engine.run trace).map Tick.correction) := by
  induction trace generalizing engine with
  | nil => rfl
  | cons sample rest inductionHypothesis =>
      rw [BareEngine.run, tick_bare uses, ok_bind]
      simp only [inductionHypothesis (uses.tick sample), ok_bind]
      rfl

/-- An action gives the same with and without proofs, so it passes all tests. -/
theorem apply_bare (uses : engine.Uses grid curve) (action : EngineAction) :
    (engine.bare grid.bare curve.bare).apply action =
      .ok ((engine.apply action).1.bare grid.bare curve.bare, (engine.apply action).2) := by
  cases action with
  | tick sample =>
      rw [BareEngine.apply, tick_bare uses, ok_bind]
      rfl
  | run trace => exact run_bare uses trace
  | reset => rfl
  | throttle operation =>
      have applied : (engine.bare grid.bare curve.bare).throttle.apply operation = .ok _ :=
        Throttle.apply_bare uses.table operation
      rw [BareEngine.apply, applied, ok_bind]
      rfl
  | load operation =>
      have applied : (engine.bare grid.bare curve.bare).load.apply operation = .ok _ :=
        Load.apply_bare uses.taper operation
      rw [BareEngine.apply, applied, ok_bind]
      rfl

theorem perform_bare (uses : engine.Uses grid curve) (actions : List EngineAction) :
    (engine.bare grid.bare curve.bare).perform actions =
      .ok ((engine.perform actions).1.bare grid.bare curve.bare, (engine.perform actions).2) := by
  induction actions generalizing engine with
  | nil => rfl
  | cons action rest inductionHypothesis =>
      rw [BareEngine.perform, apply_bare uses, ok_bind]
      simp only [inductionHypothesis (uses.apply action), ok_bind]
      rfl

end Engine

section Building

theorem Window.bare_ofLength {length : ℕ} {window : Window}
    (made : ofLength length = .ok window) : window.bare = .ofLength length := by
  rw [ofLength, resize] at made
  split at made
  · rename_i valid
    rw [← Except.ok.inj made]
    have toNat : (request length).toNat = length := by
      simp only [request, longestRequest] at valid ⊢
      omega
    simp [bare, BareWindow.ofLength, empty, toNat, maxLength]
  · contradiction

theorem Throttle.bare_create {settings : ThrottleSettings} {table : Float32 → Float32 → Float32}
    {channel : Throttle} (created : create settings table = .ok channel) (grid : BareGrid) :
    channel.bare grid = ⟨settings, grid, .ofLength settings.windowLength, Pump.idle⟩ := by
  rw [create, map_eq_ok_iff] at created
  obtain ⟨window, made, rfl⟩ := created
  rw [bare, Window.bare_ofLength made]

theorem Load.bare_create {settings : LoadSettings} {taper : Float32 → Float32} {channel : Load}
    (created : create settings taper = .ok channel) (curve : CurveData) :
    channel.bare curve = ⟨settings, curve, .ofLength settings.windowLength⟩ := by
  rw [create, map_eq_ok_iff] at created
  obtain ⟨window, made, rfl⟩ := created
  rw [bare, Window.bare_ofLength made]

namespace Settings

variable {settings : Settings} {table : Option GridData} {taper : Option CurveData}

/-- What is built is, without its proofs, what the settings describe. -/
theorem bareEngine_of_build {engine : Engine} (built : settings.build table taper = .ok engine) :
    ∃ grid curve, engine.Uses grid curve ∧
      settings.bareEngine table taper = engine.bare grid.bare curve.bare := by
  rcases build_eq_ok_iff.mp built with
    ⟨grid, gridMade, curve, curveMade, throttle, throttleMade, load, loadMade, rfl⟩
  rcases Grid.ofData_eq_ok_iff.mp gridMade with ⟨_, beforeEq, afterEq, valuesEq⟩
  rcases Curve.ofData_eq_ok_iff.mp curveMade with ⟨agesEq, multipliersEq⟩
  refine ⟨grid, curve, ⟨(Throttle.create_eq_ok throttleMade).2.1,
    (Load.create_eq_ok loadMade).2.1⟩, ?_⟩
  rw [Engine.bare, Engine.create, Throttle.bare_create throttleMade, Load.bare_create loadMade,
    Grid.bare, Curve.bare, beforeEq, afterEq, valuesEq, agesEq, multipliersEq]
  rfl

/--
Settings that pass their check, with or without checked tables beside them, build an engine whose
windows have the lengths in the settings. Whatever is then done with the engine, the engine that the
settings describe without any proofs passes all tests of indices, differences and divisors on its
way, and it ends up with the same state and the same corrections.
-/
theorem perform_bareEngine (valid : settings.check = .ok ())
    (tableValid : ∀ data ∈ table, data.check = .ok ())
    (taperValid : ∀ data ∈ taper, data.check = .ok ()) :
    ∃ engine, settings.build table taper = .ok engine ∧
      engine.throttle.window.capacity = settings.throttle.windowLength ∧
      engine.load.window.capacity = settings.load.windowLength ∧
      ∀ actions : List EngineAction,
        let bare := settings.bareEngine table taper
        bare.perform actions =
          .ok ((engine.perform actions).1.bare bare.throttle.grid bare.load.curve,
            (engine.perform actions).2) := by
  obtain ⟨engine, built⟩ := exists_build valid tableValid taperValid
  rcases channels_of_build built with ⟨_, throttleLength, _, loadLength⟩
  refine ⟨engine, built, throttleLength, loadLength, ?_⟩
  intro actions
  obtain ⟨grid, curve, uses, described⟩ := bareEngine_of_build built
  simp only [described]
  exact Engine.perform_bare uses actions

/-- A table beside the default settings, refused lengths and settings that no check would pass. -/
theorem perform_bareEngine_after_refusals :
    let settings : Settings := {}
    let table : GridData := ⟨[0.0, 50.0], [0.0, 50.0], [[0.0, 4.0], [-1.0, 2.5]]⟩
    let actions : List EngineAction :=
      [.tick ⟨5.0, 20.0, false⟩, .throttle (.resize 0), .load (.resize 2),
        .throttle (.reconfigure { windowLength := 40 }),
        .throttle (.reconfigure { windowLength := 3, smoothing := ⟨-7, 0.0 / 0.0⟩ }),
        .run [⟨80.0, 60.0, true⟩, ⟨10.0, 40.0, true⟩], .reset]
    settings.check = .ok () ∧ table.check = .ok () ∧
      ∃ outcome, (settings.bareEngine (some table) none).perform actions = .ok outcome := by
  intro settings table actions
  have valid : settings.check = .ok () := by decide +kernel
  have tableValid : table.check = .ok () := by decide +kernel
  refine ⟨valid, tableValid, ?_⟩
  rcases @perform_bareEngine settings (some table) none valid (by simpa using tableValid)
    (by simp) with ⟨engine, _, _, _, passes⟩
  exact ⟨_, passes actions⟩

end Settings

end Building

end TransientFuel
