import TransientFuel.Proofs.PumpInvariant

/-!
# The periods of the pump

While the settings stay as they are, only two things reach the pump: charges and the ends of engine
cycles. The ledger of a run lists them in order, each with the pump as it stood before. Whatever
holds of the idle pump and survives both kinds of entries holds after every run, and it may speak of
the whole ledger: `steady_induction`.

The countdown depends on the number of finished cycles only. It starts at zero and not at the length
of a period, so that the first cycle that ends starts a period, and from then on every period has
its full length: `replay_period_schedule`.
-/

namespace TransientFuel

namespace Operation

variable {Settings : Type}

/-- Whether an operation leaves the settings alone and forgets nothing of the pump. -/
def isSteady : Operation Settings → Bool
  | .reset => false
  | .reconfigure _ => false
  | _ => true

/-- Whether an operation is the end of an engine cycle. -/
def endsCycle : Operation Settings → Bool
  | .endCycle => true
  | _ => false

end Operation

/-- What reaches the pump. -/
inductive PumpEvent where
  /-- A charge, before it is spread. -/
  | charge (amount : Float32)
  /-- The end of an engine cycle. -/
  | cycleEnd

/-- An event and the pump that it met. -/
structure LedgerEntry where
  pump : Pump
  event : PumpEvent

namespace LedgerEntry

def isCycleEnd (entry : LedgerEntry) : Bool :=
  match entry.event with
  | .charge _ => false
  | .cycleEnd => true

end LedgerEntry

namespace Pump

def receive (pump : Pump) (smoothing : Smoothing) : PumpEvent → Pump
  | .charge amount => pump.note smoothing amount
  | .cycleEnd => pump.endCycle smoothing

/-- The end of a cycle that starts a new period: what was injected is taken off. -/
structure Renewed (before after : Pump) (smoothing : Smoothing) : Prop where
  accumulated : after.accumulated =
    if before.owedAfterCycle - before.injectedPeak < residue then 0.0
    else before.owedAfterCycle - before.injectedPeak
  cyclePeak : after.cyclePeak = 0.0
  periodPeak : after.periodPeak = 0.0
  injectedPeak : after.injectedPeak = 0.0
  countdown : after.countdown = smoothing.cycles

/-- The end of a cycle within a period: the period's peak and what was injected stay on record. -/
structure Continued (before after : Pump) : Prop where
  accumulated : after.accumulated = before.owedAfterCycle
  cyclePeak : after.cyclePeak = 0.0
  periodPeak : after.periodPeak = before.peakAfterCycle
  injectedPeak : after.injectedPeak = before.injectedPeak
  countdown : after.countdown = before.countdown - 1

variable {pump : Pump} {smoothing : Smoothing}

theorem renewed_of_last (last : pump.countdown ≤ 1) :
    pump.Renewed (pump.endCycle smoothing) smoothing := by
  rw [endCycle, if_pos (by omega)]
  exact ⟨rfl, rfl, rfl, rfl, rfl⟩

theorem continued_of_more (more : 1 < pump.countdown) :
    pump.Continued (pump.endCycle smoothing) := by
  rw [endCycle, if_neg (by omega)]
  exact ⟨rfl, rfl, rfl, rfl, rfl⟩

/-- With no more cycles left than a period has, the countdown tells which of the two happens. -/
theorem renewed_iff (bounded : pump.countdown ≤ smoothing.cycles) :
    pump.Renewed (pump.endCycle smoothing) smoothing ↔ pump.countdown ≤ 1 := by
  constructor
  · intro renewed
    by_contra! more
    have := renewed.countdown.symm.trans (continued_of_more more).countdown
    omega
  · intro last
    exact renewed_of_last last

theorem continued_iff : pump.Continued (pump.endCycle smoothing) ↔ 1 < pump.countdown := by
  constructor
  · intro continued
    by_contra! last
    have := continued.countdown.symm.trans (renewed_of_last last).countdown
    have := smoothing.one_le_cycles
    omega
  · intro more
    exact continued_of_more more

end Pump

namespace Throttle

/-- What an operation hands to the pump. -/
def event? (channel : Throttle) : Operation ThrottleSettings → Option PumpEvent
  | .compute => channel.window.steepest?.map fun rise => .charge (channel.charge rise)
  | .endCycle => some .cycleEnd
  | _ => none

/-- The entry that an operation makes. -/
def recorded? (channel : Throttle) (operation : Operation ThrottleSettings) : Option LedgerEntry :=
  (channel.event? operation).map fun event => ⟨channel.pump, event⟩

/-- The charges and the finished cycles of a run, in order. -/
def ledger (channel : Throttle) : List (Operation ThrottleSettings) → List LedgerEntry
  | [] => []
  | operation :: rest =>
    (channel.recorded? operation).toList ++ (channel.apply operation).1.ledger rest

/-- A channel as it is created, or as a reset leaves it. -/
inductive Begun : Throttle → Prop
  | created {settings : ThrottleSettings} {table : Float32 → Float32 → Float32}
      {channel : Throttle} (made : create settings table = .ok channel) : Begun channel
  | reset (channel : Throttle) : Begun channel.reset

theorem Begun.pump_eq {channel : Throttle} (begun : channel.Begun) :
    channel.pump = Pump.idle := by
  cases begun with
  | created made => exact (create_eq_ok made).2.2.1
  | reset channel => rfl

section Steady

variable {channel start : Throttle} {operation : Operation ThrottleSettings}
  {operations : List (Operation ThrottleSettings)}

theorem ledger_concat (earlier : List (Operation ThrottleSettings)) :
    start.ledger (earlier ++ [operation]) =
      start.ledger earlier ++ ((replay apply start earlier).1.recorded? operation).toList := by
  induction earlier generalizing start with
  | nil => simp [ledger, replay]
  | cons first rest inductionHypothesis =>
      simp [ledger, replay, inductionHypothesis]

/-- What a steady operation does to the settings and to the pump. -/
theorem apply_of_steady (enabled : channel.settings.smoothing.isEnabled = true)
    (steady : operation.isSteady = true) :
    (channel.apply operation).1.settings = channel.settings ∧
      (channel.apply operation).1.pump =
        (channel.event? operation).elim channel.pump
          (channel.pump.receive channel.settings.smoothing) := by
  cases operation with
  | sample reading => exact ⟨rfl, rfl⟩
  | compute =>
      simp only [apply, compute, event?]
      cases channel.window.steepest? with
      | none => exact ⟨rfl, rfl⟩
      | some rise => exact ⟨rfl, if_pos enabled⟩
  | endCycle => exact ⟨rfl, rfl⟩
  | reset => contradiction
  | resize length =>
      simp only [apply, resize, event?]
      cases channel.window.resize length <;> exact ⟨rfl, rfl⟩
  | reconfigure settings => contradiction
  | observe observed => exact ⟨rfl, rfl⟩

/--
What holds of the idle pump and survives each event holds after every run of steady operations. It
may depend on the ledger of the run.
-/
theorem steady_induction (begun : start.Begun)
    (enabled : start.settings.smoothing.isEnabled = true)
    (Holds : List LedgerEntry → Pump → Prop) (atStart : Holds [] Pump.idle)
    (afterEvent : ∀ entries pump event, Holds entries pump →
      Holds (entries ++ [⟨pump, event⟩]) (pump.receive start.settings.smoothing event))
    (steady : ∀ operation ∈ operations, operation.isSteady = true) :
    (replay apply start operations).1.settings = start.settings ∧
      Holds (start.ledger operations) (replay apply start operations).1.pump := by
  revert steady
  apply replay_induction fun operations (channel : Throttle) =>
    (∀ operation ∈ operations, operation.isSteady = true) →
      channel.settings = start.settings ∧ Holds (start.ledger operations) channel.pump
  · intro _
    rw [begun.pump_eq]
    exact ⟨rfl, atStart⟩
  · intro earlier operation past steady
    simp only [List.mem_append, List.mem_singleton] at steady
    rcases past (fun member isMember => steady member (Or.inl isMember)) with ⟨same, holds⟩
    rcases apply_of_steady (by rw [same]; exact enabled) (steady operation (Or.inr rfl)) with
      ⟨settingsEq, pumpEq⟩
    refine ⟨settingsEq.trans same, ?_⟩
    rw [pumpEq, ledger_concat, recorded?, same]
    cases (replay apply start earlier).1.event? operation with
    | none => simpa using holds
    | some event => exact afterEvent _ _ _ holds

/-- The ledger has an entry for each cycle that has ended. -/
theorem countP_ledger (operations : List (Operation ThrottleSettings)) :
    (start.ledger operations).countP LedgerEntry.isCycleEnd =
      operations.countP Operation.endsCycle := by
  induction operations generalizing start with
  | nil => rfl
  | cons operation rest inductionHypothesis =>
      rw [ledger, List.countP_append, inductionHypothesis, List.countP_cons, add_comm]
      congr 1
      cases operation <;> simp [recorded?, event?, LedgerEntry.isCycleEnd, Operation.endsCycle]

end Steady

end Throttle

namespace Smoothing

variable (smoothing : Smoothing)

/-- The countdown after a number of finished cycles. -/
def countdownAfter (ended : ℕ) : ℤ :=
  if ended = 0 then 0 else smoothing.cycles - ((ended : ℤ) - 1) % smoothing.cycles

theorem countdownAfter_le (ended : ℕ) : smoothing.countdownAfter ended ≤ smoothing.cycles := by
  have positive := smoothing.one_le_cycles
  have := Int.emod_nonneg ((ended : ℤ) - 1) (show smoothing.cycles ≠ 0 by omega)
  rw [countdownAfter]
  split <;> omega

/-- One more cycle moves on in the period, or back to its start. -/
theorem emod_cycles_cases (ended : ℕ) :
    ((ended : ℤ) - 1) % smoothing.cycles + 1 < smoothing.cycles ∧
        (ended : ℤ) % smoothing.cycles = ((ended : ℤ) - 1) % smoothing.cycles + 1 ∨
      ((ended : ℤ) - 1) % smoothing.cycles + 1 = smoothing.cycles ∧
        (ended : ℤ) % smoothing.cycles = 0 := by
  have positive := smoothing.one_le_cycles
  have nonneg := Int.emod_nonneg ((ended : ℤ) - 1) (show smoothing.cycles ≠ 0 by omega)
  have less := Int.emod_lt_of_pos ((ended : ℤ) - 1) (show 0 < smoothing.cycles by omega)
  have step : (ended : ℤ) % smoothing.cycles =
      (((ended : ℤ) - 1) % smoothing.cycles + 1) % smoothing.cycles := by
    rw [Int.emod_add_emod, sub_add_cancel]
  rw [step]
  rcases (show ((ended : ℤ) - 1) % smoothing.cycles + 1 ≤ smoothing.cycles by omega).lt_or_eq with
    inside | full
  · exact Or.inl ⟨inside, Int.emod_eq_of_lt (by omega) inside⟩
  · exact Or.inr ⟨full, by rw [full, Int.emod_self]⟩

/-- The last cycle of a period comes after a whole number of periods. -/
theorem countdownAfter_le_one_iff (ended : ℕ) :
    smoothing.countdownAfter ended ≤ 1 ↔ (ended : ℤ) % smoothing.cycles = 0 := by
  have positive := smoothing.one_le_cycles
  rw [countdownAfter]
  split
  · rename_i none
    simp [none]
  · have nonneg := Int.emod_nonneg ((ended : ℤ) - 1) (show smoothing.cycles ≠ 0 by omega)
    rcases smoothing.emod_cycles_cases ended with ⟨inside, next⟩ | ⟨full, next⟩ <;> omega

theorem countdownAfter_succ (ended : ℕ) :
    smoothing.countdownAfter (ended + 1) =
      if smoothing.countdownAfter ended ≤ 1 then smoothing.cycles
      else smoothing.countdownAfter ended - 1 := by
  have successor : smoothing.countdownAfter (ended + 1) =
      smoothing.cycles - (ended : ℤ) % smoothing.cycles := by
    rw [countdownAfter, if_neg (Nat.succ_ne_zero ended), Nat.cast_succ, add_sub_cancel_right]
  rw [successor]
  split
  · rename_i last
    rw [(smoothing.countdownAfter_le_one_iff ended).mp last, sub_zero]
  · rename_i more
    have running : ended ≠ 0 := by
      rintro rfl
      simp [countdownAfter] at more
    rw [countdownAfter_le_one_iff] at more
    rw [countdownAfter, if_neg running]
    rcases smoothing.emod_cycles_cases ended with ⟨_, next⟩ | ⟨_, next⟩ <;> omega

end Smoothing

theorem Pump.countdown_endCycle (pump : Pump) (smoothing : Smoothing) :
    (pump.endCycle smoothing).countdown =
      if pump.countdown ≤ 1 then smoothing.cycles else pump.countdown - 1 := by
  split
  · rename_i last
    exact (renewed_of_last last).countdown
  · rename_i more
    exact (continued_of_more (not_le.mp more)).countdown

namespace Throttle

variable {start : Throttle} {operations : List (Operation ThrottleSettings)}

/-- The countdown is a matter of the number of finished cycles. -/
theorem countdown_of_steady (begun : start.Begun)
    (enabled : start.settings.smoothing.isEnabled = true)
    (steady : ∀ operation ∈ operations, operation.isSteady = true) :
    (replay apply start operations).1.settings = start.settings ∧
      (replay apply start operations).1.pump.countdown =
        start.settings.smoothing.countdownAfter (operations.countP Operation.endsCycle) := by
  rw [← start.countP_ledger operations]
  refine steady_induction begun enabled (fun entries pump => pump.countdown =
    start.settings.smoothing.countdownAfter (entries.countP LedgerEntry.isCycleEnd)) rfl ?_ steady
  intro entries pump event past
  cases event with
  | charge amount => simpa [LedgerEntry.isCycleEnd, Pump.receive, Pump.note] using past
  | cycleEnd =>
      simp only [List.countP_append, List.countP_singleton, LedgerEntry.isCycleEnd, if_true,
        Smoothing.countdownAfter_succ, ← past]
      exact pump.countdown_endCycle _

/-- The next cycle that ends starts a new period. -/
def StartsPeriod (channel : Throttle) : Prop :=
  channel.pump.Renewed channel.endCycle.pump channel.settings.smoothing

/-- The next cycle that ends does not end the period. -/
def KeepsPeriod (channel : Throttle) : Prop :=
  channel.pump.Continued channel.endCycle.pump

/-- A period starts after a whole number of periods has gone by. -/
theorem startsPeriod_iff (begun : start.Begun)
    (enabled : start.settings.smoothing.isEnabled = true)
    (steady : ∀ operation ∈ operations, operation.isSteady = true) :
    (replay apply start operations).1.StartsPeriod ↔
      start.settings.smoothing.cycles ∣ operations.countP Operation.endsCycle := by
  rcases countdown_of_steady begun enabled steady with ⟨same, countdown⟩
  rw [StartsPeriod, endCycle, same, Pump.renewed_iff, countdown,
    Smoothing.countdownAfter_le_one_iff, Int.dvd_iff_emod_eq_zero]
  rw [countdown]
  exact start.settings.smoothing.countdownAfter_le _

/--
Take a channel that smooths its charges, as it is created or reset, and any run that neither resets
nor reconfigures it. Nothing but the number of finished cycles decides about the countdown: it is
zero before the first of them, and then it runs from the length of a period down to one, over and
over. The next cycle that ends starts a new period if a whole number of periods' lengths has gone
by, and otherwise the period goes on. So the first cycle that ends starts a period, and from one
start to the next there are as many cycles as a period has.
-/
theorem replay_period_schedule (begun : start.Begun)
    (enabled : start.settings.smoothing.isEnabled = true)
    (steady : ∀ operation ∈ operations, operation.isSteady = true) :
    let period := start.settings.smoothing.cycles
    let ended : ℤ := operations.countP Operation.endsCycle
    let channel := (replay apply start operations).1
    (ended = 0 → channel.pump.countdown = 0) ∧
      (1 ≤ ended → channel.pump.countdown = period - (ended - 1) % period) ∧
      (channel.StartsPeriod ↔ ended % period = 0) ∧
      (channel.KeepsPeriod ↔ ended % period ≠ 0) ∧
      (ended = 0 → channel.StartsPeriod) ∧
      (channel.StartsPeriod → ∀ later : List (Operation ThrottleSettings),
        (∀ operation ∈ later, operation.isSteady = true) →
        ((replay apply start (operations ++ .endCycle :: later)).1.StartsPeriod ↔
          period ∣ later.countP Operation.endsCycle + 1)) := by
  intro period ended channel
  rcases countdown_of_steady begun enabled steady with ⟨same, countdown⟩
  have starts : channel.StartsPeriod ↔ ended % period = 0 := by
    rw [← Int.dvd_iff_emod_eq_zero]
    exact startsPeriod_iff begun enabled steady
  refine ⟨?_, ?_, starts, ?_, ?_, ?_⟩
  · intro none
    rw [countdown, Smoothing.countdownAfter, if_pos (by omega)]
  · intro some
    rw [countdown, Smoothing.countdownAfter, if_neg (by omega)]
  · rw [KeepsPeriod, endCycle, Pump.continued_iff, ← not_le, countdown,
      Smoothing.countdownAfter_le_one_iff]
  · intro none
    rw [starts, none, Int.zero_emod]
  · intro startsNow later steadyLater
    rw [startsPeriod_iff begun enabled ?_]
    · rw [starts, ← Int.dvd_iff_emod_eq_zero] at startsNow
      have counted : ((operations ++ .endCycle :: later).countP Operation.endsCycle : ℤ) =
          ended + (later.countP Operation.endsCycle + 1) := by
        simp [ended, List.countP_cons, Operation.endsCycle]
      rw [counted, Int.dvd_add_right startsNow]
    · intro operation member
      rcases List.mem_append.mp member with earlier | here
      · exact steady operation earlier
      · rcases List.mem_cons.mp here with rfl | inLater
        · rfl
        · exact steadyLater operation inLater

/-- Three cycles to a period, with corrections and a refused window length in between. -/
theorem replay_period_schedule_third_cycle : ∃ start,
    create { windowLength := 2, smoothing := ⟨3, 2.0⟩ } (fun _ _ => 8.0) = .ok start ∧
      (replay apply start [.sample 20.0, .endCycle, .sample 85.0, .compute, .endCycle, .resize 40,
        .endCycle]).1.pump.countdown = 1 ∧
      (replay apply start [.sample 20.0, .endCycle, .sample 85.0, .compute, .endCycle, .resize 40,
        .endCycle]).1.StartsPeriod := by
  obtain ⟨start, created⟩ : ∃ start,
      create { windowLength := 2, smoothing := ⟨3, 2.0⟩ } (fun _ _ => 8.0) = .ok start := ⟨_, rfl⟩
  have settingsEq := (create_eq_ok created).1
  have schedule := @replay_period_schedule _ [.sample 20.0, .endCycle, .sample 85.0, .compute,
    .endCycle, .resize 40, .endCycle] (.created created) (by rw [settingsEq]; decide) (by decide)
  rw [settingsEq] at schedule
  refine ⟨start, created, schedule.2.1 (by decide), schedule.2.2.1.mpr (by decide)⟩

end Throttle
end TransientFuel
