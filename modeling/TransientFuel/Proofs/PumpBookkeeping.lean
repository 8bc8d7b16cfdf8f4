import TransientFuel.Proofs.PumpPeriods

/-!
# What the fields of the pump stand for

The pump keeps three running maxima that are cleared at different times: the largest charge of the
current cycle, the largest charge of the finished cycles of the current period, and the largest
share of the current period. This file reads all three off the ledger of a run, which knows every
charge and every end of a cycle. It also says when a period's peak is all that is owed, so that a
charge that several cycles of a period see is counted once: `replay_peaks_booked`.
-/

namespace TransientFuel

open Single (toRat)

/-- The largest of some amounts and zero, up to the sign of zero; missing amounts do not count. -/
structure PeakOf (amounts : List Float32) (peak : Float32) : Prop where
  nonneg : 0.0 ≤ peak
  covers : ∀ amount ∈ amounts, amount.isNaN = true ∨ amount ≤ peak
  attained : peak == 0.0 ∨ ∃ amount ∈ amounts, peak == amount

namespace PeakOf

variable {amounts earlier later : List Float32} {peak former newer : Float32}

theorem known (peakOf : PeakOf amounts peak) : peak.isNaN = false :=
  (Single.nonneg_iff.mp peakOf.nonneg).1

theorem nil : PeakOf [] 0.0 :=
  ⟨Single.zero_nonneg, by simp, Or.inl (by decide)⟩

/--
The larger of a peak and a newer number. The number may be missing, if it otherwise covers the
amounts that have come in since and is zero or one of them.
-/
theorem join (peakOf : PeakOf earlier former)
    (covers : ∀ amount ∈ later, amount.isNaN = true ∨ amount ≤ newer)
    (attained : newer.isNaN = true ∨ newer == 0.0 ∨ ∃ amount ∈ later, newer == amount) :
    PeakOf (earlier ++ later) (Single.larger newer former) := by
  rcases Single.larger_cases (x := newer) peakOf.known with ⟨larger_eq, weak⟩ | ⟨larger_eq, le⟩
  · rw [larger_eq]
    refine ⟨peakOf.nonneg, ?_, ?_⟩
    · rw [List.forall_mem_append]
      refine ⟨peakOf.covers, ?_⟩
      intro amount member
      apply (covers amount member).imp_right
      intro below
      rcases weak with missing | less
      · rw [Single.le_iff, missing] at below
        simp at below
      · exact Single.le_trans below (Single.le_of_lt less)
    · apply peakOf.attained.imp_right
      rintro ⟨amount, member, same⟩
      exact ⟨amount, List.mem_append_left _ member, same⟩
  · rw [larger_eq]
    refine ⟨Single.le_trans peakOf.nonneg le, ?_, ?_⟩
    · rw [List.forall_mem_append]
      refine ⟨?_, covers⟩
      intro amount member
      apply (peakOf.covers amount member).imp_right
      intro below
      exact Single.le_trans below le
    · have known := (Single.le_iff.mp le).2.1
      apply (attained.resolve_left (Bool.eq_false_iff.mp known)).imp_right
      rintro ⟨amount, member, same⟩
      exact ⟨amount, List.mem_append_right _ member, same⟩

theorem append (peakOf : PeakOf earlier former) (since : PeakOf later newer) :
    PeakOf (earlier ++ later) (Single.larger newer former) :=
  peakOf.join since.covers (Or.inr since.attained)

/-- One more amount of any kind, missing or negative ones included. -/
theorem concat (peakOf : PeakOf earlier former) (amount : Float32) :
    PeakOf (earlier ++ [amount]) (Single.larger amount former) := by
  apply peakOf.join
  · rw [List.forall_mem_singleton]
    cases known : amount.isNaN with
    | true => exact Or.inl rfl
    | false => exact Or.inr (Single.le_refl known)
  · cases known : amount.isNaN with
    | true => exact Or.inl rfl
    | false =>
        exact Or.inr (Or.inr ⟨amount, List.mem_singleton_self _,
          Single.beq_iff.mpr ⟨known, known, rfl⟩⟩)

theorem isFinite (peakOf : PeakOf amounts peak)
    (finite : ∀ amount ∈ amounts, amount.isFinite = true) : peak.isFinite = true := by
  rcases peakOf.attained with zero | ⟨amount, member, same⟩
  · exact Single.isFinite_of_beq zero (by decide)
  · exact Single.isFinite_of_beq same (finite amount member)

end PeakOf

/-- The divisor of the settings if it is a finite number from one on, and otherwise one. -/
def Smoothing.divisorInForce (smoothing : Smoothing) : Float32 :=
  if smoothing.divisor.isFinite = true ∧ 1.0 ≤ smoothing.divisor then smoothing.divisor else 1.0

theorem Smoothing.share_eq (smoothing : Smoothing) :
    smoothing.share = smoothing.divisorInForce := by
  rw [share, divisorInForce]
  cases finite : smoothing.divisor.isFinite with
  | false => simp
  | true =>
      have known := (Single.standsFor_of_isFinite finite).1
      simp only [if_true, true_and, Single.larger_eq_ite, known, Bool.false_eq_true, false_or]
      by_cases below : smoothing.divisor < 1.0
      · rw [if_pos below, if_neg (Single.not_le_of_lt below)]
      · rw [if_neg below, if_pos (Single.le_of_not_lt known (by decide) below)]

namespace LedgerEntry

def charge? (entry : LedgerEntry) : Option Float32 :=
  match entry.event with
  | .charge amount => some amount
  | .cycleEnd => none

/--
The larger of a charge and of what was owed when it came in, over the divisor. A charge that is
missing gives way to what was owed.
-/
def share? (smoothing : Smoothing) (entry : LedgerEntry) : Option Float32 :=
  entry.charge?.map fun charge =>
    (if charge.isNaN = true ∨ charge < entry.pump.accumulated then entry.pump.accumulated
      else charge) / smoothing.divisorInForce

/-- Whether a cycle ended and the countdown was set to the length of a period. -/
def isPeriodEnd (smoothing : Smoothing) (entry : LedgerEntry) : Bool :=
  entry.isCycleEnd && (entry.pump.endCycle smoothing).countdown == smoothing.cycles

end LedgerEntry

namespace Ledger

/-- The entries since a cycle ended last. -/
def sinceCycle (entries : List LedgerEntry) : List LedgerEntry :=
  entries.rtakeWhile fun entry => !entry.isCycleEnd

/-- The entries since a period ended last. -/
def sincePeriod (smoothing : Smoothing) (entries : List LedgerEntry) : List LedgerEntry :=
  entries.rtakeWhile fun entry => !entry.isPeriodEnd smoothing

/-- The entries since a period ended last, up to the cycle that ended last. -/
def finishedCycles (smoothing : Smoothing) (entries : List LedgerEntry) : List LedgerEntry :=
  (sincePeriod smoothing entries).rdropWhile fun entry => !entry.isCycleEnd

/-- What was left owed when a period ended last, and nothing if none has ended. -/
def owedAtStart (smoothing : Smoothing) (entries : List LedgerEntry) : Float32 :=
  (entries.reverse.find? fun entry => entry.isPeriodEnd smoothing).elim 0.0 fun entry =>
    (entry.pump.endCycle smoothing).accumulated

def charges (entries : List LedgerEntry) : List Float32 :=
  entries.filterMap LedgerEntry.charge?

def shares (smoothing : Smoothing) (entries : List LedgerEntry) : List Float32 :=
  entries.filterMap (LedgerEntry.share? smoothing)

variable {smoothing : Smoothing} {entries : List LedgerEntry} {entry : LedgerEntry} {pump : Pump}
  {amount : Float32}

theorem charges_append (earlier later : List LedgerEntry) :
    charges (earlier ++ later) = charges earlier ++ charges later :=
  List.filterMap_append

theorem charges_concat_charge :
    charges (entries ++ [⟨pump, .charge amount⟩]) = charges entries ++ [amount] :=
  charges_append _ _

theorem charges_concat_cycleEnd :
    charges (entries ++ [⟨pump, .cycleEnd⟩]) = charges entries :=
  (charges_append _ _).trans (List.append_nil _)

theorem shares_concat_charge :
    shares smoothing (entries ++ [⟨pump, .charge amount⟩]) =
      shares smoothing entries ++ [pump.injection smoothing amount] := by
  rw [Pump.injection, Single.larger_eq_ite, smoothing.share_eq]
  exact List.filterMap_append

theorem shares_concat_cycleEnd :
    shares smoothing (entries ++ [⟨pump, .cycleEnd⟩]) = shares smoothing entries :=
  List.filterMap_append.trans (List.append_nil _)

theorem sinceCycle_concat : sinceCycle (entries ++ [entry]) =
    if entry.isCycleEnd then [] else sinceCycle entries ++ [entry] := by
  rw [sinceCycle, List.rtakeWhile_concat]
  cases entry.isCycleEnd <;> rfl

theorem sincePeriod_concat : sincePeriod smoothing (entries ++ [entry]) =
    if entry.isPeriodEnd smoothing then [] else sincePeriod smoothing entries ++ [entry] := by
  rw [sincePeriod, List.rtakeWhile_concat]
  cases entry.isPeriodEnd smoothing <;> rfl

theorem finishedCycles_concat : finishedCycles smoothing (entries ++ [entry]) =
    if entry.isPeriodEnd smoothing then []
    else if entry.isCycleEnd then sincePeriod smoothing entries ++ [entry]
    else finishedCycles smoothing entries := by
  rw [finishedCycles, sincePeriod_concat]
  cases entry.isPeriodEnd smoothing with
  | true => rfl
  | false =>
      simp only [Bool.false_eq_true, if_false, List.rdropWhile_concat]
      cases entry.isCycleEnd <;> rfl

theorem owedAtStart_concat : owedAtStart smoothing (entries ++ [entry]) =
    if entry.isPeriodEnd smoothing then (entry.pump.endCycle smoothing).accumulated
    else owedAtStart smoothing entries := by
  rw [owedAtStart, List.reverse_append, List.reverse_singleton, List.singleton_append,
    List.find?_cons]
  cases entry.isPeriodEnd smoothing <;> rfl

/-- A period consists of its finished cycles and the current one. -/
theorem finishedCycles_append_sinceCycle :
    finishedCycles smoothing entries ++ sinceCycle entries = sincePeriod smoothing entries := by
  induction entries using List.reverseRecOn with
  | nil => rfl
  | append_singleton earlier entry inductionHypothesis =>
      rw [finishedCycles_concat, sinceCycle_concat, sincePeriod_concat, LedgerEntry.isPeriodEnd]
      cases entry.isCycleEnd with
      | true => split <;> simp
      | false => simp [← inductionHypothesis]

end Ledger

/-- The fields of the pump as the ledger accounts for them. -/
structure Pump.Booked (smoothing : Smoothing) (entries : List LedgerEntry) (pump : Pump) :
    Prop where
  cyclePeak : PeakOf (Ledger.charges (Ledger.sinceCycle entries)) pump.cyclePeak
  periodPeak : PeakOf (Ledger.charges (Ledger.finishedCycles smoothing entries)) pump.periodPeak
  injectedPeak :
    PeakOf (Ledger.shares smoothing (Ledger.sincePeriod smoothing entries)) pump.injectedPeak
  accumulated : (∀ charge ∈ Ledger.charges (Ledger.sincePeriod smoothing entries),
      charge.isFinite = true) → Ledger.owedAtStart smoothing entries == 0.0 →
    pump.accumulated == pump.periodPeak
  countdown : pump.countdown ≤ smoothing.cycles

namespace Pump.Booked

variable {smoothing : Smoothing} {entries : List LedgerEntry} {pump : Pump}

theorem idle : Booked smoothing [] Pump.idle where
  cyclePeak := PeakOf.nil
  periodPeak := PeakOf.nil
  injectedPeak := PeakOf.nil
  accumulated _ _ := by decide
  countdown := zero_le_one.trans smoothing.one_le_cycles

theorem note (booked : Booked smoothing entries pump) (amount : Float32) :
    Booked smoothing (entries ++ [⟨pump, .charge amount⟩]) (pump.note smoothing amount) := by
  have sinceCycle : Ledger.sinceCycle (entries ++ [⟨pump, .charge amount⟩]) =
      Ledger.sinceCycle entries ++ [⟨pump, .charge amount⟩] := Ledger.sinceCycle_concat
  have sincePeriod : Ledger.sincePeriod smoothing (entries ++ [⟨pump, .charge amount⟩]) =
      Ledger.sincePeriod smoothing entries ++ [⟨pump, .charge amount⟩] := Ledger.sincePeriod_concat
  have finished : Ledger.finishedCycles smoothing (entries ++ [⟨pump, .charge amount⟩]) =
      Ledger.finishedCycles smoothing entries := Ledger.finishedCycles_concat
  refine ⟨?_, ?_, ?_, ?_, booked.countdown⟩
  · rw [sinceCycle, Ledger.charges_concat_charge]
    exact booked.cyclePeak.concat amount
  · rw [finished]
    exact booked.periodPeak
  · rw [sincePeriod, Ledger.shares_concat_charge]
    exact booked.injectedPeak.concat (pump.injection smoothing amount)
  · intro finite empty
    rw [sincePeriod, Ledger.charges_concat_charge] at finite
    rw [Ledger.owedAtStart_concat] at empty
    apply booked.accumulated _ empty
    intro charge member
    exact finite charge (List.mem_append_left _ member)

/-- If the former peak is all that is owed, then so is the new one. -/
theorem owedAfterCycle (finite : pump.periodPeak.isFinite = true)
    (peakFinite : pump.peakAfterCycle.isFinite = true)
    (owes : pump.accumulated == pump.periodPeak) :
    pump.owedAfterCycle == pump.peakAfterCycle := by
  have owedFinite := Single.isFinite_of_beq owes finite
  rw [Single.beq_iff] at owes
  have rest := Single.standsFor_sub owedFinite finite
  rw [owes.2.2, sub_self, Binary.rounded_zero] at rest
  have restFinite := Single.isFinite_of_standsFor rest (by norm_num)
  have sum := Single.standsFor_add restFinite peakFinite
  rw [rest.2, zero_add, Single.rounded_toRat peakFinite] at sum
  exact Single.beq_of_standsFor sum (Single.standsFor_of_isFinite peakFinite).1

/-- Within a period, the charges of the cycle join those of the cycles before. -/
theorem endCycle_of_more (booked : Booked smoothing entries pump) (more : 1 < pump.countdown) :
    Booked smoothing (entries ++ [⟨pump, .cycleEnd⟩]) (pump.endCycle smoothing) := by
  have continued : pump.Continued (pump.endCycle smoothing) := continued_of_more more
  have notEnd : LedgerEntry.isPeriodEnd smoothing ⟨pump, .cycleEnd⟩ = false := by
    have := booked.countdown
    simp only [LedgerEntry.isPeriodEnd, LedgerEntry.isCycleEnd, continued.countdown, Bool.true_and,
      beq_eq_false_iff_ne]
    omega
  have sinceCycle : Ledger.sinceCycle (entries ++ [⟨pump, .cycleEnd⟩]) = [] :=
    Ledger.sinceCycle_concat
  have sincePeriod : Ledger.sincePeriod smoothing (entries ++ [⟨pump, .cycleEnd⟩]) =
      Ledger.sincePeriod smoothing entries ++ [⟨pump, .cycleEnd⟩] := by
    simp [Ledger.sincePeriod_concat, notEnd]
  have finished : Ledger.finishedCycles smoothing (entries ++ [⟨pump, .cycleEnd⟩]) =
      Ledger.sincePeriod smoothing entries ++ [⟨pump, .cycleEnd⟩] := by
    simp [Ledger.finishedCycles_concat, notEnd, LedgerEntry.isCycleEnd]
  have peak := booked.periodPeak.append booked.cyclePeak
  rw [← Ledger.charges_append, Ledger.finishedCycles_append_sinceCycle] at peak
  refine ⟨?_, ?_, ?_, ?_, ?_⟩
  · rw [sinceCycle, continued.cyclePeak]
    exact PeakOf.nil
  · rw [finished, Ledger.charges_concat_cycleEnd, continued.periodPeak]
    exact peak
  · rw [sincePeriod, Ledger.shares_concat_cycleEnd, continued.injectedPeak]
    exact booked.injectedPeak
  · intro finite empty
    rw [sincePeriod, Ledger.charges_concat_cycleEnd] at finite
    rw [Ledger.owedAtStart_concat, notEnd] at empty
    rw [continued.accumulated, continued.periodPeak]
    apply owedAfterCycle
    · apply booked.periodPeak.isFinite
      intro charge member
      rw [← Ledger.finishedCycles_append_sinceCycle, Ledger.charges_append] at finite
      exact finite charge (List.mem_append_left _ member)
    · exact peak.isFinite finite
    · exact booked.accumulated finite empty
  · have := booked.countdown
    rw [continued.countdown]
    omega

/-- A new period begins with nothing on record. -/
theorem endCycle_of_last (last : pump.countdown ≤ 1) :
    Booked smoothing (entries ++ [⟨pump, .cycleEnd⟩]) (pump.endCycle smoothing) := by
  have renewed : pump.Renewed (pump.endCycle smoothing) smoothing := renewed_of_last last
  have isEnd : LedgerEntry.isPeriodEnd smoothing ⟨pump, .cycleEnd⟩ = true := by
    simp [LedgerEntry.isPeriodEnd, LedgerEntry.isCycleEnd, renewed.countdown]
  have sinceCycle : Ledger.sinceCycle (entries ++ [⟨pump, .cycleEnd⟩]) = [] :=
    Ledger.sinceCycle_concat
  have sincePeriod : Ledger.sincePeriod smoothing (entries ++ [⟨pump, .cycleEnd⟩]) = [] := by
    simp [Ledger.sincePeriod_concat, isEnd]
  have finished : Ledger.finishedCycles smoothing (entries ++ [⟨pump, .cycleEnd⟩]) = [] := by
    simp [Ledger.finishedCycles_concat, isEnd]
  refine ⟨?_, ?_, ?_, ?_, renewed.countdown.le⟩
  · rw [sinceCycle, renewed.cyclePeak]
    exact PeakOf.nil
  · rw [finished, renewed.periodPeak]
    exact PeakOf.nil
  · rw [sincePeriod, renewed.injectedPeak]
    exact PeakOf.nil
  · intro _ empty
    rw [Ledger.owedAtStart_concat, isEnd] at empty
    rw [renewed.periodPeak]
    exact empty

theorem receive (booked : Booked smoothing entries pump) (event : PumpEvent) :
    Booked smoothing (entries ++ [⟨pump, event⟩]) (pump.receive smoothing event) := by
  cases event with
  | charge amount => exact booked.note amount
  | cycleEnd =>
      rcases le_or_gt pump.countdown 1 with last | more
      · exact endCycle_of_last last
      · exact booked.endCycle_of_more more

end Pump.Booked

namespace Throttle

/--
Take a channel that smooths its charges, as it is created or reset, and any run that neither resets
nor reconfigures it. The three peaks of the pump are the largest charge since a cycle ended last,
the largest charge since a period ended last that a finished cycle has seen, and the largest share
since a period ended last, where a share is the larger of a charge and what was owed, over the
divisor. Each peak is zero if there is nothing larger. If nothing was owed when the period began and
its charges are finite, then the period's peak is all that is owed, in however many cycles a charge
was seen.
-/
theorem replay_peaks_booked {start : Throttle} {operations : List (Operation ThrottleSettings)}
    (begun : start.Begun) (enabled : start.settings.smoothing.isEnabled = true)
    (steady : ∀ operation ∈ operations, operation.isSteady = true) :
    let smoothing := start.settings.smoothing
    let entries := start.ledger operations
    let pump := (replay apply start operations).1.pump
    PeakOf (Ledger.charges (Ledger.sinceCycle entries)) pump.cyclePeak ∧
      PeakOf (Ledger.charges (Ledger.finishedCycles smoothing entries)) pump.periodPeak ∧
      PeakOf (Ledger.shares smoothing (Ledger.sincePeriod smoothing entries)) pump.injectedPeak ∧
      ((∀ charge ∈ Ledger.charges (Ledger.sincePeriod smoothing entries),
          charge.isFinite = true) →
        Ledger.owedAtStart smoothing entries == 0.0 → pump.accumulated == pump.periodPeak) := by
  intro smoothing entries pump
  have booked : pump.Booked smoothing entries := by
    apply (steady_induction begun enabled (Pump.Booked smoothing) Pump.Booked.idle _ steady).2
    intro entries pump event past
    exact past.receive event
  exact ⟨booked.cyclePeak, booked.periodPeak, booked.injectedPeak, booked.accumulated⟩

/--
The second cycle of a period sees a larger charge than the first, and then none. The largest share
is that of the larger charge, and the last one that of what was owed.
-/
theorem replay_peaks_booked_second_cycle : ∃ start,
    create { riseThreshold := 10.0, windowLength := 2, smoothing := ⟨3, 2.0⟩ }
        (fun _ after => after) = .ok start ∧
      let operations : List (Operation ThrottleSettings) :=
        [.sample 20.0, .endCycle, .sample 60.0, .compute, .endCycle, .sample 80.0, .compute,
          .sample 81.0, .compute]
      let current := Ledger.charges (Ledger.sinceCycle (start.ledger operations))
      let finished := Ledger.charges (Ledger.finishedCycles ⟨3, 2.0⟩ (start.ledger operations))
      let shares :=
        Ledger.shares ⟨3, 2.0⟩ (Ledger.sincePeriod ⟨3, 2.0⟩ (start.ledger operations))
      let pump := (replay apply start operations).1.pump
      current = [80.0, 0.0] ∧ PeakOf current pump.cyclePeak ∧
        finished = [60.0] ∧ PeakOf finished pump.periodPeak ∧
        shares = [30.0, 40.0, 30.0] ∧ PeakOf shares pump.injectedPeak ∧
        pump.accumulated == pump.periodPeak := by
  have created : create { riseThreshold := 10.0, windowLength := 2, smoothing := ⟨3, 2.0⟩ }
      (fun _ after => after) = .ok _ := rfl
  have booked := @replay_peaks_booked _ [.sample 20.0, .endCycle, .sample 60.0, .compute, .endCycle,
    .sample 80.0, .compute, .sample 81.0, .compute] (.created created) (by decide) (by decide)
  exact ⟨_, created, by decide +kernel, booked.1, by decide +kernel, booked.2.1,
    by decide +kernel, booked.2.2.1, booked.2.2.2 (by decide +kernel) (by decide +kernel)⟩

end Throttle
end TransientFuel
