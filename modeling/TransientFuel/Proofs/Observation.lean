import TransientFuel.Proofs.FaultFreedom

/-!
# Observers only observe

Switching observation on and off changes nothing but the snapshots: two runs of a channel that
differ in such switches only have the same replies, up to snapshots, and the same channel after each
of the other operations, `heard_eq_of_unswitched`. A channel that is observed publishes one snapshot
of each correction that it computes from at least two readings, and the snapshot says what was
computed. Both are in `replay_observed_faithfully`.
-/

namespace TransientFuel

namespace Operation

variable {Settings : Type}

/-- Whether observation is switched, and to what. -/
def switch? : Operation Settings → Option Bool
  | .observe observed => some observed
  | _ => none

/-- The operations that do not switch observation. -/
def unswitched (operations : List (Operation Settings)) : List (Operation Settings) :=
  operations.filter (·.switch?.isNone)

/-- Whether a channel that was not observed at first is observed after some operations. -/
def attached (operations : List (Operation Settings)) : Bool :=
  (operations.filterMap switch?).getLast?.getD false

theorem attached_concat (earlier : List (Operation Settings)) (operation : Operation Settings) :
    attached (earlier ++ [operation]) = operation.switch?.getD (attached earlier) := by
  rw [attached, List.filterMap_append]
  cases switched : operation.switch? with
  | none => simp [switched, attached]
  | some observed => simp [switched]

end Operation

/-- The reply without its snapshot. -/
def Reply.silent : Reply → Reply
  | .correction value _ => .correction value none
  | reply => reply

section Heard

variable {Channel Settings : Type}

/--
What is heard of a channel while operations are carried out: for each of them that does not switch
observation, the reply without its snapshot and the channel without its observer.
-/
def heard (apply : Channel → Operation Settings → Channel × Reply) (mute : Channel → Channel)
    (channel : Channel) : List (Operation Settings) → List (Reply × Channel)
  | [] => []
  | operation :: rest =>
    let next := apply channel operation
    match operation.switch? with
    | some _ => heard apply mute next.1 rest
    | none => (next.2.silent, mute next.1) :: heard apply mute next.1 rest

variable {apply : Channel → Operation Settings → Channel × Reply} {mute : Channel → Channel}
  (muted : ∀ left right operation, mute left = mute right →
    (apply left operation).2.silent = (apply right operation).2.silent ∧
      mute (apply left operation).1 = mute (apply right operation).1)

include muted

theorem heard_congr {left right : Channel} (same : mute left = mute right)
    (operations : List (Operation Settings)) :
    heard apply mute left operations = heard apply mute right operations := by
  induction operations generalizing left right with
  | nil => rfl
  | cons operation rest inductionHypothesis =>
      obtain ⟨replySame, nextSame⟩ := muted left right operation same
      rw [heard, heard]
      simp only [inductionHypothesis nextSame, replySame, nextSame]

theorem heard_unswitched (switched : ∀ channel observed,
      mute (apply channel (.observe observed)).1 = mute channel)
    (channel : Channel) (operations : List (Operation Settings)) :
    heard apply mute channel (Operation.unswitched operations) =
      heard apply mute channel operations := by
  induction operations generalizing channel with
  | nil => rfl
  | cons operation rest inductionHypothesis =>
      rw [Operation.unswitched, List.filter_cons]
      cases operation with
      | observe observed =>
          simp only [heard, Operation.switch?, Option.isNone_some, Bool.false_eq_true, if_false]
          rw [heard_congr muted (switched channel observed)]
          exact inductionHypothesis channel
      | _ =>
          simp only [heard, Operation.switch?, Option.isNone_none, if_true]
          rw [← inductionHypothesis]
          rfl

/-- Two runs that differ in switches of observation only sound the same. -/
theorem heard_eq_of_unswitched (switched : ∀ channel observed,
      mute (apply channel (.observe observed)).1 = mute channel)
    (channel : Channel) {left right : List (Operation Settings)}
    (agree : Operation.unswitched left = Operation.unswitched right) :
    heard apply mute channel left = heard apply mute channel right := by
  rw [← heard_unswitched muted switched channel left, agree,
    heard_unswitched muted switched channel right]

end Heard

/-- The ring knows the age of the steepest rise, so no age has to be made up. -/
theorem Window.age?_of_steepest? {window : Window} {rise : Rise}
    (steepest : window.steepest? = some rise) :
    window.age? rise.offset = some (rise.offset + 1) := by
  have inside := (steepestIn_of_steepest? steepest).found.offset_lt
  rw [length_toList] at inside
  rw [age?_eq, if_pos (by omega)]

namespace WindowChannel

open WindowSettings

variable {Channel Settings : Type} [WindowChannel Channel Settings]

theorem isSome_snapshot (channel : Channel) :
    (compute channel).snapshot.isSome =
      (observed channel && (window channel).steepest?.isSome) := by
  rw [compute]
  cases (window channel).steepest? with
  | none => simp
  | some rise => cases observed channel <;> simp

theorem isSome_snapshot_iff (channel : Channel) :
    (compute channel).snapshot.isSome = true ↔
      observed channel = true ∧ 2 ≤ (window channel).toList.length := by
  rw [isSome_snapshot, Bool.and_eq_true, Window.isSome_steepest?_iff, Window.length_toList]

/-- Channels that are the same without their observers differ in nothing else. -/
theorem eq_replace_of_observe {left right : Channel}
    (same : observe left false = observe right false) :
    left = replace right (settings right) (window right) (observed left) := by
  have settingsSame := congrArg settings same
  have windowSame := congrArg window same
  simp only [observe, settings_replace, window_replace] at settingsSame windowSame
  calc left = replace (observe left false) (settings left) (window left) (observed left) := by
        rw [observe, replace_replace, replace_self]
    _ = replace right (settings right) (window right) (observed left) := by
        rw [same, observe, replace_replace, settingsSame, windowSame]

theorem Keeps.observe_replace {channel after : Channel} (keeps : Keeps channel after)
    (switch : Bool) :
    observe (replace after (settings channel) (window channel) switch) false =
      observe after false := by
  rw [observe, observe, settings_replace, window_replace, replace_replace, keeps.settings_eq,
    keeps.window_eq]

variable [WindowSettings Settings]

/-- The observer has a say in nothing but snapshots. -/
theorem apply_muted (left right : Channel) (operation : Operation Settings)
    (same : observe left false = observe right false) :
    (apply left operation).2.silent = (apply right operation).2.silent ∧
      observe (apply left operation).1 false = observe (apply right operation).1 false := by
  rw [eq_replace_of_observe same]
  cases operation with
  | sample reading => simp [apply, sample, observe]
  | compute =>
      simp only [apply, compute, window_replace, observed_replace, judge_replace _ _ _ _ rfl]
      cases (window right).steepest? with
      | none => simp [observe]
      | some rise => exact ⟨rfl, (keeps_judge right rise).observe_replace _⟩
  | endCycle =>
      rw [apply, apply, endCycle_replace]
      exact ⟨rfl, (keeps_endCycle right).observe_replace _⟩
  | reset => simp [apply, reset, observe, idle_replace]
  | resize length =>
      simp only [apply, resize, window_replace]
      cases (window right).resize length with
      | error refusal => simp [Except.map, settle, observe]
      | ok ring => simp [Except.map, settle, observe]
  | reconfigure given =>
      simp only [apply_reconfigure, window_replace]
      cases (window right).fit (windowLength given) with
      | error refusal => simp [Except.map, settle, observe]
      | ok ring => simp [Except.map, settle, observe]
  | observe switch => simp [apply, observe]

/-- Only a switch changes whether a channel is observed. -/
theorem observed_apply (channel : Channel) (operation : Operation Settings) :
    observed (apply channel operation).1 = operation.switch?.getD (observed channel) := by
  cases operation with
  | sample reading => exact observed_replace _ _ _ _
  | compute => exact (keeps_compute channel).observed_eq
  | endCycle => exact (keeps_endCycle channel).observed_eq
  | reset => exact observed_replace _ _ _ _
  | resize length => exact kept_settle channel (fun _ => observed_replace _ _ _ _) _
  | reconfigure given =>
      rw [apply_reconfigure]
      exact kept_settle channel (fun _ => observed_replace _ _ _ _) _
  | observe switch => exact observed_replace _ _ _ _

/-- After any operations, the last switch tells whether a channel is observed. -/
theorem observed_replay {start : Channel} (unobserved : observed start = false)
    (operations : List (Operation Settings)) :
    observed (replay apply start operations).1 = Operation.attached operations := by
  apply replay_induction fun operations (channel : Channel) =>
    observed channel = Operation.attached operations
  · exact unobserved
  · intro earlier operation past
    rw [observed_apply, Operation.attached_concat, past]

end WindowChannel

namespace Throttle

/-- The channel without its observer. -/
def muted (channel : Throttle) : Throttle :=
  channel.observe false

/--
That a channel publishes a snapshot of its next correction if it is observed and has two readings,
and that the snapshot has the steepest rise, the table's value for it, the correction itself and the
pump as it is afterwards.
-/
structure Publishes (channel : Throttle) (table : Float32 → Float32 → Float32) (attached : Bool) :
    Prop where
  when : channel.compute.snapshot.isSome = true ↔
    attached = true ∧ 2 ≤ channel.window.toList.length
  what : ∀ snapshot, channel.compute.snapshot = some snapshot →
    ∃ rise, channel.window.steepest? = some rise ∧
      snapshot = .throttle
        { before := rise.before
          after := rise.after
          tableValue := table rise.before rise.after
          extra := channel.compute.correction
          accumulated := channel.compute.channel.pump.accumulated
          periodPeak := channel.compute.channel.pump.periodPeak
          injectedPeak := channel.compute.channel.pump.injectedPeak
          countdown := channel.compute.channel.pump.countdown }

theorem publishes (channel : Throttle) : channel.Publishes channel.table channel.observed := by
  refine ⟨WindowChannel.isSome_snapshot_iff channel, ?_⟩
  intro snapshot published
  rw [compute] at published ⊢
  cases steepest : channel.window.steepest? with
  | none => simp [steepest] at published
  | some rise =>
      simp only [steepest, Option.ite_none_right_eq_some, Option.some_inj] at published
      exact ⟨rise, rfl, published.2.symm⟩

end Throttle

namespace Load

/-- The channel without its observer. -/
def muted (channel : Load) : Load :=
  channel.observe false

/--
That a channel publishes a snapshot of its next correction if it is observed and has two readings,
and that the snapshot has the correction. If the steepest rise is above the threshold, the snapshot
also has the age of the rise, which the ring knows, and the taper for that age. Otherwise it has
zeros there.
-/
structure Publishes (channel : Load) (taper : Float32 → Float32) (attached : Bool) : Prop where
  when : channel.compute.snapshot.isSome = true ↔
    attached = true ∧ 2 ≤ channel.window.toList.length
  what : ∀ snapshot, channel.compute.snapshot = some snapshot →
    ∃ rise shot, channel.window.steepest? = some rise ∧ snapshot = .load shot ∧
      channel.window.age? rise.offset = some (rise.offset + 1) ∧
      shot.result = channel.compute.correction ∧
      (channel.settings.riseThreshold < channel.scaled rise →
        shot.age = rise.offset + 1 ∧ shot.taper = taper (Float32.ofNat (rise.offset + 1))) ∧
      (¬channel.settings.riseThreshold < channel.scaled rise → shot.age = 0 ∧ shot.taper = 0.0)

theorem publishes (channel : Load) : channel.Publishes channel.taper channel.observed := by
  refine ⟨WindowChannel.isSome_snapshot_iff channel, ?_⟩
  intro snapshot published
  rw [compute] at published ⊢
  cases steepest : channel.window.steepest? with
  | none => simp [steepest] at published
  | some rise =>
      simp only [steepest, Option.ite_none_right_eq_some, Option.some_inj] at published
      have aged := Window.age?_of_steepest? steepest
      refine ⟨rise, channel.assess rise, rfl, published.2.symm, aged, rfl, ?_, ?_⟩
      · intro above
        simp only [assess, if_pos above, aged, Option.getD_some, and_self]
      · intro below
        rw [assess, if_neg below]
        split <;> exact ⟨rfl, rfl⟩

end Load

/--
Take any channel and two lists of operations that differ in switches of observation only. The
replies to the other operations are the same up to snapshots, and so is the channel after each of
them up to whether it is observed. Take a new channel and any operations on it. Then the next
correction is published if and only if the last switch turned observation on and the window has at
least two readings, and what is published is what was computed.
-/
theorem replay_observed_faithfully :
    (∀ (start : Throttle) (left right : List (Operation ThrottleSettings)),
      Operation.unswitched left = Operation.unswitched right →
      heard Throttle.apply Throttle.muted start left =
        heard Throttle.apply Throttle.muted start right) ∧
    (∀ (start : Load) (left right : List (Operation LoadSettings)),
      Operation.unswitched left = Operation.unswitched right →
      heard Load.apply Load.muted start left = heard Load.apply Load.muted start right) ∧
    (∀ (settings : ThrottleSettings) (table : Float32 → Float32 → Float32) (start : Throttle),
      Throttle.create settings table = .ok start →
      ∀ operations, (replay Throttle.apply start operations).1.Publishes table
        (Operation.attached operations)) ∧
    ∀ (settings : LoadSettings) (taper : Float32 → Float32) (start : Load),
      Load.create settings taper = .ok start →
      ∀ operations, (replay Load.apply start operations).1.Publishes taper
        (Operation.attached operations) := by
  refine ⟨?_, ?_, ?_, ?_⟩
  · intro start left right agree
    rw [Throttle.apply_eq]
    exact heard_eq_of_unswitched WindowChannel.apply_muted (fun _ _ => rfl) start agree
  · intro start left right agree
    rw [Load.apply_eq]
    exact heard_eq_of_unswitched WindowChannel.apply_muted (fun _ _ => rfl) start agree
  · intro settings table start created operations
    obtain ⟨new, _, rfl⟩ := Throttle.create_eq_ok_iff.mp created
    rw [← replay_kept Throttle.table_apply start operations, Throttle.apply_eq,
      ← WindowChannel.observed_replay new.unobserved operations]
    exact Throttle.publishes _
  · intro settings taper start created operations
    obtain ⟨new, _, rfl⟩ := Load.create_eq_ok_iff.mp created
    rw [← replay_kept Load.taper_apply start operations, Load.apply_eq,
      ← WindowChannel.observed_replay new.unobserved operations]
    exact Load.publishes _

/-- A switch in time publishes, a switch back does not, and the corrections stay as they are. -/
theorem replay_observed_faithfully_switched : ∃ throttle load,
    Throttle.create { windowLength := 2 } (fun _ _ => 8.0) = .ok throttle ∧
      Load.create { riseMultiplier := 1.0 } (fun age => age) = .ok load ∧
      heard Throttle.apply Throttle.muted throttle
          [.sample 20.0, .observe true, .sample 85.0, .compute] =
        heard Throttle.apply Throttle.muted throttle
          [.observe true, .sample 20.0, .sample 85.0, .observe false, .compute] ∧
      heard Load.apply Load.muted load [.sample 1.0, .sample 7.0, .observe true, .compute] =
        heard Load.apply Load.muted load [.sample 1.0, .sample 7.0, .compute] ∧
      (replay Throttle.apply throttle
        [.sample 20.0, .observe true, .sample 85.0]).1.compute.snapshot.isSome = true ∧
      (replay Load.apply load
        [.observe true, .sample 1.0, .sample 7.0, .observe false]).1.compute.snapshot.isSome =
          false := by
  obtain ⟨throttleHeard, loadHeard, throttlePublishes, loadPublishes⟩ := replay_observed_faithfully
  refine ⟨_, _, rfl, rfl, throttleHeard _ _ _ rfl, loadHeard _ _ _ rfl, ?_, ?_⟩
  · rw [(throttlePublishes { windowLength := 2 } (fun _ _ => 8.0) _ rfl _).when]
    decide
  · rw [← Bool.not_eq_true, (loadPublishes { riseMultiplier := 1.0 } (fun age => age) _ rfl _).when]
    decide

end TransientFuel
