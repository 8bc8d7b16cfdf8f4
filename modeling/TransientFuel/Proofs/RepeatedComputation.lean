import TransientFuel.Load
import TransientFuel.Proofs.Runs
import TransientFuel.Throttle

/-!
# Asking for a correction again

To compute a throttle correction changes the channel: the charge goes into the peaks of the pump, or
the pump is emptied if charges are not spread. A second computation finds the same charge, what is
owed has not changed, and the peaks hold the charge already. So it gives the same answer and changes
nothing, whatever the readings, the table and the settings are, and a run in which corrections are
asked for again and again differs from the plain run in the repeated answers only:
`compute_idempotent`.
-/

namespace TransientFuel

/-- An operation, and extra calls of it if it asks for a correction. -/
def Operation.withExtra {Settings : Type} (extra : ℕ) :
    Operation Settings → List (Operation Settings)
  | .compute => List.replicate (extra + 1) .compute
  | operation => [operation]

section Runs

variable {State Action : Type} {apply : State → Action → State × Reply}

theorem replay_append (apply : State → Action → State × Reply) (state : State)
    (earlier later : List Action) :
    replay apply state (earlier ++ later) =
      ((replay apply (replay apply state earlier).1 later).1,
        (replay apply state earlier).2 ++
          (replay apply (replay apply state earlier).1 later).2) := by
  induction earlier generalizing state with
  | nil => rfl
  | cons action rest inductionHypothesis => simp [replay, inductionHypothesis]

/-- An action that changes nothing the second time can be repeated at will. -/
theorem replay_replicate {action : Action}
    (again : ∀ state, apply (apply state action).1 action = apply state action) (state : State)
    (extra : ℕ) :
    replay apply state (List.replicate (extra + 1) action) =
      ((apply state action).1, List.replicate (extra + 1) (apply state action).2) := by
  induction extra generalizing state with
  | zero => rfl
  | succ extra inductionHypothesis =>
      rw [List.replicate_succ, replay, inductionHypothesis, again]
      rfl

variable {Channel Settings : Type} {operate : Channel → Operation Settings → Channel × Reply}

theorem replay_withExtra
    (again : ∀ channel, operate (operate channel .compute).1 .compute = operate channel .compute)
    (channel : Channel) (operation : Operation Settings) (extra : ℕ) :
    replay operate channel (operation.withExtra extra) =
      ((operate channel operation).1,
        List.replicate (operation.withExtra extra).length (operate channel operation).2) := by
  cases operation with
  | compute =>
      rw [Operation.withExtra, List.length_replicate]
      exact replay_replicate again channel extra
  | _ => rfl

/-- Extra calls repeat their replies, and everything else is as without them. -/
theorem replay_flatMap_withExtra
    (again : ∀ channel, operate (operate channel .compute).1 .compute = operate channel .compute)
    (channel : Channel) (calls : List (Operation Settings × ℕ)) :
    replay operate channel (calls.flatMap fun call => call.1.withExtra call.2) =
      ((replay operate channel (calls.map Prod.fst)).1,
        (calls.zip (replay operate channel (calls.map Prod.fst)).2).flatMap fun call =>
          List.replicate (call.1.1.withExtra call.1.2).length call.2) := by
  induction calls generalizing channel with
  | nil => rfl
  | cons call rest inductionHypothesis =>
      simp [replay, replay_append, replay_withExtra again, inductionHypothesis]

end Runs

/-- Comparing with the same number again changes nothing. -/
theorem Single.larger_larger (x y : Float32) : larger x (larger x y) = larger x y := by
  simp only [larger]
  split
  · rfl
  · split
    · split <;> rfl
    · split <;> simp_all

theorem Pump.note_note (pump : Pump) (smoothing : Smoothing) (charge : Float32) :
    (pump.note smoothing charge).note smoothing charge = pump.note smoothing charge := by
  simp only [note, injection, Single.larger_larger]

namespace Throttle

variable (channel : Throttle)

/-- A charge that has been noted leaves the pump as it is. -/
theorem charged_again (charge : Float32) :
    charged { channel with pump := channel.charged charge } charge = channel.charged charge := by
  simp only [charged]
  split
  · exact channel.pump.note_note _ charge
  · rfl

/-- What is injected depends on what is owed, and to note a charge does not change that. -/
theorem injected_again (charge : Float32) :
    injected { channel with pump := channel.charged charge } charge = channel.injected charge := by
  simp only [injected, charged]
  split <;> rfl

theorem compute_compute : channel.compute.channel.compute = channel.compute := by
  cases steepest : channel.window.steepest? with
  | none => simp only [compute, steepest]
  | some rise =>
      have charge (pump : Pump) : charge { channel with pump } rise = channel.charge rise := rfl
      simp only [compute, steepest, charge, charged_again, injected_again]

end Throttle

namespace Load

variable (channel : Load)

theorem compute_compute : channel.compute.channel.compute = channel.compute := by
  cases steepest : channel.window.steepest? with
  | none => simp only [compute, steepest]
  | some rise => simp only [compute, steepest]

end Load

/--
In any state of either channel, to compute the correction again gives the same value, publishes the
same snapshot, and leaves the channel as the first time has left it. So if each correction of a run
is asked for any number of extra times, the channel ends up the same, every operation gets the same
reply, and the extra calls get the reply of the call that they repeat.
-/
theorem compute_idempotent :
    (∀ channel : Throttle, channel.compute.channel.compute = channel.compute) ∧
      (∀ channel : Load, channel.compute.channel.compute = channel.compute) ∧
      (∀ (channel : Throttle) (calls : List (Operation ThrottleSettings × ℕ)),
        let plain := replay Throttle.apply channel (calls.map Prod.fst)
        replay Throttle.apply channel (calls.flatMap fun call => call.1.withExtra call.2) =
          (plain.1, (calls.zip plain.2).flatMap fun call =>
            List.replicate (call.1.1.withExtra call.1.2).length call.2)) ∧
      (∀ (channel : Load) (calls : List (Operation LoadSettings × ℕ)),
        let plain := replay Load.apply channel (calls.map Prod.fst)
        replay Load.apply channel (calls.flatMap fun call => call.1.withExtra call.2) =
          (plain.1, (calls.zip plain.2).flatMap fun call =>
            List.replicate (call.1.1.withExtra call.1.2).length call.2)) := by
  refine ⟨Throttle.compute_compute, Load.compute_compute, ?_, ?_⟩
  · intro channel calls
    refine replay_flatMap_withExtra (fun channel => ?_) channel calls
    simp only [Throttle.apply, channel.compute_compute]
  · intro channel calls
    refine replay_flatMap_withExtra (fun channel => ?_) channel calls
    simp only [Load.apply, channel.compute_compute]

end TransientFuel
