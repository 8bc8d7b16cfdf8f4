import TransientFuel.Channel
import TransientFuel.Proofs.Fallible

/-!
# Runs of operations

Windows and channels are driven by lists of operations, each of which changes the state and gets a
reply. A run is a fold over such a list. What holds of single operations is carried over to runs in
two ways: along a view of the states, `replay_map`, and along the past of a run, `replay_induction`.
-/

namespace TransientFuel

variable {State Action : Type}

/-- The state after a list of operations, and the replies to them. -/
def replay (apply : State → Action → State × Reply) (state : State) :
    List Action → State × List Reply
  | [] => (state, [])
  | action :: rest =>
    let next := apply state action
    let last := replay apply next.1 rest
    (last.1, next.2 :: last.2)

/-- A view that agrees with single operations agrees with runs. -/
theorem replay_map {View : Type} (view : State → View)
    {apply : State → Action → State × Reply} {expected : View → Action → View × Reply}
    (agrees : ∀ state action,
      expected (view state) action = (view (apply state action).1, (apply state action).2))
    (state : State) (actions : List Action) :
    replay expected (view state) actions =
      (view (replay apply state actions).1, (replay apply state actions).2) := by
  induction actions generalizing state with
  | nil => rfl
  | cons action rest inductionHypothesis =>
      simp only [replay, agrees, inductionHypothesis]

theorem replay_concat (apply : State → Action → State × Reply) (state : State)
    (earlier : List Action) (action : Action) :
    (replay apply state (earlier ++ [action])).1 =
      (apply (replay apply state earlier).1 action).1 := by
  induction earlier generalizing state with
  | nil => rfl
  | cons first rest inductionHypothesis => exact inductionHypothesis (apply state first).1

/-- What holds at first and survives each operation holds after every run. -/
theorem replay_induction {apply : State → Action → State × Reply} {start : State}
    (Holds : List Action → State → Prop) (atStart : Holds [] start)
    (afterStep : ∀ earlier action, Holds earlier (replay apply start earlier).1 →
      Holds (earlier ++ [action]) (apply (replay apply start earlier).1 action).1)
    (actions : List Action) : Holds actions (replay apply start actions).1 := by
  induction actions using List.reverseRecOn with
  | nil => exact atStart
  | append_singleton earlier action inductionHypothesis =>
      rw [replay_concat]
      exact afterStep earlier action inductionHypothesis

/-- What no operation changes is the same after every run. -/
theorem replay_kept {Kept : Type} {apply : State → Action → State × Reply} {kept : State → Kept}
    (keptApply : ∀ state action, kept (apply state action).1 = kept state) (start : State)
    (actions : List Action) : kept (replay apply start actions).1 = kept start := by
  apply replay_induction fun _ state => kept state = kept start
  · rfl
  · intro earlier action past
    rw [keptApply, past]

end TransientFuel
