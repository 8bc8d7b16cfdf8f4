import TransientFuel.Proofs.CheckedSettings

/-!
# Changes as a whole or not at all

A channel can be given other settings, or its window another length. If the length is possible, the
change is made as a whole; if not, the length is reported back and the channel stays as it was, and
there is nothing in between: `Decided`. New settings are compared with the window, which may have
been resized on its own, and not with the settings before them, so a window that has the new length
already keeps its readings. After any run, the settings and the length in force are those of the
last requests that were accepted: `reconfigure_all_or_nothing`.
-/

namespace TransientFuel

/-- How a request for a window length ends: with a change, or refused with nothing changed. -/
inductive Decided {Channel : Type} (channel : Channel) (Possible : Prop) (reported : ℤ)
    (Changed : Channel → Prop) : Channel × Reply → Prop
  | accepted {after : Channel} (possible : Possible) (changed : Changed after) :
      Decided channel Possible reported Changed (after, .done)
  | refused (impossible : ¬Possible) :
      Decided channel Possible reported Changed (channel, .refused ⟨reported⟩)

/-- What can be seen of a channel changes if the length is possible, and else stays. -/
theorem Decided.view_eq {Channel View : Type} {channel : Channel} {Possible : Prop}
    [Decidable Possible] {reported : ℤ} {Changed : Channel → Prop} {outcome : Channel × Reply}
    (decided : Decided channel Possible reported Changed outcome) (view : Channel → View)
    {target : View} (reaches : ∀ after, Changed after → view after = target) :
    view outcome.1 = if Possible then target else view channel := by
  cases decided with
  | accepted possible changed => simp [possible, reaches _ changed]
  | refused impossible => simp [impossible]

namespace Window

/-- What becomes of a window that is to have a length; one that has it is left alone. -/
structure FittedTo (fitted window : Window) (length : ℕ) : Prop where
  capacity : fitted.capacity = length
  kept : length = window.capacity → fitted = window
  emptied : length ≠ window.capacity → fitted.toList = []

variable (window : Window)

theorem possible_capacity : Possible window.capacity :=
  ⟨window.capacity_pos, window.capacity_le⟩

/-- Long lengths are cut before they are judged, but not so short that they become possible. -/
theorem possible_request_iff {length : ℕ} :
    (1 ≤ request length ∧ request length ≤ 32) ↔ Possible length := by
  simp only [request, longestRequest, Possible]
  omega

theorem fit_cases (length : ℕ) :
    (Possible length ∧ ∃ fitted, window.fit length = .ok fitted ∧ fitted.FittedTo window length) ∨
      ¬Possible length ∧ window.fit length = .error ⟨request length⟩ := by
  by_cases same : length = window.capacity
  · -- Whatever length a window has is a possible one, so nothing has to be tested here.
    left
    refine ⟨same ▸ window.possible_capacity, window, by simp [fit, same], ?_⟩
    exact ⟨same.symm, fun _ => rfl, fun other => absurd same other⟩
  · rcases window.resize_cases (request length) with
      ⟨lower, upper, resized, accepted, emptied⟩ | ⟨outside, refused⟩
    · left
      have possible := possible_request_iff.mp ⟨lower, upper⟩
      refine ⟨possible, resized, by simp [fit, same, accepted], ?_⟩
      have exact : (request length).toNat = length := by
        simp only [request, longestRequest] at upper ⊢
        omega
      refine ⟨?_, fun equal => absurd equal same, fun _ => congrArg Sliding.readings emptied⟩
      rw [← exact]
      exact congrArg Sliding.capacity emptied
    · right
      refine ⟨fun possible => outside (possible_request_iff.mpr possible), ?_⟩
      simp [fit, same, refused]

end Window

namespace Operation

variable {Settings : Type}

/-- The settings and the window length in force after an operation, by those in force before it. -/
def enforce (windowLength : Settings → ℕ) (inForce : Settings × ℕ) :
    Operation Settings → Settings × ℕ
  | .resize length =>
      if 1 ≤ length ∧ length ≤ 32 then (inForce.1, length.toNat) else inForce
  | .reconfigure settings =>
      if 1 ≤ windowLength settings ∧ windowLength settings ≤ 32 then
        (settings, windowLength settings)
      else inForce
  | _ => inForce

end Operation

theorem view_replay {State Action View : Type} (view : State → View)
    {apply : State → Action → State × Reply} {step : View → Action → View}
    (agrees : ∀ state action, view (apply state action).1 = step (view state) action)
    (state : State) (actions : List Action) :
    view (replay apply state actions).1 = actions.foldl step (view state) := by
  induction actions generalizing state with
  | nil => rfl
  | cons action rest inductionHypothesis =>
      simp only [replay, List.foldl_cons, inductionHypothesis, agrees]

namespace WindowChannel

open WindowSettings

variable {Channel Settings : Type} [WindowChannel Channel Settings]

def inForce (channel : Channel) : Settings × ℕ :=
  (settings channel, (window channel).capacity)

theorem Keeps.inForce_eq {channel after : Channel} (keeps : Keeps channel after) :
    inForce after = inForce channel := by
  rw [inForce, inForce, keeps.settings_eq, keeps.window_eq]

variable [WindowSettings Settings] (channel : Channel)

theorem decided_resize (length : ℤ) :
    Decided channel (1 ≤ length ∧ length ≤ 32) length
      (fun after =>
        after = replace channel (settings channel) (window after) (observed channel) ∧
          (window after).capacity = length.toNat ∧ (window after).toList = [])
      (apply channel (.resize length)) := by
  rcases (window channel).resize_cases length with
    ⟨lower, upper, resized, accepted, emptied⟩ | ⟨outside, refused⟩
  · simp only [apply, resize, accepted, Except.map, settle]
    refine .accepted ⟨lower, upper⟩ ?_
    rw [window_replace]
    exact ⟨rfl, congrArg Sliding.capacity emptied, congrArg Sliding.readings emptied⟩
  · simp only [apply, resize, refused, Except.map, settle]
    exact .refused outside

theorem decided_reconfigure (given : Settings) :
    Decided channel (1 ≤ windowLength given ∧ windowLength given ≤ 32)
      (Window.request (windowLength given))
      (fun after =>
        after = replace channel given (window after) (observed channel) ∧
          (window after).FittedTo (window channel) (windowLength given))
      (apply channel (.reconfigure given)) := by
  rw [apply_reconfigure]
  rcases (window channel).fit_cases (windowLength given) with
    ⟨possible, fitted, accepted, fits⟩ | ⟨impossible, refused⟩
  · simp only [accepted, Except.map, settle]
    refine .accepted possible ?_
    rw [window_replace]
    exact ⟨rfl, fits⟩
  · simp only [refused, Except.map, settle]
    exact .refused impossible

theorem inForce_apply (operation : Operation Settings) :
    inForce (apply channel operation).1 = operation.enforce windowLength (inForce channel) := by
  cases operation with
  | sample reading =>
      rw [apply, sample, inForce, settings_replace, window_replace]
      rfl
  | compute => exact (keeps_compute channel).inForce_eq
  | endCycle => exact (keeps_endCycle channel).inForce_eq
  | reset =>
      rw [apply, reset, inForce, settings_replace, window_replace]
      rfl
  | resize length =>
      apply (decided_resize channel length).view_eq
      rintro after ⟨rest, capacity, _⟩
      rw [inForce, capacity, rest, settings_replace]
      rfl
  | reconfigure given =>
      apply (decided_reconfigure channel given).view_eq
      rintro after ⟨rest, fits⟩
      rw [inForce, fits.capacity, rest, settings_replace]
  | observe switch =>
      rw [apply, observe, inForce, settings_replace, window_replace]
      rfl

end WindowChannel

def Throttle.inForce (channel : Throttle) : ThrottleSettings × ℕ :=
  (channel.settings, channel.window.capacity)

def Load.inForce (channel : Load) : LoadSettings × ℕ :=
  (channel.settings, channel.window.capacity)

/--
A channel that is given other settings refuses if and only if their window length is not one of 1 to
32; it reports the length, or the longest one that a request can name, and is the same channel as
before, with its settings, window, pump and observer. Otherwise it has the new settings and a window
of their length, with the same readings if it had that length and without readings if not, and
nothing else has changed. A window is given a length of its own in the same way, but then it loses
its readings in any case. So after a run the settings and the window length are those of the last
requests with a possible length, whatever else has happened.
-/
theorem reconfigure_all_or_nothing :
    (∀ (channel : Throttle) (settings : ThrottleSettings),
      Decided channel (1 ≤ settings.windowLength ∧ settings.windowLength ≤ 32)
        (min settings.windowLength (2 ^ 63 - 1) : ℕ)
        (fun after => after = { channel with settings, window := after.window } ∧
          after.window.FittedTo channel.window settings.windowLength)
        (channel.apply (.reconfigure settings))) ∧
      (∀ (channel : Load) (settings : LoadSettings),
        Decided channel (1 ≤ settings.windowLength ∧ settings.windowLength ≤ 32)
          (min settings.windowLength (2 ^ 63 - 1) : ℕ)
          (fun after => after = { channel with settings, window := after.window } ∧
            after.window.FittedTo channel.window settings.windowLength)
          (channel.apply (.reconfigure settings))) ∧
      (∀ (channel : Throttle) (length : ℤ),
        Decided channel (1 ≤ length ∧ length ≤ 32) length
          (fun after => after = { channel with window := after.window } ∧
            after.window.capacity = length.toNat ∧ after.window.toList = [])
          (channel.apply (.resize length))) ∧
      (∀ (channel : Load) (length : ℤ),
        Decided channel (1 ≤ length ∧ length ≤ 32) length
          (fun after => after = { channel with window := after.window } ∧
            after.window.capacity = length.toNat ∧ after.window.toList = [])
          (channel.apply (.resize length))) ∧
      (∀ (channel : Throttle) (operations : List (Operation ThrottleSettings)),
        (replay Throttle.apply channel operations).1.inForce =
          operations.foldl (Operation.enforce ThrottleSettings.windowLength) channel.inForce) ∧
      (∀ (channel : Load) (operations : List (Operation LoadSettings)),
        (replay Load.apply channel operations).1.inForce =
          operations.foldl (Operation.enforce LoadSettings.windowLength) channel.inForce) := by
  simp only [Throttle.apply_eq, Load.apply_eq]
  refine ⟨?_, ?_, ?_, ?_, ?_, ?_⟩
  · intro channel settings
    exact WindowChannel.decided_reconfigure channel settings
  · intro channel settings
    exact WindowChannel.decided_reconfigure channel settings
  · intro channel length
    exact WindowChannel.decided_resize channel length
  · intro channel length
    exact WindowChannel.decided_resize channel length
  · intro channel operations
    exact view_replay _ WindowChannel.inForce_apply channel operations
  · intro channel operations
    exact view_replay _ WindowChannel.inForce_apply channel operations

end TransientFuel
