import TransientFuel.Load
import TransientFuel.Proofs.RingDistance
import TransientFuel.Proofs.SteepestRise
import TransientFuel.Throttle

/-!
# What both channels do

The throttle channel and the load channel have settings, a window and an observer, and do the same
with these. They differ in how they judge a rise, in what the end of a cycle is to them, and in what
they keep beside the three, and in this neither the observer nor the slots of the ring play a part.
That is all that is asked of a `WindowChannel`. Its operations are defined here, and those of the
two channels are shown to be these: `Throttle.apply_eq` and `Load.apply_eq`. So what holds of both
channels for the same reason is stated once, for any `WindowChannel`.
-/

namespace TransientFuel

/-- Settings that name a window length. -/
class WindowSettings (Settings : Type) where
  windowLength : Settings → ℕ
  /-- The settings with another window length. -/
  withLength : Settings → ℕ → Settings
  windowLength_withLength (settings : Settings) (length : ℕ) :
    windowLength (withLength settings length) = length
  withLength_windowLength (settings : Settings) :
    withLength settings (windowLength settings) = settings

/-- What a channel makes of a rise. -/
structure Judgement (Channel : Type) where
  correction : Float32
  /-- What there is to publish. -/
  snapshot : Snapshot
  after : Channel

/-- A channel, and the laws by which its settings, its window and its observer can be replaced. -/
class WindowChannel (Channel : Type) (Settings : outParam Type) where
  settings : Channel → Settings
  window : Channel → Window
  observed : Channel → Bool
  /-- The channel with other settings, another window and another observer, and else as it is. -/
  replace : Channel → Settings → Window → Bool → Channel
  judge : Channel → Rise → Judgement Channel
  endCycle : Channel → Channel
  /-- The channel as if nothing had happened to it, its window apart. -/
  idle : Channel → Channel
  settings_replace (channel : Channel) (given : Settings) (ring : Window) (switch : Bool) :
    settings (replace channel given ring switch) = given
  window_replace (channel : Channel) (given : Settings) (ring : Window) (switch : Bool) :
    window (replace channel given ring switch) = ring
  observed_replace (channel : Channel) (given : Settings) (ring : Window) (switch : Bool) :
    observed (replace channel given ring switch) = switch
  replace_self (channel : Channel) :
    replace channel (settings channel) (window channel) (observed channel) = channel
  replace_replace (channel : Channel) (first given : Settings) (old ring : Window)
    (off switch : Bool) :
    replace (replace channel first old off) given ring switch = replace channel given ring switch
  judge_replace (channel : Channel) (ring : Window) (switch : Bool) (rise : Rise) :
    ring.sliding = (window channel).sliding →
    judge (replace channel (settings channel) ring switch) rise =
      { judge channel rise with
        after := replace (judge channel rise).after (settings channel) ring switch }
  endCycle_replace (channel : Channel) (ring : Window) (switch : Bool) :
    endCycle (replace channel (settings channel) ring switch) =
      replace (endCycle channel) (settings channel) ring switch
  idle_replace (channel : Channel) (given : Settings) (ring : Window) (switch : Bool) :
    idle (replace channel given ring switch) = replace (idle channel) given ring switch

attribute [simp] WindowSettings.windowLength_withLength WindowSettings.withLength_windowLength
  WindowChannel.settings_replace WindowChannel.window_replace WindowChannel.observed_replace
  WindowChannel.replace_self WindowChannel.replace_replace

namespace Window

variable (window : Window)

/-- The window with the length that settings ask for; its readings are kept if it has it already. -/
def fit (length : ℕ) : Except LengthRefused Window :=
  if length = window.capacity then .ok window else window.resize (request length)

variable {window} {left right : Window}

theorem age?_congr (same : left.sliding = right.sliding) (offset : ℕ) :
    left.age? offset = right.age? offset := by
  have readings : left.toList = right.toList := congrArg Sliding.readings same
  rw [age?_eq, age?_eq, ← length_toList, ← length_toList, readings]

theorem steepest?_congr_sliding (same : left.sliding = right.sliding) :
    left.steepest? = right.steepest? :=
  steepest?_congr (congrArg Sliding.readings same)

end Window

/-- What is kept when a window is put in place is kept whether or not the window is accepted. -/
theorem kept_settle {Channel Kept : Type} {kept : Channel → Kept} (channel : Channel)
    {place : Window → Channel} (keptPlace : ∀ ring, kept (place ring) = kept channel)
    (result : Except LengthRefused Window) :
    kept (settle channel (result.map place)).1 = kept channel := by
  cases result with
  | error refusal => rfl
  | ok ring => exact keptPlace ring

namespace WindowChannel

open WindowSettings

variable {Channel Settings : Type} [WindowChannel Channel Settings]

section Operations

variable (channel : Channel)

def sample (reading : Float32) : Channel :=
  replace channel (settings channel) ((window channel).push reading) (observed channel)

def compute : Answer Channel :=
  match (window channel).steepest? with
  | none => ⟨0.0, none, channel⟩
  | some rise =>
    let judged := judge channel rise
    ⟨judged.correction, if observed channel then some judged.snapshot else none, judged.after⟩

def reset : Channel :=
  replace (idle channel) (settings channel) (window channel).clear (observed channel)

def resize (length : ℤ) : Except LengthRefused Channel :=
  ((window channel).resize length).map fun ring =>
    replace channel (settings channel) ring (observed channel)

def observe (switch : Bool) : Channel :=
  replace channel (settings channel) (window channel) switch

end Operations

section Driving

variable [WindowSettings Settings] (channel : Channel)

def reconfigure (given : Settings) : Except LengthRefused Channel :=
  if windowLength given = (window channel).capacity then
    .ok (replace channel given (window channel) (observed channel))
  else
    (resize channel (Window.request (windowLength given))).map fun resized =>
      replace resized given (window resized) (observed resized)

def apply : Operation Settings → Channel × Reply
  | .sample reading => (sample channel reading, .done)
  | .compute => ((compute channel).channel,
      .correction (compute channel).correction (compute channel).snapshot)
  | .endCycle => (endCycle channel, .done)
  | .reset => (reset channel, .done)
  | .resize length => settle channel (resize channel length)
  | .reconfigure given => settle channel (reconfigure channel given)
  | .observe switch => (observe channel switch, .done)

end Driving

/-- That one channel has come from another with its settings, its window and its observer kept. -/
def Keeps (channel after : Channel) : Prop :=
  after = replace after (settings channel) (window channel) (observed channel)

namespace Keeps

variable {channel after : Channel} (keeps : Keeps channel after)

include keeps

theorem settings_eq : settings after = settings channel := by
  rw [keeps, settings_replace]

theorem window_eq : window after = window channel := by
  rw [keeps, window_replace]

theorem observed_eq : observed after = observed channel := by
  rw [keeps, observed_replace]

end Keeps

section Steps

variable (channel : Channel)

theorem keeps_judge (rise : Rise) : Keeps channel (judge channel rise).after := by
  have law := judge_replace channel (window channel) (observed channel) rise rfl
  rw [replace_self] at law
  exact congrArg Judgement.after law

theorem keeps_compute : Keeps channel (compute channel).channel := by
  rw [compute]
  split
  · exact (replace_self channel).symm
  · exact keeps_judge channel _

theorem keeps_endCycle : Keeps channel (endCycle channel) := by
  have law := endCycle_replace channel (window channel) (observed channel)
  rwa [replace_self] at law

end Steps

section Driving

variable [WindowSettings Settings] (channel : Channel)

/-- Other settings are compared with the window, and not with the settings before them. -/
theorem reconfigure_eq (given : Settings) :
    reconfigure channel given =
      ((window channel).fit (windowLength given)).map fun ring =>
        replace channel given ring (observed channel) := by
  rw [reconfigure, Window.fit, resize]
  split
  · rfl
  · cases (window channel).resize (Window.request (windowLength given)) with
    | error refusal => rfl
    | ok ring => simp [Except.map]

theorem apply_reconfigure (given : Settings) :
    apply channel (.reconfigure given) =
      settle channel (((window channel).fit (windowLength given)).map fun ring =>
        replace channel given ring (observed channel)) := by
  rw [apply, reconfigure_eq]

/-- What survives the parts of an operation survives every operation. -/
theorem kept_apply {Kept : Type} {kept : Channel → Kept}
    (keptReplace : ∀ (channel : Channel) (given : Settings) ring switch,
      kept (replace channel given ring switch) = kept channel)
    (keptJudge : ∀ (channel : Channel) rise, kept (judge channel rise).after = kept channel)
    (keptEndCycle : ∀ channel : Channel, kept (endCycle channel) = kept channel)
    (keptIdle : ∀ channel : Channel, kept (idle channel) = kept channel)
    (operation : Operation Settings) : kept (apply channel operation).1 = kept channel := by
  cases operation with
  | sample reading => exact keptReplace _ _ _ _
  | compute =>
      rw [apply, compute]
      split
      · rfl
      · exact keptJudge _ _
  | endCycle => exact keptEndCycle channel
  | reset => exact (keptReplace _ _ _ _).trans (keptIdle channel)
  | resize length => exact kept_settle channel (fun _ => keptReplace _ _ _ _) _
  | reconfigure given =>
      rw [apply_reconfigure]
      exact kept_settle channel (fun _ => keptReplace _ _ _ _) _
  | observe switch => exact keptReplace _ _ _ _

end Driving

/-- That a channel has just been made with its settings. -/
structure New [WindowSettings Settings] (channel : Channel) : Prop where
  made : Window.ofLength (windowLength (settings channel)) = .ok (window channel)
  idle_eq : idle channel = channel
  unobserved : observed channel = false

namespace New

variable [WindowSettings Settings] {channel : Channel} (new : New channel)

include new

theorem capacity_eq : (window channel).capacity = windowLength (settings channel) :=
  congrArg Sliding.capacity (Window.Fresh.ofLength new.made).sliding_eq

theorem toList_eq : (window channel).toList = [] :=
  congrArg Sliding.readings (Window.Fresh.ofLength new.made).sliding_eq

end New

end WindowChannel

instance ThrottleSettings.windowSettings : WindowSettings ThrottleSettings where
  windowLength := ThrottleSettings.windowLength
  withLength settings windowLength := { settings with windowLength }
  windowLength_withLength _ _ := rfl
  withLength_windowLength _ := rfl

instance Throttle.windowChannel : WindowChannel Throttle ThrottleSettings where
  settings := Throttle.settings
  window := Throttle.window
  observed := Throttle.observed
  replace channel settings window observed := { channel with settings, window, observed }
  judge channel rise :=
    let extra := channel.injected (channel.charge rise)
    let after := { channel with pump := channel.charged (channel.charge rise) }
    ⟨extra, after.snapshot rise extra, after⟩
  endCycle := Throttle.endCycle
  idle channel := { channel with pump := Pump.idle }
  settings_replace _ _ _ _ := rfl
  window_replace _ _ _ _ := rfl
  observed_replace _ _ _ _ := rfl
  replace_self _ := rfl
  replace_replace _ _ _ _ _ _ _ := rfl
  judge_replace _ _ _ _ _ := rfl
  endCycle_replace _ _ _ := rfl
  idle_replace _ _ _ _ := rfl

theorem Throttle.apply_eq : Throttle.apply = WindowChannel.apply := by
  funext channel operation
  cases operation <;> rfl

theorem Load.assess_congr (channel : Load) {window : Window}
    (same : window.sliding = channel.window.sliding) (observed : Bool) (rise : Rise) :
    assess { channel with window, observed } rise = channel.assess rise := by
  simp only [assess, Window.age?_congr same]
  rfl

instance LoadSettings.windowSettings : WindowSettings LoadSettings where
  windowLength := LoadSettings.windowLength
  withLength settings windowLength := { settings with windowLength }
  windowLength_withLength _ _ := rfl
  withLength_windowLength _ := rfl

instance Load.windowChannel : WindowChannel Load LoadSettings where
  settings := Load.settings
  window := Load.window
  observed := Load.observed
  replace channel settings window observed := { channel with settings, window, observed }
  judge channel rise := ⟨(channel.assess rise).result, .load (channel.assess rise), channel⟩
  endCycle := id
  idle := id
  settings_replace _ _ _ _ := rfl
  window_replace _ _ _ _ := rfl
  observed_replace _ _ _ _ := rfl
  replace_self _ := rfl
  replace_replace _ _ _ _ _ _ _ := rfl
  judge_replace channel ring switch rise same := by
    rw [Load.assess_congr channel same]
  endCycle_replace _ _ _ := rfl
  idle_replace _ _ _ _ := rfl

theorem Load.apply_eq : Load.apply = WindowChannel.apply := by
  funext channel operation
  cases operation <;> rfl

theorem Throttle.create_eq_ok_iff {settings : ThrottleSettings}
    {table : Float32 → Float32 → Float32} {channel : Throttle} :
    create settings table = .ok channel ↔
      WindowChannel.New channel ∧ channel.settings = settings ∧ channel.table = table := by
  rw [create, map_eq_ok_iff]
  constructor
  · rintro ⟨window, made, rfl⟩
    exact ⟨⟨made, rfl, rfl⟩, rfl, rfl⟩
  · rintro ⟨⟨made, idle, unobserved⟩, rfl, rfl⟩
    refine ⟨channel.window, made, ?_⟩
    rw [← idle]
    exact congrArg (observe { channel with pump := Pump.idle }) unobserved.symm

theorem Load.create_eq_ok_iff {settings : LoadSettings} {taper : Float32 → Float32}
    {channel : Load} :
    create settings taper = .ok channel ↔
      WindowChannel.New channel ∧ channel.settings = settings ∧ channel.taper = taper := by
  rw [create, map_eq_ok_iff]
  constructor
  · rintro ⟨window, made, rfl⟩
    exact ⟨⟨made, rfl, rfl⟩, rfl, rfl⟩
  · rintro ⟨⟨made, _, unobserved⟩, rfl, rfl⟩
    exact ⟨channel.window, made, congrArg channel.observe unobserved.symm⟩

end TransientFuel
