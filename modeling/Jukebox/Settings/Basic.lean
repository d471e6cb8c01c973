import Jukebox.Text.Blank

/-!
# Settings

What the player can be told: where requests come from, how often it looks at its connection and
its queue, how items are played, what is logged and where its status is served. Every setting has
a default. `Settings.check` names the first setting with which the player cannot run.
-/

namespace Jukebox

/-- What plays an item. -/
inductive Backend
  /-- An external player. -/
  | process
  /-- Nothing; each item ends after a fixed time. -/
  | dryRun
  deriving Repr, DecidableEq

/-- The periods of the two timers, in milliseconds. -/
structure PollSettings where
  healthMs : UInt64 := 3000
  playbackMs : UInt64 := 1000
  deriving Repr, DecidableEq

/-- How items are played. -/
structure WidgetSettings where
  backend : Backend := .process
  /-- The name of the place a widget is bound to. -/
  anchor : String := "yt"
  width : UInt32 := 640
  height : UInt32 := 390
  /-- The external player. -/
  command : String := "mpv"
  /-- Its arguments, with placeholders for the item. -/
  args : List String :=
    ["--force-window=yes", "--geometry=\x7bwidth\x7dx\x7bheight\x7d", "--title=\x7banchor\x7d",
      "\x7burl\x7d"]
  /-- The address of an item, with a placeholder for its identifier. -/
  urlTemplate : String := "https://www.youtube.com/watch?v=\x7bid\x7d"
  /-- How long an item lasts that nothing plays, in milliseconds. -/
  dryRunMs : UInt64 := 3000
  deriving Repr, DecidableEq

/-- What is logged. -/
structure LoggingSettings where
  level : String := "info"
  deriving Repr, DecidableEq

/-- Whether and where the status is served. -/
structure StatusSettings where
  enabled : Bool := false
  bind : String := "127.0.0.1:5790"
  deriving Repr, DecidableEq

/-- All settings. -/
structure Settings where
  /-- The address that requests come from. -/
  endpoint : String := "ws://localhost:9999"
  poll : PollSettings := {}
  widget : WidgetSettings := {}
  logging : LoggingSettings := {}
  status : StatusSettings := {}
  deriving Repr, DecidableEq

/-- A setting with which the player cannot run. -/
inductive Rejection
  | blankEndpoint
  | zeroHealthPeriod
  | zeroPlaybackPeriod
  | blankCommand
  deriving Repr, DecidableEq

/-- What the player says about a setting it cannot run with. -/
def Rejection.message : Rejection → String
  | blankEndpoint => "endpoint must not be empty"
  | zeroHealthPeriod => "poll.health_interval_ms must be greater than zero"
  | zeroPlaybackPeriod => "poll.playback_interval_ms must be greater than zero"
  | blankCommand => "widget.command must not be empty for the process backend"

/-- The player can run: the endpoint is not blank, both periods are positive, and there is a
command if an external player is wanted. -/
structure Settings.Usable (s : Settings) : Prop where
  endpoint : Text.allBlank s.endpoint = false
  healthMs : 0 < s.poll.healthMs
  playbackMs : 0 < s.poll.playbackMs
  command : s.widget.backend = .process → Text.allBlank s.widget.command = false

/-- The first setting that the player cannot run with, if there is one. -/
def Settings.check (s : Settings) : Except Rejection Unit :=
  if Text.allBlank s.endpoint then .error .blankEndpoint
  else if s.poll.healthMs = 0 then .error .zeroHealthPeriod
  else if s.poll.playbackMs = 0 then .error .zeroPlaybackPeriod
  else if s.widget.backend = .process ∧ Text.allBlank s.widget.command then .error .blankCommand
  else .ok ()

private theorem word_pos_iff {n : UInt64} : 0 < n ↔ n ≠ 0 := by
  rw [UInt64.lt_iff_toNat_lt, ne_eq, ← UInt64.toNat_inj, UInt64.toNat_zero]
  omega

/-- The check passes exactly the settings that the player can run with. -/
theorem Settings.check_eq_ok_iff {s : Settings} : s.check = .ok () ↔ s.Usable := by
  have reads : s.Usable ↔ Text.allBlank s.endpoint = false ∧ s.poll.healthMs ≠ 0 ∧
      s.poll.playbackMs ≠ 0 ∧
      (s.widget.backend = .process → Text.allBlank s.widget.command = false) :=
    ⟨fun h => ⟨h.endpoint, word_pos_iff.1 h.healthMs, word_pos_iff.1 h.playbackMs, h.command⟩,
      fun h => ⟨h.1, word_pos_iff.2 h.2.1, word_pos_iff.2 h.2.2.1, h.2.2.2⟩⟩
  rw [reads, check]
  cases Text.allBlank s.endpoint <;> cases Text.allBlank s.widget.command <;>
    by_cases h1 : s.poll.healthMs = 0 <;> by_cases h2 : s.poll.playbackMs = 0 <;>
    cases s.widget.backend <;> simp [h1, h2]

end Jukebox
