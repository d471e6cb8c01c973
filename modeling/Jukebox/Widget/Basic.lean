import Jukebox.PlayerError
import Jukebox.Settings.Basic

/-!
# Widgets

A widget plays one item. The player asks a provider for a widget, tells it to play once it reports
that it is ready, listens to its further reports, and drops it. Each widget belongs to a session of
its own, and every report carries the session it belongs to.

A provider is any machine that answers these three requests. It may accept or refuse, and with each
answer it may send any reports, also in the name of sessions of the past.
-/

namespace Jukebox

/-- A session: one attempt to play one item. Session 0 is never used. -/
abbrev Session := Nat

/-- Where a widget is shown and how large it is. -/
structure Layout where
  anchor : String := "yt"
  width : UInt32 := 640
  height : UInt32 := 390
  deriving Repr, DecidableEq

/-- The layout that the settings ask for. -/
def Layout.ofSettings (s : WidgetSettings) : Layout where
  anchor := s.anchor
  width := s.width
  height := s.height

/-- The layout without any settings is that of the default settings. -/
theorem Layout.ofSettings_default : Layout.ofSettings {} = {} := rfl

/-- What a widget is made from. -/
structure WidgetSpec extends Layout where
  identifier : String
  deriving Repr, DecidableEq

/-- What a widget is doing. -/
inductive WidgetState
  | unstarted
  | ended
  | playing
  | paused
  | buffering
  | cued
  deriving Repr, DecidableEq

/-- What a widget reports. -/
inductive Report
  /-- It can be told to play. -/
  | ready
  /-- It is now doing something else. -/
  | changed (state : WidgetState)
  /-- It cannot play its item. -/
  | failed (reason : String)
  deriving Repr, DecidableEq

/-- A report with the session it belongs to. -/
structure Callback where
  session : Session
  report : Report
  deriving Repr, DecidableEq

/-- How a provider answers: its memory afterwards, what it sends, and whether it did as asked. -/
structure Answer (σ α : Type) where
  memory : σ
  sent : List Callback := []
  result : Except PlayerError α

/-- A provider of widgets with a memory of type `σ`. -/
structure Provider (σ : Type) where
  /-- Makes the widget of a session; the result is the identifier that the widget reports. -/
  create : σ → Session → WidgetSpec → Answer σ String
  /-- Tells the widget of a session to play. -/
  play : σ → Session → Answer σ Unit
  /-- Drops the widget of a session. -/
  drop : σ → Session → σ × List Callback

end Jukebox
