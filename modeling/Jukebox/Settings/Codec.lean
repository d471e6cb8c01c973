import Jukebox.Settings.Basic
import Jukebox.Document.Decode

/-!
# Settings as documents

Settings are decoded as an overlay on the defaults, section by section: what a document leaves out
keeps its default, and keys that no setting has are passed over. Encoding writes every setting.
-/

namespace Jukebox

open Document

/-- The words for the backends. -/
def Backend.names : List (String × Backend) := [("process", .process), ("dry-run", .dryRun)]

/-- The word for a backend. -/
def Backend.name : Backend → String
  | process => "process"
  | dryRun => "dry-run"

namespace PollSettings

/-- The settings of the timers. -/
def fields (dialect : Dialect) : List (RecordField PollSettings) :=
  [ ⟨"health_interval_ms", fun s d => do
      return { s with healthMs := ← d.toWord64 dialect "u64" }⟩,
    ⟨"playback_interval_ms", fun s d => do
      return { s with playbackMs := ← d.toWord64 dialect "u64" }⟩ ]

/-- The section of the timers. -/
def ofDocument (dialect : Dialect) : Document → Decoded PollSettings :=
  toRecord dialect "PollConfig" (fields dialect) {}

/-- The section of the timers, in full. -/
def toDocument (s : PollSettings) : Document :=
  .table
    [ ("health_interval_ms", .integer s.healthMs.toNat),
      ("playback_interval_ms", .integer s.playbackMs.toNat) ]

end PollSettings

namespace WidgetSettings

/-- The settings of the widgets. -/
def fields (dialect : Dialect) : List (RecordField WidgetSettings) :=
  [ ⟨"backend", fun s d => do return { s with backend := ← d.toChoice dialect Backend.names }⟩,
    ⟨"anchor", fun s d => do return { s with anchor := ← d.toText dialect }⟩,
    ⟨"width", fun s d => do return { s with width := ← d.toWord32 dialect "u32" }⟩,
    ⟨"height", fun s d => do return { s with height := ← d.toWord32 dialect "u32" }⟩,
    ⟨"command", fun s d => do return { s with command := ← d.toText dialect }⟩,
    ⟨"args", fun s d => do return { s with args := ← d.toTexts dialect }⟩,
    ⟨"url_template", fun s d => do return { s with urlTemplate := ← d.toText dialect }⟩,
    ⟨"dry_run_ms", fun s d => do return { s with dryRunMs := ← d.toWord64 dialect "u64" }⟩ ]

/-- The section of the widgets. -/
def ofDocument (dialect : Dialect) : Document → Decoded WidgetSettings :=
  toRecord dialect "WidgetConfig" (fields dialect) {}

/-- The section of the widgets, in full. -/
def toDocument (s : WidgetSettings) : Document :=
  .table
    [ ("backend", .string s.backend.name),
      ("anchor", .string s.anchor),
      ("width", .integer s.width.toNat),
      ("height", .integer s.height.toNat),
      ("command", .string s.command),
      ("args", .list (s.args.map .string)),
      ("url_template", .string s.urlTemplate),
      ("dry_run_ms", .integer s.dryRunMs.toNat) ]

end WidgetSettings

namespace LoggingSettings

/-- The settings of the log. -/
def fields (dialect : Dialect) : List (RecordField LoggingSettings) :=
  [ ⟨"level", fun s d => do return { s with level := ← d.toText dialect }⟩ ]

/-- The section of the log. -/
def ofDocument (dialect : Dialect) : Document → Decoded LoggingSettings :=
  toRecord dialect "LoggingConfig" (fields dialect) {}

/-- The section of the log, in full. -/
def toDocument (s : LoggingSettings) : Document :=
  .table [("level", .string s.level)]

end LoggingSettings

namespace StatusSettings

/-- The settings of the status server. -/
def fields (dialect : Dialect) : List (RecordField StatusSettings) :=
  [ ⟨"enabled", fun s d => do return { s with enabled := ← d.toFlag dialect }⟩,
    ⟨"bind", fun s d => do return { s with bind := ← d.toText dialect }⟩ ]

/-- The section of the status server. -/
def ofDocument (dialect : Dialect) : Document → Decoded StatusSettings :=
  toRecord dialect "StatusConfig" (fields dialect) {}

/-- The section of the status server, in full. -/
def toDocument (s : StatusSettings) : Document :=
  .table [("enabled", .boolean s.enabled), ("bind", .string s.bind)]

end StatusSettings

namespace Settings

/-- All settings, section by section. -/
def fields (dialect : Dialect) : List (RecordField Settings) :=
  [ ⟨"endpoint", fun s d => do return { s with endpoint := ← d.toText dialect }⟩,
    ⟨"poll", fun s d => do return { s with poll := ← PollSettings.ofDocument dialect d }⟩,
    ⟨"widget", fun s d => do return { s with widget := ← WidgetSettings.ofDocument dialect d }⟩,
    ⟨"logging", fun s d => do return { s with logging := ← LoggingSettings.ofDocument dialect d }⟩,
    ⟨"status", fun s d => do return { s with status := ← StatusSettings.ofDocument dialect d }⟩ ]

/-- The settings that a document gives. -/
def ofDocument (dialect : Dialect) : Document → Decoded Settings :=
  toRecord dialect "TomlConfig" (fields dialect) {}

/-- All settings, in full. -/
def toDocument (s : Settings) : Document :=
  .table
    [ ("endpoint", .string s.endpoint),
      ("poll", s.poll.toDocument),
      ("widget", s.widget.toDocument),
      ("logging", s.logging.toDocument),
      ("status", s.status.toDocument) ]

end Settings

end Jukebox
