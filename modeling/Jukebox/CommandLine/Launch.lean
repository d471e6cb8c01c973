import Jukebox.CommandLine.Help
import Jukebox.CommandLine.LogFilter
import Jukebox.Host.Address
import Jukebox.PlayerError

/-!
# Launch

What the program does with its arguments and its environment. It ends at once where it is asked to
tell about itself, where it is not understood, and where it has no settings to run with. Else it
runs until it is told to stop, and its log tells how it started and how it ended.
-/

namespace Jukebox.CommandLine

/-- How the running program is told to stop. -/
inductive Signal
  | interrupt
  | terminate
  deriving Repr, DecidableEq

/-- The program as it runs. -/
structure Running where
  settings : Settings
  source : SettingsSource
  /-- What of the log is shown. -/
  filter : LogFilter
  /-- Why the status cannot be served, if it should be. -/
  statusFailure : Option PlayerError := none

/-- What comes of starting the program. -/
inductive Launch
  /-- It ends at once, with an exit code, what it prints, and what it prints about errors. -/
  | ended (code : Nat) (output errors : String)
  /-- It runs until it is told to stop; then it ends with exit code 0. -/
  | running (state : Running)

/-! ## The log -/

/-- The target of the program itself. -/
def mainTarget : String := "songq_player"

/-- The filter that the settings ask for. -/
def filterText (level : String) : String :=
  s!"songq_player={level},songq_common={level},tower_http=info"

/-- What of the log is shown: what the environment says where it can be understood, else what the
settings say. -/
def chooseFilter (environment : Environment) (level : String) : LogFilter :=
  (environment.logFilter.bind LogFilter.read?).getD (LogFilter.readLeniently (filterText level))

/-- The word for a backend in the log. -/
def backendWord : Backend → String
  | .process => "Process"
  | .dryRun => "DryRun"

/-- How grave it is that settings come from a source. -/
def sourceLevel : SettingsSource → Level
  | .file _ => .info
  | .missing _ | .defaults => .warn

namespace Running

/-- The log of the start, before anything is left out. -/
def startLines (r : Running) : List LogLine :=
  let s := r.settings
  let w := s.widget
  let size := s!"{w.width.toNat}x{w.height.toNat} on " ++ "#" ++ w.anchor
  let periods := s!"health {s.poll.healthMs.toNat}ms, playback {s.poll.playbackMs.toNat}ms"
  [ ⟨sourceLevel r.source, mainTarget, s!"Configuration: {r.source.describe}"⟩,
    ⟨.info, mainTarget, s!"Starting SongQ player, endpoint {s.endpoint}"⟩,
    ⟨.info, mainTarget, s!"Widget: {backendWord w.backend} {size}"⟩,
    ⟨.info, mainTarget ++ "::poll", s!"Poll loop started ({periods})"⟩ ] ++
  (r.statusFailure.map fun e =>
    ⟨.error, mainTarget, s!"Status API failed: {e.message}"⟩).toList

/-- The log of the end, before anything is left out. -/
def stopLines (signal : Signal) : List LogLine :=
  let received := match signal with
    | .interrupt => "Ctrl+C"
    | .terminate => "terminate signal"
  [ ⟨.info, mainTarget, s!"Received {received}, shutting down"⟩,
    ⟨.info, mainTarget, "Shutdown complete"⟩ ]

/-- The log of the start. -/
def startLog (r : Running) : List LogLine := r.startLines.filter r.filter.shows

/-- The log of the end. -/
def stopLog (r : Running) (signal : Signal) : List LogLine :=
  (stopLines signal).filter r.filter.shows

end Running

/-! ## The start -/

/-- The paths that the start may look at. -/
def pathsOfInterest (environment : Environment) (arguments : List String) : List Path :=
  let named := match Options.read environment arguments with
    | .ok options => options.config.toList
    | .error _ => []
  named ++ environment.locations.named?.toList ++ environment.locations.defaults

/-- The program ends without a start. -/
def Stop.launch (environment : Environment) : Stop → Launch
  | .help => .ended 0 (helpText environment) ""
  | .version => .ended 0 versionText ""
  | .refused refusal => .ended 2 "" refusal.report

/-- Why the status cannot be served, if it should be. -/
def statusFailure (listen : String → Except Host.BindError Unit) (s : StatusSettings) :
    Option PlayerError :=
  if s.enabled then
    match listen s.bind with
    | .ok () => none
    | .error e => some (.io e.message)
  else none

/-- Starts the program. -/
def launch (environment : Environment) (files : Files)
    (listen : String → Except Host.BindError Unit) (arguments : List String) : Launch :=
  match Options.read environment arguments with
  | .error stop => stop.launch environment
  | .ok options =>
    match Settings.atStartup environment.locations files options.config options.overrides with
    | .error e => .ended 1 "" e.report
    | .ok (settings, source) =>
      .running
        { settings, source
          filter := chooseFilter environment settings.logging.level
          statusFailure := statusFailure listen settings.status }

end Jukebox.CommandLine
