import Jukebox.Settings.Source

/-!
# Settings at start-up

The settings from the file are overlaid with what the command line gives, and the outcome is checked
once more.
-/

namespace Jukebox

/-- What the command line says about settings. -/
structure Overrides where
  endpoint : Option String := none
  /-- The status is served at this address. -/
  statusBind : Option String := none
  /-- Nothing is played. -/
  dryRun : Bool := false
  deriving Repr, DecidableEq

/-- The settings with those that the command line gives. -/
def Overrides.apply (o : Overrides) (s : Settings) : Settings :=
  { s with
    endpoint := o.endpoint.getD s.endpoint
    status := match o.statusBind with
      | some bind => { enabled := true, bind }
      | none => s.status
    widget := if o.dryRun then { s.widget with backend := .dryRun } else s.widget }

/-- Why the player does not start. -/
inductive StartupError
  /-- The settings cannot be had. -/
  | loading (cause : SettingsError)
  /-- The player cannot run with the settings. -/
  | invalid (cause : SettingsError)
  deriving Repr, DecidableEq

namespace StartupError

/-- What was being done. -/
def context : StartupError → String
  | loading _ => "Failed to load configuration"
  | invalid _ => "Invalid configuration"

/-- What went wrong, and what was behind it. -/
def causes : StartupError → List String
  | loading cause | invalid cause =>
    match cause with
    | .unreadable reason => [cause.message, reason]
    | _ => [cause.message]

/-- A cause on lines of its own, behind its number where there are several. -/
def indented (number : Option Nat) (text : String) : String :=
  let (first, others) := match number with
    | some n => (s!"    {n}: ", "       ")
    | none => ("    ", "    ")
  first ++ String.intercalate ("\n" ++ others)
    ((text.toList.splitOnP (· = '\n')).map String.ofList)

/-- The report of the player that it does not start. -/
def report (e : StartupError) : String :=
  let lines := match e.causes with
    | [cause] => [indented none cause]
    | causes => causes.mapIdx fun i cause => indented (some i) cause
  s!"Error: {e.context}\n\nCaused by:\n" ++ String.intercalate "\n" lines ++ "\n"

end StartupError

namespace Settings

/-- The settings that the player starts with, and where they come from. -/
def atStartup (l : Locations) (files : Files) (option : Option Path) (o : Overrides) :
    Except StartupError (Settings × SettingsSource) :=
  match loadOrDefault files (l.resolve files option) with
  | .error e => .error (.loading e)
  | .ok (base, source) =>
    match (o.apply base).checked with
    | .error e => .error (.invalid e)
    | .ok s => .ok (s, source)

/-- The player starts only with settings that it can run with. -/
theorem usable_of_atStartup_eq_ok {l : Locations} {files : Files} {option : Option Path}
    {o : Overrides} {s : Settings} {source : SettingsSource}
    (h : atStartup l files option o = .ok (s, source)) : s.Usable := by
  unfold atStartup at h
  split at h
  · simp at h
  · split at h
    · simp at h
    · rename_i base _ _ t ht
      obtain ⟨rfl, usable⟩ := checked_eq_ok_iff.1 ht
      obtain ⟨rfl, -⟩ := by simpa using h
      exact usable

end Settings

end Jukebox
