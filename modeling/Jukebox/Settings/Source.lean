import Jukebox.Files.Basic
import Jukebox.Settings.Text
import Jukebox.Text.Blank

/-!
# Where settings come from

The file with the settings is the one named on the command line, else the one that the environment
names, else the first default location where there is a file. A file that was named but is not there
gives the defaults, and so does no file at all; one that is there has to be readable, and its
settings such that the player can run with them.
-/

namespace Jukebox

/-- Where settings came from. -/
inductive SettingsSource
  /-- From this file. -/
  | file (path : Path)
  /-- This file was asked for, but is not there; they are the defaults. -/
  | missing (path : Path)
  /-- No file was asked for or found; they are the defaults. -/
  | defaults
  deriving Repr, DecidableEq

/-- Where settings came from, in words. -/
def SettingsSource.describe : SettingsSource → String
  | file path => path.display
  | missing path => path.display ++ " not found, using defaults"
  | defaults => "no config file found, using defaults"

namespace Settings

/-- The settings in a file. What is wrong with its text is said together with its path. -/
def load (files : Files) (path : Path) : Except SettingsError Settings :=
  match files.text path with
  | .error e => .error (.unreadable e.message)
  | .ok text =>
    match ofText text with
    | .ok s => .ok s
    | .error e => .error (.unusable s!"{path.display}: {e.message}")

/-- The settings in a file that may not be there. -/
def loadOrDefault (files : Files) : Option Path → Except SettingsError (Settings × SettingsSource)
  | none => .ok ({}, .defaults)
  | some path =>
    if files.present path then (load files path).map fun s => (s, .file path)
    else .ok ({}, .missing path)

end Settings

/-- What a process knows about the places of files. -/
structure Locations where
  /-- The value of the variable that names the file with the settings, if it is set. -/
  settingsFile : Option (List UInt8) := none
  /-- The directory with the user's settings, as the system looks it up. -/
  configDirectory : Option Path := none
  deriving Repr, DecidableEq

namespace Locations

/-- The file that the environment names. A value that is blank or no text names none. -/
def named? (l : Locations) : Option Path :=
  l.settingsFile.bind fun bytes =>
    (Text.ofBytes? bytes).bind fun text => if Text.allBlank text then none else some ⟨bytes⟩

/-- The places where a file with settings may be without being named, the most specific first. -/
def defaults (l : Locations) : List Path :=
  (l.configDirectory.map fun directory => (directory.join "songq").join "config.toml").toList ++
    [.ofText "/etc/songq/config.toml"]

/-- The file with the settings, if there is one. -/
def resolve (l : Locations) (files : Files) (option : Option Path) : Option Path :=
  match option with
  | some path => some path
  | none =>
    match l.named? with
    | some path => some path
    | none => l.defaults.find? files.present

end Locations

end Jukebox
