import Jukebox.Document.Toml.Reader
import Jukebox.Settings.Codec
import Jukebox.Settings.Error

/-!
# Settings as text

Settings are written in TOML. Reading them decodes the document and checks that the player can run
with the outcome.
-/

namespace Jukebox.Settings

/-- The settings, provided that the player can run with them. -/
def checked (s : Settings) : Except SettingsError Settings :=
  match s.check with
  | .ok () => .ok s
  | .error rejection => .error (.unusable rejection.message)

/-- The settings that a text describes. -/
def ofText (text : String) : Except SettingsError Settings :=
  match Toml.parse? text with
  | none => .error .notToml
  | some document =>
    match ofDocument .toml document with
    | .error cause => .error (.undecodable cause)
    | .ok s => s.checked

theorem checked_eq_ok_iff {s t : Settings} : s.checked = .ok t ↔ s = t ∧ s.Usable := by
  rw [← check_eq_ok_iff, checked]
  cases h : s.check <;> simp

/-- Settings read from a text are settings the player can run with. -/
theorem usable_of_ofText_eq_ok {text : String} {s : Settings} (h : ofText text = .ok s) :
    s.Usable := by
  unfold ofText at h
  split at h
  · simp at h
  · split at h
    · simp at h
    · obtain ⟨rfl, usable⟩ := checked_eq_ok_iff.1 h
      exact usable

end Jukebox.Settings
