import Jukebox.Document.Decode

/-!
# Settings that cannot be had

The reasons why settings cannot be read from a text or a file.
-/

namespace Jukebox

/-- Why there are no settings. -/
inductive SettingsError
  /-- The file cannot be read. -/
  | unreadable (reason : String)
  /-- The text is not TOML. -/
  | notToml
  /-- The text is TOML, but does not describe settings. -/
  | undecodable (cause : DecodeError)
  /-- The settings are such that the player cannot run. -/
  | unusable (reason : String)
  deriving Repr, DecidableEq

namespace SettingsError

/-- What is wrong, without the word for its kind where the text itself is at fault. -/
def reason : SettingsError → String
  | unreadable reason => reason
  | notToml => "the text is not TOML"
  | undecodable cause => cause.message
  | unusable reason => reason

/-- What is wrong, in full. -/
def message : SettingsError → String
  | e@(unreadable _) => s!"IO error: {e.reason}"
  | e@notToml | e@(undecodable _) => s!"TOML parse error: {e.reason}"
  | e@(unusable _) => s!"Configuration error: {e.reason}"

end SettingsError

end Jukebox
