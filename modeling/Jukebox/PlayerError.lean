/-!
# Failures of the player

What can go wrong while the player runs, and how it says so.
-/

namespace Jukebox

/-- A failure, with the reason for it. -/
inductive PlayerError
  /-- The connection that requests come from. -/
  | connection (reason : String)
  /-- A widget that cannot be made or told to play. -/
  | widget (reason : String)
  /-- The status server. -/
  | http (reason : String)
  /-- A file, a socket or a process. -/
  | io (reason : String)
  deriving Repr, DecidableEq

namespace PlayerError

/-- What has failed. -/
def title : PlayerError → String
  | connection _ => "Connection error: "
  | widget _ => "Widget error: "
  | http _ => "HTTP server error: "
  | io _ => "I/O error: "

/-- Why it has failed. -/
def reason : PlayerError → String
  | connection reason | widget reason | http reason | io reason => reason

/-- The failure in words. -/
def message (e : PlayerError) : String := e.title ++ e.reason

/-- The words tell which failure it is and what its reason was. -/
theorem message_inj {e e' : PlayerError} : e.message = e'.message ↔ e = e' := by
  rw [message, message, ← String.toList_inj, String.toList_append, String.toList_append]
  -- no two kinds begin with the same letter
  cases e <;> cases e' <;> simp [title, reason, String.toList_inj]

end PlayerError

end Jukebox
