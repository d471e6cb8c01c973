import Jukebox.Host.Error

/-!
# How programs end

A program ends by itself, with a status, or a signal ends it. Whoever started it may also fail to
learn which.
-/

namespace Jukebox.Host

/-- How a program has ended. -/
inductive Exit
  | status (code : Nat)
  /-- A signal has ended it, and perhaps an image of its memory was kept. -/
  | signal (number : Nat) (dumped : Bool)
  /-- It could not be learned. -/
  | unknown (cause : Error)
  deriving Repr, DecidableEq

/-- The names of the signals, from the first on. -/
def signalNames : List String :=
  ["SIGHUP", "SIGINT", "SIGQUIT", "SIGILL", "SIGTRAP", "SIGABRT", "SIGBUS", "SIGFPE", "SIGKILL",
    "SIGUSR1", "SIGSEGV", "SIGUSR2", "SIGPIPE", "SIGALRM", "SIGTERM", "SIGSTKFLT", "SIGCHLD",
    "SIGCONT", "SIGSTOP", "SIGTSTP", "SIGTTIN", "SIGTTOU", "SIGURG", "SIGXCPU", "SIGXFSZ",
    "SIGVTALRM", "SIGPROF", "SIGWINCH", "SIGIO", "SIGPWR", "SIGSYS"]

/-- The name of a signal; those without one go by their numbers alone. -/
def signalName? (number : Nat) : Option String :=
  if number = 0 then none else signalNames[number - 1]?

/-- How a program has ended, in words. -/
def Exit.message : Exit → String
  | status code => s!"exit status: {code}"
  | signal number dumped =>
    let name := ((signalName? number).map fun name => " (" ++ name ++ ")").getD ""
    s!"signal: {number}" ++ name ++ if dumped then " (core dumped)" else ""
  | unknown cause => cause.message

end Jukebox.Host
