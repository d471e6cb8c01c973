import Jukebox.Link.ReadyState

/-!
# The connection that requests come from

There is one connection at a time. They are numbered by generation, from 1 on. A connection that
has closed is not opened again; a look at it from time to time replaces it by the next generation.
Whatever happens to a connection that was replaced is of no interest any more.
-/

namespace Jukebox

/-- What a connection shows of itself: the generation it says it is of, and its ready state. -/
structure Connection where
  generation : Nat
  state : ReadyState
  deriving Repr, DecidableEq

/-- Opens connections: how the connection that is asked for under a number is first seen. What was
asked for earlier is known too. -/
abbrev Connector := (earlier : List Nat) → Nat → Connection

/-- The current connection. -/
structure Link extends Connection where
  /-- The numbers under which connections were asked for, in order. -/
  opened : List Nat
  deriving Repr, DecidableEq

namespace Link

/-- The first connection is opened. -/
def start (connector : Connector) : Link where
  toConnection := connector [] 1
  opened := [1]

/-- The generation is that of the current connection. -/
def isCurrent (link : Link) (generation : Nat) : Bool :=
  link.generation = generation

/-- The connection of a generation changes its ready state. -/
def setState (link : Link) (generation : Nat) (state : ReadyState) : Link :=
  if link.isCurrent generation then { link with state } else link

/-- The next connection is opened in place of the current one. -/
def replace (connector : Connector) (link : Link) : Link where
  toConnection := connector link.opened (link.generation + 1)
  opened := link.opened ++ [link.generation + 1]

/-- The current connection is replaced if it has closed; the outcome says whether it was. -/
def ensureOpen (connector : Connector) (link : Link) : Link × Bool :=
  if link.state = .closed then (link.replace connector, true) else (link, false)

end Link

end Jukebox
