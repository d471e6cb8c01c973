import Jukebox.Host.Network
import Jukebox.Link.Basic
import Jukebox.Link.Endpoint
import Jukebox.Player.Input

/-!
# The life of one connection

A connection is opened, gives the player every text that comes in, and closes in the end. What it
does is a list of moves: it changes its ready state, which the player can look at whenever it likes,
and it reports, which the player gets to see when the report's turn comes in the inbox. Between two
moves anything else may happen.

Once the server has said that it closes, the connection waits for the end only for so long; if
nothing arrives in that time, it closes by itself. Nothing but a text is reported of what comes in.
-/

namespace Jukebox.Link

/-- What reading from an open connection gives. -/
inductive Reading
  /-- A text. -/
  | text (text : String)
  /-- The server says that it closes. -/
  | close
  /-- Something else that is no text. -/
  | other
  /-- Nothing, for as long as a closing connection waits. -/
  | silence
  /-- The connection is over. -/
  | finished
  /-- The connection is broken. -/
  | broken (reason : String)
  deriving Repr, DecidableEq

/-- Opens connections over a network: each goes by the number it was asked for under, and connects
at first. -/
def dialer : Connector := fun _ generation => ⟨generation, .connecting⟩

/-- What others can see a connection do. -/
inductive Move
  /-- Its ready state changes. -/
  | become (state : ReadyState)
  /-- It reports to the player. -/
  | report (input : Input)
  deriving Repr, DecidableEq

/-- The last moves of a connection. -/
def lastMoves (generation : Nat) : List Move :=
  [.become .closed, .report (.closed generation)]

/-- What went wrong, and the last moves. -/
def failureMoves (generation : Nat) (reason : String) : List Move :=
  .report (.failed generation (PlayerError.connection reason).message) :: lastMoves generation

/-- The moves of an open connection while it reads; `closing` says whether the server closes. Where
the readings end, the connection still waits. -/
def readingMoves (generation : Nat) (closing : Bool) : List Reading → List Move
  | [] => []
  | .text text :: rest =>
    .report (.message generation text) :: readingMoves generation closing rest
  | .close :: rest => .become .closing :: readingMoves generation true rest
  | .other :: rest => readingMoves generation closing rest
  | .silence :: rest =>
    if closing then lastMoves generation else readingMoves generation closing rest
  | .finished :: _ => lastMoves generation
  | .broken reason :: _ => failureMoves generation reason

/-- The moves of a connection, from what comes of opening it and of reading from it. It is
connecting before the first. -/
def moves (generation : Nat) (outcome : Except String Unit) (readings : List Reading) : List Move :=
  match outcome with
  | .error reason => failureMoves generation reason
  | .ok () =>
    .become .opened :: .report (.opened generation) :: readingMoves generation false readings

/-- The ready state after some moves. -/
def stateAfter (moves : List Move) : ReadyState :=
  moves.foldl (fun state move =>
    match move with
    | .become next => next
    | .report _ => state) .connecting

/-- The report in a move, if it is one. -/
def Move.report? : Move → Option Input
  | report input => some input
  | become _ => none

/-- The reports among some moves. -/
def reports (moves : List Move) : List Input := moves.filterMap Move.report?

/-- What comes of connecting to an endpoint over a network. -/
def dial (network : Host.Network) (endpoint : String) : Except String Unit :=
  match Endpoint.read endpoint with
  | .error e => .error e.message
  | .ok e =>
    match network e.host e.port with
    | .error e => .error s!"IO error: {e.message}"
    | .ok () => .ok ()

/-- A connection that could not be opened says so and is closed. -/
@[simp] theorem moves_error (generation : Nat) (reason : String) (readings : List Reading) :
    moves generation (.error reason) readings = failureMoves generation reason := rfl

@[simp] theorem stateAfter_append_become (ms : List Move) (state : ReadyState) :
    stateAfter (ms ++ [.become state]) = state := by
  simp [stateAfter]

@[simp] theorem stateAfter_append_report (ms : List Move) (input : Input) :
    stateAfter (ms ++ [.report input]) = stateAfter ms := by
  simp [stateAfter]

@[simp] theorem reports_append (ms ns : List Move) :
    reports (ms ++ ns) = reports ms ++ reports ns :=
  List.filterMap_append

end Jukebox.Link
