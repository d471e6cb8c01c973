import Jukebox.Link.Task
import Jukebox.Proofs.Player.News
import Mathlib.Data.List.Induction

/-!
# The player beside its connections

Each connection goes its own way beside the player. Its ready state can be seen at once, but what it
reports waits in line, together with ticks and what widgets report. Turns are taken in any order.

The invariant is `Exchange.Orderly`: the connections that were opened are those up to the current
generation, what joined the line from one of them is what it has reported, in its order, and the
ready state that the player sees is the one that the current connection has set last.
-/

namespace Jukebox

variable {σ : Type}

/-- What becomes of the connection of each generation: what comes of opening it, and what reading
from it gives. -/
abbrev Fates := Nat → Except String Unit × List Link.Reading

/-- The moves that the connection of a generation is going to make. -/
def Fates.life (fates : Fates) (generation : Nat) : List Link.Move :=
  Link.moves generation (fates generation).1 (fates generation).2

/-- The step of the player in a move of the connection of a generation. -/
def Link.Move.step (generation : Nat) : Link.Move → Player.Step σ
  | become state => .setReadyState generation state
  | report input => .post input

/-- A player, what it has handled, and how many moves each connection has made. -/
structure Exchange (σ : Type) where
  player : Player σ
  journal : List Handled := []
  progress : Nat → Nat := fun _ => 0

/-- Whose turn it is. -/
inductive Turn (σ : Type)
  /-- The connection of a generation makes its next move. -/
  | move (generation : Nat)
  | healthTick
  | playbackTick
  /-- A widget reports. -/
  | callback (callback : Callback)
  /-- The provider goes on by itself. -/
  | meanwhile (memory : σ)
  /-- The player handles the next input in line. -/
  | handle

namespace Exchange

/-- A player that has just opened its first connection. -/
def start (layout : Layout) (memory : σ) : Exchange σ where
  player := Player.start Link.dialer layout memory

/-- The player takes a step. -/
def take (P : Provider σ) (step : Player.Step σ) (x : Exchange σ) : Exchange σ :=
  let (player, more) := step.apply P Link.dialer x.player
  { x with player, journal := x.journal ++ more }

/-- The next move of the connection of a generation, if it was opened and is not at its end. -/
def nextMove? (fates : Fates) (generation : Nat) (x : Exchange σ) : Option Link.Move :=
  if generation ∈ x.player.link.opened then (fates.life generation)[x.progress generation]?
  else none

/-- The connection of a generation has made one more move. -/
def count (generation : Nat) (x : Exchange σ) : Exchange σ :=
  { x with progress := fun other => x.progress other + if other = generation then 1 else 0 }

/-- What a turn leads to. -/
def turn (P : Provider σ) (fates : Fates) : Turn σ → Exchange σ → Exchange σ
  | .move generation, x =>
    match x.nextMove? fates generation with
    | none => x
    | some move => (x.take P (move.step generation)).count generation
  | .healthTick, x => x.take P (.post .healthTick)
  | .playbackTick, x => x.take P (.post .playbackTick)
  | .callback callback, x => x.take P (.post (.widget callback))
  | .meanwhile memory, x => x.take P (.meanwhile memory)
  | .handle, x => x.take P .next

/-- What some turns lead to. -/
def run (P : Provider σ) (fates : Fates) (turns : List (Turn σ)) (x : Exchange σ) : Exchange σ :=
  turns.foldl (fun x t => x.turn P fates t) x

/-- All that ever joined the line, in order: what was handled, and what still waits. -/
def line (x : Exchange σ) : List Input := x.journal.map Handled.input ++ x.player.inbox

end Exchange

/-- What comes from the connection of a generation. -/
def reportsOf (generation : Nat) (inputs : List Input) : List Input :=
  inputs.filter fun input => input.generation? = some generation

theorem reportsOf_append (generation : Nat) (inputs more : List Input) :
    reportsOf generation (inputs ++ more) =
      reportsOf generation inputs ++ reportsOf generation more :=
  List.filter_append inputs more

theorem reportsOf_callbacks (generation : Nat) (sent : List Callback) :
    reportsOf generation (sent.map .widget) = [] := by
  rw [reportsOf, List.filter_eq_nil_iff]
  intro input hmem
  obtain ⟨callback, -, rfl⟩ := List.mem_map.1 hmem
  simp [Input.generation?]

namespace Link

/-- A connection reports in its own name only. -/
theorem generation?_of_mem_readingMoves {generation : Nat} {closing : Bool}
    {readings : List Reading} {input : Input}
    (h : .report input ∈ readingMoves generation closing readings) :
    input.generation? = some generation := by
  have hlast : ∀ {input}, .report input ∈ lastMoves generation →
      input.generation? = some generation := by
    intro input hmem
    simp only [lastMoves, List.mem_cons, reduceCtorEq, Move.report.injEq, false_or,
      List.not_mem_nil, or_false] at hmem
    rw [hmem]
    rfl
  induction readings generalizing closing with
  | nil => simp [readingMoves] at h
  | cons reading rest ih =>
    cases reading with
    | text text =>
      rcases List.mem_cons.1 h with h | h
      · cases h
        rfl
      · exact ih h
    | close => exact ih ((List.mem_cons.1 h).resolve_left (by simp))
    | other => exact ih h
    | silence =>
      -- only a connection that is closing ends here
      rw [readingMoves] at h
      split at h
      · exact hlast h
      · exact ih h
    | finished => exact hlast h
    | broken reason =>
      rcases List.mem_cons.1 h with h | h
      · cases h
        rfl
      · exact hlast h

theorem generation?_of_mem_moves {generation : Nat} {outcome : Except String Unit}
    {readings : List Reading} {input : Input}
    (h : .report input ∈ moves generation outcome readings) :
    input.generation? = some generation := by
  cases outcome with
  | error reason =>
    -- a connection that cannot be opened goes like one that breaks at once
    have hread : Move.report input ∈ readingMoves generation false [.broken reason] := h
    exact generation?_of_mem_readingMoves hread
  | ok =>
    simp only [moves, List.mem_cons, reduceCtorEq, Move.report.injEq, false_or] at h
    rcases h with rfl | h
    · rfl
    · exact generation?_of_mem_readingMoves h

/-- Past connecting, the ready state is one that a move has set. -/
theorem become_mem_of_stateAfter {moves : List Move} {state : ReadyState}
    (h : stateAfter moves = state) (hstate : state ≠ .connecting) : .become state ∈ moves := by
  induction moves using List.reverseRecOn with
  | nil => exact absurd h.symm hstate
  | append_singleton moves move ih =>
    cases move with
    | become next =>
      rw [stateAfter_append_become] at h
      rw [h]
      exact List.mem_append_right _ List.mem_cons_self
    | report input =>
      rw [stateAfter_append_report] at h
      exact List.mem_append_left _ (ih h)

end Link

namespace Exchange

/-! ## What a move does -/

variable {fates : Fates}

theorem nextMove?_eq_some_iff {x : Exchange σ} {generation : Nat} {move : Link.Move} :
    x.nextMove? fates generation = some move ↔
      generation ∈ x.player.link.opened ∧
        (fates.life generation)[x.progress generation]? = some move := by
  rw [nextMove?]
  split <;> simp_all

/-- A move may change the ready state of the connection and nothing else of it. -/
theorem link_move (P : Provider σ) (generation : Nat) (move : Link.Move) (x : Exchange σ) :
    (x.take P (move.step generation)).player.link.generation = x.player.link.generation ∧
      (x.take P (move.step generation)).player.link.opened = x.player.link.opened := by
  cases move with
  | report input => exact ⟨rfl, rfl⟩
  | become state =>
    simp only [take, Link.Move.step, Player.Step.apply, Player.setReadyState, Link.setState]
    split <;> exact ⟨rfl, rfl⟩

theorem line_move (P : Provider σ) (generation : Nat) (move : Link.Move) (x : Exchange σ) :
    (x.take P (move.step generation)).line = x.line ++ move.report?.toList := by
  cases move <;>
    simp [line, take, Link.Move.step, Player.Step.apply, Player.setReadyState, Player.post,
      Link.Move.report?]

theorem journal_move (P : Provider σ) (generation : Nat) (move : Link.Move) (x : Exchange σ) :
    (x.take P (move.step generation)).journal = x.journal := by
  cases move <;> exact List.append_nil _

theorem reportsOf_move {generation : Nat} {move : Link.Move} (h : move ∈ fates.life generation)
    (other : Nat) :
    reportsOf other move.report?.toList =
      if other = generation then move.report?.toList else [] := by
  cases move with
  | become state => simp [reportsOf, Link.Move.report?]
  | report input =>
    have hinput := Link.generation?_of_mem_moves h
    by_cases hother : other = generation
    · simp [reportsOf, Link.Move.report?, hinput, hother]
    · simp [reportsOf, Link.Move.report?, hinput, hother, Ne.symm hother]

/-- The ready state that the connection of a generation has set last. -/
def stateOf (fates : Fates) (generation : Nat) (x : Exchange σ) : ReadyState :=
  Link.stateAfter ((fates.life generation).take (x.progress generation))

theorem take_count {generation : Nat} {move : Link.Move} {x : Exchange σ}
    (h : (fates.life generation)[x.progress generation]? = some move) :
    (fates.life generation).take ((x.count generation).progress generation) =
      (fates.life generation).take (x.progress generation) ++ [move] := by
  simp only [count, if_true]
  rw [List.take_add_one, h]
  rfl

theorem progress_count_of_ne {generation other : Nat} (h : other ≠ generation)
    (x : Exchange σ) : (x.count generation).progress other = x.progress other := by
  simp [count, h]

/-- A move of the connection of a generation shows in the ready state if this is the current one. -/
theorem state_move (P : Provider σ) {generation : Nat} {move : Link.Move} {x : Exchange σ}
    (hnext : (fates.life generation)[x.progress generation]? = some move)
    (hstate : x.player.link.state = x.stateOf fates x.player.link.generation) :
    (x.take P (move.step generation)).player.link.state =
      ((x.take P (move.step generation)).count generation).stateOf fates
        x.player.link.generation := by
  by_cases hcurrent : x.player.link.generation = generation
  · subst hcurrent
    rw [stateOf, take_count (x := x.take P (move.step _)) hnext]
    cases move with
    | become state =>
      have hset : (x.player.link.setState x.player.link.generation state).state = state := by
        simp [Link.setState, Link.isCurrent]
      rw [Link.stateAfter_append_become]
      exact hset
    | report input =>
      rw [Link.stateAfter_append_report]
      exact hstate
  · rw [stateOf, progress_count_of_ne hcurrent]
    cases move with
    | become state =>
      have hkept : x.player.link.setState generation state = x.player.link := by
        simp [Link.setState, Link.isCurrent, hcurrent]
      show (x.player.link.setState generation state).state = _
      rw [hkept]
      exact hstate
    | report input => exact hstate

/-! ## The invariant -/

/-- What was opened, and what came in line from it. -/
structure Orderly (fates : Fates) (x : Exchange σ) : Prop where
  first : 1 ≤ x.player.link.generation
  opened : ∀ generation, generation ∈ x.player.link.opened ↔
    1 ≤ generation ∧ generation ≤ x.player.link.generation
  moved : ∀ generation, x.progress generation ≠ 0 → generation ∈ x.player.link.opened
  reports : ∀ generation, reportsOf generation x.line =
    Link.reports ((fates.life generation).take (x.progress generation))
  state : x.player.link.state = x.stateOf fates x.player.link.generation

namespace Orderly

variable {P : Provider σ} {x y : Exchange σ}

theorem start (fates : Fates) (layout : Layout) (memory : σ) :
    Orderly fates (Exchange.start layout memory) where
  first := Nat.le_refl 1
  opened generation := by
    show generation ∈ [1] ↔ 1 ≤ generation ∧ generation ≤ 1
    rw [List.mem_singleton]
    omega
  moved _ h := absurd rfl h
  reports _ := rfl
  state := rfl

/-- The line may grow by what comes from no connection, and the connection may be replaced. -/
theorem grow (h : Orderly fates x) (more : List Input) (hline : y.line = x.line ++ more)
    (hmore : ∀ generation, reportsOf generation more = []) (hprogress : y.progress = x.progress)
    (hlink : y.player.link = x.player.link ∨
      y.player.link = x.player.link.replace Link.dialer) : Orderly fates y := by
  have hreports : ∀ generation, reportsOf generation y.line =
      Link.reports ((fates.life generation).take (y.progress generation)) := by
    intro generation
    rw [hline, reportsOf_append, hmore, List.append_nil, hprogress]
    exact h.reports generation
  rcases hlink with hlink | hlink
  · refine ⟨hlink ▸ h.first, hlink ▸ h.opened, ?_, hreports, ?_⟩
    · rw [hprogress, hlink]
      exact h.moved
    · rw [stateOf, hprogress, hlink]
      exact h.state
  · have hgeneration : y.player.link.generation = x.player.link.generation + 1 := by
      rw [hlink]
      rfl
    have hopened : y.player.link.opened =
        x.player.link.opened ++ [x.player.link.generation + 1] := by
      rw [hlink]
      rfl
    have hfirst := h.first
    refine ⟨by omega, ?_, ?_, hreports, ?_⟩
    · intro generation
      rw [hopened, hgeneration, List.mem_append, List.mem_singleton, h.opened]
      omega
    · intro generation hmoved
      rw [hopened]
      exact List.mem_append_left _ (h.moved generation (hprogress ▸ hmoved))
    · -- the new connection has not moved yet
      have hstill : x.progress (x.player.link.generation + 1) = 0 := by
        by_contra hmoved
        have hle := ((h.opened _).1 (h.moved _ hmoved)).2
        omega
      rw [stateOf, hgeneration, hprogress, hstill, hlink]
      rfl

/-- What still waits when an input is handled, and what joins the line meanwhile. -/
theorem line_handle {input : Input} {inbox : List Input}
    (hinbox : x.player.inbox = input :: inbox) :
    ∃ sent : List Callback, (x.take P .next).line = x.line ++ sent.map .widget := by
  have hsame : ∃ sent : List Callback,
      (Player.handle P Link.dialer input { x.player with inbox }).1.inbox =
        inbox ++ sent.map .widget := by
    cases hstale : Player.isStale { x.player with inbox } input with
    | true => exact ⟨[], by rw [Player.handle_of_stale hstale]; simp⟩
    | false => exact ⟨_, Player.inbox_handle hstale⟩
  obtain ⟨sent, hsent⟩ := hsame
  refine ⟨sent, ?_⟩
  simp [line, take, Player.Step.apply, hinbox, Player.note, hsent]

theorem link_handle (P : Provider σ) (x : Exchange σ) :
    (x.take P .next).player.link = x.player.link ∨
      (x.take P .next).player.link = x.player.link.replace Link.dialer := by
  simp only [take, Player.Step.apply]
  split
  · exact .inl rfl
  · rename_i input inbox _
    cases hstale : Player.isStale { x.player with inbox } input with
    | true =>
      left
      simp [Player.note, Player.handle_of_stale hstale]
    | false =>
      rcases Player.link_cases P Link.dialer hstale with h | h
      · exact .inr h.2.2.1
      · exact .inl h.2.1

/-- A connection makes a move, and what it reports joins the line. -/
theorem move (h : Orderly fates x) {generation : Nat} {move : Link.Move}
    (hmove : x.nextMove? fates generation = some move) :
    Orderly fates ((x.take P (move.step generation)).count generation) := by
  obtain ⟨hopen, hnext⟩ := nextMove?_eq_some_iff.1 hmove
  obtain ⟨hgeneration, hopened⟩ := link_move P generation move x
  refine ⟨hgeneration ▸ h.first, ?_, ?_, ?_, ?_⟩
  · intro other
    show other ∈ (x.take P (move.step generation)).player.link.opened ↔ _
    rw [hopened]
    exact hgeneration ▸ h.opened other
  · intro other hmoved
    show other ∈ (x.take P (move.step generation)).player.link.opened
    rw [hopened]
    by_cases hother : other = generation
    · exact hother ▸ hopen
    · exact h.moved other (by simpa [count, take, hother] using hmoved)
  · intro other
    have hline : ((x.take P (move.step generation)).count generation).line =
        x.line ++ move.report?.toList := line_move P generation move x
    have hown := reportsOf_move (List.mem_of_getElem? hnext) other
    rw [hline, reportsOf_append, h.reports, hown]
    by_cases hother : other = generation
    · -- the connection's own reports grow by the new one
      subst hother
      have htake := take_count (x := x.take P (move.step other)) hnext
      rw [if_pos rfl, htake, Link.reports_append]
      cases move <;> rfl
    · rw [if_neg hother, List.append_nil, progress_count_of_ne hother]
      rfl
  · have hstate := state_move P hnext h.state
    rwa [← hgeneration] at hstate

theorem turn (h : Orderly fates x) (P : Provider σ) (t : Turn σ) :
    Orderly fates (x.turn P fates t) := by
  have hpost : ∀ input : Input, input.generation? = none →
      Orderly fates (x.take P (.post input)) := by
    intro input hnone
    refine h.grow [input] ?_ ?_ rfl (.inl rfl)
    · simp [line, take, Player.Step.apply, Player.post]
    · intro generation
      simp [reportsOf, hnone]
  cases t with
  | move generation =>
    rw [Exchange.turn]
    split
    · exact h
    · exact h.move ‹_›
  | healthTick => exact hpost _ rfl
  | playbackTick => exact hpost _ rfl
  | callback callback => exact hpost _ rfl
  | meanwhile memory =>
    refine h.grow [] ?_ (fun _ => rfl) rfl (.inl rfl)
    simp [Exchange.turn, line, take, Player.Step.apply]
  | handle =>
    cases hinbox : x.player.inbox with
    | nil =>
      refine h.grow [] ?_ (fun _ => rfl) rfl (link_handle P x)
      simp [Exchange.turn, line, take, Player.Step.apply, hinbox]
    | cons input inbox =>
      obtain ⟨sent, hline⟩ := line_handle (P := P) hinbox
      exact h.grow _ hline (fun generation => reportsOf_callbacks generation sent) rfl
        (link_handle P x)

/-- Whatever is in line from a connection is from one that was opened. -/
theorem generation_le (h : Orderly fates x) {input : Input} {generation : Nat}
    (hmem : input ∈ x.line) (hinput : input.generation? = some generation) :
    1 ≤ generation ∧ generation ≤ x.player.link.generation := by
  have hreport : input ∈ reportsOf generation x.line :=
    List.mem_filter.2 ⟨hmem, by simpa using hinput⟩
  rw [h.reports] at hreport
  refine (h.opened generation).1 (h.moved generation fun hzero => ?_)
  rw [hzero] at hreport
  simp [Link.reports] at hreport

end Orderly

end Exchange

end Jukebox
