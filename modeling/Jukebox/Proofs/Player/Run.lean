import Jukebox.Player.Basic
import Jukebox.Proofs.Playback.Invariant

/-!
# Runs of the player

A run is any list of steps in any order: inputs are handled at once or join the line, the next one
in line is handled, connections change their ready state, and the provider goes on by itself.
Whatever is handled is noted in a journal, with the generation that was current and all that was
done.

`Player.Invariant` adds to an invariant of playback what it takes to hold along a run of the player;
`Player.Invariant.run` is the conclusion.
-/

namespace Jukebox

variable {σ : Type}

/-- A handled input, with the generation that was current then and what was done. -/
structure Handled where
  current : Nat
  input : Input
  acts : List Act
  deriving Repr, DecidableEq

/-- Everything that was done while the inputs of a journal were handled. -/
def actsOf (journal : List Handled) : List Act := journal.flatMap Handled.acts

@[simp] theorem actsOf_append (journal more : List Handled) :
    actsOf (journal ++ more) = actsOf journal ++ actsOf more :=
  List.flatMap_append

@[simp] theorem actsOf_nil : actsOf [] = [] := rfl

@[simp] theorem actsOf_singleton (h : Handled) : actsOf [h] = h.acts :=
  List.append_nil h.acts

namespace Player

/-- What can happen to the player. -/
inductive Step (σ : Type)
  /-- An input is handled at once. -/
  | handle (input : Input)
  /-- An input joins the line. -/
  | post (input : Input)
  /-- The next input in line is handled. -/
  | next
  | setReadyState (generation : Nat) (state : ReadyState)
  /-- The provider goes on by itself. -/
  | meanwhile (memory : σ)

/-- Handles an input and notes it. -/
def note (P : Provider σ) (connector : Connector) (input : Input) (p : Player σ) :
    Player σ × List Handled :=
  ((p.handle P connector input).1, [⟨p.link.generation, input, (p.handle P connector input).2⟩])

/-- What a step leads to, and the inputs handled in it. -/
def Step.apply (P : Provider σ) (connector : Connector) :
    Step σ → Player σ → Player σ × List Handled
  | .handle input, p => p.note P connector input
  | .post input, p => (p.post input, [])
  | .next, p =>
    match p.inbox with
    | [] => (p, [])
    | input :: inbox => note P connector input { p with inbox }
  | .setReadyState generation state, p => (p.setReadyState generation state, [])
  | .meanwhile memory, p => ({ p with playback := { p.playback with memory } }, [])

/-- What some steps lead to, and the inputs handled in them. -/
def run (P : Provider σ) (connector : Connector) :
    List (Step σ) → Player σ → Player σ × List Handled
  | [], p => (p, [])
  | step :: steps, p =>
    let (p, journal) := step.apply P connector p
    let (p, more) := run P connector steps p
    (p, journal ++ more)

theorem run_append (P : Provider σ) (connector : Connector) (steps more : List (Step σ))
    (p : Player σ) :
    run P connector (steps ++ more) p =
      ((run P connector more (run P connector steps p).1).1,
        (run P connector steps p).2 ++ (run P connector more (run P connector steps p).1).2) := by
  induction steps generalizing p with
  | nil => simp [run]
  | cons step steps ih => simp [run, ih, List.append_assoc]

/-- What holds of a journal and the player, and is preserved by each step, holds along a run. -/
theorem run_induction {P : Provider σ} {connector : Connector}
    (holds : List Handled → Player σ → Prop)
    (hstep : ∀ journal p (step : Step σ), holds journal p →
      holds (journal ++ (step.apply P connector p).2) (step.apply P connector p).1)
    (steps : List (Step σ)) {journal : List Handled} {p : Player σ} (h : holds journal p) :
    holds (journal ++ (run P connector steps p).2) (run P connector steps p).1 := by
  induction steps generalizing journal p with
  | nil => simpa [run] using h
  | cons step steps ih => simpa [run] using ih (hstep journal p step h)

/-- What holds of every input that is handled holds of all that are noted along a run. -/
theorem forall_mem_run (P : Provider σ) (connector : Connector) (holds : Handled → Prop)
    (hnote : ∀ (p : Player σ) input,
      holds ⟨p.link.generation, input, (p.handle P connector input).2⟩)
    (steps : List (Step σ)) (p : Player σ) : ∀ h ∈ (run P connector steps p).2, holds h := by
  induction steps generalizing p with
  | nil => simp [run]
  | cons step steps ih =>
    intro h hmem
    rw [run] at hmem
    rcases List.mem_append.1 hmem with hmem | hmem
    · cases step with
      | handle input =>
        rw [Step.apply, note, List.mem_singleton] at hmem
        exact hmem ▸ hnote p input
      | next =>
        rw [Step.apply] at hmem
        split at hmem
        · simp at hmem
        · rw [note, List.mem_singleton] at hmem
          exact hmem ▸ hnote _ _
      | post | setReadyState | meanwhile => simp [Step.apply] at hmem
    · exact ih _ h hmem

/-! ## What handling an input does -/

/-- What is announced about the connection when an input is handled. -/
def linkNews (connector : Connector) (input : Input) (link : Link) : List Act :=
  match (onLink connector input link).2 with
  | some state => [.announce (.linkChanged (onLink connector input link).1.generation state)]
  | none => []

variable {P : Provider σ} {connector : Connector} {input : Input} {p : Player σ}

theorem handle_of_stale (h : p.isStale input = true) : p.handle P connector input = (p, []) := by
  rw [handle, if_pos h]

theorem acts_handle (h : p.isStale input = false) :
    (p.handle P connector input).2 =
      linkNews connector input p.link ++ (onPlayback P input p.playback).acts := by
  rw [handle, if_neg (by simp [h])]
  rfl

theorem playback_handle (h : p.isStale input = false) :
    (p.handle P connector input).1.playback = (onPlayback P input p.playback).playback := by
  rw [handle, if_neg (by simp [h])]
  rfl

theorem link_handle (h : p.isStale input = false) :
    (p.handle P connector input).1.link = (onLink connector input p.link).1 := by
  rw [handle, if_neg (by simp [h])]
  rfl

theorem inbox_handle (h : p.isStale input = false) :
    (p.handle P connector input).1.inbox =
      p.inbox ++ (onPlayback P input p.playback).sent.map .widget := by
  rw [handle, if_neg (by simp [h])]
  rfl

/-! ## Invariants -/

/-- An invariant of playback that also survives what else happens to a player. -/
structure Invariant (P : Provider σ) (steady moving : Fact σ) : Prop
    extends Jukebox.Invariant P steady moving where
  enqueue : ∀ identifier, Leads steady (Playback.enqueue identifier) steady
  linkChanged : ∀ {acts p} generation state, steady acts p →
    steady (acts ++ [.announce (.linkChanged generation state)]) p
  meanwhile : ∀ {acts p} memory, steady acts p → steady acts { p with memory }

namespace Invariant

variable {steady moving : Fact σ}

theorem onText (inv : Invariant P steady moving) (text : String) :
    Leads steady (Player.onText P text) steady := by
  intro acts playback h
  rw [Player.onText]
  split
  · exact inv.enqueue _ acts playback h
  · exact inv.skip acts playback h
  · exact Leads.unchanged acts playback h

theorem onPlayback (inv : Invariant P steady moving) (input : Input) :
    Leads steady (Player.onPlayback P input) steady := by
  cases input with
  | message _ text => exact inv.onText text
  | widget callback => exact inv.receive callback
  | playbackTick => exact inv.tick
  | opened | closed | failed | healthTick => exact Leads.unchanged

theorem linkNews (inv : Invariant P steady moving) (connector : Connector) (input : Input)
    (link : Link) {acts : List Act} {playback : Playback σ} (h : steady acts playback) :
    steady (acts ++ Player.linkNews connector input link) playback := by
  rw [Player.linkNews]
  split
  · exact inv.linkChanged _ _ h
  · simpa using h

theorem handle (inv : Invariant P steady moving) (input : Input) {acts : List Act}
    (h : steady acts p.playback) :
    steady (acts ++ (p.handle P connector input).2) (p.handle P connector input).1.playback := by
  cases hstale : p.isStale input with
  | true => simpa [handle_of_stale hstale] using h
  | false =>
    -- the news of the connection come before what playback does
    have hnews := inv.linkNews connector input p.link h
    rw [acts_handle hstale, playback_handle hstale, ← List.append_assoc]
    exact inv.onPlayback input _ _ hnews

theorem apply (inv : Invariant P steady moving) (step : Step σ) {acts : List Act}
    (h : steady acts p.playback) :
    steady (acts ++ actsOf (step.apply P connector p).2) (step.apply P connector p).1.playback := by
  cases step with
  | handle input => simpa [Step.apply, note] using inv.handle input h
  | next =>
    rw [Step.apply]
    split
    · simpa using h
    · rename_i input inbox _
      simpa [note] using inv.handle (p := { p with inbox }) input h
  | post input => simpa [Step.apply, post] using h
  | setReadyState generation state => simpa [Step.apply, setReadyState] using h
  | meanwhile memory => simpa [Step.apply] using inv.meanwhile memory h

/-- What holds when nothing has been done holds along every run. -/
theorem run (inv : Invariant P steady moving) (connector : Connector) (steps : List (Step σ))
    (h : steady [] p.playback) :
    steady (actsOf (p.run P connector steps).2) (p.run P connector steps).1.playback := by
  have hstep : ∀ journal p (step : Step σ), steady (actsOf journal) p.playback →
      steady (actsOf (journal ++ (step.apply P connector p).2))
        (step.apply P connector p).1.playback := by
    intro journal p step h
    rw [actsOf_append]
    exact inv.apply step h
  have hrun := run_induction (fun journal p => steady (actsOf journal) p.playback) hstep steps
    (show steady (actsOf []) p.playback from h)
  rwa [List.nil_append] at hrun

end Invariant

end Player

end Jukebox
