import Jukebox.Proofs.Player.News

/-!
# The published status

Clients see the status that was published last. The main result is `published_in_step`: in every
run, between any two inputs, it tells the same as the present status but for the ready state of the
connection, which changes behind the player's back; and it tells that too right after every input
that was not passed over.
-/

namespace Jukebox

variable {σ : Type}

namespace Player

/-- The status shows the ready state and the generation of the connection, the playing flag, what is
mounted, and what waits, the next one first. -/
theorem status_eq (p : Player σ) :
    p.status =
      ⟨p.link.state, p.link.generation, p.playback.playing, p.playback.mounted,
        p.playback.queue.toList⟩ :=
  rfl

/-- What was published last is the present status but for the ready state of the connection. -/
def InStep (p : Player σ) : Prop :=
  p.published = { p.status with connection := p.published.connection }

variable {P : Provider σ} {connector : Connector} {p : Player σ} {input : Input}

theorem inStep_of_eq (h : p.published = p.status) : p.InStep := by
  rw [InStep, h]

theorem InStep.queue (h : p.InStep) : p.published.queue = p.status.queue := by
  rw [h]

theorem InStep.generation (h : p.InStep) : p.published.generation = p.status.generation := by
  rw [h]

/-- After an input that is not passed over the present status has just been published. -/
theorem published_handle (h : p.isStale input = false) :
    (p.handle P connector input).1.published = (p.handle P connector input).1.status ∧
      (p.handle P connector input).1.publications = p.publications + 1 := by
  rw [handle, if_neg (by simp [h])]
  exact ⟨rfl, rfl⟩

theorem InStep.handle (h : p.InStep) (P : Provider σ) (connector : Connector) (input : Input) :
    (p.handle P connector input).1.InStep := by
  cases hstale : p.isStale input with
  | true =>
    rw [handle_of_stale hstale]
    exact h
  | false => exact inStep_of_eq (published_handle hstale).1

theorem InStep.setReadyState (h : p.InStep) (generation : Nat) (state : ReadyState) :
    (p.setReadyState generation state).InStep := by
  rw [InStep, Player.setReadyState, Link.setState]
  split
  · exact h
  · exact h

theorem InStep.apply (h : p.InStep) (P : Provider σ) (connector : Connector) (step : Step σ) :
    (step.apply P connector p).1.InStep := by
  cases step with
  | handle input => exact h.handle P connector input
  | post input => exact h
  | next =>
    rw [Step.apply]
    split
    · exact h
    · rename_i input inbox _
      exact InStep.handle (p := { p with inbox }) h P connector input
  | setReadyState generation state => exact h.setReadyState generation state
  | meanwhile memory => exact h

theorem InStep.run (h : p.InStep) (P : Provider σ) (connector : Connector)
    (steps : List (Step σ)) : (p.run P connector steps).1.InStep := by
  induction steps generalizing p with
  | nil => exact h
  | cons step steps ih => exact ih (h.apply P connector step)

/-! ## Handling what waits -/

theorem run_next_of_nil (P : Provider σ) (connector : Connector) (h : p.inbox = []) (n : Nat) :
    run P connector (List.replicate n .next) p = (p, []) := by
  induction n with
  | zero => rfl
  | succ n ih => simp [List.replicate_succ, run, Step.apply, h, ih]

/-- Handling at most so many of the waiting inputs is a run that takes them one by one. -/
theorem drain_eq_run (P : Provider σ) (connector : Connector) (limit : Nat) (p : Player σ) :
    (p.drain P connector limit).1 = (run P connector (List.replicate limit .next) p).1 := by
  induction limit generalizing p with
  | zero => rfl
  | succ limit ih =>
    cases hinbox : p.inbox with
    | nil =>
      -- nothing joins an empty line meanwhile, so the steps that are left do nothing
      rw [run_next_of_nil P connector hinbox]
      simp [drain, handleNext?, hinbox]
    | cons input inbox =>
      simp [drain, handleNext?, hinbox, List.replicate_succ, run, Step.apply, note, ih]

theorem eq_run_of_handleNext? {q : Player σ} {acts : List Act}
    (h : p.handleNext? P connector = some (q, acts)) : q = (run P connector [.next] p).1 := by
  rw [handleNext?] at h
  cases hinbox : p.inbox with
  | nil => simp [hinbox] at h
  | cons input inbox =>
    simp only [hinbox, Option.some.injEq] at h
    simp [run, Step.apply, hinbox, note, h]

/-! ## The end of the player -/

/-- When the player has come to its end nothing plays any more, and this has been published. -/
theorem published_shutdown (P : Provider σ) (p : Player σ) :
    (p.shutdown P).1.published = { p.status with playing := false, nowPlaying := none } ∧
      (p.shutdown P).1.published = (p.shutdown P).1.status := by
  obtain ⟨memory, sent, hdown⟩ := Playback.teardown_eq P p.playback
  rw [shutdown, Playback.stop, hdown]
  exact ⟨rfl, rfl⟩

end Player

/-! ## The main result -/

/-- In every run, with ready states changing at any places: the status that was published last tells
the same as the present one but for the ready state of the connection. To handle what waits, or the
next of it, leads to where a run leads that takes the inputs one by one, so the same is true there.
Right after an input that does not come from another generation than the current one the two are
equal, and the status was published once; what comes from another generation publishes nothing. When
the player has come to its end, nothing plays by the published status, which has kept the queue and
the generation. -/
theorem published_in_step (P : Provider σ) (connector : Connector) (layout : Layout) (memory : σ)
    (steps : List (Player.Step σ)) :
    let start := Player.start connector layout memory
    let p := (Player.run P connector steps start).1
    p.published = { p.status with connection := p.published.connection } ∧
      (∀ limit, (p.drain P connector limit).1 =
        (Player.run P connector (steps ++ List.replicate limit .next) start).1) ∧
      (∀ q acts, p.handleNext? P connector = some (q, acts) →
        q = (Player.run P connector (steps ++ [.next]) start).1) ∧
      (∀ input, let q := (p.handle P connector input).1
        ((∀ generation, input.generation? = some generation → generation = p.link.generation) →
          q.published = q.status ∧ q.publications = p.publications + 1) ∧
        ∀ generation, input.generation? = some generation → generation ≠ p.link.generation →
          q.published = p.published ∧ q.publications = p.publications) ∧
      let q := (p.shutdown P).1
      q.published = q.status ∧ q.published.playing = false ∧ q.published.nowPlaying = none ∧
        q.published.queue = p.published.queue ∧
        q.published.generation = p.published.generation := by
  intro start p
  have hstart : start.InStep := Player.inStep_of_eq rfl
  have hp : p.InStep := hstart.run P connector steps
  refine ⟨hp, ?_, ?_, ?_, ?_⟩
  · intro limit
    rw [Player.run_append, Player.drain_eq_run]
  · intro q acts hnext
    rw [Player.run_append]
    exact Player.eq_run_of_handleNext? hnext
  · intro input q
    refine ⟨fun hcurrent => Player.published_handle (Player.isStale_eq_false hcurrent), ?_⟩
    intro generation hgeneration hne
    have hsame : q = p := congrArg Prod.fst (Player.handle_of_ne hgeneration hne)
    rw [hsame]
    exact ⟨rfl, rfl⟩
  · obtain ⟨hend, hlive⟩ := Player.published_shutdown P p
    refine ⟨hlive, ?_, ?_, ?_, ?_⟩
    · rw [hend]
    · rw [hend]
    · rw [hend, hp.queue]
    · rw [hend, hp.generation]

end Jukebox
