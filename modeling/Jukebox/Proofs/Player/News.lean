import Jukebox.Proofs.History
import Jukebox.Proofs.Player.Run

/-!
# What is announced when an input is handled

That an identifier was put in the queue is announced once for a text on the current connection that
asks for it, and otherwise never (`enqueued_handle`). That the connection changed is announced when
it is replaced and when it says so itself (`link_cases`). Whatever else playback does announces
neither.
-/

namespace Jukebox

variable {σ : Type}

/-- The identifier that an act says was put in the queue, if it says so. -/
@[simp] def Act.enqueued? : Act → Option String
  | announce (.enqueued identifier _) => some identifier
  | _ => none

/-- The generation and the state that an act says the connection has now, if it says so. -/
@[simp] def Act.linkChange? : Act → Option (Nat × ReadyState)
  | announce (.linkChanged generation state) => some (generation, state)
  | _ => none

/-- The identifiers that were put in the queue, in order. -/
abbrev enqueued (acts : List Act) : List String := acts.filterMap Act.enqueued?

/-- What was announced about the connection, in order. -/
abbrev linkChanges (acts : List Act) : List (Nat × ReadyState) := acts.filterMap Act.linkChange?

theorem enqueued_append (acts more : List Act) :
    enqueued (acts ++ more) = enqueued acts ++ enqueued more :=
  List.filterMap_append

theorem linkChanges_append (acts more : List Act) :
    linkChanges (acts ++ more) = linkChanges acts ++ linkChanges more :=
  List.filterMap_append

/-- The acts announce neither that the queue grew nor that the connection changed. -/
def Inner (acts : List Act) : Prop :=
  ∀ act ∈ acts, act.enqueued? = none ∧ act.linkChange? = none

namespace Inner

variable {acts : List Act}

theorem nil : Inner [] := by
  simp [Inner]

theorem append {more : List Act} (h : Inner acts) (hmore : Inner more) : Inner (acts ++ more) :=
  List.forall_mem_append.2 ⟨h, hmore⟩

theorem drops (p : Playback σ) : Inner p.drops := by
  intro act hmem
  obtain ⟨widget, rfl⟩ := p.eq_drop_of_mem_drops hmem
  exact ⟨rfl, rfl⟩

theorem enqueued_eq (h : Inner acts) : enqueued acts = [] :=
  List.filterMap_eq_nil_iff.2 fun act hmem => (h act hmem).1

theorem linkChanges_eq (h : Inner acts) : linkChanges acts = [] :=
  List.filterMap_eq_nil_iff.2 fun act hmem => (h act hmem).2

end Inner

/-- All that playback does besides growing its queue is inner. -/
theorem invariant_inner (P : Provider σ) :
    Invariant P (fun acts _ => Inner acts) fun acts _ => Inner acts where
  moving_of_idle h _ := h
  skipRequested h := h.append (by simp [Inner])
  errored _ h _ := h.append (by simp [Inner])
  accepted _ h _ _ := h.append ((Inner.drops _).append (by simp [Inner]))
  refused _ _ h _ := h.append ((Inner.drops _).append (by simp [Inner]))
  idle _ h _ := h.append ((Inner.drops _).append (by simp [Inner]))
  played _ h _ := h.append (by simp [Inner])
  ended _ h _ := h.append ((Inner.drops _).append (by simp [Inner]))

/-- The identifier that an input asks for while a generation is current: that of a text on the
connection of this generation. -/
def Input.asked? (current : Nat) : Input → Option String
  | .message generation text =>
    if generation = current then
      match Request.parse? text with
      | some (.play identifier) => some identifier
      | _ => none
    else none
  | _ => none

/-- The state that a connection is in by its own report. -/
def Input.state? : Input → Option ReadyState
  | .opened _ => some .opened
  | .closed _ => some .closed
  | _ => none

namespace Player

variable {P : Provider σ} {connector : Connector}

/-- What comes from a connection is passed over unless the connection is current. -/
theorem isStale_eq_false_iff {p : Player σ} {input : Input} {generation : Nat}
    (h : input.generation? = some generation) :
    p.isStale input = false ↔ generation = p.link.generation := by
  simp only [isStale, h, Link.isCurrent, Option.any_some, Bool.not_eq_false', decide_eq_true_eq]
  exact eq_comm

theorem ne_of_isStale {p : Player σ} {input : Input} {generation : Nat}
    (h : input.generation? = some generation) (hstale : p.isStale input = true) :
    generation ≠ p.link.generation := by
  intro heq
  rw [(isStale_eq_false_iff h).2 heq] at hstale
  exact Bool.false_ne_true hstale

/-- What comes from no connection or from the current one is not passed over. -/
theorem isStale_eq_false {p : Player σ} {input : Input}
    (h : ∀ generation, input.generation? = some generation → generation = p.link.generation) :
    p.isStale input = false := by
  cases hgeneration : input.generation? with
  | none => simp [isStale, hgeneration]
  | some generation => exact (isStale_eq_false_iff hgeneration).2 (h generation hgeneration)

/-- What comes from another generation than the current one changes nothing at all. -/
theorem handle_of_ne {p : Player σ} {input : Input} {generation : Nat}
    (h : input.generation? = some generation) (hne : generation ≠ p.link.generation) :
    p.handle P connector input = (p, []) := by
  refine handle_of_stale ?_
  rw [← Bool.not_eq_false, isStale_eq_false_iff h]
  exact hne

/-- A text on the current connection that asks for an identifier grows the queue by it; whatever
else playback does because of an input is inner. -/
theorem onPlayback_cases (input : Input) (playback : Playback σ) :
    (∃ generation text identifier, input = .message generation text ∧
      Request.parse? text = some (.play identifier) ∧
      onPlayback P input playback = playback.enqueue identifier) ∨
    Inner (onPlayback P input playback).acts ∧ ∀ current, input.asked? current = none := by
  have inv := invariant_inner P
  cases input with
  | message generation text =>
    cases hparse : Request.parse? text with
    | none => exact .inr ⟨by simp [onPlayback, onText, hparse, Playback.unchanged, Inner.nil],
        by simp [Input.asked?, hparse]⟩
    | some request =>
      cases request with
      | play identifier =>
        exact .inl ⟨generation, text, identifier, rfl, hparse, by simp [onPlayback, onText, hparse]⟩
      | skip =>
        refine .inr ⟨?_, by simp [Input.asked?, hparse]⟩
        simpa [onPlayback, onText, hparse] using inv.skip [] playback .nil
  | widget callback => exact .inr ⟨inv.receive callback [] playback .nil, fun _ => rfl⟩
  | playbackTick => exact .inr ⟨inv.tick [] playback .nil, fun _ => rfl⟩
  | opened | closed | failed | healthTick => exact .inr ⟨.nil, fun _ => rfl⟩

theorem enqueued_linkNews (input : Input) (link : Link) :
    enqueued (linkNews connector input link) = [] := by
  rw [linkNews]
  split <;> rfl

/-- The queue grows by what an input asks for, and by nothing else. -/
theorem enqueued_handle (p : Player σ) (input : Input) :
    enqueued (p.handle P connector input).2 = (input.asked? p.link.generation).toList := by
  cases hstale : p.isStale input with
  | true =>
    rw [handle_of_stale hstale]
    cases input with
    | message generation text =>
      rw [Input.asked?, if_neg (ne_of_isStale rfl hstale)]
      rfl
    | _ => rfl
  | false =>
    rw [acts_handle hstale, enqueued_append, enqueued_linkNews, List.nil_append]
    rcases onPlayback_cases (P := P) input p.playback with
      ⟨generation, text, identifier, rfl, hparse, heq⟩ | ⟨hinner, hasked⟩
    · have hcurrent := (isStale_eq_false_iff rfl).1 hstale
      rw [heq, Input.asked?, if_pos hcurrent, hparse]
      rfl
    · rw [hasked]
      exact hinner.enqueued_eq

theorem linkChanges_onPlayback (input : Input) (playback : Playback σ) :
    linkChanges (onPlayback P input playback).acts = [] := by
  rcases onPlayback_cases (P := P) input playback with
    ⟨generation, text, identifier, rfl, hparse, heq⟩ | ⟨hinner, -⟩
  · rw [heq]
    rfl
  · exact hinner.linkChanges_eq

/-- What becomes of the connection and what is announced about it when an input is not passed over:
a closed connection is replaced at a tick, and otherwise it stays and says what the input says. -/
theorem link_cases (P : Provider σ) (connector : Connector) {p : Player σ} {input : Input}
    (h : p.isStale input = false) :
    (input = .healthTick ∧ p.link.state = .closed ∧
      (p.handle P connector input).1.link = p.link.replace connector ∧
      linkChanges (p.handle P connector input).2 =
        [((p.link.replace connector).generation, .connecting)]) ∨
    (¬ (input = .healthTick ∧ p.link.state = .closed) ∧
      (p.handle P connector input).1.link = p.link ∧
      linkChanges (p.handle P connector input).2 =
        (input.state?.map (p.link.generation, ·)).toList) := by
  have hnews : linkChanges (p.handle P connector input).2 =
      linkChanges (linkNews connector input p.link) := by
    rw [acts_handle h, linkChanges_append, linkChanges_onPlayback, List.append_nil]
  rw [hnews, link_handle h]
  cases input with
  | healthTick =>
    by_cases hclosed : p.link.state = .closed
    · left
      have hopen : p.link.ensureOpen connector = (p.link.replace connector, true) := if_pos hclosed
      simp [linkNews, onLink, hopen, hclosed]
    · right
      have hopen : p.link.ensureOpen connector = (p.link, false) := if_neg hclosed
      simp [linkNews, onLink, hopen, hclosed, Input.state?]
  | opened | closed | failed | message | widget | playbackTick =>
    exact .inr ⟨by simp, rfl, rfl⟩

end Player

end Jukebox
