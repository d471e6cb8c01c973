import Jukebox.Proofs.Player.Replay

/-!
# What one turn announces

When a widget has failed, or a listener asks for the next item, playback goes on to the next item,
and it does so before the turn is over. The main lemma is `Player.followed_handle`: in whatever
state an input is handled, each such announcement is followed in the same turn by how playback comes
to rest, and by nothing else.
-/

namespace Jukebox

variable {σ : Type}

namespace Notice

/-- Playback comes to rest: an item starts, or nothing is left to play. -/
def Settles (notice : Notice Session Nat) : Prop :=
  notice.kind = .started ∨ notice.kind = .idle

/-- A widget could not be made. -/
def isRefusal : Notice Session Nat → Bool
  | errored none _ _ => true
  | _ => false

end Notice

/-! ## Lists of announcements -/

/-- Some widgets that could not be made, and then playback comes to rest. -/
def Settling (announced : List (Notice Session Nat)) : Prop :=
  ∃ refusals last, announced = refusals ++ [last] ∧
    (∀ notice ∈ refusals, notice.isRefusal = true) ∧ last.Settles

/-- After a failure, or the wish for the next item, it is announced how playback comes to rest, and
nothing else. -/
def Followed (announced : List (Notice Session Nat)) : Prop :=
  ∀ before notice after, announced = before ++ notice :: after →
    notice.kind = .errored ∨ notice.kind = .skipRequested → Settling after

theorem Settling.followed {announced : List (Notice Session Nat)} (h : Settling announced) :
    Followed announced := by
  obtain ⟨refusals, last, rfl, hrefusals, hsettles⟩ := h
  intro before notice after hsplit hkind
  rcases concat_eq_append_cons hsplit with ⟨-, -, rfl⟩ | ⟨rest, rfl, rfl⟩
  · -- playback does not come to rest by a failure or by a wish
    rcases hsettles with hsettles | hsettles <;> rw [hsettles] at hkind <;> simp at hkind
  · exact ⟨rest, last, rfl, fun _ hmem => hrefusals _ (by simp [hmem]), hsettles⟩

theorem Settling.followed_cons {announced : List (Notice Session Nat)} (h : Settling announced)
    (notice : Notice Session Nat) : Followed (notice :: announced) := by
  intro before notice' after hsplit hkind
  cases before with
  | nil =>
    obtain ⟨-, rfl⟩ := List.cons.inj hsplit
    exact h
  | cons first before =>
    obtain ⟨-, rfl⟩ := List.cons.inj hsplit
    exact h.followed before notice' after rfl hkind

/-- Where nothing has failed and nothing is wished for, nothing has to follow. -/
theorem followed_of_forall {announced : List (Notice Session Nat)}
    (h : ∀ notice ∈ announced, notice.kind ≠ .errored ∧ notice.kind ≠ .skipRequested) :
    Followed announced := by
  rintro before notice after rfl hkind
  obtain ⟨herrored, hskip⟩ := h notice (by simp)
  exact absurd hkind (not_or.2 ⟨herrored, hskip⟩)

/-! ## Operations on playback -/

namespace Playback

variable (P : Provider σ) (p : Playback σ)

theorem settling_settle (waiting : List String) : Settling (notices (p.settle P waiting).acts) := by
  induction waiting generalizing p with
  | nil =>
    obtain ⟨memory, sent, hidle⟩ := goIdle_eq P p
    rw [settle, hidle, notices_append, notices_drops]
    exact ⟨[], .idle, rfl, by simp, .inr rfl⟩
  | cons identifier others ih =>
    rw [settle]
    rcases attempt_cases P identifier others p with
      ⟨memory, sent, name, -, heq⟩ | ⟨memory, sent, reason, heq⟩
    · rw [heq, Outcome.acts_andThen, notices_append, notices_append, notices_drops]
      exact ⟨[], .started p.nextSession name, rfl, by simp, .inl rfl⟩
    · -- the refusal goes before what is announced of the other identifiers
      rw [heq]
      obtain ⟨refusals, last, hsettling, hrefusals, hsettles⟩ := ih
        { p with queue := ⟨others⟩, mounted := none, nextSession := p.nextSession + 1, memory }
      refine ⟨.errored none identifier reason :: refusals, last, ?_, ?_, hsettles⟩
      · rw [Outcome.acts_andThen, notices_append, notices_append, notices_drops]
        simp [← hsettling]
      · simpa [Notice.isRefusal] using hrefusals

theorem settling_advance : Settling (notices (p.advance P).acts) :=
  settling_settle P p _

theorem followed_skip : Followed (notices (p.skip P).acts) :=
  (settling_advance P p).followed_cons .skipRequested

theorem followed_tick : Followed (notices (p.tick P).acts) := by
  rw [tick]
  split
  · exact (settling_advance P p).followed
  · exact followed_of_forall (by simp [unchanged])

theorem followed_failMounted (widget : Mounted) (reason : String) :
    Followed (notices (p.failMounted P widget reason).acts) :=
  (settling_advance P p).followed_cons (.errored (some widget.session) widget.identifier reason)

theorem followed_playMounted (widget : Mounted) :
    Followed (notices (p.playMounted P widget).acts) := by
  simp only [playMounted]
  split
  · exact followed_of_forall (by simp)
  · exact followed_failMounted P _ widget _

theorem followed_receive (callback : Callback) :
    Followed (notices (p.receive P callback).acts) := by
  rw [receive]
  split
  · exact followed_of_forall (by simp [unchanged])
  · rename_i widget _
    split
    · split
      · exact followed_playMounted P p widget
      · obtain ⟨memory, sent, hended⟩ := endMounted_eq P widget p
        rw [hended, notices_append, notices_drops]
        exact followed_of_forall (by simp [Notice.kind])
      · exact followed_of_forall (by simp [unchanged])
      · exact followed_failMounted P p widget _
    · exact followed_of_forall (by simp [unchanged])

end Playback

/-! ## Inputs -/

namespace Player

variable {P : Provider σ} {connector : Connector}

theorem followed_onText (text : String) (playback : Playback σ) :
    Followed (notices (onText P text playback).acts) := by
  rw [onText]
  split
  · exact followed_of_forall (by simp [Playback.enqueue, Playback.announce, Notice.kind])
  · exact Playback.followed_skip P playback
  · exact followed_of_forall (by simp [Playback.unchanged])

theorem followed_linkNews (input : Input) (link : Link) :
    Followed (notices (linkNews connector input link)) := by
  rw [linkNews]
  split <;> exact followed_of_forall (by simp [Notice.kind])

theorem followed_handle (p : Player σ) (input : Input) :
    Followed (notices (p.handle P connector input).2) := by
  cases hstale : p.isStale input with
  | true =>
    rw [handle_of_stale hstale]
    exact followed_of_forall (by simp)
  | false =>
    -- either the connection has news or playback does something
    rw [acts_handle hstale, notices_append]
    cases input with
    | message generation text => exact followed_onText text p.playback
    | widget callback => exact Playback.followed_receive P p.playback callback
    | playbackTick => exact Playback.followed_tick P p.playback
    | opened | closed | failed | healthTick =>
      simpa [onPlayback, Playback.unchanged] using followed_linkNews _ p.link

end Player

end Jukebox
