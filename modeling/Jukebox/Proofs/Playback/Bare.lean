import Jukebox.Proofs.Playback.Invariant
import Jukebox.Widget.DryRun

/-!
# Well-behaved providers

A provider is well behaved if its answer depends only on what a widget is to be made from, and what
it sends by itself asks for nothing: its widgets are ready, and do something else than to end or to
fail. When a widget is refused or dropped anything may be said, but not in the name of a session to
come.

Every operation on playback goes with such a provider as it goes with the bare provider, which gives
the same answers and never sends anything (`Agrees.receive` and the lemmas before it). What was sent
meanwhile is moot: when it is received, at most a widget is told to play (`receive_bare_of_moot`).
-/

namespace Jukebox

variable {σ : Type}

/-! ## Well-behaved providers -/

/-- The report asks for nothing but that its widget be told to play. -/
def Report.Ordinary : Report → Prop
  | ready => True
  | changed state => state ≠ .ended
  | failed _ => False

/-- Whether the provider makes a widget, and what that is called, is told by what the widget is to
be made from. -/
def Provider.Gives (P : Provider σ) (answer : WidgetSpec → Except PlayerError String) : Prop :=
  ∀ memory session spec, (P.create memory session spec).result = answer spec

/-- The provider always answers alike, its widgets can play, and by themselves they say nothing of
their end or of a failure. -/
structure Provider.WellBehaved (P : Provider σ) : Prop where
  answers : ∃ answer, P.Gives answer
  /-- A widget that was made says at most that it is ready. -/
  ready : ∀ memory session spec name, (P.create memory session spec).result = .ok name →
    ∀ callback ∈ (P.create memory session spec).sent, callback.report = .ready
  /-- Where one is refused, nothing is said of sessions to come. -/
  refused : ∀ memory session spec e, (P.create memory session spec).result = .error e →
    ∀ callback ∈ (P.create memory session spec).sent, callback.session ≤ session
  plays : ∀ memory session, (P.play memory session).result = .ok ()
  /-- When it is told to play it says what it does, but not that it ends. -/
  changes : ∀ memory session, ∀ callback ∈ (P.play memory session).sent,
    ∃ state, state ≠ .ended ∧ callback.report = .changed state
  /-- Where one is dropped, nothing is said of sessions to come. -/
  dropped : ∀ memory session, ∀ callback ∈ (P.drop memory session).2,
    callback.session ≤ session

/-- The provider that answers and does nothing else. -/
def Provider.bare (answer : WidgetSpec → Except PlayerError String) : Provider Unit where
  create _ _ spec := { memory := (), result := answer spec }
  play _ _ := { memory := (), result := .ok () }
  drop _ _ := ((), [])

/-- Playback without the memory of the provider. -/
def Playback.bare (p : Playback σ) : Playback Unit where
  layout := p.layout
  queue := p.queue
  playing := p.playing
  mounted := p.mounted
  nextSession := p.nextSession
  memory := ()

/-- The report asks for nothing, or its session is gone. -/
def Callback.Moot (p : Playback σ) (callback : Callback) : Prop :=
  callback.report.Ordinary ∨
    callback.session < p.nextSession ∧ p.mounted.map Mounted.session ≠ some callback.session

/-- The session of the mounted widget has been used up. -/
def Playback.Dated (p : Playback σ) : Prop :=
  ∀ widget, p.mounted = some widget → widget.session < p.nextSession

/-! ## Operations that agree -/

/-- From `p` an operation leads to the same playback, by the same acts, as one with the bare
provider. What was moot is so still, and so is what was sent meanwhile. -/
structure Agrees (p : Playback σ) (o : Outcome σ) (o' : Outcome Unit) : Prop where
  playback : o.playback.bare = o'.playback
  acts : o.acts = o'.acts
  dated : o.playback.Dated
  still : ∀ callback : Callback, callback.Moot p → callback.Moot o.playback
  sent : ∀ callback ∈ o.sent, callback.Moot o.playback

namespace Agrees

theorem andThen {p : Playback σ} {o : Outcome σ} {o' : Outcome Unit}
    {next : Playback σ → Outcome σ} {next' : Playback Unit → Outcome Unit} (h : Agrees p o o')
    (hnext : o.playback.Dated → Agrees o.playback (next o.playback) (next' o.playback.bare)) :
    Agrees p (o.andThen next) (o'.andThen next') := by
  have hthen := hnext h.dated
  rw [h.playback] at hthen
  refine ⟨hthen.playback, ?_, hthen.dated, fun c hc => hthen.still c (h.still c hc), ?_⟩
  · rw [Outcome.acts_andThen, Outcome.acts_andThen, h.acts, hthen.acts]
  · intro callback hmem
    rcases List.mem_append.1 hmem with hmem | hmem
    · exact hthen.still callback (h.sent callback hmem)
    · exact hthen.sent callback hmem

variable {p : Playback σ}

/-- What is moot depends only on the sessions. -/
theorem of_same {q : Playback σ} {o : Outcome σ} {o' : Outcome Unit} (h : Agrees q o o')
    (hmounted : q.mounted = p.mounted) (hnext : q.nextSession = p.nextSession) : Agrees p o o' where
  playback := h.playback
  acts := h.acts
  dated := h.dated
  still callback hmoot := h.still callback (by rwa [Callback.Moot, hmounted, hnext])
  sent := h.sent

theorem unchanged (hp : p.Dated) : Agrees p p.unchanged p.bare.unchanged :=
  ⟨rfl, rfl, hp, fun _ h => h, by simp [Playback.unchanged]⟩

theorem checked (hp : p.Dated) : Agrees p p.checked p.bare.checked :=
  ⟨rfl, rfl, hp, fun _ h => h, by simp [Playback.checked]⟩

theorem announce (hp : p.Dated) (notice : Notice Session Nat) :
    Agrees p (p.announce notice) (p.bare.announce notice) :=
  ⟨rfl, rfl, hp, fun _ h => h, by simp [Playback.announce]⟩

theorem enqueue (hp : p.Dated) (identifier : String) :
    Agrees p (p.enqueue identifier) (p.bare.enqueue identifier) :=
  ⟨rfl, rfl, hp, fun _ h => h, by simp [Playback.enqueue, Playback.announce]⟩

variable {P : Provider σ} {answer : WidgetSpec → Except PlayerError String}

theorem teardown (hP : P.WellBehaved) (hp : p.Dated) :
    Agrees p (p.teardown P) (p.bare.teardown (.bare answer)) := by
  obtain ⟨layout, queue, playing, mounted, nextSession, memory⟩ := p
  cases mounted with
  | none => exact unchanged hp
  | some widget =>
    refine ⟨rfl, rfl, by rintro widget ⟨⟩, ?_, ?_⟩
    · rintro callback (hordinary | ⟨hpast, -⟩)
      · exact .inl hordinary
      · exact .inr ⟨hpast, by simp [Playback.teardown]⟩
    · -- the session of the widget was mounted, so it is past, and now none is mounted
      intro callback hmem
      have hsession := hP.dropped memory widget.session callback hmem
      exact .inr ⟨Nat.lt_of_le_of_lt hsession (hp widget rfl), by simp [Playback.teardown]⟩

theorem start (hP : P.WellBehaved) (hanswer : P.Gives answer) (hp : p.Dated)
    (hnone : p.mounted = none) (identifier : String) :
    Agrees p (p.start P identifier) (p.bare.start (.bare answer) identifier) := by
  have hresult := hanswer p.memory p.nextSession (p.spec identifier)
  cases hcase : answer (p.spec identifier) with
  | ok name =>
    rw [hcase] at hresult
    rw [Playback.start_of_ok hresult, Playback.start_of_ok (p := p.bare) hcase]
    refine ⟨rfl, rfl, ?_, ?_, ?_⟩
    · rintro widget ⟨⟩
      exact Nat.lt_succ_self _
    · rintro callback (hordinary | ⟨hpast, -⟩)
      · exact .inl hordinary
      · refine .inr ⟨Nat.lt_succ_of_lt hpast, fun heq => ?_⟩
        exact Nat.ne_of_gt hpast (Option.some.inj heq)
    · intro callback hmem
      left
      rw [hP.ready _ _ _ _ hresult callback hmem]
      trivial
  | error e =>
    rw [hcase] at hresult
    rw [Playback.start_of_error hresult, Playback.start_of_error (p := p.bare) hcase]
    refine ⟨rfl, rfl, fun widget hwidget => Nat.lt_succ_of_lt (hp widget hwidget), ?_, ?_⟩
    · rintro callback (hordinary | ⟨hpast, hne⟩)
      · exact .inl hordinary
      · exact .inr ⟨Nat.lt_succ_of_lt hpast, hne⟩
    · -- the refused session has just been used up, and none is mounted
      intro callback hmem
      have hsession := hP.refused _ _ _ _ hresult callback hmem
      exact .inr ⟨Nat.lt_succ_of_le hsession, by simp [hnone]⟩

theorem attempt (hP : P.WellBehaved) (hanswer : P.Gives answer) (hp : p.Dated)
    (identifier : String) (others : List String) :
    Agrees p (p.attempt P identifier others)
      (p.bare.attempt (.bare answer) identifier others) := by
  have hdown : Agrees { p with queue := ⟨others⟩ } _ (Playback.teardown (.bare answer) _) :=
    teardown hP hp
  refine (hdown.of_same (p := p) rfl rfl).andThen fun hdated => ?_
  refine start hP hanswer hdated ?_ identifier
  obtain ⟨memory, sent, heq⟩ := Playback.teardown_eq P { p with queue := ⟨others⟩ }
  rw [heq]

theorem goIdle (hP : P.WellBehaved) (hp : p.Dated) :
    Agrees p (p.goIdle P) (p.bare.goIdle (.bare answer)) :=
  (teardown hP hp).andThen fun hdated =>
    ((announce (p := { (p.teardown P).playback with playing := false }) hdated .idle).andThen
      checked).of_same rfl rfl

/-- The loop tries the same identifiers with both providers, since they answer alike. -/
theorem settle (hP : P.WellBehaved) (hanswer : P.Gives answer) (waiting : List String)
    (hp : p.Dated) :
    Agrees p (p.settle P waiting) (p.bare.settle (.bare answer) waiting) := by
  induction waiting generalizing p with
  | nil => exact goIdle hP hp
  | cons identifier others ih =>
    refine (attempt hP hanswer hp identifier others).andThen fun hdated => ?_
    show Agrees _ (if Option.isSome (Outcome.playback _).mounted then _ else _)
      (if Option.isSome (Outcome.playback _).mounted then _ else _)
    split
    · exact checked hdated
    · exact ih hdated

theorem advance (hP : P.WellBehaved) (hanswer : P.Gives answer) (hp : p.Dated) :
    Agrees p (p.advance P) (p.bare.advance (.bare answer)) :=
  settle hP hanswer p.queue.toList hp

theorem skip (hP : P.WellBehaved) (hanswer : P.Gives answer) (hp : p.Dated) :
    Agrees p (p.skip P) (p.bare.skip (.bare answer)) :=
  (announce hp .skipRequested).andThen (advance hP hanswer)

theorem tick (hP : P.WellBehaved) (hanswer : P.Gives answer) (hp : p.Dated) :
    Agrees p (p.tick P) (p.bare.tick (.bare answer)) := by
  rw [Playback.tick, Playback.tick]
  show Agrees p _ (if p.queue.hasNext && !p.playing then _ else _)
  split
  · exact advance hP hanswer hp
  · exact unchanged hp

theorem failMounted (hP : P.WellBehaved) (hanswer : P.Gives answer) (hp : p.Dated)
    (widget : Mounted) (reason : String) :
    Agrees p (p.failMounted P widget reason) (p.bare.failMounted (.bare answer) widget reason) :=
  (announce hp (.errored (some widget.session) widget.identifier reason)).andThen
    (advance hP hanswer)

theorem playMounted (hP : P.WellBehaved) (hp : p.Dated) (widget : Mounted) :
    Agrees p (p.playMounted P widget) (p.bare.playMounted (.bare answer) widget) := by
  have hplays := hP.plays p.memory widget.session
  rw [Playback.playMounted]
  simp only [hplays]
  refine ⟨rfl, rfl, hp, fun _ h => h, ?_⟩
  intro callback hmem
  obtain ⟨state, hstate, hreport⟩ := hP.changes _ _ callback hmem
  left
  rw [hreport]
  exact hstate

theorem endMounted (hP : P.WellBehaved) (hp : p.Dated) (widget : Mounted) :
    Agrees p (p.endMounted P widget) (p.bare.endMounted (.bare answer) widget) :=
  (teardown hP hp).andThen fun hdated =>
    ((announce (p := { (p.teardown P).playback with playing := false }) hdated
      (.ended widget.session widget.identifier)).andThen checked).of_same rfl rfl

theorem receive (hP : P.WellBehaved) (hanswer : P.Gives answer) (hp : p.Dated)
    (callback : Callback) :
    Agrees p (p.receive P callback) (p.bare.receive (.bare answer) callback) := by
  have hsame : p.bare.mounted = p.mounted := rfl
  rw [Playback.receive, Playback.receive, hsame]
  cases p.mounted with
  | none => exact unchanged hp
  | some widget =>
    by_cases hsession : widget.session = callback.session
    · simp only [if_pos hsession]
      cases callback.report with
      | ready => exact playMounted hP hp widget
      | failed reason => exact failMounted hP hanswer hp widget reason
      | changed state =>
        cases state with
        | ended => exact endMounted hP hp widget
        | _ => exact unchanged hp
    · simp only [if_neg hsession]
      exact unchanged hp

end Agrees

/-! ## Moot reports -/

/-- A moot report does nothing, or makes the mounted widget be told to play. -/
theorem receive_bare_of_moot (answer : WidgetSpec → Except PlayerError String)
    {p : Playback Unit} {callback : Callback} (h : callback.Moot p) :
    (p.receive (.bare answer) callback).playback = p ∧
      ∀ act ∈ (p.receive (.bare answer) callback).acts, ∃ widget, act = .play widget := by
  rw [Playback.receive]
  cases hmounted : p.mounted with
  | none => exact ⟨rfl, by simp [Playback.unchanged]⟩
  | some widget =>
    by_cases hsession : widget.session = callback.session
    · -- a report of the mounted session is moot only if it asks for nothing
      have hordinary : callback.report.Ordinary :=
        h.resolve_right fun hgone => hgone.2 (by rw [hmounted, Option.map_some, hsession])
      simp only [if_pos hsession]
      cases hreport : callback.report with
      | ready => exact ⟨rfl, by simp [Playback.playMounted, Provider.bare]⟩
      | failed reason =>
        rw [hreport] at hordinary
        exact absurd hordinary id
      | changed state =>
        rw [hreport] at hordinary
        cases state with
        | ended => exact absurd rfl hordinary
        | _ => exact ⟨rfl, by simp [Playback.unchanged]⟩
    · simp only [if_neg hsession]
      exact ⟨rfl, by simp [Playback.unchanged]⟩

end Jukebox
