import Jukebox.Playback.Basic

/-!
# Invariants of playback

What an operation on playback preserves is proved from what its smallest parts do. There are seven
of them: a skip or a failure is announced, an identifier is tried and accepted or refused, nothing
is left to try, the mounted widget is told to play, or it comes to its end. `Invariant` lists what
has to be shown of each, and `Invariant.receive`, `Invariant.tick`, `Invariant.skip` and
`Invariant.advance` conclude from it what whole operations preserve.

In the midst of an operation less is known than between operations: a widget may be gone while the
playing flag still says that one plays. An invariant therefore has two parts, one for each.
-/

namespace Jukebox

variable {σ : Type}

/-- What may be known of everything done so far and of playback. -/
abbrev Fact (σ : Type) := List Act → Playback σ → Prop

/-- From where `before` holds the operation leads to where `after` holds. -/
def Leads (before : Fact σ) (op : Playback σ → Outcome σ) (after : Fact σ) : Prop :=
  ∀ acts p, before acts p → after (acts ++ (op p).acts) (op p).playback

namespace Leads

variable {A B C : Fact σ}

theorem andThen {first second : Playback σ → Outcome σ} (h : Leads A first B)
    (h' : Leads B second C) : Leads A (fun p => (first p).andThen second) C := by
  intro acts p hA
  have hC := h' _ _ (h acts p hA)
  rwa [List.append_assoc] at hC

theorem unchanged : Leads A Playback.unchanged A := by
  intro acts p hA
  simpa [Playback.unchanged] using hA

end Leads

/-- Somewhere the provider accepts to make the widget of a session, which then reports a name. -/
def Provider.MayAccept (P : Provider σ) (session : Session) (spec : WidgetSpec) (name : String) :
    Prop :=
  ∃ memory, (P.create memory session spec).result = .ok name

namespace Playback

/-- The mounted widget is dropped. -/
def drops (p : Playback σ) : List Act := (p.mounted.map Act.drop).toList

theorem eq_drop_of_mem_drops (p : Playback σ) {act : Act} (h : act ∈ p.drops) :
    ∃ widget, act = .drop widget := by
  obtain ⟨widget, -, heq⟩ := Option.map_eq_some_iff.1 (Option.mem_toList.1 h)
  exact ⟨widget, heq.symm⟩

/-- A view that passes over dropped widgets sees nothing in what is dropped. -/
theorem filterMap_drops {β : Type} {view : Act → Option β}
    (hview : ∀ widget, view (.drop widget) = none) (p : Playback σ) :
    p.drops.filterMap view = [] := by
  rw [List.filterMap_eq_nil_iff]
  intro act hmem
  obtain ⟨widget, rfl⟩ := p.eq_drop_of_mem_drops hmem
  exact hview widget

/-- What the next widget is made from. -/
def spec (p : Playback σ) (identifier : String) : WidgetSpec := { p.layout with identifier }

/-! ## What the parts of an operation do -/

theorem teardown_eq (P : Provider σ) (p : Playback σ) : ∃ memory sent,
    p.teardown P = { playback := { p with mounted := none, memory }, acts := p.drops, sent } := by
  obtain ⟨layout, queue, playing, mounted, nextSession, memory⟩ := p
  cases mounted with
  | none => exact ⟨memory, [], rfl⟩
  | some widget => exact ⟨_, _, rfl⟩

theorem start_of_ok {P : Provider σ} {identifier name : String} {p : Playback σ}
    (h : (P.create p.memory p.nextSession (p.spec identifier)).result = .ok name) :
    p.start P identifier =
      { playback := { p with
          mounted := some ⟨p.nextSession, name⟩, playing := true, nextSession := p.nextSession + 1
          memory := (P.create p.memory p.nextSession (p.spec identifier)).memory }
        acts := [.create p.nextSession (p.spec identifier) true,
          .announce (.started p.nextSession name)]
        sent := (P.create p.memory p.nextSession (p.spec identifier)).sent
        sound := p.mounted.isNone } := by
  simp only [spec] at h ⊢
  rw [start, h]

theorem start_of_error {P : Provider σ} {identifier : String} {e : PlayerError} {p : Playback σ}
    (h : (P.create p.memory p.nextSession (p.spec identifier)).result = .error e) :
    p.start P identifier =
      { playback := { p with
          nextSession := p.nextSession + 1
          memory := (P.create p.memory p.nextSession (p.spec identifier)).memory }
        acts := [.create p.nextSession (p.spec identifier) false,
          .announce (.errored none identifier e.message)]
        sent := (P.create p.memory p.nextSession (p.spec identifier)).sent } := by
  simp only [spec] at h ⊢
  rw [start, h]

/-- An identifier that is tried leaves the queue and is accepted or refused. The assertion that
nothing is mounted holds in both cases. -/
theorem attempt_cases (P : Provider σ) (identifier : String) (others : List String)
    (p : Playback σ) :
    (∃ memory sent name, P.MayAccept p.nextSession (p.spec identifier) name ∧
      p.attempt P identifier others =
        { playback := { p with
            queue := ⟨others⟩, mounted := some ⟨p.nextSession, name⟩, playing := true
            nextSession := p.nextSession + 1, memory }
          acts := p.drops ++ [.create p.nextSession (p.spec identifier) true,
            .announce (.started p.nextSession name)]
          sent }) ∨
    ∃ memory sent reason, p.attempt P identifier others =
      { playback := { p with
          queue := ⟨others⟩, mounted := none, nextSession := p.nextSession + 1, memory }
        acts := p.drops ++ [.create p.nextSession (p.spec identifier) false,
          .announce (.errored none identifier reason)]
        sent } := by
  obtain ⟨memory, sent, hdown⟩ := teardown_eq P { p with queue := ⟨others⟩ }
  rw [attempt, hdown]
  cases hanswer : (P.create memory p.nextSession (p.spec identifier)).result with
  | ok name =>
    left
    refine ⟨(P.create memory p.nextSession (p.spec identifier)).memory,
      sent ++ (P.create memory p.nextSession (p.spec identifier)).sent, name, ⟨memory, hanswer⟩, ?_⟩
    rw [Outcome.andThen, start_of_ok hanswer]
    rfl
  | error e =>
    right
    refine ⟨(P.create memory p.nextSession (p.spec identifier)).memory,
      sent ++ (P.create memory p.nextSession (p.spec identifier)).sent, e.message, ?_⟩
    rw [Outcome.andThen, start_of_error hanswer]
    rfl

theorem goIdle_eq (P : Provider σ) (p : Playback σ) : ∃ memory sent,
    p.goIdle P = { playback := { p with mounted := none, playing := false, memory }
                   acts := p.drops ++ [.announce .idle], sent } := by
  obtain ⟨memory, sent, hdown⟩ := teardown_eq P p
  refine ⟨memory, sent ++ [], ?_⟩
  simp [goIdle, hdown, Outcome.andThen, announce, checked]

theorem endMounted_eq (P : Provider σ) (widget : Mounted) (p : Playback σ) : ∃ memory sent,
    p.endMounted P widget =
      { playback := { p with mounted := none, playing := false, memory }
        acts := p.drops ++ [.announce (.ended widget.session widget.identifier)], sent } := by
  obtain ⟨memory, sent, hdown⟩ := teardown_eq P p
  refine ⟨memory, sent ++ [], ?_⟩
  simp [endMounted, hdown, Outcome.andThen, announce, checked]

end Playback

/-! ## Invariants -/

/-- `steady` holds between operations and `moving` while the next item is looked for, given that
each part of an operation does its share. -/
structure Invariant (P : Provider σ) (steady moving : Fact σ) : Prop where
  moving_of_idle : ∀ {acts p}, steady acts p → p.playing = false → moving acts p
  skipRequested : ∀ {acts p}, steady acts p → moving (acts ++ [.announce .skipRequested]) p
  errored : ∀ {acts p widget} reason, steady acts p → p.mounted = some widget →
    moving (acts ++ [.announce (.errored (some widget.session) widget.identifier reason)]) p
  accepted : ∀ {acts p identifier others name} memory, moving acts p →
    p.queue.toList = identifier :: others →
    P.MayAccept p.nextSession (p.spec identifier) name →
    steady (acts ++ (p.drops ++ [.create p.nextSession (p.spec identifier) true,
        .announce (.started p.nextSession name)]))
      { p with
        queue := ⟨others⟩, mounted := some ⟨p.nextSession, name⟩, playing := true
        nextSession := p.nextSession + 1, memory }
  refused : ∀ {acts p identifier others} reason memory, moving acts p →
    p.queue.toList = identifier :: others →
    moving (acts ++ (p.drops ++ [.create p.nextSession (p.spec identifier) false,
        .announce (.errored none identifier reason)]))
      { p with queue := ⟨others⟩, mounted := none, nextSession := p.nextSession + 1, memory }
  idle : ∀ {acts p} memory, moving acts p → p.queue.toList = [] →
    steady (acts ++ (p.drops ++ [.announce .idle]))
      { p with mounted := none, playing := false, memory }
  played : ∀ {acts p widget} memory, steady acts p → p.mounted = some widget →
    steady (acts ++ [.play widget]) { p with memory }
  ended : ∀ {acts p widget} memory, steady acts p → p.mounted = some widget →
    steady (acts ++ (p.drops ++ [.announce (.ended widget.session widget.identifier)]))
      { p with mounted := none, playing := false, memory }

namespace Invariant

open Playback

variable {P : Provider σ} {steady moving : Fact σ}

/-- Each refused identifier leaves what is known while moving, and the search ends steadily: when an
identifier is accepted, or when none is left. -/
theorem settle (inv : Invariant P steady moving) (waiting : List String) {acts : List Act}
    {p : Playback σ} (h : moving acts p) (hq : p.queue.toList = waiting) :
    steady (acts ++ (p.settle P waiting).acts) (p.settle P waiting).playback := by
  -- the loop runs over the queue, so at each turn `waiting` is what the queue holds
  induction waiting generalizing acts p with
  | nil =>
    obtain ⟨memory, sent, hidle⟩ := goIdle_eq P p
    rw [Playback.settle, hidle]
    exact inv.idle memory h hq
  | cons identifier others ih =>
    rw [Playback.settle]
    rcases attempt_cases P identifier others p with
      ⟨memory, sent, name, haccept, heq⟩ | ⟨memory, sent, reason, heq⟩
    · have hmounted := inv.accepted memory h hq haccept
      rw [heq]
      simpa [Outcome.andThen, checked] using hmounted
    · have hrefused := ih (inv.refused reason memory h hq) rfl
      rw [heq]
      simpa [Outcome.andThen] using hrefused

theorem advance (inv : Invariant P steady moving) : Leads moving (Playback.advance P) steady :=
  fun _ p h => inv.settle p.queue.toList h rfl

theorem skip (inv : Invariant P steady moving) : Leads steady (Playback.skip P) steady :=
  Leads.andThen (fun _ _ h => inv.skipRequested h) inv.advance

theorem tick (inv : Invariant P steady moving) : Leads steady (Playback.tick P) steady := by
  intro acts p h
  rw [Playback.tick]
  split
  · -- a tick looks for the next item only while none is playing
    rename_i hidle
    rw [Bool.and_eq_true, Bool.not_eq_true'] at hidle
    exact inv.advance acts p (inv.moving_of_idle h hidle.2)
  · exact Leads.unchanged acts p h

theorem failMounted (inv : Invariant P steady moving) (widget : Mounted) (reason : String) :
    Leads (fun acts p => steady acts p ∧ p.mounted = some widget)
      (Playback.failMounted P widget reason) steady :=
  Leads.andThen (fun _ _ h => inv.errored reason h.1 h.2) inv.advance

theorem playMounted (inv : Invariant P steady moving) (widget : Mounted) :
    Leads (fun acts p => steady acts p ∧ p.mounted = some widget)
      (Playback.playMounted P widget) steady := by
  intro acts p ⟨h, hmounted⟩
  have hplayed := inv.played (P.play p.memory widget.session).memory h hmounted
  simp only [Playback.playMounted]
  split
  · exact hplayed
  · -- the widget was told to play before it failed, so both are steps of the invariant
    rename_i e _
    have hfailed := inv.failMounted widget e.message _ _ ⟨hplayed, hmounted⟩
    rwa [List.append_assoc] at hfailed

theorem endMounted (inv : Invariant P steady moving) (widget : Mounted) :
    Leads (fun acts p => steady acts p ∧ p.mounted = some widget)
      (Playback.endMounted P widget) steady := by
  intro acts p ⟨h, hmounted⟩
  obtain ⟨memory, sent, hended⟩ := endMounted_eq P widget p
  rw [hended]
  exact inv.ended memory h hmounted

theorem receive (inv : Invariant P steady moving) (callback : Callback) :
    Leads steady (Playback.receive P callback) steady := by
  intro acts p h
  rw [Playback.receive]
  split
  · exact Leads.unchanged acts p h
  · rename_i widget hmounted
    split
    · split
      · exact inv.playMounted widget acts p ⟨h, hmounted⟩
      · exact inv.endMounted widget acts p ⟨h, hmounted⟩
      · exact Leads.unchanged acts p h
      · exact inv.failMounted widget _ acts p ⟨h, hmounted⟩
    · exact Leads.unchanged acts p h

end Invariant

end Jukebox
