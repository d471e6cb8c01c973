import Jukebox.Proofs.Player.Turns

/-!
# The life of a session, as announced

A session is started once and closed at most once, when its widget ends or fails, and it is closed
while it runs. What runs is left only for a reason that is announced too. The main result is
`session_lifecycle`: this is so in every run, and whenever a failure or the wish of a listener makes
playback go on, the same turn tells what it has come to.

As in `Told`, the announcements may be ahead of playback in the midst of an operation, so the
invariant `Lived` is about the widget that runs by what was announced. After a failure or a skip
that is none, even if the widget is still to be dropped.
-/

namespace Jukebox

variable {σ : Type}

namespace Notice

/-- The widget whose session is closed by the notice, since it has ended or has failed. -/
def closes? : Notice Session Nat → Option Mounted
  | ended session identifier => some ⟨session, identifier⟩
  | errored (some session) identifier _ => some ⟨session, identifier⟩
  | _ => none

/-- There is a reason to leave the session: it is closed, or a listener asks for the next item. -/
def Releases (session : Session) (notice : Notice Session Nat) : Prop :=
  notice = .skipRequested ∨ notice.closes?.map Mounted.session = some session

end Notice

/-! ## What may be announced -/

/-- Every session that was started has been left since, but for that of `now`. -/
def Left (now : Option Mounted) (announced : List (Notice Session Nat)) : Prop :=
  ∀ before session identifier since, announced = before ++ .started session identifier :: since →
    now = some ⟨session, identifier⟩ ∨ ∃ notice ∈ since, notice.Releases session

/-- The widget was started, and playback has not come to rest since. -/
def Running (widget : Mounted) (announced : List (Notice Session Nat)) : Prop :=
  ∃ before since, announced = before ++ .started widget.session widget.identifier :: since ∧
    ∀ notice ∈ since, ¬ notice.Settles

/-- The session has been closed. -/
def Closed (session : Session) (announced : List (Notice Session Nat)) : Prop :=
  ∃ notice ∈ announced, notice.closes?.map Mounted.session = some session

/-- A notice fits those before it: it starts no session again, playback comes to rest only when what
ran has been left, and what is closed is running and was not closed before. -/
structure Fitting (before : List (Notice Session Nat)) (notice : Notice Session Nat) : Prop where
  once : ∀ session identifier, notice = .started session identifier →
    ∀ name, .started session name ∉ before
  left : notice.Settles → Left none before
  closes : ∀ widget, notice.closes? = some widget →
    Running widget before ∧ ¬ Closed widget.session before

section

variable {now : Option Mounted} {announced : List (Notice Session Nat)}
  {notice : Notice Session Nat} {widget : Mounted} {session : Session}

theorem Left.concat {now' : Option Mounted} (h : Left now announced)
    (hkind : notice.kind ≠ .started)
    (hnow : ∀ widget, now = some widget → now' = some widget ∨ notice.Releases widget.session) :
    Left now' (announced ++ [notice]) := by
  intro before session identifier since hsplit
  rcases concat_eq_append_cons hsplit with ⟨-, -, rfl⟩ | ⟨since, rfl, hbefore⟩
  · exact absurd rfl hkind
  · rcases h before session identifier since hbefore with hrunning | ⟨reason, hmem, hreason⟩
    · exact (hnow _ hrunning).imp id fun hreleases => ⟨notice, by simp, hreleases⟩
    · exact .inr ⟨reason, List.mem_append_left _ hmem, hreason⟩

theorem Left.start (h : Left none announced) (session : Session) (identifier : String) :
    Left (some ⟨session, identifier⟩) (announced ++ [.started session identifier]) := by
  intro before session' identifier' since hsplit
  rcases concat_eq_append_cons hsplit with ⟨-, -, heq⟩ | ⟨since, rfl, hbefore⟩
  · cases heq
    exact .inl rfl
  · rcases h before session' identifier' since hbefore with hnone | ⟨reason, hmem, hreason⟩
    · cases hnone
    · exact .inr ⟨reason, List.mem_append_left _ hmem, hreason⟩

theorem Running.concat (h : Running widget announced) (hsettles : ¬ notice.Settles) :
    Running widget (announced ++ [notice]) := by
  obtain ⟨before, since, rfl, hsince⟩ := h
  refine ⟨before, since ++ [notice], by simp, ?_⟩
  simpa [or_imp, forall_and] using ⟨hsince, hsettles⟩

theorem Running.start (announced : List (Notice Session Nat)) (widget : Mounted) :
    Running widget (announced ++ [.started widget.session widget.identifier]) :=
  ⟨announced, [], rfl, by simp⟩

theorem closed_concat :
    Closed session (announced ++ [notice]) ↔
      Closed session announced ∨ notice.closes?.map Mounted.session = some session := by
  simp [Closed, or_and_right, exists_or]

end

/-! ## The invariant -/

/-- All that was announced fits, `now` is what runs, and the sessions of the announcements were all
used before the next one. -/
structure Lived (now : Option Mounted) (next : Session) (announced : List (Notice Session Nat)) :
    Prop where
  fitting : Throughout Fitting announced
  left : Left now announced
  running : ∀ widget, now = some widget →
    Running widget announced ∧ ¬ Closed widget.session announced
  started : ∀ session identifier, .started session identifier ∈ announced → session < next
  closed : ∀ session, Closed session announced → session < next

namespace Lived

variable {now : Option Mounted} {next : Session} {announced : List (Notice Session Nat)}
  {notice : Notice Session Nat}

theorem nil (next : Session) : Lived none next [] where
  fitting := .nil
  left before session identifier since hsplit := by simp at hsplit
  running := by simp
  started := by simp
  closed := by simp [Closed]

/-- A session may be used up without being announced. -/
theorem mono (h : Lived now next announced) : Lived now (next + 1) announced where
  fitting := h.fitting
  left := h.left
  running := h.running
  started session identifier hmem := Nat.lt_succ_of_lt (h.started session identifier hmem)
  closed session hclosed := Nat.lt_succ_of_lt (h.closed session hclosed)

/-- A notice by which playback does not come to rest may close what runs. What runs goes on running
if it is not closed, and may be left if there is a reason. -/
theorem concat {now' : Option Mounted} (h : Lived now next announced) (hsettles : ¬ notice.Settles)
    (hcloses : ∀ widget, notice.closes? = some widget → now = some widget)
    (hstays : ∀ widget, now' = some widget → now = some widget ∧ notice.closes? = none)
    (hleaves : ∀ widget, now = some widget →
      now' = some widget ∨ notice.Releases widget.session) :
    Lived now' next (announced ++ [notice]) where
  fitting := by
    refine h.fitting.concat ⟨?_, fun h => absurd h hsettles, ?_⟩
    · rintro session identifier rfl
      exact absurd (.inl rfl) hsettles
    · exact fun widget hwidget => h.running widget (hcloses widget hwidget)
  left := h.left.concat (fun hkind => hsettles (.inl hkind)) hleaves
  running widget hnow := by
    obtain ⟨hbefore, hnone⟩ := hstays widget hnow
    obtain ⟨hrunning, hopen⟩ := h.running widget hbefore
    refine ⟨hrunning.concat hsettles, ?_⟩
    simpa [closed_concat, hnone] using hopen
  started session identifier hmem := by
    rcases List.mem_append.1 hmem with hmem | hmem
    · exact h.started session identifier hmem
    · rw [← List.mem_singleton.1 hmem] at hsettles
      exact absurd (.inl rfl) hsettles
  closed session hclosed := by
    rcases closed_concat.1 hclosed with hclosed | hclosed
    · exact h.closed session hclosed
    · -- what is closed was running, so it has been started
      obtain ⟨widget, hwidget, rfl⟩ := Option.map_eq_some_iff.1 hclosed
      obtain ⟨before, since, rfl, -⟩ := (h.running widget (hcloses widget hwidget)).1
      exact h.started _ _ (List.mem_append_right _ List.mem_cons_self)

/-- A notice by which playback neither comes to rest nor closes a session changes nothing. -/
theorem aside (h : Lived now next announced) (hsettles : ¬ notice.Settles)
    (hcloses : notice.closes? = none) : Lived now next (announced ++ [notice]) :=
  h.concat hsettles (by simp [hcloses]) (fun _ hnow => ⟨hnow, hcloses⟩) fun _ hnow => .inl hnow

/-- What runs is left because a listener asks for the next item. -/
theorem skip (h : Lived now next announced) : Lived none next (announced ++ [.skipRequested]) :=
  h.concat (by simp [Notice.Settles, Notice.kind]) (by simp [Notice.closes?]) (by simp)
    fun _ _ => .inr (.inl rfl)

/-- What runs is closed. -/
theorem close {widget : Mounted} (h : Lived (some widget) next announced)
    (hsettles : ¬ notice.Settles) (hcloses : notice.closes? = some widget) :
    Lived none next (announced ++ [notice]) := by
  refine h.concat hsettles ?_ (by simp) ?_
  · exact fun _ hwidget => hcloses.symm.trans hwidget
  · rintro _ ⟨⟩
    exact .inr (.inr (by rw [hcloses, Option.map_some]))

theorem start (h : Lived none next announced) (name : String) :
    Lived (some ⟨next, name⟩) (next + 1) (announced ++ [.started next name]) where
  fitting := by
    refine h.fitting.concat ⟨?_, fun _ => h.left, by simp [Notice.closes?]⟩
    rintro session identifier ⟨⟩ name' hmem
    exact Nat.lt_irrefl _ (h.started next name' hmem)
  left := h.left.start next name
  running := by
    rintro widget ⟨⟩
    refine ⟨.start announced ⟨next, name⟩, ?_⟩
    -- all that was closed was used before, and the session is new
    rw [closed_concat]
    rintro (hclosed | hclosed)
    · exact Nat.lt_irrefl _ (h.closed next hclosed)
    · cases hclosed
  started session identifier hmem := by
    rcases List.mem_append.1 hmem with hmem | hmem
    · exact Nat.lt_succ_of_lt (h.started session identifier hmem)
    · cases List.mem_singleton.1 hmem
      exact Nat.lt_succ_self next
  closed session hclosed := by
    rcases closed_concat.1 hclosed with hclosed | hclosed
    · exact Nat.lt_succ_of_lt (h.closed session hclosed)
    · cases hclosed

theorem idle (h : Lived none next announced) : Lived none next (announced ++ [.idle]) where
  fitting := h.fitting.concat ⟨by simp, fun _ => h.left, by simp [Notice.closes?]⟩
  left := h.left.concat (by simp [Notice.kind]) (by simp)
  running := by simp
  started session identifier hmem := h.started session identifier (by simpa using hmem)
  closed session hclosed := by
    refine h.closed session ((closed_concat.1 hclosed).resolve_right ?_)
    simp [Notice.closes?]

end Lived

/-- Between operations what runs by the announcements is what is mounted, and the playing flag tells
whether there is something. -/
theorem invariant_lived (P : Provider σ) :
    Player.Invariant P
      (fun acts p => Lived p.mounted p.nextSession (notices acts) ∧ p.playing = p.mounted.isSome)
      fun acts p => Lived none p.nextSession (notices acts) where
  moving_of_idle {acts p} h hidle := by
    have hnone : p.mounted = none := by simpa [hidle] using h.2
    exact hnone ▸ h.1
  skipRequested h := by simpa [notices_append] using h.1.skip
  errored {acts p widget} reason h hmounted := by
    have hrunning := h.1
    rw [hmounted] at hrunning
    rw [notices_append]
    exact hrunning.close (by simp [Notice.Settles, Notice.kind]) rfl
  accepted {acts p identifier others name} _ h _ _ := by
    refine ⟨?_, rfl⟩
    rw [notices_append_drops]
    exact h.start name
  refused {acts p identifier others} reason _ h _ := by
    rw [notices_append_drops]
    exact h.mono.aside (by simp [Notice.Settles, Notice.kind]) rfl
  idle {acts p} _ h _ := by
    refine ⟨?_, rfl⟩
    rw [notices_append_drops]
    exact h.idle
  played _ h _ := ⟨by simpa [notices_append] using h.1, h.2⟩
  ended {acts p widget} _ h hmounted := by
    have hrunning := h.1
    rw [hmounted] at hrunning
    refine ⟨?_, rfl⟩
    rw [notices_append_drops]
    exact hrunning.close (by simp [Notice.Settles, Notice.kind]) rfl
  enqueue identifier acts p h := by
    refine ⟨?_, h.2⟩
    rw [notices_append]
    exact h.1.aside (by simp [Notice.Settles, Notice.kind]) rfl
  linkChanged generation state h := by
    refine ⟨?_, h.2⟩
    rw [notices_append]
    exact h.1.aside (by simp [Notice.Settles, Notice.kind]) rfl
  meanwhile _ h := h

/-! ## The main result -/

/-- In every run, with any connections and whatever the provider answers: a session is started at
most once. What closes a session comes after its start, under the same identifier, and in between
nothing else starts and playback does not run out of items; a session is closed at most once.
Between the start of a session and the next time that an item starts or none is left to play, the
session is closed or a listener asks for the next item. After each failure and each such wish, the
same turn tells of any number of widgets that could not be made, and then that one item starts or
that none is left to play, and of nothing else. -/
theorem session_lifecycle (P : Provider σ) (connector : Connector) (layout : Layout) (memory : σ)
    (steps : List (Player.Step σ)) :
    let (_, journal) := Player.run P connector steps (Player.start connector layout memory)
    let announced := notices (actsOf journal)
    (∀ before session identifier after,
      announced = before ++ .started session identifier :: after →
        ∀ name, .started session name ∉ before) ∧
      (∀ before notice after widget, announced = before ++ notice :: after →
        notice.closes? = some widget →
          (∃ earlier between,
            before = earlier ++ .started widget.session widget.identifier :: between ∧
              ∀ other ∈ between, ¬ other.Settles) ∧
            ∀ other ∈ before, other.closes?.map Mounted.session ≠ some widget.session) ∧
      (∀ before session identifier between notice after,
        announced = before ++ .started session identifier :: (between ++ notice :: after) →
          notice.Settles → ∃ reason ∈ between, reason.Releases session) ∧
      ∀ h ∈ journal, ∀ before notice after, notices h.acts = before ++ notice :: after →
        notice.kind = .errored ∨ notice.kind = .skipRequested →
          ∃ refusals last, after = refusals ++ [last] ∧
            (∀ refusal ∈ refusals, refusal.isRefusal = true) ∧ last.Settles := by
  have hrun := (invariant_lived P).run connector steps
    (p := Player.start connector layout memory) ⟨.nil 1, rfl⟩
  have hfitting := hrun.1.fitting
  refine ⟨?_, ?_, ?_, ?_⟩
  · intro before session identifier after hsplit
    exact (hfitting before _ after hsplit).once session identifier rfl
  · intro before notice after widget hsplit hcloses
    obtain ⟨hrunning, hopen⟩ := (hfitting before notice after hsplit).closes widget hcloses
    exact ⟨hrunning, fun other hmem heq => hopen ⟨other, hmem, heq⟩⟩
  · intro before session identifier between notice after hsplit hsettles
    -- playback comes to rest by the notice, so the session was left among those in front of it
    have hleft := (hfitting (before ++ .started session identifier :: between) notice after
      (by rw [hsplit, List.append_assoc, List.cons_append])).left hsettles
    exact (hleft before session identifier between rfl).resolve_left (by simp)
  · exact Player.forall_mem_run P connector (fun h => Followed (notices h.acts))
      (fun p input => Player.followed_handle p input) steps _

end Jukebox
