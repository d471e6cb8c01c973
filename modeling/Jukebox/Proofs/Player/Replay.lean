import Jukebox.Link.Task
import Jukebox.Proofs.History
import Jukebox.Proofs.Player.Run
import Jukebox.Widget.DryRun
import Jukebox.Widget.External

/-!
# Announcements tell everything

Whoever listens to the announcements can tell what waits and what is mounted. `Scene.next` is how
such a listener goes on with an announcement, and refuses to when the announcement makes no sense.
The main result is `replay_announcements`: in every run the announcements make sense and tell the
state of the player.

In the midst of an operation the announcements may be ahead of playback: a failure is announced
before the widget is dropped. The invariant `Told` is therefore about what the listener takes to be
mounted; between operations that is what is mounted.
-/

namespace Jukebox

variable {σ : Type}

/-- What a listener takes to be waiting and to be mounted. -/
structure Scene where
  queue : List String := []
  now : Option Mounted := none
  deriving Repr, DecidableEq

namespace Scene

/-- The scene without the identifier that waits first, and with what is mounted instead. -/
def take (now : Option Mounted) (scene : Scene) : Option Scene :=
  match scene.queue with
  | [] => none
  | _ :: queue => some { queue, now }

/-- The scene after an announcement. It makes no sense that something was taken from an empty queue,
or that the queue has another length than it has. -/
def next (scene : Scene) : Notice Session Nat → Option Scene
  | .enqueued identifier queueLength =>
    let queue := scene.queue ++ [identifier]
    if queueLength = queue.length then some { scene with queue } else none
  | .started session identifier => scene.take (some ⟨session, identifier⟩)
  | .errored none _ _ => scene.take none
  | .errored (some _) _ _ | .ended _ _ | .idle => some { scene with now := none }
  | .skipRequested | .linkChanged _ _ => some scene

/-- The scene after some announcements, if they make sense. -/
def replay (notices : List (Notice Session Nat)) : Option Scene :=
  notices.foldlM next {}

theorem replay_concat {notices : List (Notice Session Nat)} {scene : Scene}
    (h : replay notices = some scene) (notice : Notice Session Nat) :
    replay (notices ++ [notice]) = scene.next notice := by
  rw [replay, List.foldlM_append, ← replay, h]
  simp

/-- The announcements make sense, and after them the identifier waits first. -/
def First (identifier : String) (notices : List (Notice Session Nat)) : Prop :=
  ∃ queue now, replay notices = some { queue := identifier :: queue, now }

end Scene

/-- What was announced, in order. -/
abbrev notices (acts : List Act) : List (Notice Session Nat) := acts.filterMap Act.notice?

theorem notices_append (acts more : List Act) :
    notices (acts ++ more) = notices acts ++ notices more :=
  List.filterMap_append

theorem notices_drops (p : Playback σ) : notices p.drops = [] :=
  Playback.filterMap_drops (fun _ => rfl) p

/-- That a widget is dropped is not announced. -/
theorem notices_append_drops (acts more : List Act) (p : Playback σ) :
    notices (acts ++ (p.drops ++ more)) = notices acts ++ notices more := by
  rw [notices_append, notices_append, notices_drops, List.nil_append]

/-- Widgets report the identifier that they were made for. -/
def Provider.Faithful (P : Provider σ) : Prop :=
  ∀ session spec name, P.MayAccept session spec name → name = spec.identifier

theorem DryRun.faithful_provider : DryRun.provider.Faithful := by
  rintro session spec name ⟨memory, hresult⟩
  exact (Except.ok.inj hresult).symm

theorem External.faithful_provider
    (launch : String → List String → Except Host.LaunchError Host.Child) :
    (External.provider launch).Faithful := by
  rintro session spec name ⟨memory, hresult⟩
  exact (Except.ok.inj hresult).symm

/-- Where an announcement tells of the identifier that left the queue, it names the one that waited
first. What has started goes by the name that its widget reports. -/
def Names (P : Provider σ) (before : List (Notice Session Nat)) : Notice Session Nat → Prop
  | .errored none identifier _ => Scene.First identifier before
  | .started _ identifier => P.Faithful → Scene.First identifier before
  | _ => True

/-- The announcements tell the queue and that `now` is mounted, and the right names. -/
structure Told (P : Provider σ) (now : Option Mounted) (acts : List Act) (p : Playback σ) :
    Prop where
  scene : Scene.replay (notices acts) = some { queue := p.queue.toList, now }
  names : Throughout (Names P) (notices acts)

namespace Told

variable {P : Provider σ} {now : Option Mounted} {acts more : List Act} {p q : Playback σ}

theorem silent (h : Told P now acts p) (hmore : notices more = []) (hqueue : q.queue = p.queue) :
    Told P now (acts ++ more) q := by
  have hsame : notices (acts ++ more) = notices acts := by
    rw [notices_append, hmore, List.append_nil]
  exact ⟨hsame ▸ hqueue ▸ h.scene, hsame ▸ h.names⟩

/-- Something is announced, by which a listener arrives at what is so. -/
theorem tells {now' : Option Mounted} (h : Told P now acts p) (notice : Notice Session Nat)
    (hmore : notices more = [notice])
    (hnext : Scene.next { queue := p.queue.toList, now } notice =
      some { queue := q.queue.toList, now := now' })
    (hnames : Names P (notices acts) notice) : Told P now' (acts ++ more) q := by
  have hsame : notices (acts ++ more) = notices acts ++ [notice] := by
    rw [notices_append, hmore]
  refine ⟨?_, hsame ▸ h.names.concat hnames⟩
  rw [hsame, Scene.replay_concat h.scene, hnext]

/-- The identifier that is tried is the one that waits first. -/
theorem first {identifier : String} {others : List String} (h : Told P now acts p)
    (hq : p.queue.toList = identifier :: others) : Scene.First identifier (notices acts) :=
  ⟨others, now, hq ▸ h.scene⟩

end Told

/-- Between operations the announcements tell what is mounted, and so does the playing flag. -/
def Known (P : Provider σ) (acts : List Act) (p : Playback σ) : Prop :=
  Told P p.mounted acts p ∧ p.playing = p.mounted.isSome

theorem invariant_known (P : Provider σ) :
    Player.Invariant P (Known P) fun acts p => ∃ now, Told P now acts p where
  moving_of_idle h _ := ⟨_, h.1⟩
  skipRequested h := ⟨_, h.1.tells _ rfl rfl trivial⟩
  -- the widget is still mounted, but a listener takes it to be gone
  errored reason h _ := ⟨none, h.1.tells _ rfl rfl trivial⟩
  accepted {acts p identifier others name} _ h hq haccept := by
    obtain ⟨now, htold⟩ := h
    refine ⟨htold.tells (.started p.nextSession name) ?_ ?_ ?_, rfl⟩
    · rw [notices_append, notices_drops]
      rfl
    · rw [Scene.next, Scene.take, hq]
    · intro hfaithful
      exact hfaithful _ _ _ haccept ▸ htold.first hq
  refused {acts p identifier others} reason _ h hq := by
    obtain ⟨now, htold⟩ := h
    refine ⟨none, htold.tells (.errored none identifier reason) ?_ ?_ (htold.first hq)⟩
    · rw [notices_append, notices_drops]
      rfl
    · rw [Scene.next, Scene.take, hq]
  idle _ h _ := by
    obtain ⟨now, htold⟩ := h
    refine ⟨htold.tells .idle ?_ rfl trivial, rfl⟩
    rw [notices_append, notices_drops]
    rfl
  played _ h _ := ⟨h.1.silent rfl rfl, h.2⟩
  ended {acts p widget} _ h _ := by
    refine ⟨h.1.tells (.ended widget.session widget.identifier) ?_ rfl trivial, rfl⟩
    rw [notices_append, notices_drops]
    rfl
  enqueue identifier acts p h := by
    refine ⟨h.1.tells _ rfl ?_ trivial, h.2⟩
    simp [Scene.next, Queue.size, Playback.enqueue, Playback.announce]
  linkChanged generation state h := ⟨h.1.tells _ rfl rfl trivial, h.2⟩
  meanwhile _ h := ⟨⟨h.1.scene, h.1.names⟩, h.2⟩

/-- In every run, with any connections and whatever the provider answers, the announcements so far
make sense and tell the queue and what is mounted, and the playing flag tells whether something is.
The identifier that leaves the queue when the provider refuses is the one that is announced; the one
that leaves when it accepts is, too, if its widgets report the identifier that they were made for.
The end of the player is not announced. -/
theorem replay_announcements (P : Provider σ) (connector : Connector) (layout : Layout) (memory : σ)
    (steps : List (Player.Step σ)) :
    let (p, journal) := Player.run P connector steps (Player.start connector layout memory)
    let announced := notices (actsOf journal)
    Scene.replay announced = some { queue := p.status.queue, now := p.status.nowPlaying } ∧
      p.status.playing = p.status.nowPlaying.isSome ∧
      (∀ before identifier reason after,
        announced = before ++ .errored none identifier reason :: after →
          Scene.First identifier before) ∧
      (P.Faithful → ∀ before session identifier after,
        announced = before ++ .started session identifier :: after →
          Scene.First identifier before) ∧
      notices (p.shutdown P).2 = [] := by
  have hrun := (invariant_known P).run connector steps
    (p := Player.start connector layout memory) ⟨⟨rfl, .nil⟩, rfl⟩
  refine ⟨hrun.1.scene, hrun.2, ?_, ?_, ?_⟩
  · intro before identifier reason after hsplit
    exact hrun.1.names before _ after hsplit
  · intro hfaithful before session identifier after hsplit
    exact hrun.1.names before _ after hsplit hfaithful
  · obtain ⟨memory, sent, hdown⟩ := Playback.teardown_eq P
      (Player.run P connector steps (.start connector layout memory)).1.playback
    rw [Player.shutdown, Playback.stop, hdown]
    simpa [Outcome.andThen, Playback.unchanged] using notices_drops _

/-- The widgets that play nothing are faithful, so the name under which one starts is that of the
identifier that waited. -/
theorem first_of_started_dryRun :
    let steps : List (Player.Step DryRun.Memory) :=
      [.handle (.message 1 "PLAY a"), .handle .playbackTick]
    let memory : DryRun.Memory := { duration := 5 }
    let (_, journal) :=
      Player.run DryRun.provider Link.dialer steps (Player.start Link.dialer {} memory)
    notices (actsOf journal) = [.enqueued "a" 1, .started 1 "a"] ∧
      DryRun.provider.Faithful ∧ Scene.First "a" [.enqueued "a" 1] := by
  refine ⟨by decide, DryRun.faithful_provider, ?_⟩
  exact (replay_announcements DryRun.provider Link.dialer {} { duration := 5 }
    [.handle (.message 1 "PLAY a"), .handle .playbackTick]).2.2.2.1
      DryRun.faithful_provider [.enqueued "a" 1] 1 "a" [] (by decide)

end Jukebox
