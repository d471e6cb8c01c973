import Jukebox.Proofs.Player.Lifecycle
import Jukebox.Proofs.Player.Published
import Jukebox.Status.Api

/-!
# What clients see of the player

Clients are shown the status that was published last, with a UUID and a time for the session that is
playing, and they get the announcements as events. The main result is `shown_in_step`: in every run
the two fit together. A client that saw the start of what is playing has read the same session,
identifier and time there.
-/

namespace Jukebox

variable {σ : Type}

/-- The status as clients see it: the ready state, the generation and the queue are those of the
player, and of the mounted widget they see its UUID, its identifier and its time. -/
theorem Player.shown_status (sessions : Sessions) (p : Player σ) :
    p.status.shown sessions =
      ⟨p.link.state, p.link.generation, p.playback.playing,
        p.playback.mounted.map (.ofMounted sessions), p.playback.queue.toList⟩ := by
  rw [Player.status_eq, Status.shown]

theorem Player.InStep.shown {p : Player σ} (h : p.InStep) (sessions : Sessions) :
    p.published.shown sessions =
      { p.status.shown sessions with connection := p.published.connection } := by
  rw [h]
  rfl

/-- The event for the start of a widget tells the session, the identifier and the time that clients
are shown while it is mounted. -/
theorem Event.ofNotice_started (sessions : Sessions) (now : Instant) (widget : Mounted) :
    let shown := NowPlaying.ofMounted sessions widget
    Event.ofNotice sessions now (.started widget.session widget.identifier) =
      ⟨.started shown.session shown.identifier, shown.startedAt⟩ :=
  rfl

/-- In every run, whatever UUIDs and times the sessions have: the status that was published last
shows clients the same as the present one but for the ready state of the connection. It shows an
item if it says that something is playing, and only then. That item was announced as started once,
by an event with the session, the identifier and the time that are shown, and nothing else has
started since, nor has playback run out of items. -/
theorem shown_in_step (sessions : Sessions) (P : Provider σ) (connector : Connector)
    (layout : Layout) (memory : σ) (steps : List (Player.Step σ)) :
    let (p, journal) := Player.run P connector steps (Player.start connector layout memory)
    let live := p.status.shown sessions
    p.published.shown sessions = { live with connection := p.published.connection } ∧
      live.playing = live.nowPlaying.isSome ∧
      ∀ item, live.nowPlaying = some item → ∃ before started since,
        notices (actsOf journal) = before ++ started :: since ∧
          (∀ now, Event.ofNotice sessions now started =
            ⟨.started item.session item.identifier, item.startedAt⟩) ∧
          (∀ notice ∈ since, ¬ notice.Settles) ∧
          ∀ session identifier, started = .started session identifier →
            ∀ name, .started session name ∉ before := by
  have hstep := (Player.inStep_of_eq (p := Player.start connector layout memory) rfl).run P
    connector steps
  obtain ⟨hlived, hplaying⟩ := (invariant_lived P).run connector steps
    (p := Player.start connector layout memory) ⟨.nil 1, rfl⟩
  refine ⟨hstep.shown sessions, ?_, ?_⟩
  · rw [Player.shown_status, Option.isSome_map]
    exact hplaying
  · intro item hitem
    rw [Player.shown_status] at hitem
    obtain ⟨widget, hmounted, rfl⟩ := Option.map_eq_some_iff.1 hitem
    obtain ⟨⟨before, since, hsplit, hsince⟩, -⟩ := hlived.running widget hmounted
    refine ⟨before, _, since, hsplit, fun now => Event.ofNotice_started sessions now widget, hsince,
      ?_⟩
    rintro _ _ ⟨⟩
    exact (hlived.fitting before _ since hsplit).once _ _ rfl

end Jukebox
