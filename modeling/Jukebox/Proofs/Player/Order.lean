import Jukebox.Proofs.Player.News

/-!
# First in, first out

Identifiers come in by texts on the connection that is current when they are handled. They leave the
queue when the provider is asked for their widgets, whatever the reason: a tick, a skip, a failure
or a refusal. The main result is `tried_in_order`: in every run, what the provider was asked for so
far, followed by what still waits, is what came in, in the same order. All of it is asked for in the
layout that the settings say (`tried_with_settings`).
-/

namespace Jukebox

variable {σ : Type}

/-- What the provider is asked to make a widget from in an act, if it is asked for one. -/
@[simp] def Act.tried? : Act → Option WidgetSpec
  | create _ spec _ => some spec
  | _ => none

/-- What the provider was asked to make widgets from, in order. -/
abbrev tried (acts : List Act) : List WidgetSpec := acts.filterMap Act.tried?

theorem tried_append (acts more : List Act) : tried (acts ++ more) = tried acts ++ tried more :=
  List.filterMap_append

theorem tried_drops (p : Playback σ) : tried p.drops = [] :=
  Playback.filterMap_drops (fun _ => rfl) p

/-- The identifiers that the handled inputs asked for, each while the noted generation was current.
-/
def asked (journal : List Handled) : List String :=
  journal.filterMap fun h => h.input.asked? h.current

/-- What was put in the queue was tried or still waits, in the same order, and everything was tried
with the layout that playback began with. -/
structure InOrder (layout : Layout) (acts : List Act) (p : Playback σ) : Prop where
  order : (tried acts).map WidgetSpec.identifier ++ p.queue.toList = enqueued acts
  same : p.layout = layout
  specs : ∀ spec ∈ tried acts, spec.toLayout = layout

namespace InOrder

variable {layout : Layout} {acts more : List Act} {p q : Playback σ}

/-- Nothing is put in the queue or tried. -/
theorem quiet (h : InOrder layout acts p) (htried : tried more = [])
    (henqueued : enqueued more = []) (hqueue : q.queue = p.queue) (hlayout : q.layout = p.layout) :
    InOrder layout (acts ++ more) q := by
  have htried' : tried (acts ++ more) = tried acts := by
    rw [tried_append, htried, List.append_nil]
  have henqueued' : enqueued (acts ++ more) = enqueued acts := by
    rw [enqueued_append, henqueued, List.append_nil]
  refine ⟨?_, hlayout.trans h.same, htried' ▸ h.specs⟩
  rw [htried', henqueued', hqueue, h.order]

/-- The next identifier leaves the queue and is tried. -/
theorem tries {identifier : String} {others : List String} (h : InOrder layout acts p)
    (hq : p.queue.toList = identifier :: others) (htried : tried more = [p.spec identifier])
    (henqueued : enqueued more = []) (hqueue : q.queue.toList = others)
    (hlayout : q.layout = p.layout) : InOrder layout (acts ++ more) q := by
  refine ⟨?_, hlayout.trans h.same, ?_⟩
  · rw [tried_append, enqueued_append, htried, henqueued, List.append_nil, ← h.order, hq, hqueue,
      List.map_append, List.append_assoc]
    rfl
  · intro spec hmem
    rw [tried_append, htried] at hmem
    rcases List.mem_append.1 hmem with hmem | hmem
    · exact h.specs spec hmem
    · rw [List.mem_singleton.1 hmem]
      exact h.same

end InOrder

theorem invariant_inOrder (P : Provider σ) (layout : Layout) :
    Player.Invariant P (InOrder layout) (InOrder layout) where
  moving_of_idle h _ := h
  skipRequested h := h.quiet rfl rfl rfl rfl
  errored _ h _ := h.quiet rfl rfl rfl rfl
  accepted _ h hq _ :=
    h.tries hq (by simp [tried_drops]) (by simp [(Inner.drops _).enqueued_eq]) rfl rfl
  refused _ _ h hq :=
    h.tries hq (by simp [tried_drops]) (by simp [(Inner.drops _).enqueued_eq]) rfl rfl
  idle _ h _ := h.quiet (by simp [tried_drops]) (by simp [(Inner.drops _).enqueued_eq]) rfl rfl
  played _ h _ := h.quiet rfl rfl rfl rfl
  ended _ h _ := h.quiet (by simp [tried_drops]) (by simp [(Inner.drops _).enqueued_eq]) rfl rfl
  enqueue identifier acts p h := by
    refine ⟨?_, h.same, ?_⟩
    · simpa [Playback.enqueue, Playback.announce] using congrArg (· ++ [identifier]) h.order
    · simpa [Playback.enqueue, Playback.announce] using h.specs
  linkChanged _ _ h := h.quiet rfl rfl rfl rfl
  meanwhile _ h := ⟨h.order, h.same, h.specs⟩

namespace Player

theorem inOrder_run (P : Provider σ) (connector : Connector) (layout : Layout) (memory : σ)
    (steps : List (Step σ)) :
    let (p, journal) := run P connector steps (start connector layout memory)
    InOrder layout (actsOf journal) p.playback :=
  (invariant_inOrder P layout).run connector steps (p := start connector layout memory)
    ⟨rfl, rfl, by simp⟩

/-- What was put in the queue along a run is what its inputs asked for. -/
theorem enqueued_run (P : Provider σ) (connector : Connector) (steps : List (Step σ))
    (p : Player σ) :
    enqueued (actsOf (run P connector steps p).2) = asked (run P connector steps p).2 := by
  have hall := forall_mem_run P connector
    (fun h => enqueued h.acts = (h.input.asked? h.current).toList)
    (fun p input => enqueued_handle p input) steps p
  generalize (run P connector steps p).2 = journal at hall ⊢
  induction journal with
  | nil => rfl
  | cons h journal ih =>
    have hfirst := hall h List.mem_cons_self
    have hrest := ih fun h' hmem => hall h' (List.mem_cons_of_mem h hmem)
    rw [asked, filterMap_cons_eq_append, ← hfirst, ← asked, ← hrest, actsOf, List.flatMap_cons,
      enqueued_append]
    rfl

end Player

/-- Nothing empty is asked for. -/
theorem empty_notMem_asked (journal : List Handled) : "" ∉ asked journal := by
  intro hmem
  obtain ⟨h, -, hasked⟩ := List.mem_filterMap.1 hmem
  cases hinput : h.input with
  | message generation text =>
    rw [hinput, Input.asked?] at hasked
    split at hasked
    · split at hasked
      · rename_i identifier hparse
        simp only [Option.some.injEq] at hasked
        exact Request.parse?_ne_play_empty text (hasked ▸ hparse)
      · simp at hasked
    · simp at hasked
  | _ => simp [hinput, Input.asked?] at hasked

/-- In every run, with any connections and whatever the provider answers: the identifiers of the
widgets that were asked for, in order, followed by those that wait, are the identifiers that came in
by texts on the connection that was current then. Every widget was asked for with the layout of the
player, and the empty identifier never gets in. -/
theorem tried_in_order (P : Provider σ) (connector : Connector) (layout : Layout) (memory : σ)
    (steps : List (Player.Step σ)) :
    let (p, journal) := Player.run P connector steps (Player.start connector layout memory)
    (tried (actsOf journal)).map WidgetSpec.identifier ++ p.playback.queue.toList = asked journal ∧
      (∀ spec ∈ tried (actsOf journal), spec.toLayout = layout) ∧
      "" ∉ p.playback.queue.toList ∧ "" ∉ asked journal := by
  have hrun := Player.inOrder_run P connector layout memory steps
  have horder := hrun.order
  -- only what was asked for was put in the queue, so the announcements can be left out
  rw [Player.enqueued_run] at horder
  refine ⟨horder, hrun.specs, ?_, empty_notMem_asked _⟩
  intro hmem
  refine empty_notMem_asked _ (horder ▸ List.mem_append_right _ hmem)

/-- Whatever happens to a player that is started with some settings, every widget is asked for at
the anchor and in the size that these say. -/
theorem tried_with_settings (P : Provider σ) (connector : Connector) (settings : WidgetSettings)
    (memory : σ) (steps : List (Player.Step σ)) :
    let start := Player.start connector (.ofSettings settings) memory
    let (_, journal) := Player.run P connector steps start
    ∀ spec ∈ tried (actsOf journal), spec.anchor = settings.anchor ∧
      spec.width = settings.width ∧ spec.height = settings.height := by
  intro start spec hmem
  have hlayout : spec.toLayout = .ofSettings settings :=
    (Player.inOrder_run P connector (.ofSettings settings) memory steps).specs spec hmem
  rw [hlayout]
  exact ⟨rfl, rfl, rfl⟩

end Jukebox
