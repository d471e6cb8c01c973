import Jukebox.Proofs.Playback.FirstPlayable

/-!
# Going on to the next item

Going on drops what is mounted, asks for one waiting item after the other until the provider
accepts one, and mounts that one; if it accepts none, nothing is left to play. The main result is
`advance_past_refusals`: it says of any state, and of any answers of the provider, what exactly is
done on the way and where that leads.

The loop is followed through the refusals (`settle_of_refuses`). Only the first turn of it can
find a widget mounted, so the teardown is moved in front of the loop first
(`settle_eq_teardown_settle`).
-/

namespace Jukebox

variable {σ : Type}

/-! ## Refusals -/

/-- The provider is asked for items one after the other, each in a session of its own, and refuses
them all, each for a reason. The first memory and session are those it begins with; what it sends
meanwhile and its memory after that come last. -/
inductive Refuses (P : Provider σ) (layout : Layout) :
    σ → Session → List (String × PlayerError) → List Callback → σ → Prop
  | nil {memory : σ} {session : Session} : Refuses P layout memory session [] [] memory
  | cons {memory after : σ} {session : Session} {identifier : String} {e : PlayerError}
      {others : List (String × PlayerError)} {said : List Callback} :
      (P.create memory session ⟨layout, identifier⟩).result = .error e →
      Refuses P layout (P.create memory session ⟨layout, identifier⟩).memory (session + 1) others
        said after →
      Refuses P layout memory session ((identifier, e) :: others)
        ((P.create memory session ⟨layout, identifier⟩).sent ++ said) after

/-- What is done about items that are refused, the first of them in the given session. -/
def refusals (layout : Layout) (session : Session) (refused : List (String × PlayerError)) :
    List Act :=
  (refused.zipIdx session).flatMap fun ((identifier, e), session) =>
    [.create session ⟨layout, identifier⟩ false, .announce (.errored none identifier e.message)]

theorem refusals_cons (layout : Layout) (session : Session) (identifier : String) (e : PlayerError)
    (others : List (String × PlayerError)) :
    refusals layout session ((identifier, e) :: others) =
      .create session ⟨layout, identifier⟩ false ::
        .announce (.errored none identifier e.message) :: refusals layout (session + 1) others :=
  rfl

/-- However the provider answers, it refuses some of the items in front, and then there is none or
it accepts the next. -/
theorem exists_refuses (P : Provider σ) (layout : Layout) (memory : σ) (session : Session)
    (items : List String) : ∃ refused said after,
    Refuses P layout memory session refused said after ∧
      (items = refused.map Prod.fst ∨ ∃ identifier others name,
        items = refused.map Prod.fst ++ identifier :: others ∧
          (P.create after (session + refused.length) ⟨layout, identifier⟩).result = .ok name) := by
  induction items generalizing memory session with
  | nil => exact ⟨[], [], memory, .nil, .inl rfl⟩
  | cons identifier others ih =>
    cases hresult : (P.create memory session ⟨layout, identifier⟩).result with
    | ok name => exact ⟨[], [], memory, .nil, .inr ⟨identifier, others, name, rfl, hresult⟩⟩
    | error e =>
      obtain ⟨refused, said, after, hrefuses, hends⟩ :=
        ih (P.create memory session ⟨layout, identifier⟩).memory (session + 1)
      refine ⟨(identifier, e) :: refused, _, after, .cons hresult hrefuses, ?_⟩
      refine hends.imp (congrArg (identifier :: ·)) ?_
      rintro ⟨next, rest, name, hitems, haccepted⟩
      refine ⟨next, rest, name, congrArg (identifier :: ·) hitems, ?_⟩
      rwa [List.length_cons, Nat.add_comm refused.length, ← Nat.add_assoc]

/-! ## The loop -/

namespace Outcome

theorem andThen_assoc (o : Outcome σ) (next last : Playback σ → Outcome σ) :
    (o.andThen next).andThen last = o.andThen fun p => (next p).andThen last := by
  simp [andThen, List.append_assoc, Bool.and_assoc]

/-- What comes after an operation matters only where the operation ends. -/
theorem andThen_congr {o : Outcome σ} {next next' : Playback σ → Outcome σ}
    (h : next o.playback = next' o.playback) : o.andThen next = o.andThen next' := by
  rw [andThen, andThen, h]

end Outcome

namespace Playback

variable {P : Provider σ} {p : Playback σ}

theorem unchanged_andThen (p : Playback σ) (next : Playback σ → Outcome σ) :
    p.unchanged.andThen next = next p := by
  simp [unchanged, Outcome.andThen]

theorem teardown_of_unmounted (h : p.mounted = none) : p.teardown P = p.unchanged := by
  rw [teardown, h]

theorem mounted_teardown (P : Provider σ) (p : Playback σ) :
    (p.teardown P).playback.mounted = none := by
  obtain ⟨memory, sent, hdown⟩ := teardown_eq P p
  rw [hdown]

/-- What is mounted is dropped whatever waits. -/
theorem teardown_with_queue (P : Provider σ) (p : Playback σ) (queue : Queue) :
    teardown P { p with queue } = (p.teardown P).andThen fun p => unchanged { p with queue } := by
  cases hmounted : p.mounted with
  | none => simp [teardown, hmounted, unchanged, Outcome.andThen]
  | some widget => simp [teardown, hmounted, unchanged, Outcome.andThen]

theorem attempt_of_unmounted (h : p.mounted = none) (identifier : String) (others : List String) :
    p.attempt P identifier others = start P identifier { p with queue := ⟨others⟩ } := by
  have hdown : teardown P { p with queue := ⟨others⟩ } = unchanged { p with queue := ⟨others⟩ } :=
    teardown_of_unmounted h
  rw [attempt, hdown, unchanged_andThen]

/-- What is mounted is dropped before the first item is tried, and nothing is dropped after that. -/
theorem settle_eq_teardown_settle (P : Provider σ) (items : List String) (p : Playback σ) :
    p.settle P items = (p.teardown P).andThen (settle P items) := by
  have hunmounted := mounted_teardown P p
  -- the teardown is part of the first turn, or of going idle where there is none
  cases items with
  | nil =>
    rw [settle, goIdle]
    refine Outcome.andThen_congr ?_
    rw [settle, goIdle, teardown_of_unmounted hunmounted, unchanged_andThen]
  | cons identifier others =>
    rw [settle, attempt, teardown_with_queue, Outcome.andThen_assoc, Outcome.andThen_assoc]
    refine Outcome.andThen_congr ?_
    rw [settle, attempt_of_unmounted hunmounted, unchanged_andThen]

/-- With nothing mounted an identifier that is refused leaves the queue, and nothing else is done
but that the refusal is announced. -/
theorem settle_of_refused {identifier : String} {e : PlayerError} (others : List String)
    (hmounted : p.mounted = none)
    (h : (P.create p.memory p.nextSession (p.spec identifier)).result = .error e) :
    p.settle P (identifier :: others) =
      Outcome.andThen
        { playback := { p with
            queue := ⟨others⟩, nextSession := p.nextSession + 1
            memory := (P.create p.memory p.nextSession (p.spec identifier)).memory }
          acts := [.create p.nextSession (p.spec identifier) false,
            .announce (.errored none identifier e.message)]
          sent := (P.create p.memory p.nextSession (p.spec identifier)).sent }
        (settle P others) := by
  have hstart : start P identifier { p with queue := ⟨others⟩ } = _ := start_of_error h
  rw [settle, attempt_of_unmounted hmounted, hstart]
  refine Outcome.andThen_congr ?_
  simp [hmounted]

/-- With nothing mounted an identifier that is accepted leaves the queue, and its widget is mounted.
-/
theorem settle_of_accepted {identifier name : String} (others : List String)
    (hmounted : p.mounted = none)
    (h : (P.create p.memory p.nextSession (p.spec identifier)).result = .ok name) :
    p.settle P (identifier :: others) =
      { playback :=
          p.accepted others name (P.create p.memory p.nextSession (p.spec identifier)).memory
        acts := [.create p.nextSession (p.spec identifier) true,
          .announce (.started p.nextSession name)]
        sent := (P.create p.memory p.nextSession (p.spec identifier)).sent } := by
  have hstart : start P identifier { p with queue := ⟨others⟩ } = _ := start_of_ok h
  rw [settle, attempt_of_unmounted hmounted, hstart]
  simp [Outcome.andThen, checked, hmounted, accepted, spec]

/-- With nothing mounted the loop passes over the items that are refused. -/
theorem settle_of_refuses {refused : List (String × PlayerError)} {said : List Callback}
    {after : σ} {items : List String} (hmounted : p.mounted = none)
    (hqueue : p.queue = ⟨refused.map Prod.fst ++ items⟩)
    (h : Refuses P p.layout p.memory p.nextSession refused said after) :
    p.settle P (refused.map Prod.fst ++ items) =
      Outcome.andThen
        { playback := { p with
            queue := ⟨items⟩, nextSession := p.nextSession + refused.length, memory := after }
          acts := refusals p.layout p.nextSession refused
          sent := said }
        (settle P items) := by
  -- each turn of the loop takes the first refusal off, and goes on with the next session
  induction refused generalizing p said with
  | nil =>
    cases h
    obtain ⟨layout, queue, playing, mounted, nextSession, memory⟩ := p
    simp only at hqueue
    subst hqueue
    exact (unchanged_andThen _ _).symm
  | cons head others ih =>
    cases h with
    | cons hresult hothers =>
      rename_i identifier e later
      rw [List.map_cons, List.cons_append, settle_of_refused _ hmounted hresult, refusals_cons]
      have hrest := ih (p := { p with
          queue := ⟨others.map Prod.fst ++ items⟩, nextSession := p.nextSession + 1
          memory := (P.create p.memory p.nextSession (p.spec identifier)).memory })
        hmounted rfl hothers
      rw [Outcome.andThen, hrest]
      simp [Outcome.andThen, spec, Nat.add_assoc, Nat.add_comm 1]

/-! ## Going on -/

section Advance

variable {refused : List (String × PlayerError)} {said : List Callback} {after : σ}

/-- After the teardown the items that are refused are passed over. -/
theorem advance_of_refuses {items : List String}
    (hqueue : p.queue.toList = refused.map Prod.fst ++ items)
    (h : Refuses P p.layout (p.teardown P).playback.memory p.nextSession refused said after) :
    p.advance P =
      Outcome.andThen
        { playback := { p with
            queue := ⟨items⟩, mounted := none
            nextSession := p.nextSession + refused.length, memory := after }
          acts := p.drops ++ refusals p.layout p.nextSession refused
          sent := (p.teardown P).sent ++ said }
        (settle P items) := by
  obtain ⟨memory, sent, hdown⟩ := teardown_eq P p
  rw [hdown] at h
  have hrest := settle_of_refuses (p := { p with mounted := none, memory }) rfl
    (congrArg Queue.mk hqueue) h
  rw [advance, hqueue, settle_eq_teardown_settle, hdown, Outcome.andThen, hrest]
  simp [Outcome.andThen]

theorem advance_of_accepted {identifier name : String} {others : List String}
    (hqueue : p.queue.toList = refused.map Prod.fst ++ identifier :: others)
    (h : Refuses P p.layout (p.teardown P).playback.memory p.nextSession refused said after)
    (haccepted : (P.create after (p.nextSession + refused.length) (p.spec identifier)).result =
      .ok name) :
    p.advance P =
      { playback := { p with
          queue := ⟨others⟩, mounted := some ⟨p.nextSession + refused.length, name⟩, playing := true
          nextSession := p.nextSession + refused.length + 1
          memory := (P.create after (p.nextSession + refused.length) (p.spec identifier)).memory }
        acts := p.drops ++ (refusals p.layout p.nextSession refused ++
          [.create (p.nextSession + refused.length) (p.spec identifier) true,
            .announce (.started (p.nextSession + refused.length) name)])
        sent := (p.teardown P).sent ++ (said ++
          (P.create after (p.nextSession + refused.length) (p.spec identifier)).sent) } := by
  have hmounts := settle_of_accepted (p := { p with
    queue := ⟨identifier :: others⟩, mounted := none
    nextSession := p.nextSession + refused.length, memory := after }) others rfl haccepted
  rw [advance_of_refuses hqueue h, Outcome.andThen, hmounts]
  simp [accepted, spec]

theorem advance_of_none_accepted (hqueue : p.queue.toList = refused.map Prod.fst)
    (h : Refuses P p.layout (p.teardown P).playback.memory p.nextSession refused said after) :
    p.advance P =
      { playback := { p with
          queue := .empty, mounted := none, playing := false
          nextSession := p.nextSession + refused.length, memory := after }
        acts := p.drops ++ (refusals p.layout p.nextSession refused ++ [.announce .idle])
        sent := (p.teardown P).sent ++ said } := by
  rw [advance_of_refuses (by rw [hqueue, List.append_nil]) h]
  simp [settle, goIdle, teardown, unchanged, announce, checked, Outcome.andThen, Queue.empty]

end Advance

/-! ## What goes on -/

theorem skip_eq (P : Provider σ) (p : Playback σ) :
    p.skip P = { p.advance P with acts := .announce .skipRequested :: (p.advance P).acts } := by
  simp [skip, announce, Outcome.andThen]

theorem failMounted_eq (P : Provider σ) (p : Playback σ) (widget : Mounted) (reason : String) :
    p.failMounted P widget reason =
      { p.advance P with
        acts := .announce (.errored (some widget.session) widget.identifier reason) ::
          (p.advance P).acts } := by
  simp [failMounted, announce, Outcome.andThen]

theorem receive_failed {widget : Mounted} (hmounted : p.mounted = some widget) (reason : String) :
    p.receive P ⟨widget.session, .failed reason⟩ = p.failMounted P widget reason := by
  simp [receive, hmounted]

end Playback

/-- Sessions are counted up, so those that were used lie behind. -/
theorem Bygone.lt_of_mem_used {acts : List Act} {mounted : Option Mounted} {next session : Session}
    (h : Bygone acts mounted next) (hused : session ∈ used acts) : session < next := by
  by_cases hmounted : mounted.map Mounted.session = some session
  · obtain ⟨widget, hwidget, rfl⟩ := Option.map_eq_some_iff.1 hmounted
    exact (h.present widget hwidget).1
  · exact h.past session (h.others session hused hmounted)

/-! ## The main result -/

/-- In any state and whatever the provider answers: asked for the waiting items in turn, it refuses
some and then accepts one or has none left. Going on drops what is mounted, if anything is; asks for
the items that are refused and for the one that is accepted, and for no others; announces each
refusal with the identifier and the reason, and then that the accepted one has started. That one is
mounted in a session that was not used before, and what waited behind it goes on waiting. If none is
accepted, nothing waits, nothing is mounted or plays, and that is announced last. A skip does the
same after it has announced itself; so does a failure of the mounted widget, whether it reports the
failure or cannot play, after it was announced with its session and its identifier. -/
theorem advance_past_refusals (P : Provider σ) (p : Playback σ) :
    let cleared := (p.teardown P).playback.memory
    (∃ refused said after, Refuses P p.layout cleared p.nextSession refused said after ∧
      (p.queue.toList = refused.map Prod.fst ∨ ∃ identifier others name,
        p.queue.toList = refused.map Prod.fst ++ identifier :: others ∧
          (P.create after (p.nextSession + refused.length) (p.spec identifier)).result =
            .ok name)) ∧
      (∀ refused said after identifier others name,
        p.queue.toList = refused.map Prod.fst ++ identifier :: others →
        Refuses P p.layout cleared p.nextSession refused said after →
        let own := p.nextSession + refused.length
        let answer := P.create after own (p.spec identifier)
        answer.result = .ok name →
          p.advance P =
            { playback := { p with
                queue := ⟨others⟩, mounted := some ⟨own, name⟩, playing := true
                nextSession := own + 1, memory := answer.memory }
              acts := p.drops ++ (refusals p.layout p.nextSession refused ++
                [.create own (p.spec identifier) true, .announce (.started own name)])
              sent := (p.teardown P).sent ++ (said ++ answer.sent) } ∧
          ∀ layout memory ops, let o := Op.run P ops { layout, memory }
            p = o.playback → own ∉ used o.acts) ∧
      (∀ refused said after, p.queue.toList = refused.map Prod.fst →
        Refuses P p.layout cleared p.nextSession refused said after →
          p.advance P =
            { playback := { p with
                queue := .empty, mounted := none, playing := false
                nextSession := p.nextSession + refused.length, memory := after }
              acts := p.drops ++ (refusals p.layout p.nextSession refused ++ [.announce .idle])
              sent := (p.teardown P).sent ++ said }) ∧
      p.skip P = { p.advance P with acts := .announce .skipRequested :: (p.advance P).acts } ∧
      ∀ widget, p.mounted = some widget →
        (∀ reason, p.receive P ⟨widget.session, .failed reason⟩ =
          { p.advance P with
            acts := .announce (.errored (some widget.session) widget.identifier reason) ::
              (p.advance P).acts }) ∧
        ∀ e, let answer := P.play p.memory widget.session
          answer.result = .error e →
            let o := Playback.advance P { p with memory := answer.memory }
            p.receive P ⟨widget.session, .ready⟩ =
              { o with
                acts := .play widget ::
                  .announce (.errored (some widget.session) widget.identifier e.message) :: o.acts
                sent := answer.sent ++ o.sent } := by
  intro cleared
  refine ⟨exists_refuses P p.layout cleared p.nextSession p.queue.toList, ?_, ?_,
    p.skip_eq P, ?_⟩
  · intro refused said after identifier others name hqueue hrefuses own answer haccepted
    refine ⟨Playback.advance_of_accepted hqueue hrefuses haccepted, ?_⟩
    rintro layout memory ops o rfl hused
    have hpast := (Op.trail_run P layout memory ops).bygone.lt_of_mem_used hused
    exact Nat.not_lt.2 (Nat.le_add_right _ _) hpast
  · exact fun refused said after hqueue hrefuses =>
      Playback.advance_of_none_accepted hqueue hrefuses
  · intro widget hmounted
    refine ⟨fun reason => ?_, ?_⟩
    · rw [Playback.receive_failed hmounted, Playback.failMounted_eq]
    · intro e answer hresult o
      rw [Playback.receive_ready hmounted, Playback.playMounted_of_error hresult, Outcome.andThen,
        Playback.failMounted_eq]
      rfl

/-- Two items are refused while a widget is mounted, and the third is mounted in its place. -/
theorem third_mounted_past_two :
    let P := Rehearsal.provider goodAndBad
    let p : Playback Rehearsal.Memory :=
      { queue := ⟨["refused", "refused", "good", "other"]⟩, playing := true
        mounted := some ⟨4, "now"⟩, nextSession := 5, memory := [] }
    let refused : List (String × PlayerError) :=
      [("refused", .http "rejected refused"), ("refused", .http "rejected refused")]
    (∃ said after, p.queue.toList = refused.map Prod.fst ++ ["good", "other"] ∧
      Refuses P p.layout (p.teardown P).playback.memory 5 refused said after ∧
      (P.create after 7 (p.spec "good")).result = .ok "good") ∧
      (p.advance P).playback.mounted = some ⟨7, "good"⟩ ∧
      (p.advance P).playback.queue.toList = ["other"] ∧
      (p.advance P).acts = .drop ⟨4, "now"⟩ :: (refusals p.layout 5 refused ++
        [.create 7 (p.spec "good") true, .announce (.started 7 "good")]) := by
  intro P p refused
  have hrefuses : Refuses P p.layout (p.teardown P).playback.memory 5 refused _ _ :=
    .cons (by decide) (.cons (by decide) .nil)
  have hadvance := ((advance_past_refusals P p).2.1 refused _ _ "good" ["other"] "good" rfl
    hrefuses (by decide)).1
  refine ⟨⟨_, _, rfl, hrefuses, by decide⟩, ?_, ?_, ?_⟩
  · rw [hadvance]
    rfl
  · rw [hadvance]
  · rw [hadvance]
    rfl

end Jukebox
