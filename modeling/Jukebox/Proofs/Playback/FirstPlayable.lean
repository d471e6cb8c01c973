import Jukebox.Playback.Drain
import Jukebox.Proofs.Playback.Bare
import Jukebox.Proofs.Playback.Late
import Jukebox.Proofs.Player.Replay
import Jukebox.Widget.Rehearsal

/-!
# The first item that can be played

A tick while nothing plays starts the search for an item that can be played. Two loops look for it:
identifiers that are refused are passed over at once, and a widget that fails is passed over when
its report is handled and it is told to play. What the widgets of the past still have to say waits
in between. However the two are mixed, once everything that waits is handled the first item that can
be played is mounted, and what stood in front of it has been announced in order, one session for
each (`tick_settles`).

The search is followed through the queue (`exists_quiets_settle`). What waits beside it is a part of
the state: all of it belongs to sessions that were used, so the widget mounted next does not hear
it.
-/

namespace Jukebox

variable {σ : Type}

/-! ## Fates -/

/-- What becomes of an identifier. A widget that is made reports a name. -/
inductive Fate
  /-- No widget is made. -/
  | refused
  /-- The widget reports that it is ready, and fails when it is told to play. -/
  | fails (name : String)
  /-- The widget plays whenever it is told to. -/
  | plays (name : String)

/-- The provider gives each identifier its fate, where `madeFor` tells from its memory what the
widget of a session was made for. In the name of sessions to come nothing is said as long as the
search goes on; the widget that can be played says anything but that it ends or fails. -/
structure Provider.Fated (P : Provider σ) (fate : String → Fate)
    (madeFor : σ → Session → String → Prop) : Prop where
  made : ∀ memory session spec,
    madeFor (P.create memory session spec).memory session spec.identifier
  refused : ∀ memory session spec, fate spec.identifier = .refused →
    (∃ e, (P.create memory session spec).result = .error e) ∧
      ∀ callback ∈ (P.create memory session spec).sent, callback.session ≤ session
  ready : ∀ memory session spec name, fate spec.identifier = .fails name →
    (P.create memory session spec).result = .ok name ∧
      (P.create memory session spec).sent = [⟨session, .ready⟩]
  fails : ∀ memory session identifier name, madeFor memory session identifier →
    fate identifier = .fails name →
      (∃ e, (P.play memory session).result = .error e) ∧
        ∀ callback ∈ (P.play memory session).sent, callback.session ≤ session
  playable : ∀ memory session spec name, fate spec.identifier = .plays name →
    (P.create memory session spec).result = .ok name ∧
      ∀ callback ∈ (P.create memory session spec).sent,
        callback.session = session → callback.report.Ordinary
  plays : ∀ memory session identifier name, madeFor memory session identifier →
    fate identifier = .plays name →
      (P.play memory session).result = .ok () ∧
        madeFor (P.play memory session).memory session identifier ∧
        ∀ callback ∈ (P.play memory session).sent, callback.session = session →
          ∃ state, state ≠ .ended ∧ callback.report = .changed state
  dropped : ∀ memory session, ∀ callback ∈ (P.drop memory session).2, callback.session ≤ session

/-- The widget made for an identifier in a session says that it is ready. -/
def Provider.SaysReady (P : Provider σ) (session : Session) (identifier : String) : Prop :=
  ∀ memory layout, ⟨session, .ready⟩ ∈ (P.create memory session ⟨layout, identifier⟩).sent

/-! ## Handling what waits -/

namespace Playback

variable {P : Provider σ} {p : Playback σ} {widget : Mounted} {session : Session}

theorem receive_ready (hmounted : p.mounted = some widget) :
    p.receive P ⟨widget.session, .ready⟩ = p.playMounted P widget := by
  simp [receive, hmounted]

theorem receive_changed (hmounted : p.mounted = some widget) {state : WidgetState}
    (hstate : state ≠ .ended) : p.receive P ⟨widget.session, .changed state⟩ = p.unchanged := by
  cases state <;> simp_all [receive]

theorem playMounted_of_ok (h : (P.play p.memory widget.session).result = .ok ()) :
    p.playMounted P widget =
      { playback := { p with memory := (P.play p.memory widget.session).memory }
        acts := [.play widget], sent := (P.play p.memory widget.session).sent } := by
  simp only [playMounted, h]

theorem playMounted_of_error {e : PlayerError}
    (h : (P.play p.memory widget.session).result = .error e) :
    p.playMounted P widget =
      Outcome.andThen
        { playback := { p with memory := (P.play p.memory widget.session).memory }
          acts := [.play widget], sent := (P.play p.memory widget.session).sent }
        (failMounted P widget e.message) := by
  simp only [playMounted, h]

end Playback

/-- Handling what waits, and all that follows from it, comes to an end. -/
def Quiets (P : Provider σ) (waiting : List Callback) (p : Playback σ) (acts : List Act)
    (q : Playback σ) : Prop :=
  ∃ turns, ∀ limit, p.drain P (limit + turns) waiting = ⟨q, acts, [], turns⟩

namespace Quiets

variable {P : Provider σ} {waiting more : List Callback} {callback : Callback} {p q : Playback σ}
  {acts : List Act}

theorem nil : Quiets P [] p [] p :=
  ⟨0, fun limit => by cases limit <;> rfl⟩

theorem cons {o : Outcome σ} (ho : p.receive P callback = o)
    (h : Quiets P (waiting ++ o.sent) o.playback acts q) :
    Quiets P (callback :: waiting) p (o.acts ++ acts) q := by
  obtain ⟨turns, hturns⟩ := h
  refine ⟨turns + 1, fun limit => ?_⟩
  rw [← Nat.add_assoc, Playback.drain, ho]
  simp only [hturns limit]

/-- A report that changes nothing is passed over. -/
theorem cons_of_unchanged (hsame : p.receive P callback = p.unchanged)
    (h : Quiets P waiting p acts q) : Quiets P (callback :: waiting) p acts q := by
  exact cons hsame (by simpa [Playback.unchanged] using h)

/-- Reports that are not of the mounted widget are passed over. -/
theorem append_of_ne
    (hne : ∀ callback ∈ more, p.mounted.map Mounted.session ≠ some callback.session)
    (h : Quiets P waiting p acts q) : Quiets P (more ++ waiting) p acts q := by
  induction more with
  | nil => exact h
  | cons callback more ih =>
    obtain ⟨hfirst, hothers⟩ := List.forall_mem_cons.1 hne
    exact cons_of_unchanged (Playback.receive_of_ne P hfirst) (ih hothers)

/-- What is said in the name of earlier sessions is passed over. -/
theorem append_of_lt {widget : Mounted} (hmounted : p.mounted = some widget)
    (hlt : ∀ callback ∈ more, callback.session < widget.session) (h : Quiets P waiting p acts q) :
    Quiets P (more ++ waiting) p acts q := by
  refine append_of_ne (fun callback hmem heq => ?_) h
  rw [hmounted] at heq
  exact Nat.ne_of_gt (hlt callback hmem) (Option.some.inj heq)

/-- Nothing is mounted, so nothing that waits is heard. -/
theorem of_unmounted (hmounted : p.mounted = none) : Quiets P waiting p [] p := by
  have happend : Quiets P (waiting ++ []) p [] p := append_of_ne (by simp [hmounted]) nil
  rwa [List.append_nil] at happend

/-- What a widget that plays says of its state is passed over. -/
theorem of_silent {widget : Mounted} (hmounted : p.mounted = some widget)
    (hsilent : ∀ callback ∈ waiting, callback.session = widget.session →
      ∃ state, state ≠ .ended ∧ callback.report = .changed state) : Quiets P waiting p [] p := by
  induction waiting with
  | nil => exact nil
  | cons callback waiting ih =>
    obtain ⟨hfirst, hothers⟩ := List.forall_mem_cons.1 hsilent
    refine cons_of_unchanged ?_ (ih hothers)
    by_cases hown : callback.session = widget.session
    · obtain ⟨state, hstate, hreport⟩ := hfirst hown
      have hcallback : callback = ⟨widget.session, .changed state⟩ := by
        rw [← hown, ← hreport]
      rw [hcallback, Playback.receive_changed hmounted hstate]
    · exact Playback.receive_of_ne P (by simpa [hmounted] using Ne.symm hown)

/-- A widget that plays is told to for each time it says that it is ready, and nothing else comes of
what it says. -/
theorem of_ordinary (waiting more : List Callback) {fate : String → Fate}
    {madeFor : σ → Session → String → Prop} (hP : P.Fated fate madeFor) {widget : Mounted}
    {identifier name : String} (hfate : fate identifier = .plays name)
    (hmounted : p.mounted = some widget) (hmade : madeFor p.memory widget.session identifier)
    (hordinary : ∀ callback ∈ waiting, callback.session = widget.session → callback.report.Ordinary)
    (hsilent : ∀ callback ∈ more, callback.session = widget.session →
      ∃ state, state ≠ .ended ∧ callback.report = .changed state) :
    ∃ acts memory, Quiets P (waiting ++ more) p acts { p with memory } ∧ notices acts = [] ∧
      (⟨widget.session, .ready⟩ ∈ waiting → .play widget ∈ acts) := by
  -- each report that it is ready makes room for new ones at the end, none of them of that kind
  induction waiting generalizing p more with
  | nil => exact ⟨[], p.memory, of_silent hmounted hsilent, rfl, by simp⟩
  | cons callback waiting ih =>
    obtain ⟨hfirst, hothers⟩ := List.forall_mem_cons.1 hordinary
    obtain ⟨session, report⟩ := callback
    by_cases hown : session = widget.session
    · subst hown
      cases report with
      | ready =>
        obtain ⟨hresult, hmade', hsaid⟩ := hP.plays _ _ _ _ hmade hfate
        have hreceive : p.receive P ⟨widget.session, .ready⟩ = _ :=
          (Playback.receive_ready hmounted).trans (Playback.playMounted_of_ok hresult)
        obtain ⟨acts, memory, hquiets, hheard, -⟩ :=
          ih (p := { p with memory := (P.play p.memory widget.session).memory })
            (more ++ (P.play p.memory widget.session).sent) hmounted hmade' hothers
            (List.forall_mem_append.2 ⟨hsilent, hsaid⟩)
        refine ⟨.play widget :: acts, memory, ?_, hheard, fun _ => List.mem_cons_self⟩
        rw [← List.append_assoc] at hquiets
        exact cons hreceive hquiets
      | changed state =>
        obtain ⟨acts, memory, hquiets, hheard, hplays⟩ := ih more hmounted hmade hothers hsilent
        refine ⟨acts, memory, ?_, hheard, by simpa using hplays⟩
        exact cons_of_unchanged (Playback.receive_changed hmounted (hfirst rfl)) hquiets
      | failed reason => exact absurd (hfirst rfl) id
    · obtain ⟨acts, memory, hquiets, hheard, hplays⟩ := ih more hmounted hmade hothers hsilent
      refine ⟨acts, memory, cons_of_unchanged ?_ hquiets, hheard, ?_⟩
      · exact Playback.receive_of_ne P (by simpa [hmounted] using Ne.symm hown)
      · simpa [Ne.symm hown] using hplays

end Quiets

/-! ## What is announced -/

/-- What is announced of items that are passed over, each in a session of its own beginning with the
given one: of one that is refused that it failed, without a session; of one that fails that it has
started and that it failed, with its session. -/
inductive PassedOver (fate : String → Fate) :
    Session → List String → List (Notice Session Nat) → Prop
  | nil {session : Session} : PassedOver fate session [] []
  | refused {session : Session} {identifier reason : String} {others : List String}
      {heard : List (Notice Session Nat)} : fate identifier = .refused →
      PassedOver fate (session + 1) others heard →
      PassedOver fate session (identifier :: others) (.errored none identifier reason :: heard)
  | failed {session : Session} {identifier name reason : String} {others : List String}
      {heard : List (Notice Session Nat)} : fate identifier = .fails name →
      PassedOver fate (session + 1) others heard →
      PassedOver fate session (identifier :: others)
        (.started session name :: .errored (some session) name reason :: heard)

/-- Where a search through items ends, the first of them in the given session, and what was
announced on the way: with the first that can be played, or with none. A widget that says that it is
ready has been told to play. -/
inductive SearchEnds (P : Provider σ) (fate : String → Fate) (session : Session)
    (items : List String) (acts : List Act) (q : Playback σ) : Prop
  | playing (before : List String) {others : List String} {identifier name : String}
      {own : Session} {heard : List (Notice Session Nat)} : items = before ++ identifier :: others →
      own = session + before.length → PassedOver fate session before heard →
      fate identifier = .plays name → notices acts = heard ++ [.started own name] →
      q.queue.toList = others → q.mounted = some ⟨own, name⟩ → q.playing = true →
      (P.SaysReady own identifier → .play ⟨own, name⟩ ∈ acts) →
      SearchEnds P fate session items acts q
  | idle {heard : List (Notice Session Nat)} : PassedOver fate session items heard →
      notices acts = heard ++ [.idle] → q.queue.toList = [] → q.mounted = none →
      q.playing = false → SearchEnds P fate session items acts q

/-- An item in front that is passed over belongs to the search. -/
theorem SearchEnds.cons (acts' : List Act) {P : Provider σ} {fate : String → Fate}
    {session : Session} {identifier : String} {items : List String} {acts : List Act}
    {q : Playback σ}
    (hpass : ∀ {others : List String} {heard : List (Notice Session Nat)},
      PassedOver fate (session + 1) others heard →
        PassedOver fate session (identifier :: others) (notices acts' ++ heard))
    (h : SearchEnds P fate (session + 1) items acts q) :
    SearchEnds P fate session (identifier :: items) (acts' ++ acts) q := by
  cases h with
  | @playing before others _ _ own heard hitems hown hpassed hfate hheard hqueue hmounted hplaying
      hplayed =>
    refine .playing (identifier :: before) (by rw [hitems]; rfl) ?_ (hpass hpassed) hfate
      ?_ hqueue hmounted hplaying fun hready => List.mem_append_right _ (hplayed hready)
    · rw [hown, List.length_cons, Nat.add_assoc, Nat.add_comm 1]
    · rw [notices_append, hheard, List.append_assoc]
  | idle hpassed hheard hqueue hmounted hplaying =>
    refine .idle (hpass hpassed) ?_ hqueue hmounted hplaying
    rw [notices_append, hheard, List.append_assoc]

/-! ## The search -/

section Search

variable {P : Provider σ} {fate : String → Fate} {madeFor : σ → Session → String → Prop}
  {p : Playback σ} {identifier : String} {others : List String}

/-- What is said when a widget is dropped is said in the name of sessions that were used. -/
theorem lt_of_mem_teardown (hP : P.Fated fate madeFor) (hp : p.Dated) :
    ∀ callback ∈ (p.teardown P).sent, callback.session < p.nextSession := by
  intro callback hmem
  cases hmounted : p.mounted with
  | none => simp [Playback.teardown, hmounted, Playback.unchanged] at hmem
  | some widget =>
    simp only [Playback.teardown, hmounted] at hmem
    exact Nat.lt_of_le_of_lt (hP.dropped _ _ callback hmem) (hp widget hmounted)

/-- Playback once the widget of the identifier in front of others is mounted. -/
def Playback.accepted (p : Playback σ) (others : List String) (name : String) (memory : σ) :
    Playback σ :=
  { p with
    queue := ⟨others⟩, mounted := some ⟨p.nextSession, name⟩, playing := true
    nextSession := p.nextSession + 1, memory }

theorem Playback.dated_accepted (p : Playback σ) (others : List String) (name : String)
    (memory : σ) : (p.accepted others name memory).Dated := by
  rintro widget ⟨⟩
  exact Nat.lt_succ_self _

/-- An identifier that is tried: what is mounted is dropped, and a widget is asked for. -/
theorem exists_attempt_eq (identifier : String) (others : List String)
    (hP : P.Fated fate madeFor) (hp : p.Dated) : ∃ memory said,
    (∀ callback ∈ said, callback.session < p.nextSession) ∧
      p.attempt P identifier others = Outcome.andThen
        { playback := { p with queue := ⟨others⟩, mounted := none, memory }
          acts := p.drops, sent := said }
        (Playback.start P identifier) := by
  obtain ⟨memory, said, hdown⟩ := Playback.teardown_eq P { p with queue := ⟨others⟩ }
  have hsaid := lt_of_mem_teardown (p := { p with queue := ⟨others⟩ }) hP hp
  rw [hdown] at hsaid
  exact ⟨memory, said, hsaid, by rw [Playback.attempt, hdown]; rfl⟩

/-- An identifier that is refused is passed over at once. -/
theorem exists_settle_of_refused (others : List String) (hP : P.Fated fate madeFor) (hp : p.Dated)
    (hfate : fate identifier = .refused) : ∃ memory said reason,
      (∀ callback ∈ said, callback.session < p.nextSession + 1) ∧
      p.settle P (identifier :: others) = Outcome.andThen
        { playback := { p with
            queue := ⟨others⟩, mounted := none, nextSession := p.nextSession + 1, memory }
          acts := p.drops ++ [.create p.nextSession (p.spec identifier) false,
            .announce (.errored none identifier reason)]
          sent := said }
        (Playback.settle P others) := by
  obtain ⟨memory, dropped, hdropped, hattempt⟩ := exists_attempt_eq identifier others hP hp
  obtain ⟨⟨e, hresult⟩, hsaid⟩ := hP.refused memory p.nextSession (p.spec identifier) hfate
  refine ⟨(P.create memory p.nextSession (p.spec identifier)).memory,
    dropped ++ (P.create memory p.nextSession (p.spec identifier)).sent, e.message, ?_, ?_⟩
  · exact List.forall_mem_append.2 ⟨fun callback hmem => Nat.lt_succ_of_lt (hdropped callback hmem),
      fun callback hmem => Nat.lt_succ_of_le (hsaid callback hmem)⟩
  · rw [Outcome.andThen, Playback.start_of_error hresult] at hattempt
    rw [Playback.settle, hattempt]
    simp [Outcome.andThen, Playback.spec]

/-- With an identifier that is accepted the search rests. -/
theorem exists_settle_of_accepted (others : List String) (hP : P.Fated fate madeFor) (hp : p.Dated)
    {name : String} (haccepted : ∀ memory,
      (P.create memory p.nextSession (p.spec identifier)).result = .ok name) :
    ∃ before said, (∀ callback ∈ said, callback.session < p.nextSession) ∧
      p.settle P (identifier :: others) =
        { playback :=
            p.accepted others name (P.create before p.nextSession (p.spec identifier)).memory
          acts := p.drops ++ [.create p.nextSession (p.spec identifier) true,
            .announce (.started p.nextSession name)]
          sent := said ++ (P.create before p.nextSession (p.spec identifier)).sent } := by
  obtain ⟨memory, dropped, hdropped, hattempt⟩ := exists_attempt_eq identifier others hP hp
  refine ⟨memory, dropped, hdropped, ?_⟩
  rw [Outcome.andThen, Playback.start_of_ok (haccepted memory)] at hattempt
  rw [Playback.settle, hattempt]
  simp [Outcome.andThen, Playback.checked, Playback.spec, Playback.accepted]

/-- A widget that is told to play and fails is announced to have failed, and the search goes on. -/
theorem Quiets.of_fails {widget : Mounted} {e : PlayerError} {acts : List Act} {q : Playback σ}
    (hmounted : p.mounted = some widget)
    (hresult : (P.play p.memory widget.session).result = .error e)
    (h : let p' := { p with memory := (P.play p.memory widget.session).memory }
      Quiets P ((P.play p.memory widget.session).sent ++ (p'.settle P p.queue.toList).sent)
        (p'.settle P p.queue.toList).playback acts q) :
    let p' := { p with memory := (P.play p.memory widget.session).memory }
    Quiets P [⟨widget.session, .ready⟩] p
      (.play widget :: .announce (.errored (some widget.session) widget.identifier e.message) ::
        ((p'.settle P p.queue.toList).acts ++ acts)) q := by
  have hreceive : p.receive P ⟨widget.session, .ready⟩ = _ :=
    (Playback.receive_ready hmounted).trans (Playback.playMounted_of_error hresult)
  exact Quiets.cons hreceive h

/-- The search through the waiting items comes to its end once everything that waits is handled, and
what has waited before does not matter. -/
theorem exists_quiets_settle (hP : P.Fated fate madeFor) (items : List String)
    (waiting : List Callback) (hqueue : p.queue.toList = items) (hp : p.Dated)
    (hwaiting : ∀ callback ∈ waiting, callback.session < p.nextSession) :
    ∃ acts q, Quiets P (waiting ++ (p.settle P items).sent) (p.settle P items).playback acts q ∧
      SearchEnds P fate p.nextSession items ((p.settle P items).acts ++ acts) q := by
  induction items generalizing p waiting with
  | nil =>
    obtain ⟨memory, said, hidle⟩ := Playback.goIdle_eq P p
    rw [Playback.settle, hidle]
    refine ⟨[], _, Quiets.of_unmounted rfl, .idle .nil ?_ hqueue rfl rfl⟩
    simp [notices_drops]
  | cons identifier others ih =>
    cases hfate : fate identifier with
    | refused =>
      obtain ⟨memory, said, reason, hsaid, hsettle⟩ :=
        exists_settle_of_refused others hP hp hfate
      rw [hsettle]
      obtain ⟨acts, q, hquiets, hends⟩ := ih (waiting ++ said)
        (p := { p with
          queue := ⟨others⟩, mounted := none, nextSession := p.nextSession + 1, memory })
        rfl (by simp [Playback.Dated]) (List.forall_mem_append.2
          ⟨fun callback hmem => Nat.lt_succ_of_lt (hwaiting callback hmem), hsaid⟩)
      refine ⟨acts, q, by simpa using hquiets, ?_⟩
      rw [Outcome.acts_andThen, List.append_assoc]
      refine SearchEnds.cons _ (fun hpassed => ?_) hends
      rw [notices_append, notices_drops]
      exact .refused hfate hpassed
    | fails name =>
      obtain ⟨before, said, hsaid, hsettle⟩ := exists_settle_of_accepted others hP hp
        fun memory => (hP.ready memory _ (p.spec identifier) name hfate).1
      have hready := (hP.ready before p.nextSession (p.spec identifier) name hfate).2
      have hmade := hP.made before p.nextSession (p.spec identifier)
      obtain ⟨⟨e, hresult⟩, hplay⟩ := hP.fails _ _ _ name hmade hfate
      rw [hsettle, hready]
      -- the search goes on with the widget still mounted, and what it has said meanwhile waits
      obtain ⟨acts, q, hquiets, hends⟩ := ih _ rfl (p.dated_accepted others name _)
        fun callback hmem => Nat.lt_succ_of_le (hplay callback hmem)
      have hall := Quiets.append_of_lt rfl (List.forall_mem_append.2 ⟨hwaiting, hsaid⟩)
        (Quiets.of_fails (p := p.accepted others name _) rfl hresult hquiets)
      rw [List.append_assoc] at hall
      refine ⟨_, q, hall, ?_⟩
      have hsearch : SearchEnds P fate p.nextSession (identifier :: others) _ q :=
        SearchEnds.cons (p.drops ++ [.create p.nextSession (p.spec identifier) true,
          .announce (.started p.nextSession name), .play ⟨p.nextSession, name⟩,
          .announce (.errored (some p.nextSession) name e.message)]) (fun hpassed => by
            rw [notices_append, notices_drops]
            exact .failed hfate hpassed) hends
      rw [List.append_assoc] at hsearch ⊢
      exact hsearch
    | plays name =>
      obtain ⟨before, said, hsaid, hsettle⟩ := exists_settle_of_accepted others hP hp
        fun memory => (hP.playable memory _ (p.spec identifier) name hfate).1
      have hordinary := (hP.playable before p.nextSession (p.spec identifier) name hfate).2
      have hmade := hP.made before p.nextSession (p.spec identifier)
      rw [hsettle]
      obtain ⟨acts, memory, hquiets, hheard, hplays⟩ := Quiets.of_ordinary _ []
        (p := p.accepted others name _) hP hfate rfl hmade hordinary (by simp)
      rw [List.append_nil] at hquiets
      refine ⟨acts, p.accepted others name memory, ?_, ?_⟩
      · rw [← List.append_assoc]
        exact Quiets.append_of_lt rfl (List.forall_mem_append.2 ⟨hwaiting, hsaid⟩) hquiets
      · refine .playing [] rfl rfl .nil hfate ?_ rfl rfl rfl fun hready => ?_
        · simp [notices_drops, hheard]
        · exact List.mem_append_right _ (hplays (hready before p.layout))

end Search

/-! ## Rehearsals -/

namespace Rehearsal

/-- What becomes of the identifier of a part. -/
def Part.fate (part : Part) (identifier : String) : Fate :=
  match part.reject, part.failPlay with
  | some _, _ => .refused
  | none, some _ => .fails (part.name.getD identifier)
  | none, none => .plays (part.name.getD identifier)

/-- The widget is refused, or it says that it is ready and nothing else until it is told to play,
and fails then; or it plays, and says nothing that asks for more. -/
structure Part.Decided (part : Part) : Prop where
  fails : part.reject = none → part.failPlay.isSome → part.ready = true ∧ part.onCreate = []
  created : part.reject = none → part.failPlay = none → ∀ report ∈ part.onCreate, report.Ordinary
  played : part.reject = none → part.failPlay = none → ∀ report ∈ part.onPlay,
    ∃ state, state ≠ .ended ∧ report = .changed state

variable {part : Part} {identifier name : String}

theorem Part.fate_eq_refused_iff :
    part.fate identifier = .refused ↔ ∃ failure, part.reject = some failure := by
  rw [fate]
  cases part.reject <;> cases part.failPlay <;> simp

theorem Part.fate_eq_fails_iff : part.fate identifier = .fails name ↔
    part.reject = none ∧ (∃ failure, part.failPlay = some failure) ∧
      part.name.getD identifier = name := by
  rw [fate]
  cases part.reject <;> cases part.failPlay <;> simp

theorem Part.fate_eq_plays_iff : part.fate identifier = .plays name ↔
    part.reject = none ∧ part.failPlay = none ∧ part.name.getD identifier = name := by
  rw [fate]
  cases part.reject <;> cases part.failPlay <;> simp

theorem mem_callbacks {session : Session} {reports : List Report} {callback : Callback}
    (h : callback ∈ callbacks session reports) :
    callback.session = session ∧ callback.report ∈ reports := by
  obtain ⟨report, hreport, rfl⟩ := List.mem_map.1 h
  exact ⟨rfl, hreport⟩

/-- A rehearsal of decided parts gives each identifier its fate. -/
theorem fated_provider {script : Script} (h : ∀ identifier, (script identifier).Decided) :
    (provider script).Fated (fun identifier => (script identifier).fate identifier)
      fun memory session identifier => memory.lookup session = some (script identifier) where
  made memory session spec := by simp [provider]
  refused memory session spec hfate := by
    obtain ⟨failure, hreject⟩ := Part.fate_eq_refused_iff.1 hfate
    refine ⟨⟨failure.error ("rejected " ++ spec.identifier), by simp [provider, hreject]⟩, ?_⟩
    exact fun callback hmem => Nat.le_of_eq (mem_callbacks hmem).1
  ready memory session spec name hfate := by
    obtain ⟨hreject, ⟨failure, hfail⟩, hname⟩ := Part.fate_eq_fails_iff.1 hfate
    obtain ⟨hready, hcreate⟩ := (h spec.identifier).fails hreject (by simp [hfail])
    simp [provider, hreject, hname, hready, hcreate, callbacks]
  fails memory session identifier name hmade hfate := by
    obtain ⟨hreject, ⟨failure, hfail⟩, hname⟩ := Part.fate_eq_fails_iff.1 hfate
    refine ⟨⟨failure.error "play failed", by simp [provider, hmade, hfail]⟩, ?_⟩
    exact fun callback hmem => Nat.le_of_eq (mem_callbacks hmem).1
  playable memory session spec name hfate := by
    obtain ⟨hreject, hfail, hname⟩ := Part.fate_eq_plays_iff.1 hfate
    refine ⟨by simp [provider, hreject, hname], fun callback hmem _ => ?_⟩
    rcases List.mem_append.1 (mem_callbacks hmem).2 with hready | hcreate
    · obtain ⟨-, hreport⟩ : _ ∧ callback.report = .ready := by simpa using hready
      simp [hreport, Report.Ordinary]
    · exact (h spec.identifier).created hreject hfail _ hcreate
  plays memory session identifier name hmade hfate := by
    obtain ⟨hreject, hfail, hname⟩ := Part.fate_eq_plays_iff.1 hfate
    refine ⟨by simp [provider, hmade, hfail], hmade, fun callback hmem _ => ?_⟩
    have hplay : callback.report ∈ (script identifier).onPlay := by
      simpa [hmade] using (mem_callbacks hmem).2
    exact (h identifier).played hreject hfail _ hplay
  dropped memory session := by simp [provider]

end Rehearsal

/-- One identifier is refused, one fails to play, and all others play. -/
def goodAndBad : Rehearsal.Script := fun identifier =>
  if identifier = "refused" then { reject := some .http }
  else if identifier = "broken" then { failPlay := some .widget }
  else { onPlay := [.changed .playing] }

theorem decided_goodAndBad (identifier : String) : (goodAndBad identifier).Decided := by
  rw [goodAndBad]
  split
  · constructor <;> simp
  · split <;> constructor <;> simp

/-! ## The main result -/

/-- Items that were passed over cannot be played. -/
theorem PassedOver.ne_plays {fate : String → Fate} {session : Session} {items : List String}
    {heard : List (Notice Session Nat)} (h : PassedOver fate session items heard) :
    ∀ identifier ∈ items, ∀ name, fate identifier ≠ .plays name := by
  induction h with
  | nil => simp
  | refused hfate _ ih => exact List.forall_mem_cons.2 ⟨by simp [hfate], ih⟩
  | failed hfate _ ih => exact List.forall_mem_cons.2 ⟨by simp [hfate], ih⟩

/-- Where a list is split at an element of a kind with none of the kind in front, it is split at the
first. -/
theorem split_unique {α : Type} (kind : α → Prop) {before before' after after' : List α} {a a' : α}
    (h : before ++ a :: after = before' ++ a' :: after') (hbefore : ∀ b ∈ before, ¬ kind b)
    (hbefore' : ∀ b ∈ before', ¬ kind b) (ha : kind a) (ha' : kind a') :
    before = before' ∧ a = a' ∧ after = after' := by
  induction before generalizing before' with
  | nil =>
    cases before' with
    | nil => simpa using h
    | cons b before' =>
      obtain ⟨rfl, -⟩ := List.cons.inj h
      exact absurd ha (hbefore' a List.mem_cons_self)
  | cons b before ih =>
    cases before' with
    | nil =>
      obtain ⟨rfl, -⟩ := List.cons.inj h
      exact absurd ha' (hbefore b List.mem_cons_self)
    | cons b' before' =>
      obtain ⟨rfl, hrest⟩ := List.cons.inj h
      obtain ⟨rfl, hsame⟩ := ih hrest (List.forall_mem_cons.1 hbefore).2
        (List.forall_mem_cons.1 hbefore').2
      exact ⟨rfl, hsame⟩

/-- A tick while nothing plays begins the search, unless nothing waits. -/
theorem exists_quiets_tick {P : Provider σ} {fate : String → Fate}
    {madeFor : σ → Session → String → Prop} (hP : P.Fated fate madeFor) {p : Playback σ}
    (hidle : p.playing = false) (hmounted : p.mounted = none) :
    ∃ acts q, Quiets P (p.tick P).sent (p.tick P).playback acts q ∧
      (p.queue.toList = [] ∧ (p.tick P).acts ++ acts = [] ∧ q = p ∨
        p.queue.toList ≠ [] ∧
          SearchEnds P fate p.nextSession p.queue.toList ((p.tick P).acts ++ acts) q) := by
  by_cases hqueue : p.queue.toList = []
  · have htick : p.tick P = p.unchanged := by
      rw [Playback.tick, Queue.hasNext_eq_false_iff.2 hqueue]
      rfl
    rw [htick]
    exact ⟨[], p, Quiets.nil, .inl ⟨hqueue, rfl, rfl⟩⟩
  · have htick : p.tick P = p.settle P p.queue.toList := by
      have hnext : p.queue.hasNext = true :=
        eq_true_of_ne_false (mt Queue.hasNext_eq_false_iff.1 hqueue)
      rw [Playback.tick, hnext, hidle]
      rfl
    rw [htick]
    obtain ⟨acts, q, hquiets, hends⟩ := exists_quiets_settle hP p.queue.toList []
      rfl (by simp [Playback.Dated, hmounted]) (by simp)
    exact ⟨acts, q, hquiets, .inr ⟨hqueue, hends⟩⟩

/-- A tick while nothing plays, with any queue and a provider that gives each identifier its fate.
Once all that waits is handled, and it comes to that, the first identifier that can be played is
mounted, has been told to play if it says that it is ready, and is followed by what stood behind it;
those in front of it have been announced in order, each in a session of its own. If none can be
played, all have been announced and nothing waits or is mounted, which is announced last unless the
queue was empty. -/
theorem tick_settles {P : Provider σ} {fate : String → Fate}
    {madeFor : σ → Session → String → Prop} (hP : P.Fated fate madeFor) {p : Playback σ}
    (hidle : p.playing = false) (hmounted : p.mounted = none) :
    ∃ turns, ∀ limit,
      let o := p.tick P
      let d := o.playback.drain P (limit + turns) o.sent
      d.waiting = [] ∧ d.handled = turns ∧
        (∀ before identifier others name, p.queue.toList = before ++ identifier :: others →
          (∀ other ∈ before, ∀ name, fate other ≠ .plays name) → fate identifier = .plays name →
            let own := p.nextSession + before.length
            d.playback.mounted = some ⟨own, name⟩ ∧ d.playback.playing = true ∧
              d.playback.queue.toList = others ∧
              (P.SaysReady own identifier → .play ⟨own, name⟩ ∈ o.acts ++ d.acts) ∧
              ∃ heard, PassedOver fate p.nextSession before heard ∧
                notices (o.acts ++ d.acts) = heard ++ [.started own name]) ∧
        ((∀ identifier ∈ p.queue.toList, ∀ name, fate identifier ≠ .plays name) →
          d.playback.mounted = none ∧ d.playback.playing = false ∧
            d.playback.queue.toList = [] ∧
            ∃ heard, PassedOver fate p.nextSession p.queue.toList heard ∧
              notices (o.acts ++ d.acts) =
                heard ++ if p.queue.toList = [] then [] else [.idle]) := by
  obtain ⟨acts, q, ⟨turns, hturns⟩, hsearch⟩ := exists_quiets_tick hP hidle hmounted
  refine ⟨turns, fun limit => ?_⟩
  intro o d
  have hd : d = ⟨q, acts, [], turns⟩ := hturns limit
  rw [hd]
  refine ⟨rfl, rfl, ?_, ?_⟩
  · intro before identifier others name hsplit hbefore hfate own
    obtain ⟨hqueue, -⟩ | ⟨-, hends⟩ := hsearch
    · simp [hqueue] at hsplit
    cases hends with
    | @playing before' others' identifier' name' _ heard hitems hown hpassed hfate' hheard hwaiting
        hmounts hplaying hplayed =>
      have hfirst := split_unique (fun other => ∃ name, fate other = .plays name)
        (hsplit.symm.trans hitems) (by simpa using hbefore) (by simpa using hpassed.ne_plays)
        ⟨name, hfate⟩ ⟨name', hfate'⟩
      obtain ⟨rfl, rfl, rfl⟩ := hfirst
      obtain rfl : name = name' := Fate.plays.inj (hfate.symm.trans hfate')
      subst hown
      exact ⟨hmounts, hplaying, hwaiting, hplayed, heard, hpassed, hheard⟩
    | idle hpassed =>
      have hmem : identifier ∈ p.queue.toList := by simp [hsplit]
      exact absurd hfate (hpassed.ne_plays identifier hmem name)
  · intro hnone
    obtain ⟨hqueue, hacts, rfl⟩ | ⟨hqueue, hends⟩ := hsearch
    · exact ⟨hmounted, hidle, hqueue, [], hqueue ▸ .nil, by simp [hacts, hqueue, o]⟩
    cases hends with
    | @playing _ _ identifier _ _ _ hitems _ _ hfate =>
      exact absurd hfate (hnone identifier (by simp [hitems]) _)
    | idle hpassed hheard hwaiting hmounts hplaying =>
      exact ⟨hmounts, hplaying, hwaiting, _, hpassed, by rw [if_neg hqueue]; exact hheard⟩

/-- The refused and the broken item are passed over, and the third is mounted. -/
theorem third_item_played :
    let p : Playback Rehearsal.Memory :=
      { queue := ⟨["refused", "broken", "good", "other"]⟩, memory := [] }
    p.playing = false ∧ p.mounted = none ∧
      ∃ turns, ∀ limit,
        let o := p.tick (Rehearsal.provider goodAndBad)
        let d := o.playback.drain (Rehearsal.provider goodAndBad) (limit + turns) o.sent
        d.waiting = [] ∧ d.playback.mounted = some ⟨3, "good"⟩ ∧
          d.playback.queue.toList = ["other"] := by
  intro p
  obtain ⟨turns, hturns⟩ := tick_settles (Rehearsal.fated_provider decided_goodAndBad)
    (p := p) rfl rfl
  refine ⟨rfl, rfl, turns, fun limit => ?_⟩
  intro o d
  obtain ⟨hwaiting, -, hplays, -⟩ := hturns limit
  obtain ⟨hmounted, -, hqueue, -⟩ := hplays ["refused", "broken"] "good" ["other"] "good" rfl
    (by simp [goodAndBad, Rehearsal.Part.fate]) (by simp [goodAndBad, Rehearsal.Part.fate])
  exact ⟨hwaiting, hmounted, hqueue⟩

end Jukebox
