import Jukebox.Proofs.Link.Exchange
import Mathlib.Data.List.Induction

/-!
# What one connection reports

A connection that cannot be opened reports what went wrong, and that it has closed. Any other says
that it is open, passes on the texts that it reads, and closes where reading ends: because it is
over or broken, or because nothing came in time after the server had said that it closes. The main
result is `reports_of_connection`: whatever is read, these are its moves and its reports, and the
ready state is what they say. It enters the closing state where the server says that it closes, and
the closed one directly before it reports that.
-/

namespace Jukebox.Link

variable {generation : Nat}

/-! ## Where reading ends -/

/-- The text that was read, if one was. -/
def Reading.text? : Reading → Option String
  | .text content => some content
  | .close | .other | .silence | .finished | .broken _ => none

/-- What went wrong in reading, if something did. -/
def Reading.failure? : Reading → Option String
  | .broken reason => some reason
  | .text _ | .close | .other | .silence | .finished => none

/-- The texts among what was read, in order. -/
abbrev texts (readings : List Reading) : List String := readings.filterMap Reading.text?

/-- Reading ends with this, after what was read before. Silence ends it only if the server has said
that it closes. -/
def Ends (before : List Reading) : Reading → Prop
  | .finished | .broken _ => True
  | .silence => .close ∈ before
  | .text _ | .close | .other => False

/-- Reading ends nowhere in this. -/
abbrev Endless (readings : List Reading) : Prop :=
  Throughout (fun before reading => ¬ Ends before reading) readings

/-- Reading goes on, or there is a first place where it ends. -/
theorem endless_or_ends (readings : List Reading) : Endless readings ∨
    ∃ before last after, readings = before ++ last :: after ∧ Endless before ∧
      Ends before last := by
  induction readings using List.reverseRecOn with
  | nil => exact .inl .nil
  | append_singleton readings reading ih =>
    rcases ih with hendless | ⟨before, last, after, rfl, hendless, hends⟩
    · by_cases hends : Ends readings reading
      · exact .inr ⟨readings, reading, [], rfl, hendless, hends⟩
      · exact .inl (hendless.concat hends)
    · refine .inr ⟨before, last, after ++ [reading], ?_, hendless, hends⟩
      rw [List.append_assoc, List.cons_append]

/-! ## The moves of a connection -/

/-- The move that a reading makes by itself, if it makes one. -/
def Reading.move? (generation : Nat) : Reading → Option Move
  | .text content => some (.report (.message generation content))
  | .close => some (.become .closing)
  | .other | .silence | .finished | .broken _ => none

/-- The moves where reading ends: what went wrong is reported, if something did, and the connection
closes. -/
def endingMoves (generation : Nat) (reason? : Option String) : List Move :=
  (reason?.map fun reason => .report
    (.failed generation (PlayerError.connection reason).message)).toList ++ lastMoves generation

/-- The reports of a connection that closes: what went wrong, if something did, and that it has
closed. -/
def lastReports (generation : Nat) (reason? : Option String) : List Input :=
  (reason?.map fun reason =>
    .failed generation (PlayerError.connection reason).message).toList ++ [.closed generation]

theorem reports_endingMoves (reason? : Option String) :
    reports (endingMoves generation reason?) = lastReports generation reason? := by
  cases reason? <;> rfl

/-- What is read before reading ends makes its moves one by one, and the moves that follow depend on
it only in whether the server has said that it closes. -/
theorem readingMoves_append (generation : Nat) (earlier readings more : List Reading)
    (h : ∀ before reading after, readings = before ++ reading :: after →
      ¬ Ends (earlier ++ before) reading) :
    readingMoves generation (decide (.close ∈ earlier)) (readings ++ more) =
      readings.filterMap (Reading.move? generation) ++
        readingMoves generation (decide (.close ∈ earlier ++ readings)) more := by
  induction readings generalizing earlier with
  | nil => simp
  | cons reading rest ih =>
    have hfirst := h [] reading rest rfl
    have hrest := ih (earlier ++ [reading]) fun before next after hsplit => by
      rw [List.append_assoc]
      exact h (reading :: before) next after (by rw [hsplit, List.cons_append])
    rw [List.append_assoc, List.singleton_append] at hrest
    rw [List.append_nil] at hfirst
    cases reading with
    | text | close | other => simpa [readingMoves, Reading.move?] using hrest
    | silence =>
      -- the server has not said that it closes, or reading would end here
      have hopen : Reading.close ∉ earlier := hfirst
      simpa [readingMoves, Reading.move?, hopen] using hrest
    | finished | broken => exact absurd trivial hfirst

theorem readingMoves_of_endless {readings : List Reading} (h : Endless readings) :
    readingMoves generation false readings = readings.filterMap (Reading.move? generation) := by
  have hmoves := readingMoves_append generation [] readings [] h
  simpa [readingMoves] using hmoves

/-- Where reading ends the connection closes, whatever might have been read then. -/
theorem readingMoves_of_ends {before : List Reading} {last : Reading} (hendless : Endless before)
    (hends : Ends before last) (after : List Reading) :
    readingMoves generation false (before ++ last :: after) =
      before.filterMap (Reading.move? generation) ++ endingMoves generation last.failure? := by
  have hmoves := readingMoves_append generation [] before (last :: after) hendless
  rw [List.nil_append] at hmoves
  refine hmoves.trans (congrArg _ ?_)
  cases last with
  | finished | broken => rfl
  | silence =>
    have hclosing : Reading.close ∈ before := hends
    simp [readingMoves, hclosing, endingMoves, Reading.failure?]
  | text | close | other => cases hends

/-- The moves of a connection that could be opened, as long as reading goes on. -/
def openMoves (generation : Nat) (readings : List Reading) : List Move :=
  [.become .opened, .report (.opened generation)] ++
    readings.filterMap (Reading.move? generation)

theorem openMoves_concat (readings : List Reading) (reading : Reading) :
    openMoves generation (readings ++ [reading]) =
      openMoves generation readings ++ (reading.move? generation).toList := by
  rw [openMoves, List.filterMap_append, ← List.append_assoc, filterMap_cons_eq_append,
    List.filterMap_nil, List.append_nil, openMoves]

/-- A connection that could be opened goes on reading, or closes where reading ends. -/
theorem moves_ok_cases (generation : Nat) (readings : List Reading) :
    (Endless readings ∧ moves generation (.ok ()) readings = openMoves generation readings) ∨
    ∃ before last after, readings = before ++ last :: after ∧ Endless before ∧ Ends before last ∧
      moves generation (.ok ()) readings =
        openMoves generation before ++ endingMoves generation last.failure? := by
  rcases endless_or_ends readings with hendless | ⟨before, last, after, rfl, hendless, hends⟩
  · left
    refine ⟨hendless, ?_⟩
    rw [moves, readingMoves_of_endless hendless]
    rfl
  · right
    refine ⟨before, last, after, rfl, hendless, hends, ?_⟩
    rw [moves, readingMoves_of_ends hendless hends]
    rfl

/-! ## The reports -/

/-- Of what is read, only the texts are reported. -/
theorem reports_openMoves (readings : List Reading) :
    reports (openMoves generation readings) =
      .opened generation :: (texts readings).map (.message generation) := by
  induction readings using List.reverseRecOn with
  | nil => rfl
  | append_singleton readings reading ih =>
    have htexts : texts (readings ++ [reading]) = texts readings ++ texts [reading] :=
      List.filterMap_append
    rw [openMoves_concat, reports_append, ih, htexts, List.map_append, List.cons_append]
    cases reading <;> rfl

/-- The ready state that a move enters, if it enters one. -/
def Move.state? : Move → Option ReadyState
  | .become state => some state
  | .report _ => none

/-- The ready states that a connection enters by some moves, in order. -/
def entered (moves : List Move) : List ReadyState := moves.filterMap Move.state?

theorem entered_append (moves more : List Move) :
    entered (moves ++ more) = entered moves ++ entered more :=
  List.filterMap_append

/-- While reading goes on a connection enters no other state than the closing one, once for each
time that the server says that it closes. -/
theorem entered_openMoves (readings : List Reading) :
    entered (openMoves generation readings) =
      .opened :: List.replicate (readings.count .close) .closing := by
  induction readings using List.reverseRecOn with
  | nil => rfl
  | append_singleton readings reading ih =>
    rw [openMoves_concat, entered_append, ih, List.count_append, List.cons_append]
    cases reading with
    | close => simp [entered, Reading.move?, Move.state?, List.replicate_succ']
    | text | other | silence | finished | broken => simp [entered, Reading.move?, Move.state?]

theorem entered_endingMoves (reason? : Option String) :
    entered (endingMoves generation reason?) = [.closed] := by
  cases reason? <;> rfl

/-- What a connection that could be opened does: it reports all texts that it reads, or those up to
where reading ends, and then what it reports last, and it enters the closed state only there. -/
theorem life_ok_cases (generation : Nat) (readings : List Reading) :
    let life := moves generation (.ok ()) readings
    (Endless readings ∧ life = openMoves generation readings ∧
      entered life = .opened :: List.replicate (readings.count .close) .closing ∧
      reports life = .opened generation :: (texts readings).map (.message generation)) ∨
    ∃ before last after, readings = before ++ last :: after ∧ Endless before ∧ Ends before last ∧
      life = openMoves generation before ++ endingMoves generation last.failure? ∧
      entered life = .opened :: (List.replicate (before.count .close) .closing ++ [.closed]) ∧
      reports life = .opened generation ::
        ((texts before).map (.message generation) ++ lastReports generation last.failure?) := by
  intro life
  rcases moves_ok_cases generation readings with
    ⟨hendless, hmoves⟩ | ⟨before, last, after, hsplit, hendless, hends, hmoves⟩
  · left
    refine ⟨hendless, hmoves, ?_, ?_⟩
    · rw [show life = _ from hmoves, entered_openMoves]
    · rw [show life = _ from hmoves, reports_openMoves]
  · right
    refine ⟨before, last, after, hsplit, hendless, hends, hmoves, ?_, ?_⟩
    · rw [show life = _ from hmoves, entered_append, entered_openMoves, entered_endingMoves,
        List.cons_append]
    · rw [show life = _ from hmoves, reports_append, reports_openMoves, reports_endingMoves,
        List.cons_append]

/-- The reports of a connection from first to last: it could not be opened, or it was open and heard
some texts, and in the end something may have gone wrong. -/
def Whole (generation : Nat) (sent : List Input) : Prop :=
  (∃ reason, sent = lastReports generation (some reason)) ∨
    ∃ (heard : List String) (reason? : Option String), sent =
      .opened generation :: (heard.map (.message generation) ++ lastReports generation reason?)

/-- What a connection reports is the beginning of something whole. -/
theorem exists_whole (generation : Nat) (outcome : Except String Unit) (readings : List Reading) :
    ∃ whole, Whole generation whole ∧ reports (moves generation outcome readings) <+: whole := by
  cases outcome with
  | error reason =>
    exact ⟨_, .inl ⟨reason, rfl⟩, reports_endingMoves (some reason) ▸ List.prefix_refl _⟩
  | ok =>
    rcases life_ok_cases generation readings with
      ⟨-, -, -, hreports⟩ | ⟨before, last, after, -, -, -, -, -, hreports⟩
    · -- a connection that still reads may close next
      refine ⟨_, .inr ⟨texts readings, none, rfl⟩, ?_⟩
      rw [hreports, ← List.cons_append]
      exact List.prefix_append _ _
    · exact ⟨_, .inr ⟨texts before, last.failure?, rfl⟩, hreports ▸ List.prefix_refl _⟩

theorem closed_mem_lastReports (reason? : Option String) :
    .closed generation ∈ lastReports generation reason? :=
  List.mem_append_right _ (List.mem_singleton.2 rfl)

/-- It is reported that a connection has closed if it could not be opened, or where reading ends. -/
theorem closed_mem_reports_iff (generation : Nat) (outcome : Except String Unit)
    (readings : List Reading) :
    .closed generation ∈ reports (moves generation outcome readings) ↔
      (∃ reason, outcome = .error reason) ∨
        ∃ before last after, readings = before ++ last :: after ∧ Ends before last := by
  cases outcome with
  | error reason =>
    rw [show reports (moves generation (.error reason) readings) = _ from
      reports_endingMoves (some reason)]
    exact iff_of_true (closed_mem_lastReports _) (.inl ⟨reason, rfl⟩)
  | ok =>
    rcases life_ok_cases generation readings with
      ⟨hendless, -, -, hreports⟩ | ⟨before, last, after, hsplit, -, hends, -, -, hreports⟩
    · rw [hreports]
      refine iff_of_false (by simp) ?_
      rintro (⟨reason, h⟩ | ⟨before, last, after, hsplit, hends⟩)
      · cases h
      · exact hendless before last after hsplit hends
    · rw [hreports]
      refine iff_of_true ?_ (.inr ⟨before, last, after, hsplit, hends⟩)
      exact List.mem_cons_of_mem _ (List.mem_append_right _ (closed_mem_lastReports _))

theorem mem_reports {moves : List Move} {input : Input} (h : .report input ∈ moves) :
    input ∈ reports moves :=
  List.mem_filterMap.2 ⟨_, h, rfl⟩

/-- A connection that has not yet reported that it has closed reports it in its last moves only. -/
theorem eq_of_append_lastMoves {moves before after : List Move}
    (hnot : .closed generation ∉ reports moves)
    (h : moves ++ lastMoves generation = before ++ .report (.closed generation) :: after) :
    before = moves ++ [.become .closed] ∧ after = [] := by
  have hconcat : (moves ++ [.become .closed]) ++ [.report (.closed generation)] =
      before ++ .report (.closed generation) :: after := by
    rw [← h, List.append_assoc]
    rfl
  rcases concat_eq_append_cons hconcat with ⟨hafter, hbefore, -⟩ | ⟨rest, -, hearlier⟩
  · exact ⟨hbefore.symm, hafter⟩
  · -- it would have been reported before
    have hreports : reports moves = reports (before ++ .report (.closed generation) :: rest) := by
      rw [← hearlier, reports_append]
      exact (List.append_nil _).symm
    refine absurd ?_ hnot
    rw [hreports]
    exact mem_reports (List.mem_append_right _ List.mem_cons_self)

theorem closed_reported_last_of_ends {moves before after : List Move} {reason? : Option String}
    (hnot : .closed generation ∉ reports moves)
    (h : moves ++ endingMoves generation reason? =
      before ++ .report (.closed generation) :: after) :
    after = [] ∧ ∃ earlier, before = earlier ++ [.become .closed] := by
  rw [endingMoves, ← List.append_assoc] at h
  have hfailed : .closed generation ∉ reports (moves ++ (reason?.map fun reason =>
      .report (.failed generation (PlayerError.connection reason).message)).toList) := by
    cases reason? <;> simpa [reports, Move.report?] using hnot
  obtain ⟨hbefore, hafter⟩ := eq_of_append_lastMoves hfailed h
  exact ⟨hafter, _, hbefore⟩

/-- That a connection has closed is the last thing that it reports, directly after it has entered
that state. -/
theorem closed_reported_last {outcome : Except String Unit} {readings : List Reading}
    {before after : List Move}
    (h : moves generation outcome readings = before ++ .report (.closed generation) :: after) :
    after = [] ∧ ∃ earlier, before = earlier ++ [.become .closed] := by
  have hopen (readings : List Reading) :
      .closed generation ∉ reports (openMoves generation readings) := by
    simp [reports_openMoves]
  cases outcome with
  | error reason =>
    have hends : [] ++ endingMoves generation (some reason) =
        before ++ .report (.closed generation) :: after := h
    exact closed_reported_last_of_ends List.not_mem_nil hends
  | ok =>
    rcases moves_ok_cases generation readings with
      ⟨-, hmoves⟩ | ⟨earlier, last, -, -, -, -, hmoves⟩
    · refine absurd (mem_reports ?_) (hopen readings)
      rw [← hmoves, h]
      exact List.mem_append_right _ List.mem_cons_self
    · exact closed_reported_last_of_ends (hopen earlier) (hmoves.symm.trans h)

/-! ## The ready state -/

/-- A move leads the ready state forward, and what is reported of it is so. -/
def Forward (before : List Move) : Move → Prop
  | .become next => (stateAfter before).code ≤ next.code
  | .report input => ∀ state, input.state? = some state → stateAfter before = state

/-- While reading goes on the connection is open, and closing once the server has said that it
closes. -/
theorem forward_openMoves (readings : List Reading) :
    Throughout Forward (openMoves generation readings) ∧
      stateAfter (openMoves generation readings) =
        if .close ∈ readings then .closing else .opened := by
  induction readings using List.reverseRecOn with
  | nil =>
    have hopened : Throughout Forward [Move.become .opened] :=
      Throughout.nil.concat (Nat.zero_le _)
    have hsaid := hopened.concat (a := Move.report (.opened generation)) (by
      rintro state ⟨⟩
      rfl)
    exact ⟨hsaid, rfl⟩
  | append_singleton readings reading ih =>
    obtain ⟨hforward, hstate⟩ := ih
    rw [openMoves_concat]
    cases reading with
    | text content =>
      rw [Reading.move?, Option.toList_some, stateAfter_append_report, hstate]
      refine ⟨hforward.concat ?_, by simp⟩
      rintro state ⟨⟩
    | close =>
      rw [Reading.move?, Option.toList_some, stateAfter_append_become]
      refine ⟨hforward.concat ?_, by simp⟩
      rw [Forward, hstate]
      split <;> decide
    | other | silence | finished | broken =>
      simpa [Reading.move?] using ⟨hforward, hstate⟩

/-- A connection may close whatever its state. -/
theorem forward_endingMoves {before : List Move} (h : Throughout Forward before)
    (reason? : Option String) :
    Throughout Forward (before ++ endingMoves generation reason?) := by
  have hfailed : Throughout Forward (before ++ (reason?.map fun reason => Move.report
      (.failed generation (PlayerError.connection reason).message)).toList) := by
    cases reason? with
    | none => simpa using h
    | some reason =>
      refine h.concat ?_
      rintro state ⟨⟩
  have hclosed := hfailed.concat (a := .become .closed) (by
    rw [Forward]
    cases stateAfter _ <;> decide)
  have hsaid := hclosed.concat (a := .report (.closed generation)) (by
    rintro state ⟨⟩
    exact stateAfter_append_become _ _)
  simpa [endingMoves, lastMoves] using hsaid

/-- The ready state goes with the reports in every life. -/
theorem forward_moves (generation : Nat) (outcome : Except String Unit)
    (readings : List Reading) : Throughout Forward (moves generation outcome readings) := by
  cases outcome with
  | error reason => exact forward_endingMoves .nil (some reason)
  | ok =>
    rcases moves_ok_cases generation readings with ⟨-, hmoves⟩ | ⟨before, last, -, -, -, -, hmoves⟩
    · rw [hmoves]
      exact (forward_openMoves readings).1
    · rw [hmoves]
      exact forward_endingMoves (forward_openMoves before).1 last.failure?

end Jukebox.Link

namespace Jukebox

open Link

/-! ## The main result -/

/-- Whatever comes of opening a connection and of reading from it: at every moment what it has
reported is the beginning of a whole life, in its own name. If it cannot be opened, it reports this
and that it has closed, and it enters no other state. Otherwise it opens, and then it does one thing
for each reading that is a text or by which the server says that it closes: it passes the text on or
enters the closing state. If reading ends, this goes on up to the first place where it does, and
there it reports what went wrong, if something did, closes and says so. So it reports that it has
closed exactly if it could not be opened or reading ends, and then as its last move, directly after
it has closed. Its ready state only moves forward, and when it reports that it is open or has
closed, it is. -/
theorem reports_of_connection (generation : Nat) (outcome : Except String Unit)
    (readings : List Reading) :
    let life := moves generation outcome readings
    (∀ n, (∃ whole, Whole generation whole ∧ reports (life.take n) <+: whole) ∧
      ∀ input ∈ reports (life.take n), input.generation? = some generation) ∧
    (match outcome with
      | .error reason =>
        life = endingMoves generation (some reason) ∧ entered life = [.closed] ∧
          reports life = lastReports generation (some reason)
      | .ok () =>
        (Endless readings ∧ life = openMoves generation readings ∧
          entered life = .opened :: List.replicate (readings.count .close) .closing ∧
          reports life = .opened generation :: (texts readings).map (.message generation)) ∨
        ∃ before last after, readings = before ++ last :: after ∧ Endless before ∧
          Ends before last ∧
          life = openMoves generation before ++ endingMoves generation last.failure? ∧
          entered life = .opened :: (List.replicate (before.count .close) .closing ++ [.closed]) ∧
          reports life = .opened generation :: ((texts before).map (.message generation) ++
            lastReports generation last.failure?)) ∧
    (.closed generation ∈ reports life ↔ (∃ reason, outcome = .error reason) ∨
      ∃ before last after, readings = before ++ last :: after ∧ Ends before last) ∧
    (∀ before after, life = before ++ .report (.closed generation) :: after →
      after = [] ∧ ∃ earlier, before = earlier ++ [.become .closed]) ∧
    Throughout Forward life := by
  intro life
  refine ⟨?_, ?_, closed_mem_reports_iff generation outcome readings,
    fun _ _ => closed_reported_last, forward_moves generation outcome readings⟩
  · intro n
    have hbegins : reports (life.take n) <+: reports life :=
      (List.take_prefix n life).filterMap Move.report?
    obtain ⟨whole, hwhole, hlife⟩ := exists_whole generation outcome readings
    refine ⟨⟨whole, hwhole, hbegins.trans hlife⟩, ?_⟩
    intro input hmem
    obtain ⟨move, hmove, hreport⟩ := List.mem_filterMap.1 (hbegins.subset hmem)
    cases move with
    | become state => cases hreport
    | report reported =>
      cases hreport
      exact generation?_of_mem_moves hmove
  · cases outcome with
    | error reason =>
      exact ⟨rfl, entered_endingMoves (some reason), reports_endingMoves (some reason)⟩
    | ok => exact life_ok_cases generation readings

end Jukebox
