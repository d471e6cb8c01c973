/-!
# The queue of waiting items

First in, first out, with neither a limit nor a test for repeats. `toList` is the view that every
operation is described through.
-/

namespace Jukebox

/-- The identifiers that wait to be played. -/
structure Queue where
  /-- The waiting identifiers, the next one first. -/
  toList : List String := []
  deriving Repr, DecidableEq

namespace Queue

/-- The queue in which nothing waits. -/
def empty : Queue := ⟨[]⟩

/-- The identifier goes to the end. -/
def push (q : Queue) (identifier : String) : Queue :=
  ⟨q.toList ++ [identifier]⟩

/-- The next identifier and the queue without it. -/
def pop? (q : Queue) : Option (String × Queue) :=
  match q.toList with
  | [] => none
  | identifier :: rest => some (identifier, ⟨rest⟩)

/-- How many identifiers wait. -/
def size (q : Queue) : Nat := q.toList.length

/-- Nothing waits. -/
def isEmpty (q : Queue) : Bool := q.toList.isEmpty

/-- Something waits. -/
def hasNext (q : Queue) : Bool := !q.isEmpty

@[simp] theorem toList_empty : empty.toList = [] := rfl

@[simp] theorem toList_push (q : Queue) (identifier : String) :
    (q.push identifier).toList = q.toList ++ [identifier] := rfl

@[simp] theorem size_push (q : Queue) (identifier : String) :
    (q.push identifier).size = q.size + 1 := by
  simp [size]

/-- Taking an identifier out takes the first. -/
theorem pop?_eq_some_iff {q rest : Queue} {identifier : String} :
    q.pop? = some (identifier, rest) ↔ q.toList = identifier :: rest.toList := by
  obtain ⟨items⟩ := q
  obtain ⟨others⟩ := rest
  cases items <;> simp [pop?]

theorem pop?_eq_none_iff {q : Queue} : q.pop? = none ↔ q.toList = [] := by
  obtain ⟨items⟩ := q
  cases items <;> simp [pop?]

theorem hasNext_eq_false_iff {q : Queue} : q.hasNext = false ↔ q.toList = [] := by
  simp [hasNext, isEmpty]

end Queue

end Jukebox
