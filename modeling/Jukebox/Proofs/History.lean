/-!
# Histories

A history is the list of what has happened, in order. A history is allowed throughout when each of
its elements is allowed by the elements in front of it. Histories grow at the end, so this is
proved one element at a time.

Views of a history pick out what is of interest in each element; they are written with `filterMap`.
-/

namespace Jukebox

variable {α : Type}

@[simp] theorem filterMap_cons_eq_append {β : Type} (view : α → Option β) (a : α)
    (history : List α) :
    (a :: history).filterMap view = (view a).toList ++ history.filterMap view := by
  rw [List.filterMap_cons]
  cases view a <;> rfl

/-- An element of a history that has grown by one is the new one, or was there before. -/
theorem concat_eq_append_cons {history before after : List α} {a b : α}
    (h : history ++ [b] = before ++ a :: after) :
    (after = [] ∧ history = before ∧ b = a) ∨
      ∃ after', after = after' ++ [b] ∧ history = before ++ a :: after' := by
  rcases List.eq_nil_or_concat after with rfl | ⟨after', c, rfl⟩
  · obtain ⟨rfl, hb⟩ := List.append_inj' h rfl
    exact .inl ⟨rfl, rfl, List.head_eq_of_cons_eq hb⟩
  · rw [List.concat_eq_append, ← List.cons_append, ← List.append_assoc] at h
    obtain ⟨rfl, hb⟩ := List.append_inj' h rfl
    rw [List.head_eq_of_cons_eq hb]
    exact .inr ⟨after', List.concat_eq_append, rfl⟩

/-- Each element of the history is allowed by what happened before it. -/
def Throughout (allowed : List α → α → Prop) (history : List α) : Prop :=
  ∀ before a after, history = before ++ a :: after → allowed before a

namespace Throughout

variable {allowed : List α → α → Prop}

@[simp] theorem nil : Throughout allowed [] := by
  intro before a after h
  simp at h

/-- A history may grow by what it allows. -/
theorem concat {history : List α} {a : α} (h : Throughout allowed history)
    (ha : allowed history a) : Throughout allowed (history ++ [a]) := by
  intro before b after hsplit
  rcases concat_eq_append_cons hsplit with ⟨-, rfl, rfl⟩ | ⟨after, -, hsplit⟩
  · exact ha
  · exact h before b after hsplit

/-- What is allowed throughout a history is allowed throughout its beginnings. -/
theorem of_append {history more : List α} (h : Throughout allowed (history ++ more)) :
    Throughout allowed history := by
  intro before a after hsplit
  refine h before a (after ++ more) ?_
  rw [hsplit, List.append_assoc, List.cons_append]

end Throughout

end Jukebox
