import Mathlib

/-!
# Histories

A history is the list of what has happened, the latest last.  What holds of every event
together with the events before it is kept by adding one event that is in order, and so is
what has begun and not ended since.

**The rules.** `Throughout.snoc` for one event more, and `Throughout.ends_between` for what
never begins twice.
-/

set_option autoImplicit false

namespace AppointmentVoice.Concurrency

variable {E : Type}

/-- Every event is in order with those before it. -/
def Throughout (ordered : List E → E → Prop) (history : List E) : Prop :=
  ∀ before event after, history = before ++ event :: after → ordered before event

theorem Throughout.nil (ordered : List E → E → Prop) : Throughout ordered [] := by
  intro before event after split
  have lengths := congrArg List.length split
  simp at lengths

theorem Throughout.snoc {ordered : List E → E → Prop} {history : List E} {event : E}
    (throughout : Throughout ordered history) (last : ordered history event) :
    Throughout ordered (history ++ [event]) := by
  intro before found after split
  rcases List.eq_nil_or_concat after with rfl | ⟨rest, final, rfl⟩
  · obtain ⟨rfl, same⟩ := List.append_inj' split rfl
    rw [← (List.cons.inj same).1]
    exact last
  · rw [List.concat_eq_append, ← List.cons_append, ← List.append_assoc] at split
    exact throughout before found rest (List.append_inj' split rfl).1

/-- An event of the one kind has happened, and none of the other kind since. -/
def Since (began ended : E → Prop) (history : List E) : Prop :=
  ∃ before event after, history = before ++ event :: after ∧ began event ∧
    ∀ later ∈ after, ¬ended later

variable {began ended : E → Prop} {history : List E}

theorem not_since_nil : ¬Since began ended [] := by
  rintro ⟨before, event, after, split, -⟩
  have lengths := congrArg List.length split
  simp at lengths

@[simp] theorem since_snoc {event : E} :
    Since began ended (history ++ [event]) ↔
      began event ∨ (Since began ended history ∧ ¬ended event) := by
  constructor
  · rintro ⟨before, found, after, split, begins, lasts⟩
    rcases List.eq_nil_or_concat after with rfl | ⟨rest, final, rfl⟩
    · obtain ⟨-, same⟩ := List.append_inj' split rfl
      rw [(List.cons.inj same).1]
      exact .inl begins
    · rw [List.concat_eq_append, ← List.cons_append, ← List.append_assoc] at split
      obtain ⟨earlier, same⟩ := List.append_inj' split rfl
      rw [List.concat_eq_append] at lasts
      refine .inr ⟨⟨before, found, rest, earlier, begins, fun later member => ?_⟩, ?_⟩
      · exact lasts later (List.mem_append_left _ member)
      · rw [(List.cons.inj same).1]
        exact lasts final (List.mem_append_right _ (List.mem_singleton_self final))
  · rintro (begins | ⟨⟨before, found, after, rfl, begins, lasts⟩, goesOn⟩)
    · exact ⟨history, event, [], rfl, begins, fun _ member => nomatch member⟩
    · refine ⟨before, found, after ++ [event], by simp, begins, fun later member => ?_⟩
      rcases List.mem_append.mp member with old | new
      · exact lasts later old
      · exact List.mem_singleton.mp new ▸ goesOn

/-- **What never begins twice ends in between.** -/
theorem Throughout.ends_between
    (once : Throughout (fun before event => began event → ¬Since began ended before) history)
    {before between after : List E} {first second : E}
    (split : history = before ++ first :: (between ++ second :: after))
    (beganFirst : began first) (beganSecond : began second) : ∃ event ∈ between, ended event := by
  by_contra none
  have again : history = (before ++ first :: between) ++ second :: after := by
    rw [split, List.append_assoc, List.cons_append]
  refine once _ _ _ again beganSecond ⟨before, first, between, rfl, beganFirst, ?_⟩
  exact fun later member ends => none ⟨later, member, ends⟩

end AppointmentVoice.Concurrency
