import Mathlib

/-!
# Programs that issue atomic statements

A service function talks to a store one statement at a time: it sends a
statement, waits for the answer, and goes on with a continuation chosen by that
answer.  Between two statements other programs may run.  A program is therefore
a well-founded tree whose inner nodes are statements and whose branches are the
answers, and whose leaves either return a value or raise an error.

Nothing here says what a statement does.  The same tree is run alone by a
sequential interpreter and stepped by a machine that interleaves many programs,
so a function is translated once for both readings.

A run of a bind is the run of its parts (`run_bind`), and so is that of a handler
(`run_tryCatch`).
-/

set_option autoImplicit false

namespace AppointmentVoice.Concurrency

/-- The atomic statements of a store, each with the type of its answer. -/
structure Signature where
  Stmt : Type
  Answer : Stmt → Type

/-- A program over a signature: it returns, raises, or issues one statement and
continues with the answer. -/
inductive Program (S : Signature) (ε α : Type) : Type where
  | ret (value : α)
  | raise (error : ε)
  | call (stmt : S.Stmt) (next : S.Answer stmt → Program S ε α)

/-- One statement with the answer it got. -/
abbrev Event (S : Signature) : Type := (stmt : S.Stmt) × S.Answer stmt

namespace Program

variable {S : Signature} {ε α β γ : Type}

/-- Issue one statement and return its answer. -/
def issue (stmt : S.Stmt) : Program S ε (S.Answer stmt) := .call stmt .ret

/-- Sequencing: the continuation takes over at every returning leaf. -/
def bind : Program S ε α → (α → Program S ε β) → Program S ε β
  | .ret value, next => next value
  | .raise error, _ => .raise error
  | .call stmt rest, next => .call stmt fun answer => (rest answer).bind next

/-- `try … except`: the handler takes over at every raising leaf. -/
def tryCatch : Program S ε α → (ε → Program S ε α) → Program S ε α
  | .ret value, _ => .ret value
  | .raise error, handler => handler error
  | .call stmt rest, handler => .call stmt fun answer => (rest answer).tryCatch handler

instance : Monad (Program S ε) where
  pure := .ret
  bind := bind

instance : MonadExceptOf ε (Program S ε) where
  throw := .raise
  tryCatch := tryCatch

@[simp] theorem pure_eq_ret (value : α) : (pure value : Program S ε α) = .ret value := rfl

@[simp] theorem throw_eq_raise (error : ε) : (throw error : Program S ε α) = .raise error := rfl

@[simp] theorem ret_bind (value : α) (next : α → Program S ε β) :
    (Program.ret value : Program S ε α) >>= next = next value := rfl

@[simp] theorem raise_bind (error : ε) (next : α → Program S ε β) :
    (Program.raise error : Program S ε α) >>= next = .raise error := rfl

@[simp] theorem call_bind (stmt : S.Stmt) (rest : S.Answer stmt → Program S ε α)
    (next : α → Program S ε β) :
    (Program.call stmt rest) >>= next = .call stmt fun answer => rest answer >>= next := rfl

@[simp] theorem issue_bind (stmt : S.Stmt) (next : S.Answer stmt → Program S ε β) :
    (issue stmt : Program S ε _) >>= next = .call stmt next := rfl

@[simp] theorem tryCatch_ret (value : α) (handler : ε → Program S ε α) :
    MonadExcept.tryCatch (Program.ret value : Program S ε α) handler = .ret value := rfl

@[simp] theorem tryCatch_raise (error : ε) (handler : ε → Program S ε α) :
    MonadExcept.tryCatch (Program.raise error : Program S ε α) handler = handler error := rfl

@[simp] theorem tryCatch_call (stmt : S.Stmt) (rest : S.Answer stmt → Program S ε α)
    (handler : ε → Program S ε α) :
    MonadExcept.tryCatch (Program.call stmt rest) handler =
      .call stmt fun answer => MonadExcept.tryCatch (rest answer) handler := rfl

instance : LawfulMonad (Program S ε) := by
  refine LawfulMonad.mk' _ ?_ ?_ ?_
  · intro α program
    induction program with
    | ret value => rfl
    | raise error => rfl
    | call stmt rest ih =>
        change Program.call stmt _ = Program.call stmt _
        congr 1
        funext answer
        exact ih answer
  · intro α β value next
    rfl
  · intro α β γ program first second
    induction program with
    | ret value => rfl
    | raise error => rfl
    | call stmt rest ih =>
        change Program.call stmt _ = Program.call stmt _
        congr 1
        funext answer
        exact ih answer

/-! ## Running a program alone -/

section Run

variable {σ : Type} (exec : (stmt : S.Stmt) → σ → S.Answer stmt × σ)

/-- Run a program to its end on a state that nobody else changes. -/
def run : Program S ε α → σ → Except ε α × σ
  | .ret value, state => (.ok value, state)
  | .raise error, state => (.error error, state)
  | .call stmt next, state => (next (exec stmt state).1).run (exec stmt state).2

@[simp] theorem run_ret (value : α) (state : σ) :
    (Program.ret value : Program S ε α).run exec state = (.ok value, state) := rfl

@[simp] theorem run_raise (error : ε) (state : σ) :
    (Program.raise error : Program S ε α).run exec state = (.error error, state) := rfl

@[simp] theorem run_call (stmt : S.Stmt) (next : S.Answer stmt → Program S ε α) (state : σ) :
    (Program.call stmt next).run exec state =
      (next (exec stmt state).1).run exec (exec stmt state).2 := rfl

/-- A sequence runs its first part and goes on from where that has returned. -/
theorem run_bind (program : Program S ε α) (next : α → Program S ε β) (state : σ) :
    (program >>= next).run exec state =
      match program.run exec state with
      | (.ok value, after) => (next value).run exec after
      | (.error error, after) => (.error error, after) := by
  induction program generalizing state with
  | ret value => rfl
  | raise error => rfl
  | call stmt rest ih => exact ih (exec stmt state).1 (exec stmt state).2

/-- `try … except` runs its body and hands an error to the handler. -/
theorem run_tryCatch (program : Program S ε α) (handler : ε → Program S ε α) (state : σ) :
    (MonadExcept.tryCatch program handler).run exec state =
      match program.run exec state with
      | (.ok value, after) => (.ok value, after)
      | (.error error, after) => (handler error).run exec after := by
  induction program generalizing state with
  | ret value => rfl
  | raise error => rfl
  | call stmt rest ih => exact ih (exec stmt state).1 (exec stmt state).2

end Run

end Program

end AppointmentVoice.Concurrency
