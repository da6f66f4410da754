import AppointmentVoice.Concurrency.Program

/-!
# Programs that are interrupted

An exception can leave a program at any point: a statement fails, or the code between two
statements raises.  What has happened until then is what the statements before that point
have done.  A program that runs alone is interrupted after a number of its statements, at
its end at the latest, or not at all.

There are no handlers here: `Program.tryCatch` has put them into the tree already, so an
interrupted program is one that handles no errors of its own.

**The rule.** `interrupt_keeps`; a run that is interrupted behind its last statement is the
whole run (`interrupt_of_steps_lt`).
-/

set_option autoImplicit false

namespace AppointmentVoice.Concurrency

namespace Program

variable {S : Signature} {ε α β σ : Type} (exec : (stmt : S.Stmt) → σ → S.Answer stmt × σ)
  (fault : ε)

/-- Run a program that is interrupted after so many statements, if it has not ended
before. -/
def interrupt : Program S ε α → Nat → σ → Except ε α × σ
  | .raise error, _, state => (.error error, state)
  | .ret _, 0, state => (.error fault, state)
  | .ret value, _ + 1, state => (.ok value, state)
  | .call _ _, 0, state => (.error fault, state)
  | .call stmt next, left + 1, state =>
      (next (exec stmt state).1).interrupt left (exec stmt state).2

/-- Run a program that is interrupted, or not. -/
def attempt (program : Program S ε α) : Option Nat → σ → Except ε α × σ
  | none, state => program.run exec state
  | some stop, state => program.interrupt exec fault stop state

/-- How many statements a program issues. -/
def steps : Program S ε α → σ → Nat
  | .ret _, _ => 0
  | .raise _, _ => 0
  | .call stmt next, state => (next (exec stmt state).1).steps (exec stmt state).2 + 1

variable {exec fault}

/-- A program that has ended is not interrupted any more. -/
theorem interrupt_of_steps_lt {program : Program S ε α} {stop : Nat} {state : σ}
    (ended : program.steps exec state < stop) :
    program.interrupt exec fault stop state = program.run exec state := by
  induction program generalizing stop state with
  | ret value =>
      cases stop with
      | zero => exact absurd ended (Nat.not_lt_zero _)
      | succ left => rfl
  | raise error => rfl
  | call stmt next ih =>
      cases stop with
      | zero => exact absurd ended (Nat.not_lt_zero _)
      | succ left => exact ih _ (Nat.lt_of_succ_lt_succ ended)

/-- A program that is interrupted raises. -/
theorem interrupt_raises {program : Program S ε α} {stop : Nat} {state : σ}
    (inside : stop ≤ program.steps exec state) :
    ∃ error, (program.interrupt exec fault stop state).1 = .error error := by
  induction program generalizing stop state with
  | ret value =>
      obtain rfl := Nat.le_zero.mp inside
      exact ⟨fault, rfl⟩
  | raise error => exact ⟨error, rfl⟩
  | call stmt next ih =>
      cases stop with
      | zero => exact ⟨fault, rfl⟩
      | succ left => exact ih _ (Nat.le_of_succ_le_succ inside)

/-- A sequence that is interrupted in its first part. -/
theorem interrupt_bind_of_lt {program : Program S ε α} {next : α → Program S ε β} {stop : Nat}
    {state : σ} (inside : stop < program.steps exec state) :
    ∃ error, (program >>= next).interrupt exec fault stop state =
      (.error error, (program.interrupt exec fault stop state).2) := by
  induction program generalizing stop state with
  | ret value => exact absurd inside (Nat.not_lt_zero _)
  | raise error => exact ⟨error, rfl⟩
  | call stmt rest ih =>
      cases stop with
      | zero => exact ⟨fault, rfl⟩
      | succ left => exact ih _ (Nat.lt_of_succ_lt_succ inside)

/-- A sequence goes on with what is left from where its first part has returned. -/
theorem interrupt_bind_of_ok {program : Program S ε α} {next : α → Program S ε β} {stop : Nat}
    {state after : σ} {value : α} (returned : program.run exec state = (.ok value, after))
    (outside : program.steps exec state ≤ stop) :
    (program >>= next).interrupt exec fault stop state =
      (next value).interrupt exec fault (stop - program.steps exec state) after := by
  induction program generalizing stop state with
  | ret found =>
      cases returned
      rfl
  | raise error => cases returned
  | call stmt rest ih =>
      cases stop with
      | zero => exact absurd outside (Nat.not_succ_le_zero _)
      | succ left =>
          rw [steps, Nat.add_sub_add_right]
          exact ih _ returned (Nat.le_of_succ_le_succ outside)

theorem interrupt_bind_of_error {program : Program S ε α} {next : α → Program S ε β} {stop : Nat}
    {state after : σ} {error : ε} (raised : program.run exec state = (.error error, after))
    (outside : program.steps exec state ≤ stop) :
    (program >>= next).interrupt exec fault stop state = (.error error, after) := by
  induction program generalizing stop state with
  | ret found => cases raised
  | raise error =>
      cases raised
      rfl
  | call stmt rest ih =>
      cases stop with
      | zero => exact absurd outside (Nat.not_succ_le_zero _)
      | succ left => exact ih _ raised (Nat.le_of_succ_le_succ outside)

/-- A statement that is not the last thing that happens. -/
theorem interrupt_issue {stmt : S.Stmt} {next : S.Answer stmt → Program S ε β} {left : Nat}
    {state after : σ} {answer : S.Answer stmt} (executed : exec stmt state = (answer, after)) :
    ((issue stmt : Program S ε _) >>= next).interrupt exec fault (left + 1) state =
      (next answer).interrupt exec fault left after := by
  change (next (exec stmt state).1).interrupt exec fault left (exec stmt state).2 = _
  rw [executed]

/-- **The rule for interrupted programs**: what every statement keeps is kept, wherever
the program is interrupted. -/
theorem interrupt_keeps {kept : σ → Prop}
    (keeps : ∀ stmt state, kept state → kept (exec stmt state).2) {program : Program S ε α}
    {stop : Nat} {state : σ} (initial : kept state) :
    kept (program.interrupt exec fault stop state).2 := by
  induction program generalizing stop state with
  | ret value => cases stop <;> exact initial
  | raise error => exact initial
  | call stmt next ih =>
      cases stop with
      | zero => exact initial
      | succ left => exact ih _ (keeps stmt state initial)

/-! ## How programs end -/

/-- A program that runs alone ends after so many statements. -/
structure Ends (exec : (stmt : S.Stmt) → σ → S.Answer stmt × σ) (program : Program S ε α)
    (state : σ) (count : Nat) (result : Except ε α) (after : σ) : Prop where
  run : program.run exec state = (result, after)
  steps : program.steps exec state = count

namespace Ends

theorem ret {value : α} {state : σ} :
    Ends exec (.ret value : Program S ε α) state 0 (.ok value) state := ⟨rfl, rfl⟩

theorem raise {error : ε} {state : σ} :
    Ends exec (.raise error : Program S ε α) state 0 (.error error) state := ⟨rfl, rfl⟩

/-- A statement, and what comes after it. -/
theorem issue {stmt : S.Stmt} {next : S.Answer stmt → Program S ε β} {state middle after : σ}
    {answer : S.Answer stmt} {count : Nat} {result : Except ε β}
    (executed : exec stmt state = (answer, middle))
    (rest : Ends exec (next answer) middle count result after) :
    Ends exec ((Program.issue stmt : Program S ε _) >>= next) state (count + 1) result after := by
  constructor
  · change (next (exec stmt state).1).run exec (exec stmt state).2 = _
    rw [executed]
    exact rest.run
  · change (next (exec stmt state).1).steps exec (exec stmt state).2 + 1 = _
    rw [executed, rest.steps]

theorem bind {program : Program S ε α} {next : α → Program S ε β} {state middle after : σ}
    {value : α} {first count : Nat} {result : Except ε β}
    (returned : Ends exec program state first (.ok value) middle)
    (rest : Ends exec (next value) middle count result after) :
    Ends exec (program >>= next) state (first + count) result after := by
  induction program generalizing state first with
  | ret found =>
      obtain ⟨run, steps⟩ := returned
      cases run
      obtain rfl : 0 = first := steps
      rw [Nat.zero_add]
      exact rest
  | raise error => cases returned.run
  | call stmt next' ih =>
      obtain ⟨run, steps⟩ := returned
      obtain rfl : (next' (exec stmt state).1).steps exec (exec stmt state).2 + 1 = first := steps
      obtain ⟨ranToo, stepsToo⟩ := ih _ ⟨run, rfl⟩
      refine ⟨ranToo, ?_⟩
      rw [Nat.add_right_comm]
      exact congrArg (· + 1) stepsToo

theorem bind_error {program : Program S ε α} {next : α → Program S ε β} {state after : σ}
    {error : ε} {count : Nat} (raised : Ends exec program state count (.error error) after) :
    Ends exec (program >>= next) state count (.error error) after := by
  induction program generalizing state count with
  | ret found => cases raised.run
  | raise found =>
      obtain ⟨run, steps⟩ := raised
      cases run
      exact ⟨rfl, steps⟩
  | call stmt next' ih =>
      obtain ⟨run, steps⟩ := raised
      obtain rfl : (next' (exec stmt state).1).steps exec (exec stmt state).2 + 1 = count := steps
      obtain ⟨ranToo, stepsToo⟩ := ih _ ⟨run, rfl⟩
      exact ⟨ranToo, congrArg (· + 1) stepsToo⟩

end Ends

end Program

end AppointmentVoice.Concurrency
