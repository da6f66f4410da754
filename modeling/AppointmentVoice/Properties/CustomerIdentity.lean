import AppointmentVoice.Customers.Identities

/-!
# One customer for each phone

The index over the normalized phones lets at most one row in for each of them, so whoever
loses the race reads the row of the winner.  An erased customer is found no more.

A lookup that has read a customer, or made him, still returns him when he is erased before
it ends.

**Lookups.** A call that comes later finds the same customer (`Kept.agrees`), and nobody finds
whoever is erased already (`Kept.away`).

**The result.** `customers_keep_identity`, over all runs; `lookup_returns_erased_customer` is a
lookup that the erasure overtakes.
-/

set_option autoImplicit false

namespace AppointmentVoice.Customers

open Concurrency Program

/-! ## Runs -/

abbrev CustomerRun : CustomerConfig → CustomerConfig → Prop := Runs customerMachine fun _ _ => True

/-- What holds of every configuration of a run; a call that has ended knows what it knew. -/
structure Kept (config : CustomerConfig) : Prop where
  watched : config.Watched customerWatch
  identities : Identities config.world config.progress
  remembered : ∀ outcome ∈ config.finished,
    (customerWatch.state outcome.call outcome.log).Knows config.world.db.customers

section Runs

variable {config later : CustomerConfig} {action : CustomerAction}

theorem Kept.moves (kept : Kept config) (taken : Step customerMachine config action later) :
    Evolves config.world.db.customers later.world.db.customers ∧
      Identities later.world later.progress := by
  have same := Evolves.refl config.world.db.customers
  cases kept.watched.staged taken .idle with
  | @start pid call idle world stages =>
      have progress : later.progress = _ := stages
      rw [progress, world]
      exact ⟨same, kept.identities.release pid⟩
  | @issue pid call stmt next log answer running allowed executed stages =>
      have progress : later.progress = _ := stages
      obtain ⟨free, effect⟩ := execCustomer_some executed
      obtain ⟨rfl, world⟩ := Prod.mk.inj effect
      obtain ⟨-, evolves, identities⟩ := kept.identities.issue stmt allowed free
      rw [progress, ← world]
      exact ⟨evolves, identities⟩
  | @finish pid call result met world stages =>
      have progress : later.progress = _ := stages
      rw [progress, world]
      exact ⟨same, kept.identities.release pid⟩
  | @stop pid world stages =>
      have progress : later.progress = _ := stages
      rw [progress, world]
      exact ⟨same, kept.identities.release pid⟩
  | ambient changed stages =>
      have progress : later.progress = _ := stages
      have world : later.world = config.world := changed
      rw [progress, world]
      exact ⟨same, kept.identities⟩

theorem Kept.step (kept : Kept config) (taken : Step customerMachine config action later) :
    Kept later := by
  obtain ⟨evolves, identities⟩ := kept.moves taken
  have remembered : ∀ outcome ∈ config.finished,
      (customerWatch.state outcome.call outcome.log).Knows later.world.db.customers :=
    fun outcome member => (kept.remembered outcome member).evolves evolves
  refine ⟨kept.watched.step taken performCustomer_along ?_, identities, ?_⟩
  · rintro pid call stmt next log answer world rfl running executed
    obtain ⟨free, effect⟩ := execCustomer_some executed
    obtain ⟨rfl, -⟩ := Prod.mk.inj effect
    have along := kept.watched.running pid _ running
    have here : config.progress pid = customerWatch.state call log := Config.stages_running running
    cases along with
    | call allowed rest => exact (kept.identities.issue stmt (here ▸ allowed) free).1
  · cases taken with
    | @finish pid process result running ended =>
        intro outcome member
        rcases List.mem_append.mp member with old | new
        · exact remembered outcome old
        · rw [List.mem_singleton.mp new]
          have here : config.progress pid = customerWatch.state process.call process.log :=
            Config.stages_running running
          exact here ▸ (kept.identities.knows pid).evolves evolves
    | start call idle => exact remembered
    | issue running executed => exact remembered
    | stop running => exact remembered
    | ambient changed => exact remembered

theorem Kept.runs (kept : Kept config) (runs : CustomerRun config later) :
    Kept later ∧ Evolves config.world.db.customers later.world.db.customers := by
  induction runs with
  | refl => exact ⟨kept, .refl _⟩
  | tail _ last ih =>
      obtain ⟨action, -, taken⟩ := last
      obtain ⟨kept, evolved⟩ := ih
      refine ⟨kept.step taken, fun row member => ?_⟩
      obtain ⟨middle, there, same, keeps, still⟩ := evolved row member
      obtain ⟨last, thereToo, sameToo, keepsToo, stillToo⟩ := (kept.moves taken).1 middle there
      refine ⟨last, thereToo, sameToo.trans same, ?_, fun erased => stillToo (still erased)⟩
      rcases keeps with key | erased
      · rw [← key]
        exact keepsToo
      · exact .inr (stillToo erased)

/-- Who is newly found is in the table under the key, with a phone that somebody can have. -/
theorem Kept.finds (kept : Kept config)
    (taken : Step customerMachine config action later) {pid : Pid}
    {id : Nat} {key : PhoneKey} (found : later.progress pid = .found id key) :
    config.progress pid = .found id key ∨
      ∃ row ∈ later.world.db.customers, row.id = id ∧ keyOf row = key ∧
        Dialled row.phoneNormalized := by
  have rests : ∀ other, later.progress = Function.update config.progress other .idle →
      config.progress pid = .found id key := by
    intro other progress
    rw [progress] at found
    by_cases same : pid = other
    · rw [same, Function.update_self] at found
      cases found
    · rwa [Function.update_of_ne same] at found
  cases kept.watched.staged taken .idle with
  | @start other call idle world stages => exact .inl (rests other stages)
  | @finish other call result met world stages => exact .inl (rests other stages)
  | @stop other world stages => exact .inl (rests other stages)
  | ambient changed stages => exact .inl ((congrFun stages pid).symm.trans found)
  | @issue other call stmt next log answer running allowed executed stages =>
      have progress : later.progress = _ := stages
      obtain ⟨free, effect⟩ := execCustomer_some executed
      obtain ⟨rfl, world⟩ := Prod.mk.inj effect
      rw [progress] at found
      by_cases same : pid = other
      · subst same
        rw [Function.update_self] at found
        rw [← world]
        exact kept.identities.finds stmt allowed found
      · rw [Function.update_of_ne same] at found
        exact .inl found

/-- **Whoever is erased is found no more** by a call that has not found him yet. -/
theorem Kept.away (kept : Kept config) {pid : Pid} {id : Nat}
    (erased : ErasedIn config.world.db.customers id)
    (unfound : ∀ key, config.progress pid ≠ .found id key) (runs : CustomerRun config later) :
    ∀ key, later.progress pid ≠ .found id key := by
  induction runs with
  | refl => exact unfound
  | @tail middle last earlier step ih =>
      obtain ⟨action, -, taken⟩ := step
      obtain ⟨keptMiddle, evolves⟩ := kept.runs earlier
      intro key found
      rcases keptMiddle.finds taken found with old | ⟨row, member, same, -, dialled⟩
      · exact ih key old
      · have keptLast := keptMiddle.step taken
        obtain ⟨other, there, sameToo, scrubbed⟩ :=
          (keptMiddle.moves taken).1.erased (evolves.erased erased)
        obtain rfl := eq_of_id keptLast.identities.apart member there (same.trans sameToo.symm)
        rw [show row.phoneNormalized = deletedPhone row.id from scrubbed] at dialled
        exact deletedPhone_not_dialled row.id dialled

/-- **Whoever looks for the same phone later finds the same customer**, unless he is erased. -/
theorem Kept.agrees (kept : Kept config) {pid : Pid} {id : Nat} {key : PhoneKey}
    (known : Progress.Knows config.world.db.customers (.found id key))
    (idle : config.progress pid = .idle) (runs : CustomerRun config later) :
    ∀ other, later.progress pid = .found other key →
      id = other ∨ ErasedIn later.world.db.customers id := by
  induction runs with
  | refl =>
      intro other found
      rw [idle] at found
      cases found
  | @tail middle last earlier step ih =>
      obtain ⟨action, -, taken⟩ := step
      obtain ⟨keptMiddle, evolves⟩ := kept.runs earlier
      have evolvesToo := (keptMiddle.moves taken).1
      intro other found
      rcases keptMiddle.finds taken found with old | ⟨row, member, rfl, hasKey, -⟩
      · exact (ih other old).imp_right evolvesToo.erased
      · obtain ⟨first, there, same, has⟩ := (known.evolves evolves).evolves evolvesToo
        rcases has with key | erased
        · obtain rfl := eq_of_key (keptMiddle.step taken).identities.apart there member
            (key.trans hasKey.symm)
          exact .inl same.symm
        · exact .inr ⟨first, there, same, erased⟩

end Runs

/-! ## The theorem -/

/-- The customers as the service leaves them: no two are taken to be one, and each has a
number of the sequence, and a phone that somebody can have or the one of an erased customer. -/
structure Ready (customers : List Customer) (nextId : Nat) : Prop where
  apart : customers.Pairwise Apart
  shaped : ∀ row ∈ customers, Shaped nextId row

/-- What holds of a configuration and a later one. -/
structure IdentityKept (before after : CustomerConfig) : Prop where
  /-- In one salon a normalized phone belongs to one customer. -/
  unique : ∀ row ∈ after.world.db.customers, ∀ other ∈ after.world.db.customers,
    keyOf row = keyOf other → row = other
  /-- Calls that have looked for one phone have found one customer, or one of the two is erased. -/
  same : ∀ first ∈ after.finished, ∀ second ∈ after.finished, ∀ key row other,
    first.call.sought = some key → second.call.sought = some key → first.result = .ok (some row) →
      second.result = .ok (some other) → row.id = other.id ∨
        ErasedIn after.world.db.customers row.id ∨ ErasedIn after.world.db.customers other.id
  /-- A call that starts after another has ended finds his customer, or he has been erased. -/
  between : ∀ first ∈ before.finished, ∀ key row, first.call.sought = some key →
    first.result = .ok (some row) → ∀ pid call other log, before.running pid = none →
      call.sought = some key → after.running pid = some ⟨call, .ret (some other), log⟩ →
        row.id = other.id ∨ ErasedIn after.world.db.customers row.id
  /-- An erasure that has committed has erased its customer. -/
  erases : (∀ pid id, after.progress pid = .scrubbed id → ErasedIn after.world.db.customers id) ∧
    ∀ outcome ∈ after.finished, ∀ id reply, outcome.call.erases = some id →
      outcome.result = .ok reply → ErasedIn after.world.db.customers id
  /-- A call that has not found an erased customer yet does not return him. -/
  away : ∀ id, ErasedIn before.world.db.customers id →
    ∀ pid, (∀ key, before.progress pid ≠ .found id key) → ∀ call key row log,
      call.sought = some key →
      after.running pid = some ⟨call, .ret (some row), log⟩ → row.id ≠ id
  /-- The index refuses no erasure. -/
  unrefused : ∀ outcome ∈ after.finished, ∀ id, outcome.call.erases = some id →
    outcome.result ≠ .error .integrity

/-- A call that returns a customer has found him for its key. -/
theorem Kept.returns {config : CustomerConfig} (kept : Kept config) {pid : Pid}
    {call : CustomerCall}
    {key : PhoneKey} {row : Customer} {log : List (Event CustomerSql)}
    (sought : call.sought = some key)
    (running : config.running pid = some ⟨call, .ret (some row), log⟩) :
    config.progress pid = .found row.id key := by
  have along := kept.watched.running pid _ running
  have here : config.progress pid = customerWatch.state call log := Config.stages_running running
  cases along with
  | ret met => exact here.trans (met.1 key row sought rfl)

theorem Kept.same {config : CustomerConfig} (kept : Kept config) :
    ∀ first ∈ config.finished, ∀ second ∈ config.finished, ∀ key row other,
      first.call.sought = some key → second.call.sought = some key → first.result = .ok (some row) →
        second.result = .ok (some other) → row.id = other.id ∨
          ErasedIn config.world.db.customers row.id ∨
            ErasedIn config.world.db.customers other.id := by
  intro first member second memberToo key row other sought soughtToo returned returnedToo
  have knows := kept.remembered first member
  have knowsToo := kept.remembered second memberToo
  rw [(kept.watched.finished first member).1 key row sought returned] at knows
  rw [(kept.watched.finished second memberToo).1 key other soughtToo returnedToo] at knowsToo
  obtain ⟨found, there, sameId, has⟩ := knows
  obtain ⟨foundToo, thereToo, sameIdToo, hasToo⟩ := knowsToo
  rcases has with hasKey | erased
  · rcases hasToo with hasKeyToo | erased
    · obtain rfl := eq_of_key kept.identities.apart there thereToo (hasKey.trans hasKeyToo.symm)
      exact .inl (sameId.symm.trans sameIdToo)
    · exact .inr (.inr ⟨foundToo, thereToo, sameIdToo, erased⟩)
  · exact .inr (.inl ⟨found, there, sameId, erased⟩)

theorem Ready.kept {db : CustomerDb} {nextId : Nat} (ready : Ready db.customers nextId) :
    Kept (Config.initial (CustomerWorld.start db nextId)) where
  watched := .initial _ _
  identities := {
    writes := fun _ => rfl
    apart := ready.apart
    shaped := ready.shaped
    inserted := fun _ _ inserting => nomatch inserting
    insertedApart := fun _ _ _ _ _ inserting => nomatch inserting
    knows := fun _ => trivial }
  remembered := fun _ member => nomatch member

/-- **One customer for each phone**, over all runs. -/
theorem customers_keep_identity (db : CustomerDb) (nextId : Nat) (ready : Ready db.customers nextId)
    {before after : CustomerConfig}
    (runs : CustomerRun (Config.initial (CustomerWorld.start db nextId)) before)
    (later : CustomerRun before after) : IdentityKept before after := by
  have kept := (ready.kept.runs runs).1
  obtain ⟨keptAfter, evolves⟩ := kept.runs later
  have knows := keptAfter.identities.knows
  refine ⟨fun row member other memberToo => eq_of_key keptAfter.identities.apart member memberToo,
    keptAfter.same, ?_, ⟨fun pid id scrubbed => ?_, ?_⟩, ?_, ?_⟩
  · intro first member key row sought returned pid call other log idle soughtToo running
    have known := kept.remembered first member
    rw [(kept.watched.finished first member).1 key row sought returned] at known
    exact kept.agrees known (Config.stages_idle idle) later other.id
      (keptAfter.returns soughtToo running)
  · have erased := knows pid
    rw [scrubbed] at erased
    exact erased
  · intro outcome member id reply erases returned
    have known := keptAfter.remembered outcome member
    rw [((keptAfter.watched.finished outcome member).2 id erases).2 reply returned] at known
    exact known
  · intro id erased pid unfound call key row log sought running same
    exact kept.away erased unfound later key (same ▸ keptAfter.returns sought running)
  · intro outcome member id erases
    exact ((keptAfter.watched.finished outcome member).2 id erases).1

/-! ## A salon with a caller -/

/-- A salon without customers. -/
def quietSalon : CustomerDb where
  businesses := [⟨1, 1, "Salon", "UTC", "en", none, none, false, .businessPhone, .internalBooking,
    none, none⟩]
  customers := []
  clients := []
  audits := []

/-- Two calls with one phone, written in two ways. -/
def firstCall : CustomerCall := .getOrCreateCustomer 1 1 "+48 600 100 200" (some "Anna")

def secondCall : CustomerCall := .getOrCreateCustomer 1 1 "+48600100200" none

/-- Both look before either inserts; the second loses the race and reads again. -/
def race : List CustomerAction :=
  [.start 0 firstCall, .start 1 secondCall, .issue 0, .issue 1, .issue 0, .issue 1, .issue 0,
    .issue 0, .issue 1, .issue 1, .issue 1, .issue 0, .finish 0, .finish 1]

/-- The erasure of the customer. -/
def erasure : List CustomerAction :=
  .start 2 (.gdprDeleteCustomer 1 1 1 none) :: List.replicate 6 (.issue 2) ++ [.finish 2]

theorem race_possible : ((Config.initial (CustomerWorld.start quietSalon 1)).runActions
    customerMachine race).isSome = true := by
  decide +kernel

/-- The salon after the two calls. -/
def raced : CustomerConfig :=
  ((Config.initial (CustomerWorld.start quietSalon 1)).runActions customerMachine race).get
    race_possible

theorem erasure_possible : (raced.runActions customerMachine erasure).isSome = true := by
  decide +kernel

/-- The salon after the erasure. -/
def erased : CustomerConfig := (raced.runActions customerMachine erasure).get erasure_possible

theorem quietSalon_ready : Ready quietSalon.customers 1 := ⟨.nil, fun _ member => nomatch member⟩

theorem race_finds_one_customer : IdentityKept raced erased ∧
    raced.finished.map (fun outcome => outcome.result.toOption.join.map (·.id)) = [some 1, some 1] ∧
      erased.world.db.customers.map keyOf = [(1, "deleted-1")] := by
  have runs : CustomerRun (Config.initial (CustomerWorld.start quietSalon 1)) raced :=
    .of_runActions race (Option.some_get race_possible).symm
  have later : CustomerRun raced erased :=
    .of_runActions erasure (Option.some_get erasure_possible).symm
  exact ⟨customers_keep_identity quietSalon 1 quietSalon_ready runs later, by decide +kernel,
    by decide +kernel⟩

/-- The caller is made and committed, and erased before the call has refreshed him. -/
def erasedInBetween : List CustomerAction :=
  .start 0 firstCall :: List.replicate 4 (.issue 0) ++ erasure

theorem erasedInBetween_possible : ((Config.initial (CustomerWorld.start quietSalon 1)).runActions
    customerMachine erasedInBetween).isSome = true := by
  decide +kernel

/-- The salon once the erasure has ended. -/
def forgotten : CustomerConfig :=
  ((Config.initial (CustomerWorld.start quietSalon 1)).runActions customerMachine
    erasedInBetween).get
    erasedInBetween_possible

theorem refresh_possible : (forgotten.runActions customerMachine [.issue 0]).isSome = true := by
  decide +kernel

/-- The salon when the call is about to return. -/
def recalled : CustomerConfig :=
  (forgotten.runActions customerMachine [.issue 0]).get refresh_possible

/-- The customer that a process is about to return, with its call. -/
def CustomerConfig.returned (config : CustomerConfig) (pid : Pid) :
    Option (CustomerCall × Customer) :=
  match config.running pid with
  | some ⟨made, .ret (some row), _⟩ => some (made, row)
  | _ => none

theorem CustomerConfig.running_of_returned {config : CustomerConfig} {pid : Pid}
    {call : CustomerCall}
    {row : Customer} (returned : config.returned pid = some (call, row)) :
    ∃ log, config.running pid = some ⟨call, .ret (some row), log⟩ := by
  unfold CustomerConfig.returned at returned
  split at returned
  · next log running =>
      cases returned
      exact ⟨_, running⟩
  · cases returned

/-- The erasure of customer 1 has committed and ended, and a lookup that made him before
returns him after it. -/
theorem lookup_returns_erased_customer : ∃ (row : Customer) (log : List (Event CustomerSql)),
    CustomerRun (Config.initial (CustomerWorld.start quietSalon 1)) forgotten ∧
      (∃ outcome ∈ forgotten.finished, outcome.call.erases = some 1 ∧
        outcome.result.toOption.isSome = true) ∧
        CustomerRun forgotten recalled ∧
          recalled.running 0 = some ⟨firstCall, .ret (some row), log⟩ ∧ row.id = 1 := by
  have returned : CustomerConfig.returned recalled 0 =
      some (firstCall, ⟨1, 1, 1, "deleted", "deleted-1", none⟩) := by
    decide +kernel
  obtain ⟨log, running⟩ := CustomerConfig.running_of_returned returned
  exact ⟨_, log, .of_runActions erasedInBetween (Option.some_get erasedInBetween_possible).symm,
    by decide +kernel, .of_runActions [.issue 0] (Option.some_get refresh_possible).symm, running,
      rfl⟩

end AppointmentVoice.Customers
