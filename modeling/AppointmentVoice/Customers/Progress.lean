import AppointmentVoice.Concurrency.Paths
import AppointmentVoice.Customers.Services

/-!
# What the calls of the customer service come to

No phone normalizes to that of an erased customer, and no two of them have one phone.  A
call that looks for a phone finds a customer for its key or commits one, and an erasure has
scrubbed the customer that it has read when it commits.
-/

set_option autoImplicit false

namespace AppointmentVoice.Customers

open Concurrency Program

/-! ## Phones of erased customers -/

/-- The text is what some phone normalizes to. -/
def Dialled (text : String) : Prop := ∃ phone, text = normalizePhone phone

/-- **No phone normalizes to that of an erased customer.** -/
theorem deletedPhone_not_dialled (id : Nat) : ¬Dialled (deletedPhone id) := by
  rintro ⟨phone, same⟩
  have first : 'd' ∈ (deletedPhone id).toList := by
    rw [deletedPhone, String.toList_append]
    exact List.mem_append_left _ (by decide)
  rw [same, normalizePhone, String.toList_ofList] at first
  exact absurd (List.mem_filter.mp first).2 (by decide)

/-- Erased customers have different phones. -/
theorem deletedPhone_injective {id other : Nat} (same : deletedPhone id = deletedPhone other) :
    id = other := by
  have digits : Nat.toDigits 10 id = Nat.toDigits 10 other := by
    have lists := congrArg String.toList same
    rw [deletedPhone, deletedPhone, String.toList_append, String.toList_append,
      List.append_cancel_left_eq, Nat.toString_eq_repr, Nat.toString_eq_repr, Nat.toList_repr,
      Nat.toList_repr] at lists
    exact lists
  calc
    id = Nat.ofDigitChars 10 (Nat.toDigits 10 id) 0 := Nat.ofDigitChars_ten_toDigits.symm
    _ = Nat.ofDigitChars 10 (Nat.toDigits 10 other) 0 := by rw [digits]
    _ = other := Nat.ofDigitChars_ten_toDigits

/-! ## Rows -/

/-- Neither the primary key nor the index takes the two rows to be one. -/
def Apart (row other : Customer) : Prop := row.id ≠ other.id ∧ keyOf row ≠ keyOf other

/-- The row has the phone of an erased customer. -/
def Erased (row : Customer) : Prop := row.phoneNormalized = deletedPhone row.id

/-- The customer is erased. -/
def ErasedIn (customers : List Customer) (id : Nat) : Prop :=
  ∃ row ∈ customers, row.id = id ∧ Erased row

theorem Apart.symm {row other : Customer} (apart : Apart row other) : Apart other row :=
  ⟨apart.1.symm, apart.2.symm⟩

/-- Rows that are there before are there after, with their key or erased. -/
def Evolves (before after : List Customer) : Prop :=
  ∀ row ∈ before, ∃ later ∈ after, later.id = row.id ∧ (keyOf later = keyOf row ∨ Erased later) ∧
    (Erased row → Erased later)

section Rows

variable {customers before after : List Customer} {row other : Customer} {id : Nat}

theorem Evolves.refl (customers : List Customer) : Evolves customers customers :=
  fun row member => ⟨row, member, rfl, .inl rfl, fun erased => erased⟩

theorem Evolves.erased (evolves : Evolves before after) (erased : ErasedIn before id) :
    ErasedIn after id := by
  obtain ⟨row, member, rfl, scrubbed⟩ := erased
  obtain ⟨later, there, same, -, still⟩ := evolves row member
  exact ⟨later, there, same, still scrubbed⟩

theorem eq_of_not_apart (apart : customers.Pairwise Apart) (member : row ∈ customers)
    (memberToo : other ∈ customers) (same : ¬Apart row other) : row = other := by
  by_contra different
  have either : ∀ row ∈ customers, ∀ other ∈ customers, row ≠ other → Apart row other := by
    intro row first other second
    refine List.Pairwise.forall_of_forall_of_flip
      (R := fun row other => row ≠ other → Apart row other)
      (fun _ _ distinct => absurd rfl distinct)
      (apart.imp ?_) (apart.imp ?_) first second
    · exact fun apart _ => apart
    · exact fun apart _ => apart.symm
  exact same (either row member other memberToo different)

theorem eq_of_id (apart : customers.Pairwise Apart) (member : row ∈ customers)
    (memberToo : other ∈ customers) (same : row.id = other.id) : row = other :=
  eq_of_not_apart apart member memberToo fun apart => apart.1 same

theorem eq_of_key (apart : customers.Pairwise Apart) (member : row ∈ customers)
    (memberToo : other ∈ customers) (same : keyOf row = keyOf other) : row = other :=
  eq_of_not_apart apart member memberToo fun apart => apart.2 same

end Rows

/-! ## What a call has come to -/

/-- A call has found a customer for a key, or its row is not committed yet; an erasure has
read its customer, has scrubbed him, or has committed. -/
inductive Progress where
  | idle
  | inserted (row : Customer)
  | found (id : Nat) (key : PhoneKey)
  | read (row : Customer)
  | scrubbing (id : Nat) (change : CustomerChange)
  | scrubbed (id : Nat)

namespace Progress

/-- The uncommitted writes to the customers. -/
def writes : Progress → List CustomerWrite
  | .inserted row => [.insertCustomer row]
  | .scrubbing id change => [.updateCustomer id change]
  | _ => []

/-- What a commit makes of it. -/
def committed : Progress → Progress
  | .inserted row => .found row.id (keyOf row)
  | .read row => .scrubbed row.id
  | .scrubbing id _ => .scrubbed id
  | progress => progress

/-- What a call knows after an event. -/
def learn (progress : Progress) : Event CustomerSql → Progress
  | ⟨.select (.customerByPhone businessId _ phoneNormalized), some row⟩ =>
      .found row.id (businessId, phoneNormalized)
  | ⟨.select (.customer _ _), some row⟩ => .read row
  | ⟨.insertCustomer draft, .inserted id⟩ => .inserted (draft id)
  | ⟨.update (.updateCustomer id change), _⟩ => .scrubbing id change
  | ⟨.commit, _⟩ => progress.committed
  | _ => progress

/-- The statements of a call: it looks for what a phone normalizes to, inserts a row with
such a phone, and scrubs the customer that it has read. -/
def must (progress : Progress) : CustomerStmt → Prop
  | .select (.customerByPhone _ _ phoneNormalized) => progress = .idle ∧ Dialled phoneNormalized
  | .select (.customer _ _) => progress = .idle
  | .insertCustomer draft => progress = .idle ∧
      ∀ id, (draft id).id = id ∧ Dialled (draft id).phoneNormalized
  | .update (.updateCustomer id change) => ∃ row, progress = .read row ∧ id = row.id ∧
      change = scrubCustomer row
  | .update (.updateClient _ _) => True
  | .update _ => False
  | .commit => ∀ row, progress = .read row → Erased row
  | .rollback => progress = .idle
  | _ => True

/-- The answers that are possible: the row that is asked for, and no update is refused. -/
def may : Event CustomerSql → Prop
  | ⟨.select (.customer id _), some row⟩ => row.id = id
  | ⟨.select (.customerByPrimaryKey id), some row⟩ => row.id = id
  | ⟨.update _, updated⟩ => updated = true
  | _ => True

/-- What is known of the committed customers. -/
def Knows (customers : List Customer) : Progress → Prop
  | .found id key => ∃ row ∈ customers, row.id = id ∧ (keyOf row = key ∨ Erased row)
  | .read row => ∃ other ∈ customers, other.id = row.id ∧ (Erased row → Erased other)
  | .scrubbing id change => ∃ row ∈ customers, row.id = id ∧
      (change.phoneNormalized = some (deletedPhone id) ∨ change.phoneNormalized = none ∧ Erased row)
  | .scrubbed id => ErasedIn customers id
  | _ => True

theorem Knows.evolves {before after : List Customer} {progress : Progress}
    (knows : progress.Knows before) (evolves : Evolves before after) : progress.Knows after := by
  cases progress with
  | idle => exact trivial
  | inserted row => exact trivial
  | found id key =>
      obtain ⟨row, member, same, has⟩ := knows
      obtain ⟨later, there, sameToo, keeps, still⟩ := evolves row member
      refine ⟨later, there, sameToo.trans same, ?_⟩
      rcases has with rfl | erased
      · exact keeps
      · exact .inr (still erased)
  | read row =>
      obtain ⟨other, member, same, has⟩ := knows
      obtain ⟨later, there, sameToo, -, still⟩ := evolves other member
      exact ⟨later, there, sameToo.trans same, fun erased => still (has erased)⟩
  | scrubbing id change =>
      obtain ⟨row, member, same, has⟩ := knows
      obtain ⟨later, there, sameToo, -, still⟩ := evolves row member
      exact ⟨later, there, sameToo.trans same, has.imp (fun sent => sent) fun kept =>
        ⟨kept.1, still kept.2⟩⟩
  | scrubbed id => exact evolves.erased knows

end Progress

/-! ## The programs of the calls -/

/-- The key that a call looks for. -/
def CustomerCall.sought : CustomerCall → Option PhoneKey
  | .getOrCreateCustomer _ businessId phone _ => some (businessId, normalizePhone phone)
  | .getCustomerByPhone businessId _ phone => some (businessId, normalizePhone phone)
  | .gdprDeleteCustomer _ _ _ _ => none

/-- The customer that a call erases. -/
def CustomerCall.erases : CustomerCall → Option Nat
  | .gdprDeleteCustomer customerId _ _ _ => some customerId
  | _ => none

/-- The statements of a call, judged by what it knows. -/
def customerMonitor : Monitor CustomerSql Progress where
  may _ := Progress.may
  must := Progress.must
  learn := Progress.learn

/-- A lookup returns the customer that it has found, and an erasure has committed and is not
refused by the index. -/
def CustomerCall.post (call : CustomerCall) (result : Except CustomerError CustomerReply)
    (progress : Progress) : Prop :=
  (∀ key row, call.sought = some key → result = .ok (some row) → progress = .found row.id key) ∧
    ∀ id, call.erases = some id → result ≠ .error .integrity ∧
      ∀ reply, result = .ok reply → progress = .scrubbed id

/-- A call begins with no row, and ends with what it may return. -/
def customerWatch : Watch CustomerSql CustomerCall CustomerError CustomerReply Progress where
  monitor _ := customerMonitor
  initial _ := .idle
  post := CustomerCall.post

/-- What the process with this name has come to. -/
def CustomerConfig.progress (config : CustomerConfig) : Pid → Progress :=
  config.stages customerWatch .idle

section Programs

variable {α β : Type} {progress : Progress}

theorem along_orRaise {error : CustomerError} {value : Option α} {next : α → CustomerM β}
    {post : Except CustomerError β → Progress → Prop} (raises : post (.error error) progress)
    (rest : ∀ found, value = some found → customerMonitor.Along post (next found) progress) :
    customerMonitor.Along post (orRaise error value >>= next) progress := by
  cases value with
  | none => exact .raise raises
  | some found => exact rest found rfl

theorem along_map {program : CustomerM α} {wrap : α → β}
    {post : Except CustomerError β → Progress → Prop}
    (along : customerMonitor.Along (fun result => post (result.map wrap)) program progress) :
    customerMonitor.Along post (wrap <$> program) progress := by
  rw [← bind_pure_comp]
  refine .bind (along.mono fun result _ met => ?_)
  cases result with
  | ok value => exact .ret met
  | error error => exact met

/-- The refreshed row is the one of the customer. -/
theorem along_refreshCustomer (id : Nat) (progress : Progress) :
    customerMonitor.Along (fun result later => later = progress ∧
        (∀ row, result = .ok row → row.id = id) ∧ result ≠ .error .integrity)
      (refreshCustomer id) progress := by
  refine .issue trivial fun answer possible => ?_
  obtain ⟨answer, rfl⟩ : ∃ row : Option Customer, row = answer := ⟨answer, rfl⟩
  cases answer with
  | none => exact .raise ⟨rfl, nofun, nofun⟩
  | some row =>
      refine .ret ⟨rfl, fun found same => ?_, nofun⟩
      cases same
      exact possible

/-- A look for a phone finds a customer for its key, or nobody. -/
theorem along_getCustomerByPhone (businessId tenantId : Nat) (phone : String) :
    customerMonitor.Along (fun result progress => ∃ reply, result = .ok reply ∧
        progress = match reply with
          | some row => .found row.id (businessId, normalizePhone phone)
          | none => .idle)
      (getCustomerByPhone businessId tenantId phone) .idle := by
  refine .call ⟨rfl, phone, rfl⟩ fun answer _ => ?_
  obtain ⟨answer, rfl⟩ : ∃ row : Option Customer, row = answer := ⟨answer, rfl⟩
  cases answer with
  | none => exact .ret ⟨none, rfl, rfl⟩
  | some row => exact .ret ⟨some row, rfl, rfl⟩

/-- **The commit of a new customer** finds him, unless the index refuses him. -/
theorem along_commitCustomer (tenantId businessId : Nat) (phone : String) (name : Option String) :
    customerMonitor.Along (fun result progress =>
        (∃ id, result = .ok (some id) ∧ progress = .found id (businessId, normalizePhone phone)) ∨
          ∃ error, result = .error error ∧ progress = .idle)
      (commitCustomer (newCustomer tenantId businessId phone name)) .idle := by
  unfold commitCustomer
  refine .issue ⟨rfl, fun id => ⟨rfl, phone, rfl⟩⟩ fun answer _ => ?_
  obtain ⟨answer, rfl⟩ : ∃ insertion : Insertion, insertion = answer := ⟨answer, rfl⟩
  cases answer with
  | inserted id => exact .issue (fun _ same => nomatch same) fun _ _ => .ret (.inl ⟨id, rfl, rfl⟩)
  | duplicate => exact .raise (.inr ⟨_, rfl, rfl⟩)
  | tooLong => exact .raise (.inr ⟨_, rfl, rfl⟩)

/-- **A call finds or makes a customer for the key of its phone.** -/
theorem along_getOrCreateCustomer (tenantId businessId : Nat) (phone : String)
    (name : Option String) :
    customerMonitor.Along (fun result progress => ∀ row, result = .ok row →
        progress = .found row.id (businessId, normalizePhone phone))
      (getOrCreateCustomer tenantId businessId phone name) .idle := by
  unfold getOrCreateCustomer requireBusiness
  rw [bind_assoc]
  refine .issue trivial fun business _ => along_orRaise nofun fun _ _ => ?_
  refine .bind
    ((along_getCustomerByPhone businessId tenantId phone).mono fun result progress met => ?_)
  obtain ⟨reply, rfl, rfl⟩ := met
  cases reply with
  | some existing =>
      refine .ret fun row same => ?_
      cases same
      rfl
  | none =>
      refine .bind (.tryCatch ((along_commitCustomer tenantId businessId phone name).mono
        fun result progress met => ?_))
      rcases met with ⟨id, rfl, rfl⟩ | ⟨error, rfl, rfl⟩
      · refine (along_refreshCustomer id _).mono fun result progress met row same => ?_
        obtain ⟨rfl, has, -⟩ := met
        rw [has row same]
      · cases error with
        | integrity =>
            refine .issue rfl fun _ _ => .ret ?_
            refine .bind ((along_getCustomerByPhone businessId tenantId phone).mono
              fun result progress met => ?_)
            obtain ⟨reply, rfl, rfl⟩ := met
            cases reply with
            | none => exact .raise nofun
            | some existing =>
                refine .ret fun row same => ?_
                cases same
                rfl
        | _ => exact .raise nofun

/-- The phone is sent, or it is scrubbed already. -/
theorem scrubCustomer_phone (row : Customer) :
    (scrubCustomer row).phoneNormalized = some (deletedPhone row.id) ∨
      (scrubCustomer row).phoneNormalized = none ∧ Erased row := by
  change changedTo (deletedPhone row.id) row.phoneNormalized = _ ∨ changedTo _ _ = none ∧ _
  unfold changedTo
  split
  · next same => exact .inr ⟨rfl, same.symm⟩
  · exact .inl rfl

/-- What is left of an erasure once its customer is scrubbed, or was so already. -/
def Scrubs (row : Customer) (progress : Progress) : Prop :=
  progress.committed = .scrubbed row.id ∧ ∀ other, progress = .read other → Erased other

theorem along_flushCustomer (row : Customer) :
    customerMonitor.Along (fun result progress => result = .ok () ∧ Scrubs row progress)
      (flushCustomer row.id (scrubCustomer row)) (.read row) := by
  unfold flushCustomer
  split
  · next same =>
      refine .ret ⟨rfl, rfl, fun other is => ?_⟩
      cases is
      rcases scrubCustomer_phone row with sent | kept
      · rw [same] at sent
        cases sent
      · exact kept.2
  · refine .issue ⟨row, rfl, rfl, rfl⟩ fun updated possible => ?_
    obtain rfl : updated = true := possible
    exact .ret ⟨rfl, rfl, nofun⟩

theorem along_flushLinked (client : Option Client) (progress : Progress) :
    customerMonitor.Along (fun result later => result = .ok () ∧ later = progress)
      (flushLinked client) progress := by
  cases client with
  | none => exact .ret ⟨rfl, rfl⟩
  | some client =>
      unfold flushLinked flushClient
      dsimp only
      split
      · exact .ret ⟨rfl, rfl⟩
      · refine .issue trivial fun updated possible => ?_
        obtain rfl : updated = true := possible
        exact .ret ⟨rfl, rfl⟩

/-- **An erasure** has scrubbed its customer when it commits, and the index does not refuse it. -/
theorem along_gdprDeleteCustomer (customerId businessId tenantId : Nat) (actorId : Option Nat) :
    customerMonitor.Along (fun result progress => result ≠ .error .integrity ∧
        ∀ row, result = .ok row → progress = .scrubbed customerId)
      (gdprDeleteCustomer customerId businessId tenantId actorId) .idle := by
  unfold gdprDeleteCustomer requireCustomerInBusiness requireCustomer
  rw [bind_assoc, bind_assoc]
  refine .issue rfl fun answer possible => along_orRaise ⟨nofun, nofun⟩ fun row found => ?_
  obtain rfl : answer = some row := found
  obtain rfl : row.id = customerId := possible
  refine .guard ⟨nofun, nofun⟩ fun _ => ?_
  refine .issue trivial fun client _ => ?_
  refine .bind ((along_flushCustomer row).mono fun result progress met => ?_)
  obtain ⟨rfl, committed, erased⟩ := met
  refine .bind ((along_flushLinked client progress).mono fun result later met => ?_)
  obtain ⟨rfl, rfl⟩ := met
  refine .issue trivial fun _ _ => .issue erased fun _ _ => ?_
  refine (along_refreshCustomer row.id _).mono fun result last met => ?_
  obtain ⟨rfl, -, allowed⟩ := met
  exact ⟨allowed, fun _ _ => committed⟩

theorem performCustomer_along (call : CustomerCall) :
    customerMonitor.Along call.post (performCustomer call) .idle := by
  cases call with
  | getOrCreateCustomer tenantId businessId phone name =>
      refine along_map ((along_getOrCreateCustomer tenantId businessId phone name).mono
        fun result progress met => ⟨fun key row is same => ?_, fun _ is => nomatch is⟩)
      cases is
      cases result with
      | error error => cases same
      | ok found =>
          cases same
          exact met row rfl
  | getCustomerByPhone businessId tenantId phone =>
      refine (along_getCustomerByPhone businessId tenantId phone).mono
        fun result progress met => ⟨fun key row is same => ?_, fun _ is => nomatch is⟩
      obtain ⟨reply, rfl, rfl⟩ := met
      cases is
      cases same
      rfl
  | gdprDeleteCustomer customerId businessId tenantId actorId =>
      refine along_map ((along_gdprDeleteCustomer customerId businessId tenantId actorId).mono
        fun result progress met => ⟨fun _ _ is => (nomatch is), fun id is => ?_⟩)
      cases is
      cases result with
      | error error =>
          refine ⟨fun same => met.1 ?_, nofun⟩
          cases same
          rfl
      | ok row => exact ⟨nofun, fun _ _ => met.2 row rfl⟩

end Programs

end AppointmentVoice.Customers
