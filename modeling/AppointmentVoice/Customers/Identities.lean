import AppointmentVoice.Customers.Progress

/-!
# The customers stay apart

No two committed customers have one number or one key, and the rows that calls have in hand
are apart from them and from each other.  An insert keeps this because the index lets no
other row in, and an erasure because its phone is that of nobody else, so the index never
refuses it.
-/

set_option autoImplicit false

namespace AppointmentVoice.Customers

open Concurrency Program

/-! ## What holds of the table -/

/-- The write is one to the customers. -/
def CustomerWrite.isCustomer : CustomerWrite → Bool
  | .insertCustomer _ => true
  | .updateCustomer _ _ => true
  | _ => false

/-- The uncommitted writes of a session to the customers. -/
def CustomerWorld.customerWrites (world : CustomerWorld) (pid : Pid) : List CustomerWrite :=
  (world.sessions.writesOf pid).filter CustomerWrite.isCustomer

section Writes

variable {world : CustomerWorld} {pid other : Pid} {write : CustomerWrite}

theorem customers_applyAll (db : CustomerDb) (writes : List CustomerWrite) :
    (Sessions.applyAll db writes).customers =
      (writes.filter CustomerWrite.isCustomer).foldl CustomerDb.writeCustomers db.customers := by
  induction writes generalizing db with
  | nil => rfl
  | cons write writes ih =>
      rw [Sessions.applyAll_cons, ih, List.filter_cons]
      cases write with
      | insertCustomer row => rfl
      | updateCustomer id change => rfl
      | updateClient id change => rfl
      | insertAudit row => rfl

/-- What a session sees of the customers. -/
theorem customers_view (world : CustomerWorld) (pid : Pid) :
    (world.sessions.view pid).customers =
      (world.customerWrites pid).foldl CustomerDb.writeCustomers world.db.customers :=
  customers_applyAll ..

theorem customerWrites_add_self (write : CustomerWrite) :
    (world.add pid write).customerWrites pid =
      world.customerWrites pid ++ [write].filter CustomerWrite.isCustomer := by
  rw [CustomerWorld.customerWrites, CustomerWorld.add, Sessions.writesOf_add_self,
    List.filter_append]
  rfl

theorem customerWrites_add_of_ne (different : other ≠ pid) (write : CustomerWrite) :
    (world.add pid write).customerWrites other = world.customerWrites other :=
  congrArg (List.filter CustomerWrite.isCustomer) (Sessions.writesOf_add_of_ne different write)

theorem customerWrites_release_self : (world.release pid).customerWrites pid = [] :=
  congrArg (List.filter CustomerWrite.isCustomer) Sessions.writesOf_release_self

theorem customerWrites_release_of_ne (different : other ≠ pid) :
    (world.release pid).customerWrites other = world.customerWrites other :=
  congrArg (List.filter CustomerWrite.isCustomer) (Sessions.writesOf_release_of_ne different)

theorem pending_of_customerWrites (member : write ∈ world.customerWrites pid) :
    (pid, write) ∈ world.sessions.pending := by
  obtain ⟨entry, there, rfl⟩ := List.mem_map.mp (List.mem_of_mem_filter member)
  obtain ⟨pending, same⟩ := List.mem_filter.mp there
  rw [beq_iff_eq] at same
  rw [← same]
  exact pending

end Writes

/-- A committed row has a number of the sequence, and a phone that somebody can have or the
one of an erased customer. -/
def Shaped (nextId : Nat) (row : Customer) : Prop :=
  row.id < nextId ∧ (Erased row ∨ Dialled row.phoneNormalized)

/-- No two committed rows are taken to be one, the rows that are not committed yet are apart
from them and from each other, and what the calls know is so. -/
structure Identities (world : CustomerWorld) (progress : Pid → Progress) : Prop where
  writes : ∀ pid, world.customerWrites pid = (progress pid).writes
  apart : world.db.customers.Pairwise Apart
  shaped : ∀ row ∈ world.db.customers, Shaped world.nextId row
  inserted : ∀ pid row, progress pid = .inserted row →
    row.id < world.nextId ∧ Dialled row.phoneNormalized ∧ ∀ other ∈ world.db.customers,
      Apart row other
  insertedApart : ∀ pid other row otherRow, pid ≠ other → progress pid = .inserted row →
    progress other = .inserted otherRow → Apart row otherRow
  knows : ∀ pid, (progress pid).Knows world.db.customers

namespace Identities

variable {world : CustomerWorld} {progress : Pid → Progress} {pid : Pid}

theorem view (identities : Identities world progress) (pid : Pid) :
    (world.sessions.view pid).customers =
      (progress pid).writes.foldl CustomerDb.writeCustomers world.db.customers := by
  rw [customers_view, identities.writes]

/-- A session that has written no customer sees the committed ones. -/
theorem view_of_idle (identities : Identities world progress) (quiet : (progress pid).writes = []) :
    (world.sessions.view pid).customers = world.db.customers := by
  rw [identities.view, quiet]
  rfl

/-- **A call goes on**, and has no row in hand any more: the committed rows stay apart, from
each other and from those that others have in hand. -/
theorem advance (identities : Identities world progress) {after : CustomerWorld} {mine : Progress}
    (evolves : Evolves world.db.customers after.db.customers)
    (apart : after.db.customers.Pairwise Apart)
    (shaped : ∀ row ∈ after.db.customers, Shaped after.nextId row)
    (clear : ∀ other row, other ≠ pid → progress other = .inserted row →
      ∀ committed ∈ after.db.customers, Apart row committed)
    (later : world.nextId ≤ after.nextId) (writes : after.customerWrites pid = mine.writes)
    (others : ∀ other, other ≠ pid → after.customerWrites other = world.customerWrites other)
    (none : ∀ row, mine ≠ .inserted row) (knows : mine.Knows after.db.customers) :
    Identities after (Function.update progress pid mine) where
  writes other := by
    by_cases same : other = pid
    · rw [same, Function.update_self, writes]
    · rw [Function.update_of_ne same, others other same]
      exact identities.writes other
  apart := apart
  shaped := shaped
  inserted other row inserting := by
    by_cases same : other = pid
    · rw [same, Function.update_self] at inserting
      exact absurd inserting (none row)
    · rw [Function.update_of_ne same] at inserting
      obtain ⟨numbered, dialled, -⟩ := identities.inserted other row inserting
      exact ⟨Nat.lt_of_lt_of_le numbered later, dialled, clear other row same inserting⟩
  insertedApart first second row otherRow different inserting insertingToo := by
    by_cases same : first = pid
    · rw [same, Function.update_self] at inserting
      exact absurd inserting (none row)
    · by_cases sameToo : second = pid
      · rw [sameToo, Function.update_self] at insertingToo
        exact absurd insertingToo (none otherRow)
      · rw [Function.update_of_ne same] at inserting
        rw [Function.update_of_ne sameToo] at insertingToo
        exact identities.insertedApart first second row otherRow different inserting insertingToo
  knows other := by
    by_cases same : other = pid
    · rw [same, Function.update_self]
      exact knows
    · rw [Function.update_of_ne same]
      exact (identities.knows other).evolves evolves

/-- A call goes on in a world with the same customers, and has none in hand. -/
theorem moves (identities : Identities world progress) {after : CustomerWorld} {mine : Progress}
    (customers : after.db.customers = world.db.customers) (later : world.nextId ≤ after.nextId)
    (writes : after.customerWrites pid = mine.writes)
    (others : ∀ other, other ≠ pid → after.customerWrites other = world.customerWrites other)
    (none : ∀ row, mine ≠ .inserted row) (knows : mine.Knows world.db.customers) :
    Identities after (Function.update progress pid mine) := by
  refine identities.advance ?_ ?_ ?_ ?_ later writes others none (customers ▸ knows)
  · rw [customers]
    exact .refl _
  · exact customers ▸ identities.apart
  · intro row member
    obtain ⟨numbered, shape⟩ := identities.shaped row (customers ▸ member)
    exact ⟨Nat.lt_of_lt_of_le numbered later, shape⟩
  · intro other row _ inserting
    exact customers ▸ (identities.inserted other row inserting).2.2

/-- A transaction that ends without its writes. -/
theorem release (identities : Identities world progress) (pid : Pid) :
    Identities (world.release pid) (Function.update progress pid .idle) :=
  identities.moves rfl (Nat.le_refl _) customerWrites_release_self
    (fun _ different => customerWrites_release_of_ne different) nofun trivial

/-- A statement that leaves the world as it is. -/
theorem stays (identities : Identities world progress) {mine : Progress}
    (writes : (progress pid).writes = mine.writes) (none : ∀ row, mine ≠ .inserted row)
    (knows : mine.Knows world.db.customers) :
      Identities world (Function.update progress pid mine) :=
  identities.moves rfl (Nat.le_refl _) ((identities.writes pid).trans writes)
    (fun _ _ => rfl) none knows

/-- A statement that teaches nothing and writes no customer. -/
theorem unchanged (identities : Identities world progress) {after : CustomerWorld}
    (customers : after.db.customers = world.db.customers) (later : world.nextId ≤ after.nextId)
    (writes : ∀ other, after.customerWrites other = world.customerWrites other) :
    Identities after (Function.update progress pid (progress pid)) := by
  rw [Function.update_eq_self]
  exact {
    writes := fun other => (writes other).trans (identities.writes other)
    apart := customers ▸ identities.apart
    shaped := fun row member => by
      obtain ⟨numbered, shape⟩ := identities.shaped row (customers ▸ member)
      exact ⟨Nat.lt_of_lt_of_le numbered later, shape⟩
    inserted := fun other row inserting => by
      obtain ⟨numbered, dialled, clear⟩ := identities.inserted other row inserting
      exact ⟨Nat.lt_of_lt_of_le numbered later, dialled, customers ▸ clear⟩
    insertedApart := identities.insertedApart
    knows := fun other => customers ▸ identities.knows other }

/-- **A row is inserted** that no committed row and no row of another session has the key of. -/
theorem insert (identities : Identities world progress) {row : Customer}
    (idle : progress pid = .idle)
    (numbered : row.id = world.nextId) (dialled : Dialled row.phoneNormalized)
    (clear : ∀ other ∈ world.db.customers, keyOf other ≠ keyOf row)
    (alone : ∀ other otherRow, other ≠ pid → progress other = .inserted otherRow →
      keyOf row ≠ keyOf otherRow) :
    Identities { world.add pid (.insertCustomer row) with nextId := world.nextId + 1 }
      (Function.update progress pid (.inserted row)) where
  writes other := by
    by_cases same : other = pid
    · subst same
      have none : world.customerWrites other = [] := by
        rw [identities.writes, idle]
        rfl
      rw [Function.update_self]
      change (world.add other (.insertCustomer row)).customerWrites other = _
      rw [customerWrites_add_self, none]
      rfl
    · rw [Function.update_of_ne same]
      exact (customerWrites_add_of_ne same _).trans (identities.writes other)
  apart := identities.apart
  shaped found member := by
    obtain ⟨before, shape⟩ := identities.shaped found member
    exact ⟨Nat.lt_succ_of_lt before, shape⟩
  inserted other found inserting := by
    by_cases same : other = pid
    · rw [same, Function.update_self] at inserting
      cases inserting
      refine ⟨numbered ▸ Nat.lt_succ_self _, dialled, fun committed member =>
        ⟨?_, (clear committed member).symm⟩⟩
      rw [numbered]
      exact (Nat.ne_of_lt (identities.shaped committed member).1).symm
    · rw [Function.update_of_ne same] at inserting
      obtain ⟨before, dialled, clear⟩ := identities.inserted other found inserting
      exact ⟨Nat.lt_succ_of_lt before, dialled, clear⟩
  insertedApart first second found otherRow different inserting insertingToo := by
    -- The new row is apart from that of another session.
    have mine : ∀ other otherRow, other ≠ pid → progress other = .inserted otherRow →
      Apart row otherRow := by
      intro other otherRow different inserting
      refine ⟨?_, alone other otherRow different inserting⟩
      rw [numbered]
      exact (Nat.ne_of_lt (identities.inserted other otherRow inserting).1).symm
    by_cases same : first = pid
    · rw [same, Function.update_self] at inserting
      cases inserting
      have other : second ≠ pid := fun is => different (same.trans is.symm)
      rw [Function.update_of_ne other] at insertingToo
      exact mine second otherRow other insertingToo
    · rw [Function.update_of_ne same] at inserting
      by_cases sameToo : second = pid
      · rw [sameToo, Function.update_self] at insertingToo
        cases insertingToo
        exact (mine first found same inserting).symm
      · rw [Function.update_of_ne sameToo] at insertingToo
        exact identities.insertedApart first second found otherRow different inserting insertingToo
  knows other := by
    by_cases same : other = pid
    · rw [same, Function.update_self]
      exact trivial
    · rw [Function.update_of_ne same]
      exact identities.knows other

/-- The update of an erasure is added to its transaction. -/
theorem scrub (identities : Identities world progress) {row : Customer}
    (read : progress pid = .read row) :
    Identities (world.add pid (.updateCustomer row.id (scrubCustomer row)))
      (Function.update progress pid (.scrubbing row.id (scrubCustomer row))) := by
  have none : world.customerWrites pid = [] := by
    rw [identities.writes, read]
    rfl
  have knows := identities.knows pid
  rw [read] at knows
  obtain ⟨other, member, same, erased⟩ := knows
  refine identities.moves rfl (Nat.le_refl _) ?_ (fun _ different =>
    customerWrites_add_of_ne different _)
    nofun ⟨other, member, same, ?_⟩
  · rw [customerWrites_add_self, none]
    rfl
  · exact (scrubCustomer_phone row).imp (fun sent => sent) fun kept => ⟨kept.1, erased kept.2⟩

end Identities

/-! ## Commits -/

/-- What the update of an erasure does to a row. -/
def scrubbedRow (id : Nat) (change : CustomerChange) (row : Customer) : Customer :=
  if row.id = id then change.apply row else row

section Commits

variable {id : Nat} {change : CustomerChange} {customers : List Customer}

theorem scrubbedRow_id (id : Nat) (change : CustomerChange) (row : Customer) :
    (scrubbedRow id change row).id = row.id := by
  rw [scrubbedRow]
  split <;> rfl

theorem scrubbedRow_key (sent : change.phoneNormalized = some (deletedPhone id) ∨
    change.phoneNormalized = none)
    (row : Customer) :
    keyOf (scrubbedRow id change row) = keyOf row ∨
      row.id = id ∧ Erased (scrubbedRow id change row) := by
  rw [scrubbedRow]
  split
  · next same =>
      subst same
      rcases sent with sent | kept
      · refine .inr ⟨rfl, ?_⟩
        rw [Erased, CustomerChange.apply, sent]
        rfl
      · refine .inl ?_
        rw [keyOf, CustomerChange.apply, kept]
        rfl
  · exact .inl rfl

/-- A row with the key of another one keeps its phone. -/
theorem erased_of_key {row other : Customer} (same : keyOf other = keyOf row)
    (sameId : other.id = row.id)
    (erased : Erased row) : Erased other := by
  rw [Erased, sameId, ← show row.phoneNormalized = deletedPhone row.id from erased]
  exact (Prod.mk.inj same).2

theorem evolves_scrub (sent : change.phoneNormalized = some (deletedPhone id) ∨
    change.phoneNormalized = none) :
    Evolves customers (customers.map (scrubbedRow id change)) := by
  intro row member
  refine ⟨_, List.mem_map_of_mem member, scrubbedRow_id id change row, ?_, fun erased => ?_⟩
  · exact (scrubbedRow_key sent row).imp (fun same => same) fun scrubbed => scrubbed.2
  · rcases scrubbedRow_key sent row with same | scrubbed
    · exact erased_of_key same (scrubbedRow_id id change row) erased
    · exact scrubbed.2

/-- The phone of an erased customer is that of nobody else. -/
theorem key_ne_of_erased {row other : Customer} (erased : Erased row)
    (different : row.id ≠ other.id)
    (shape : Erased other ∨ Dialled other.phoneNormalized) : keyOf row ≠ keyOf other := by
  intro same
  have phones : deletedPhone row.id = other.phoneNormalized :=
    (show row.phoneNormalized = deletedPhone row.id from erased) ▸ (Prod.mk.inj same).2
  rcases shape with erasedToo | dialled
  · exact different (deletedPhone_injective (phones.trans erasedToo))
  · exact deletedPhone_not_dialled row.id (phones ▸ dialled)

/-- **The phone of an erased customer takes no place in the index** that another row has. -/
theorem apart_scrub (sent : change.phoneNormalized = some (deletedPhone id) ∨
    change.phoneNormalized = none)
    {row other : Customer} (apart : Apart row other)
    (shape : Erased row ∨ Dialled row.phoneNormalized)
    (shapeToo : Erased other ∨ Dialled other.phoneNormalized) :
    Apart (scrubbedRow id change row) (scrubbedRow id change other) := by
  refine ⟨?_, ?_⟩
  · rw [scrubbedRow_id, scrubbedRow_id]
    exact apart.1
  · rcases scrubbedRow_key sent row with same | ⟨mine, erased⟩
    · rcases scrubbedRow_key sent other with sameToo | ⟨theirs, erasedToo⟩
      · rw [same, sameToo]
        exact apart.2
      · rw [same]
        refine (key_ne_of_erased erasedToo ?_ shape).symm
        rw [scrubbedRow_id]
        exact apart.1.symm
    · have unchanged : scrubbedRow id change other = other :=
        if_neg fun theirs => apart.1 (mine.trans theirs.symm)
      rw [unchanged]
      refine key_ne_of_erased erased ?_ shapeToo
      rw [scrubbedRow_id]
      exact apart.1

end Commits

namespace Identities

variable {world : CustomerWorld} {progress : Pid → Progress} {pid : Pid}

theorem committed_customers (identities : Identities world progress) (pid : Pid) :
    (world.sessions.committed pid).db.customers =
      (progress pid).writes.foldl CustomerDb.writeCustomers world.db.customers :=
  identities.view pid

/-- The world after the commit of a session. -/
abbrev afterCommit (world : CustomerWorld) (pid : Pid) : CustomerWorld :=
  { world with sessions := world.sessions.committed pid }

theorem customerWrites_committed_self (world : CustomerWorld) (pid : Pid) :
    (afterCommit world pid).customerWrites pid = [] :=
  congrArg (List.filter CustomerWrite.isCustomer) Sessions.writesOf_committed_self

theorem customerWrites_committed_of_ne {other : Pid} (world : CustomerWorld)
    (different : other ≠ pid) :
    (afterCommit world pid).customerWrites other = world.customerWrites other :=
  congrArg (List.filter CustomerWrite.isCustomer) (Sessions.writesOf_committed_of_ne different)

/-- The commit of a row adds it. -/
theorem commit_inserted (identities : Identities world progress) {row : Customer}
    (now : progress pid = .inserted row) :
    Evolves world.db.customers (afterCommit world pid).db.customers ∧
      Identities (afterCommit world pid)
        (Function.update progress pid (.found row.id (keyOf row))) := by
  obtain ⟨numbered, dialled, clear⟩ := identities.inserted pid row now
  have rows : (afterCommit world pid).db.customers = world.db.customers ++ [row] := by
    have customers := identities.committed_customers pid
    rw [now] at customers
    exact customers
  have evolves : Evolves world.db.customers (afterCommit world pid).db.customers := by
    intro found member
    rw [rows]
    exact ⟨found, List.mem_append_left _ member, rfl, .inl rfl, fun erased => erased⟩
  refine ⟨evolves, identities.advance evolves ?_ ?_ ?_ (Nat.le_refl _)
    (customerWrites_committed_self world pid)
    (fun _ different => customerWrites_committed_of_ne world different) nofun ?_⟩
  · rw [rows, List.pairwise_append]
    refine ⟨identities.apart, List.pairwise_singleton .., fun found member other last => ?_⟩
    rw [List.mem_singleton.mp last]
    exact (clear found member).symm
  · rw [rows]
    intro found member
    rcases List.mem_append.mp member with old | last
    · exact identities.shaped found old
    · rw [List.mem_singleton.mp last]
      exact ⟨numbered, .inr dialled⟩
  · rw [rows]
    intro other otherRow different inserting found member
    rcases List.mem_append.mp member with old | last
    · exact (identities.inserted other otherRow inserting).2.2 found old
    · rw [List.mem_singleton.mp last]
      exact identities.insertedApart other pid otherRow row different inserting now
  · rw [rows]
    exact ⟨row, List.mem_append_right _ (List.mem_singleton.mpr rfl), rfl, .inl rfl⟩

/-- The commit of an erasure scrubs its customer. -/
theorem commit_scrubbing (identities : Identities world progress) {id : Nat}
    {change : CustomerChange}
    (now : progress pid = .scrubbing id change) :
    Evolves world.db.customers (afterCommit world pid).db.customers ∧
      Identities (afterCommit world pid) (Function.update progress pid (.scrubbed id)) := by
  have knows := identities.knows pid
  rw [now] at knows
  obtain ⟨row, member, same, sent⟩ := knows
  have keeps : change.phoneNormalized = some (deletedPhone id) ∨ change.phoneNormalized = none :=
    sent.imp (fun sent => sent) fun kept => kept.1
  have rows : (afterCommit world pid).db.customers =
    world.db.customers.map (scrubbedRow id change) := by
    have customers := identities.committed_customers pid
    rw [now] at customers
    exact customers
  have evolves : Evolves world.db.customers (afterCommit world pid).db.customers := by
    rw [rows]
    exact evolves_scrub keeps
  refine ⟨evolves, identities.advance evolves ?_ ?_ ?_ (Nat.le_refl _)
    (customerWrites_committed_self world pid)
    (fun _ different => customerWrites_committed_of_ne world different) nofun ?_⟩
  · rw [rows, List.pairwise_map]
    refine identities.apart.imp_of_mem fun first second apart => ?_
    exact apart_scrub keeps apart (identities.shaped _ first).2 (identities.shaped _ second).2
  · rw [rows]
    intro found listed
    obtain ⟨old, there, rfl⟩ := List.mem_map.mp listed
    obtain ⟨numbered, shape⟩ := identities.shaped old there
    refine ⟨(scrubbedRow_id id change old).symm ▸ numbered, ?_⟩
    rcases scrubbedRow_key keeps old with sameKey | ⟨-, erased⟩
    · refine shape.imp (erased_of_key sameKey (scrubbedRow_id id change old)) fun dialled => ?_
      exact (Prod.mk.inj sameKey).2 ▸ dialled
    · exact .inl erased
  · rw [rows]
    intro other otherRow _ inserting found listed
    obtain ⟨old, there, rfl⟩ := List.mem_map.mp listed
    obtain ⟨-, dialled, clear⟩ := identities.inserted other otherRow inserting
    have apart := clear old there
    refine ⟨(scrubbedRow_id id change old).symm ▸ apart.1, ?_⟩
    rcases scrubbedRow_key keeps old with sameKey | ⟨-, erased⟩
    · rw [sameKey]
      exact apart.2
    · refine (key_ne_of_erased erased ?_ (.inr dialled)).symm
      rw [scrubbedRow_id]
      exact apart.1.symm
  · rw [rows]
    refine ⟨_, List.mem_map_of_mem member, (scrubbedRow_id id change row).trans same, ?_⟩
    rcases sent with sent | ⟨-, erased⟩
    · rw [scrubbedRow, if_pos same, Erased, CustomerChange.apply, sent]
      exact congrArg deletedPhone same.symm
    · rcases scrubbedRow_key keeps row with sameKey | ⟨-, scrubbed⟩
      · exact erased_of_key sameKey (scrubbedRow_id id change row) erased
      · exact scrubbed

/-- A commit of a call that has written no customer. -/
theorem commit_quiet (identities : Identities world progress) {mine : Progress}
    (quiet : (progress pid).writes = []) (writes : mine.writes = [])
    (none : ∀ row, mine ≠ .inserted row)
    (knows : mine.Knows world.db.customers) :
    Evolves world.db.customers (afterCommit world pid).db.customers ∧
      Identities (afterCommit world pid) (Function.update progress pid mine) := by
  have rows : (afterCommit world pid).db.customers = world.db.customers := by
    have customers := identities.committed_customers pid
    rw [quiet] at customers
    exact customers
  refine ⟨rows ▸ .refl _, identities.moves rows (Nat.le_refl _) ?_
    (fun _ different => customerWrites_committed_of_ne world different) none knows⟩
  rw [writes]
  exact customerWrites_committed_self world pid

/-- **A commit** adds the row in hand, or erases the customer that has been read. -/
theorem commit (identities : Identities world progress)
    (allowed : ∀ row, progress pid = .read row → Erased row) :
    Evolves world.db.customers (afterCommit world pid).db.customers ∧
      Identities (afterCommit world pid)
        (Function.update progress pid (progress pid).committed) := by
  have knows := identities.knows pid
  cases now : progress pid with
  | inserted row => exact identities.commit_inserted now
  | scrubbing id change => exact identities.commit_scrubbing now
  | read row =>
      rw [now] at knows
      obtain ⟨other, member, same, erased⟩ := knows
      refine identities.commit_quiet (by rw [now]; rfl) rfl nofun ?_
      exact ⟨other, member, same, erased (allowed row now)⟩
  | idle => exact identities.commit_quiet (by rw [now]; rfl) rfl nofun trivial
  | found id key =>
      rw [now] at knows
      exact identities.commit_quiet (by rw [now]; rfl) rfl nofun knows
  | scrubbed id =>
      rw [now] at knows
      exact identities.commit_quiet (by rw [now]; rfl) rfl nofun knows

/-- A look for a phone. -/
theorem lookUp (identities : Identities world progress) {businessId tenantId : Nat} {phone : String}
    (idle : progress pid = .idle) :
    Identities world (Function.update progress pid ((progress pid).learn
      ⟨.select (.customerByPhone businessId tenantId phone),
        CustomerQuery.eval (.customerByPhone businessId tenantId phone)
          (world.sessions.view pid)⟩)) := by
  have view := identities.view_of_idle (by rw [idle]; rfl)
  have quiet : Identities world (Function.update progress pid (progress pid)) := by
    rw [Function.update_eq_self]
    exact identities
  cases found : CustomerQuery.eval (.customerByPhone businessId tenantId phone)
      (world.sessions.view pid) with
  | none => exact quiet
  | some row =>
      refine identities.stays (by rw [idle]; rfl) nofun ?_
      have member := List.mem_of_find?_eq_some found
      have meets := List.find?_some found
      rw [Bool.and_eq_true, Bool.and_eq_true, beq_iff_eq, beq_iff_eq, beq_iff_eq] at meets
      rw [view] at member
      exact ⟨row, member, rfl, .inl (Prod.ext meets.1.1 meets.2)⟩

/-- An erasure reads its customer. -/
theorem reads (identities : Identities world progress) (id tenantId : Nat)
    (idle : progress pid = .idle) :
    Progress.may ⟨.select (.customer id tenantId),
        CustomerQuery.eval (.customer id tenantId) (world.sessions.view pid)⟩ ∧
      Identities world (Function.update progress pid ((progress pid).learn
        ⟨.select (.customer id tenantId),
          CustomerQuery.eval (.customer id tenantId) (world.sessions.view pid)⟩)) := by
  have view := identities.view_of_idle (by rw [idle]; rfl)
  have quiet : Identities world (Function.update progress pid (progress pid)) := by
    rw [Function.update_eq_self]
    exact identities
  cases found : CustomerQuery.eval (.customer id tenantId) (world.sessions.view pid) with
  | none => exact ⟨trivial, quiet⟩
  | some row =>
      have member := List.mem_of_find?_eq_some found
      have meets := List.find?_some found
      rw [Bool.and_eq_true, beq_iff_eq, beq_iff_eq] at meets
      rw [view] at member
      refine ⟨meets.1, identities.stays (by rw [idle]; rfl) nofun ?_⟩
      exact ⟨row, member, rfl, fun erased => erased⟩

/-- No other session has a row in hand with the key of one that is inserted. -/
theorem alone (identities : Identities world progress) {row : Customer}
    (free : world.mustWait pid (.insertCustomer row) = false) :
    ∀ other otherRow, other ≠ pid → progress other = .inserted otherRow →
      keyOf row ≠ keyOf otherRow := by
  intro other otherRow different inserting same
  have pending : (other, CustomerWrite.insertCustomer otherRow) ∈ world.sessions.pending := by
    refine pending_of_customerWrites ?_
    rw [identities.writes, inserting]
    exact List.mem_singleton.mpr rfl
  rw [CustomerWorld.mustWait, Bool.or_eq_false_iff, List.any_eq_false] at free
  refine free.2 _ pending ?_
  rw [Bool.and_eq_true, bne_iff_ne, List.any_eq_true]
  refine ⟨different, keyOf row, List.mem_singleton.mpr rfl, ?_⟩
  rw [List.contains_iff_mem]
  exact List.mem_singleton.mpr same

/-- **The index lets the update of an erasure through.** -/
theorem scrub_not_duplicate (identities : Identities world progress) {row : Customer}
    (read : progress pid = .read row) :
    (world.sessions.view pid).duplicates (.updateCustomer row.id (scrubCustomer row)) = false := by
  have view := identities.view_of_idle (by rw [read]; rfl)
  rw [CustomerDb.duplicates, List.any_eq_false]
  intro other member bad
  rw [Bool.and_eq_true, List.contains_iff_mem, bne_iff_ne] at bad
  obtain ⟨entered, different⟩ := bad
  rw [CustomerDb.enters] at entered
  split at entered
  · next sent =>
      obtain ⟨target, listed, key⟩ := List.mem_map.mp entered
      obtain ⟨there, same⟩ := List.mem_filter.mp listed
      rw [beq_iff_eq] at same
      rw [view] at member there
      have phone : (scrubCustomer row).phoneNormalized = some (deletedPhone row.id) := by
        rcases scrubCustomer_phone row with sent | kept
        · exact sent
        · rw [kept.1] at sent
          cases sent
      have erased : Erased ((scrubCustomer row).apply target) := by
        rw [Erased, CustomerChange.apply, phone]
        exact congrArg deletedPhone same.symm
      refine key_ne_of_erased erased (fun is => different ?_) (identities.shaped other member).2 key
      exact is.symm.trans same
  · cases entered

/-- An insert that does not have to wait. -/
theorem inserts (identities : Identities world progress) {draft : Nat → Customer}
    (idle : progress pid = .idle)
    (drafted : ∀ id, (draft id).id = id ∧ Dialled (draft id).phoneNormalized)
    (free : world.blocks pid (.insertCustomer draft) = false) :
    (insertOf pid (draft world.nextId) world).2.db.customers = world.db.customers ∧
      Identities (insertOf pid (draft world.nextId) world).2 (Function.update progress pid
        ((progress pid).learn ⟨.insertCustomer draft,
          (insertOf pid (draft world.nextId) world).1⟩)) := by
  obtain ⟨numbered, dialled⟩ := drafted world.nextId
  unfold insertOf
  split
  · exact ⟨rfl, identities.unchanged rfl (Nat.le_succ _) fun _ => rfl⟩
  · next fits =>
    split
    · exact ⟨rfl, identities.unchanged rfl (Nat.le_succ _) fun _ => rfl⟩
    · next distinct =>
        refine ⟨rfl, ?_⟩
        rw [Bool.not_eq_true', Bool.not_eq_false] at fits
        rw [CustomerWorld.blocks, fits, Bool.true_and] at free
        have learned : (progress pid).learn
          ⟨.insertCustomer draft, .inserted (draft world.nextId).id⟩ =
            .inserted (draft world.nextId) := by
          rw [numbered]
          rfl
        rw [learned]
        refine identities.insert idle numbered dialled (fun other member same => distinct ?_)
          (identities.alone free)
        have view := identities.view_of_idle (by rw [idle]; rfl)
        rw [CustomerDb.duplicates, List.any_eq_true]
        refine ⟨other, view.symm ▸ member, ?_⟩
        rw [Bool.and_true, List.contains_iff_mem]
        exact List.mem_singleton.mpr same

/-- **Every statement keeps the customers apart.** -/
theorem issue (identities : Identities world progress) (stmt : CustomerStmt)
    (allowed : (progress pid).must stmt) (free : world.blocks pid stmt = false) :
    Progress.may ⟨stmt, (effectOf pid stmt world).1⟩ ∧
      Evolves world.db.customers (effectOf pid stmt world).2.db.customers ∧
        Identities (effectOf pid stmt world).2 (Function.update progress pid
          ((progress pid).learn ⟨stmt, (effectOf pid stmt world).1⟩)) := by
  have quiet : Identities world (Function.update progress pid (progress pid)) := by
    rw [Function.update_eq_self]
    exact identities
  have same := Evolves.refl world.db.customers
  cases stmt with
  | select query =>
      cases query with
      | business id tenantId => exact ⟨trivial, same, quiet⟩
      | clientOf tenantId businessId customerId => exact ⟨trivial, same, quiet⟩
      | customerByPhone businessId tenantId phone =>
          exact ⟨trivial, same, identities.lookUp allowed.1⟩
      | customer id tenantId =>
          obtain ⟨possible, kept⟩ := identities.reads id tenantId allowed
          exact ⟨possible, same, kept⟩
      | customerByPrimaryKey id =>
          refine ⟨?_, same, quiet⟩
          change Progress.may ⟨.select (.customerByPrimaryKey id),
            (world.sessions.view pid).customers.find? (·.id == id)⟩
          cases found : (world.sessions.view pid).customers.find? (·.id == id) with
          | none => exact trivial
          | some row =>
              have meets := List.find?_some found
              exact beq_iff_eq.mp meets
  | insertCustomer draft =>
      obtain ⟨rows, kept⟩ := identities.inserts allowed.1 allowed.2 free
      refine ⟨trivial, ?_, kept⟩
      change Evolves world.db.customers (insertOf pid (draft world.nextId) world).2.db.customers
      rw [rows]
      exact same
  | update write =>
      cases write with
      | insertCustomer row => exact allowed.elim
      | insertAudit row => exact allowed.elim
      | updateClient id change =>
          have clear : (world.sessions.view pid).duplicates (.updateClient id change) = false :=
            List.any_eq_false.mpr fun _ _ => nofun
          rw [effectOf, if_neg (by rw [clear]; exact Bool.false_ne_true)]
          refine ⟨rfl, same, identities.unchanged rfl (Nat.le_refl _) fun other => ?_⟩
          by_cases mine : other = pid
          · rw [mine]
            exact (customerWrites_add_self _).trans (List.append_nil _)
          · exact customerWrites_add_of_ne mine _
      | updateCustomer id change =>
          obtain ⟨row, read, rfl, rfl⟩ := allowed
          rw [effectOf,
            if_neg (by rw [identities.scrub_not_duplicate read]; exact Bool.false_ne_true)]
          exact ⟨rfl, same, identities.scrub read⟩
  | insertAudit row =>
      refine ⟨trivial, same, identities.unchanged rfl (Nat.le_refl _) fun other => ?_⟩
      by_cases mine : other = pid
      · rw [mine]
        exact (customerWrites_add_self _).trans (List.append_nil _)
      · exact customerWrites_add_of_ne mine _
  | commit =>
      obtain ⟨evolves, kept⟩ := identities.commit allowed
      exact ⟨trivial, evolves, kept⟩
  | rollback =>
      refine ⟨trivial, same, ?_⟩
      have idle : progress pid = .idle := allowed
      have released := identities.release pid
      rw [← idle] at released
      exact released

/-- A statement that finds a customer. -/
theorem finds (identities : Identities world progress) (stmt : CustomerStmt)
    (allowed : (progress pid).must stmt) {id : Nat} {key : PhoneKey}
    (found : (progress pid).learn ⟨stmt, (effectOf pid stmt world).1⟩ = .found id key) :
    progress pid = .found id key ∨ ∃ row ∈ (effectOf pid stmt world).2.db.customers,
      row.id = id ∧ keyOf row = key ∧ Dialled row.phoneNormalized := by
  cases stmt with
  | select query =>
      cases query with
      | customerByPhone businessId tenantId phone =>
          obtain ⟨idle, dialled⟩ := allowed
          have view := identities.view_of_idle (by rw [idle]; rfl)
          change (progress pid).learn ⟨.select (.customerByPhone businessId tenantId phone),
            CustomerQuery.eval (.customerByPhone businessId tenantId phone)
              (world.sessions.view pid)⟩ =
              .found id key at found
          cases answered : CustomerQuery.eval (.customerByPhone businessId tenantId phone)
              (world.sessions.view pid) with
          | none =>
              rw [answered] at found
              exact .inl found
          | some row =>
              rw [answered] at found
              cases found
              have member := List.mem_of_find?_eq_some answered
              have meets := List.find?_some answered
              rw [Bool.and_eq_true, Bool.and_eq_true, beq_iff_eq, beq_iff_eq, beq_iff_eq] at meets
              rw [view] at member
              exact .inr ⟨row, member, rfl, Prod.ext meets.1.1 meets.2, meets.2 ▸ dialled⟩
      | customer id tenantId =>
          change (progress pid).learn ⟨.select (.customer id tenantId),
            CustomerQuery.eval (.customer id tenantId) (world.sessions.view pid)⟩ = _ at found
          cases answered : CustomerQuery.eval (.customer id tenantId) (world.sessions.view pid) with
          | none =>
              rw [answered] at found
              exact .inl found
          | some row =>
              rw [answered] at found
              cases found
      | _ => exact .inl found
  | insertCustomer draft =>
      change (progress pid).learn ⟨.insertCustomer draft,
        (insertOf pid (draft world.nextId) world).1⟩ = _
        at found
      cases answered : (insertOf pid (draft world.nextId) world).1 with
      | inserted number =>
          rw [answered] at found
          cases found
      | duplicate =>
          rw [answered] at found
          exact .inl found
      | tooLong =>
          rw [answered] at found
          exact .inl found
  | update write =>
      cases write with
      | updateCustomer id change => cases found
      | _ => exact .inl found
  | commit =>
      change (progress pid).committed = .found id key at found
      have customers := identities.committed_customers pid
      cases now : progress pid with
      | inserted row =>
          rw [now] at found customers
          cases found
          refine .inr ⟨row, ?_, rfl, rfl, (identities.inserted pid row now).2.1⟩
          change row ∈ (world.sessions.committed pid).db.customers
          rw [customers]
          exact List.mem_append_right _ (List.mem_singleton.mpr rfl)
      | found other otherKey =>
          rw [now] at found
          exact .inl found
      | _ =>
          rw [now] at found
          cases found
  | _ => exact .inl found

end Identities

end AppointmentVoice.Customers
