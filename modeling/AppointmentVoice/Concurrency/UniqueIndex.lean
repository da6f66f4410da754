import AppointmentVoice.Concurrency.ReadCommitted

/-!
# Unique indexes

A table into which sessions insert rows: the primary keys come from a sequence, and a
unique index keeps other columns apart.  A row that collides with one that its session
sees is refused, and a row that collides with an uncommitted one of another session waits.
So the rows that are there, committed or not, never collide, whatever the sessions do.

**The rules.** `add` for a write that is neither refused nor has to wait, `release` and
`committed` for the end of a session; by `eq_of_not_apart` two rows that collide are one.
-/

set_option autoImplicit false

namespace AppointmentVoice.Concurrency

/-- Where the rows of a table are and which row a write inserts, their primary key, and
which rows have the same values in the columns of the index. -/
structure UniqueIndex (Db Write Row : Type) [Storage Db Write] where
  rows : Db → List Row
  inserted : Write → Option Row
  id : Row → Nat
  collides : Row → Row → Bool
  comm : ∀ row other, collides row other = collides other row
  rows_apply : ∀ db (write : Write),
    rows (Storage.apply db write) = rows db ++ (inserted write).toList
  waits : ∀ (write other : Write) row otherRow, inserted write = some row →
    inserted other = some otherRow → collides row otherRow = true →
      Storage.waitsFor Db write other = true

namespace UniqueIndex

variable {Db Write Row : Type} [Storage Db Write] (index : UniqueIndex Db Write Row)

/-- Neither the primary key nor the index takes the two rows to be one. -/
def Apart (row other : Row) : Prop :=
  index.id row ≠ index.id other ∧ index.collides row other = false

instance : Std.Symm index.Apart :=
  ⟨fun row other apart => ⟨apart.1.symm, index.comm row other ▸ apart.2⟩⟩

/-- The rows that some writes insert. -/
def drafts (writes : List Write) : List Row := writes.filterMap index.inserted

/-- All rows, committed or not. -/
def all (sessions : Sessions Db Write) : List Row :=
  index.rows sessions.db ++ index.drafts (sessions.pending.map Prod.snd)

/-- No two rows collide, and the sequence is ahead of all of them. -/
structure Sound (sessions : Sessions Db Write) (nextId : Nat) : Prop where
  apart : (index.all sessions).Pairwise index.Apart
  numbered : ∀ row ∈ index.all sessions, index.id row < nextId

variable {index} {sessions : Sessions Db Write} {pid : Pid} {write : Write} {row : Row}
  {nextId : Nat}

theorem rows_applyAll (index : UniqueIndex Db Write Row) (db : Db) (writes : List Write) :
    index.rows (Sessions.applyAll db writes) = index.rows db ++ index.drafts writes := by
  induction writes generalizing db with
  | nil => rw [Sessions.applyAll_nil, drafts, List.filterMap_nil, List.append_nil]
  | cons write writes ih =>
      rw [Sessions.applyAll_cons, ih, index.rows_apply, List.append_assoc]
      cases kind : index.inserted write with
      | none => simp [drafts, kind]
      | some row => simp [drafts, kind]

/-- What a session sees: the committed rows and its own. -/
theorem rows_view (index : UniqueIndex Db Write Row) (sessions : Sessions Db Write) (pid : Pid) :
    index.rows (sessions.view pid) =
      index.rows sessions.db ++ index.drafts (sessions.writesOf pid) :=
  rows_applyAll ..

theorem mem_all_of_committed (member : row ∈ index.rows sessions.db) : row ∈ index.all sessions :=
  List.mem_append_left _ member

/-- Every row is committed, or a session has inserted it. -/
theorem of_mem_all (member : row ∈ index.all sessions) :
    row ∈ index.rows sessions.db ∨
      ∃ entry ∈ sessions.pending, index.inserted entry.2 = some row := by
  rcases List.mem_append.mp member with committed | draft
  · exact .inl committed
  · obtain ⟨write, there, inserts⟩ := List.mem_filterMap.mp draft
    obtain ⟨entry, pending, rfl⟩ := List.mem_map.mp there
    exact .inr ⟨entry, pending, inserts⟩

theorem mem_view_of_committed (index : UniqueIndex Db Write Row) (pid : Pid)
    (member : row ∈ index.rows sessions.db) :
    row ∈ index.rows (sessions.view pid) := by
  rw [rows_view]
  exact List.mem_append_left _ member

/-! ## What the sessions do to the rows -/

theorem all_add (index : UniqueIndex Db Write Row) (sessions : Sessions Db Write) (pid : Pid)
    (write : Write) :
    index.all (sessions.add pid write) = index.all sessions ++ (index.inserted write).toList := by
  rw [all, all, List.append_assoc]
  congr 1
  cases kind : index.inserted write <;> simp [Sessions.add, drafts, kind]

theorem all_release_sublist (index : UniqueIndex Db Write Row) (sessions : Sessions Db Write)
    (pid : Pid) : (index.all (sessions.release pid)).Sublist (index.all sessions) := by
  refine List.Sublist.append_left (List.Sublist.filterMap _ ?_) _
  exact List.Sublist.map _ List.filter_sublist

/-- A commit moves rows, and adds and drops none. -/
theorem all_committed_perm (index : UniqueIndex Db Write Row) (sessions : Sessions Db Write)
    (pid : Pid) : (index.all (sessions.committed pid)).Perm (index.all sessions) := by
  have split : (sessions.pending.filter (·.1 == pid) ++
      sessions.pending.filter (fun entry => !(entry.1 == pid))).Perm sessions.pending :=
    List.filter_append_perm ..
  have drafted := (split.map Prod.snd).filterMap index.inserted
  rw [List.map_append, List.filterMap_append] at drafted
  have moved : index.all (sessions.committed pid) =
      index.rows sessions.db ++ (index.drafts (sessions.writesOf pid) ++
        index.drafts ((sessions.release pid).pending.map Prod.snd)) := by
    rw [← List.append_assoc, ← rows_view]
    rfl
  rw [moved]
  exact List.Perm.append_left _ drafted

namespace Sound

/-- Rows may be dropped, and numbers may be skipped. -/
theorem sublist (sound : index.Sound sessions nextId) {fewer : Sessions Db Write} {later : Nat}
    (dropped : (index.all fewer).Sublist (index.all sessions)) (skipped : nextId ≤ later) :
    index.Sound fewer later where
  apart := List.Pairwise.sublist dropped sound.apart
  numbered row member := Nat.lt_of_lt_of_le (sound.numbered row (dropped.subset member)) skipped

theorem release (sound : index.Sound sessions nextId) (pid : Pid) :
    index.Sound (sessions.release pid) nextId :=
  sound.sublist (all_release_sublist ..) (Nat.le_refl _)

theorem committed (sound : index.Sound sessions nextId) (pid : Pid) :
    index.Sound (sessions.committed pid) nextId where
  apart := (all_committed_perm index sessions pid).symm.pairwise sound.apart fun apart =>
    Std.Symm.symm _ _ apart
  numbered row member :=
    sound.numbered row ((all_committed_perm index sessions pid).subset member)

/-- **A write that is neither refused nor has to wait** keeps the rows apart, if its row has
the next number. -/
theorem add (sound : index.Sound sessions nextId)
    (numbered : ∀ row, index.inserted write = some row → index.id row = nextId)
    (accepted : ∀ row, index.inserted write = some row →
      ∀ other ∈ index.rows (sessions.view pid), index.collides row other = false)
    (free : sessions.mustWait pid write = false) :
    index.Sound (sessions.add pid write) (nextId + 1) := by
  have apart : ∀ row, index.inserted write = some row → ∀ other ∈ index.all sessions,
      index.collides row other = false := by
    intro row inserts other member
    rcases of_mem_all member with committed | ⟨entry, pending, insertsToo⟩
    · exact accepted row inserts other (mem_view_of_committed index pid committed)
    · by_cases mine : entry.1 = pid
      · refine accepted row inserts other ?_
        rw [rows_view]
        refine List.mem_append_right _ (List.mem_filterMap.mpr ⟨entry.2, ?_, insertsToo⟩)
        exact List.mem_map_of_mem (List.mem_filter.mpr ⟨pending, beq_iff_eq.mpr mine⟩)
      · rw [Sessions.mustWait, List.any_eq_false] at free
        refine Bool.eq_false_iff.mpr fun collide => free entry pending ?_
        rw [index.waits write entry.2 row other inserts insertsToo collide, bne_iff_ne.mpr mine]
        rfl
  constructor
  · rw [all_add, List.pairwise_append]
    refine ⟨sound.apart, ?_, fun other member row inserts => ?_⟩
    · cases index.inserted write with
      | none => exact .nil
      | some row => exact List.pairwise_singleton ..
    · rw [Option.mem_toList] at inserts
      refine ⟨?_, index.comm row other ▸ apart row inserts other member⟩
      rw [numbered row inserts]
      exact Nat.ne_of_lt (sound.numbered other member)
  · intro row member
    rw [all_add, List.mem_append] at member
    rcases member with old | new
    · exact Nat.lt_succ_of_lt (sound.numbered row old)
    · rw [numbered row (Option.mem_toList.mp new)]
      exact Nat.lt_succ_self _

/-- What two sessions have inserted is apart. -/
theorem apart_of_pending (sound : index.Sound sessions nextId) {first second : Pid × Write}
    {other : Row} (member : first ∈ sessions.pending) (memberToo : second ∈ sessions.pending)
    (different : first ≠ second) (inserts : index.inserted first.2 = some row)
    (insertsToo : index.inserted second.2 = some other) : index.Apart row other := by
  have drafted := (List.pairwise_append.mp sound.apart).2.1
  rw [UniqueIndex.drafts, List.pairwise_filterMap, List.pairwise_map] at drafted
  have symm : Std.Symm fun entry another : Pid × Write => ∀ row,
      index.inserted entry.2 = some row → ∀ other, index.inserted another.2 = some other →
        index.Apart row other :=
    ⟨fun _ _ apart row inserts other insertsToo =>
      Std.Symm.symm _ _ (apart other insertsToo row inserts)⟩
  exact drafted.forall member memberToo different row inserts other insertsToo

/-- Rows that are not apart are one row. -/
theorem eq_of_not_apart (sound : index.Sound sessions nextId) {other : Row}
    (member : row ∈ index.all sessions) (memberToo : other ∈ index.all sessions)
    (same : ¬index.Apart row other) : row = other := by
  by_contra different
  exact same (sound.apart.forall member memberToo different)

theorem eq_of_id (sound : index.Sound sessions nextId) {other : Row}
    (member : row ∈ index.all sessions) (memberToo : other ∈ index.all sessions)
    (same : index.id row = index.id other) : row = other :=
  sound.eq_of_not_apart member memberToo fun apart => apart.1 same

end Sound

end UniqueIndex

end AppointmentVoice.Concurrency
