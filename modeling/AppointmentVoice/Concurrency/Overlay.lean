import Mathlib.Data.List.Nodup

/-!
# The rows a transaction works on

What a session has in hand of a table while its transaction is open: the rows that it has
read or added, each as it was committed and as the session has left it.  Laid over the
committed rows they give what the session sees, and at its commit what everyone sees.

Rows have a key that no change touches.

**The rules.** What is shown is what is in hand and the rest (`mem_shown`), a change is seen
where it is made (`seen_change`), and a commit shows everyone what the session has seen
(`Sits.saved`).
-/

set_option autoImplicit false

namespace AppointmentVoice.Concurrency

/-- A row in hand: as it was committed, unless it is new, and as it is now. -/
structure Copy (Row : Type) where
  committed : Option Row
  now : Row

/-- The rows in hand. -/
abbrev Overlay (Row : Type) := List (Copy Row)

namespace Overlay

variable {Row κ : Type}

section Keys

variable (key : Row → κ)

/-- The keys of the rows in hand. -/
def keys (overlay : Overlay Row) : List κ := overlay.map fun copy => key copy.now

/-- The rows that are new. -/
def drafts (overlay : Overlay Row) : List Row :=
  (overlay.filter fun copy => copy.committed.isNone).map (·.now)

/-- Rows are read. -/
def ofRows (rows : List Row) : Overlay Row := rows.map fun row => ⟨some row, row⟩

/-- A row is added. -/
def draft (overlay : Overlay Row) (row : Row) : Overlay Row := overlay ++ [⟨none, row⟩]

/-- The transaction is committed. -/
def saved (overlay : Overlay Row) : Overlay Row :=
  overlay.map fun copy => ⟨some copy.now, copy.now⟩

/-- The transaction is rolled back. -/
def dropped (overlay : Overlay Row) : Overlay Row :=
  overlay.filterMap fun copy => copy.committed.map fun row => ⟨some row, row⟩

/-- The rows in hand are those of the table: a committed one is the row with its key, and no
row has the key of a new one. -/
structure Fits (overlay : Overlay Row) (rows : List Row) : Prop where
  same : ∀ copy ∈ overlay, ∀ old, copy.committed = some old → ∀ row ∈ rows,
    key row = key copy.now → row = old
  fresh : ∀ copy ∈ overlay, copy.committed = none → ∀ row ∈ rows, key row ≠ key copy.now

/-- What the rows in hand have of the table: all that are not new are there, and no key is in
hand twice. -/
structure Sits (overlay : Overlay Row) (rows : List Row) : Prop where
  nodup : (overlay.keys key).Nodup
  keyed : ∀ copy ∈ overlay, ∀ old, copy.committed = some old → key old = key copy.now
  standing : ∀ copy ∈ overlay, ∀ old, copy.committed = some old → old ∈ rows
  fresh : ∀ copy ∈ overlay, copy.committed = none → key copy.now ∉ rows.map key

end Keys

section Hands

variable {key : Row → κ} {overlay : Overlay Row} {rows : List Row} {row : Row} {copy : Copy Row}

theorem key_mem (member : copy ∈ overlay) : key copy.now ∈ overlay.keys key :=
  List.mem_map_of_mem member

theorem mem_drafts : row ∈ overlay.drafts ↔ ∃ copy ∈ overlay, copy.committed = none ∧
    copy.now = row := by
  simp [drafts, and_assoc]

theorem Sits.fits (sits : overlay.Sits key rows) (unique : (rows.map key).Nodup) :
    overlay.Fits key rows where
  same copy member old committed _ among same :=
    List.inj_on_of_nodup_map unique among (sits.standing copy member old committed)
      (same.trans (sits.keyed copy member old committed).symm)
  fresh copy member committed _ among same :=
    sits.fresh copy member committed (same ▸ List.mem_map_of_mem among)

theorem clean_ofRows : ∀ copy ∈ ofRows rows, copy.committed = some copy.now := by
  intro copy member
  obtain ⟨row, -, rfl⟩ := List.mem_map.mp member
  rfl

theorem clean_saved : ∀ copy ∈ overlay.saved, copy.committed = some copy.now := by
  intro copy member
  obtain ⟨old, -, rfl⟩ := List.mem_map.mp member
  rfl

theorem clean_dropped : ∀ copy ∈ overlay.dropped, copy.committed = some copy.now := by
  intro copy member
  obtain ⟨old, -, found⟩ := List.mem_filterMap.mp member
  obtain ⟨row, -, rfl⟩ := Option.map_eq_some_iff.mp found
  rfl

theorem keys_ofRows : (ofRows rows).keys key = rows.map key := by
  rw [keys, ofRows, List.map_map]
  rfl

theorem keys_draft : (overlay.draft row).keys key = overlay.keys key ++ [key row] := by
  simp [keys, draft]

theorem keys_saved : overlay.saved.keys key = overlay.keys key := by
  rw [keys, saved, List.map_map]
  rfl

theorem Sits.ofRows {found : List Row} (unique : (found.map key).Nodup)
    (there : ∀ row ∈ found, row ∈ rows) : (Overlay.ofRows found).Sits key rows where
  nodup := keys_ofRows.symm ▸ unique
  keyed copy member old committed := by
    rw [clean_ofRows copy member] at committed
    rw [Option.some.inj committed]
  standing copy member old committed := by
    obtain ⟨row, among, rfl⟩ := List.mem_map.mp member
    rw [← Option.some.inj committed]
    exact there row among
  fresh copy member new := by
    rw [clean_ofRows copy member] at new
    cases new

theorem Sits.draft (sits : overlay.Sits key rows) (unheld : key row ∉ overlay.keys key)
    (absent : key row ∉ rows.map key) : (overlay.draft row).Sits key rows := by
  refine ⟨?_, ?_, ?_, ?_⟩
  · rw [keys_draft]
    refine sits.nodup.append (List.nodup_singleton _) ?_
    rintro _ member same
    exact unheld (List.mem_singleton.mp same ▸ member)
  · intro copy member old committed
    rcases List.mem_append.mp member with before | new
    · exact sits.keyed copy before old committed
    · rw [List.mem_singleton.mp new] at committed
      cases committed
  · intro copy member old committed
    rcases List.mem_append.mp member with before | new
    · exact sits.standing copy before old committed
    · rw [List.mem_singleton.mp new] at committed
      cases committed
  · intro copy member committed
    rcases List.mem_append.mp member with before | new
    · exact sits.fresh copy before committed
    · rw [List.mem_singleton.mp new]
      exact absent

theorem Sits.dropped (sits : overlay.Sits key rows) : overlay.dropped.Sits key rows := by
  have sub : ∀ copies : Overlay Row, (∀ copy ∈ copies, ∀ old, copy.committed = some old →
      key old = key copy.now) → (copies.dropped.keys key).Sublist (copies.keys key) := by
    intro copies keyed
    induction copies with
    | nil => exact .slnil
    | cons copy rest ih =>
        have later := ih fun other member => keyed other (List.mem_cons_of_mem _ member)
        cases committed : copy.committed with
        | none =>
            have skip : Overlay.dropped (copy :: rest) = Overlay.dropped rest := by
              simp [Overlay.dropped, committed]
            rw [skip]
            exact later.cons _
        | some old =>
            have keep : Overlay.dropped (copy :: rest) =
              ⟨some old, old⟩ :: Overlay.dropped rest := by
              simp [Overlay.dropped, committed]
            rw [keep]
            change (key old :: _).Sublist (key copy.now :: _)
            rw [keyed copy List.mem_cons_self old committed]
            exact later.cons_cons _
  refine ⟨sits.nodup.sublist (sub overlay sits.keyed), ?_, ?_, ?_⟩
  · intro copy member old committed
    rw [clean_dropped copy member] at committed
    rw [Option.some.inj committed]
  · intro copy member old committed
    obtain ⟨before, among, found⟩ := List.mem_filterMap.mp member
    obtain ⟨row, was, rfl⟩ := Option.map_eq_some_iff.mp found
    rw [← Option.some.inj committed]
    exact sits.standing before among row was
  · intro copy member new
    rw [clean_dropped copy member] at new
    cases new

end Hands

/-! ## What is seen -/

section Seen

variable [DecidableEq κ] (key : Row → κ)

/-- The row as it is seen. -/
def seen (overlay : Overlay Row) (row : Row) : Row :=
  match overlay.find? fun copy => key copy.now = key row with
  | some copy => copy.now
  | none => row

/-- The table as it is seen. -/
def shown (overlay : Overlay Row) (rows : List Row) : List Row :=
  rows.map (overlay.seen key) ++ overlay.drafts

/-- The row with a key is changed. -/
def change (overlay : Overlay Row) (wanted : κ) (update : Row → Row) : Overlay Row :=
  overlay.map fun copy =>
    if key copy.now = wanted then ⟨copy.committed, update copy.now⟩ else copy

end Seen

variable [DecidableEq κ] {key : Row → κ} {overlay other : Overlay Row} {rows : List Row} {row : Row}
  {copy : Copy Row}

/-- A row that is not in hand is seen as it is. -/
theorem seen_of_not_mem (absent : key row ∉ overlay.keys key) : overlay.seen key row = row := by
  have none : overlay.find? (fun copy => key copy.now = key row) = none := by
    refine List.find?_eq_none.mpr fun copy member => ?_
    rw [decide_eq_true_iff]
    exact fun same => absent (same ▸ key_mem member)
  rw [seen, none]

/-- A row in hand is seen as it has been left. -/
theorem seen_of_mem (nodup : (overlay.keys key).Nodup) (member : copy ∈ overlay)
    (same : key copy.now = key row) : overlay.seen key row = copy.now := by
  cases found : overlay.find? fun copy => key copy.now = key row with
  | none =>
      have other := List.find?_eq_none.mp found copy member
      rw [decide_eq_true_iff] at other
      exact absurd same other
  | some first =>
      have matched := of_decide_eq_true (List.find?_some (p := fun copy : Copy Row =>
        decide (key copy.now = key row)) found)
      have equal : first = copy := List.inj_on_of_nodup_map nodup
        (List.mem_of_find?_eq_some found) member (matched.trans same.symm)
      rw [seen, found, equal]

/-- A row is seen under its key. -/
theorem key_seen (overlay : Overlay Row) (row : Row) : key (overlay.seen key row) = key row := by
  unfold seen
  split
  · next copy found =>
      exact of_decide_eq_true (List.find?_some (p := fun copy : Copy Row =>
        decide (key copy.now = key row)) found)
  · rfl

/-- A copy in hand is seen. -/
theorem now_mem_shown (sits : overlay.Sits key rows) (member : copy ∈ overlay) :
    copy.now ∈ overlay.shown key rows := by
  cases committed : copy.committed with
  | none => exact List.mem_append_right _ (mem_drafts.mpr ⟨copy, member, committed, rfl⟩)
  | some old =>
      refine List.mem_append_left _
        (List.mem_map.mpr ⟨old, sits.standing copy member old committed, ?_⟩)
      exact seen_of_mem sits.nodup member (sits.keyed copy member old committed).symm

/-- What is seen is in hand, or a row of the table that is not. -/
theorem mem_shown (seenRow : row ∈ overlay.shown key rows) :
    (∃ copy ∈ overlay, copy.now = row) ∨ row ∈ rows ∧ key row ∉ overlay.keys key := by
  rcases List.mem_append.mp seenRow with old | new
  · obtain ⟨stored, member, rfl⟩ := List.mem_map.mp old
    by_cases held : key stored ∈ overlay.keys key
    · cases found : overlay.find? fun copy => key copy.now = key stored with
      | none =>
          obtain ⟨copy, among, same⟩ := List.mem_map.mp held
          exact absurd (decide_eq_true same) (List.find?_eq_none.mp found copy among)
      | some copy =>
          refine .inl ⟨copy, List.mem_of_find?_eq_some found, ?_⟩
          rw [seen, found]
    · rw [seen_of_not_mem held]
      exact .inr ⟨member, held⟩
  · obtain ⟨copy, among, -, same⟩ := mem_drafts.mp new
    exact .inl ⟨copy, among, same⟩

theorem shown_nil : shown key ([] : Overlay Row) rows = rows := by
  simp [shown, drafts, show seen key ([] : Overlay Row) = id from rfl]

theorem keys_shown : (overlay.shown key rows).map key = rows.map key ++ overlay.drafts.map key := by
  rw [shown, List.map_append, List.map_map]
  congr 1
  exact List.map_congr_left fun row _ => key_seen overlay row

/-- Rows that have been read are seen as they are. -/
theorem shown_of_clean (clean : ∀ copy ∈ overlay, copy.committed = some copy.now)
    (fits : overlay.Fits key rows) : overlay.shown key rows = rows := by
  have none : overlay.drafts = [] := by
    refine List.eq_nil_iff_forall_not_mem.mpr fun row member => ?_
    obtain ⟨copy, among, new, -⟩ := mem_drafts.mp member
    rw [clean copy among] at new
    cases new
  rw [shown, none, List.append_nil]
  refine (List.map_congr_left fun row member => ?_).trans (List.map_id rows)
  unfold seen
  split
  · next copy found =>
      have matched := of_decide_eq_true (List.find?_some (p := fun copy : Copy Row =>
        decide (key copy.now = key row)) found)
      have among := List.mem_of_find?_eq_some found
      exact (fits.same copy among _ (clean copy among) row member matched.symm).symm
  · rfl

section Change

variable {wanted : κ} {update : Row → Row} (keeps : ∀ row, key (update row) = key row)
include keeps

theorem keys_change : (overlay.change key wanted update).keys key = overlay.keys key := by
  rw [keys, change, List.map_map]
  refine List.map_congr_left fun copy _ => ?_
  rw [Function.comp_apply]
  split
  · exact keeps copy.now
  · rfl

omit keeps in
theorem mem_change (member : copy ∈ overlay.change key wanted update) :
    ∃ old ∈ overlay, copy.committed = old.committed ∧
      copy.now = if key old.now = wanted then update old.now else old.now := by
  obtain ⟨old, among, rfl⟩ := List.mem_map.mp member
  refine ⟨old, among, ?_⟩
  split <;> exact ⟨rfl, rfl⟩

theorem seen_change (held : wanted ∈ overlay.keys key) (row : Row) :
    (overlay.change key wanted update).seen key row =
      if key row = wanted then update (overlay.seen key row) else overlay.seen key row := by
  have same : ∀ copy : Copy Row,
      (key (if key copy.now = wanted then (⟨copy.committed, update copy.now⟩ : Copy Row)
        else copy).now = key row) ↔ key copy.now = key row := by
    intro copy
    split
    · rw [keeps]
    · rfl
  have found : (overlay.change key wanted update).find? (fun copy => key copy.now = key row) =
      (overlay.find? fun copy => key copy.now = key row).map fun copy =>
        if key copy.now = wanted then ⟨copy.committed, update copy.now⟩ else copy := by
    rw [change, List.find?_map]
    congr 2
    funext copy
    exact decide_eq_decide.mpr (same copy)
  unfold seen
  rw [found]
  cases first : overlay.find? fun copy => key copy.now = key row with
  | none =>
      have absent : key row ≠ wanted := by
        rintro rfl
        obtain ⟨copy, among, matched⟩ := List.mem_map.mp held
        exact List.find?_eq_none.mp first copy among (decide_eq_true matched)
      rw [if_neg absent]
      rfl
  | some copy =>
      have matched := of_decide_eq_true (List.find?_some (p := fun copy : Copy Row =>
        decide (key copy.now = key row)) first)
      simp only [Option.map_some, matched]
      split <;> rfl

omit keeps in
theorem drafts_change : (overlay.change key wanted update).drafts =
    overlay.drafts.map fun row => if key row = wanted then update row else row := by
  rw [drafts, drafts, change, List.filter_map, List.map_map, List.map_map]
  have same : ((fun copy : Copy Row => copy.committed.isNone) ∘ fun copy : Copy Row =>
      if key copy.now = wanted then (⟨copy.committed, update copy.now⟩ : Copy Row) else copy) =
      fun copy => copy.committed.isNone := by
    funext copy
    rw [Function.comp_apply]
    split <;> rfl
  rw [same]
  refine List.map_congr_left fun copy _ => ?_
  rw [Function.comp_apply, Function.comp_apply]
  split <;> rfl

/-- A change of a row in hand is a change of what is seen. -/
theorem shown_change (held : wanted ∈ overlay.keys key) :
    (overlay.change key wanted update).shown key rows =
      (overlay.shown key rows).map fun row => if key row = wanted then update row else row := by
  rw [shown, shown, drafts_change, List.map_append, List.map_map]
  congr 1
  refine List.map_congr_left fun row _ => ?_
  have same : key (overlay.seen key row) = key row := key_seen overlay row
  rw [seen_change keeps held, Function.comp_apply, same]

theorem Sits.change (sits : overlay.Sits key rows) :
    (overlay.change key wanted update).Sits key rows := by
  have keyOf : ∀ copy old : Copy Row,
      copy.now = (if key old.now = wanted then update old.now else old.now) →
        key copy.now = key old.now := by
    intro copy old now
    rw [now]
    split
    · exact keeps old.now
    · rfl
  refine ⟨(keys_change keeps).symm ▸ sits.nodup, ?_, ?_, ?_⟩
  · intro copy member old committed
    obtain ⟨before, among, from_, now⟩ := mem_change member
    rw [keyOf copy before now]
    exact sits.keyed before among old (from_ ▸ committed)
  · intro copy member old committed
    obtain ⟨before, among, from_, -⟩ := mem_change member
    exact sits.standing before among old (from_ ▸ committed)
  · intro copy member new
    obtain ⟨before, among, from_, now⟩ := mem_change member
    rw [keyOf copy before now]
    exact sits.fresh before among (from_ ▸ new)

end Change

/-- A row is added at the end of what is seen. -/
theorem shown_draft (absent : ∀ stored ∈ rows, key stored ≠ key row) :
    (overlay.draft row).shown key rows = overlay.shown key rows ++ [row] := by
  have seenSame : ∀ stored ∈ rows, (overlay.draft row).seen key stored =
    overlay.seen key stored := by
    intro stored member
    have last : decide (key row = key stored) = false := decide_eq_false (absent stored member).symm
    unfold seen
    rw [draft, List.find?_append, List.find?_singleton]
    cases overlay.find? fun copy => key copy.now = key stored with
    | some copy => rfl
    | none => simp [last]
  rw [shown, shown, List.map_congr_left seenSame, List.append_assoc]
  congr 1
  simp [drafts, draft]

/-! ## Commits -/

/-- After the commit, the rows in hand are those of the new table. -/
theorem Sits.saved (sits : overlay.Sits key rows) :
    overlay.saved.Sits key (overlay.shown key rows) where
  nodup := keys_saved.symm ▸ sits.nodup
  keyed copy member old committed := by
    rw [clean_saved copy member] at committed
    rw [Option.some.inj committed]
  standing copy member old committed := by
    obtain ⟨before, among, rfl⟩ := List.mem_map.mp member
    rw [← Option.some.inj committed]
    exact now_mem_shown sits among
  fresh copy member new := by
    rw [clean_saved copy member] at new
    cases new

/-- The commit of a session leaves the rows that another one has in hand. -/
theorem Sits.others (sits : other.Sits key rows)
    (apart : ∀ held ∈ other.keys key, held ∉ overlay.keys key) :
    other.Sits key (overlay.shown key rows) where
  nodup := sits.nodup
  keyed := sits.keyed
  standing copy member old committed := by
    have absent : key old ∉ overlay.keys key := by
      rw [sits.keyed copy member old committed]
      exact apart _ (key_mem member)
    exact List.mem_append_left _ (List.mem_map.mpr
      ⟨old, sits.standing copy member old committed, seen_of_not_mem absent⟩)
  fresh copy member new := by
    rw [keys_shown, List.mem_append]
    rintro (old | added)
    · exact sits.fresh copy member new old
    · obtain ⟨row, among, same⟩ := List.mem_map.mp added
      obtain ⟨held, holds, -, rfl⟩ := mem_drafts.mp among
      exact apart _ (key_mem member) (same ▸ key_mem holds)

/-- The keys stay unique at a commit. -/
theorem Sits.nodup_shown (sits : overlay.Sits key rows) (unique : (rows.map key).Nodup) :
    ((overlay.shown key rows).map key).Nodup := by
  rw [keys_shown]
  refine unique.append ?_ ?_
  · rw [drafts, List.map_map]
    exact sits.nodup.sublist (List.filter_sublist.map _)
  · intro wanted old new
    obtain ⟨row, among, rfl⟩ := List.mem_map.mp new
    obtain ⟨copy, member, committed, rfl⟩ := mem_drafts.mp among
    exact sits.fresh copy member committed old

end Overlay

end AppointmentVoice.Concurrency
