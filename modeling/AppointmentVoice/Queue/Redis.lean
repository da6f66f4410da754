import Mathlib

/-!
# Lists and sorted sets in Redis

The commands on lists and sorted sets, each of them one atomic step, and what each does as
an inversion: `exec_effect`.  All lists are kept in one: an entry is a value with the key
of its list, and the entries of a key stand in the order of its list, from left to right.
A blocking pop is one that has waited for its time; it answers nothing while its list is
empty.
-/

set_option autoImplicit false

namespace Redis

/-! ## The store -/

/-- A value with the key of its list. -/
abbrev Entry : Type := String × String

/-- A member of a sorted set with the key of its set. -/
structure Scored where
  key : String
  member : String
  score : Int
  deriving DecidableEq, Repr

namespace Scored

/-- A set holds a member once. -/
def place (row : Scored) : String × String := (row.key, row.member)

/-- By score, and members of one score by their text. -/
def before (row other : Scored) : Prop :=
  row.score < other.score ∨ (row.score = other.score ∧ row.member ≤ other.member)

instance : DecidableRel before := fun _ _ => inferInstanceAs (Decidable (_ ∨ _))

end Scored

/-- The sorted sets, each in the order of its scores. -/
structure SortedSets where
  rows : List Scored
  distinct : (rows.map Scored.place).Nodup

/-- The entries of all lists, and the sorted sets. -/
structure Store where
  entries : List Entry
  sets : SortedSets

/-- The list under a key, from left to right. -/
def Store.list (store : Store) (key : String) : List String :=
  (store.entries.filter fun entry => entry.1 = key).map Prod.snd

/-- Nothing is stored. -/
def Store.empty : Store := ⟨[], ⟨[], List.nodup_nil⟩⟩

/-! ## Lists -/

/-- The rightmost value under a key, and the entries without it. -/
def popRight (key : String) : List Entry → Option (String × List Entry)
  | [] => none
  | entry :: entries =>
      match popRight key entries with
      | some (value, rest) => some (value, entry :: rest)
      | none => if entry.1 = key then some (entry.2, entries) else none

theorem popRight_none {key : String} {entries : List Entry} (none : popRight key entries = none) :
    ∀ entry ∈ entries, entry.1 ≠ key := by
  induction entries with
  | nil => simp
  | cons entry entries ih =>
      rw [popRight] at none
      split at none
      · cases none
      · next further =>
          split at none
          · cases none
          · next other =>
              intro found member
              rcases List.mem_cons.mp member with rfl | later
              · exact other
              · exact ih further found later

/-- What is popped stood to the right of all others of its key. -/
theorem popRight_some {key value : String} {entries rest : List Entry}
    (popped : popRight key entries = some (value, rest)) :
    ∃ left right, entries = left ++ (key, value) :: right ∧ rest = left ++ right ∧
      ∀ entry ∈ right, entry.1 ≠ key := by
  induction entries generalizing rest with
  | nil => cases popped
  | cons entry entries ih =>
      rw [popRight] at popped
      split at popped
      · next found kept further =>
          cases popped
          obtain ⟨left, right, rfl, rfl, others⟩ := ih further
          exact ⟨entry :: left, right, rfl, rfl, others⟩
      · next nothing =>
          split at popped
          · next same =>
              cases popped
              subst same
              exact ⟨[], entries, rfl, rfl, popRight_none nothing⟩
          · cases popped

/-! ## Sorted sets -/

namespace SortedSets

/-- Without a member. -/
def remove (sets : SortedSets) (key member : String) : SortedSets where
  rows := sets.rows.filter fun row => row.place ≠ (key, member)
  distinct := List.Nodup.sublist (List.filter_sublist.map _) sets.distinct

/-- With a member at a score, which takes the place of an earlier one. -/
def add (sets : SortedSets) (row : Scored) : SortedSets where
  rows := (sets.remove row.key row.member).rows.orderedInsert Scored.before row
  distinct := by
    rw [((List.perm_orderedInsert Scored.before row _).map Scored.place).nodup_iff, List.map_cons,
      List.nodup_cons]
    refine ⟨fun there => ?_, (sets.remove row.key row.member).distinct⟩
    obtain ⟨other, member, same⟩ := List.mem_map.mp there
    exact of_decide_eq_true (List.mem_filter.mp member).2 same

/-- The member is in its set. -/
def has (sets : SortedSets) (key member : String) : Bool :=
  sets.rows.any fun row => row.place = (key, member)

/-- The members with a score in a range, in their order. -/
def range (sets : SortedSets) (key : String) (min max : Int) : List String :=
  (sets.rows.filter fun row => row.key = key ∧ min ≤ row.score ∧ row.score ≤ max).map Scored.member

theorem has_iff {sets : SortedSets} {key member : String} :
    sets.has key member = true ↔ ∃ row ∈ sets.rows, row.place = (key, member) := by
  simp [has]

theorem mem_remove {sets : SortedSets} {key member : String} {row : Scored} :
    row ∈ (sets.remove key member).rows ↔ row ∈ sets.rows ∧ row.place ≠ (key, member) := by
  simp [remove]

theorem mem_add {sets : SortedSets} {row other : Scored} :
    other ∈ (sets.add row).rows ↔ other = row ∨ other ∈ sets.rows ∧ other.place ≠ row.place := by
  rw [add, List.mem_orderedInsert, mem_remove]
  rfl

theorem mem_range {sets : SortedSets} {key member : String} {min max : Int} :
    member ∈ sets.range key min max ↔
      ∃ score, ⟨key, member, score⟩ ∈ sets.rows ∧ min ≤ score ∧ score ≤ max := by
  constructor
  · intro there
    obtain ⟨row, found, rfl⟩ := List.mem_map.mp there
    obtain ⟨here, same, within⟩ : row ∈ sets.rows ∧ row.key = key ∧ min ≤ row.score ∧
      row.score ≤ max :=
      by simpa using List.mem_filter.mp found
    subst same
    exact ⟨row.score, here, within⟩
  · rintro ⟨score, here, within⟩
    exact List.mem_map.mpr ⟨_, List.mem_filter.mpr ⟨here, decide_eq_true ⟨rfl, within⟩⟩, rfl⟩

/-- A member has one score. -/
theorem unique (sets : SortedSets) {row other : Scored} (member : row ∈ sets.rows)
    (there : other ∈ sets.rows) (same : row.place = other.place) : row = other :=
  List.inj_on_of_nodup_map sets.distinct member there same

/-- What is removed is the one row of the member. -/
theorem perm_remove {sets : SortedSets} {row : Scored} (member : row ∈ sets.rows) :
    sets.rows.Perm (row :: (sets.remove row.key row.member).rows) := by
  have nodup : sets.rows.Nodup := sets.distinct.of_map
  refine (List.perm_ext_iff_of_nodup nodup ?_).mpr fun other => ?_
  · rw [List.nodup_cons]
    refine ⟨fun there => (mem_remove.mp there).2 rfl, nodup.sublist List.filter_sublist⟩
  · rw [List.mem_cons, mem_remove]
    constructor
    · intro there
      by_cases same : other.place = row.place
      · exact .inl (sets.unique there member same)
      · exact .inr ⟨there, same⟩
    · rintro (rfl | kept)
      · exact member
      · exact kept.1

theorem remove_of_absent {sets : SortedSets} {key member : String}
    (absent : ¬sets.has key member = true) : (sets.remove key member).rows = sets.rows := by
  refine List.filter_eq_self.mpr fun row there => decide_eq_true fun same => absent ?_
  exact has_iff.mpr ⟨row, there, same⟩

theorem perm_add (sets : SortedSets) (row : Scored) :
    (sets.add row).rows.Perm (row :: (sets.remove row.key row.member).rows) :=
  List.perm_orderedInsert Scored.before row _

end SortedSets

/-! ## Commands -/

/-- `LREM` is given with a count of one, `LRANGE` with the whole list. -/
inductive Command where
  | lpush (key value : String)
  | rpop (key : String)
  | brpoplpush (source destination : String)
  | lrem (key value : String)
  | lrange (key : String)
  | zadd (key member : String) (score : Int)
  | zrem (key member : String)
  | zrangebyscore (key : String) (min max : Int)
  deriving DecidableEq, Repr

/-- What a command comes back with. -/
abbrev Command.Answer : Command → Type
  | .lpush _ _ => Nat
  | .rpop _ => Option String
  | .brpoplpush _ _ => Option String
  | .lrem _ _ => Nat
  | .lrange _ => List String
  | .zadd _ _ _ => Nat
  | .zrem _ _ => Nat
  | .zrangebyscore _ _ _ => List String

/-- One command, with its answer and its effect. -/
def exec : (command : Command) → Store → command.Answer × Store
  | .lpush key value, store =>
      ((store.list key).length + 1, { store with entries := (key, value) :: store.entries })
  | .rpop key, store =>
      match popRight key store.entries with
      | some (value, rest) => (some value, { store with entries := rest })
      | none => (none, store)
  | .brpoplpush source destination, store =>
      match popRight source store.entries with
      | some (value, rest) => (some value, { store with entries := (destination, value) :: rest })
      | none => (none, store)
  | .lrem key value, store =>
      if (key, value) ∈ store.entries then
        (1, { store with entries := store.entries.erase (key, value) })
      else (0, store)
  | .lrange key, store => (store.list key, store)
  | .zadd key member score, store =>
      (if store.sets.has key member then 0 else 1,
        { store with sets := store.sets.add ⟨key, member, score⟩ })
  | .zrem key member, store =>
      if store.sets.has key member then (1, { store with sets := store.sets.remove key member })
      else (0, store)
  | .zrangebyscore key min max, store => (store.sets.range key min max, store)

/-! ## What a command does -/

/-- Everything that a command can answer and leave behind. -/
inductive Effect (store : Store) : (command : Command) → command.Answer → Store → Prop where
  | lpush (key value : String) :
      Effect store (.lpush key value) ((store.list key).length + 1)
        { store with entries := (key, value) :: store.entries }
  | popped {key value : String} {left right : List Entry}
      (split : store.entries = left ++ (key, value) :: right)
      (last : ∀ entry ∈ right, entry.1 ≠ key) :
      Effect store (.rpop key) (some value) { store with entries := left ++ right }
  | empty {key : String} (nothing : ∀ entry ∈ store.entries, entry.1 ≠ key) :
      Effect store (.rpop key) none store
  | moved {source destination value : String} {left right : List Entry}
      (split : store.entries = left ++ (source, value) :: right)
      (last : ∀ entry ∈ right, entry.1 ≠ source) :
      Effect store (.brpoplpush source destination) (some value)
        { store with entries := (destination, value) :: (left ++ right) }
  | unmoved {source destination : String} (nothing : ∀ entry ∈ store.entries, entry.1 ≠ source) :
      Effect store (.brpoplpush source destination) none store
  | removed {key value : String} (there : (key, value) ∈ store.entries) :
      Effect store (.lrem key value) (1 : Nat)
        { store with entries := store.entries.erase (key, value) }
  | absent {key value : String} (gone : (key, value) ∉ store.entries) :
      Effect store (.lrem key value) (0 : Nat) store
  | listed (key : String) : Effect store (.lrange key) (store.list key) store
  | added {key member : String} {score : Int} {answer : Nat} :
      Effect store (.zadd key member score) answer
        { store with sets := store.sets.add ⟨key, member, score⟩ }
  | taken {key member : String} (there : store.sets.has key member = true) :
      Effect store (.zrem key member) (1 : Nat)
        { store with sets := store.sets.remove key member }
  | missing {key member : String} (gone : ¬store.sets.has key member = true) :
      Effect store (.zrem key member) (0 : Nat) store
  | ranged (key : String) (min max : Int) :
      Effect store (.zrangebyscore key min max) (store.sets.range key min max) store

/-- **Inversion of a command.** -/
theorem exec_effect (command : Command) (store : Store) :
    Effect store command (exec command store).1 (exec command store).2 := by
  cases command with
  | lpush key value => exact .lpush key value
  | rpop key =>
      simp only [exec]
      split
      · next value rest popped =>
          obtain ⟨left, right, split, rfl, last⟩ := popRight_some popped
          exact .popped split last
      · next nothing => exact .empty (popRight_none nothing)
  | brpoplpush source destination =>
      simp only [exec]
      split
      · next value rest popped =>
          obtain ⟨left, right, split, rfl, last⟩ := popRight_some popped
          exact .moved split last
      · next nothing => exact .unmoved (popRight_none nothing)
  | lrem key value =>
      simp only [exec]
      split
      · next there => exact .removed there
      · next gone => exact .absent gone
  | lrange key => exact .listed key
  | zadd key member score => exact .added
  | zrem key member =>
      simp only [exec]
      split
      · next there => exact .taken there
      · next gone => exact .missing gone
  | zrangebyscore key min max => exact .ranged key min max

/-! ## Membership -/

theorem mem_list {store : Store} {key value : String} :
    value ∈ store.list key ↔ (key, value) ∈ store.entries := by
  constructor
  · intro there
    obtain ⟨entry, found, rfl⟩ := List.mem_map.mp there
    obtain ⟨here, same⟩ : entry ∈ store.entries ∧ entry.1 = key := by
      simpa using List.mem_filter.mp found
    subst same
    exact here
  · intro here
    exact List.mem_map.mpr ⟨_, List.mem_filter.mpr ⟨here, decide_eq_true rfl⟩, rfl⟩

/-! ## The bag of a store -/

/-- All values of the lists and all members of the sets with their keys, in no order. -/
def Store.bag (store : Store) : Multiset Entry :=
  (store.entries : Multiset Entry) + (store.sets.rows.map Scored.place : List Entry)

namespace Store

variable {store : Store}

theorem mem_bag {entry : Entry} :
    entry ∈ store.bag ↔ entry ∈ store.entries ∨ ∃ row ∈ store.sets.rows, row.place = entry := by
  simp [bag]

theorem bag_cons (entry : Entry) (entries : List Entry) (sets : SortedSets) :
    (⟨entry :: entries, sets⟩ : Store).bag = entry ::ₘ (⟨entries, sets⟩ : Store).bag := by
  rw [bag, ← Multiset.cons_coe, Multiset.cons_add]
  rfl

theorem bag_split {entry : Entry} {left right : List Entry}
    (split : store.entries = left ++ entry :: right) :
    store.bag = entry ::ₘ (⟨left ++ right, store.sets⟩ : Store).bag := by
  have perm : store.entries.Perm (entry :: (left ++ right)) := split ▸ List.perm_middle
  rw [bag, Multiset.coe_eq_coe.mpr perm, ← Multiset.cons_coe, Multiset.cons_add]
  rfl

theorem bag_erase {entry : Entry} (there : entry ∈ store.entries) :
    store.bag = entry ::ₘ (⟨store.entries.erase entry, store.sets⟩ : Store).bag := by
  rw [bag, Multiset.coe_eq_coe.mpr (List.perm_cons_erase there), ← Multiset.cons_coe,
    Multiset.cons_add]
  rfl

theorem bag_remove {key member : String} (there : store.sets.has key member = true) :
    store.bag = (key, member) ::ₘ (⟨store.entries, store.sets.remove key member⟩ : Store).bag := by
  obtain ⟨row, found, place⟩ := SortedSets.has_iff.mp there
  obtain ⟨rfl, rfl⟩ := Prod.mk.inj place
  have perm := (SortedSets.perm_remove found).map Scored.place
  rw [bag, Multiset.coe_eq_coe.mpr perm, List.map_cons, ← Multiset.cons_coe, Multiset.add_cons]
  rfl

theorem bag_remove_absent {key member : String} (absent : ¬store.sets.has key member = true) :
    (⟨store.entries, store.sets.remove key member⟩ : Store).bag = store.bag := by
  rw [bag, bag, SortedSets.remove_of_absent absent]

theorem bag_add (row : Scored) : (⟨store.entries, store.sets.add row⟩ : Store).bag =
    row.place ::ₘ (⟨store.entries, store.sets.remove row.key row.member⟩ : Store).bag := by
  have perm := (store.sets.perm_add row).map Scored.place
  rw [bag, Multiset.coe_eq_coe.mpr perm, List.map_cons, ← Multiset.cons_coe, Multiset.add_cons]
  rfl

end Store

end Redis
