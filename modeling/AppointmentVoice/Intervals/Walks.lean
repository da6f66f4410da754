import Mathlib

/-!
# Walks along the integers

A list for every integer, read from some integer on for a number of steps.

**Taking.**  The beginning of a walk is what it takes from each cell (`take_walk`).  It is the
first items of another walk of the same length exactly if it is so place by place
(`firsts_walk_iff`).

**Cells in order.**  When the lists come in order, two walks of one length have the same
beginning exactly if nothing lies before the later of them, and what they share is long
enough or is all there is (`take_walk_eq_iff`, `CellsInOrder.takesFirsts_iff`).
-/

set_option autoImplicit false

namespace Intervals

variable {α κ : Type}
variable {cells : Int → List α} {count steps : Nat} {first second : Int}

/-- The cells from `first` on, for a number of steps. -/
def walk (cells : Int → List α) : Nat → Int → List α
  | 0, _ => []
  | steps + 1, first => cells first ++ walk cells steps (first + 1)

theorem walk_add (cells : Int → List α) (steps more : Nat) (first : Int) :
    walk cells (steps + more) first =
      walk cells steps first ++ walk cells more (first + steps) := by
  induction steps generalizing first with
  | zero => simp [walk]
  | succ steps ih =>
      rw [Nat.succ_add, walk, ih, walk, List.append_assoc]
      congr 3
      push_cast
      ring

theorem mem_walk {item : α} :
    item ∈ walk cells steps first ↔
      ∃ place, first ≤ place ∧ place < first + steps ∧ item ∈ cells place := by
  induction steps generalizing first with
  | zero =>
      simp only [walk, List.not_mem_nil, false_iff]
      rintro ⟨place, after, before, -⟩
      push_cast at before
      omega
  | succ steps ih =>
      rw [walk, List.mem_append, ih]
      constructor
      · rintro (here | ⟨place, after, before, there⟩)
        · exact ⟨first, le_refl _, by omega, here⟩
        · exact ⟨place, by omega, by push_cast; omega, there⟩
      · rintro ⟨place, after, before, there⟩
        rcases eq_or_lt_of_le after with rfl | later
        · exact .inl there
        · exact .inr ⟨place, by omega, by push_cast at before; omega, there⟩

/-- A relation that holds along a walk holds in each of its cells and between them. -/
theorem walk_pairwise_iff {rel : α → α → Prop} :
    (walk cells steps first).Pairwise rel ↔
      (∀ place, first ≤ place → place < first + steps → (cells place).Pairwise rel) ∧
        ∀ place later, first ≤ place → place < later → later < first + steps →
          ∀ one ∈ cells place, ∀ other ∈ cells later, rel one other := by
  induction steps generalizing first with
  | zero =>
      refine iff_of_true List.Pairwise.nil ⟨fun place after before => ?_,
        fun place later after between before => ?_⟩
      · push_cast at before
        omega
      · push_cast at before
        omega
  | succ steps ih =>
      rw [walk, List.pairwise_append, ih]
      constructor
      · rintro ⟨here, ⟨within, across⟩, next⟩
        refine ⟨fun place after before => ?_, fun place later after between before one inOne other
          inOther => ?_⟩
        · rcases eq_or_lt_of_le after with rfl | further
          · exact here
          · exact within place (by omega) (by push_cast at before; omega)
        · rcases eq_or_lt_of_le after with rfl | further
          · exact next one inOne other
              (mem_walk.mpr ⟨later, by omega, by push_cast at before; omega,
              inOther⟩)
          · exact across place later (by omega) between (by push_cast at before; omega) one inOne
              other inOther
      · rintro ⟨within, across⟩
        refine ⟨within first le_rfl (by push_cast; omega), ⟨fun place after before =>
          within place (by omega) (by push_cast; omega), fun place later after between before =>
            across place later (by omega) between (by push_cast; omega)⟩, ?_⟩
        intro one here other there
        obtain ⟨place, after, before, inside⟩ := mem_walk.mp there
        exact across first place le_rfl (by omega) (by push_cast; omega) one here other inside

/-- A beginning that does not change when something is put behind the list. -/
theorem take_append_eq_iff {items more : List α} {count : Nat} :
    (items ++ more).take count = items.take count ↔ more = [] ∨ count ≤ items.length := by
  rw [List.take_append, List.append_right_eq_self, List.take_eq_nil_iff, or_comm,
    Nat.sub_eq_zero_iff_le]

/-! ## What a walk takes -/

/-- What is taken from a cell, when the cells before it on the walk are taken first. -/
def takenAt (cells : Int → List α) (count : Nat) (first place : Int) : List α :=
  (cells place).take (count - (walk cells (place - first).toNat first).length)

/-- The beginning of a walk is what it takes from each cell. -/
theorem take_walk :
    (walk cells steps first).take count = walk (takenAt cells count first) steps first := by
  induction steps with
  | zero => exact List.take_nil
  | succ steps ih =>
      have last : ∀ cells : Int → List α, walk cells (steps + 1) first =
          walk cells steps first ++ cells (first + steps) := by
        intro cells
        rw [walk_add, walk, walk, List.append_nil]
      have place : (first + steps - first).toNat = steps := by omega
      rw [last, last, List.take_append, ih, takenAt, place]

/-- What is taken from a cell is in it. -/
theorem takenAt_subset (place : Int) : takenAt cells count first place ⊆ cells place :=
  List.take_subset _ _

/-- A walk is as long as its cells up to a place and those from there on. -/
theorem length_walk_le {place later : Int} (after : first ≤ place) (before : place < later) :
    (walk cells (place - first).toNat first).length + (cells place).length ≤
      (walk cells (later - first).toNat first).length := by
  have further : (later - first).toNat =
      (place - first).toNat + (1 + (later - place - 1).toNat) := by omega
  have here : first + (place - first).toNat = place := by omega
  rw [further, walk_add, walk_add, here, walk, walk, List.length_append, List.length_append,
    List.append_nil]
  omega

/-! ## Cells in order -/

section Ordered

variable [LinearOrder κ] (key : α → κ)

/-- The cells from one integer up to another are increasing, one by one and one after the
other. -/
structure CellsInOrder (cells : Int → List α) (first stop : Int) : Prop where
  within : ∀ place, (cells place).Pairwise fun one other => key one < key other
  across : ∀ place later, first ≤ place → place < later → later < stop →
    ∀ one ∈ cells place, ∀ other ∈ cells later, key one < key other

variable {key} {stop : Int}

theorem CellsInOrder.mono (inOrder : CellsInOrder key cells first stop) {start finish : Int}
    (after : first ≤ start) (before : finish ≤ stop) : CellsInOrder key cells start finish :=
  ⟨inOrder.within, fun place later starts between ends =>
    inOrder.across place later (after.trans starts) between (ends.trans_le before)⟩

theorem CellsInOrder.walk_increasing (inOrder : CellsInOrder key cells first (first + steps)) :
    (walk cells steps first).Pairwise fun one other => key one < key other :=
  walk_pairwise_iff.mpr ⟨fun place _ _ => inOrder.within place, inOrder.across⟩

/-- What two walks of one length have in common: nothing lies before the later of the two
first cells; and what lies behind the earlier of the two last cells is nothing, or is not
reached. -/
structure SameBeginning (cells : Int → List α) (count steps : Nat) (first second : Int) :
    Prop where
  before : walk cells (min (second - first).natAbs steps) (min first second) = []
  after : walk cells (min (second - first).natAbs steps)
      (min first second + max steps (second - first).natAbs) = [] ∨
    count ≤ (walk cells (steps - (second - first).natAbs) (max first second)).length

theorem SameBeginning.comm :
    SameBeginning cells count steps first second ↔
      SameBeginning cells count steps second first := by
  have gap : (second - first).natAbs = (first - second).natAbs := by omega
  constructor <;> rintro ⟨before, after⟩
  · exact ⟨by rwa [← gap, min_comm second], by rwa [← gap, min_comm second, max_comm second]⟩
  · exact ⟨by rwa [gap, min_comm first], by rwa [gap, min_comm first, max_comm first]⟩

/-- The walk that starts later, for cells in order. -/
theorem take_walk_eq_iff_of_le (positive : 0 < count)
    (ordered : first ≤ second)
    (inOrder : CellsInOrder key cells first (second + steps)) :
    (walk cells steps second).take count = (walk cells steps first).take count ↔
      SameBeginning cells count steps first second := by
  obtain ⟨gap, rfl⟩ := Int.le.dest ordered
  have size : (first + gap - first).natAbs = gap := by omega
  have later : walk cells steps (first + gap) =
      walk cells (steps - gap) (first + gap) ++ walk cells (min gap steps)
        (first + (max steps gap : Nat)) := by
    have total : steps - gap + min gap steps = steps := by omega
    have start : first + gap + ((steps - gap : Nat) : Int) =
      first + (max steps gap : Nat) := by omega
    calc walk cells steps (first + gap)
        = walk cells (steps - gap + min gap steps) (first + gap) := by rw [total]
      _ = _ := by rw [walk_add, start]
  have earlier : walk cells steps first =
      walk cells (min gap steps) first ++ walk cells (steps - gap) (first + gap) := by
    by_cases far : gap ≤ steps
    · calc walk cells steps first
          = walk cells (min gap steps + (steps - gap)) first := by
            rw [Nat.min_eq_left far, Nat.add_sub_cancel' far]
        _ = _ := by rw [walk_add, Nat.min_eq_left far]
    · rw [Nat.min_eq_right (by omega), Nat.sub_eq_zero_of_le (by omega)]
      exact (List.append_nil _).symm
  have same : SameBeginning cells count steps first (first + gap) ↔
      walk cells (min gap steps) first = [] ∧
        (walk cells (min gap steps) (first + (max steps gap : Nat)) = [] ∨
          count ≤ (walk cells (steps - gap) (first + gap)).length) := by
    have low : min first (first + gap) = first := min_eq_left (by omega)
    have high : max first (first + gap) = first + gap := max_eq_right (by omega)
    constructor
    · rintro ⟨before, after⟩
      rw [size, low] at before
      rw [size, low, high] at after
      exact ⟨before, after⟩
    · rintro ⟨before, after⟩
      refine ⟨?_, ?_⟩
      · rw [size, low]
        exact before
      · rw [size, low, high]
        exact after
  rw [same, later, earlier]
  constructor
  · intro agree
    have nothing : walk cells (min gap steps) first = [] := by
      -- A first item would be the first of the other walk too, whose items all come later.
      cases front : walk cells (min gap steps) first with
      | nil => rfl
      | cons item rest =>
          exfalso
          have taken : item ∈ (walk cells (steps - gap) (first + gap) ++
              walk cells (min gap steps) (first + (max steps gap : Nat))).take count := by
            rw [agree, front]
            obtain ⟨more, rfl⟩ : ∃ more, count = more + 1 := ⟨count - 1, by omega⟩
            exact List.mem_cons_self
          have shared := List.mem_of_mem_take taken
          rw [← later] at shared
          obtain ⟨place, after, before, there⟩ := mem_walk.mp shared
          have isFront : item ∈ walk cells (min gap steps) first := by
            rw [front]
            exact List.mem_cons_self
          obtain ⟨start, starts, ends, here⟩ := mem_walk.mp isFront
          have short : ((min gap steps : Nat) : Int) ≤ gap := by omega
          exact lt_irrefl _
            (inOrder.across start place starts (by omega) before item here item there)
    refine ⟨nothing, ?_⟩
    rw [nothing, List.nil_append] at agree
    exact take_append_eq_iff.mp agree
  · rintro ⟨nothing, enough⟩
    rw [nothing, List.nil_append]
    exact take_append_eq_iff.mpr enough

/-- **Two walks through cells in order have the same beginning exactly if they have it in
common.** -/
theorem take_walk_eq_iff (positive : 0 < count)
    (inOrder : CellsInOrder key cells (min first second) (max first second + steps)) :
    (walk cells steps first).take count = (walk cells steps second).take count ↔
      SameBeginning cells count steps first second := by
  rcases le_total first second with ordered | ordered
  · rw [min_eq_left ordered, max_eq_right ordered] at inOrder
    rw [eq_comm]
    exact take_walk_eq_iff_of_le positive ordered inOrder
  · rw [min_eq_right ordered, max_eq_left ordered] at inOrder
    rw [SameBeginning.comm]
    exact take_walk_eq_iff_of_le positive ordered inOrder

end Ordered

/-! ## The first items -/

section Firsts

variable [LinearOrder κ] {key : α → κ}

/-- The first items of a list by their keys, each once. -/
def firsts [DecidableEq α] (key : α → κ) (count : Nat) (items : List α) : List α :=
  (items.dedup.insertionSort fun one other => key one ≤ key other).take count

/-- Items in order are their own first ones. -/
theorem firsts_eq_take [DecidableEq α] {items : List α}
    (increasing : items.Pairwise fun one other => key one < key other) :
    firsts key count items = items.take count := by
  have distinct : items.Nodup := by
    refine increasing.imp fun {one other} before same => ?_
    rw [same] at before
    exact lt_irrefl _ before
  rw [firsts, distinct.dedup, (increasing.imp fun before => le_of_lt before).insertionSort_eq]

/-- **The first items** are some of the items, in order, before all the others; and there are
others only if these are as many as there may be. -/
theorem firsts_eq_iff [DecidableEq α] {items taken : List α}
    (apart : ∀ one ∈ items, ∀ other ∈ items, key one = key other → one = other)
    (short : taken.length ≤ count) :
    firsts key count items = taken ↔
      taken.Pairwise (fun one other => key one < key other) ∧ taken ⊆ items ∧
        ∀ item ∈ items, item ∈ taken ∨
          taken.length = count ∧ ∀ one ∈ taken, key one < key item := by
  rw [firsts]
  generalize ordering : items.dedup.insertionSort (fun one other => key one ≤ key other) = sorted
  have mem : ∀ item, item ∈ sorted ↔ item ∈ items := by
    intro item
    rw [← ordering, List.mem_insertionSort, List.mem_dedup]
  have distinct : sorted.Nodup := by
    rw [← ordering, (List.perm_insertionSort _ _).nodup_iff]
    exact List.nodup_dedup _
  have increasing : sorted.Pairwise fun one other => key one < key other := by
    have ordered := List.pairwise_insertionSort (fun one other => key one ≤ key other) items.dedup
    rw [ordering] at ordered
    refine (ordered.and distinct).imp_of_mem fun {one other} here there both => ?_
    exact lt_of_le_of_ne both.1 fun same =>
      both.2 (apart one ((mem one).mp here) other ((mem other).mp there) same)
  constructor
  · rintro rfl
    refine ⟨increasing.sublist (List.take_sublist _ _), fun item member =>
      (mem item).mp (List.mem_of_mem_take member), fun item member => ?_⟩
    have split : (sorted.take count ++ sorted.drop count).Pairwise fun one other =>
        key one < key other := by rwa [List.take_append_drop]
    have either : item ∈ sorted.take count ++ sorted.drop count := by
      rw [List.take_append_drop]
      exact (mem item).mpr member
    refine (List.mem_append.mp either).imp id fun behind => ⟨?_, fun one before =>
      (List.pairwise_append.mp split).2.2 one before item behind⟩
    have more := List.length_pos_of_mem behind
    rw [List.length_drop] at more
    rw [List.length_take, min_eq_left (by omega)]
  · rintro ⟨ordered, inside, rest⟩
    have others : (taken ++ sorted.filter (· ∉ taken)).Pairwise fun one other =>
        key one < key other := by
      refine List.pairwise_append.mpr ⟨ordered, increasing.filter _, fun one here other there => ?_⟩
      obtain ⟨member, outside⟩ := List.mem_filter.mp there
      rcases rest other ((mem other).mp member) with again | ⟨-, before⟩
      · exact absurd again (of_decide_eq_true outside)
      · exact before one here
    have same : sorted = taken ++ sorted.filter (· ∉ taken) := by
      have distinctToo : (taken ++ sorted.filter (· ∉ taken)).Nodup := by
        refine others.imp fun {one other} before same => ?_
        rw [same] at before
        exact lt_irrefl _ before
      refine List.Perm.eq_of_pairwise (fun one other _ _ before after =>
        absurd before (lt_asymm after)) increasing others
        ((List.perm_ext_iff_of_nodup distinct distinctToo).mpr fun item => ?_)
      rw [List.mem_append, List.mem_filter, decide_eq_true_eq]
      by_cases here : item ∈ taken
      · exact iff_of_true ((mem item).mpr (inside here)) (.inl here)
      · rw [or_iff_right here, and_iff_left here]
    rw [same]
    rcases Nat.lt_or_ge taken.length count with less | full
    · have nothing : sorted.filter (· ∉ taken) = [] := by
        refine List.filter_eq_nil_iff.mpr fun item member outside => ?_
        rcases rest item ((mem item).mp member) with again | ⟨all, -⟩
        · exact absurd again (of_decide_eq_true outside)
        · exact absurd all less.ne
      rw [nothing, List.append_nil, List.take_of_length_le short]
    · exact List.take_left' (le_antisymm short full)

end Firsts

section Matching

variable [LinearOrder κ] (key : α → κ)

/-- A walk takes the first items of another walk of the same length, said place by place: it
takes in order; what it leaves at a place of both comes after all that was taken before;
from a place of its own it takes only what the other walk meets as well; and what the
other walk meets at a place of its own is taken, or the walk has taken enough and all of it
comes before. -/
structure TakesFirsts (cells : Int → List α) (count steps : Nat) (first second : Int) : Prop where
  ordered : ∀ place later, first ≤ place → place < later → later < first + steps →
    ∀ one ∈ takenAt cells count first place, ∀ other ∈ takenAt cells count first later,
      key one < key other
  shared : ∀ place later, first ≤ place → place < later → later < first + steps →
    second ≤ later → later < second + steps → ∀ one ∈ takenAt cells count first place,
      ∀ other ∈ cells later, other ∈ (walk cells steps first).take count ∨ key one < key other
  foreign : ∀ place, first ≤ place → place < first + steps →
    ¬(second ≤ place ∧ place < second + steps) →
      takenAt cells count first place ⊆ walk cells steps second
  missed : ∀ place, second ≤ place → place < second + steps →
    ¬(first ≤ place ∧ place < first + steps) → ∀ item ∈ cells place,
      item ∈ (walk cells steps first).take count ∨
        count ≤ (walk cells steps first).length ∧
          ∀ one ∈ (walk cells steps first).take count, key one < key item

variable {key}

/-- **A walk takes the first items of another exactly if it does so place by place.** -/
theorem firsts_walk_iff [DecidableEq α] (count : Nat) (first : Int)
    (within : ∀ place, (cells place).Pairwise fun one other => key one < key other)
    (apart : ∀ one ∈ walk cells steps second, ∀ other ∈ walk cells steps second,
      key one = key other → one = other) :
    (walk cells steps first).take count = firsts key count (walk cells steps second) ↔
      TakesFirsts key cells count steps first second := by
  have short : ((walk cells steps first).take count).length ≤ count := by
    rw [List.length_take]
    exact min_le_left _ _
  have taken : ∀ item, item ∈ (walk cells steps first).take count ↔
      ∃ place, first ≤ place ∧ place < first + steps ∧ item ∈ takenAt cells count first place := by
    intro item
    rw [take_walk, mem_walk]
  have full : ((walk cells steps first).take count).length = count ↔
      count ≤ (walk cells steps first).length := by
    rw [List.length_take]
    exact min_eq_left_iff
  rw [eq_comm, firsts_eq_iff apart short, full]
  constructor
  · rintro ⟨increasing, inside, rest⟩
    rw [take_walk, walk_pairwise_iff] at increasing
    refine ⟨increasing.2, ?_, ?_, ?_⟩
    · intro place later after between before starts ends one here other there
      refine (rest other (mem_walk.mpr ⟨later, starts, ends, there⟩)).imp id fun both => ?_
      exact both.2 one ((taken one).mpr ⟨place, after, between.trans before, here⟩)
    · intro place after before _ item here
      exact inside ((taken item).mpr ⟨place, after, before, here⟩)
    · intro place starts ends _ item here
      exact rest item (mem_walk.mpr ⟨place, starts, ends, here⟩)
  · intro matching
    refine ⟨?_, ?_, ?_⟩
    · rw [take_walk, walk_pairwise_iff]
      exact ⟨fun place _ _ => (within place).sublist (List.take_sublist _ _), matching.ordered⟩
    · intro item member
      obtain ⟨place, after, before, here⟩ := (taken item).mp member
      by_cases both : second ≤ place ∧ place < second + steps
      · exact mem_walk.mpr ⟨place, both.1, both.2, takenAt_subset place here⟩
      · exact matching.foreign place after before both here
    · intro item member
      obtain ⟨place, starts, ends, here⟩ := mem_walk.mp member
      by_cases both : first ≤ place ∧ place < first + steps
      swap
      · exact matching.missed place starts ends both item here
      rw [or_iff_not_imp_left]
      intro left
      have met : item ∈ walk cells steps first := mem_walk.mpr ⟨place, both.1, both.2, here⟩
      refine ⟨?_, fun one before => ?_⟩
      · by_contra less
        rw [List.take_of_length_le (Nat.le_of_not_le less)] at left
        exact left met
      obtain ⟨origin, after, stops, there⟩ := (taken one).mp before
      have mine : item ∉ takenAt cells count first place := fun member =>
        left ((taken item).mpr ⟨place, both.1, both.2, member⟩)
      rcases lt_trichotomy origin place with earlier | rfl | later
      · exact (matching.shared origin place after earlier both.2 starts ends one there item
          here).resolve_left left
      · -- What is left in the cell comes after what is taken from it.
        have split := within origin
        rw [← List.take_append_drop
          (count - (walk cells (origin - first).toNat first).length) (cells origin)] at split here
        exact (List.pairwise_append.mp split).2.2 one there item
          ((List.mem_append.mp here).resolve_left mine)
      · -- Something is taken behind the place, so the place is taken whole.
        have room : (walk cells (place - first).toNat first).length + (cells place).length ≤ _ :=
          length_walk_le both.1 later
        have some := List.length_pos_of_mem there
        rw [takenAt, List.length_take] at some
        have whole : takenAt cells count first place = cells place :=
          List.take_of_length_le (by omega)
        rw [whole] at mine
        exact absurd here mine

/-- Through cells in order a walk takes the first items of another exactly if the two have the
same beginning. -/
theorem CellsInOrder.takesFirsts_iff [DecidableEq α]
    (inOrder : CellsInOrder key cells (min first second) (max first second + steps)) :
    TakesFirsts key cells count steps first second ↔
      count = 0 ∨ SameBeginning cells count steps first second := by
  have increasing := (inOrder.mono (min_le_right _ _) (Int.add_le_add_right (le_max_right _ _) _)
    : CellsInOrder key cells second (second + steps)).walk_increasing
  have apart : ∀ one ∈ walk cells steps second, ∀ other ∈ walk cells steps second,
      key one = key other → one = other := by
    have keys : ((walk cells steps second).map key).Nodup :=
      List.pairwise_map.mpr (increasing.imp ne_of_lt)
    exact fun one here other there => List.inj_on_of_nodup_map keys here there
  rw [← firsts_walk_iff count first inOrder.within apart, firsts_eq_take increasing]
  rcases Nat.eq_zero_or_pos count with none | positive
  · rw [none, List.take_zero, List.take_zero]
    exact iff_of_true rfl (.inl rfl)
  · rw [take_walk_eq_iff positive inOrder, or_iff_right positive.ne']

end Matching

end Intervals
