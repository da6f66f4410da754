import Mathlib

/-!
# Cutting blocks out of windows

Half-open windows over any linear order.  Cutting a block out of a window leaves
what lies before it and what lies after it; cutting several blocks, one after the
other, leaves exactly the maximal pieces of the window that no block touches.

The cut keeps every piece as large as it can be, and loses no free interval: these
two facts are carried from block to block, and together they single the pieces out.
-/

set_option autoImplicit false

namespace Intervals

variable {τ : Type} [LinearOrder τ]

/-! ## Windows -/

/-- A half-open interval by its ends; it may be empty. -/
abbrev Window (τ : Type) := τ × τ

/-- The points of a window. -/
def Window.points (window : Window τ) : Set τ := Set.Ico window.1 window.2

/-- The points that some block takes up. -/
def taken (blocks : List (Window τ)) : Set τ := {point | ∃ block ∈ blocks, point ∈ block.points}

/-- The window has a point. -/
def Window.Proper (window : Window τ) : Prop := window.1 < window.2

/-- The interval lies in the window and meets no blocked point. -/
def Free (blocked : Set τ) (window interval : Window τ) : Prop :=
  interval.points ⊆ window.points \ blocked

/-- A maximal free interval of the window. -/
structure IsPiece (blocked : Set τ) (window piece : Window τ) : Prop where
  proper : piece.Proper
  free : Free blocked window piece
  maximal : ∀ larger : Window τ, piece.points ⊆ larger.points → Free blocked window larger →
    larger = piece

theorem points_subset_iff {inner outer : Window τ} (proper : inner.Proper) :
    inner.points ⊆ outer.points ↔ outer.1 ≤ inner.1 ∧ inner.2 ≤ outer.2 :=
  Set.Ico_subset_Ico_iff proper

theorem disjoint_iff {first second : Window τ} (proper : first.Proper) (properToo : second.Proper) :
    Disjoint first.points second.points ↔ first.2 ≤ second.1 ∨ second.2 ≤ first.1 := by
  rw [Window.points, Window.points, Set.Ico_disjoint_Ico, le_max_iff, min_le_iff, min_le_iff]
  constructor
  · rintro ((absurdly | ends) | (starts | absurdly))
    · exact absurd absurdly (not_le_of_gt proper)
    · exact .inr ends
    · exact .inl starts
    · exact absurd absurdly (not_le_of_gt properToo)
  · rintro (ends | starts)
    · exact .inr (.inl ends)
    · exact .inl (.inr starts)

/-- Free of a further block means free of what was blocked before and beside it. -/
theorem free_union_iff {blocked : Set τ} {block window interval : Window τ}
    (proper : interval.Proper) (properBlock : block.Proper) :
    Free (block.points ∪ blocked) window interval ↔
      Free blocked window interval ∧ (interval.2 ≤ block.1 ∨ block.2 ≤ interval.1) := by
  rw [← disjoint_iff proper properBlock, Free, Free, Set.subset_sdiff, Set.subset_sdiff,
    Set.disjoint_union_right]
  tauto

/-- What contains a proper window is proper. -/
theorem proper_of_subset {inner outer : Window τ} (proper : inner.Proper)
    (inside : inner.points ⊆ outer.points) : outer.Proper := by
  obtain ⟨starts, ends⟩ := (points_subset_iff proper).mp inside
  exact lt_of_le_of_lt starts (lt_of_lt_of_le proper ends)

/-- A free interval that meets a piece lies in it: otherwise the two together would
be a larger free interval. -/
theorem IsPiece.subset_of_meets {blocked : Set τ} {window piece common interval : Window τ}
    (isPiece : IsPiece blocked window piece) (proper : common.Proper)
    (inPiece : common.points ⊆ piece.points) (inInterval : common.points ⊆ interval.points)
    (free : Free blocked window interval) : interval.points ⊆ piece.points := by
  obtain ⟨pieceStarts, pieceEnds⟩ := (points_subset_iff proper).mp inPiece
  obtain ⟨intervalStarts, intervalEnds⟩ := (points_subset_iff proper).mp inInterval
  have joined : piece.points ∪ interval.points =
      Window.points (min piece.1 interval.1, max piece.2 interval.2) :=
    Set.Ico_union_Ico' (intervalStarts.trans (proper.le.trans pieceEnds))
      (pieceStarts.trans (proper.le.trans intervalEnds))
  have whole := isPiece.maximal (min piece.1 interval.1, max piece.2 interval.2)
    (joined ▸ Set.subset_union_left) (by
      rw [Free, ← joined]
      exact Set.union_subset isPiece.free free)
  rw [whole] at joined
  exact joined ▸ Set.subset_union_right

/-! ## Cutting -/

/-- What a block leaves of a window. -/
def cut (block window : Window τ) : List (Window τ) :=
  if block.2 ≤ window.1 ∨ window.2 ≤ block.1 then [window]
  else (if window.1 < block.1 then [(window.1, block.1)] else []) ++
    (if block.2 < window.2 then [(block.2, window.2)] else [])

/-- What several blocks leave, cut out one after the other. -/
def cutAll (windows blocks : List (Window τ)) : List (Window τ) :=
  blocks.foldl (fun rest block => rest.flatMap (cut block)) windows

/-- A proper part of a cut window lies in it beside the block, and ends where the
window or the block does. -/
theorem mem_cut {block window part : Window τ} (member : part ∈ cut block window)
    (proper : part.Proper) :
    window.Proper ∧ part.points ⊆ window.points ∧ (part.2 ≤ block.1 ∨ block.2 ≤ part.1) ∧
      (part.1 = window.1 ∨ part.1 = block.2) ∧ (part.2 = window.2 ∨ part.2 = block.1) := by
  rw [points_subset_iff proper]
  rw [cut] at member
  split at member
  · next apart =>
      rw [List.mem_singleton] at member
      subst member
      exact ⟨proper, ⟨le_rfl, le_rfl⟩, apart.symm, .inl rfl, .inl rfl⟩
  · next meets =>
      rw [not_or, not_le, not_le] at meets
      rw [List.mem_append] at member
      rcases member with left | right
      · split at left
        · rw [List.mem_singleton] at left
          subst left
          exact ⟨proper.trans meets.2, ⟨le_rfl, meets.2.le⟩, .inl le_rfl, .inl rfl, .inr rfl⟩
        · exact absurd left List.not_mem_nil
      · split at right
        · rw [List.mem_singleton] at right
          subst right
          exact ⟨meets.1.trans proper, ⟨meets.1.le, le_rfl⟩, .inr le_rfl, .inr rfl, .inl rfl⟩
        · exact absurd right List.not_mem_nil

/-- An interval of the window beside the block lies in a part. -/
theorem exists_mem_cut {block window interval : Window τ} (proper : interval.Proper)
    (inside : interval.points ⊆ window.points)
    (beside : interval.2 ≤ block.1 ∨ block.2 ≤ interval.1) :
    ∃ part ∈ cut block window, interval.points ⊆ part.points := by
  obtain ⟨starts, ends⟩ := (points_subset_iff proper).mp inside
  rw [cut]
  split
  · exact ⟨window, List.mem_singleton_self _, inside⟩
  · rcases beside with before | after
    · have room : window.1 < block.1 := lt_of_le_of_lt starts (lt_of_lt_of_le proper before)
      refine ⟨(window.1, block.1), ?_, (points_subset_iff proper).mpr ⟨starts, before⟩⟩
      rw [if_pos room]
      exact List.mem_append_left _ (List.mem_singleton_self _)
    · have room : block.2 < window.2 := lt_of_le_of_lt after (lt_of_lt_of_le proper ends)
      refine ⟨(block.2, window.2), ?_, (points_subset_iff proper).mpr ⟨after, ends⟩⟩
      rw [if_pos room]
      exact List.mem_append_right _ (List.mem_singleton_self _)

/-! ## Pieces -/

/-- The proper windows of the list are the pieces of a window, and every free
interval lies in one of them. -/
structure Pieces (blocked : Set τ) (window : Window τ) (list : List (Window τ)) : Prop where
  sound : ∀ piece ∈ list, piece.Proper → IsPiece blocked window piece
  covers : ∀ interval : Window τ, interval.Proper → Free blocked window interval →
    ∃ piece ∈ list, interval.points ⊆ piece.points

theorem Pieces.mem_iff {blocked : Set τ} {list : List (Window τ)} {window piece : Window τ}
    (pieces : Pieces blocked window list) :
    piece ∈ list ∧ piece.Proper ↔ IsPiece blocked window piece := by
  constructor
  · rintro ⟨member, proper⟩
    exact pieces.sound piece member proper
  · intro isPiece
    obtain ⟨larger, member, inside⟩ := pieces.covers piece isPiece.proper isPiece.free
    have largerPiece := pieces.sound larger member (proper_of_subset isPiece.proper inside)
    rw [← isPiece.maximal larger inside largerPiece.free]
    exact ⟨member, largerPiece.proper⟩

/-- A window that nothing has been cut out of is its own piece. -/
theorem Pieces.whole (window : Window τ) : Pieces ∅ window [window] := by
  constructor
  · intro piece member proper
    rw [List.mem_singleton] at member
    subst member
    refine ⟨proper, ?_, fun larger inside free => ?_⟩
    · rw [Free, Set.sdiff_empty]
    · rw [Free, Set.sdiff_empty] at free
      obtain ⟨starts, ends⟩ := (points_subset_iff proper).mp inside
      obtain ⟨startsToo, endsToo⟩ := (points_subset_iff (proper_of_subset proper inside)).mp free
      exact Prod.ext (le_antisymm starts startsToo) (le_antisymm endsToo ends)
  · intro interval _ free
    rw [Free, Set.sdiff_empty] at free
    exact ⟨window, List.mem_singleton_self _, free⟩

/-- Cutting one more block keeps the pieces. -/
theorem Pieces.step {blocked : Set τ} {list : List (Window τ)} {block window : Window τ}
    (properBlock : block.Proper) (pieces : Pieces blocked window list) :
    Pieces (block.points ∪ blocked) window (list.flatMap (cut block)) := by
  constructor
  · intro part member proper
    obtain ⟨piece, pieceMember, partMember⟩ := List.mem_flatMap.mp member
    obtain ⟨pieceProper, inside, beside, starts, ends⟩ := mem_cut partMember proper
    have isPiece := pieces.sound piece pieceMember pieceProper
    refine ⟨proper, ?_, fun larger around free => ?_⟩
    · exact (free_union_iff proper properBlock).mpr ⟨inside.trans isPiece.free, beside⟩
    · have largerProper := proper_of_subset proper around
      obtain ⟨largerFree, largerBeside⟩ := (free_union_iff largerProper properBlock).mp free
      have within := isPiece.subset_of_meets proper inside around largerFree
      obtain ⟨startsLater, endsEarlier⟩ := (points_subset_iff largerProper).mp within
      obtain ⟨startsBefore, endsAfter⟩ := (points_subset_iff proper).mp around
      refine Prod.ext (le_antisymm startsBefore ?_) (le_antisymm ?_ endsAfter)
      · rcases starts with atPiece | atBlock
        · rwa [atPiece]
        · rcases largerBeside with before | after
          · exact absurd (before.trans_lt properBlock) (not_lt_of_ge
              ((atBlock ▸ proper.le : block.2 ≤ part.2).trans endsAfter))
          · rwa [atBlock]
      · rcases ends with atPiece | atBlock
        · rwa [atPiece]
        · rcases largerBeside with before | after
          · rwa [atBlock]
          · exact absurd (properBlock.trans_le after) (not_lt_of_ge
              (startsBefore.trans (atBlock ▸ proper.le : part.1 ≤ block.1)))
  · intro interval proper free
    obtain ⟨earlier, beside⟩ := (free_union_iff proper properBlock).mp free
    obtain ⟨piece, member, inside⟩ := pieces.covers interval proper earlier
    obtain ⟨part, partMember, within⟩ := exists_mem_cut proper inside beside
    exact ⟨part, List.mem_flatMap.mpr ⟨piece, member, partMember⟩, within⟩

/-- What the blocks leave of a window are its pieces. -/
theorem Pieces.cutAll {blocked : Set τ} {blocks list : List (Window τ)} {window : Window τ}
    (proper : ∀ block ∈ blocks, block.Proper) (pieces : Pieces blocked window list) :
    Pieces (taken blocks ∪ blocked) window (cutAll list blocks) := by
  induction blocks generalizing blocked list with
  | nil =>
      have nothing : taken ([] : List (Window τ)) = ∅ := by
        ext point
        simp [taken]
      rw [nothing, Set.empty_union]
      exact pieces
  | cons block blocks ih =>
      have split : taken (block :: blocks) = taken blocks ∪ block.points := by
        ext point
        simp only [taken, Set.mem_ofPred_eq, List.mem_cons, exists_eq_or_imp,
          Set.mem_union, or_comm]
      rw [split, Set.union_assoc]
      exact ih (fun other member => proper other (List.mem_cons_of_mem _ member))
        (pieces.step (proper block List.mem_cons_self))

theorem cutAll_eq_flatMap (windows blocks : List (Window τ)) :
    cutAll windows blocks = windows.flatMap fun window => cutAll [window] blocks := by
  induction blocks generalizing windows with
  | nil => exact (List.flatMap_singleton' windows).symm
  | cons block blocks ih =>
      have one : ∀ window, cutAll [window] (block :: blocks) =
        cutAll (cut block window) blocks := by
        intro window
        change cutAll ([window].flatMap (cut block)) blocks = _
        rw [List.flatMap_singleton]
      change cutAll (windows.flatMap (cut block)) blocks = _
      rw [ih, List.flatMap_assoc]
      simp only [one, ← ih]

/-- **Cutting leaves the pieces.** The proper windows that remain are the maximal
pieces of each single window outside the union of the blocks. -/
theorem mem_cutAll_iff {windows blocks : List (Window τ)} (proper : ∀ block ∈ blocks, block.Proper)
    {piece : Window τ} :
    piece ∈ cutAll windows blocks ∧ piece.Proper ↔
      ∃ window ∈ windows, IsPiece (taken blocks) window piece := by
  have each : ∀ window, piece ∈ cutAll [window] blocks ∧ piece.Proper ↔
      IsPiece (taken blocks) window piece := by
    intro window
    rw [((Pieces.whole window).cutAll proper).mem_iff, Set.union_empty]
  rw [cutAll_eq_flatMap, List.mem_flatMap]
  simp only [← each]
  constructor
  · rintro ⟨⟨window, member, inPieces⟩, isProper⟩
    exact ⟨window, member, inPieces, isProper⟩
  · rintro ⟨window, member, inPieces, isProper⟩
    exact ⟨⟨window, member, inPieces⟩, isProper⟩

/-! ## Grids -/

/-- The steps of a given length that fit between two points, taken one by one. -/
def gridFrom (length stop : Int) : Nat → Int → List Int
  | 0, _ => []
  | fuel + 1, current =>
      if current + length ≤ stop then current :: gridFrom length stop fuel (current + length)
      else []

/-- The step behind the last point lies behind the stop by less than one step. -/
theorem le_max_of_gridFrom (length stop : Int) (fuel : Nat) (current : Int) :
    current + (gridFrom length stop fuel current).length * length ≤ max current stop := by
  induction fuel generalizing current with
  | zero => simp [gridFrom]
  | succ fuel ih =>
      rw [gridFrom]
      split
      · next fits =>
          have rest := ih (current + length)
          rw [max_eq_right fits] at rest
          rw [List.length_cons, Nat.cast_succ, add_mul, one_mul]
          exact le_max_of_le_right (by linarith)
      · simp

/-- The whole grid; a positive length is stepped at most that often. -/
def grid (length start stop : Int) : List Int :=
  gridFrom length stop ((stop - start) / length).toNat start

theorem mem_gridFrom {length stop point : Int} (positive : 0 < length) {fuel : Nat} {current : Int}
    (enough : stop < current + (fuel + 1) * length) :
    point ∈ gridFrom length stop fuel current ↔
      ∃ count : Nat, point = current + count * length ∧ point + length ≤ stop := by
  -- Without room for one step there is no point at all.
  have none : ∀ start, stop < start + length → ¬∃ count : Nat, point = start + count * length ∧
      point + length ≤ stop := by
    rintro start short ⟨count, rfl, fits⟩
    have nonneg : 0 ≤ (count : Int) * length := by positivity
    omega
  induction fuel generalizing current with
  | zero =>
      refine iff_of_false List.not_mem_nil (none current ?_)
      rwa [Nat.cast_zero, zero_add, one_mul] at enough
  | succ fuel ih =>
      rw [gridFrom]
      split
      · next fits =>
          have rest : point ∈ gridFrom length stop fuel (current + length) ↔
              ∃ count : Nat, point = current + length + count * length ∧ point + length ≤ stop := by
            refine ih ?_
            push_cast at enough ⊢
            linarith
          rw [List.mem_cons, rest]
          constructor
          · rintro (rfl | ⟨count, rfl, room⟩)
            · exact ⟨0, by simp, fits⟩
            · exact ⟨count + 1, by push_cast; ring, room⟩
          · rintro ⟨count, rfl, room⟩
            cases count with
            | zero => exact .inl (by simp)
            | succ count => exact .inr ⟨count, by push_cast; ring, room⟩
      · next full => exact iff_of_false List.not_mem_nil (none current (not_le.mp full))

/-- **The grid.** Its points are the multiples of the length from the start that
leave room for one more step. -/
theorem mem_grid {length start stop point : Int} (positive : 0 < length) :
    point ∈ grid length start stop ↔
      ∃ count : Nat, point = start + count * length ∧ point + length ≤ stop :=
  mem_gridFrom positive (by
    have steps : (stop - start) / length ≤ ((stop - start) / length).toNat := Int.self_le_toNat _
    have short : stop - start < ((stop - start) / length + 1) * length :=
      Int.lt_ediv_add_one_mul_self _ positive
    have more := mul_le_mul_of_nonneg_right (add_le_add_left steps 1) positive.le
    omega)

end Intervals
