import AppointmentVoice.Intervals.Windows

/-!
# The points that lists of windows cover

Overlapping two lists of windows and cutting blocks out of a list, read as operations on
the sets of points that the lists cover.  The windows of a list may overlap and come in
any order: the set that is covered forgets both.
-/

set_option autoImplicit false

namespace Intervals

variable {τ : Type} [LinearOrder τ]

/-! ## Covered points -/

/-- Two windows have no point in common. -/
def Apart (first second : Window τ) : Prop := Disjoint first.points second.points

@[simp] theorem taken_nil : taken ([] : List (Window τ)) = ∅ := by
  ext point
  simp [taken]

@[simp] theorem taken_cons (window : Window τ) (windows : List (Window τ)) :
    taken (window :: windows) = window.points ∪ taken windows := by
  ext point
  simp [taken]

@[simp] theorem taken_append (windows others : List (Window τ)) :
    taken (windows ++ others) = taken windows ∪ taken others := by
  induction windows with
  | nil => rw [List.nil_append, taken_nil, Set.empty_union]
  | cons window windows ih => rw [List.cons_append, taken_cons, taken_cons, ih, Set.union_assoc]

/-- What is covered does not depend on the order. -/
theorem taken_perm {windows others : List (Window τ)} (perm : windows.Perm others) :
    taken windows = taken others := by
  ext point
  simp only [taken, Set.mem_ofPred_eq, perm.mem_iff]

theorem points_subset_taken {windows : List (Window τ)} {window : Window τ}
    (member : window ∈ windows) : window.points ⊆ taken windows :=
  fun _ inside => ⟨window, member, inside⟩

/-- If each window becomes windows that cover a part of it, the list covers that part. -/
theorem taken_flatMap {parts : Window τ → List (Window τ)} {kept : Set τ}
    (each : ∀ window, taken (parts window) = window.points ∩ kept) (windows : List (Window τ)) :
    taken (windows.flatMap parts) = taken windows ∩ kept := by
  induction windows with
  | nil => rw [List.flatMap_nil, taken_nil, Set.empty_inter]
  | cons window windows ih =>
      rw [List.flatMap_cons, taken_append, each, ih, taken_cons, Set.union_inter_distrib_right]

/-! ## Overlaps -/

/-- The points that two windows share. -/
def overlap (first second : Window τ) : Window τ := (max first.1 second.1, min first.2 second.2)

theorem points_overlap (first second : Window τ) :
    (overlap first second).points = first.points ∩ second.points :=
  Set.Ico_inter_Ico.symm

/-- The overlaps that have a point, of a window with each one of a list. -/
def overlaps (others : List (Window τ)) (window : Window τ) : List (Window τ) :=
  others.filterMap fun other =>
    if (overlap window other).1 < (overlap window other).2 then some (overlap window other)
      else none

theorem mem_overlaps {others : List (Window τ)} {window part : Window τ} :
    part ∈ overlaps others window ↔
      ∃ other ∈ others, (overlap window other).Proper ∧ overlap window other = part := by
  simp only [overlaps, List.mem_filterMap, Option.ite_none_right_eq_some, Option.some.injEq,
    Window.Proper]

theorem taken_overlaps (others : List (Window τ)) (window : Window τ) :
    taken (overlaps others window) = window.points ∩ taken others := by
  ext point
  constructor
  · rintro ⟨part, member, inside⟩
    obtain ⟨other, memberToo, -, rfl⟩ := mem_overlaps.mp member
    rw [points_overlap] at inside
    exact ⟨inside.1, other, memberToo, inside.2⟩
  · rintro ⟨inWindow, other, member, inOther⟩
    have inside : point ∈ (overlap window other).points := by
      rw [points_overlap]
      exact ⟨inWindow, inOther⟩
    -- An overlap with a point in it is not dropped.
    have proper : (overlap window other).Proper := inside.1.trans_lt inside.2
    exact ⟨overlap window other, mem_overlaps.mpr ⟨other, member, proper, rfl⟩, inside⟩

/-- **Overlapping two lists intersects what they cover.** -/
theorem taken_flatMap_overlaps (windows others : List (Window τ)) :
    taken (windows.flatMap (overlaps others)) = taken windows ∩ taken others :=
  taken_flatMap (taken_overlaps others) windows

theorem inside_of_mem_overlaps {windows others : List (Window τ)} {part : Window τ}
    (member : part ∈ windows.flatMap (overlaps others)) :
    part.Proper ∧ ∃ window ∈ windows, part.points ⊆ window.points := by
  obtain ⟨window, ofList, ofWindow⟩ := List.mem_flatMap.mp member
  obtain ⟨other, -, proper, rfl⟩ := mem_overlaps.mp ofWindow
  refine ⟨proper, window, ofList, ?_⟩
  rw [points_overlap]
  exact Set.inter_subset_left

/-! ## Cuts -/

/-- A window without room has no point that would be missing. -/
theorem taken_ite_room (first last : τ) :
    taken (if first < last then [(first, last)] else []) = Window.points (first, last) := by
  split
  · rw [taken_cons, taken_nil, Set.union_empty]
  · next none => rw [taken_nil, Window.points, Set.Ico_eq_empty none]

/-- Cutting a block out of a window leaves the other points. -/
theorem taken_cut (block window : Window τ) :
    taken (cut block window) = window.points ∩ (block.points)ᶜ := by
  rw [cut]
  split
  · next apart =>
      rw [taken_cons, taken_nil, Set.union_empty]
      refine (Set.inter_eq_left.mpr fun point inside blocked => ?_).symm
      rcases apart with before | after
      · exact absurd (blocked.2.trans_le before) (not_lt_of_ge inside.1)
      · exact absurd (inside.2.trans_le after) (not_lt_of_ge blocked.1)
  · next meets =>
      rw [not_or, not_le, not_le] at meets
      rw [taken_append, taken_ite_room, taken_ite_room]
      ext point
      simp only [Window.points, Set.mem_union, Set.mem_Ico, Set.mem_inter_iff, Set.mem_compl_iff,
        not_and_or, not_le, not_lt]
      constructor
      · rintro (⟨starts, before⟩ | ⟨after, ends⟩)
        · exact ⟨⟨starts, before.trans meets.2⟩, .inl before⟩
        · exact ⟨⟨meets.1.le.trans after, ends⟩, .inr after⟩
      · rintro ⟨⟨starts, ends⟩, before | after⟩
        · exact .inl ⟨starts, before⟩
        · exact .inr ⟨after, ends⟩

/-- **Cutting blocks out of a list removes what they cover**: each block cuts what the
blocks before it have left. -/
theorem taken_cutAll (windows blocks : List (Window τ)) :
    taken (cutAll windows blocks) = taken windows \ taken blocks := by
  induction blocks generalizing windows with
  | nil => rw [taken_nil, Set.sdiff_empty, cutAll, List.foldl_nil]
  | cons block blocks ih =>
      change taken (cutAll (windows.flatMap (cut block)) blocks) = _
      rw [ih, taken_flatMap (taken_cut block), taken_cons, ← Set.sdiff_eq, Set.sdiff_sdiff]

/-- What a cut leaves of a window with a point has points, all of them in the window. -/
theorem inside_of_mem_cut {block window part : Window τ} (proper : window.Proper)
    (member : part ∈ cut block window) : part.Proper ∧ part.points ⊆ window.points := by
  constructor
  · rw [cut] at member
    split at member
    · rw [List.mem_singleton] at member
      exact member ▸ proper
    · rcases List.mem_append.mp member with left | right
      · obtain ⟨room, same⟩ := List.mem_ite_nil_right.mp left
        rw [List.mem_singleton] at same
        exact same ▸ room
      · obtain ⟨room, same⟩ := List.mem_ite_nil_right.mp right
        rw [List.mem_singleton] at same
        exact same ▸ room
  · calc part.points ⊆ taken (cut block window) := points_subset_taken member
      _ = window.points ∩ (block.points)ᶜ := taken_cut block window
      _ ⊆ window.points := Set.inter_subset_left

theorem inside_of_mem_cutAll {windows blocks : List (Window τ)}
    (proper : ∀ window ∈ windows, window.Proper) {part : Window τ}
    (member : part ∈ cutAll windows blocks) :
    part.Proper ∧ ∃ window ∈ windows, part.points ⊆ window.points := by
  induction blocks generalizing windows with
  | nil => exact ⟨proper part member, part, member, subset_rfl⟩
  | cons block blocks ih =>
      have properToo : ∀ rest ∈ windows.flatMap (cut block), rest.Proper := by
        intro rest ofRest
        obtain ⟨window, ofList, ofWindow⟩ := List.mem_flatMap.mp ofRest
        exact (inside_of_mem_cut (proper window ofList) ofWindow).1
      obtain ⟨isProper, rest, ofRest, inRest⟩ := ih properToo member
      obtain ⟨window, ofList, ofWindow⟩ := List.mem_flatMap.mp ofRest
      exact ⟨isProper, window, ofList,
        inRest.trans (inside_of_mem_cut (proper window ofList) ofWindow).2⟩

/-! ## Windows apart from each other -/

theorem Apart.mono {first second part other : Window τ} (apart : Apart first second)
    (inFirst : part.points ⊆ first.points) (inSecond : other.points ⊆ second.points) :
    Apart part other :=
  Disjoint.mono inFirst inSecond apart

/-- The two parts of a window lie on the two sides of the block. -/
theorem pairwise_apart_cut {block : Window τ} (proper : block.Proper) (window : Window τ) :
    (cut block window).Pairwise Apart := by
  rw [cut]
  split
  · exact List.pairwise_singleton _ _
  · split
    · split
      · refine List.pairwise_pair.mpr (Set.disjoint_left.mpr fun point left right => ?_)
        exact absurd (proper.trans_le right.1) (not_lt_of_ge left.2.le)
      · exact List.pairwise_singleton _ _
    · split
      · exact List.pairwise_singleton _ _
      · exact List.Pairwise.nil

/-- **Cutting keeps windows apart.** -/
theorem pairwise_apart_cutAll {windows blocks : List (Window τ)}
    (proper : ∀ block ∈ blocks, block.Proper) (apart : windows.Pairwise Apart) :
    (cutAll windows blocks).Pairwise Apart := by
  induction blocks generalizing windows with
  | nil => exact apart
  | cons block blocks ih =>
      refine ih (fun other member => proper other (List.mem_cons_of_mem _ member)) ?_
      rw [List.pairwise_flatMap]
      refine ⟨fun window _ => pairwise_apart_cut (proper block List.mem_cons_self) window, ?_⟩
      refine apart.imp fun {first second} separate part inFirst other inSecond =>
        separate.mono ?_ ?_
      · exact (points_subset_taken inFirst).trans
          ((taken_cut block first).subset.trans Set.inter_subset_left)
      · exact (points_subset_taken inSecond).trans
          ((taken_cut block second).subset.trans Set.inter_subset_left)

end Intervals
