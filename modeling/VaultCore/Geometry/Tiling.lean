import Mathlib.Data.Set.Lattice
import Mathlib.Data.Set.Prod
import Mathlib.Order.CompletePartialOrder
import Mathlib.Order.Interval.Set.Basic
import Mathlib.Order.MinMax
import Mathlib.Tactic.Common

/-!
# Tilings by half-open boxes

A list of pieces tiles a region when no two of them meet and together they are
the region.  Cutting a hole out of every piece tiles what the hole leaves; a
box is cut into at most four boxes around the hole.
-/

namespace VaultCore

section Tiling

variable {α β : Type} {points : β → Set α} {pieces : List β}
  {region hole : Set α}

/-- No two pieces meet, and together they are the region. -/
structure Tiles (points : β → Set α) (pieces : List β) (region : Set α) :
    Prop where
  apart : pieces.Pairwise fun piece other =>
    Disjoint (points piece) (points other)
  covers : ∀ point, point ∈ region ↔ ∃ piece ∈ pieces, point ∈ points piece

namespace Tiles

theorem single (piece : β) : Tiles points [piece] (points piece) where
  apart := List.pairwise_singleton _ piece
  covers := fun point => by
    simp only [List.mem_singleton, exists_eq_left]

/-- A piece that is left out when it has no points. -/
theorem single_if {condition : Prop} [Decidable condition] {piece : β}
    (needed : ∀ point ∈ points piece, condition) :
    Tiles points (if condition then [piece] else []) (points piece) where
  apart := by
    split
    · exact List.pairwise_singleton _ piece
    · exact .nil
  covers := fun point => by
    constructor
    · intro inside
      rw [if_pos (needed point inside)]
      exact ⟨piece, List.mem_singleton_self piece, inside⟩
    · rintro ⟨other, member, inside⟩
      split at member
      · rw [List.mem_singleton.mp member] at inside
        exact inside
      · cases member

theorem subset (tiles : Tiles points pieces region) {piece : β}
    (member : piece ∈ pieces) : points piece ⊆ region := by
  intro point inside
  exact (tiles.covers point).mpr ⟨piece, member, inside⟩

theorem iUnion_eq (tiles : Tiles points pieces region) :
    ⋃ piece ∈ pieces, points piece = region := by
  ext point
  rw [tiles.covers point]
  simp only [Set.mem_iUnion, exists_prop]

theorem of_map {γ : Type} {name : γ → β} {names : List γ}
    (tiles : Tiles points (names.map name) region) :
    Tiles (fun piece => points (name piece)) names region where
  apart := by
    have apart := tiles.apart
    rw [List.pairwise_map] at apart
    exact apart
  covers := fun point => by
    rw [tiles.covers point]
    simp only [List.mem_map, exists_exists_and_eq_and]

/-- Tilings of parts that do not meet are one tiling. -/
theorem append {others : List β} {rest : Set α}
    (tiles : Tiles points pieces region) (tilesRest : Tiles points others rest)
    (apart : Disjoint region rest) :
    Tiles points (pieces ++ others) (region ∪ rest) where
  apart := by
    apply List.pairwise_append.mpr
    refine ⟨tiles.apart, tilesRest.apart, ?_⟩
    intro piece member other otherMember
    exact apart.mono (tiles.subset member) (tilesRest.subset otherMember)
  covers := fun point => by
    rw [Set.mem_union, tiles.covers, tilesRest.covers]
    constructor
    · rintro (⟨piece, member, inside⟩ | ⟨piece, member, inside⟩)
      · exact ⟨piece, List.mem_append_left _ member, inside⟩
      · exact ⟨piece, List.mem_append_right _ member, inside⟩
    · rintro ⟨piece, member, inside⟩
      rcases List.mem_append.mp member with first | second
      · exact .inl ⟨piece, first, inside⟩
      · exact .inr ⟨piece, second, inside⟩

theorem filter {keep : β → Bool} (tiles : Tiles points pieces region)
    (drops : ∀ piece ∈ pieces, ∀ point ∈ points piece, keep piece = true) :
    Tiles points (pieces.filter keep) region where
  apart := tiles.apart.sublist List.filter_sublist
  covers := fun point => by
    rw [tiles.covers point]
    constructor
    · rintro ⟨piece, member, inside⟩
      exact ⟨piece, List.mem_filter.mpr
        ⟨member, drops piece member point inside⟩, inside⟩
    · rintro ⟨piece, member, inside⟩
      exact ⟨piece, (List.mem_filter.mp member).1, inside⟩

/-- A hole is cut out of every piece. -/
theorem cut {around : β → List β} (tiles : Tiles points pieces region)
    (cuts : ∀ piece ∈ pieces,
      Tiles points (around piece) (points piece \ hole)) :
    Tiles points (pieces.flatMap around) (region \ hole) where
  apart := by
    apply List.pairwise_flatMap.mpr
    refine ⟨fun piece member => (cuts piece member).apart, ?_⟩
    apply tiles.apart.imp_of_mem
    intro piece other member otherMember apart part partMember otherPart
      otherPartMember
    have inside := (cuts piece member).subset partMember
    have otherInside := (cuts other otherMember).subset otherPartMember
    exact apart.mono (inside.trans Set.sdiff_subset)
      (otherInside.trans Set.sdiff_subset)
  covers := fun point => by
    rw [Set.mem_sdiff, tiles.covers point]
    constructor
    · rintro ⟨⟨piece, member, inside⟩, outside⟩
      obtain ⟨part, partMember, insidePart⟩ :=
        ((cuts piece member).covers point).mp ⟨inside, outside⟩
      exact ⟨part, List.mem_flatMap.mpr ⟨piece, member, partMember⟩,
        insidePart⟩
    · rintro ⟨part, partMember, insidePart⟩
      obtain ⟨piece, member, ofPiece⟩ := List.mem_flatMap.mp partMember
      obtain ⟨inside, outside⟩ :=
        (cuts piece member).subset ofPiece insidePart
      exact ⟨⟨piece, member, inside⟩, outside⟩

/-- Holes that are cut out one after the other leave what none of them
has. -/
theorem cutAll {γ : Type} {holePoints : γ → Set α} {holes : List γ}
    {around : γ → β → List β} (tiles : Tiles points pieces region)
    (cuts : ∀ hole ∈ holes, ∀ piece,
      Tiles points (around hole piece) (points piece \ holePoints hole)) :
    Tiles points
      (holes.foldl (fun pieces hole => pieces.flatMap (around hole)) pieces)
      (region \ ⋃ hole ∈ holes, holePoints hole) := by
  induction holes generalizing pieces region with
  | nil =>
      simpa using tiles
  | cons hole holes ih =>
      have first := tiles.cut fun piece _ =>
        cuts hole List.mem_cons_self piece
      have later := ih first fun other member =>
        cuts other (List.mem_cons_of_mem hole member)
      have same : region \ ⋃ other ∈ hole :: holes, holePoints other =
          (region \ holePoints hole) \ ⋃ other ∈ holes, holePoints other := by
        simp only [List.mem_cons, Set.iUnion_iUnion_eq_or_left,
          Set.sdiff_sdiff]
      rw [List.foldl_cons, same]
      exact later

end Tiles

end Tiling

/-- A box, half open: with its left and top edges and without the others. -/
structure HalfOpenBox (α : Type) where
  left : α
  right : α
  top : α
  bottom : α

namespace HalfOpenBox

variable {α : Type} [LinearOrder α] {box hole : HalfOpenBox α}
  {point : α × α}

/-- The points of the box: its left and top edges are in it. -/
def points (box : HalfOpenBox α) : Set (α × α) :=
  Set.Ico box.left box.right ×ˢ Set.Ico box.top box.bottom

theorem mem_points :
    point ∈ box.points ↔
      (box.left ≤ point.1 ∧ point.1 < box.right) ∧
        box.top ≤ point.2 ∧ point.2 < box.bottom :=
  Iff.rfl

/-- The edges are in their order. -/
def Ordered (box : HalfOpenBox α) : Prop :=
  box.left ≤ box.right ∧ box.top ≤ box.bottom

/-- Whether the box and the hole overlap. -/
def meets (box hole : HalfOpenBox α) : Bool :=
  box.left < hole.right && hole.left < box.right && box.top < hole.bottom &&
    hole.top < box.bottom

/-- The rows of the box above the hole. -/
def above (box hole : HalfOpenBox α) : HalfOpenBox α :=
  { box with bottom := hole.top }

/-- The rows of the box below the hole. -/
def below (box hole : HalfOpenBox α) : HalfOpenBox α :=
  { box with top := hole.bottom }

/-- The rows of the box that the hole is in. -/
def band (box hole : HalfOpenBox α) : HalfOpenBox α :=
  { box with
    top := Max.max box.top hole.top
    bottom := Min.min box.bottom hole.bottom }

/-- The part of the band that is left of the hole. -/
def leftOf (box hole : HalfOpenBox α) : HalfOpenBox α :=
  { box.band hole with right := hole.left }

/-- The part of the band that is right of the hole. -/
def rightOf (box hole : HalfOpenBox α) : HalfOpenBox α :=
  { box.band hole with left := hole.right }

/-- The boxes around the hole. -/
def around (box hole : HalfOpenBox α) : List (HalfOpenBox α) :=
  let band := box.band hole
  if box.meets hole then
    (if box.top < hole.top then [box.above hole] else []) ++
    (if hole.bottom < box.bottom then [box.below hole] else []) ++
    (if band.top < band.bottom ∧ box.left < hole.left then [box.leftOf hole]
      else []) ++
    (if band.top < band.bottom ∧ hole.right < box.right then
      [box.rightOf hole] else [])
  else [box]

theorem nonempty_points_iff :
    box.points.Nonempty ↔ box.left < box.right ∧ box.top < box.bottom := by
  rw [points, Set.prod_nonempty_iff, Set.nonempty_Ico, Set.nonempty_Ico]

theorem meets_iff :
    box.meets hole = true ↔
      box.left < hole.right ∧ hole.left < box.right ∧
        box.top < hole.bottom ∧ hole.top < box.bottom := by
  simp only [meets, Bool.and_eq_true, decide_eq_true_eq, and_assoc]

theorem meets_of_mem (inBox : point ∈ box.points)
    (inHole : point ∈ hole.points) : box.meets hole = true := by
  obtain ⟨⟨left, right⟩, top, bottom⟩ := inBox
  obtain ⟨⟨holeLeft, holeRight⟩, holeTop, holeBottom⟩ := inHole
  exact meets_iff.mpr ⟨left.trans_lt holeRight, holeLeft.trans_lt right,
    top.trans_lt holeBottom, holeTop.trans_lt bottom⟩

theorem disjoint_of_rows {other : HalfOpenBox α}
    (rows : box.bottom ≤ other.top) : Disjoint box.points other.points := by
  apply Set.disjoint_left.mpr
  intro point inBox inOther
  exact absurd (inBox.2.2.trans_le rows) (not_lt.mpr inOther.2.1)

theorem disjoint_of_columns {other : HalfOpenBox α}
    (columns : box.right ≤ other.left) :
    Disjoint box.points other.points := by
  apply Set.disjoint_left.mpr
  intro point inBox inOther
  exact absurd (inBox.1.2.trans_le columns) (not_lt.mpr inOther.1.1)

/-- Around a hole that it meets, a box is the union of four boxes. -/
theorem points_around (ordered : hole.Ordered)
    (meets : box.meets hole = true) :
    (box.above hole).points ∪ (box.below hole).points ∪
        (box.leftOf hole).points ∪ (box.rightOf hole).points =
      box.points \ hole.points := by
  obtain ⟨leftMeets, rightMeets, topMeets, bottomMeets⟩ := meets_iff.mp meets
  obtain ⟨columns, rows⟩ := ordered
  ext ⟨x, y⟩
  simp only [Set.mem_union, Set.mem_sdiff, mem_points, above, below, leftOf,
    rightOf, band, max_le_iff, lt_min_iff]
  grind

/-- The boxes around an ordered hole tile what the hole leaves of a box. -/
theorem around_tiles (box : HalfOpenBox α) (ordered : hole.Ordered) :
    Tiles points (box.around hole) (box.points \ hole.points) := by
  by_cases meets : box.meets hole = true
  · rw [around, if_pos meets, ← points_around ordered meets]
    have above : Tiles points
        (if box.top < hole.top then [box.above hole] else [])
        (box.above hole).points := by
      apply Tiles.single_if
      intro point inside
      exact inside.2.1.trans_lt inside.2.2
    have below : Tiles points
        (if hole.bottom < box.bottom then [box.below hole] else [])
        (box.below hole).points := by
      apply Tiles.single_if
      intro point inside
      exact inside.2.1.trans_lt inside.2.2
    have leftOf : Tiles points
        (if (box.band hole).top < (box.band hole).bottom ∧
          box.left < hole.left then [box.leftOf hole] else [])
        (box.leftOf hole).points := by
      apply Tiles.single_if
      intro point inside
      exact ⟨inside.2.1.trans_lt inside.2.2,
        inside.1.1.trans_lt inside.1.2⟩
    have rightOf : Tiles points
        (if (box.band hole).top < (box.band hole).bottom ∧
          hole.right < box.right then [box.rightOf hole] else [])
        (box.rightOf hole).points := by
      apply Tiles.single_if
      intro point inside
      exact ⟨inside.2.1.trans_lt inside.2.2,
        inside.1.1.trans_lt inside.1.2⟩
    obtain ⟨columns, rows⟩ := ordered
    refine ((above.append below ?_).append leftOf ?_).append rightOf ?_
    · exact disjoint_of_rows rows
    · apply Set.disjoint_union_left.mpr
      exact ⟨disjoint_of_rows (le_max_right _ _),
        (disjoint_of_rows (min_le_right _ _)).symm⟩
    · apply Set.disjoint_union_left.mpr
      refine ⟨Set.disjoint_union_left.mpr ?_, disjoint_of_columns columns⟩
      exact ⟨disjoint_of_rows (le_max_right _ _),
        (disjoint_of_rows (min_le_right _ _)).symm⟩
  · have apart : box.points \ hole.points = box.points := by
      apply sdiff_eq_left.mpr
      apply Set.disjoint_left.mpr
      intro point inBox inHole
      exact meets (meets_of_mem inBox inHole)
    rw [around, if_neg meets, apart]
    exact Tiles.single box

end HalfOpenBox

end VaultCore
