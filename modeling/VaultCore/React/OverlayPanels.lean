import VaultCore.Geometry.Tiling
import Mathlib.Data.Rat.Lemmas
import Mathlib.Algebra.Order.Ring.Rat

/-!
# The panels of the lock overlay

The overlay covers the viewport except for the excluded rectangles.  Every
exclusion splits each remaining panel into the parts around it, so the panels
tile what the exclusions leave of the viewport, in whatever order they come.
-/

namespace VaultCore

/-- A panel that covers a part of the page. -/
structure VaultLockOverlayPanel where
  top : ℚ
  left : ℚ
  width : ℚ
  height : ℚ
deriving DecidableEq

/-- A rectangle that stays uncovered. -/
structure VaultLockOverlayRect where
  top : ℚ
  left : ℚ
  right : ℚ
  bottom : ℚ
deriving DecidableEq

def panelToRect (panel : VaultLockOverlayPanel) : VaultLockOverlayRect :=
  { top := panel.top
    left := panel.left
    right := panel.left + panel.width
    bottom := panel.top + panel.height }

def rectsIntersect (panel : VaultLockOverlayPanel)
    (hole : VaultLockOverlayRect) : Bool :=
  let rect := panelToRect panel
  rect.left < hole.right && rect.right > hole.left &&
    rect.top < hole.bottom && rect.bottom > hole.top

/-- The panels around the hole. -/
def subtractRectFromPanel (panel : VaultLockOverlayPanel)
    (hole : VaultLockOverlayRect) : List VaultLockOverlayPanel :=
  if !rectsIntersect panel hole then [panel]
  else
    let panelRect := panelToRect panel
    let midTop := Max.max panelRect.top hole.top
    let midBottom := Min.min panelRect.bottom hole.bottom
    (if panelRect.top < hole.top then
      [{ top := panelRect.top
         left := panelRect.left
         width := panel.width
         height := hole.top - panelRect.top }] else []) ++
    (if panelRect.bottom > hole.bottom then
      [{ top := hole.bottom
         left := panelRect.left
         width := panel.width
         height := panelRect.bottom - hole.bottom }] else []) ++
    (if midBottom > midTop ∧ panelRect.left < hole.left then
      [{ top := midTop
         left := panelRect.left
         width := hole.left - panelRect.left
         height := midBottom - midTop }] else []) ++
    (if midBottom > midTop ∧ panelRect.right > hole.right then
      [{ top := midTop
         left := hole.right
         width := panelRect.right - hole.right
         height := midBottom - midTop }] else [])

/-- The viewport without the exclusions, one after another. -/
def computeVaultLockOverlayPanels (viewportWidth viewportHeight : ℚ)
    (exclusions : List VaultLockOverlayRect) : List VaultLockOverlayPanel :=
  let panels := exclusions.foldl
    (fun panels hole =>
      panels.flatMap fun panel => subtractRectFromPanel panel hole)
    [{ top := 0, left := 0, width := viewportWidth, height := viewportHeight }]
  panels.filter fun panel => panel.width > 0 && panel.height > 0

/-! ## Panels as boxes -/

def VaultLockOverlayRect.box (rect : VaultLockOverlayRect) : HalfOpenBox ℚ :=
  { left := rect.left
    right := rect.right
    top := rect.top
    bottom := rect.bottom }

/-- The points of a rectangle, half open. -/
def VaultLockOverlayRect.points (rect : VaultLockOverlayRect) : Set (ℚ × ℚ) :=
  rect.box.points

def VaultLockOverlayRect.Ordered (rect : VaultLockOverlayRect) : Prop :=
  rect.left ≤ rect.right ∧ rect.top ≤ rect.bottom

instance (rect : VaultLockOverlayRect) : Decidable rect.Ordered :=
  inferInstanceAs (Decidable (_ ∧ _))

def VaultLockOverlayPanel.points (panel : VaultLockOverlayPanel) :
    Set (ℚ × ℚ) :=
  (panelToRect panel).points

/-- The points of the viewport. -/
def viewportPoints (viewportWidth viewportHeight : ℚ) : Set (ℚ × ℚ) :=
  Set.Ico 0 viewportWidth ×ˢ Set.Ico 0 viewportHeight

/-- The points the overlay covers. -/
def coveredPoints (panels : List VaultLockOverlayPanel) : Set (ℚ × ℚ) :=
  ⋃ panel ∈ panels, panel.points

section Panels

variable {panel : VaultLockOverlayPanel} {hole : VaultLockOverlayRect}

theorem rectsIntersect_eq :
    rectsIntersect panel hole = (panelToRect panel).box.meets hole.box :=
  rfl

private theorem map_singleton_if {α β : Type} {condition : Prop}
    [Decidable condition] (f : α → β) (value : α) :
    (if condition then [value] else []).map f =
      if condition then [f value] else [] := by
  split <;> rfl

/-- A hole is subtracted from a panel as it is from its box. -/
theorem subtractRectFromPanel_boxes :
    (subtractRectFromPanel panel hole).map
        (fun part => (panelToRect part).box) =
      (panelToRect panel).box.around hole.box := by
  have edge (start finish : ℚ) : start + (finish - start) = finish :=
    add_sub_cancel start finish
  cases meets : (panelToRect panel).box.meets hole.box with
  | false =>
      simp only [subtractRectFromPanel, rectsIntersect_eq, meets,
        HalfOpenBox.around, Bool.not_false, if_true, Bool.false_eq_true,
        if_false, List.map_cons, List.map_nil]
  | true =>
      simp only [subtractRectFromPanel, rectsIntersect_eq, meets,
        HalfOpenBox.around, Bool.not_true, Bool.false_eq_true, if_true,
        if_false, List.map_append, map_singleton_if]
      simp only [panelToRect, edge]
      rfl

theorem subtractRectFromPanel_tiles (panel : VaultLockOverlayPanel)
    (ordered : hole.Ordered) :
    Tiles VaultLockOverlayPanel.points (subtractRectFromPanel panel hole)
      (panel.points \ hole.points) := by
  have tiles := @HalfOpenBox.around_tiles ℚ _ hole.box
    (panelToRect panel).box ordered
  rw [← subtractRectFromPanel_boxes] at tiles
  exact tiles.of_map

theorem nonempty_points_iff :
    panel.points.Nonempty ↔ 0 < panel.width ∧ 0 < panel.height := by
  have box := @HalfOpenBox.nonempty_points_iff ℚ _ (panelToRect panel).box
  simp only [VaultLockOverlayRect.box, panelToRect, lt_add_iff_pos_right]
    at box
  exact box

/-- The panels tile what the exclusions leave of the viewport. -/
theorem computeVaultLockOverlayPanels_tiles
    {exclusions : List VaultLockOverlayRect}
    (ordered : ∀ hole ∈ exclusions, hole.Ordered)
    (viewportWidth viewportHeight : ℚ) :
    Tiles VaultLockOverlayPanel.points
      (computeVaultLockOverlayPanels viewportWidth viewportHeight exclusions)
      (viewportPoints viewportWidth viewportHeight \
        ⋃ hole ∈ exclusions, hole.points) := by
  have viewport : VaultLockOverlayPanel.points
      { top := 0, left := 0, width := viewportWidth
        height := viewportHeight } =
      viewportPoints viewportWidth viewportHeight := by
    simp only [VaultLockOverlayPanel.points, VaultLockOverlayRect.points,
      VaultLockOverlayRect.box, panelToRect, zero_add]
    rfl
  have whole := @Tiles.single _ _ VaultLockOverlayPanel.points
    { top := 0, left := 0, width := viewportWidth, height := viewportHeight }
  rw [viewport] at whole
  have cuts : ∀ hole ∈ exclusions, ∀ panel : VaultLockOverlayPanel,
      Tiles VaultLockOverlayPanel.points (subtractRectFromPanel panel hole)
        (panel.points \ hole.points) := by
    intro hole member panel
    exact subtractRectFromPanel_tiles panel (ordered hole member)
  have tiles := whole.cutAll cuts
  apply tiles.filter
  intro panel _ point inside
  obtain ⟨wide, high⟩ := nonempty_points_iff.mp ⟨point, inside⟩
  simp only [gt_iff_lt, wide, high, decide_true, Bool.and_self]

end Panels

/-- For every list of ordered exclusions the panels have points, do not meet
and cover the viewport without the exclusions, so what they cover depends
neither on the order nor on the repetition of the exclusions. -/
theorem overlay_covers_the_rest (viewportWidth viewportHeight : ℚ)
    (exclusions : List VaultLockOverlayRect)
    (ordered : ∀ hole ∈ exclusions, hole.Ordered) :
    let panels := computeVaultLockOverlayPanels viewportWidth viewportHeight
      exclusions
    (∀ panel ∈ panels, panel.points.Nonempty) ∧
      panels.Pairwise (fun panel other =>
        Disjoint panel.points other.points) ∧
      coveredPoints panels = viewportPoints viewportWidth viewportHeight \
        ⋃ hole ∈ exclusions, hole.points ∧
      ∀ others : List VaultLockOverlayRect,
        (∀ hole, hole ∈ others ↔ hole ∈ exclusions) →
        coveredPoints (computeVaultLockOverlayPanels viewportWidth
          viewportHeight others) = coveredPoints panels := by
  intro panels
  have tiles := computeVaultLockOverlayPanels_tiles ordered viewportWidth
    viewportHeight
  refine ⟨?_, tiles.apart, tiles.iUnion_eq, ?_⟩
  · intro panel member
    have kept := (List.mem_filter.mp member).2
    simp only [gt_iff_lt, Bool.and_eq_true, decide_eq_true_eq] at kept
    exact nonempty_points_iff.mpr kept
  · intro others same
    have othersOrdered : ∀ hole ∈ others, hole.Ordered :=
      fun hole member => ordered hole ((same hole).mp member)
    have otherTiles := computeVaultLockOverlayPanels_tiles othersOrdered
      viewportWidth viewportHeight
    have union : ⋃ hole ∈ others, hole.points =
        ⋃ hole ∈ exclusions, hole.points := by
      simp only [same]
    rw [coveredPoints, otherTiles.iUnion_eq, union, ← tiles.iUnion_eq,
      coveredPoints]

/-- A header and a dialog that overlap, over a viewport of 800 by 600. -/
theorem overlay_covers_the_rest_overlapping :
    let header : VaultLockOverlayRect :=
      { top := 0, left := 0, right := 800, bottom := 72 }
    let dialog : VaultLockOverlayRect :=
      { top := 50, left := 700, right := 900, bottom := 650 }
    let panels := computeVaultLockOverlayPanels 800 600 [header, dialog]
    panels = [{ top := 72, left := 0, width := 700, height := 528 }] ∧
      coveredPoints panels = viewportPoints 800 600 \
        ⋃ hole ∈ [header, dialog], hole.points := by
  intro header dialog panels
  refine ⟨by decide +kernel, ?_⟩
  have covers := overlay_covers_the_rest 800 600 [header, dialog]
    (by decide +kernel)
  exact covers.2.2.1

end VaultCore
