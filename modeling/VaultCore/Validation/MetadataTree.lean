import VaultCore.Validation.SafeMetadata

/-!
# Trees and graphs

Metadata without shared parts is a tree.  Objects that unfold to a tree are
accepted exactly when the tree is, so what is known of trees holds of the
objects a caller passes.
-/

namespace VaultCore

namespace ObjectGraph

private theorem forall₂_of_mapM {α β : Type} {read : α → Option β}
    {list : List α} {results : List β}
    (reads : list.mapM read = some results) :
    List.Forall₂ (fun item result => read item = some result) list
      results := by
  induction list generalizing results with
  | nil =>
      cases reads
      exact .nil
  | cons item list ih =>
      simp only [List.mapM_cons, Option.bind_eq_bind,
        Option.bind_eq_some_iff] at reads
      obtain ⟨result, first, rest, later, built⟩ := reads
      cases built
      exact .cons first (ih later)

private theorem exists_related {α β : Type} {related : α → β → Prop}
    {list : List α} {results : List β}
    (all : List.Forall₂ related list results) {item : α}
    (listed : item ∈ list) : ∃ result, related item result := by
  induction all with
  | nil => cases listed
  | cons first rest ih =>
      rcases List.mem_cons.mp listed with rfl | later
      · exact ⟨_, first⟩
      · exact ih later

section

variable {ρ : Type} {platform : Platform} {graph : ObjectGraph ρ}
  {fuel : Nat} {value : GraphValue ρ} {node : ρ} {tree : MetadataValue}

/-- How an object unfolds. -/
theorem unfold_reference
    (unfolded : graph.unfold (fuel + 1) (.reference node) = some tree) :
    (∃ items others trees, graph.object node = .array items others ∧
      List.Forall₂ (fun item tree =>
        graph.unfold fuel (item.getD .undefined) = some tree) items trees ∧
      tree = .array trees) ∨
    ∃ prototype members trees,
      graph.object node = .object prototype members ∧
      List.Forall₂ (fun member entry => member.1 = entry.1 ∧
        graph.unfold fuel member.2 = some entry.2) members trees ∧
      tree = if prototype = .other then .classObject trees
        else .object trees := by
  simp only [unfold] at unfolded
  cases shape : graph.object node with
  | array items others =>
      simp only [shape, Option.map_eq_some_iff] at unfolded
      obtain ⟨trees, read, built⟩ := unfolded
      exact .inl ⟨items, others, trees, rfl, forall₂_of_mapM read, built.symm⟩
  | object prototype members =>
      simp only [shape, Option.map_eq_some_iff] at unfolded
      obtain ⟨trees, read, built⟩ := unfolded
      refine .inr ⟨prototype, members, trees, rfl, ?_, ?_⟩
      · refine (forall₂_of_mapM read).imp ?_
        intro member entry unfolds
        obtain ⟨tree, inner, rfl⟩ := Option.map_eq_some_iff.mp unfolds
        exact ⟨rfl, inner⟩
      · rw [← built]
        split_ifs <;> rfl

theorem unfold_isUndefined
    (unfolded : graph.unfold fuel value = some tree) :
    tree.isUndefined = value.isUndefined := by
  cases value with
  | reference node =>
      cases fuel with
      | zero => cases unfolded
      | succ fuel =>
          rcases unfold_reference unfolded with
            ⟨items, others, trees, -, -, rfl⟩ |
            ⟨prototype, members, trees, -, -, rfl⟩
          · rfl
          · split_ifs <;> rfl
  | _ =>
      cases fuel <;>
      · cases unfolded
        rfl

theorem isMetadataObject_unfold
    (unfolded : graph.unfold fuel value = some tree) :
    isMetadataObject tree = graph.isPlainRoot value := by
  cases value with
  | reference node =>
      cases fuel with
      | zero => cases unfolded
      | succ fuel =>
          rcases unfold_reference unfolded with
            ⟨items, others, trees, shape, -, rfl⟩ |
            ⟨prototype, members, trees, shape, -, rfl⟩
          · simp [isMetadataObject, isPlainRoot, shape]
          · split_ifs <;> simp [isMetadataObject, isPlainRoot, shape]
  | _ =>
      cases fuel <;>
      · cases unfolded
        rfl

theorem cleanBelow_reference_iff :
    graph.CleanBelow platform (.reference node) ↔
      ∀ entry ∈ (graph.object node).entries,
        ¬ IsPlaintext platform entry ∧
          graph.CleanBelow platform entry.2 := by
  constructor
  · intro clean entry listed
    refine ⟨clean node ⟨node, rfl, .refl⟩ entry listed, ?_⟩
    rintro other ⟨start, same, walk⟩
    exact clean other ⟨node, rfl, .head ⟨entry, listed, same⟩ walk⟩
  · rintro clean other ⟨start, same, walk⟩
    cases same
    rcases Relation.ReflTransGen.cases_head walk with rfl | ⟨next, holds, rest⟩
    · exact fun entry listed => (clean entry listed).1
    · obtain ⟨entry, listed, same⟩ := holds
      exact (clean entry listed).2 other ⟨next, same, rest⟩

theorem cleanBelow_of_not_reference (primitive : value.referenced = none) :
    graph.CleanBelow platform value := by
  rintro node ⟨start, rfl, -⟩
  cases primitive

private theorem visitEntry_eq_none {field message : JsString}
    {first rest : Option JsString}
    (same : tree.isUndefined = value.isUndefined) :
    (if isVaultPlaintextForbiddenField platform field &&
          !tree.isUndefined then some message
        else first.or rest) = none ↔
      ¬ IsPlaintext platform (field, value) ∧ first = none ∧ rest = none := by
  rw [same, ← isPlaintext_iff]
  split_ifs with forbidden
  · simp [forbidden]
  · simp [forbidden]

section Visits

variable
  (below : ∀ {value : GraphValue ρ} {tree : MetadataValue}
    (path : JsString), graph.unfold fuel value = some tree →
    (visitPlaintextFields platform path tree = none ↔
      graph.CleanBelow platform value))
include below

private theorem visitPlaintextItems_eq_none
    {items : List (Option (GraphValue ρ))} {trees : List MetadataValue}
    (full : none ∉ items)
    (unfolds : List.Forall₂ (fun item tree =>
      graph.unfold fuel (item.getD .undefined) = some tree) items trees)
    (path : JsString) (index : Nat) :
    visitPlaintextItems platform path index trees = none ↔
      ∀ entry ∈ GraphObject.indexedEntries index items,
        ¬ IsPlaintext platform entry ∧
          graph.CleanBelow platform entry.2 := by
  induction unfolds generalizing index with
  | nil => simp [visitPlaintextItems, GraphObject.indexedEntries]
  | cons first rest ih =>
      rename_i item tree items trees
      cases item with
      | none => exact absurd List.mem_cons_self full
      | some value =>
          have later : none ∉ items := fun hole =>
            full (List.mem_cons_of_mem _ hole)
          rw [Option.getD_some] at first
          rw [visitPlaintextItems, GraphObject.indexedEntries,
            List.forall_mem_cons, ← ih later, and_assoc,
            ← below (memberPath path (JsNumber.digitsText index)) first]
          exact visitEntry_eq_none (unfold_isUndefined first)

private theorem visitPlaintextMembers_eq_none
    {members : GraphMembers ρ} {trees : MetadataMembers}
    (unfolds : List.Forall₂ (fun member entry => member.1 = entry.1 ∧
      graph.unfold fuel member.2 = some entry.2) members trees)
    (path : JsString) :
    visitPlaintextMembers platform path trees = none ↔
      ∀ entry ∈ members, ¬ IsPlaintext platform entry ∧
        graph.CleanBelow platform entry.2 := by
  induction unfolds with
  | nil => simp [visitPlaintextMembers]
  | cons first rest ih =>
      rename_i member entry members trees
      obtain ⟨field, value⟩ := member
      obtain ⟨named, tree⟩ := entry
      obtain ⟨same, first⟩ := first
      simp only at same first
      rw [visitPlaintextMembers, List.forall_mem_cons, ← ih, and_assoc,
        ← below (memberPath path field) first, same]
      exact visitEntry_eq_none (unfold_isUndefined first)

end Visits

/-- A tree is searched like the objects that unfold to it. -/
theorem visitPlaintextFields_eq_none_iff (dense : graph.Dense)
    (unfolded : graph.unfold fuel value = some tree) (path : JsString) :
    visitPlaintextFields platform path tree = none ↔
      graph.CleanBelow platform value := by
  induction fuel generalizing value tree path with
  | zero =>
      cases value with
      | reference node => cases unfolded
      | _ =>
          cases unfolded
          exact ⟨fun _ => cleanBelow_of_not_reference rfl, fun _ => rfl⟩
  | succ fuel ih =>
      cases value with
      | reference node =>
          have ordinary := dense node
          rw [cleanBelow_reference_iff]
          rcases unfold_reference unfolded with
            ⟨items, others, trees, shape, unfolds, rfl⟩ |
            ⟨prototype, members, trees, shape, unfolds, rfl⟩
          · rw [shape] at ordinary ⊢
            obtain ⟨full, rfl⟩ := ordinary
            rw [visitPlaintextFields, GraphObject.entries, List.append_nil]
            exact visitPlaintextItems_eq_none (fun path unfolds =>
              ih unfolds path) full unfolds path 0
          · rw [shape, GraphObject.entries,
              ← visitPlaintextMembers_eq_none (fun path unfolds =>
                ih unfolds path) unfolds path]
            split_ifs <;> rw [visitPlaintextFields]
      | _ =>
          cases unfolded
          exact ⟨fun _ => cleanBelow_of_not_reference rfl, fun _ => rfl⟩

/-! ## Values within the bounds -/

theorem unfold_held
    (unfolded : graph.unfold (fuel + 1) (.reference node) = some tree)
    (held : value ∈ (graph.object node).held) :
    ∃ child, graph.unfold fuel value = some child := by
  rcases unfold_reference unfolded with
    ⟨items, others, trees, shape, unfolds, -⟩ |
    ⟨prototype, members, trees, shape, unfolds, -⟩
  · rw [shape] at held
    obtain ⟨item, listed, rfl⟩ := List.mem_map.mp held
    exact exists_related unfolds listed
  · rw [shape] at held
    obtain ⟨member, listed, rfl⟩ := List.mem_map.mp held
    obtain ⟨entry, -, inner⟩ := exists_related unfolds listed
    exact ⟨entry.2, inner⟩

theorem unfold_transGen (dense : graph.Dense) {next : ρ}
    (unfolded : graph.unfold fuel (.reference node) = some tree)
    (walk : Relation.TransGen graph.Holds node next) :
    ∃ less < fuel, ∃ child,
      graph.unfold less (.reference next) = some child := by
  induction walk with
  | single holds =>
      cases fuel with
      | zero => cases unfolded
      | succ fuel =>
          exact ⟨fuel, fuel.lt_succ_self,
            unfold_held unfolded ((mem_held_iff dense).mpr holds)⟩
  | tail before holds ih =>
      obtain ⟨less, bound, child, inner⟩ := ih
      cases less with
      | zero => cases inner
      | succ less =>
          exact ⟨less, by omega,
            unfold_held inner ((mem_held_iff dense).mpr holds)⟩

theorem unfold_acyclic (dense : graph.Dense)
    (unfolded : graph.unfold fuel (.reference node) = some tree) :
    ¬ Relation.TransGen graph.Holds node node := by
  intro cycle
  induction fuel using Nat.strong_induction_on generalizing tree with
  | _ fuel ih =>
      obtain ⟨less, bound, child, inner⟩ :=
        unfold_transGen dense unfolded cycle
      exact ih less bound inner

section Checks

variable {depth : Nat} {accepted : GraphValue ρ → Prop}

private theorem assertJsonMetadataItems_ok_iff
    {items : List (Option (GraphValue ρ))} {trees : List MetadataValue}
    (unfolds : List.Forall₂ (fun item tree =>
      graph.unfold fuel (item.getD .undefined) = some tree) items trees)
    (below : ∀ value ∈ items.map fun item => item.getD .undefined,
      ∀ tree, graph.unfold fuel value = some tree →
        (VaultCore.assertJsonMetadataValue depth tree = .ok () ↔
          accepted value)) :
    assertJsonMetadataItems depth trees = .ok () ↔
      ∀ value ∈ items.map fun item => item.getD .undefined,
        accepted value := by
  induction unfolds with
  | nil => simp [assertJsonMetadataItems]
  | cons first rest ih =>
      rw [List.map_cons, List.forall_mem_cons] at below
      rw [assertJsonMetadataItems, Outcome.then_eq_ok_iff, List.map_cons,
        List.forall_mem_cons, below.1 _ first, ih below.2]

private theorem assertJsonMetadataMembers_ok_iff
    {members : GraphMembers ρ} {trees : MetadataMembers}
    (unfolds : List.Forall₂ (fun member entry => member.1 = entry.1 ∧
      graph.unfold fuel member.2 = some entry.2) members trees)
    (below : ∀ value ∈ members.map Prod.snd,
      ∀ tree, graph.unfold fuel value = some tree →
        (VaultCore.assertJsonMetadataValue depth tree = .ok () ↔
          accepted value)) :
    assertJsonMetadataMembers depth trees = .ok () ↔
      (∀ member ∈ members, 1 ≤ member.1.length ∧
        member.1.length ≤ maxPublicMetadataKeyLength) ∧
      ∀ value ∈ members.map Prod.snd, accepted value := by
  induction unfolds with
  | nil => simp [assertJsonMetadataMembers]
  | cons first rest ih =>
      rename_i member entry members trees
      obtain ⟨same, inner⟩ := first
      rw [List.map_cons, List.forall_mem_cons] at below
      rw [assertJsonMetadataMembers, List.map_cons, List.forall_mem_cons,
        List.forall_mem_cons, same]
      split_ifs with invalid
      · simp only [false_iff]
        rintro ⟨⟨bounds, -⟩, -⟩
        omega
      · have bounds : 1 ≤ entry.1.length ∧
            entry.1.length ≤ maxPublicMetadataKeyLength := by omega
        rw [Outcome.then_eq_ok_iff, below.1 _ inner, ih below.2]
        tauto

end Checks

variable [DecidableEq ρ]

private theorem assertJsonMetadataValue_primitive {depth levels : Nat}
    {seen : Finset ρ} (primitive : value.referenced = none)
    (unfolded : graph.unfold fuel value = some tree) :
    VaultCore.assertJsonMetadataValue depth tree = .ok () ↔
      graph.Accepts levels seen value := by
  cases value with
  | reference node => cases primitive
  | number value =>
      have same : tree = .number value := by
        cases fuel <;> exact (Option.some.inj unfolded).symm
      rw [same, VaultCore.assertJsonMetadataValue]
      cases levels <;> split_ifs with finite <;> simp [Accepts, finite]
  | _ =>
      cases fuel <;> cases unfolded <;> cases levels <;>
        simp [VaultCore.assertJsonMetadataValue, Accepts]

/-- The objects below one that unfolds reach neither it nor, if it does not,
what is marked. -/
private theorem apart_below (dense : graph.Dense) {seen : Finset ρ}
    (unfolded : graph.unfold fuel (.reference node) = some tree)
    (apart : ∀ marked ∈ seen, ¬ graph.Reaches (.reference node) marked)
    (held : value ∈ (graph.object node).held) :
    ∀ marked ∈ insert node seen, ¬ graph.Reaches value marked := by
  obtain ⟨entry, listed, rfl⟩ := (mem_held_iff dense).mp held
  rintro marked member ⟨start, same, walk⟩
  have holds : graph.Holds node start := ⟨entry, listed, same⟩
  rcases Finset.mem_insert.mp member with rfl | earlier
  · exact unfold_acyclic dense unfolded (.head' holds walk)
  · exact apart marked earlier ⟨node, rfl, .head holds walk⟩

/-- A tree is checked like the objects that unfold to it, below objects that
none of them reaches. -/
theorem assertJsonMetadataValue_tree_iff (dense : graph.Dense)
    {depth levels : Nat} (total : depth + levels = maxPublicMetadataDepth + 1)
    {seen : Finset ρ} (unfolded : graph.unfold fuel value = some tree)
    (apart : ∀ marked ∈ seen, ¬ graph.Reaches value marked) :
    VaultCore.assertJsonMetadataValue depth tree = .ok () ↔
      graph.Accepts levels seen value := by
  induction levels generalizing depth fuel value tree seen with
  | zero =>
      cases value with
      | reference node =>
          cases fuel with
          | zero => cases unfolded
          | succ fuel =>
              have deep : maxPublicMetadataDepth < depth := by omega
              rcases unfold_reference unfolded with
                ⟨items, others, trees, -, -, rfl⟩ |
                ⟨prototype, members, trees, -, -, rfl⟩
              · simp [VaultCore.assertJsonMetadataValue, deep, Accepts]
              · split_ifs <;>
                  simp [VaultCore.assertJsonMetadataValue, deep, Accepts]
      | _ => exact assertJsonMetadataValue_primitive rfl unfolded
  | succ levels ih =>
      cases value with
      | reference node =>
          cases fuel with
          | zero => cases unfolded
          | succ fuel =>
              have shallow : ¬ maxPublicMetadataDepth < depth := by omega
              have unmarked : node ∉ seen := fun marked =>
                apart node marked ⟨node, rfl, .refl⟩
              have below : ∀ value ∈ (graph.object node).held, ∀ tree,
                  graph.unfold fuel value = some tree →
                  (VaultCore.assertJsonMetadataValue (depth + 1) tree =
                    .ok () ↔
                      graph.Accepts levels (insert node seen) value) := by
                intro value held tree inner
                exact ih (by omega) inner
                  (apart_below dense unfolded apart held)
              simp only [Accepts, unmarked, not_false_eq_true, true_and]
              rcases unfold_reference unfolded with
                ⟨items, others, trees, shape, unfolds, rfl⟩ |
                ⟨prototype, members, trees, shape, unfolds, rfl⟩
              · rw [shape] at below ⊢
                have length := unfolds.length_eq
                rw [VaultCore.assertJsonMetadataValue, if_neg shallow,
                  ← length]
                simp only [GraphObject.WithinBounds]
                split_ifs with long
                · simp [not_le.mpr long]
                · rw [assertJsonMetadataItems_ok_iff unfolds below]
                  simp [not_lt.mp long, GraphObject.held]
              · rw [shape] at below ⊢
                have length := unfolds.length_eq
                simp only [GraphObject.WithinBounds]
                split_ifs with classed
                · simp [VaultCore.assertJsonMetadataValue, shallow, classed]
                · rw [VaultCore.assertJsonMetadataValue, if_neg shallow,
                    ← length]
                  split_ifs with long
                  · simp [not_le.mpr long]
                  · rw [assertJsonMetadataMembers_ok_iff unfolds below]
                    simp [classed, not_lt.mp long, GraphObject.held]
      | _ => exact assertJsonMetadataValue_primitive rfl unfolded

end

private theorem assertSafeVaultPublicMetadata_ok_tree {platform : Platform}
    {tree : MetadataValue} :
    VaultCore.assertSafeVaultPublicMetadata platform tree = .ok () ↔
      isMetadataObject tree = true ∧
        visitPlaintextFields platform [] tree = none ∧
        VaultCore.assertJsonMetadataValue 0 tree = .ok () ∧
        (stringToBytes tree.stringify).length ≤ maxPublicMetadataBytes := by
  unfold VaultCore.assertSafeVaultPublicMetadata
    VaultCore.assertNoVaultPlaintextFields
    VaultCore.rejectVaultPlaintextFields
  cases isMetadataObject tree with
  | false => simp
  | true =>
      cases visitPlaintextFields platform [] tree with
      | some message => simp [Outcome.error_bind]
      | none =>
          simp only [Bool.not_true, Bool.false_eq_true, ↓reduceIte,
            Outcome.ok_bind, Outcome.then_eq_ok_iff, true_and]
          apply and_congr_right
          intro _
          split_ifs with long
          · simp [not_le.mpr long]
          · simp [not_lt.mp long]

/-- On dense arrays the objects a caller passes are accepted exactly when the
tree they unfold to is. -/
theorem assertSafeVaultPublicMetadata_tree_iff {ρ : Type} [Fintype ρ]
    [DecidableEq ρ] {platform : Platform} {graph : ObjectGraph ρ}
    (dense : graph.Dense) {fuel : Nat} (enough : Fintype.card ρ < fuel)
    {body : GraphValue ρ} {tree : MetadataValue}
    (unfolded : graph.unfold fuel body = some tree) :
    graph.assertSafeVaultPublicMetadata platform fuel body =
        some (.ok ()) ↔
      VaultCore.assertSafeVaultPublicMetadata platform tree = .ok () := by
  obtain ⟨found, ends, nothing⟩ :=
    rejectVaultPlaintextFields_ends platform graph body
  obtain ⟨outcome, ended, passes⟩ :=
    assertSafeVaultPublicMetadata_ok_iff (ends fuel enough)
  have clean : found = none ↔ visitPlaintextFields platform [] tree = none :=
    nothing.trans (visitPlaintextFields_eq_none_iff dense unfolded []).symm
  have apart : ∀ marked ∈ (∅ : Finset ρ), ¬ graph.Reaches body marked :=
    fun marked none => absurd none (Finset.notMem_empty marked)
  rw [ended, Option.some.injEq, passes, clean,
    ← assertJsonMetadataValue_tree_iff dense (Nat.zero_add _) unfolded apart,
    ← isMetadataObject_unfold unfolded,
    assertSafeVaultPublicMetadata_ok_tree, unfolded]
  simp only [Option.some.injEq, exists_eq_left']

end ObjectGraph

end VaultCore
