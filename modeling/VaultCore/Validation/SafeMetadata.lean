import VaultCore.Crypto.Reference
import VaultCore.Data.Outcome
import VaultCore.Validation.MetadataGraph

/-!
# Safe public metadata

Metadata passes the checks exactly when it is a plain object that reaches
permitted values only, without cycles, within the bounds on depth, entries and
keys, without a plaintext field, and short enough once it is written as JSON.
-/

namespace VaultCore

namespace ObjectGraph

section

variable {ρ : Type} (platform : Platform) (graph : ObjectGraph ρ)

/-- The object is reached over so many edges. -/
inductive Along (body : GraphValue ρ) : Nat → ρ → Prop
  | root {start : ρ} (same : body = .reference start) : Along body 0 start
  | step {steps : Nat} {node next : ρ} (before : Along body steps node)
      (holds : graph.Holds node next) : Along body (steps + 1) next

def ReachesValue (body value : GraphValue ρ) : Prop :=
  body = value ∨ ∃ node, graph.Reaches body node ∧
    ∃ entry ∈ (graph.object node).entries, entry.2 = value

/-- A JSON value, as far as it can be seen without following references. -/
def IsMetadataValue : GraphValue ρ → Prop
  | .undefined => False
  | .foreign => False
  | .null => True
  | .boolean _ => True
  | .number value => value.isFinite = true
  | .string _ => True
  | .reference node =>
      ∀ prototype members, graph.object node = .object prototype members →
        prototype ≠ .other

/-- The value unfolds to the finite tree. -/
def Represents (value : GraphValue ρ) (tree : MetadataValue) : Prop :=
  ∃ fuel, graph.unfold fuel value = some tree

/-- Metadata that may be published, whatever it shares. -/
structure SafePublicMetadata (root : GraphValue ρ) : Prop where
  plain : ∃ node prototype members, root = .reference node ∧
    graph.object node = .object prototype members ∧ prototype ≠ .other
  values : ∀ value, graph.ReachesValue root value →
    graph.IsMetadataValue value
  acyclic : ∀ node, graph.Reaches root node →
    ¬ Relation.TransGen graph.Holds node node
  depth : ∀ steps node, graph.Along root steps node →
    steps ≤ maxPublicMetadataDepth
  entries : ∀ node, graph.Reaches root node →
    (graph.object node).entries.length ≤ maxPublicMetadataEntries
  keys : ∀ node, graph.Reaches root node →
    ∀ prototype members, graph.object node = .object prototype members →
      ∀ member ∈ members, 1 ≤ member.1.length ∧
        member.1.length ≤ maxPublicMetadataKeyLength
  names : ∀ node, graph.Reaches root node →
    ∀ entry ∈ (graph.object node).entries,
      platform.toLowerCase entry.1 ∉
        plaintextForbiddenVaultFields.map platform.toLowerCase
  size : ∃ tree, graph.Represents root tree ∧
    (stringToBytes tree.stringify).length ≤ maxPublicMetadataBytes

/-- Every array is dense and has no further properties. -/
def Dense : Prop := ∀ node, (graph.object node).Dense

end

section

variable {ρ : Type} {platform : Platform} {graph : ObjectGraph ρ}
  {body : GraphValue ρ}

theorem Along.reaches {steps : Nat} {node : ρ}
    (along : graph.Along body steps node) : graph.Reaches body node := by
  induction along with
  | root same => exact ⟨_, same, .refl⟩
  | step before holds ih =>
      obtain ⟨start, same, walk⟩ := ih
      exact ⟨start, same, walk.tail holds⟩

theorem Reaches.along {node : ρ} (reaches : graph.Reaches body node) :
    ∃ steps, graph.Along body steps node := by
  obtain ⟨start, same, walk⟩ := reaches
  induction walk with
  | refl => exact ⟨0, .root same⟩
  | tail earlier holds ih =>
      obtain ⟨steps, before⟩ := ih
      exact ⟨steps + 1, before.step holds⟩

theorem Reaches.tail {node next : ρ} (reaches : graph.Reaches body node)
    (holds : graph.Holds node next) : graph.Reaches body next := by
  obtain ⟨start, same, walk⟩ := reaches
  exact ⟨start, same, walk.tail holds⟩

theorem mem_held_iff (dense : graph.Dense) {node : ρ}
    {value : GraphValue ρ} :
    value ∈ (graph.object node).held ↔
      ∃ entry ∈ (graph.object node).entries, entry.2 = value := by
  rw [GraphObject.held_eq (dense node), List.mem_map]

private theorem mapM_mono {α β : Type} {read larger : α → Option β}
    (mono : ∀ item result, read item = some result →
      larger item = some result)
    {list : List α} {results : List β}
    (reads : list.mapM read = some results) :
    list.mapM larger = some results := by
  induction list generalizing results with
  | nil => exact reads
  | cons item list ih =>
      simp only [List.mapM_cons, Option.bind_eq_bind,
        Option.bind_eq_some_iff] at reads ⊢
      obtain ⟨result, first, rest, later, built⟩ := reads
      exact ⟨result, mono item result first, rest, ih later, built⟩

theorem unfold_mono {fuel more : Nat} {value : GraphValue ρ}
    {tree : MetadataValue} (unfolded : graph.unfold fuel value = some tree)
    (enough : fuel ≤ more) : graph.unfold more value = some tree := by
  induction fuel generalizing more value tree with
  | zero =>
      cases value with
      | reference node => cases unfolded
      | _ => cases more <;> exact unfolded
  | succ fuel ih =>
      obtain ⟨more, rfl⟩ : ∃ rest, more = rest + 1 := ⟨more - 1, by omega⟩
      cases value with
      | reference node =>
          simp only [unfold] at unfolded ⊢
          cases shape : graph.object node with
          | array items others =>
              simp only [shape, Option.map_eq_some_iff] at unfolded ⊢
              obtain ⟨trees, read, built⟩ := unfolded
              exact ⟨trees, mapM_mono (fun item result inner =>
                ih inner (by omega)) read, built⟩
          | object prototype members =>
              simp only [shape, Option.map_eq_some_iff] at unfolded ⊢
              obtain ⟨trees, read, built⟩ := unfolded
              refine ⟨trees, mapM_mono ?_ read, built⟩
              intro member result inner
              obtain ⟨child, unfolds, named⟩ := Option.map_eq_some_iff.mp inner
              exact Option.map_eq_some_iff.mpr
                ⟨child, ih unfolds (by omega), named⟩
      | _ => exact unfolded

/-- What holds of the objects and values below accepted metadata. -/
structure Shape (graph : ObjectGraph ρ) (body : GraphValue ρ) : Prop where
  values : ∀ value, graph.ReachesValue body value →
    graph.IsMetadataValue value
  acyclic : ∀ node, graph.Reaches body node →
    ¬ Relation.TransGen graph.Holds node node
  depth : ∀ steps node, graph.Along body steps node →
    steps ≤ maxPublicMetadataDepth
  bounds : ∀ node, graph.Reaches body node →
    (graph.object node).WithinBounds

theorem isPlainRoot_iff : graph.isPlainRoot body = true ↔
    ∃ node prototype members, body = .reference node ∧
      graph.object node = .object prototype members := by
  cases body with
  | reference node =>
      cases shape : graph.object node <;> simp [isPlainRoot, shape]
  | _ => simp [isPlainRoot]

theorem Shape.entries (dense : graph.Dense) (shape : graph.Shape body)
    {node : ρ} (reaches : graph.Reaches body node) :
    (graph.object node).entries.length ≤ maxPublicMetadataEntries := by
  rw [GraphObject.length_entries (dense node)]
  have bounds := shape.bounds node reaches
  cases kind : graph.object node with
  | array items others =>
      rw [kind] at bounds
      rw [GraphObject.held, List.length_map]
      exact bounds
  | object prototype members =>
      rw [kind] at bounds
      rw [GraphObject.held, List.length_map]
      exact bounds.2.1

theorem SafePublicMetadata.shape (dense : graph.Dense)
    (safe : graph.SafePublicMetadata platform body) : graph.Shape body where
  values := safe.values
  acyclic := safe.acyclic
  depth := safe.depth
  bounds := by
    intro node reaches
    have few := safe.entries node reaches
    rw [GraphObject.length_entries (dense node)] at few
    have reached : graph.ReachesValue body (.reference node) := by
      obtain ⟨steps, along⟩ := reaches.along
      cases along with
      | root same => exact .inl same
      | step before holds => exact .inr ⟨_, before.reaches, holds⟩
    have permitted := safe.values _ reached
    have keys := safe.keys node reaches
    cases kind : graph.object node with
    | array items others =>
        rw [kind, GraphObject.held, List.length_map] at few
        exact few
    | object prototype members =>
        rw [kind, GraphObject.held, List.length_map] at few
        exact ⟨permitted prototype members kind, few,
          keys prototype members kind⟩

variable [DecidableEq ρ]

/-- What is accepted on the way to an object is accepted there, with fewer
levels and more objects marked. -/
theorem Accepts.along (dense : graph.Dense) {levels steps : Nat}
    {seen : Finset ρ} {node : ρ} (accepts : graph.Accepts levels seen body)
    (along : graph.Along body steps node) :
    ∃ rest marked, levels = rest + steps ∧ seen ⊆ marked ∧
      graph.Accepts rest marked (.reference node) := by
  induction along with
  | root same =>
      rw [same] at accepts
      exact ⟨levels, seen, rfl, subset_rfl, accepts⟩
  | step before holds ih =>
      rename_i steps node next
      obtain ⟨rest, marked, total, grown, accepted⟩ := ih
      cases rest with
      | zero => cases accepted
      | succ rest =>
          obtain ⟨-, -, children⟩ := accepted
          refine ⟨rest, insert node marked, by omega,
            grown.trans (Finset.subset_insert node marked), ?_⟩
          exact children _ ((mem_held_iff dense).mpr holds)

/-- The first object accepted is reached by no walk from itself. -/
theorem Accepts.acyclic (dense : graph.Dense) {levels : Nat}
    {seen : Finset ρ} {node : ρ}
    (accepts : graph.Accepts levels seen (.reference node)) :
    ¬ Relation.TransGen graph.Holds node node := by
  intro cycle
  obtain ⟨next, holds, back⟩ := Relation.TransGen.head'_iff.mp cycle
  cases levels with
  | zero => cases accepts
  | succ levels =>
      obtain ⟨-, -, children⟩ := accepts
      have below := children _ ((mem_held_iff dense).mpr holds)
      obtain ⟨steps, along⟩ := Reaches.along ⟨next, rfl, back⟩
      obtain ⟨rest, marked, -, grown, again⟩ := below.along dense along
      cases rest with
      | zero => cases again
      | succ rest =>
          exact again.1 (grown (Finset.mem_insert_self node seen))

theorem Accepts.isMetadataValue {levels : Nat} {seen : Finset ρ}
    {value : GraphValue ρ} (accepts : graph.Accepts levels seen value) :
    graph.IsMetadataValue value := by
  cases value with
  | reference node =>
      cases levels with
      | zero => cases accepts
      | succ levels =>
          intro prototype members shape
          have bounds := accepts.2.1
          rw [shape] at bounds
          exact bounds.1
  | _ => cases levels <;> exact accepts

theorem Accepts.shape (dense : graph.Dense)
    (accepts : graph.Accepts (maxPublicMetadataDepth + 1) ∅ body) :
    graph.Shape body := by
  have reached : ∀ steps node, graph.Along body steps node →
      ∃ rest marked, maxPublicMetadataDepth + 1 = rest + 1 + steps ∧
        graph.Accepts (rest + 1) marked (.reference node) := by
    intro steps node along
    obtain ⟨rest, marked, total, -, accepted⟩ := accepts.along dense along
    cases rest with
    | zero => cases accepted
    | succ rest => exact ⟨rest, marked, total, accepted⟩
  refine ⟨?_, ?_, ?_, ?_⟩
  · rintro value (rfl | ⟨node, reaches, held⟩)
    · exact accepts.isMetadataValue
    · obtain ⟨steps, along⟩ := reaches.along
      obtain ⟨rest, marked, -, accepted⟩ := reached steps node along
      exact (accepted.2.2 value
        ((mem_held_iff dense).mpr held)).isMetadataValue
  · intro node reaches
    obtain ⟨steps, along⟩ := reaches.along
    obtain ⟨rest, marked, -, accepted⟩ := reached steps node along
    exact accepted.acyclic dense
  · intro steps node along
    obtain ⟨rest, marked, total, -⟩ := reached steps node along
    omega
  · intro node reaches
    obtain ⟨steps, along⟩ := reaches.along
    obtain ⟨rest, marked, -, accepted⟩ := reached steps node along
    exact accepted.2.1

/-- Every marked object leads to the value that is checked next, so in an
acyclic graph that value is not marked. -/
theorem Shape.accepts_below (dense : graph.Dense) (shape : graph.Shape body)
    {levels steps : Nat} (total : steps + levels = maxPublicMetadataDepth + 1)
    {seen : Finset ρ} {value : GraphValue ρ}
    (reached : graph.ReachesValue body value)
    (along : ∀ node, value = .reference node → graph.Along body steps node)
    (leads : ∀ marked ∈ seen, ∀ node, value = .reference node →
      Relation.TransGen graph.Holds marked node) :
    graph.Accepts levels seen value := by
  induction levels generalizing steps seen value with
  | zero =>
      cases value with
      | reference node =>
          have within := shape.depth steps node (along node rfl)
          omega
      | _ => exact shape.values _ reached
  | succ levels ih =>
      cases value with
      | reference node =>
          have here := along node rfl
          refine ⟨?_, shape.bounds node here.reaches, ?_⟩
          · intro marked
            exact shape.acyclic node here.reaches (leads node marked node rfl)
          · intro child held
            have listed := (mem_held_iff dense).mp held
            have deeper : steps + 1 + levels =
                maxPublicMetadataDepth + 1 := by omega
            apply ih deeper
            · exact .inr ⟨node, here.reaches, listed⟩
            · rintro next rfl
              exact here.step listed
            · rintro marked member next rfl
              rcases Finset.mem_insert.mp member with rfl | earlier
              · exact .single listed
              · exact (leads marked earlier node rfl).tail listed
      | _ => exact shape.values _ reached

theorem accepts_iff_shape (dense : graph.Dense) :
    graph.Accepts (maxPublicMetadataDepth + 1) ∅ body ↔ graph.Shape body := by
  constructor
  · exact Accepts.shape dense
  · intro shape
    apply shape.accepts_below dense (Nat.zero_add _) (.inl rfl)
    · exact fun node same => .root same
    · exact fun marked none => absurd none (Finset.notMem_empty marked)

private theorem exists_mapM {α β : Type} {read : α → Option β}
    {list : List α} (reads : ∀ item ∈ list, ∃ result, read item = some result) :
    ∃ results, list.mapM read = some results := by
  induction list with
  | nil => exact ⟨[], rfl⟩
  | cons item list ih =>
      obtain ⟨result, first⟩ := reads item List.mem_cons_self
      obtain ⟨results, rest⟩ := ih fun other member =>
        reads other (List.mem_cons_of_mem _ member)
      exact ⟨result :: results, by simp [first, rest]⟩

/-- Accepted metadata is a tree once it is unfolded. -/
theorem Accepts.unfolds [Fintype ρ] {levels fuel : Nat} {seen : Finset ρ}
    {value : GraphValue ρ} (accepts : graph.Accepts levels seen value)
    (enough : seenᶜ.card ≤ fuel) :
    ∃ tree, graph.unfold fuel value = some tree := by
  induction levels generalizing fuel seen value with
  | zero =>
      cases value with
      | reference node => cases accepts
      | _ => exact ⟨_, by cases fuel <;> rfl⟩
  | succ levels ih =>
      cases value with
      | reference node =>
          obtain ⟨unmarked, -, children⟩ := accepts
          have fresh := Finset.mem_compl.mpr unmarked
          have unvisited := Finset.card_pos.mpr ⟨node, fresh⟩
          obtain ⟨fuel, rfl⟩ : ∃ rest, fuel = rest + 1 :=
            ⟨fuel - 1, by omega⟩
          have fewer : (insert node seen)ᶜ.card ≤ fuel := by
            rw [Finset.compl_insert, Finset.card_erase_of_mem fresh]
            omega
          have below : ∀ child ∈ (graph.object node).held,
              ∃ tree, graph.unfold fuel child = some tree := by
            intro child held
            exact ih (children child held) fewer
          simp only [unfold]
          cases shape : graph.object node with
          | array items others =>
              rw [shape] at below
              obtain ⟨trees, unfolded⟩ := @exists_mapM _ _
                (fun item => graph.unfold fuel (item.getD .undefined)) items
                fun item member => below _ (List.mem_map_of_mem member)
              exact ⟨.array trees, by simp [unfolded]⟩
          | object prototype members =>
              rw [shape] at below
              obtain ⟨trees, unfolded⟩ := @exists_mapM _ _
                (fun member => (graph.unfold fuel member.2).map fun tree =>
                  (member.1, tree)) members fun member listed => by
                    obtain ⟨tree, unfolded⟩ :=
                      below _ (List.mem_map_of_mem listed)
                    exact ⟨_, by rw [unfolded]; rfl⟩
              exact ⟨_, by simp only [unfolded]; rfl⟩
      | _ => exact ⟨_, by cases fuel <;> rfl⟩

/-- The check passes what no plaintext field is found in, what has the shape
of metadata, and what is short enough once written. -/
theorem assertSafeVaultPublicMetadata_ok_iff {fuel : Nat}
    {found : Option JsString}
    (searched : graph.rejectVaultPlaintextFields platform fuel body =
      some found) :
    ∃ outcome,
      graph.assertSafeVaultPublicMetadata platform fuel body =
        some outcome ∧
      (outcome = .ok () ↔
        graph.isPlainRoot body = true ∧ found = none ∧
          graph.Accepts (maxPublicMetadataDepth + 1) ∅ body ∧
          ∃ tree, graph.unfold fuel body = some tree ∧
            (stringToBytes tree.stringify).length ≤
              maxPublicMetadataBytes) := by
  unfold assertSafeVaultPublicMetadata assertNoVaultPlaintextFields
  rw [searched]
  cases plain : graph.isPlainRoot body with
  | false => exact ⟨_, rfl, by simp⟩
  | true =>
      refine ⟨_, rfl, ?_⟩
      cases found with
      | some message => simp [Outcome.error_bind]
      | none =>
          simp only [Outcome.ok_bind, true_and]
          cases checked : graph.assertJsonMetadataValue
              (maxPublicMetadataDepth + 1) body ∅ with
          | mk outcome after =>
              cases outcome with
              | error error =>
                  simp only [Outcome.error_bind, reduceCtorEq, false_iff]
                  rintro ⟨accepts, -⟩
                  rw [assertJsonMetadataValue_ok_iff.mpr ⟨accepts, rfl⟩]
                    at checked
                  cases checked
              | ok returned =>
                  have accepts := (assertJsonMetadataValue_ok_iff.mp checked).1
                  simp only [Outcome.ok_bind, accepts, true_and, stringify]
                  cases graph.unfold fuel body with
                  | none => simp [Outcome.error_bind]
                  | some tree =>
                      simp only [Outcome.ok_bind, Option.some.injEq,
                        exists_eq_left']
                      split_ifs with long
                      · simp [not_le.mpr long]
                      · simp [not_lt.mp long]

end

/-- On every finite graph with dense arrays the check ends, and it passes
safe metadata and nothing else. -/
theorem assertSafeVaultPublicMetadata_iff {ρ : Type} [Fintype ρ]
    [DecidableEq ρ] (platform : Platform) {graph : ObjectGraph ρ}
    (dense : graph.Dense) (root : GraphValue ρ) {fuel : Nat}
    (enough : Fintype.card ρ < fuel) :
    ∃ outcome,
      graph.assertSafeVaultPublicMetadata platform fuel root =
        some outcome ∧
      (outcome = .ok () ↔ graph.SafePublicMetadata platform root) := by
  obtain ⟨found, ends, nothing⟩ :=
    rejectVaultPlaintextFields_ends platform graph root
  obtain ⟨outcome, ended, passes⟩ :=
    assertSafeVaultPublicMetadata_ok_iff (ends fuel enough)
  refine ⟨outcome, ended, passes.trans ?_⟩
  rw [isPlainRoot_iff, nothing, accepts_iff_shape dense]
  constructor
  · rintro ⟨⟨node, prototype, members, same, kind⟩, clean, shape, tree,
      unfolded, short⟩
    refine ⟨⟨node, prototype, members, same, kind, ?_⟩, shape.values,
      shape.acyclic, shape.depth, fun _ => shape.entries dense, ?_, ?_,
      tree, ⟨fuel, unfolded⟩, short⟩
    · exact shape.values _ (.inl same) prototype members kind
    · intro node reaches prototype members kind
      have bounds := shape.bounds node reaches
      rw [kind] at bounds
      exact bounds.2.2
    · intro node reaches entry listed forbidden
      apply clean node reaches entry listed
      refine ⟨forbidden, ?_⟩
      intro undefined
      have value := shape.values _ (.inr ⟨node, reaches, entry, listed, rfl⟩)
      rw [undefined] at value
      exact value
  · intro safe
    obtain ⟨node, prototype, members, same, kind, -⟩ := safe.plain
    have shape := safe.shape dense
    obtain ⟨tree, ⟨limit, unfolded⟩, short⟩ := safe.size
    obtain ⟨again, within⟩ := ((accepts_iff_shape dense).mpr shape).unfolds
      (show (∅ : Finset ρ)ᶜ.card ≤ fuel by simpa using enough.le)
    have sameTree : again = tree := by
      have first := unfold_mono within (Nat.le_max_left fuel limit)
      have second := unfold_mono unfolded (Nat.le_max_right fuel limit)
      exact Option.some.inj (first.symm.trans second)
    refine ⟨⟨node, prototype, members, same, kind⟩, ?_, shape, again, within,
      ?_⟩
    · rintro node reaches entry listed ⟨forbidden, -⟩
      exact safe.names node reaches entry listed forbidden
    · rw [sameTree]
      exact short

end ObjectGraph

namespace Reference

/-- Metadata that holds one array twice. -/
def sharedGraph : ObjectGraph (Fin 2) where
  object
    | 0 => .object .objectPrototype
        [(js "devices", .reference 1), (js "recent", .reference 1)]
    | 1 => .array [some (.string (js "laptop")), some (.number (.finite 1))] []

theorem sharedGraph_dense : sharedGraph.Dense := by
  intro node
  match node with
  | 0 => trivial
  | 1 => exact ⟨by simp, rfl⟩

end Reference

/-- A part may be shared. -/
theorem assertSafeVaultPublicMetadata_iff_shared :
    Reference.sharedGraph.SafePublicMetadata (Reference.platform [])
      (.reference 0) := by
  obtain ⟨outcome, ended, safe⟩ :=
    ObjectGraph.assertSafeVaultPublicMetadata_iff (Reference.platform [])
      Reference.sharedGraph_dense (.reference 0)
      (show Fintype.card (Fin 2) < 3 by decide)
  have accepted : Reference.sharedGraph.assertSafeVaultPublicMetadata
      (Reference.platform []) 3 (.reference 0) = some (.ok ()) := by
    decide +kernel
  rw [accepted] at ended
  exact safe.mp (Option.some.inj ended).symm

end VaultCore
