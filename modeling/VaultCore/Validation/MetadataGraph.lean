import VaultCore.Async.Program
import VaultCore.Validation.ObjectGraph

/-!
# Public metadata with shared parts

A caller may pass metadata whose parts are shared or cyclic.  The check marks
the objects on the way down and unmarks them on the way up, so it rejects
cycles and accepts sharing, and its bound on the depth ends it.
-/

namespace VaultCore

namespace ObjectGraph

section

variable {ρ : Type} [DecidableEq ρ] (platform : Platform)
  (graph : ObjectGraph ρ)

/-- `for (const entry of value)`: a hole reads as undefined. -/
def assertItems (check : GraphValue ρ → Sync (Finset ρ) VaultError Unit) :
    List (Option (GraphValue ρ)) → Sync (Finset ρ) VaultError Unit
  | [] => pure ()
  | item :: items => do
      check (item.getD .undefined)
      assertItems check items

/-- Check the members in turn, up to the first that fails. -/
def assertMembers (check : GraphValue ρ → Sync (Finset ρ) VaultError Unit) :
    GraphMembers ρ → Sync (Finset ρ) VaultError Unit
  | [] => pure ()
  | (key, entry) :: members =>
      if key.length = 0 ∨ maxPublicMetadataKeyLength < key.length then
        Sync.throw
          (.typeError "Vault public metadata contains an invalid key")
      else do
        check entry
        assertMembers check members

/-- The check of a value with `levels` levels of objects left: the depth of
the source is `maxPublicMetadataDepth + 1 - levels`.  The state is `seen`. -/
def assertJsonMetadataValue :
    Nat → GraphValue ρ → Sync (Finset ρ) VaultError Unit
  | _, .null => pure ()
  | _, .string _ => pure ()
  | _, .boolean _ => pure ()
  | _, .number value =>
      if value.isFinite then pure () else Sync.throw notJsonMetadata
  | _, .undefined => Sync.throw notJsonMetadata
  | _, .foreign => Sync.throw notJsonMetadata
  | 0, .reference _ =>
      Sync.throw
        (.typeError "Vault public metadata exceeds the maximum depth")
  | levels + 1, .reference node => do
      let seen ← Sync.get
      if node ∈ seen then
        Sync.throw (.typeError
          "Vault public metadata must not contain circular references")
      else do
        Sync.modify (insert node)
        match graph.object node with
        | .array items _ =>
            if maxPublicMetadataEntries < items.length then
              Sync.throw (.typeError
                "Vault public metadata exceeds the maximum array length")
            else do
              assertItems (assertJsonMetadataValue levels) items
              Sync.modify fun seen => seen.erase node
        | .object prototype members =>
            if prototype = .other then
              Sync.throw (.typeError
                "Vault public metadata must contain plain objects only")
            else if maxPublicMetadataEntries < members.length then
              Sync.throw (.typeError
                "Vault public metadata exceeds the maximum object size")
            else do
              assertMembers (assertJsonMetadataValue levels) members
              Sync.modify fun seen => seen.erase node

/-- The tree that the value unfolds to, within `fuel` nested objects. -/
def unfold : Nat → GraphValue ρ → Option MetadataValue
  | _, .undefined => some .undefined
  | _, .foreign => some .foreign
  | _, .null => some .null
  | _, .boolean value => some (.boolean value)
  | _, .number value => some (.number value)
  | _, .string text => some (.string text)
  | 0, .reference _ => none
  | fuel + 1, .reference node =>
      match graph.object node with
      | .array items _ =>
          (items.mapM fun item => unfold fuel (item.getD .undefined)).map
            .array
      | .object prototype members =>
          (members.mapM fun member =>
            (unfold fuel member.2).map fun tree => (member.1, tree)).map
              (if prototype = .other then .classObject else .object)

/-- `JSON.stringify(value)`, which throws on a cycle. -/
def stringify (fuel : Nat) (value : GraphValue ρ) :
    Except VaultError JsString :=
  match graph.unfold fuel value with
  | some tree => .ok tree.stringify
  | none => .error
      (.typeError "Converting circular structure to JSON")

/-- Whether the metadata is a plain object. -/
def isPlainRoot (metadata : GraphValue ρ) : Bool :=
  match metadata with
  | .reference node =>
      match graph.object node with
      | .array _ _ => false
      | .object _ _ => true
  | _ => false

/-- The checks of metadata that may share objects and have cycles. -/
def assertSafeVaultPublicMetadata (fuel : Nat) (metadata : GraphValue ρ) :
    Option (Except VaultError Unit) :=
  if !graph.isPlainRoot metadata then
    some (.error
      (.typeError "Vault public metadata must be a plain object"))
  else
    (graph.assertNoVaultPlaintextFields platform fuel metadata).map
      fun checked => do
        checked
        (graph.assertJsonMetadataValue (maxPublicMetadataDepth + 1)
          metadata ∅).1
        let json ← graph.stringify fuel metadata
        if maxPublicMetadataBytes < (stringToBytes json).length then
          throw (.typeError "Vault public metadata exceeds 4096 bytes")
        else return ()

end

end ObjectGraph

/-! ## What the check of the values accepts -/

namespace GraphObject

variable {ρ : Type}

/-- The values an object holds, in the order in which they are checked. -/
def held : GraphObject ρ → List (GraphValue ρ)
  | array items _ => items.map fun item => item.getD .undefined
  | object _ members => members.map Prod.snd

/-- An object of a permitted kind, size and keys. -/
def WithinBounds : GraphObject ρ → Prop
  | array items _ => items.length ≤ maxPublicMetadataEntries
  | object prototype members => prototype ≠ .other ∧
      members.length ≤ maxPublicMetadataEntries ∧
      ∀ member ∈ members, 1 ≤ member.1.length ∧
        member.1.length ≤ maxPublicMetadataKeyLength

/-- An array without holes and without further properties. -/
def Dense : GraphObject ρ → Prop
  | array items others => none ∉ items ∧ others = []
  | object _ _ => True

theorem held_indexedEntries {items : List (Option (GraphValue ρ))}
    (full : none ∉ items) (index : Nat) :
    (indexedEntries index items).map Prod.snd =
      items.map fun item => item.getD .undefined := by
  induction items generalizing index with
  | nil => rfl
  | cons item items ih =>
      cases item with
      | none => exact absurd List.mem_cons_self full
      | some value =>
          have rest : none ∉ items := fun hole =>
            full (List.mem_cons_of_mem _ hole)
          simp [indexedEntries, ih rest]

theorem held_eq {object : GraphObject ρ} (dense : object.Dense) :
    object.held = object.entries.map Prod.snd := by
  cases object with
  | array items others =>
      obtain ⟨full, rfl⟩ := dense
      rw [entries, List.append_nil, held_indexedEntries full]
      rfl
  | object prototype members => rfl

theorem length_entries {object : GraphObject ρ} (dense : object.Dense) :
    object.entries.length = object.held.length := by
  rw [held_eq dense, List.length_map]

end GraphObject

namespace ObjectGraph

section

variable {ρ : Type} {graph : ObjectGraph ρ}

section Loops

variable {check : GraphValue ρ → Sync (Finset ρ) VaultError Unit}
  {accepted : GraphValue ρ → Prop} {seen after : Finset ρ}

theorem assertItems_ok_iff
    (checks : ∀ value after, check value seen = (.ok (), after) ↔
      accepted value ∧ after = seen)
    {items : List (Option (GraphValue ρ))} :
    assertItems check items seen = (.ok (), after) ↔
      (∀ value ∈ items.map fun item => item.getD .undefined,
        accepted value) ∧ after = seen := by
  induction items with
  | nil => simp [assertItems, eq_comm]
  | cons item items ih =>
      rw [assertItems, Sync.bind_eq_ok_iff]
      simp only [List.map_cons, List.forall_mem_cons, and_assoc, ← ih]
      constructor
      · rintro ⟨_, middle, first, rest⟩
        obtain ⟨good, rfl⟩ := (checks _ _).mp first
        exact ⟨good, rest⟩
      · rintro ⟨good, rest⟩
        exact ⟨(), seen, (checks _ _).mpr ⟨good, rfl⟩, rest⟩

theorem assertMembers_ok_iff
    (checks : ∀ value after, check value seen = (.ok (), after) ↔
      accepted value ∧ after = seen)
    {members : GraphMembers ρ} :
    assertMembers check members seen = (.ok (), after) ↔
      ((∀ member ∈ members, 1 ≤ member.1.length ∧
          member.1.length ≤ maxPublicMetadataKeyLength) ∧
        ∀ value ∈ members.map Prod.snd, accepted value) ∧ after = seen := by
  induction members with
  | nil => simp [assertMembers, eq_comm]
  | cons member members ih =>
      obtain ⟨key, entry⟩ := member
      rw [assertMembers]
      split_ifs with invalid
      · simp only [Sync.throw_apply, Prod.mk.injEq, reduceCtorEq, false_and,
          false_iff, not_and]
        intro good
        have bounds := good.1 _ List.mem_cons_self
        simp only at bounds
        omega
      · have bounds : 1 ≤ key.length ∧
            key.length ≤ maxPublicMetadataKeyLength := by omega
        rw [Sync.bind_eq_ok_iff]
        simp only [List.map_cons, List.forall_mem_cons, bounds, true_and]
        constructor
        · rintro ⟨_, middle, first, rest⟩
          obtain ⟨good, rfl⟩ := (checks _ _).mp first
          obtain ⟨⟨keys, values⟩, same⟩ := ih.mp rest
          exact ⟨⟨keys, good, values⟩, same⟩
        · rintro ⟨⟨keys, good, values⟩, same⟩
          exact ⟨(), seen, (checks _ _).mpr ⟨good, rfl⟩,
            ih.mpr ⟨⟨keys, values⟩, same⟩⟩

end Loops

variable [DecidableEq ρ]

/-- What `assertJsonMetadataValue` accepts below the objects in `seen`. -/
def Accepts (graph : ObjectGraph ρ) :
    Nat → Finset ρ → GraphValue ρ → Prop
  | _, _, .null => True
  | _, _, .string _ => True
  | _, _, .boolean _ => True
  | _, _, .number value => value.isFinite = true
  | _, _, .undefined => False
  | _, _, .foreign => False
  | 0, _, .reference _ => False
  | levels + 1, seen, .reference node =>
      node ∉ seen ∧ (graph.object node).WithinBounds ∧
        ∀ value ∈ (graph.object node).held,
          Accepts graph levels (insert node seen) value

/-- A check that returns has unmarked what it marked. -/
theorem assertJsonMetadataValue_ok_iff {levels : Nat} {value : GraphValue ρ}
    {seen after : Finset ρ} :
    graph.assertJsonMetadataValue levels value seen = (.ok (), after) ↔
      graph.Accepts levels seen value ∧ after = seen := by
  induction levels generalizing value seen after with
  | zero =>
      cases value with
      | number value =>
          simp only [assertJsonMetadataValue, Accepts]
          split_ifs with finite <;> simp [finite, eq_comm]
      | _ => simp [assertJsonMetadataValue, Accepts, eq_comm]
  | succ levels ih =>
      cases value with
      | number value =>
          simp only [assertJsonMetadataValue, Accepts]
          split_ifs with finite <;> simp [finite, eq_comm]
      | reference node =>
          simp only [assertJsonMetadataValue, Accepts]
          rw [Sync.bind_ok (Sync.get_apply seen)]
          by_cases marked : node ∈ seen
          · simp [marked]
          · rw [if_neg marked, Sync.bind_ok (Sync.modify_apply _ seen)]
            have unmarked : (insert node seen).erase node = seen :=
              Finset.erase_insert marked
            cases graph.object node with
            | array items others =>
                simp only [GraphObject.WithinBounds, GraphObject.held]
                split_ifs with long
                · simp [not_le.mpr long]
                · rw [Sync.bind_eq_ok_iff]
                  simp only [assertItems_ok_iff fun value after => ih,
                    Sync.modify_apply, Prod.mk.injEq, true_and]
                  constructor
                  · rintro ⟨_, middle, ⟨good, rfl⟩, erased⟩
                    exact ⟨⟨marked, not_lt.mp long, good⟩,
                      by rw [← erased, unmarked]⟩
                  · rintro ⟨⟨-, -, good⟩, rfl⟩
                    exact ⟨(), _, ⟨good, rfl⟩, unmarked⟩
            | object prototype members =>
                simp only [GraphObject.WithinBounds, GraphObject.held]
                split_ifs with classed long
                · simp [classed]
                · simp [not_le.mpr long]
                · rw [Sync.bind_eq_ok_iff]
                  simp only [assertMembers_ok_iff fun value after => ih,
                    Sync.modify_apply, Prod.mk.injEq, true_and]
                  constructor
                  · rintro ⟨_, middle, ⟨⟨keys, good⟩, rfl⟩, erased⟩
                    exact ⟨⟨marked, ⟨classed, not_lt.mp long, keys⟩, good⟩,
                      by rw [← erased, unmarked]⟩
                  · rintro ⟨⟨-, ⟨-, -, keys⟩, good⟩, rfl⟩
                    exact ⟨(), _, ⟨⟨keys, good⟩, rfl⟩, unmarked⟩
      | _ => simp [assertJsonMetadataValue, Accepts, eq_comm]

end

end ObjectGraph

end VaultCore
