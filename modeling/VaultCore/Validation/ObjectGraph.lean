import VaultCore.Graph.DepthFirst
import VaultCore.Validation.PublicMetadata

/-!
# Plaintext fields in an object graph

The objects a caller passes may share parts and may be cyclic.  A value is a
primitive or a reference to an object, and an object has the properties that
`Object.entries` lists.  The search for plaintext fields enters every object
once and still finds a field wherever it is.
-/

namespace VaultCore

/-- A value whose objects are references. -/
inductive GraphValue (ρ : Type) where
  | undefined
  /-- a function, a symbol or a big integer -/
  | foreign
  | null
  | boolean (value : Bool)
  | number (value : JsNumber)
  | string (text : JsString)
  | reference (object : ρ)

/-- The members of an object, in their order. -/
abbrev GraphMembers (ρ : Type) := List (JsString × GraphValue ρ)

/-- The prototype of an object, as far as a check sees it. -/
inductive Prototype where
  | objectPrototype
  | null
  | other
deriving DecidableEq

/-- What a reference stands for. -/
inductive GraphObject (ρ : Type) where
  /-- an array with its holes, and what it has besides its items -/
  | array (items : List (Option (GraphValue ρ))) (others : GraphMembers ρ)
  | object (prototype : Prototype) (members : GraphMembers ρ)

/-- The objects by their references. -/
structure ObjectGraph (ρ : Type) where
  object : ρ → GraphObject ρ

namespace GraphValue

variable {ρ : Type}

/-- `value === undefined` -/
def isUndefined : GraphValue ρ → Bool
  | undefined => true
  | _ => false

/-- The object that the value refers to. -/
def referenced : GraphValue ρ → Option ρ
  | reference object => some object
  | _ => none

theorem referenced_eq_some {value : GraphValue ρ} {object : ρ} :
    value.referenced = some object ↔ value = .reference object := by
  cases value <;> simp [referenced]

theorem isUndefined_iff {value : GraphValue ρ} :
    value.isUndefined = true ↔ value = .undefined := by
  cases value <;> simp [isUndefined]

end GraphValue

namespace GraphObject

variable {ρ : Type}

/-- Items are named by their indices, and a hole has no entry. -/
def indexedEntries (index : Nat) :
    List (Option (GraphValue ρ)) → GraphMembers ρ
  | [] => []
  | none :: items => indexedEntries (index + 1) items
  | some item :: items =>
      (JsNumber.digitsText index, item) :: indexedEntries (index + 1) items

/-- `Object.entries(value)` -/
def entries : GraphObject ρ → GraphMembers ρ
  | array items others => indexedEntries 0 items ++ others
  | object _ members => members

end GraphObject

namespace ObjectGraph

section

variable {ρ : Type} (platform : Platform) (graph : ObjectGraph ρ)

/-- What `visit` does with the entries of an object. -/
def plaintextSearch :
    Search ρ (JsString × GraphValue ρ) JsString JsString where
  entries node := (graph.object node).entries
  target entry := entry.2.referenced
  refused entry :=
    isVaultPlaintextForbiddenField platform entry.1 && !entry.2.isUndefined
  extend path entry := memberPath path entry.1
  message fieldPath entry := plaintextFieldMessage entry.1 fieldPath

/-- The message about the first plaintext field, if the search ends within
`fuel` nested calls. -/
def rejectVaultPlaintextFields [DecidableEq ρ] (fuel : Nat)
    (body : GraphValue ρ) : Option (Option JsString) :=
  (graph.plaintextSearch platform).run fuel body.referenced []

/-- Reject a body with a plaintext field. -/
def assertNoVaultPlaintextFields [DecidableEq ρ] (fuel : Nat)
    (body : GraphValue ρ) : Option (Except VaultError Unit) :=
  (graph.rejectVaultPlaintextFields platform fuel body).map fun result =>
    match result with
    | some message => .error (.vaultPlaintextRejectionError message)
    | none => .ok ()

/-- One object holds the other in a property. -/
def Holds (node next : ρ) : Prop :=
  ∃ entry ∈ (graph.object node).entries, entry.2 = .reference next

/-- The object is reached from the value. -/
def Reaches (body : GraphValue ρ) (node : ρ) : Prop :=
  ∃ start, body = .reference start ∧
    Relation.ReflTransGen graph.Holds start node

/-- The object is reached from the value along properties that are written as
a path. -/
inductive PathTo (body : GraphValue ρ) : JsString → ρ → Prop
  | root {start : ρ} (same : body = .reference start) : PathTo body [] start
  | member {path : JsString} {node next : ρ} {field : JsString}
      (before : PathTo body path node)
      (listed : (field, .reference next) ∈ (graph.object node).entries) :
      PathTo body (memberPath path field) next

/-- The property is one that must not be sent in plaintext. -/
def IsPlaintext (entry : JsString × GraphValue ρ) : Prop :=
  platform.toLowerCase entry.1 ∈
      plaintextForbiddenVaultFields.map platform.toLowerCase ∧
    entry.2 ≠ .undefined

end

section

variable {ρ : Type} {platform : Platform} {graph : ObjectGraph ρ}

theorem PathTo.reaches {body : GraphValue ρ} {path : JsString} {node : ρ}
    (leads : graph.PathTo body path node) : graph.Reaches body node := by
  induction leads with
  | root same => exact ⟨_, same, .refl⟩
  | member before listed ih =>
      obtain ⟨start, same, walk⟩ := ih
      exact ⟨start, same, walk.tail ⟨_, listed, rfl⟩⟩

theorem isPlaintext_iff {entry : JsString × GraphValue ρ} :
    (isVaultPlaintextForbiddenField platform entry.1 &&
        !entry.2.isUndefined) = true ↔ IsPlaintext platform entry := by
  simp only [isVaultPlaintextForbiddenField, Bool.and_eq_true,
    List.contains_iff_mem, Bool.not_eq_true', ← Bool.not_eq_true,
    GraphValue.isUndefined_iff, IsPlaintext, ne_eq]

theorem plaintextSearch_refused {entry : JsString × GraphValue ρ} :
    (graph.plaintextSearch platform).refused entry = true ↔
      IsPlaintext platform entry :=
  isPlaintext_iff

theorem plaintextSearch_edge :
    (graph.plaintextSearch platform).Edge = graph.Holds := by
  funext node next
  simp only [Search.Edge, Holds, plaintextSearch,
    GraphValue.referenced_eq_some]

theorem PathTo.leads {body : GraphValue ρ} {start last : ρ}
    {path lastPath : JsString} (before : graph.PathTo body path start)
    (leads : (graph.plaintextSearch platform).Leads start path last
      lastPath) : graph.PathTo body lastPath last := by
  induction leads with
  | here node path => exact before
  | along listed target rest ih =>
      rename_i node next last path lastPath entry
      obtain ⟨field, value⟩ := entry
      obtain rfl := GraphValue.referenced_eq_some.mp target
      exact ih (before.member listed)

/-- No property below the value is one that must not be sent. -/
def CleanBelow (platform : Platform) (graph : ObjectGraph ρ)
    (value : GraphValue ρ) : Prop :=
  ∀ node, graph.Reaches value node →
    ∀ entry ∈ (graph.object node).entries, ¬ IsPlaintext platform entry

theorem plaintextSearch_accepts_iff {body : GraphValue ρ} :
    (∀ start, body.referenced = some start →
      ∀ node, (graph.plaintextSearch platform).Reaches start node →
        ∀ entry ∈ (graph.plaintextSearch platform).entries node,
          (graph.plaintextSearch platform).refused entry = false) ↔
      graph.CleanBelow platform body := by
  constructor
  · rintro accepted node ⟨start, rfl, walk⟩ entry listed plaintext
    have edge : (graph.plaintextSearch platform).Edge = graph.Holds :=
      plaintextSearch_edge
    rw [← edge] at walk
    have clean := accepted start rfl node walk entry listed
    rw [plaintextSearch_refused.mpr plaintext] at clean
    cases clean
  · intro clean start target node walk entry listed
    apply eq_false_of_ne_true
    intro refused
    rw [Search.Reaches, plaintextSearch_edge] at walk
    exact clean node ⟨start, GraphValue.referenced_eq_some.mp target, walk⟩
      entry listed (plaintextSearch_refused.mp refused)

/-- On every finite graph the search ends, with nothing exactly when there is
nothing to find. -/
theorem rejectVaultPlaintextFields_ends [Fintype ρ] [DecidableEq ρ]
    (platform : Platform) (graph : ObjectGraph ρ) (body : GraphValue ρ) :
    ∃ result,
      (∀ fuel, Fintype.card ρ < fuel →
        graph.rejectVaultPlaintextFields platform fuel body = some result) ∧
      (result = none ↔ graph.CleanBelow platform body) := by
  obtain ⟨result, ends, nothing, -⟩ :=
    (graph.plaintextSearch platform).run_spec body.referenced []
  exact ⟨result, ends, nothing.trans plaintextSearch_accepts_iff⟩

end

/-- On every finite graph the search returns one result whatever its fuel:
nothing exactly when no object that is reached has a plaintext property, and
otherwise the message about such a property and the path to it. -/
theorem rejectVaultPlaintextFields_spec {ρ : Type} [Fintype ρ]
    [DecidableEq ρ] (platform : Platform) (graph : ObjectGraph ρ)
    (body : GraphValue ρ) :
    ∃ result,
      (∀ fuel, Fintype.card ρ < fuel →
        graph.rejectVaultPlaintextFields platform fuel body = some result) ∧
      (result = none ↔ ∀ node, graph.Reaches body node →
        ∀ entry ∈ (graph.object node).entries,
          ¬ IsPlaintext platform entry) ∧
      ∀ message, result = some message →
        ∃ path node entry, graph.PathTo body path node ∧
          entry ∈ (graph.object node).entries ∧ IsPlaintext platform entry ∧
          message = plaintextFieldMessage entry.1
            (memberPath path entry.1) := by
  obtain ⟨result, ends, nothing, reported⟩ :=
    (graph.plaintextSearch platform).run_spec body.referenced []
  refine ⟨result, ends, ?_, ?_⟩
  · rw [nothing, plaintextSearch_accepts_iff]
    rfl
  · intro message found
    obtain ⟨start, target, node, path, entry, leads, listed, refused, rfl⟩ :=
      reported message found
    have root : graph.PathTo body [] start :=
      .root (GraphValue.referenced_eq_some.mp target)
    exact ⟨path, node, entry, root.leads leads, listed,
      plaintextSearch_refused.mp refused, rfl⟩

end ObjectGraph

end VaultCore
