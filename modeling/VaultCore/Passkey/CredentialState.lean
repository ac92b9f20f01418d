import VaultCore.Browser.ScopeAuthOptions
import VaultCore.Iteration.SeenScan
import Mathlib.Data.List.Forall2

/-!
# The portable state of one passkey

The state lists the bindings of one credential and the variants of its
envelope.  The refinements of the schema report every item that speaks of
another credential, repeats an id or names a variant that does not exist, by
its path.
-/

namespace VaultCore

def maxPasskeyBindingsPerCredential : Nat := 64

def maxPasskeyEnvelopeVariantsPerCredential : Nat := 32

inductive WebAuthnTransport where
  | ble
  | cable
  | hybrid
  | internal
  | nfc
  | smartCard
  | usb
deriving DecidableEq

/-- Whether the credential stays on one device. -/
inductive VaultPasskeyCredentialDeviceType where
  | singleDevice
  | multiDevice
deriving DecidableEq

structure VaultPasskeyCredentialMetadata where
  credentialId : JsString
  transports : Option (List WebAuthnTransport)
  credentialDeviceType : Option VaultPasskeyCredentialDeviceType
  backupEligible : Option Bool
  credentialBackedUp : Option Bool
deriving DecidableEq

/-- What is stored about the binding of a device. -/
structure VaultPasskeyBindingMetadata where
  bindingId : JsString
  credentialId : JsString
  selectedEnvelopeVariantId : Option JsString
deriving DecidableEq

/-- A credential with its bindings and its envelope variants. -/
structure VaultPasskeyCredentialState where
  credential : VaultPasskeyCredentialMetadata
  bindings : List VaultPasskeyBindingMetadata
  envelopeVariants : List VaultPasskeyEnvelopeVariant
deriving DecidableEq

/-- A step of the path of an issue. -/
inductive PathItem where
  | key (name : String)
  | index (position : Nat)
deriving DecidableEq

/-- `context.addIssue({ code: "custom", message, path })` -/
structure SchemaIssue where
  message : String
  path : List PathItem
deriving DecidableEq

/-- An issue, when there is cause for it. -/
def issueIf (cause : Bool) (message : String) (path : List PathItem) :
    List SchemaIssue :=
  if cause then [{ message := message, path := path }] else []

@[simp] theorem mem_issueIf {cause : Bool} {message : String}
    {path : List PathItem} {issue : SchemaIssue} :
    issue ∈ issueIf cause message path ↔
      cause = true ∧ issue = { message := message, path := path } := by
  cases cause <;> simp [issueIf]

/-! ## The metadata of the credential -/

/-- The issues of the refinement of the metadata, in their order. -/
def credentialMetadataIssues (value : VaultPasskeyCredentialMetadata) :
    List SchemaIssue :=
  issueIf (!decide (value.transports.getD []).Nodup)
      "Passkey transports must be unique" [.key "transports"] ++
    issueIf (value.credentialDeviceType == some .singleDevice &&
        value.backupEligible == some true)
      "A single-device credential cannot be backup eligible"
      [.key "backupEligible"] ++
    issueIf (value.credentialDeviceType == some .multiDevice &&
        value.backupEligible == some false)
      "A multi-device credential must be backup eligible"
      [.key "backupEligible"] ++
    issueIf (value.credentialBackedUp == some true &&
        (value.backupEligible == some false ||
          value.credentialDeviceType == some .singleDevice))
      "Only a backup-eligible credential can be backed up"
      [.key "credentialBackedUp"]

def vaultPasskeyCredentialMetadataSchema
    (value : VaultPasskeyCredentialMetadata) : Bool :=
  vaultPasskeyOpaqueIdSchema value.credentialId &&
    decide ((value.transports.getD []).length ≤ maxPasskeyTransports) &&
    (credentialMetadataIssues value).isEmpty

def vaultPasskeyBindingMetadataSchema (value : VaultPasskeyBindingMetadata) :
    Bool :=
  vaultPasskeyOpaqueIdSchema value.bindingId &&
    vaultPasskeyOpaqueIdSchema value.credentialId &&
    (value.selectedEnvelopeVariantId.all vaultPasskeyOpaqueIdSchema)

/-! ## The state -/

/-- What the first loop reports on a variant. -/
def variantIssues (credentialId : JsString) (index : Nat) (repeated : Bool)
    (variant : VaultPasskeyEnvelopeVariant) : List SchemaIssue :=
  issueIf (variant.credentialId != credentialId)
      "Envelope variant credential does not match the credential state"
      [.key "envelopeVariants", .index index, .key "credentialId"] ++
    issueIf repeated "Envelope variant identifiers must be unique"
      [.key "envelopeVariants", .index index, .key "envelopeVariantId"]

/-- What the second loop reports on a binding.  The empty id selects no
variant. -/
def bindingIssues (credentialId : JsString) (variantIds : List JsString)
    (index : Nat) (repeated : Bool) (binding : VaultPasskeyBindingMetadata) :
    List SchemaIssue :=
  issueIf (binding.credentialId != credentialId)
      "Binding credential does not match the credential state"
      [.key "bindings", .index index, .key "credentialId"] ++
    issueIf repeated "Binding identifiers must be unique"
      [.key "bindings", .index index, .key "bindingId"] ++
    issueIf (binding.selectedEnvelopeVariantId.any fun selected =>
        !selected.isEmpty && decide (selected ∉ variantIds))
      "Binding-selected envelope variant does not exist"
      [.key "bindings", .index index, .key "selectedEnvelopeVariantId"]

namespace VaultPasskeyCredentialState

def variantIds (value : VaultPasskeyCredentialState) : List JsString :=
  value.envelopeVariants.map VaultPasskeyEnvelopeVariant.envelopeVariantId

/-- The refinement of the state. -/
def issues (value : VaultPasskeyCredentialState) : List SchemaIssue :=
  SeenScan.scan VaultPasskeyEnvelopeVariant.envelopeVariantId
      (variantIssues value.credential.credentialId) 0 []
      value.envelopeVariants ++
    SeenScan.scan VaultPasskeyBindingMetadata.bindingId
      (bindingIssues value.credential.credentialId value.variantIds) 0 []
      value.bindings

end VaultPasskeyCredentialState

/-- The members of the state, before its refinement. -/
def credentialStateWithin (value : VaultPasskeyCredentialState) : Bool :=
  vaultPasskeyCredentialMetadataSchema value.credential &&
    decide (value.bindings.length ≤ maxPasskeyBindingsPerCredential) &&
    value.bindings.all vaultPasskeyBindingMetadataSchema &&
    decide (1 ≤ value.envelopeVariants.length) &&
    decide (value.envelopeVariants.length ≤
      maxPasskeyEnvelopeVariantsPerCredential)

/-- The state that parses, with its own envelopes parsed. -/
def vaultPasskeyCredentialStateSchema (platform : Platform)
    (value : VaultPasskeyCredentialState) :
    Option VaultPasskeyCredentialState :=
  if credentialStateWithin value then do
    let envelopeVariants ← value.envelopeVariants.mapM
      (vaultPasskeyEnvelopeVariantSchema platform)
    let parsed := { value with envelopeVariants := envelopeVariants }
    if parsed.issues.isEmpty then some parsed else none
  else none

/-! ## Coherence -/

/-- The members of the metadata agree with one another. -/
structure CoherentMetadata (value : VaultPasskeyCredentialMetadata) :
    Prop where
  transports : (value.transports.getD []).Nodup
  single : value.credentialDeviceType = some .singleDevice →
    value.backupEligible ≠ some true ∧ value.credentialBackedUp ≠ some true
  multi : value.credentialDeviceType = some .multiDevice →
    value.backupEligible ≠ some false
  backedUp : value.credentialBackedUp = some true →
    value.backupEligible ≠ some false

/-- The state speaks of one credential, no id stands for two things, and every
variant that a binding selects exists. -/
structure CoherentState (value : VaultPasskeyCredentialState) : Prop where
  variantOwner : ∀ variant ∈ value.envelopeVariants,
    variant.credentialId = value.credential.credentialId
  variantsDistinct : value.variantIds.Nodup
  bindingOwner : ∀ binding ∈ value.bindings,
    binding.credentialId = value.credential.credentialId
  bindingsDistinct :
    (value.bindings.map VaultPasskeyBindingMetadata.bindingId).Nodup
  selectedExists : ∀ binding ∈ value.bindings,
    ∀ selected ∈ binding.selectedEnvelopeVariantId,
      selected ≠ [] → selected ∈ value.variantIds

/-- What deserves an issue, and which. -/
inductive Incoherence (value : VaultPasskeyCredentialState) :
    SchemaIssue → Prop where
  | variantOwner {index : Nat} {variant : VaultPasskeyEnvelopeVariant} :
      value.envelopeVariants[index]? = some variant →
      variant.credentialId ≠ value.credential.credentialId →
      Incoherence value
        { message :=
            "Envelope variant credential does not match the credential state"
          path := [.key "envelopeVariants", .index index,
            .key "credentialId"] }
  | variantRepeats {index : Nat} {variant : VaultPasskeyEnvelopeVariant} :
      value.envelopeVariants[index]? = some variant →
      SeenScan.Repeats VaultPasskeyEnvelopeVariant.envelopeVariantId
        value.envelopeVariants index variant →
      Incoherence value
        { message := "Envelope variant identifiers must be unique"
          path := [.key "envelopeVariants", .index index,
            .key "envelopeVariantId"] }
  | bindingOwner {index : Nat} {binding : VaultPasskeyBindingMetadata} :
      value.bindings[index]? = some binding →
      binding.credentialId ≠ value.credential.credentialId →
      Incoherence value
        { message := "Binding credential does not match the credential state"
          path := [.key "bindings", .index index, .key "credentialId"] }
  | bindingRepeats {index : Nat} {binding : VaultPasskeyBindingMetadata} :
      value.bindings[index]? = some binding →
      SeenScan.Repeats VaultPasskeyBindingMetadata.bindingId
        value.bindings index binding →
      Incoherence value
        { message := "Binding identifiers must be unique"
          path := [.key "bindings", .index index, .key "bindingId"] }
  | selectedMissing {index : Nat} {binding : VaultPasskeyBindingMetadata}
      {selected : JsString} :
      value.bindings[index]? = some binding →
      binding.selectedEnvelopeVariantId = some selected →
      selected ≠ [] → selected ∉ value.variantIds →
      Incoherence value
        { message := "Binding-selected envelope variant does not exist"
          path := [.key "bindings", .index index,
            .key "selectedEnvelopeVariantId"] }

section Issues

variable {value : VaultPasskeyCredentialState} {issue : SchemaIssue}

theorem mem_variantIssues {credentialId : JsString} {index : Nat}
    {repeated : Bool} {variant : VaultPasskeyEnvelopeVariant} :
    issue ∈ variantIssues credentialId index repeated variant ↔
      (variant.credentialId ≠ credentialId ∧ issue =
        { message :=
            "Envelope variant credential does not match the credential state"
          path := [.key "envelopeVariants", .index index,
            .key "credentialId"] }) ∨
      (repeated = true ∧ issue =
        { message := "Envelope variant identifiers must be unique"
          path := [.key "envelopeVariants", .index index,
            .key "envelopeVariantId"] }) := by
  rw [variantIssues, List.mem_append, mem_issueIf, mem_issueIf, bne_iff_ne]

theorem selected_missing_iff {variantIds : List JsString}
    {chosen : Option JsString} :
    (chosen.any fun selected =>
        !selected.isEmpty && decide (selected ∉ variantIds)) = true ↔
      ∃ selected, chosen = some selected ∧ selected ≠ [] ∧
        selected ∉ variantIds := by
  cases chosen with
  | none => simp
  | some selected => simp

theorem mem_bindingIssues {credentialId : JsString}
    {variantIds : List JsString} {index : Nat} {repeated : Bool}
    {binding : VaultPasskeyBindingMetadata} :
    issue ∈ bindingIssues credentialId variantIds index repeated binding ↔
      (binding.credentialId ≠ credentialId ∧ issue =
        { message := "Binding credential does not match the credential state"
          path := [.key "bindings", .index index, .key "credentialId"] }) ∨
      (repeated = true ∧ issue =
        { message := "Binding identifiers must be unique"
          path := [.key "bindings", .index index, .key "bindingId"] }) ∨
      ((∃ selected, binding.selectedEnvelopeVariantId = some selected ∧
          selected ≠ [] ∧ selected ∉ variantIds) ∧ issue =
        { message := "Binding-selected envelope variant does not exist"
          path := [.key "bindings", .index index,
            .key "selectedEnvelopeVariantId"] }) := by
  rw [bindingIssues, List.mem_append, List.mem_append, mem_issueIf,
    mem_issueIf, mem_issueIf, bne_iff_ne, selected_missing_iff, or_assoc]

theorem mem_issues_iff : issue ∈ value.issues ↔ Incoherence value issue := by
  rw [VaultPasskeyCredentialState.issues, List.mem_append]
  constructor
  · intro reported
    rcases reported with inVariants | inBindings
    · obtain ⟨index, variant, repeated, found, known, here⟩ :=
        SeenScan.mem_scan.mp inVariants
      rw [Nat.zero_add] at here
      rcases mem_variantIssues.mp here with ⟨other, rfl⟩ | ⟨again, rfl⟩
      · exact .variantOwner found other
      · apply Incoherence.variantRepeats found
        exact (known.mp again).resolve_left List.not_mem_nil
    · obtain ⟨index, binding, repeated, found, known, here⟩ :=
        SeenScan.mem_scan.mp inBindings
      rw [Nat.zero_add] at here
      rcases mem_bindingIssues.mp here with
        ⟨other, rfl⟩ | ⟨again, rfl⟩ | ⟨⟨selected, chosen, given, missing⟩, rfl⟩
      · exact .bindingOwner found other
      · apply Incoherence.bindingRepeats found
        exact (known.mp again).resolve_left List.not_mem_nil
      · exact .selectedMissing found chosen given missing
  · intro incoherent
    cases incoherent with
    | variantOwner found other =>
        left
        apply SeenScan.mem_scan_of_found found
        exact fun _ => mem_variantIssues.mpr (.inl ⟨other, rfl⟩)
    | variantRepeats found repeats =>
        left
        apply SeenScan.mem_scan_of_repeats found repeats
        exact mem_variantIssues.mpr (.inr ⟨rfl, rfl⟩)
    | bindingOwner found other =>
        right
        apply SeenScan.mem_scan_of_found found
        exact fun _ => mem_bindingIssues.mpr (.inl ⟨other, rfl⟩)
    | bindingRepeats found repeats =>
        right
        apply SeenScan.mem_scan_of_repeats found repeats
        exact mem_bindingIssues.mpr (.inr (.inl ⟨rfl, rfl⟩))
    | selectedMissing found chosen given missing =>
        right
        apply SeenScan.mem_scan_of_found found
        exact fun _ => mem_bindingIssues.mpr
          (.inr (.inr ⟨⟨_, chosen, given, missing⟩, rfl⟩))

theorem coherent_iff :
    CoherentState value ↔ ∀ issue, ¬ Incoherence value issue := by
  constructor
  · intro coherent issue incoherent
    cases incoherent with
    | variantOwner found other =>
        exact other (coherent.variantOwner _ (List.mem_of_getElem? found))
    | variantRepeats found repeats =>
        exact SeenScan.nodup_iff.mp coherent.variantsDistinct _ _ found repeats
    | bindingOwner found other =>
        exact other (coherent.bindingOwner _ (List.mem_of_getElem? found))
    | bindingRepeats found repeats =>
        exact SeenScan.nodup_iff.mp coherent.bindingsDistinct _ _ found repeats
    | selectedMissing found chosen given missing =>
        exact missing (coherent.selectedExists _ (List.mem_of_getElem? found)
          _ chosen given)
  · intro none
    refine
      { variantOwner := ?_
        variantsDistinct := SeenScan.nodup_iff.mpr fun index variant found
          repeats => none _ (.variantRepeats found repeats)
        bindingOwner := ?_
        bindingsDistinct := SeenScan.nodup_iff.mpr fun index binding found
          repeats => none _ (.bindingRepeats found repeats)
        selectedExists := ?_ }
    · intro variant member
      obtain ⟨index, found⟩ := List.mem_iff_getElem?.mp member
      by_contra other
      exact none _ (.variantOwner found other)
    · intro binding member
      obtain ⟨index, found⟩ := List.mem_iff_getElem?.mp member
      by_contra other
      exact none _ (.bindingOwner found other)
    · intro binding member selected chosen given
      obtain ⟨index, found⟩ := List.mem_iff_getElem?.mp member
      by_contra missing
      exact none _ (.selectedMissing found chosen given missing)

theorem issues_isEmpty_iff :
    value.issues.isEmpty = true ↔ CoherentState value := by
  rw [List.isEmpty_iff, List.eq_nil_iff_forall_not_mem, coherent_iff]
  simp only [mem_issues_iff]

end Issues

theorem credentialMetadataIssues_isEmpty_iff
    {value : VaultPasskeyCredentialMetadata} :
    (credentialMetadataIssues value).isEmpty = true ↔
      CoherentMetadata value := by
  rw [List.isEmpty_iff]
  simp only [credentialMetadataIssues, List.append_eq_nil_iff, issueIf,
    ite_eq_right_iff, List.cons_ne_nil, imp_false, Bool.not_eq_true',
    Bool.and_eq_true, Bool.or_eq_true, beq_iff_eq, decide_eq_false_iff_not,
    not_not, not_and, not_or]
  constructor
  · rintro ⟨⟨⟨transports, single⟩, multi⟩, backedUp⟩
    exact
      { transports := transports
        single := fun device =>
          ⟨single device, fun backed => (backedUp backed).2 device⟩
        multi := multi
        backedUp := fun backed => (backedUp backed).1 }
  · intro coherent
    refine ⟨⟨⟨coherent.transports, ?_⟩, coherent.multi⟩, ?_⟩
    · exact fun device => (coherent.single device).1
    · intro backed
      exact ⟨coherent.backedUp backed,
        fun device => (coherent.single device).2 backed⟩

theorem mapM_eq_some_iff {α β : Type} {read : α → Option β} {items : List α}
    {results : List β} :
    items.mapM read = some results ↔
      List.Forall₂ (fun item result => read item = some result) items
        results := by
  induction items generalizing results with
  | nil => simp [eq_comm]
  | cons item items ih =>
      rw [List.mapM_cons, List.forall₂_cons_left_iff]
      constructor
      · intro reads
        obtain ⟨first, here, rest⟩ := Option.bind_eq_some_iff.mp reads
        obtain ⟨others, there, built⟩ := Option.bind_eq_some_iff.mp rest
        exact ⟨first, others, here, ih.mp there, (Option.some.inj built).symm⟩
      · rintro ⟨first, others, here, there, rfl⟩
        rw [here, ih.mpr there]
        rfl

/-- The state that a value is read as, and what it takes to be read. -/
structure ParsesCredentialState (platform : Platform)
    (value parsed : VaultPasskeyCredentialState) : Prop where
  credentialId :
    vaultPasskeyOpaqueIdSchema value.credential.credentialId = true
  transportCount :
    (value.credential.transports.getD []).length ≤ maxPasskeyTransports
  metadata : CoherentMetadata value.credential
  bindingCount : value.bindings.length ≤ maxPasskeyBindingsPerCredential
  bindings : ∀ binding ∈ value.bindings,
    vaultPasskeyBindingMetadataSchema binding = true
  variantCount : 1 ≤ value.envelopeVariants.length ∧
    value.envelopeVariants.length ≤ maxPasskeyEnvelopeVariantsPerCredential
  credential : parsed.credential = value.credential
  sameBindings : parsed.bindings = value.bindings
  variants : List.Forall₂
    (fun variant read =>
      vaultPasskeyEnvelopeVariantSchema platform variant = some read)
    value.envelopeVariants parsed.envelopeVariants
  coherent : CoherentState parsed

theorem vaultPasskeyCredentialStateSchema_eq_some_iff {platform : Platform}
    {value parsed : VaultPasskeyCredentialState} :
    vaultPasskeyCredentialStateSchema platform value = some parsed ↔
      ParsesCredentialState platform value parsed := by
  rw [vaultPasskeyCredentialStateSchema, Option.ite_none_right_eq_some]
  simp only [credentialStateWithin, vaultPasskeyCredentialMetadataSchema,
    Bool.and_eq_true, decide_eq_true_eq, credentialMetadataIssues_isEmpty_iff,
    List.all_eq_true, Option.ite_none_right_eq_some, issues_isEmpty_iff,
    Option.bind_eq_bind, Option.bind_eq_some_iff, mapM_eq_some_iff]
  constructor
  · intro both
    obtain ⟨within, variants, reads, coherent, built⟩ := both
    obtain ⟨⟨⟨⟨⟨⟨credentialId, transportCount⟩, metadata⟩, bindingCount⟩,
      bindings⟩, least⟩, most⟩ := within
    obtain rfl := Option.some.inj built
    exact
      { credentialId := credentialId
        transportCount := transportCount
        metadata := metadata
        bindingCount := bindingCount
        bindings := bindings
        variantCount := ⟨least, most⟩
        credential := rfl
        sameBindings := rfl
        variants := reads
        coherent := coherent }
  · intro parses
    have same : { value with envelopeVariants := parsed.envelopeVariants } =
        parsed := by
      obtain ⟨credential, bindings, variants⟩ := parsed
      simp only [VaultPasskeyCredentialState.mk.injEq, and_true]
      exact ⟨parses.credential.symm, parses.sameBindings.symm⟩
    constructor
    · exact ⟨⟨⟨⟨⟨⟨parses.credentialId, parses.transportCount⟩,
        parses.metadata⟩, parses.bindingCount⟩, parses.bindings⟩,
        parses.variantCount.1⟩, parses.variantCount.2⟩
    · refine ⟨parsed.envelopeVariants, parses.variants, ?_⟩
      rw [same]
      exact ⟨parses.coherent, rfl⟩

/-- The schema reads exactly the coherent states within its limits, and its
refinement blames exactly the items that break the coherence, each by the path
of the member at fault. -/
theorem credential_state_schema_exact (platform : Platform)
    (value : VaultPasskeyCredentialState) :
    (∀ parsed, vaultPasskeyCredentialStateSchema platform value =
      some parsed ↔ ParsesCredentialState platform value parsed) ∧
    (∀ issue, issue ∈ value.issues ↔ Incoherence value issue) ∧
    ((∀ issue, ¬ Incoherence value issue) ↔ CoherentState value) :=
  ⟨fun _ => vaultPasskeyCredentialStateSchema_eq_some_iff,
    fun _ => mem_issues_iff, coherent_iff.symm⟩

end VaultCore
