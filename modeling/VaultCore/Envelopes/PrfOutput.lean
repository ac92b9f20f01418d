import VaultCore.Browser.BrowserValue
import VaultCore.Crypto.Encoding
import VaultCore.Data.ByteHeap

/-!
# PRF output of a ceremony

The output is looked for under the credential, then among the results, and
then under any credential.  What is found is copied, and the conversions that
were made on the way are cleared.
-/

namespace VaultCore

variable {β : Type}

/-- The bytes of an extension value, and whether they were created for it. -/
def coerceExtensionBytesToUint8Array (heap : ByteHeap β) :
    BrowserValue β → Option (ByteView β × Bool) × ByteHeap β
  | .arrayBuffer buffer =>
      (some ({ buffer := .inl buffer
               byteOffset := 0
               byteLength := (heap.given buffer).length }, false), heap)
  | .view buffer byteOffset byteLength =>
      (some ({ buffer := .inl buffer, byteOffset, byteLength }, false), heap)
  | .string text =>
      match base64UrlToBytes text with
      | .ok bytes =>
          let (view, created) := heap.create bytes
          (some (view, true), created)
      | .error _ => (none, heap)
  | .array items =>
      if items.length < 32 then (none, heap)
      else
        match items.mapM BrowserValue.asNumber with
        | some numbers =>
            let (view, created) :=
              heap.create (numbers.map JsNumber.toUint8)
            (some (view, true), created)
        | none => (none, heap)
  | _ => (none, heap)

/-- `bytes.slice(0, 32)` of a view that is long enough. -/
def prfBytesForAes256Import (heap : ByteHeap β) (view : ByteView β) :
    ByteView β × ByteHeap β :=
  heap.create ((heap.contents view).take 32)

section

variable [DecidableEq β]

/-- `if (coerced.owned) coerced.bytes.fill(0)` -/
def clearOwned (heap : ByteHeap β) (view : ByteView β) (owned : Bool) :
    ByteHeap β :=
  if owned then heap.clear view else heap

def pickPrfResultFirst (heap : ByteHeap β) (entry : BrowserValue β) :
    Option (ByteView β) × ByteHeap β :=
  if !entry.isObject then (none, heap)
  else
    match coerceExtensionBytesToUint8Array heap
        (entry.get heap.given (js "first")) with
    | (none, after) => (none, after)
    | (some (view, owned), after) =>
        if (after.contents view).length < 32 then
          (none, clearOwned after view owned)
        else
          let (picked, copied) := prfBytesForAes256Import after view
          (some picked, clearOwned copied view owned)

/-- `if (picked) return picked`, and what comes after. -/
def returnPicked (outcome : Option (ByteView β) × ByteHeap β)
    (next : ByteHeap β → Option (ByteView β) × ByteHeap β) :
    Option (ByteView β) × ByteHeap β :=
  match outcome with
  | (some picked, after) => (some picked, after)
  | (none, after) => next after

/-- The entries in their order, until one is picked. -/
def pickFirstOf (heap : ByteHeap β) :
    List (BrowserValue β) → Option (ByteView β) × ByteHeap β
  | [] => (none, heap)
  | entry :: entries =>
      returnPicked (pickPrfResultFirst heap entry) fun after =>
        pickFirstOf after entries

/-- The first entry that has an output. -/
def pickFirstInEvalByCredentialMap (heap : ByteHeap β)
    (evalByCredential : BrowserValue β) :
    Option (ByteView β) × ByteHeap β :=
  if !evalByCredential.isObject then (none, heap)
  else
    pickFirstOf heap
      ((evalByCredential.entries heap.given).map Prod.snd)

/-- The entry of a credential, when one is asked for. -/
def pickOfCredential (heap : ByteHeap β) (evalByCredential : BrowserValue β)
    (credentialId : JsString) : Option (ByteView β) × ByteHeap β :=
  if credentialId.isEmpty || !evalByCredential.isObject then (none, heap)
  else
    pickPrfResultFirst heap (evalByCredential.get heap.given credentialId)

/-- The output of the results, for a credential if it is given. -/
def extractPasskeyPrfOutput (heap : ByteHeap β)
    (clientExtensionResults : BrowserValue β)
    (credentialId : Option JsString) : Option (ByteView β) × ByteHeap β :=
  let prf := clientExtensionResults.get heap.given (js "prf")
  if !prf.isObject then (none, heap)
  else
    let evalByCredential := prf.get heap.given (js "evalByCredential")
    returnPicked
      (pickOfCredential heap evalByCredential (credentialId.getD []))
      fun first =>
        returnPicked
          (pickPrfResultFirst first (prf.get heap.given (js "results")))
          fun second =>
            pickFirstInEvalByCredentialMap second evalByCredential

end

/-! ## What is picked -/

/-- The bytes that a value stands for. -/
def extensionBytes (given : β → Bytes) : BrowserValue β → Option Bytes
  | .arrayBuffer buffer => some (given buffer)
  | .view buffer byteOffset byteLength =>
      some (BrowserValue.viewBytes given buffer byteOffset byteLength)
  | .string text => (base64UrlToBytes text).toOption
  | .array items =>
      if items.length < 32 then none
      else (items.mapM BrowserValue.asNumber).map fun numbers =>
        numbers.map JsNumber.toUint8
  | _ => none

/-- The output of an entry, if it has one: the first bytes of its first
value, if there are enough. -/
def usableOutput (given : β → Bytes) (entry : BrowserValue β) :
    Option Bytes :=
  if entry.isObject then
    match extensionBytes given (entry.get given (js "first")) with
    | some bytes => if bytes.length < 32 then none else some (bytes.take 32)
    | none => none
  else none

/-- The output of the entry of a credential. -/
def credentialOutput (given : β → Bytes)
    (evalByCredential : BrowserValue β) (credentialId : JsString) :
    Option Bytes :=
  if credentialId.isEmpty || !evalByCredential.isObject then none
  else usableOutput given (evalByCredential.get given credentialId)

/-- The output of the first entry that has one. -/
def anyOutput (given : β → Bytes) (evalByCredential : BrowserValue β) :
    Option Bytes :=
  if !evalByCredential.isObject then none
  else
    ((evalByCredential.entries given).map Prod.snd).findSome?
      (usableOutput given)

/-- The output of a ceremony, in the order of preference. -/
def extractedOutput (given : β → Bytes) (results : BrowserValue β)
    (credentialId : JsString) : Option Bytes :=
  let prf := results.get given (js "prf")
  if !prf.isObject then none
  else
    let evalByCredential := prf.get given (js "evalByCredential")
    (credentialOutput given evalByCredential credentialId).or
      ((usableOutput given (prf.get given (js "results"))).or
        (anyOutput given evalByCredential))

/-- A computation that picked the given bytes, if any: a view of a new buffer
has them, and everything else is as it was. -/
structure Picks (heap : ByteHeap β) (bytes : Option Bytes)
    (outcome : Option (ByteView β) × ByteHeap β) : Prop where
  grows : heap.Grows outcome.2
  picked : outcome.1.map outcome.2.contents = bytes
  fresh : ∀ view ∈ outcome.1, heap.IsNew view

theorem Picks.returnPicked {heap : ByteHeap β} {first second : Option Bytes}
    {outcome : Option (ByteView β) × ByteHeap β}
    {next : ByteHeap β → Option (ByteView β) × ByteHeap β}
    (picks : Picks heap first outcome)
    (later : Picks outcome.2 second (next outcome.2)) :
    Picks heap (first.or second) (returnPicked outcome next) := by
  obtain ⟨found, after⟩ := outcome
  cases found with
  | some view =>
      have some : first = some (after.contents view) := picks.picked.symm
      rw [some]
      exact ⟨picks.grows, rfl, picks.fresh⟩
  | none =>
      have none : first = none := picks.picked.symm
      rw [none, Option.none_or]
      refine ⟨picks.grows.trans later.grows, later.picked, ?_⟩
      intro view member
      exact (later.fresh view member).of_grows picks.grows

theorem usableOutput_length {given : β → Bytes} {entry : BrowserValue β}
    {bytes : Bytes} (usable : usableOutput given entry = some bytes) :
    bytes.length = 32 := by
  unfold usableOutput at usable
  split_ifs at usable
  split at usable
  · split_ifs at usable with short
    cases usable
    rw [List.length_take]
    omega
  · cases usable

/-- A conversion to the given bytes, if there are any: a view that the heap
has shows them, and what is owned is new. -/
private structure Coerces (heap : ByteHeap β) (bytes : Option Bytes)
    (outcome : Option (ByteView β × Bool) × ByteHeap β) : Prop where
  grows : heap.Grows outcome.2
  shown : (outcome.1.map fun coerced => outcome.2.contents coerced.1) = bytes
  known : ∀ coerced ∈ outcome.1, ¬ outcome.2.IsNew coerced.1
  owned : ∀ coerced ∈ outcome.1, coerced.2 = true → heap.IsNew coerced.1

private theorem coerces_none (heap : ByteHeap β) :
    Coerces heap none (none, heap) :=
  ⟨.refl heap, rfl, nofun, nofun⟩

private theorem coerces_create (heap : ByteHeap β) (bytes : Bytes) :
    Coerces heap (some bytes)
      (some ((heap.create bytes).1, true), (heap.create bytes).2) := by
  refine ⟨heap.grows_create bytes, by simp, ?_, ?_⟩
  · rintro _ ⟨⟩
    exact heap.not_isNew_create bytes
  · rintro _ ⟨⟩ -
    exact heap.isNew_create bytes

private theorem coerces_given (heap : ByteHeap β) (buffer : β)
    (byteOffset byteLength : Nat) :
    Coerces heap
      (some (BrowserValue.viewBytes heap.given buffer byteOffset byteLength))
      (some (⟨.inl buffer, byteOffset, byteLength⟩, false), heap) := by
  refine ⟨.refl heap, rfl, ?_, ?_⟩
  · rintro _ ⟨⟩ ⟨index, buffer, -⟩
    cases buffer
  · rintro _ ⟨⟩ owned
    cases owned

private theorem coerceExtensionBytesToUint8Array_spec (heap : ByteHeap β)
    (value : BrowserValue β) :
    Coerces heap (extensionBytes heap.given value)
      (coerceExtensionBytesToUint8Array heap value) := by
  cases value with
  | arrayBuffer buffer =>
      have whole := coerces_given heap buffer 0 (heap.given buffer).length
      rw [BrowserValue.viewBytes, List.drop_zero, List.take_length] at whole
      exact whole
  | view buffer byteOffset byteLength =>
      exact coerces_given heap buffer byteOffset byteLength
  | string text =>
      simp only [coerceExtensionBytesToUint8Array, extensionBytes]
      cases base64UrlToBytes text with
      | ok bytes => exact coerces_create heap bytes
      | error error => exact coerces_none heap
  | array items =>
      simp only [coerceExtensionBytesToUint8Array, extensionBytes]
      split_ifs with short
      · exact coerces_none heap
      · cases items.mapM BrowserValue.asNumber with
        | some numbers => exact coerces_create heap _
        | none => exact coerces_none heap
  | _ => exact coerces_none heap

section

variable [DecidableEq β]

private theorem grows_clearOwned {heap after : ByteHeap β}
    {view : ByteView β} {owned : Bool} (grows : heap.Grows after)
    (fresh : owned = true → heap.IsNew view) :
    heap.Grows (clearOwned after view owned) := by
  cases owned with
  | true => exact grows.clear (fresh rfl)
  | false => exact grows

private theorem contents_clearOwned_of_ne {heap : ByteHeap β}
    {view other : ByteView β} {owned : Bool}
    (different : other.buffer ≠ view.buffer) :
    (clearOwned heap view owned).contents other = heap.contents other := by
  cases owned with
  | true => exact ByteHeap.contents_clear_of_ne different
  | false => rfl

theorem pickPrfResultFirst_spec {heap : ByteHeap β} {given : β → Bytes}
    (same : heap.given = given) (entry : BrowserValue β) :
    Picks heap (usableOutput given entry)
      (pickPrfResultFirst heap entry) := by
  subst same
  unfold pickPrfResultFirst usableOutput
  cases object : entry.isObject with
  | false => exact ⟨.refl heap, rfl, nofun⟩
  | true =>
      simp only [Bool.not_true, Bool.false_eq_true, ↓reduceIte]
      have coerces := coerceExtensionBytesToUint8Array_spec heap
        (entry.get heap.given (js "first"))
      rw [← coerces.shown]
      rcases outcome : coerceExtensionBytesToUint8Array heap
        (entry.get heap.given (js "first")) with ⟨_ | ⟨view, owned⟩, after⟩
      · rw [outcome] at coerces
        exact ⟨coerces.grows, rfl, nofun⟩
      · rw [outcome] at coerces
        have fresh := coerces.owned (view, owned) rfl
        dsimp only [Option.map_some]
        split_ifs with short
        · exact ⟨grows_clearOwned coerces.grows fresh, rfl, nofun⟩
        · refine ⟨grows_clearOwned (coerces.grows.trans
            (after.grows_create _)) fresh, ?_, ?_⟩
          · simp only [Option.map_some, prfBytesForAes256Import]
            rw [contents_clearOwned_of_ne
              (after.buffer_create_ne (coerces.known _ rfl)),
              ByteHeap.contents_create]
          · rintro _ ⟨⟩
            exact (after.isNew_create _).of_grows coerces.grows

theorem pickFirstOf_spec {heap : ByteHeap β} {given : β → Bytes}
    (same : heap.given = given) (entries : List (BrowserValue β)) :
    Picks heap (entries.findSome? (usableOutput given))
      (pickFirstOf heap entries) := by
  induction entries generalizing heap with
  | nil => exact ⟨.refl heap, rfl, nofun⟩
  | cons entry entries ih =>
      have picks := pickPrfResultFirst_spec same entry
      have later := ih (picks.grows.given.trans same)
      have preferred : (entry :: entries).findSome? (usableOutput given) =
          (usableOutput given entry).or
            (entries.findSome? (usableOutput given)) := by
        rw [List.findSome?_cons]
        cases usableOutput given entry <;> rfl
      rw [preferred, pickFirstOf]
      exact picks.returnPicked later

theorem pickOfCredential_spec {heap : ByteHeap β} {given : β → Bytes}
    (same : heap.given = given) (evalByCredential : BrowserValue β)
    (credentialId : JsString) :
    Picks heap (credentialOutput given evalByCredential credentialId)
      (pickOfCredential heap evalByCredential credentialId) := by
  subst same
  unfold credentialOutput pickOfCredential
  split_ifs
  · exact ⟨.refl heap, rfl, nofun⟩
  · exact pickPrfResultFirst_spec rfl _

theorem pickFirstInEvalByCredentialMap_spec {heap : ByteHeap β}
    {given : β → Bytes} (same : heap.given = given)
    (evalByCredential : BrowserValue β) :
    Picks heap (anyOutput given evalByCredential)
      (pickFirstInEvalByCredentialMap heap evalByCredential) := by
  subst same
  unfold anyOutput pickFirstInEvalByCredentialMap
  split_ifs
  · exact ⟨.refl heap, rfl, nofun⟩
  · exact pickFirstOf_spec rfl _

/-- The extraction picks the preferred output, in a buffer of its own. -/
theorem extractPasskeyPrfOutput_spec {heap : ByteHeap β}
    {given : β → Bytes} (same : heap.given = given)
    (results : BrowserValue β) (credentialId : Option JsString) :
    Picks heap (extractedOutput given results (credentialId.getD []))
      (extractPasskeyPrfOutput heap results credentialId) := by
  unfold extractedOutput extractPasskeyPrfOutput
  dsimp only
  rw [same]
  split_ifs
  · exact ⟨.refl heap, rfl, nofun⟩
  · have first := pickOfCredential_spec same
      ((results.get given (js "prf")).get given (js "evalByCredential"))
      (credentialId.getD [])
    have second := pickPrfResultFirst_spec (first.grows.given.trans same)
      ((results.get given (js "prf")).get given (js "results"))
    have third := pickFirstInEvalByCredentialMap_spec
      (second.grows.given.trans (first.grows.given.trans same))
      ((results.get given (js "prf")).get given (js "evalByCredential"))
    exact first.returnPicked (second.returnPicked third)

end

end VaultCore
