import VaultCore.Text.PercentEncoding
import VaultCore.Text.Words

/-!
# Return paths of the unlock route

A return path is decoded in at most three rounds and then checked once.  A
path that is encoded more often is accepted while it is still encoded, and a
later decoding may turn it into a path that leaves the site.
-/

namespace VaultCore

/-- Where to return to without a path, and the parameter that names one. -/
structure VaultUnlockReturnPathOptions where
  defaultPath : Option JsString := none
  paramName : Option JsString := none

def vaultUnlockReturnQueryParam : JsString := js "next"

def maxReturnPathDecodes : Nat := 3

/-- Whether the text has an ASCII control character. -/
def containsControlCharacters (value : JsString) : Bool :=
  value.any fun unit => unit.toNat ≤ 0x1F || unit.toNat == 0x7F

/-- `/^\/[^/]*:/i` -/
def hasSchemeSegment : JsString → Bool
  | 0x2F :: rest => (rest.takeWhile (· != 0x2F)).contains 0x3A
  | _ => false

/-- Whether a path may leave the site. -/
def isUnsafeReturnPath (value : JsString) : Bool :=
  if !(js "/").isPrefixOf value then true
  else if (js "//").isPrefixOf value then true
  else if value.contains 0x5C then true
  else if containsControlCharacters value then true
  else if hasSchemeSegment value then true
  else false

/-- The loop of at most so many rounds. -/
def decodeRounds : Nat → JsString → Option JsString
  | 0, candidate => some candidate
  | rounds + 1, candidate =>
      match PercentEncoding.decodeURIComponent candidate with
      | none => none
      | some decoded =>
          if decoded = candidate then some candidate
          else decodeRounds rounds (trim decoded)

/-- The path after at most three rounds of decoding, when it is safe. -/
def decodeReturnPathCandidate (raw : JsString) : Option JsString :=
  let candidate := trim raw
  if candidate.isEmpty then none
  else
    match decodeRounds maxReturnPathDecodes candidate with
    | none => none
    | some candidate =>
        if isUnsafeReturnPath candidate then none else some candidate

namespace VaultUnlockReturnPathOptions

def defaultReturnPath (options : VaultUnlockReturnPathOptions) : JsString :=
  options.defaultPath.getD (js "/")

def queryParam (options : VaultUnlockReturnPathOptions) : JsString :=
  options.paramName.getD vaultUnlockReturnQueryParam

end VaultUnlockReturnPathOptions

/-- The path of the parameter when it is safe, else the default. -/
def resolveVaultUnlockReturnPath (raw : Option JsString)
    (options : VaultUnlockReturnPathOptions) : JsString :=
  let raw := raw.getD []
  if raw.isEmpty then options.defaultReturnPath
  else
    match decodeReturnPathCandidate raw with
    | none => options.defaultReturnPath
    | some resolved =>
        if resolved.isEmpty then options.defaultReturnPath else resolved

/-! ## Safe paths -/

def slash : UInt16 := 0x2F

def backslash : UInt16 := 0x5C

def colon : UInt16 := 0x3A

/-- A path that stays on the site, whichever browser reads it. -/
structure SafeReturnPath (path : JsString) : Prop where
  rooted : ∃ rest, path = slash :: rest
  notProtocolRelative : ∀ rest, path ≠ slash :: slash :: rest
  noBackslash : backslash ∉ path
  noControl : ∀ unit ∈ path, 0x20 ≤ unit.toNat ∧ unit.toNat ≠ 0x7F
  noScheme : ∀ segment rest, path = slash :: (segment ++ colon :: rest) →
    slash ∈ segment

theorem containsControlCharacters_eq_false_iff {value : JsString} :
    containsControlCharacters value = false ↔
      ∀ unit ∈ value, 0x20 ≤ unit.toNat ∧ unit.toNat ≠ 0x7F := by
  rw [containsControlCharacters, List.any_eq_false]
  apply forall₂_congr
  intro unit member
  simp only [Bool.or_eq_true, decide_eq_true_eq, beq_iff_eq, not_or]
  omega

/-- The first segment of a path ends at its first slash. -/
theorem hasSchemeSegment_eq_false_iff {rest : JsString} :
    hasSchemeSegment (slash :: rest) = false ↔
      ∀ segment later, rest = segment ++ colon :: later →
        slash ∈ segment := by
  change (rest.takeWhile (· != slash)).contains colon = false ↔ _
  rw [Bool.eq_false_iff, Ne, List.contains_iff_mem]
  constructor
  · intro absent segment later parts
    by_contra outside
    apply absent
    have whole : ∀ unit ∈ segment, (unit != slash) = true := by
      intro unit member
      exact bne_iff_ne.mpr fun same => outside (same ▸ member)
    rw [parts, List.takeWhile_append_of_pos whole]
    apply List.mem_append_right
    rw [List.takeWhile_cons_of_pos (by decide)]
    exact List.mem_cons_self
  · intro separated member
    obtain ⟨segment, later, parts⟩ := List.append_of_mem member
    have split : rest = segment ++
        colon :: (later ++ rest.dropWhile (· != slash)) := by
      rw [← List.cons_append, ← List.append_assoc, ← parts,
        List.takeWhile_append_dropWhile]
    have inside : slash ∈ rest.takeWhile (· != slash) := by
      rw [parts]
      exact List.mem_append_left _ (separated segment _ split)
    exact absurd (List.mem_takeWhile_imp inside) (by decide)

/-- The guard refuses exactly what is not safe. -/
theorem isUnsafeReturnPath_eq_false_iff {path : JsString} :
    isUnsafeReturnPath path = false ↔ SafeReturnPath path := by
  have rooted : (js "/").isPrefixOf path = true ↔
      ∃ rest, path = slash :: rest := by
    rw [List.isPrefixOf_iff_prefix]
    exact exists_congr fun rest => eq_comm
  have relative : (js "//").isPrefixOf path = true ↔
      ∃ rest, path = slash :: slash :: rest := by
    rw [List.isPrefixOf_iff_prefix]
    exact exists_congr fun rest => eq_comm
  unfold isUnsafeReturnPath
  split_ifs with notRooted protocolRelative backslashed control scheme
  · constructor
    · intro impossible
      cases impossible
    · intro safe
      rw [rooted.mpr safe.rooted] at notRooted
      cases notRooted
  · constructor
    · intro impossible
      cases impossible
    · intro safe
      obtain ⟨rest, same⟩ := relative.mp protocolRelative
      exact absurd same (safe.notProtocolRelative rest)
  · constructor
    · intro impossible
      cases impossible
    · intro safe
      exact absurd (List.contains_iff_mem.mp backslashed) safe.noBackslash
  · constructor
    · intro impossible
      cases impossible
    · intro safe
      rw [containsControlCharacters_eq_false_iff.mpr safe.noControl] at control
      cases control
  · constructor
    · intro impossible
      cases impossible
    · intro safe
      obtain ⟨rest, rfl⟩ := safe.rooted
      have free := hasSchemeSegment_eq_false_iff.mpr fun segment later parts =>
        safe.noScheme segment later (congrArg _ parts)
      rw [free] at scheme
      cases scheme
  · refine ⟨fun _ => ?_, fun _ => rfl⟩
    rw [Bool.not_eq_true', Bool.not_eq_false] at notRooted
    obtain ⟨rest, rfl⟩ := rooted.mp notRooted
    rw [Bool.not_eq_true] at control scheme
    exact
      { rooted := ⟨rest, rfl⟩
        notProtocolRelative := fun later same =>
          protocolRelative (relative.mpr ⟨later, same⟩)
        noBackslash := fun member =>
          backslashed (List.contains_iff_mem.mpr member)
        noControl := containsControlCharacters_eq_false_iff.mp control
        noScheme := fun segment later parts =>
          hasSchemeSegment_eq_false_iff.mp scheme segment later
            (List.cons.inj parts).2 }

instance (path : JsString) : Decidable (SafeReturnPath path) :=
  decidable_of_iff _ isUnsafeReturnPath_eq_false_iff

/-! ## Layers of encoding -/

/-- The text after so many decodings, each followed by a trim, as long as it
decodes. -/
def decodeLayer : Nat → JsString → Option JsString
  | 0, text => some text
  | layers + 1, text =>
      (PercentEncoding.decodeURIComponent text).bind fun decoded =>
        decodeLayer layers (trim decoded)

section

variable {text : JsString} {options : VaultUnlockReturnPathOptions}

theorem decodeLayer_plain (plain : PercentEncoding.percentUnit ∉ text)
    (trimmed : trim text = text) (layers : Nat) :
    decodeLayer layers text = some text := by
  induction layers with
  | zero => rfl
  | succ layers ih =>
      rw [decodeLayer, PercentEncoding.decodeURIComponent_plain plain,
        Option.bind_some, trimmed, ih]

theorem decodeLayer_add (first second : Nat) (text : JsString) :
    decodeLayer (first + second) text =
      (decodeLayer first text).bind (decodeLayer second) := by
  induction first generalizing text with
  | zero => rw [Nat.zero_add, decodeLayer, Option.bind_some]
  | succ first ih =>
      rw [Nat.succ_add, decodeLayer, decodeLayer]
      cases PercentEncoding.decodeURIComponent text with
      | none => rfl
      | some decoded => exact ih (trim decoded)

/-- A loop that stops early has reached a text that decodes to itself. -/
theorem decodeRounds_eq (trimmed : trim text = text) (rounds : Nat) :
    decodeRounds rounds text = decodeLayer rounds text := by
  induction rounds generalizing text with
  | zero => rfl
  | succ rounds ih =>
      rw [decodeRounds, decodeLayer]
      cases decodes : PercentEncoding.decodeURIComponent text with
      | none => rfl
      | some decoded =>
          simp only [Option.bind_some]
          split_ifs with same
          · rw [same] at decodes ⊢
            have plain :=
              PercentEncoding.decodeURIComponent_eq_self_iff.mp decodes
            rw [trimmed, decodeLayer_plain plain trimmed]
          · exact ih (trim_trim decoded)

private theorem decodeLayer_empty (layers : Nat) :
    decodeLayer layers [] = some [] :=
  decodeLayer_plain List.not_mem_nil rfl layers

theorem decodeLayer_of_le {first last : Nat} (before : first ≤ last)
    {layer : JsString} (reached : decodeLayer last text = some layer) :
    ∃ earlier, decodeLayer first text = some earlier ∧
      decodeLayer (last - first) earlier = some layer := by
  obtain ⟨more, rfl⟩ := Nat.exists_eq_add_of_le before
  rw [decodeLayer_add] at reached
  rw [Nat.add_sub_cancel_left]
  exact Option.bind_eq_some_iff.mp reached

/-- Decodings that change the text, within so many. -/
def depthWithin : Nat → JsString → Nat
  | 0, _ => 0
  | limit + 1, text =>
      match PercentEncoding.decodeURIComponent text with
      | none => 0
      | some decoded =>
          if decoded = text then 0 else depthWithin limit (trim decoded) + 1

/-- How often a raw value can be decoded before it has no escape left or does
not decode.  Every decoding makes it shorter. -/
def encodingDepth (raw : JsString) : Nat :=
  depthWithin (trim raw).length (trim raw)

/-- The layers beyond the depth repeat the last. -/
theorem decodeLayer_depthWithin {limit layers : Nat} {layer : JsString}
    (trimmed : trim text = text) (long : text.length ≤ limit)
    (deep : depthWithin limit text ≤ layers)
    (reached : decodeLayer layers text = some layer) :
    decodeLayer (depthWithin limit text) text = some layer := by
  induction limit generalizing text layers with
  | zero =>
      obtain rfl := List.length_eq_zero_iff.mp (Nat.le_zero.mp long)
      rw [decodeLayer_empty] at reached
      exact reached
  | succ limit ih =>
      rw [depthWithin] at deep ⊢
      cases decodes : PercentEncoding.decodeURIComponent text with
      | none =>
          cases layers with
          | zero => exact reached
          | succ layers =>
              rw [decodeLayer, decodes] at reached
              cases reached
      | some decoded =>
          simp only [decodes] at deep ⊢
          split_ifs at deep ⊢ with same
          · rw [same] at decodes
            have plain :=
              PercentEncoding.decodeURIComponent_eq_self_iff.mp decodes
            rw [decodeLayer_plain plain trimmed] at reached
            exact reached
          · have escaped : PercentEncoding.percentUnit ∈ text := by
              by_contra plain
              rw [PercentEncoding.decodeURIComponent_plain plain] at decodes
              exact same (Option.some.inj decodes).symm
            have shorter :=
              PercentEncoding.length_decodeURIComponent_lt decodes escaped
            have short := length_trim_le decoded
            cases layers with
            | zero => omega
            | succ layers =>
                rw [decodeLayer, decodes, Option.bind_some] at reached ⊢
                exact ih (trim_trim decoded) (by omega) (by omega) reached

theorem decodeReturnPathCandidate_eq (raw : JsString) :
    decodeReturnPathCandidate raw =
      (decodeLayer maxReturnPathDecodes (trim raw)).bind fun third =>
        if isUnsafeReturnPath third then none else some third := by
  unfold decodeReturnPathCandidate
  simp only [decodeRounds_eq (trim_trim raw)]
  split_ifs with empty
  · rw [List.isEmpty_iff.mp empty, decodeLayer_empty]
    rfl
  · cases decodeLayer maxReturnPathDecodes (trim raw) <;> rfl

/-- What a raw value resolves to. -/
theorem resolveVaultUnlockReturnPath_eq (raw : JsString) :
    resolveVaultUnlockReturnPath (some raw) options =
      match decodeLayer maxReturnPathDecodes (trim raw) with
      | none => options.defaultReturnPath
      | some third =>
          if isUnsafeReturnPath third then options.defaultReturnPath
          else third := by
  unfold resolveVaultUnlockReturnPath
  simp only [Option.getD_some, decodeReturnPathCandidate_eq]
  split_ifs with empty
  · have blank : trim raw = [] := by
      rw [List.isEmpty_iff.mp empty]
      rfl
    rw [blank, decodeLayer_empty]
    rfl
  · cases decodeLayer maxReturnPathDecodes (trim raw) with
    | none => rfl
    | some third =>
        simp only [Option.bind_some]
        cases refused : isUnsafeReturnPath third with
        | true => rfl
        | false =>
            cases third with
            | nil => cases refused
            | cons unit units => rfl

end

/-! ## What is resolved -/

/-- The text is safe, and stays so however often it is decoded. -/
def SafeUnderDecoding (text : JsString) : Prop :=
  ∀ layers decoded, decodeLayer layers text = some decoded →
    SafeReturnPath decoded

/-- The depths at which a raw value is an unsafe path. -/
def unsafeDepths (raw : JsString) : List Nat :=
  (List.range (encodingDepth raw + 1)).filter fun depth =>
    (decodeLayer depth (trim raw)).any fun layer => ¬ SafeReturnPath layer

/-- The guard sees as deep as the raw value is unsafe, finds it unsafe where it
looks, or finds the default path there. -/
def SeenByGuard (raw defaultPath : JsString) : Prop :=
  (∀ depth ∈ unsafeDepths raw, depth ≤ maxReturnPathDecodes) ∨
    maxReturnPathDecodes ∈ unsafeDepths raw ∨
    decodeLayer maxReturnPathDecodes (trim raw) = some defaultPath

instance (raw defaultPath : JsString) : Decidable (SeenByGuard raw defaultPath) :=
  inferInstanceAs (Decidable (_ ∨ _ ∨ _))

section

variable {raw layer : JsString} {depth : Nat}

theorem mem_unsafeDepths_iff :
    depth ∈ unsafeDepths raw ↔ depth ≤ encodingDepth raw ∧
      ∃ layer, decodeLayer depth (trim raw) = some layer ∧
        ¬ SafeReturnPath layer := by
  rw [unsafeDepths, List.mem_filter, List.mem_range, Nat.lt_succ_iff]
  apply and_congr_right
  intro _
  cases decodeLayer depth (trim raw) with
  | none => simp
  | some layer => simp

theorem exists_unsafeDepth (reached : decodeLayer depth (trim raw) = some layer)
    (leaves : ¬ SafeReturnPath layer) :
    depth ∈ unsafeDepths raw ∨
      encodingDepth raw ≤ depth ∧ encodingDepth raw ∈ unsafeDepths raw ∧
        decodeLayer (encodingDepth raw) (trim raw) = some layer := by
  rcases Nat.le_total depth (encodingDepth raw) with within | beyond
  · left
    exact mem_unsafeDepths_iff.mpr ⟨within, layer, reached, leaves⟩
  · right
    have last := decodeLayer_depthWithin (trim_trim raw) le_rfl beyond reached
    exact ⟨beyond, mem_unsafeDepths_iff.mpr ⟨le_rfl, layer, last, leaves⟩,
      last⟩

/-- Three layers of encoding at most are always seen through. -/
theorem SeenByGuard.of_encodingDepth_le {defaultPath : JsString}
    (shallow : encodingDepth raw ≤ maxReturnPathDecodes) :
    SeenByGuard raw defaultPath := by
  left
  intro depth member
  exact (mem_unsafeDepths_iff.mp member).1.trans shallow

/-- A third layer that is safe hides nothing exactly when the raw value is
unsafe at no greater depth. -/
theorem safeUnderDecoding_iff {third : JsString}
    (reached : decodeLayer maxReturnPathDecodes (trim raw) = some third)
    (safe : SafeReturnPath third) :
    SafeUnderDecoding third ↔
      ∀ depth ∈ unsafeDepths raw, depth ≤ maxReturnPathDecodes := by
  constructor
  · intro safely depth member
    obtain ⟨-, layer, deep, leaves⟩ := mem_unsafeDepths_iff.mp member
    by_contra beyond
    obtain ⟨earlier, same, later⟩ :=
      decodeLayer_of_le (Nat.le_of_not_le beyond) deep
    obtain rfl := Option.some.inj (reached.symm.trans same)
    exact leaves (safely _ layer later)
  · intro shallow layers decoded deep
    by_contra leaves
    have below : decodeLayer (maxReturnPathDecodes + layers) (trim raw) =
        some decoded := by
      rw [decodeLayer_add, reached, Option.bind_some, deep]
    rcases exists_unsafeDepth below leaves with within | ⟨-, within, last⟩
    · have none : layers = 0 := by
        have bound := shallow _ within
        omega
      rw [none] at deep
      obtain rfl := Option.some.inj deep
      exact leaves safe
    · -- The last layer is the third already.
      have again := decodeLayer_depthWithin (trim_trim raw) le_rfl
        (shallow _ within) reached
      obtain rfl := Option.some.inj (last.symm.trans again)
      exact leaves safe

end

/-- The result is the default path or safe under any number of decodings,
exactly when the guard sees as deep as the raw value is unsafe. -/
theorem return_path_safe_under_decoding_iff (raw : Option JsString)
    (options : VaultUnlockReturnPathOptions) :
    (resolveVaultUnlockReturnPath raw options = options.defaultReturnPath ∨
        SafeUnderDecoding (resolveVaultUnlockReturnPath raw options)) ↔
      ∀ text, raw = some text →
        SeenByGuard text options.defaultReturnPath := by
  cases raw with
  | none => simp [resolveVaultUnlockReturnPath]
  | some raw =>
      simp only [Option.some.injEq, forall_eq']
      rw [resolveVaultUnlockReturnPath_eq, SeenByGuard]
      cases decodes : decodeLayer maxReturnPathDecodes (trim raw) with
      | none =>
          refine ⟨fun _ => .inl ?_, fun _ => .inl rfl⟩
          intro depth member
          obtain ⟨-, layer, deep, -⟩ := mem_unsafeDepths_iff.mp member
          by_contra beyond
          obtain ⟨third, reached, -⟩ :=
            decodeLayer_of_le (Nat.le_of_not_le beyond) deep
          cases decodes.symm.trans reached
      | some third =>
          by_cases safe : SafeReturnPath third
          · have unseen : maxReturnPathDecodes ∉ unsafeDepths raw := by
              intro member
              obtain ⟨-, layer, reached, leaves⟩ :=
                mem_unsafeDepths_iff.mp member
              obtain rfl := Option.some.inj (decodes.symm.trans reached)
              exact leaves safe
            have accepted := isUnsafeReturnPath_eq_false_iff.mpr safe
            simp only [accepted, Bool.false_eq_true, ↓reduceIte,
              safeUnderDecoding_iff decodes safe, unseen, false_or,
              Option.some.injEq]
            exact or_comm
          · have refused : isUnsafeReturnPath third = true := by
              rw [← Bool.not_eq_false, isUnsafeReturnPath_eq_false_iff]
              exact safe
            simp only [refused, ↓reduceIte, true_or, true_iff]
            rcases exists_unsafeDepth decodes safe with seen | ⟨shallow, -, -⟩
            · exact .inr (.inl seen)
            · have seen : SeenByGuard raw options.defaultReturnPath :=
                .of_encodingDepth_le shallow
              rw [SeenByGuard, decodes] at seen
              exact seen

/-- The digits of a slash in one more than so many layers of encoding. -/
def slashDigits : Nat → JsString
  | 0 => js "2F"
  | layers + 1 => js "25" ++ slashDigits layers

/-- A slash in so many layers of encoding. -/
def nestedSlash : Nat → JsString
  | 0 => [slash]
  | layers + 1 => PercentEncoding.percentUnit :: slashDigits layers

/-- A link to another host, with its second slash in so many layers. -/
def nestedBypass (layers : Nat) (host : JsString) : JsString :=
  slash :: (nestedSlash layers ++ host)

section

variable {host : JsString}

theorem mem_slashDigits {unit : UInt16} {layers : Nat}
    (member : unit ∈ slashDigits layers) : unit ∈ js "2F5" := by
  induction layers with
  | zero => exact List.mem_append_left (js "5") member
  | succ layers ih =>
      rcases List.mem_append.mp member with digit | later
      · have inside : (js "25").all (js "2F5").contains = true := by decide
        exact List.contains_iff_mem.mp (List.all_eq_true.mp inside unit digit)
      · exact ih later

theorem mem_nestedSlash_succ {unit : UInt16} {layers : Nat}
    (member : unit ∈ nestedSlash (layers + 1)) : unit ∈ js "%2F5" := by
  rcases List.mem_cons.mp member with first | digit
  · rw [first]
    decide
  · exact List.mem_cons_of_mem _ (mem_slashDigits digit)

theorem decodeURIComponent_nestedBypass
    (plain : PercentEncoding.percentUnit ∉ host) (layers : Nat) :
    PercentEncoding.decodeURIComponent (nestedBypass (layers + 1) host) =
      some (nestedBypass layers host) := by
  rw [nestedBypass, PercentEncoding.decodeURIComponent,
    PercentEncoding.decodeOctets_cons (by decide)]
  cases layers with
  | zero =>
      have read : PercentEncoding.decodeOctets none
          (PercentEncoding.percentUnit :: 0x32 :: 0x46 :: host) =
            (PercentEncoding.decodeURIComponent host).map (slash :: ·) := rfl
      rw [PercentEncoding.decodeURIComponent_plain plain] at read
      exact congrArg (Option.map _) read
  | succ layers =>
      have digits : PercentEncoding.percentUnit ∉ slashDigits layers ++
          host := by
        intro member
        rcases List.mem_append.mp member with digit | later
        · exact absurd (mem_slashDigits digit) (by decide)
        · exact plain later
      have read : PercentEncoding.decodeOctets none
          (PercentEncoding.percentUnit :: 0x32 :: 0x35 ::
            (slashDigits layers ++ host)) =
            (PercentEncoding.decodeURIComponent
              (slashDigits layers ++ host)).map
              (PercentEncoding.percentUnit :: ·) := rfl
      rw [PercentEncoding.decodeURIComponent_plain digits] at read
      exact congrArg (Option.map _) read

theorem trim_nestedBypass
    (solid : ∀ unit ∈ host, isWhitespaceUnit unit = false) (layers : Nat) :
    trim (nestedBypass layers host) = nestedBypass layers host := by
  have every : ∀ unit ∈ nestedBypass layers host,
      isWhitespaceUnit unit = false := by
    intro unit member
    rcases List.mem_cons.mp member with rfl | later
    · decide
    · rcases List.mem_append.mp later with digit | inside
      · cases layers with
        | zero =>
            rw [List.mem_singleton.mp digit]
            decide
        | succ layers =>
            have printed : (js "%2F5").all
                (fun unit => !isWhitespaceUnit unit) = true := by decide
            exact (Bool.not_eq_true' _).mp
              (List.all_eq_true.mp printed unit (mem_nestedSlash_succ digit))
      · exact solid unit inside
  apply trim_eq_self
  · exact fun unit first => every unit (List.mem_of_mem_head? first)
  · exact fun unit last => every unit (List.mem_of_getLast? last)

theorem decodeLayer_nestedBypass
    (plain : PercentEncoding.percentUnit ∉ host)
    (solid : ∀ unit ∈ host, isWhitespaceUnit unit = false) (rounds layers : Nat) :
    decodeLayer rounds (nestedBypass (rounds + layers) host) =
      some (nestedBypass layers host) := by
  induction rounds with
  | zero => rw [decodeLayer, Nat.zero_add]
  | succ rounds ih =>
      rw [decodeLayer, Nat.succ_add, decodeURIComponent_nestedBypass plain,
        Option.bind_some, trim_nestedBypass solid, ih]

theorem nestedBypass_safe (safe : SafeReturnPath (slash :: host))
    (layers : Nat) : SafeReturnPath (nestedBypass (layers + 1) host) where
  rooted := ⟨_, rfl⟩
  notProtocolRelative := by
    intro rest same
    cases same
  noBackslash := by
    intro member
    rcases List.mem_cons.mp member with first | later
    · cases first
    · rcases List.mem_append.mp later with digit | inside
      · exact absurd (mem_nestedSlash_succ digit) (by decide)
      · exact safe.noBackslash (List.mem_cons_of_mem _ inside)
  noControl := by
    intro unit member
    rcases List.mem_cons.mp member with rfl | later
    · decide
    · rcases List.mem_append.mp later with digit | inside
      · have printed : (js "%2F5").all (fun unit =>
            decide (0x20 ≤ unit.toNat ∧ unit.toNat ≠ 0x7F)) = true := by decide
        exact of_decide_eq_true
          (List.all_eq_true.mp printed unit (mem_nestedSlash_succ digit))
      · exact safe.noControl unit (List.mem_cons_of_mem _ inside)
  noScheme := by
    intro segment rest parts
    have tail := (List.cons.inj parts).2
    rcases List.append_eq_append_iff.mp tail with
      ⟨middle, whole, inside⟩ | ⟨middle, whole, inside⟩
    · have free := safe.noScheme middle rest (congrArg _ inside)
      rw [whole]
      exact List.mem_append_right _ free
    · cases middle with
      | nil =>
          cases safe.noScheme [] rest (congrArg _ inside.symm)
      | cons unit middle =>
          obtain rfl := (List.cons.inj inside).1
          have digit : colon ∈ nestedSlash (layers + 1) := by
            rw [whole]
            exact List.mem_append_right _ List.mem_cons_self
          exact absurd (mem_nestedSlash_succ digit) (by decide)

/-- A bypass is refused exactly when it stands in at most three layers. -/
theorem nestedBypass_resolves_iff
    (plain : PercentEncoding.percentUnit ∉ host)
    (safe : SafeReturnPath (slash :: host))
    (solid : ∀ unit ∈ host, isWhitespaceUnit unit = false) (layers : Nat) :
    SafeUnderDecoding (resolveVaultUnlockReturnPath
        (some (nestedBypass layers host)) {}) ↔
      layers ≤ maxReturnPathDecodes := by
  have trimmed := trim_nestedBypass solid layers
  have leaves : ¬ SafeReturnPath (nestedBypass 0 host) := fun impossible =>
    impossible.notProtocolRelative host rfl
  rw [resolveVaultUnlockReturnPath_eq, trimmed]
  rcases Nat.lt_or_ge maxReturnPathDecodes layers with beyond | within
  · obtain ⟨more, rfl⟩ := Nat.exists_eq_add_of_lt beyond
    have reached := decodeLayer_nestedBypass plain solid maxReturnPathDecodes
      (more + 1)
    have accepted := isUnsafeReturnPath_eq_false_iff.mpr
      (nestedBypass_safe safe more)
    rw [Nat.add_assoc, reached]
    simp only [accepted, Bool.false_eq_true, ↓reduceIte]
    constructor
    · intro safely
      have deeper := decodeLayer_nestedBypass plain solid (more + 1) 0
      exact absurd (safely _ _ deeper) leaves
    · intro impossible
      omega
  · have reached : decodeLayer maxReturnPathDecodes (nestedBypass layers host) =
        some (nestedBypass 0 host) := by
      obtain ⟨more, rest⟩ := Nat.exists_eq_add_of_le within
      have opened := decodeLayer_nestedBypass plain solid layers 0
      rw [Nat.add_zero] at opened
      have unescaped : PercentEncoding.percentUnit ∉ nestedBypass 0 host := by
        rintro (_ | ⟨_, _ | ⟨_, inside⟩⟩)
        exact plain inside
      rw [rest, decodeLayer_add, opened, Option.bind_some,
        decodeLayer_plain unescaped (trim_nestedBypass solid 0)]
    have refused : isUnsafeReturnPath (nestedBypass 0 host) = true := by
      rw [← Bool.not_eq_false, isUnsafeReturnPath_eq_false_iff]
      exact leaves
    rw [reached]
    simp only [refused, ↓reduceIte, within, iff_true]
    intro rounds decoded found
    have root : decodeLayer rounds (js "/") = some (js "/") :=
      decodeLayer_plain (by decide) (by decide) rounds
    obtain rfl := Option.some.inj (root.symm.trans found)
    decide

end

/-- Four layers of encoding leave a path that decodes to another host. -/
theorem encoded_return_path_survives :
    resolveVaultUnlockReturnPath (some (js "/%2525252Fevil.example")) {} =
        js "/%2Fevil.example" ∧
      decodeLayer 1 (js "/%2Fevil.example") = some (js "//evil.example") ∧
      ¬ SafeReturnPath (js "//evil.example") ∧
      ¬ (resolveVaultUnlockReturnPath
            (some (js "/%2525252Fevil.example")) {} =
          (VaultUnlockReturnPathOptions.defaultReturnPath {}) ∨
        SafeUnderDecoding (resolveVaultUnlockReturnPath
          (some (js "/%2525252Fevil.example")) {})) := by
  have resolved : resolveVaultUnlockReturnPath
      (some (js "/%2525252Fevil.example")) {} = js "/%2Fevil.example" := by
    decide +kernel
  have decoded : decodeLayer 1 (js "/%2Fevil.example") =
      some (js "//evil.example") := by decide +kernel
  refine ⟨resolved, decoded, by decide +kernel, ?_⟩
  rw [resolved]
  rintro (same | safely)
  · exact absurd same (by decide +kernel)
  · exact absurd (safely 1 _ decoded) (by decide +kernel)

end VaultCore
