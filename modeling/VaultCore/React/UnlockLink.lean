import VaultCore.React.UnlockRoutes
import VaultCore.Text.UrlEncoded

/-!
# The unlock link

A link carries the return path as a query parameter.  The path is decoded in
rounds when the link is built and again when it is read, so the link preserves
exactly the safe paths without a percent sign.
-/

namespace VaultCore

open PercentEncoding

/-- `searchParams?.get(name)`, and then the return path. -/
def readVaultUnlockReturnPath
    (searchParams : Option (List (JsString × JsString)))
    (options : VaultUnlockReturnPathOptions) : JsString :=
  resolveVaultUnlockReturnPath
    (searchParams.bind fun entries => entries.lookup options.queryParam)
    options

/-- The link to the unlock page, with the path to return to. -/
def buildVaultUnlockHref (unlockPath returnPath : JsString)
    (paramName : Option JsString) : JsString :=
  let name := paramName.getD vaultUnlockReturnQueryParam
  let safeReturnPath := resolveVaultUnlockReturnPath (some returnPath) {}
  let separator := if unlockPath.contains 0x3F then js "&" else js "?"
  unlockPath ++ separator ++ UrlEncoded.serialize [(name, safeReturnPath)]

/-- The query of a link: what stands between its first question mark and its
fragment. -/
def queryOf (href : JsString) : JsString :=
  ((href.takeWhile (· != 0x23)).dropWhile (· != 0x3F)).drop 1

/-- The return path that is read from a link. -/
def returnPathOf (href : JsString) : JsString :=
  readVaultUnlockReturnPath (some (UrlEncoded.parse (queryOf href))) {}

section

variable {unlockPath path : JsString}

theorem queryOf_eq {href : JsString} (noFragment : 0x23 ∉ href) :
    queryOf href = (href.dropWhile (· != 0x3F)).drop 1 := by
  have whole : href.takeWhile (· != 0x23) = href := by
    apply List.takeWhile_eq_self_iff.mpr
    intro unit member
    exact bne_iff_ne.mpr fun same => noFragment (same ▸ member)
  rw [queryOf, whole]

/-- A link holds the entries of its path and the return path. -/
theorem parse_buildVaultUnlockHref (noFragment : 0x23 ∉ unlockPath)
    (returnPath : JsString) :
    UrlEncoded.parse
        (queryOf (buildVaultUnlockHref unlockPath returnPath none)) =
      UrlEncoded.parse (queryOf unlockPath) ++
        [(vaultUnlockReturnQueryParam, UrlEncoded.toWellFormed
          (resolveVaultUnlockReturnPath (some returnPath) {}))] := by
  set entry := UrlEncoded.serialize [(vaultUnlockReturnQueryParam,
    resolveVaultUnlockReturnPath (some returnPath) {})] with entry_eq
  have units : ∀ unit ∈ entry,
      unit.toNat < 0x80 ∧ unit ≠ 0x26 ∧ unit ≠ 0x23 := by
    intro unit member
    exact UrlEncoded.serialize_single_units member
  have name : UrlEncoded.toWellFormed vaultUnlockReturnQueryParam =
      vaultUnlockReturnQueryParam := UrlEncoded.toWellFormed_ofChars _
  have parsed := UrlEncoded.parse_serialize_single vaultUnlockReturnQueryParam
    (resolveVaultUnlockReturnPath (some returnPath) {})
  rw [← entry_eq, name] at parsed
  have hash : (0x23 : UInt16) ∉ entry := fun member => (units _ member).2.2 rfl
  rw [← parsed, queryOf_eq noFragment]
  unfold buildVaultUnlockHref
  simp only [Option.getD_none, ← entry_eq]
  by_cases asked : 0x3F ∈ unlockPath
  · have href : unlockPath ++ js "&" ++ entry =
        unlockPath ++ 0x26 :: entry := List.append_assoc _ _ _
    rw [if_pos (List.contains_iff_mem.mpr asked), href, queryOf_eq]
    · cases behind : unlockPath.dropWhile (· != 0x3F) with
      | nil =>
          have passed := List.dropWhile_eq_nil_iff.mp behind 0x3F asked
          exact absurd passed (by decide)
      | cons mark query =>
          rw [List.dropWhile_append, behind]
          exact UrlEncoded.parse_append query fun unit member =>
            (units unit member).1
    · simp [noFragment, hash]
  · have href : unlockPath ++ js "?" ++ entry =
        unlockPath ++ 0x3F :: entry := List.append_assoc _ _ _
    rw [if_neg (mt List.contains_iff_mem.mp asked), href, queryOf_eq]
    · have passed : ∀ unit ∈ unlockPath, (unit != 0x3F) = true := by
        intro unit member
        exact bne_iff_ne.mpr fun same => asked (same ▸ member)
      have none : unlockPath.dropWhile (· != 0x3F) = [] :=
        List.dropWhile_eq_nil_iff.mpr passed
      rw [List.dropWhile_append_of_pos passed, none]
      rfl
    · simp [noFragment, hash]

theorem returnPathOf_buildVaultUnlockHref (noFragment : 0x23 ∉ unlockPath)
    (unused : (UrlEncoded.parse (queryOf unlockPath)).lookup
      vaultUnlockReturnQueryParam = none) (returnPath : JsString) :
    returnPathOf (buildVaultUnlockHref unlockPath returnPath none) =
      resolveVaultUnlockReturnPath (some (UrlEncoded.toWellFormed
        (resolveVaultUnlockReturnPath (some returnPath) {}))) {} := by
  rw [returnPathOf, readVaultUnlockReturnPath,
    parse_buildVaultUnlockHref noFragment]
  simp only [Option.bind_some, VaultUnlockReturnPathOptions.queryParam,
    Option.getD_none, List.lookup_append, unused, Option.none_or,
    List.lookup_cons, beq_self_eq_true]

/-! ## Rounds shorten a path -/

theorem length_decodeLayer_le {layers : Nat} {text decoded : JsString}
    (reached : decodeLayer layers text = some decoded) :
    decoded.length ≤ text.length := by
  induction layers generalizing text with
  | zero =>
      cases reached
      exact le_rfl
  | succ layers ih =>
      obtain ⟨first, decodes, rest⟩ := Option.bind_eq_some_iff.mp reached
      have shorter := length_decodeURIComponent_le decodes
      have trimmed := length_trim_le first
      have below := ih rest
      omega

theorem length_decodeLayer_lt {layers : Nat} {text decoded : JsString}
    (escaped : percentUnit ∈ text)
    (reached : decodeLayer (layers + 1) text = some decoded) :
    decoded.length < text.length := by
  obtain ⟨first, decodes, rest⟩ := Option.bind_eq_some_iff.mp reached
  have shorter := length_decodeURIComponent_lt decodes escaped
  have trimmed := length_trim_le first
  have below := length_decodeLayer_le rest
  omega

theorem resolve_plain (plain : percentUnit ∉ path) (trimmed : trim path = path)
    (safe : isUnsafeReturnPath path = false)
    (options : VaultUnlockReturnPathOptions) :
    resolveVaultUnlockReturnPath (some path) options = path := by
  rw [resolveVaultUnlockReturnPath_eq, trimmed,
    decodeLayer_plain plain trimmed]
  simp [safe]

theorem resolve_cases (raw : JsString) :
    resolveVaultUnlockReturnPath (some raw) {} = js "/" ∨
      decodeLayer maxReturnPathDecodes (trim raw) =
        some (resolveVaultUnlockReturnPath (some raw) {}) := by
  rw [resolveVaultUnlockReturnPath_eq]
  cases decodeLayer maxReturnPathDecodes (trim raw) with
  | none => exact .inl rfl
  | some third =>
      cases refused : isUnsafeReturnPath third with
      | true => exact .inl (by simp only [refused, if_true]; rfl)
      | false => exact .inr (by simp [refused])

/-- A path with an escape does not come back. -/
theorem resolve_twice_ne (escaped : percentUnit ∈ path)
    (trimmed : trim path = path) :
    resolveVaultUnlockReturnPath (some (UrlEncoded.toWellFormed
      (resolveVaultUnlockReturnPath (some path) {}))) {} ≠ path := by
  intro back
  have notRoot : path ≠ js "/" := by
    rintro rfl
    revert escaped
    decide
  rcases resolve_cases (UrlEncoded.toWellFormed
    (resolveVaultUnlockReturnPath (some path) {})) with root | second
  · exact notRoot (back.symm.trans root)
  · rw [back] at second
    have again := length_decodeLayer_le second
    have kept := length_trim_le (UrlEncoded.toWellFormed
      (resolveVaultUnlockReturnPath (some path) {}))
    rw [UrlEncoded.length_toWellFormed] at kept
    rcases resolve_cases path with root | first
    · rw [root] at back
      have fixed : resolveVaultUnlockReturnPath
          (some (UrlEncoded.toWellFormed (js "/"))) {} = js "/" := by
        decide +kernel
      exact notRoot (back.symm.trans fixed)
    · rw [trimmed] at first
      have shorter := length_decodeLayer_lt escaped first
      omega

end

/-- A link preserves a safe return path exactly when the path has no percent
sign. -/
theorem unlock_link_preserves_iff {unlockPath path : JsString}
    (noFragment : 0x23 ∉ unlockPath)
    (unused : (UrlEncoded.parse (queryOf unlockPath)).lookup
      vaultUnlockReturnQueryParam = none)
    (wellFormed : ∃ chars, path = Utf16.ofChars chars)
    (trimmed : trim path = path) (safe : isUnsafeReturnPath path = false) :
    returnPathOf (buildVaultUnlockHref unlockPath path none) = path ↔
      percentUnit ∉ path := by
  rw [returnPathOf_buildVaultUnlockHref noFragment unused]
  constructor
  · intro back escaped
    exact resolve_twice_ne escaped trimmed back
  · intro plain
    obtain ⟨chars, rfl⟩ := wellFormed
    rw [resolve_plain plain trimmed safe, UrlEncoded.toWellFormed_ofChars,
      resolve_plain plain trimmed safe]

/-- A path with a query of its own, behind a parameter of the unlock path. -/
theorem unlock_link_preserves_iff_query :
    returnPathOf (buildVaultUnlockHref (js "/vault/unlock?foo=1")
      (js "/notes?tab=a&sort=b c") none) = js "/notes?tab=a&sort=b c" := by
  apply (unlock_link_preserves_iff ?_ ?_ ⟨_, rfl⟩ ?_ ?_).mpr
  · decide +kernel
  · decide +kernel
  · decide +kernel
  · decide +kernel
  · decide +kernel

/-- An escaped percent sign sends the user to the default path, and an escaped
ampersand becomes a separator. -/
theorem escaped_return_path_not_preserved :
    isUnsafeReturnPath (js "/search?q=100%25") = false ∧
      trim (js "/search?q=100%25") = js "/search?q=100%25" ∧
      returnPathOf (buildVaultUnlockHref (js "/vault/unlock")
        (js "/search?q=100%25") none) = js "/" ∧
      isUnsafeReturnPath (js "/search?q=a%26b") = false ∧
      returnPathOf (buildVaultUnlockHref (js "/vault/unlock")
        (js "/search?q=a%26b") none) = js "/search?q=a&b" := by
  refine ⟨?_, ?_, ?_, ?_, ?_⟩
  · decide +kernel
  · decide +kernel
  · decide +kernel
  · decide +kernel
  · decide +kernel

end VaultCore
