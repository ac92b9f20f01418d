import VaultCore.Session.AutoLock

/-!
# The preferred minutes until the lock

A user chooses the minutes up to a ceiling.  Without a choice the minutes come
from an administrator, the environment or the default, in this order; the
ceiling leaves out the environment.
-/

namespace VaultCore

/-- A value that was not given, or null, is none. -/
structure ResolveVaultAutoLockMinutesOptions where
  userMinutes : Option ConfiguredNumber := none
  adminMinutes : Option ℚ := none
  envMinutes : Option ℚ := none
  defaultMinutes : Option ℚ := none
  minMinutes : Option ℚ := none

namespace ResolveVaultAutoLockMinutesOptions

def min (options : ResolveVaultAutoLockMinutesOptions) : ℚ :=
  options.minMinutes.getD vaultUserAutoLockMinMinutes

/-- The minutes when nothing else is set. -/
def fallback (options : ResolveVaultAutoLockMinutesOptions) : ℚ :=
  options.defaultMinutes.getD defaultVaultAutoLockMinutes

end ResolveVaultAutoLockMinutesOptions

/-- The user's minutes below the ceiling, else the admin's, the environment's
or the default. -/
def resolveVaultAutoLockMinutesPreference
    (options : ResolveVaultAutoLockMinutesOptions) : ℚ :=
  let min := options.min
  let defaultMinutes := options.fallback
  match options.userMinutes with
  | some userMinutes =>
      let adminCeiling := options.adminMinutes.getD defaultMinutes
      clampVaultAutoLockMinutes userMinutes min (Max.max min adminCeiling)
  | none =>
      match options.adminMinutes with
      | some adminMinutes =>
          clampVaultAutoLockMinutes (.finite adminMinutes) min adminMinutes
      | none =>
          match options.envMinutes with
          | some envMinutes =>
              clampVaultAutoLockMinutes (.finite envMinutes) min envMinutes
          | none =>
              clampVaultAutoLockMinutes (.finite defaultMinutes) min
                defaultMinutes

/-! ## Clamping -/

section Clamped

variable {α : Type} [LinearOrder α] {least ceiling first second : α}

/-- A value kept between the least one and the ceiling, or the least one when
the ceiling is below it. -/
def clamped (least ceiling value : α) : α :=
  Min.min (Max.max value least) (Max.max least ceiling)

theorem le_clamped : least ≤ clamped least ceiling first :=
  le_min (le_max_right first least) (le_max_left least ceiling)

theorem clamped_le : clamped least ceiling first ≤ Max.max least ceiling :=
  min_le_right _ _

theorem clamped_mono (ordered : first ≤ second) :
    clamped least ceiling first ≤ clamped least ceiling second :=
  min_le_min_right _ (max_le_max_right least ordered)

theorem clamped_of_between (low : least ≤ first)
    (high : first ≤ Max.max least ceiling) :
    clamped least ceiling first = first := by
  rw [clamped, max_eq_left low, min_eq_left high]

theorem clamped_self : clamped least first first = Max.max least first := by
  rw [clamped, max_comm first least, min_self]

theorem clamped_le_max_iff {other : α} :
    clamped least ceiling first ≤ Max.max least other ↔
      first ≤ Max.max least other ∨ ceiling ≤ Max.max least other := by
  rw [clamped, min_le_iff, max_le_iff, max_le_iff]
  simp only [le_max_left, and_true, true_and]

theorem clamped_max_ceiling :
    clamped least (Max.max least ceiling) first =
      clamped least ceiling first := by
  rw [clamped, clamped, max_eq_right (le_max_left least ceiling)]

end Clamped

/-! ## Whole minutes -/

def IsWhole (value : ℚ) : Prop := ∃ whole : ℤ, value = whole

theorem IsWhole.max {first second : ℚ} (firstWhole : IsWhole first)
    (secondWhole : IsWhole second) : IsWhole (Max.max first second) := by
  rcases max_choice first second with same | same
  · rw [same]
    exact firstWhole
  · rw [same]
    exact secondWhole

theorem IsWhole.min {first second : ℚ} (firstWhole : IsWhole first)
    (secondWhole : IsWhole second) : IsWhole (Min.min first second) := by
  rcases min_choice first second with same | same
  · rw [same]
    exact firstWhole
  · rw [same]
    exact secondWhole

theorem IsWhole.getD {given : Option ℚ} {fallback : ℚ}
    (givenWhole : ∀ minutes ∈ given, IsWhole minutes)
    (fallbackWhole : IsWhole fallback) : IsWhole (given.getD fallback) := by
  cases given with
  | none => exact fallbackWhole
  | some minutes => exact givenWhole minutes rfl

/-- Every value that is given is an integer, and the minimum is positive. -/
structure WholeMinutes (options : ResolveVaultAutoLockMinutesOptions) :
    Prop where
  user : ∀ minutes ∈ options.userMinutes,
    ∃ whole : ℤ, minutes = .finite whole
  admin : ∀ minutes ∈ options.adminMinutes, IsWhole minutes
  env : ∀ minutes ∈ options.envMinutes, IsWhole minutes
  default : ∀ minutes ∈ options.defaultMinutes, IsWhole minutes
  min : ∀ minutes ∈ options.minMinutes, IsWhole minutes
  positive : ∀ minutes ∈ options.minMinutes, 1 ≤ minutes

theorem clampVaultAutoLockMinutes_whole (whole : ℤ) (min max : ℚ) :
    clampVaultAutoLockMinutes (.finite whole) min max =
      clamped min max (whole : ℚ) := by
  have rounded : roundHalfUp (whole : ℚ) = whole := by
    have floored := Int.floor_intCast_add whole (1 / 2 : ℚ)
    have half : ⌊(1 / 2 : ℚ)⌋ = 0 := by norm_num
    rw [half, add_zero] at floored
    exact congrArg (fun integer : ℤ => (integer : ℚ)) floored
  rw [clampVaultAutoLockMinutes, clamped, rounded, min_def, max_def, max_def]

namespace ResolveVaultAutoLockMinutesOptions

/-- The minutes without a choice of the user. -/
def withoutUser (options : ResolveVaultAutoLockMinutesOptions) :
    ResolveVaultAutoLockMinutesOptions :=
  { options with userMinutes := none }

/-- The options with a choice of the user. -/
def withUser (options : ResolveVaultAutoLockMinutesOptions) (minutes : ℚ) :
    ResolveVaultAutoLockMinutesOptions :=
  { options with userMinutes := some (.finite minutes) }

/-- The ceiling of a choice. -/
def ceiling (options : ResolveVaultAutoLockMinutesOptions) : ℚ :=
  options.adminMinutes.getD options.fallback

end ResolveVaultAutoLockMinutesOptions

/-- What is said of a record: a choice gives at least the minimum and at most
what there is without it, a later choice gives no less, and the result chosen
again is kept. -/
structure OnlyShortens (options : ResolveVaultAutoLockMinutesOptions) :
    Prop where
  least : options.min ≤ resolveVaultAutoLockMinutesPreference options
  most : resolveVaultAutoLockMinutesPreference options ≤
    Max.max options.min
      (resolveVaultAutoLockMinutesPreference options.withoutUser)
  monotone : ∀ first second : ℤ, first ≤ second →
    resolveVaultAutoLockMinutesPreference (options.withUser first) ≤
      resolveVaultAutoLockMinutesPreference (options.withUser second)
  idempotent : resolveVaultAutoLockMinutesPreference
      (options.withUser (resolveVaultAutoLockMinutesPreference options)) =
    resolveVaultAutoLockMinutesPreference options

section Resolved

variable {options : ResolveVaultAutoLockMinutesOptions}

theorem WholeMinutes.min_whole (whole : WholeMinutes options) :
    IsWhole options.min :=
  IsWhole.getD whole.min ⟨1, by norm_num [vaultUserAutoLockMinMinutes]⟩

theorem WholeMinutes.fallback_whole (whole : WholeMinutes options) :
    IsWhole options.fallback :=
  IsWhole.getD whole.default ⟨15, by norm_num [defaultVaultAutoLockMinutes]⟩

theorem resolve_withUser {minutes : ℚ} (isWhole : IsWhole minutes) :
    resolveVaultAutoLockMinutesPreference (options.withUser minutes) =
      clamped options.min options.ceiling minutes := by
  obtain ⟨whole, rfl⟩ := isWhole
  exact (clampVaultAutoLockMinutes_whole whole _ _).trans clamped_max_ceiling

/-- Without a choice the first value that is given counts, if it is not below
the minimum. -/
theorem resolve_withoutUser (whole : WholeMinutes options) :
    resolveVaultAutoLockMinutesPreference options.withoutUser =
      Max.max options.min
        (options.adminMinutes.getD
          (options.envMinutes.getD options.fallback)) := by
  have own {minutes : ℚ} (isWhole : IsWhole minutes) :
      clampVaultAutoLockMinutes (.finite minutes) options.min minutes =
        Max.max options.min minutes := by
    obtain ⟨integer, rfl⟩ := isWhole
    rw [clampVaultAutoLockMinutes_whole, clamped_self]
  rw [resolveVaultAutoLockMinutesPreference]
  cases admin : options.adminMinutes with
  | some minutes =>
      simp only [ResolveVaultAutoLockMinutesOptions.withoutUser, admin]
      exact own (whole.admin minutes admin)
  | none =>
      cases env : options.envMinutes with
      | some minutes =>
          simp only [ResolveVaultAutoLockMinutesOptions.withoutUser, admin,
            env]
          exact own (whole.env minutes env)
      | none =>
          simp only [ResolveVaultAutoLockMinutesOptions.withoutUser, admin,
            env]
          exact own whole.fallback_whole

theorem resolvedMinutes_cases (whole : WholeMinutes options) :
    options.userMinutes = none ∧ options = options.withoutUser ∨
      ∃ user : ℤ, options.userMinutes = some (.finite user) ∧
        options = options.withUser user := by
  obtain ⟨userMinutes, admin, env, default, least⟩ := options
  cases userMinutes with
  | none => exact .inl ⟨rfl, rfl⟩
  | some minutes =>
      obtain ⟨user, rfl⟩ := whole.user minutes rfl
      exact .inr ⟨user, rfl, rfl⟩

theorem resolve_whole (whole : WholeMinutes options) :
    IsWhole (resolveVaultAutoLockMinutesPreference options) := by
  have fallback := whole.fallback_whole
  rcases resolvedMinutes_cases whole with ⟨-, same⟩ | ⟨user, -, same⟩
  · rw [same, resolve_withoutUser whole]
    exact whole.min_whole.max
      (IsWhole.getD whole.admin (IsWhole.getD whole.env fallback))
  · rw [same, resolve_withUser ⟨user, rfl⟩]
    have ceiling : IsWhole options.ceiling :=
      IsWhole.getD whole.admin fallback
    exact (IsWhole.max ⟨user, rfl⟩ whole.min_whole).min
      (whole.min_whole.max ceiling)

theorem min_le_resolve (whole : WholeMinutes options) :
    options.min ≤ resolveVaultAutoLockMinutesPreference options := by
  rcases resolvedMinutes_cases whole with ⟨-, same⟩ | ⟨user, -, same⟩
  · rw [same, resolve_withoutUser whole]
    exact le_max_left _ _
  · rw [same, resolve_withUser ⟨user, rfl⟩]
    exact le_clamped

/-- Only the two upper bounds can fail. -/
theorem onlyShortens_iff (whole : WholeMinutes options) :
    OnlyShortens options ↔
      resolveVaultAutoLockMinutesPreference options ≤
          Max.max options.min
            (resolveVaultAutoLockMinutesPreference options.withoutUser) ∧
        resolveVaultAutoLockMinutesPreference options ≤
          Max.max options.min options.ceiling := by
  have again : resolveVaultAutoLockMinutesPreference
        (options.withUser (resolveVaultAutoLockMinutesPreference options)) =
      clamped options.min options.ceiling
        (resolveVaultAutoLockMinutesPreference options) :=
    resolve_withUser (resolve_whole whole)
  constructor
  · intro shortens
    refine ⟨shortens.most, ?_⟩
    rw [← shortens.idempotent, again]
    exact clamped_le
  · rintro ⟨most, high⟩
    refine
      { least := min_le_resolve whole
        most
        monotone := ?_
        idempotent := ?_ }
    · intro first second ordered
      rw [resolve_withUser ⟨first, rfl⟩, resolve_withUser ⟨second, rfl⟩]
      exact clamped_mono (by exact_mod_cast ordered)
    · rw [again]
      exact clamped_of_between (min_le_resolve whole) high

end Resolved

/-- A choice only shortens the minutes exactly when an administrator has set
them, or the environment has not, or what it has set makes no difference. -/
theorem preference_only_shortens_iff
    (options : ResolveVaultAutoLockMinutesOptions)
    (whole : WholeMinutes options) :
    OnlyShortens options ↔
      options.adminMinutes.isSome = true ∨
        ∀ env, options.envMinutes = some env →
          (∃ user : ℤ, options.userMinutes = some (.finite user) ∧
            user ≤ Max.max options.min env) ∨
          (options.userMinutes.isSome = true ∧
            options.fallback ≤ Max.max options.min env) ∨
          (options.userMinutes = none ∧
            env ≤ Max.max options.min options.fallback) := by
  have base := resolve_withoutUser whole
  rw [onlyShortens_iff whole, base, max_eq_right (le_max_left _ _)]
  rcases resolvedMinutes_cases whole with ⟨absent, same⟩ | ⟨user, given, same⟩
  · have resolved := (congrArg resolveVaultAutoLockMinutesPreference same).trans
      base
    rw [resolved, and_iff_right le_rfl, max_le_iff,
      and_iff_right (le_max_left _ _),
      ResolveVaultAutoLockMinutesOptions.ceiling]
    cases admin : options.adminMinutes with
    | some minutes => simp
    | none =>
        cases env : options.envMinutes with
        | none => simp
        | some minutes => simp [absent]
  · have resolved := (congrArg resolveVaultAutoLockMinutesPreference same).trans
      (resolve_withUser ⟨user, rfl⟩)
    rw [resolved, and_iff_left clamped_le, clamped_le_max_iff,
      ResolveVaultAutoLockMinutesOptions.ceiling]
    cases admin : options.adminMinutes with
    | some minutes => simp
    | none =>
        cases env : options.envMinutes with
        | none => simp
        | some minutes => simp [given]

theorem preference_only_shortens_iff_admin :
    OnlyShortens
      { userMinutes := some (.finite 99), adminMinutes := some 30 } := by
  refine (preference_only_shortens_iff _ ?_).mpr (.inl rfl)
  exact
    { user := by
        rintro minutes ⟨⟩
        exact ⟨99, by norm_num⟩
      admin := by
        rintro minutes ⟨⟩
        exact ⟨30, by norm_num⟩
      env := by rintro minutes ⟨⟩
      default := by rintro minutes ⟨⟩
      min := by rintro minutes ⟨⟩
      positive := by rintro minutes ⟨⟩ }

/-- Ten minutes of a user against five of the environment. -/
theorem preference_exceeds_environment :
    ¬ ∀ options, WholeMinutes options → OnlyShortens options := by
  intro always
  have shortens := always
    { userMinutes := some (.finite 10), envMinutes := some 5 }
    { user := by
        rintro minutes ⟨⟩
        exact ⟨10, by norm_num⟩
      admin := by rintro minutes ⟨⟩
      env := by
        rintro minutes ⟨⟩
        exact ⟨5, by norm_num⟩
      default := by rintro minutes ⟨⟩
      min := by rintro minutes ⟨⟩
      positive := by rintro minutes ⟨⟩ }
  exact absurd shortens.most (by decide +kernel)

end VaultCore
