import VaultCore.Admin.ConfigKeys
import VaultCore.Data.Outcome

/-!
# Reading the environment

A blank variable counts as absent.
-/

namespace VaultCore

namespace Admin

/-- `Record<string, string | undefined>` -/
abbrev Env := JsString → Option JsString

/-- A variable that is neither absent nor blank. -/
def envValue (env : Env) (key : JsString) : Option JsString :=
  (env key).filter fun raw => trim raw != []

/-- A variable without surrounding white space, or the default if it is
blank. -/
def readStringEnv (env : Env) (key defaultValue : JsString) : JsString :=
  match envValue env key with
  | some raw => trim raw
  | none => defaultValue

/-- `true`, `1` and `yes`, or `false`, `0` and `no`, in any case. -/
def readBoolEnv (toLowerCase : JsString → JsString) (env : Env)
    (key : JsString) (defaultValue : Bool) : Except ConfigError Bool :=
  match envValue env key with
  | none => pure defaultValue
  | some raw =>
      let normalized := toLowerCase (trim raw)
      if normalized = js "true" ∨ normalized = js "1" ∨
          normalized = js "yes" then
        pure true
      else if normalized = js "false" ∨ normalized = js "0" ∨
          normalized = js "no" then
        pure false
      else throw (.error (key ++ js " must be a boolean (true/false)"))

structure IntBounds where
  min : ℚ
  max : ℚ

/-- An integer of the environment, refused with the texts the reader gives. -/
def readInteger (raw notAnInteger : JsString) : Except ConfigError ℤ :=
  match numberOfText raw with
  | .finite value =>
      if value.isInt then pure value.num else throw (.error notAnInteger)
  | _ => throw (.error notAnInteger)

/-- A variable that is an integer within its bounds. -/
def readIntEnv (env : Env) (key : JsString) (defaultValue : ℤ)
    (bounds : IntBounds) : Except ConfigError ℤ :=
  match envValue env key with
  | none => pure defaultValue
  | some raw => do
      let value ← readInteger raw (key ++ js " must be an integer")
      if (value : ℚ) < bounds.min then
        throw (.error (key ++ js " must be >= " ++
          numberText (.finite bounds.min)))
      else if bounds.max < (value : ℚ) then
        throw (.error (key ++ js " must be <= " ++
          numberText (.finite bounds.max)))
      else pure value

/-- A variable that is one of the allowed texts. -/
def readEnumEnv (env : Env) (key : JsString) (allowed : List JsString)
    (defaultValue : JsString) : Except ConfigError JsString :=
  match envValue env key with
  | none => pure defaultValue
  | some raw =>
      let normalized := trim raw
      if normalized ∈ allowed then pure normalized
      else
        throw (.error (key ++ js " must be one of: " ++
          (js ", ").intercalate allowed))

variable {env : Env} {key : JsString}

theorem readStringEnv_nonEmpty {defaultValue : JsString}
    (nonEmpty : defaultValue ≠ []) :
    readStringEnv env key defaultValue ≠ [] := by
  rw [readStringEnv]
  cases found : envValue env key with
  | none => exact nonEmpty
  | some raw =>
      have present := (Option.filter_eq_some_iff.mp found).2
      simpa using present

theorem readIntEnv_between {defaultValue value : ℤ} {bounds : IntBounds}
    (fallback : bounds.min ≤ defaultValue ∧ (defaultValue : ℚ) ≤ bounds.max)
    (read : readIntEnv env key defaultValue bounds = .ok value) :
    bounds.min ≤ value ∧ (value : ℚ) ≤ bounds.max := by
  rw [readIntEnv] at read
  cases found : envValue env key with
  | none =>
      rw [found] at read
      obtain rfl := Except.ok.inj read
      exact fallback
  | some raw =>
      simp only [found] at read
      obtain ⟨integer, -, bounded⟩ := Outcome.bind_eq_ok_iff.mp read
      split at bounded
      · cases bounded
      · rename_i notBelow
        split at bounded
        · cases bounded
        · rename_i notAbove
          obtain rfl := Except.ok.inj bounded
          exact ⟨not_lt.mp notBelow, not_lt.mp notAbove⟩

theorem readEnumEnv_mem {allowed : List JsString}
    {defaultValue value : JsString} (fallback : defaultValue ∈ allowed)
    (read : readEnumEnv env key allowed defaultValue = .ok value) :
    value ∈ allowed := by
  rw [readEnumEnv] at read
  cases found : envValue env key with
  | none =>
      rw [found] at read
      obtain rfl := Except.ok.inj read
      exact fallback
  | some raw =>
      simp only [found] at read
      split at read
      · rename_i member
        obtain rfl := Except.ok.inj read
        exact member
      · cases read

end Admin

end VaultCore
