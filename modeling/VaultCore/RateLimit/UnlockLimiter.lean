import VaultCore.RateLimit.FixedWindow
import VaultCore.Errors
import VaultCore.Async.Program
import Mathlib.Data.Rat.Floor

/-!
# The unlock limiter

One fixed-window limiter counts failed unlock attempts under a key made of
the scope and the action.  `withVaultUnlockRateLimit` asks the limiter before
it invokes the attempt and records the result after the attempt has settled;
in between the limiter serves other callers.
-/

namespace VaultCore

namespace RateLimit

/-- How many failures an unlock may have, and for how long. -/
structure VaultUnlockRateLimitConfig where
  maxFailures : ℚ
  failureWindowMs : ℚ
  lockoutMs : ℚ

def defaultVaultUnlockRateLimit : VaultUnlockRateLimitConfig :=
  { maxFailures := 5
    failureWindowMs := 15 * 60 * 1000
    lockoutMs := 30 * 60 * 1000 }

/-- The actions that are counted apart. -/
inductive VaultUnlockRateLimitAction where
  | password
  | recoveryPhrase
  | passkeyPrf
  | emergencyExit
deriving DecidableEq

namespace VaultUnlockRateLimitAction

def name : VaultUnlockRateLimitAction → JsString
  | .password => js "password"
  | .recoveryPhrase => js "recovery_phrase"
  | .passkeyPrf => js "passkey_prf"
  | .emergencyExit => js "emergency_exit"

end VaultUnlockRateLimitAction

/-- The key of an action in a scope. -/
def buildUnlockKey (scopeKey : JsString)
    (action : VaultUnlockRateLimitAction) : JsString :=
  scopeKey ++ js ":" ++ action.name

/-- The message with the wait in minutes and seconds. -/
def formatUnlockRateLimitMessage (retryAfterMs : ℚ) : String :=
  let totalSeconds := Max.max 1 ⌈JsNumber.quotient retryAfterMs 1000⌉
  if totalSeconds < 60 then
    "Too many failed unlock attempts. Try again in " ++
      toString totalSeconds ++ " second" ++
        (if totalSeconds = 1 then "" else "s") ++ "."
  else
    let minutes := ⌈JsNumber.quotient totalSeconds 60⌉
    "Too many failed unlock attempts. Try again in " ++
      toString minutes ++ " minute" ++
        (if minutes = 1 then "" else "s") ++ "."

/-- The limiter configuration `createVaultUnlockRateLimiter` builds. -/
def limiterConfig (config : VaultUnlockRateLimitConfig) :
    FixedWindowRateLimitConfig :=
  { max := config.maxFailures
    windowMs := config.failureWindowMs
    lockoutMs := some config.lockoutMs }

/-- The limiter, its clock, and how often an attempt has been invoked. -/
structure LimiterState where
  buckets : Buckets
  nowMs : ℚ
  attemptsInvoked : Nat

section Operations

variable (config : VaultUnlockRateLimitConfig) (scopeKey : JsString)
  (action : VaultUnlockRateLimitAction)

/-- Refuse a key that is locked out. -/
def assertVaultUnlockAllowed : Sync LimiterState VaultError Unit :=
  fun state =>
    let outcome := check (limiterConfig config)
      (buildUnlockKey scopeKey action) state.nowMs state.buckets
    let next := { state with buckets := outcome.2 }
    if outcome.1.allowed then (.ok (), next)
    else
      (.error (.vaultRateLimitError
        (formatUnlockRateLimitMessage outcome.1.retryAfterMs)
        outcome.1.retryAfterMs outcome.1.resetAtMs), next)

def recordVaultUnlockFailure : Sync LimiterState VaultError Unit :=
  Sync.modify fun state =>
    { state with
      buckets := (consume (limiterConfig config)
        (buildUnlockKey scopeKey action) state.nowMs state.buckets).2 }

def recordVaultUnlockSuccess : Sync LimiterState VaultError Unit :=
  Sync.modify fun state =>
    { state with
      buckets := reset (buildUnlockKey scopeKey action) state.buckets }

/-- Check, attempt, and record what became of the attempt. -/
def withVaultUnlockRateLimit {α : Type}
    (attempt : Async LimiterState VaultError α) :
    Async LimiterState VaultError α := do
  Async.lift (assertVaultUnlockAllowed config scopeKey action)
  Async.tryCatch
    (do
      let result ← Async.await attempt
      Async.lift (recordVaultUnlockSuccess scopeKey action)
      return result)
    fun error => do
      if !error.isVaultRateLimitError then
        Async.lift (recordVaultUnlockFailure config scopeKey action)
      Async.throw error

end Operations

end RateLimit

end VaultCore
