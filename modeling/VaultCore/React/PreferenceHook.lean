import VaultCore.Browser.WebStorage
import VaultCore.Session.AutoLockCountdown
import VaultCore.Session.AutoLockPreference
import VaultCore.Session.Configuration
import VaultCore.Text.ParseInt

/-!
# The auto-lock preference of a page

The hook keeps the minutes a user has chosen in the storage of the browser and
applies them to the session.  A page renders and runs the effects of the
render later, in their order and each only when what it depends on has
changed; the session may go on in between.
-/

namespace VaultCore

/-! ## The stored choice -/

def defaultUserVaultAutoLockStorageKey : JsString :=
  js "vault-core:user:auto-lock-minutes"

/-- The number as the session's configuration reads it. -/
def JsNumber.configured : JsNumber → ConfiguredNumber
  | .finite value => .finite value
  | _ => .notFinite

/-- The stored choice; a blank text and one that is no number are none. -/
def readUserVaultAutoLockMinutes (storage : PageStorage) :
    Option JsNumber :=
  match storage.read defaultUserVaultAutoLockStorageKey with
  | none => none
  | some raw =>
      if trim raw = [] then none
      else
        let minutes := JsNumber.parseInt raw
        if !minutes.isFinite then none else some minutes

/-- The minutes are rounded and written as a text. -/
def writeUserVaultAutoLockMinutes (minutes : ℚ) (storage : PageStorage) :
    PageStorage :=
  storage.write defaultUserVaultAutoLockStorageKey
    (numberText (.finite (roundHalfUp minutes)))

def clearUserVaultAutoLockMinutes (storage : PageStorage) : PageStorage :=
  storage.remove defaultUserVaultAutoLockStorageKey

/-! ## The session -/

/-- What the session is configured with. -/
def preferenceConfig (adminResolvedMinutes : ℚ)
    (userMinutes : Option JsNumber) : VaultSessionConfig where
  autoLockMinutes := some (.finite adminResolvedMinutes)
  resolveAutoLockMinutes := some (.ok (userMinutes.map fun minutes =>
    .finite (clampVaultAutoLockMinutes minutes.configured
      vaultUserAutoLockMinMinutes adminResolvedMinutes)))

/-- A lease that is given has to be current, and without one the session must
not have one either.  The outer `none` is an option that was left out. -/
def refusesPreference (core : SessionCore) :
    Option (Option VaultSessionLease) → Bool
  | some (some lease) => !core.isVaultSessionLeaseCurrent lease
  | some none => core.currentLease.isSome
  | none => false

/-- Configure the session with the choice, unless its lease refuses. -/
def applySessionAutoLock (adminResolvedMinutes : ℚ)
    (userMinutes : Option JsNumber)
    (sessionLease : Option (Option VaultSessionLease)) :
    SessionSync Unit := do
  let state ← Sync.get
  if refusesPreference state.toSessionCore sessionLease then return ()
  else do
    Sync.modify fun state =>
      { state with
        sessionConfig := preferenceConfig adminResolvedMinutes userMinutes }
    match sessionLease with
    | some none => return ()
    | some (some lease) => scheduleVaultAutoLock (some lease)
    | none => scheduleVaultAutoLock none

/-! ## The hook -/

/-- The outer `none` of an option is one that was left out. -/
structure AutoLockPreferenceProps where
  adminResolvedMinutes : ℚ
  initialUserMinutes : Option (Option JsNumber) := none
  sessionLease : Option (Option VaultSessionLease) := none
deriving DecidableEq

/-- What the application to the session depends on. -/
structure PreferenceDependencies where
  adminResolvedMinutes : ℚ
  sessionLease : Option (Option VaultSessionLease)
  userMinutes : Option JsNumber
deriving DecidableEq

/-- The hook between two renders. -/
structure AutoLockPreferenceHook where
  props : AutoLockPreferenceProps
  userMinutes : Option JsNumber
  ready : Bool
  /-- what the first effect last ran with -/
  hydratedWith : Option (Option (Option JsNumber)) := none
  /-- what the second effect last ran with -/
  appliedWith : Option PreferenceDependencies := none
  /-- whether the session refused the last application -/
  refused : Bool := false

namespace AutoLockPreferenceHook

def dependencies (hook : AutoLockPreferenceHook) : PreferenceDependencies where
  adminResolvedMinutes := hook.props.adminResolvedMinutes
  sessionLease := hook.props.sessionLease
  userMinutes := hook.userMinutes

/-- The first render. -/
def mounted (props : AutoLockPreferenceProps) : AutoLockPreferenceHook where
  props := props
  userMinutes := props.initialUserMinutes.getD none
  ready := props.initialUserMinutes.isSome

/-- The minutes that are shown. -/
def minutes (hook : AutoLockPreferenceHook) : ℚ :=
  resolveVaultAutoLockMinutesPreference
    { userMinutes := hook.userMinutes.map JsNumber.configured
      adminMinutes := some hook.props.adminResolvedMinutes }

/-- The first effect: the choice comes from the options or the storage. -/
def hydrate (storage : PageStorage) (hook : AutoLockPreferenceHook) :
    AutoLockPreferenceHook :=
  if hook.hydratedWith = some hook.props.initialUserMinutes then hook
  else
    { hook with
      userMinutes :=
        match hook.props.initialUserMinutes with
        | some initialUserMinutes => initialUserMinutes
        | none => readUserVaultAutoLockMinutes storage
      ready := true
      hydratedWith := some hook.props.initialUserMinutes }

/-- Every effect of the last render has run. -/
def Settled (hook : AutoLockPreferenceHook) : Prop :=
  hook.hydratedWith = some hook.props.initialUserMinutes ∧
    hook.appliedWith = some hook.dependencies

end AutoLockPreferenceHook

/-! ## The page -/

/-- A page: its session, the storage and the hook while it is mounted. -/
structure PreferencePage where
  pool : SessionPool
  storage : PageStorage
  hook : Option AutoLockPreferenceHook := none

inductive PreferenceEvent where
  | mount (props : AutoLockPreferenceProps)
  | rerender (props : AutoLockPreferenceProps)
  | unmount
  | setMinutes (next : JsNumber)
  | resetToAdminDefault
  /-- the effects of the last render run -/
  | effects
  /-- another tab or the browser changes the storage -/
  | storage (storage : PageStorage)
  /-- a step of the session -/
  | session (event : SessionStep)

section

variable (platform : Platform)

namespace PreferencePage

/-- The application of what a render depends on. -/
def applied (deps : PreferenceDependencies) (page : PreferencePage) :
    Except VaultError Unit × SessionState :=
  applySessionAutoLock deps.adminResolvedMinutes deps.userMinutes
    deps.sessionLease page.pool.state

/-- The second effect, with the values of the render.  Where it throws, the
hook is unmounted. -/
def apply (hook rendered : AutoLockPreferenceHook) (page : PreferencePage) :
    PreferencePage :=
  let deps := rendered.dependencies
  if rendered.appliedWith = some deps then { page with hook := some hook }
  else
    { page with
      pool := { page.pool with state := (page.applied deps).2 }
      hook := (page.applied deps).1.toOption.map fun _ =>
        { hook with
          appliedWith := some deps
          refused := refusesPreference page.pool.state.toSessionCore
            deps.sessionLease } }

/-- What an event does to the page. -/
def step (page : PreferencePage) : PreferenceEvent → PreferencePage
  | .mount props => { page with hook := some (.mounted props) }
  | .rerender props =>
      { page with hook := page.hook.map fun hook => { hook with props } }
  | .unmount => { page with hook := none }
  | .setMinutes next =>
      match page.hook with
      | none => page
      | some hook =>
          let clamped := clampVaultAutoLockMinutes next.configured
            vaultUserAutoLockMinMinutes hook.props.adminResolvedMinutes
          { page with
            storage := writeUserVaultAutoLockMinutes clamped page.storage
            hook := some { hook with userMinutes := some (.finite clamped) } }
  | .resetToAdminDefault =>
      match page.hook with
      | none => page
      | some hook =>
          { page with
            storage := clearUserVaultAutoLockMinutes page.storage
            hook := some { hook with userMinutes := none } }
  | .effects =>
      match page.hook with
      | none => page
      | some hook => page.apply (hook.hydrate page.storage) hook
  | .storage storage => { page with storage }
  | .session event =>
      { page with pool := (sessionMachine platform).step page.pool event }

def run (page : PreferencePage) (events : List PreferenceEvent) :
    PreferencePage :=
  events.foldl (step platform) page

end PreferencePage

end

end VaultCore
