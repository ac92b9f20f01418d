import VaultCore.Admin.OverrideEffect
import VaultCore.Admin.OverrideHeap
import VaultCore.Broker.OneShot
import VaultCore.Broker.PortableRoundTrip
import VaultCore.Browser.PrfSaltRoutes
import VaultCore.Browser.RegistrationPrivacy
import VaultCore.Crypto.FieldRoundTrip
import VaultCore.Demo.VaultSafety
import VaultCore.Emergency.Coexistence
import VaultCore.Emergency.DuressMatcher
import VaultCore.Emergency.LongPress
import VaultCore.Emergency.PrimaryPayload
import VaultCore.Emergency.UnlockAtomicity
import VaultCore.Envelopes.AuthorizedEnvelope
import VaultCore.Envelopes.ConfirmationPrompts
import VaultCore.Envelopes.RecoveryConfirmation
import VaultCore.Kdf.EncodedMetadata
import VaultCore.Passkey.QuickUnlock
import VaultCore.RateLimit.BucketBound
import VaultCore.RateLimit.Lockout
import VaultCore.React.OverlayPanels
import VaultCore.React.PasskeyAutoStart
import VaultCore.React.PreferencePage
import VaultCore.React.UnlockLink
import VaultCore.Rotation.RecoveryUpgrade
import VaultCore.Session.DeletionSafety
import VaultCore.Session.PinRelease
import VaultCore.Session.PurgeRobustness
import VaultCore.Validation.MetadataTree
import VaultCore.Validation.PasswordSetup
