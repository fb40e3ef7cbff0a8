import SettingsStore.Main
import SettingsStore.Proofs.Access.Builtin
import SettingsStore.Proofs.Access.Change
import SettingsStore.Proofs.Access.Gate
import SettingsStore.Proofs.Access.Monotone
import SettingsStore.Proofs.Access.Overlay
import SettingsStore.Proofs.Access.Patch
import SettingsStore.Proofs.Access.Projection
import SettingsStore.Proofs.Access.ReadBack
import SettingsStore.Proofs.Access.Retry
import SettingsStore.Proofs.Access.Roles
import SettingsStore.Proofs.Cli.Loading
import SettingsStore.Proofs.Disk.Frame
import SettingsStore.Proofs.Disk.Parent
import SettingsStore.Proofs.Disk.Relative
import SettingsStore.Proofs.Disk.Reopen
import SettingsStore.Proofs.Disk.Replace
import SettingsStore.Proofs.Document.Changed
import SettingsStore.Proofs.Document.Part
import SettingsStore.Proofs.Document.Reading
import SettingsStore.Proofs.Document.Selection
import SettingsStore.Proofs.Document.Text
import SettingsStore.Proofs.Document.TomlText
import SettingsStore.Proofs.Document.Value
import SettingsStore.Proofs.Document.Writing
import SettingsStore.Proofs.Json.Members
import SettingsStore.Proofs.Json.Pretty
import SettingsStore.Proofs.Json.Token
import SettingsStore.Proofs.Medium.Apart
import SettingsStore.Proofs.Medium.Atomic
import SettingsStore.Proofs.Medium.Faithful
import SettingsStore.Proofs.Medium.Reread
import SettingsStore.Proofs.Medium.Retentive
import SettingsStore.Proofs.Medium.Revisions
import SettingsStore.Proofs.Store.Coherence
import SettingsStore.Proofs.Store.Contents
import SettingsStore.Proofs.Store.Dsn
import SettingsStore.Proofs.Store.Durability
import SettingsStore.Proofs.Store.Echo
import SettingsStore.Proofs.Store.Effective
import SettingsStore.Proofs.Store.Environments
import SettingsStore.Proofs.Store.Failure
import SettingsStore.Proofs.Store.History
import SettingsStore.Proofs.Store.Interchange
import SettingsStore.Proofs.Store.Opening
import SettingsStore.Proofs.Store.Published
import SettingsStore.Proofs.Store.Quiet
import SettingsStore.Proofs.Store.ReadOnly
import SettingsStore.Proofs.Store.Reload
import SettingsStore.Proofs.Store.Run
import SettingsStore.Proofs.Store.Secrets
import SettingsStore.Proofs.Store.Session
import SettingsStore.Proofs.Store.WriteAuthority
import SettingsStore.Proofs.Store.WriteBack
import SettingsStore.Proofs.Toml.Reading
import SettingsStore.Proofs.Toml.String
import SettingsStore.Proofs.Toml.Table
