import Keystore.Main
import Keystore.Session
import Keystore.Proofs.Command.EntryPoints
import Keystore.Proofs.ConfigFile.Effective
import Keystore.Proofs.Lookup.Bystanders
import Keystore.Proofs.Lookup.Coherence
import Keystore.Proofs.Lookup.Containment
import Keystore.Proofs.Lookup.Malformed
import Keystore.Proofs.Lookup.Namespaces
import Keystore.Proofs.Lookup.Override
import Keystore.Proofs.Lookup.Policies
import Keystore.Proofs.Lookup.Raising
import Keystore.Proofs.Options
import Keystore.Proofs.Path.Spelling
import Keystore.Proofs.Pool
import Keystore.Proofs.Scan.Order
import Keystore.Proofs.Session.Accounts
import Keystore.Proofs.Session.Channel
import Keystore.Proofs.Session.Observers
import Keystore.Proofs.Entries.Overlay
import Keystore.Proofs.Provider.Flat
import Keystore.Proofs.Session.Settings
import Keystore.Proofs.ConfigFile.Complete
import Keystore.Proofs.ConfigFile.Stacked
import Keystore.Proofs.Command.Placement
import Keystore.Proofs.Command.Report
