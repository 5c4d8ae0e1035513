import InitiatorStore.Json.Credentials
import InitiatorStore.Main
import InitiatorStore.Prefs.Instances
import InitiatorStore.Proofs.Command.Effect
import InitiatorStore.Proofs.Command.Help
import InitiatorStore.Proofs.Command.Unreadable
import InitiatorStore.Proofs.Domain.Discovery
import InitiatorStore.Proofs.Files.Names
import InitiatorStore.Proofs.Prefs.Durability
import InitiatorStore.Proofs.Prefs.Integrity
import InitiatorStore.Proofs.Prefs.Overlay
import InitiatorStore.Proofs.Prefs.Scopes
import InitiatorStore.Proofs.Reencoding
import InitiatorStore.Proofs.Store.Commutation
import InitiatorStore.Proofs.Store.Discovery
import InitiatorStore.Proofs.Store.Frame
import InitiatorStore.Proofs.Store.Rewriting
import InitiatorStore.Proofs.World.Backing
import InitiatorStore.Proofs.World.Credentials
import InitiatorStore.Proofs.World.Filing
import InitiatorStore.Proofs.World.Marks
import InitiatorStore.Proofs.World.Presence
import InitiatorStore.Proofs.World.Removal
import InitiatorStore.Proofs.World.Restart
import InitiatorStore.Proofs.World.Retention
import InitiatorStore.Proofs.World.Secrecy
import InitiatorStore.Proofs.World.Synchronize
