import ServiceDiscovery.Config.Loading
import ServiceDiscovery.Http.Interface
import ServiceDiscovery.Json.Access
import ServiceDiscovery.Network
import ServiceDiscovery.Proofs.VersionText
import ServiceDiscovery.Proofs.JsonLiteral
import ServiceDiscovery.Proofs.JsonReading
import ServiceDiscovery.Proofs.JsonPrefix
import ServiceDiscovery.Proofs.Envelope
import ServiceDiscovery.Proofs.Frame
import ServiceDiscovery.Proofs.Shelf
import ServiceDiscovery.Proofs.Registry
import ServiceDiscovery.Proofs.Cache
import ServiceDiscovery.Proofs.Round
import ServiceDiscovery.Proofs.Resolver
import ServiceDiscovery.Proofs.Resolution
import ServiceDiscovery.Proofs.History
import ServiceDiscovery.Proofs.Answering
import ServiceDiscovery.Proofs.Agreement
import ServiceDiscovery.Proofs.Contents
import ServiceDiscovery.Proofs.Policy
import ServiceDiscovery.Proofs.Lifetimes
import ServiceDiscovery.Proofs.Provenance
import ServiceDiscovery.Proofs.Interface
import ServiceDiscovery.Proofs.NodeHistory
import ServiceDiscovery.Proofs.Directory
import ServiceDiscovery.Proofs.Listing
import ServiceDiscovery.Proofs.Overlap
import ServiceDiscovery.Proofs.Lookup
import ServiceDiscovery.Proofs.Arrivals
import ServiceDiscovery.Proofs.Reencoding
import ServiceDiscovery.Proofs.VersionGrammar
import ServiceDiscovery.Proofs.VersionDisplay
import ServiceDiscovery.Proofs.FittingVersions
import ServiceDiscovery.Proofs.LocalLookup
import ServiceDiscovery.Proofs.Exactness
import ServiceDiscovery.Proofs.Stability
import ServiceDiscovery.Proofs.Collecting
import ServiceDiscovery.Proofs.Listening
import ServiceDiscovery.Proofs.Registration
import ServiceDiscovery.Proofs.AgentIds
import ServiceDiscovery.Proofs.Entries
import ServiceDiscovery.Proofs.Hosting
import ServiceDiscovery.Proofs.Timeouts
import ServiceDiscovery.Proofs.Sorting
import ServiceDiscovery.Proofs.Reports
import ServiceDiscovery.Proofs.Announcing
import ServiceDiscovery.Proofs.Files
import ServiceDiscovery.Proofs.Defaults
import ServiceDiscovery.Proofs.Expiry
import ServiceDiscovery.Proofs.NodeIds
