import Admission.Chain.Scripted
import Admission.Json.Lookup
import Admission.Listener.Scripted
import Admission.Loopback.Network
import Admission.Main
import Admission.Proofs.Chain.Acceptance
import Admission.Proofs.Chain.Building
import Admission.Proofs.Chain.Counting
import Admission.Proofs.Chain.Enclosure
import Admission.Proofs.Chain.FirstFault
import Admission.Proofs.Chain.Levels
import Admission.Proofs.Chain.Locality
import Admission.Proofs.Chain.Meaning
import Admission.Proofs.Chain.Narrowing
import Admission.Proofs.Chain.Precedence
import Admission.Proofs.Chain.Reachability
import Admission.Proofs.Chain.Relabelling
import Admission.Proofs.Chain.Renewal
import Admission.Proofs.Chain.Reordering
import Admission.Proofs.Chain.Reuse
import Admission.Proofs.Chain.Selection
import Admission.Proofs.Chain.ServerNames
import Admission.Proofs.Chain.Service
import Admission.Proofs.Chain.Stale
import Admission.Proofs.Chain.Succession
import Admission.Proofs.Chain.Superseded
import Admission.Proofs.Chain.Takeover
import Admission.Proofs.Chain.Unambiguous
import Admission.Proofs.Chain.Wildcards
import Admission.Proofs.Json.Canonical
import Admission.Proofs.Json.Reading
import Admission.Proofs.Listener.AccessLog
import Admission.Proofs.Listener.Accounting
import Admission.Proofs.Listener.Ascent
import Admission.Proofs.Listener.Calls
import Admission.Proofs.Listener.Coherence
import Admission.Proofs.Listener.Conclusion
import Admission.Proofs.Listener.Departures
import Admission.Proofs.Listener.Destruction
import Admission.Proofs.Listener.Discipline
import Admission.Proofs.Listener.Drain
import Admission.Proofs.Listener.Drainage
import Admission.Proofs.Listener.Effects
import Admission.Proofs.Listener.Enclosure
import Admission.Proofs.Listener.Events
import Admission.Proofs.Listener.Gauges
import Admission.Proofs.Listener.Headroom
import Admission.Proofs.Listener.Independence
import Admission.Proofs.Listener.Naming
import Admission.Proofs.Listener.Openness
import Admission.Proofs.Listener.Overdue
import Admission.Proofs.Listener.Parking
import Admission.Proofs.Listener.Records
import Admission.Proofs.Listener.Rejection
import Admission.Proofs.Listener.Renumbering
import Admission.Proofs.Listener.Reordering
import Admission.Proofs.Listener.Representation
import Admission.Proofs.Listener.Run
import Admission.Proofs.Listener.Serials
import Admission.Proofs.Listener.Slab
import Admission.Proofs.Listener.Sockets
import Admission.Proofs.Listener.Supersession
import Admission.Proofs.Listener.Survival
import Admission.Proofs.Listener.Tracking
import Admission.Proofs.Net.Collisions
import Admission.Proofs.Net.MostSpecific
import Admission.Proofs.Net.NodeTable
import Admission.Proofs.Net.RangeBits
import Admission.Proofs.Net.RangeTable
import Admission.Proofs.Net.RangeText
import Admission.Proofs.Server.Connections
import Admission.Proofs.Server.Reloading
import Admission.Proofs.Server.Watches
import Admission.Proofs.Stream.Exchange
import Admission.Proofs.Stream.Idleness
import Admission.Proofs.Stream.Transparency
import Admission.Proofs.Text.Utf8
import Admission.Proofs.Tls.Acceptance
import Admission.Proofs.Tls.Bounds
import Admission.Proofs.Tls.Chunking
import Admission.Proofs.Tls.Fragmentation
import Admission.Proofs.Tls.Stability
