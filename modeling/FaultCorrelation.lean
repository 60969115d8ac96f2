import FaultCorrelation.Decimal.Shortest
import FaultCorrelation.Decimal.Fixed
import FaultCorrelation.Json.Basic
import FaultCorrelation.Json.Reading
import FaultCorrelation.Text.Blank
import FaultCorrelation.Json.Decoding
import FaultCorrelation.Alarm.Basic
import FaultCorrelation.Feedback
import FaultCorrelation.Inventory.Basic
import FaultCorrelation.Inventory.Json
import FaultCorrelation.Fault
import FaultCorrelation.Settings.Basic
import FaultCorrelation.Settings.Json
import FaultCorrelation.Topology.Alarms
import FaultCorrelation.Topology.Inventory
import FaultCorrelation.Cluster.Alarms
import FaultCorrelation.Ledger.Basic
import FaultCorrelation.Ledger.Commit
import FaultCorrelation.Policy.Evaluation
import FaultCorrelation.Engine.Callback
import FaultCorrelation.Engine.Tick
import FaultCorrelation.Engine.Basic
import FaultCorrelation.Json.Printing
import FaultCorrelation.Service.Health
import FaultCorrelation.Service.Request
import FaultCorrelation.Service.Basic
import FaultCorrelation.Service.Endpoint
import FaultCorrelation.Service.Serving
import FaultCorrelation.Decimal.Plain
import FaultCorrelation.Service.Seed
import FaultCorrelation.Service.Settings.Basic
import FaultCorrelation.Proofs.Collections
import FaultCorrelation.Proofs.Alarm.Keyed
import FaultCorrelation.Proofs.Cluster.Cover
import FaultCorrelation.Proofs.Topology.Holding
import FaultCorrelation.Proofs.Ledger.Coherence
import FaultCorrelation.Proofs.Ledger.DraftView
import FaultCorrelation.Proofs.Ledger.DraftCoherence
import FaultCorrelation.Proofs.Ledger.DraftStep
import FaultCorrelation.Proofs.Policy.Feedback
import FaultCorrelation.Proofs.Policy.Merging
import FaultCorrelation.Proofs.Policy.Evaluation
import FaultCorrelation.Proofs.Policy.Freshness
import FaultCorrelation.Proofs.Ledger.Commitment
import FaultCorrelation.Proofs.Engine.Run
import FaultCorrelation.Proofs.Engine.Ticking
import FaultCorrelation.Proofs.Engine.Membership
import FaultCorrelation.Proofs.Engine.Exclusions
import FaultCorrelation.Proofs.Engine.AlarmIndex
import FaultCorrelation.Proofs.Engine.Severity
import FaultCorrelation.Proofs.Cluster.Apart
import FaultCorrelation.Proofs.Cluster.Success
import FaultCorrelation.Proofs.Distance.Search
import FaultCorrelation.Proofs.Distance.Transparency
import FaultCorrelation.Proofs.Engine.Reliability
import FaultCorrelation.Proofs.Topology.Activity
import FaultCorrelation.Proofs.Topology.Declared
import FaultCorrelation.Proofs.Cluster.Concurrence
import FaultCorrelation.Proofs.Engine.Remembering
import FaultCorrelation.Proofs.Engine.Rest
import FaultCorrelation.Proofs.Engine.Skipping
import FaultCorrelation.Proofs.Topology.Removal
import FaultCorrelation.Proofs.Topology.Exactness
import FaultCorrelation.Proofs.Topology.Occupancy
import FaultCorrelation.Proofs.Topology.Usable
import FaultCorrelation.Proofs.Topology.Location
import FaultCorrelation.Proofs.Engine.Accounting
import FaultCorrelation.Proofs.Policy.Seeding
import FaultCorrelation.Proofs.Engine.Correlation
import FaultCorrelation.Proofs.Cluster.Renumbering
import FaultCorrelation.Proofs.Situation.Spread
import FaultCorrelation.Proofs.Engine.Instances
import FaultCorrelation.Proofs.Policy.Placement
import FaultCorrelation.Proofs.Engine.Alike
import FaultCorrelation.Proofs.Engine.Arrival
import FaultCorrelation.Proofs.Engine.Reloading
import FaultCorrelation.Proofs.Engine.Hiding
import FaultCorrelation.Proofs.Engine.LifeCycle
import FaultCorrelation.Proofs.Cluster.Growth
import FaultCorrelation.Proofs.Cluster.ByDensity
import FaultCorrelation.Proofs.Distance.Queue
import FaultCorrelation.Proofs.Topology.Rejection
import FaultCorrelation.Proofs.Policy.Collapse
import FaultCorrelation.Proofs.Policy.LastWord
import FaultCorrelation.Proofs.Engine.LastWord
import FaultCorrelation.Proofs.Policy.Moving
import FaultCorrelation.Proofs.Engine.Moving
import FaultCorrelation.Proofs.Cluster.Components
import FaultCorrelation.Proofs.Topology.Resources
import FaultCorrelation.Proofs.Topology.RoundTrip
import FaultCorrelation.Proofs.Distance.Recency
import FaultCorrelation.Proofs.Cluster.Asking
import FaultCorrelation.Proofs.Engine.Collecting
import FaultCorrelation.Proofs.Engine.Emission
import FaultCorrelation.Proofs.Ledger.Absorption
import FaultCorrelation.Proofs.Ledger.Loading
import FaultCorrelation.Proofs.Topology.Tally
import FaultCorrelation.Proofs.Json.RoundTrip
import FaultCorrelation.Proofs.Policy.Redirection
import FaultCorrelation.Proofs.Settings.Validity
import FaultCorrelation.Proofs.Topology.Representation
