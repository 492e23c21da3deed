import ScriptBridge.Simulation
import ScriptBridge.Host.Program
import ScriptBridge.Settings.Format
import ScriptBridge.Proofs.Hierarchy
import ScriptBridge.Proofs.Search
import ScriptBridge.Proofs.Arguments
import ScriptBridge.Proofs.HostRuns
import ScriptBridge.Proofs.Journal
import ScriptBridge.Proofs.Resolution
import ScriptBridge.Proofs.Remembering
import ScriptBridge.Proofs.Atomicity
import ScriptBridge.Proofs.Restoration
import ScriptBridge.Proofs.Registration
import ScriptBridge.Proofs.Bookkeeping
import ScriptBridge.Proofs.Resaving
import ScriptBridge.Proofs.Ancestry
import ScriptBridge.Proofs.Exposure
import ScriptBridge.Proofs.Listing
import ScriptBridge.Proofs.SharedEntries
import ScriptBridge.Proofs.Generations
import ScriptBridge.Proofs.Traces
import ScriptBridge.Proofs.Destruction
import ScriptBridge.Proofs.Numerals
import ScriptBridge.Proofs.Parsing
import ScriptBridge.Proofs.Records
import ScriptBridge.Proofs.WrittenSaves
import ScriptBridge.Proofs.Occupancy
import ScriptBridge.Proofs.References
import ScriptBridge.Proofs.Fitting
import ScriptBridge.Proofs.Locking
import ScriptBridge.Proofs.RightHandles
import ScriptBridge.Proofs.SavedHandles
import ScriptBridge.Proofs.HonestBodies
import ScriptBridge.Proofs.HonestPrograms
import ScriptBridge.Proofs.HonestCalls
import ScriptBridge.Proofs.Circulation
import ScriptBridge.Proofs.Ordering
import ScriptBridge.Proofs.Placement
import ScriptBridge.Proofs.Owners
import ScriptBridge.Proofs.Results
import ScriptBridge.Proofs.Echoes
import ScriptBridge.Proofs.Demands
import ScriptBridge.Proofs.Chains
import ScriptBridge.Proofs.Waiting
import ScriptBridge.Proofs.SavePasses
import ScriptBridge.Proofs.SlotTypes
import ScriptBridge.Proofs.Tallies
import ScriptBridge.Proofs.Widening
import ScriptBridge.Proofs.HostData
