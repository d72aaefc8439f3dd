import WorkflowRepair.Catalog.Load
import WorkflowRepair.Completion.ChatModel
import WorkflowRepair.Completion.Script
import WorkflowRepair.Http
import WorkflowRepair.Proofs.Text.Search
import WorkflowRepair.Proofs.Generation.Delivery
import WorkflowRepair.Proofs.Graph.Cycle
import WorkflowRepair.Proofs.Graph.Reach
import WorkflowRepair.Proofs.TagStream.Chunks
import WorkflowRepair.Proofs.Validation.Edges
import WorkflowRepair.Proofs.Validation.Settings
import WorkflowRepair.Proofs.Validation.WellFormed
import WorkflowRepair.Proofs.Repair.Answers
import WorkflowRepair.Proofs.Repair.Settling
import WorkflowRepair.Proofs.Repair.Session
import WorkflowRepair.Proofs.Generation.Attempts
import WorkflowRepair.Proofs.Generation.Protocol
import WorkflowRepair.Proofs.Generation.Course
import WorkflowRepair.Proofs.Generation.Pieces
import WorkflowRepair.Proofs.Generation.Failure
import WorkflowRepair.Proofs.Http.Stream
import WorkflowRepair.Proofs.Validation.Profiles
import WorkflowRepair.Proofs.Repair.Guarantee
import WorkflowRepair.Proofs.Graph.Forest
import WorkflowRepair.Proofs.Graph.Stack
import WorkflowRepair.Proofs.Repair.Dropped
import WorkflowRepair.Proofs.Validation.Meeting
import WorkflowRepair.Proofs.Number.Order
import WorkflowRepair.Proofs.Template.Label
import WorkflowRepair.Proofs.Template.Texts
import WorkflowRepair.Proofs.Validation.Configured
import WorkflowRepair.Proofs.Validation.Generated
import WorkflowRepair.Proofs.Repair.Again
import WorkflowRepair.Proofs.Repair.EdgeIds
import WorkflowRepair.Proofs.Repair.Orphans
import WorkflowRepair.Proofs.Repair.Reconnection
import WorkflowRepair.Proofs.Validation.Listing
import WorkflowRepair.Proofs.Repair.NodeReferences
import WorkflowRepair.Proofs.Repair.Unresolved
import WorkflowRepair.Proofs.Repair.NearestLabel
import WorkflowRepair.Proofs.Repair.Healed
import WorkflowRepair.Proofs.Repair.NodeOrder
import WorkflowRepair.Proofs.Repair.BothExits
import WorkflowRepair.Proofs.Repair.ExitOrder
import WorkflowRepair.Proofs.Repair.StrayHandles
import WorkflowRepair.Proofs.Repair.NewEnds
import WorkflowRepair.Proofs.Repair.NewNames
import WorkflowRepair.Proofs.Repair.Silent
import WorkflowRepair.Proofs.Extraction.Leftmost
import WorkflowRepair.Proofs.Generation.Blocks
import WorkflowRepair.Proofs.Template.Slots
import WorkflowRepair.Proofs.Catalog.Mapping
import WorkflowRepair.Proofs.Generation.Framing
