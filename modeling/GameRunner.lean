import GameRunner.Archive.Draft
import GameRunner.Main
import GameRunner.Proofs.Archive.Indices
import GameRunner.Proofs.Archive.Pages
import GameRunner.Proofs.Archive.RoundTrip
import GameRunner.Proofs.Code.Edits
import GameRunner.Proofs.Code.Tiling
import GameRunner.Proofs.Event.Ancestry
import GameRunner.Proofs.Event.Dispatch
import GameRunner.Proofs.Event.Inheritance
import GameRunner.Proofs.Event.Meetings
import GameRunner.Proofs.Geometry.Standstill
import GameRunner.Proofs.Input.Consistency
import GameRunner.Proofs.Machine.Answers
import GameRunner.Proofs.Machine.Bindings
import GameRunner.Proofs.Machine.Compound
import GameRunner.Proofs.Machine.Faults
import GameRunner.Proofs.Machine.Limit
import GameRunner.Proofs.Machine.Marks
import GameRunner.Proofs.Machine.Negation
import GameRunner.Proofs.Machine.ObjectStores
import GameRunner.Proofs.Machine.Requests
import GameRunner.Proofs.Machine.ScriptNumbers
import GameRunner.Proofs.Machine.StackHeight
import GameRunner.Proofs.Machine.StoreLoad
import GameRunner.Proofs.Machine.WithLoop
import GameRunner.Proofs.Number.Overflow
import GameRunner.Proofs.Play.Alarms
import GameRunner.Proofs.Play.Animation
import GameRunner.Proofs.Play.Carried
import GameRunner.Proofs.Play.Clearing
import GameRunner.Proofs.Play.Context
import GameRunner.Proofs.Play.DrawEvent
import GameRunner.Proofs.Play.DrawTurns
import GameRunner.Proofs.Play.Endings
import GameRunner.Proofs.Play.Ids
import GameRunner.Proofs.Play.Moments
import GameRunner.Proofs.Play.Nesting
import GameRunner.Proofs.Play.Passes
import GameRunner.Proofs.Play.Placement
import GameRunner.Proofs.Play.Rerecording
import GameRunner.Proofs.Play.RoomRequests
import GameRunner.Proofs.Play.Seniority
import GameRunner.Proofs.Play.Staying
import GameRunner.Proofs.Program.ChainWalk
import GameRunner.Proofs.Program.Linking
import GameRunner.Proofs.Program.Occurrences
import GameRunner.Proofs.Program.StampedIndices
import GameRunner.Proofs.Random.Range
import GameRunner.Proofs.Text.Cutting
import GameRunner.Proofs.Text.Occurrences
import GameRunner.Proofs.World.Handles
import GameRunner.Proofs.World.OwnVariables
import GameRunner.Proofs.World.Traversal
