import DecodeSession.Registry.Step
import DecodeSession.Registry.Scripted
import DecodeSession.Registry.Description
import DecodeSession.Virtual.Setting
import DecodeSession.Kernel.Scripted
import DecodeSession.Main
import DecodeSession.Proofs.Ledger
import DecodeSession.Proofs.Arithmetic
import DecodeSession.Proofs.Quiet
import DecodeSession.Proofs.VirtualLedger
import DecodeSession.Proofs.Holdings
import DecodeSession.Proofs.Ownership
import DecodeSession.Proofs.LettingGo
import DecodeSession.Proofs.Desk
import DecodeSession.Proofs.Lending
import DecodeSession.Proofs.Moves
import DecodeSession.Proofs.History
import DecodeSession.Proofs.Reuse
import DecodeSession.Proofs.Reopening
import DecodeSession.Proofs.Flight
import DecodeSession.Proofs.Interleaving
import DecodeSession.Proofs.Decoding
import DecodeSession.Proofs.Calls
import DecodeSession.Proofs.Devices
import DecodeSession.Proofs.Loans
import DecodeSession.Proofs.Attachment
import DecodeSession.Proofs.Touches
import DecodeSession.Proofs.Executing
import DecodeSession.Proofs.Execution
import DecodeSession.Proofs.Selection
import DecodeSession.Proofs.Pictures
import DecodeSession.Proofs.Obtaining
import DecodeSession.Proofs.Passing
import DecodeSession.Proofs.Queues
import DecodeSession.Proofs.Leftovers
import DecodeSession.Proofs.Books
import DecodeSession.Proofs.Conservation
import DecodeSession.Proofs.PoolSize
import DecodeSession.Proofs.Issuing
import DecodeSession.Proofs.Order
import DecodeSession.Proofs.Callers
import DecodeSession.Proofs.Openness
import DecodeSession.Proofs.Reporting
import DecodeSession.Proofs.Failures
import DecodeSession.Proofs.Events
import DecodeSession.Proofs.Intact
import DecodeSession.Proofs.Flushing
import DecodeSession.Proofs.Dropping
import DecodeSession.Proofs.Timestamps
import DecodeSession.Proofs.Recording
import DecodeSession.Proofs.KernelLedger
import DecodeSession.Proofs.Probing
import DecodeSession.Proofs.Logging
import DecodeSession.Proofs.Conversations
import DecodeSession.Proofs.StepLog
import DecodeSession.Proofs.FormatSteps
import DecodeSession.Proofs.FormatTalks
import DecodeSession.Proofs.DefaultProbe
import DecodeSession.Proofs.Geometry
import DecodeSession.Proofs.ColourPlanes
import DecodeSession.Proofs.Exporting
import DecodeSession.Proofs.Completing
import DecodeSession.Proofs.Choosing
import DecodeSession.Proofs.Settling
import DecodeSession.Proofs.Enumerating
import DecodeSession.Proofs.ControlBatches
import DecodeSession.Proofs.Marshalling
import DecodeSession.Proofs.Spelling
