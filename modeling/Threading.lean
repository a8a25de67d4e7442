import Threading.Schedule
import Threading.ThreadName
import Threading.Log
import Threading.Semaphore
import Threading.BlockingQueue
import Threading.Handle
import Threading.WorkerPool
import Threading.JobPool
import Threading.Text.Quoted
import Threading.Text.Blank
import Threading.Text.ControlSequence
import Threading.Text.Alphabetic
import Threading.Pattern
import Threading.Value
import Threading.Value.Written
import Threading.Handle.Shown
import Threading.Scenario.Reading
import Threading.Scenario.Session
import Threading.Scenario.Execution
import Threading.Scenario.Report
import Threading.CommandLine.Grammar
import Threading.CommandLine.Help
import Threading.CommandLine.LogFilter
import Threading.CommandLine.Duration
import Threading.CommandLine.PoolRun
import Threading.CommandLine.Program
import Threading.CommandLine.Transcript
import Threading.Main
import Threading.Proofs.Run
import Threading.Proofs.Entries
import Threading.Proofs.Calls
import Threading.Proofs.Handle.Lifecycle
import Threading.Proofs.Handle.Join
import Threading.Proofs.Handle.Finished
import Threading.Proofs.Handle.OnlyJoined
import Threading.Proofs.Condition
import Threading.Proofs.Stock
import Threading.Proofs.Semaphore
import Threading.Proofs.Semaphore.Totals
import Threading.Proofs.BlockingQueue
import Threading.Proofs.BlockingQueue.Totals
import Threading.Proofs.JobPool.Teardown
import Threading.Proofs.JobPool.Permits
import Threading.Proofs.JobPool.Progress
import Threading.Proofs.JobPool.Limit
import Threading.Proofs.JobPool.Conservation
import Threading.Proofs.JobPool.Pruning
import Threading.Proofs.WorkerPool.Transition
import Threading.Proofs.WorkerPool.Lifetime
import Threading.Proofs.WorkerPool.Teardown
import Threading.Proofs.WorkerPool.Order
import Threading.Proofs.WorkerPool.Outcome
import Threading.Proofs.WorkerPool.Progress
import Threading.Proofs.WorkerPool.WakeUp
import Threading.Proofs.WorkerPool.SelfDestroy
import Threading.Proofs.WorkerPool.AtRest
import Threading.Proofs.WorkerPool.Shutdown
import Threading.Proofs.WorkerPool.Release
import Threading.Proofs.WorkerPool.Workforce
import Threading.Proofs.JobPool.Custody
import Threading.Proofs.JobPool.Listing
import Threading.Proofs.JobPool.Reports
import Threading.Proofs.Records
import Threading.Proofs.WorkerPool.Fates
import Threading.Proofs.Scenario.View
import Threading.Proofs.Scenario.Objects
import Threading.Proofs.Scenario.Turn
import Threading.Proofs.Scenario.Moves
import Threading.Proofs.Scenario.Panics
import Threading.Proofs.Growth
import Threading.Proofs.WorkerPool.Names
import Threading.Proofs.JobPool.FailedSubmit
import Threading.Proofs.Scenario.Names
import Threading.Proofs.CommandLine.Mover
import Threading.Proofs.CommandLine.Staff
import Threading.Proofs.Schedule
import Threading.Proofs.CommandLine.Items
import Threading.Proofs.CommandLine.Sleepers
import Threading.Proofs.CommandLine.QueueEnd
import Threading.Proofs.CommandLine.ItemsMoved
import Threading.Proofs.WorkerPool.Bound
import Threading.Proofs.CommandLine.Desks
import Threading.Proofs.CommandLine.PoolCourse
import Threading.Proofs.CommandLine.PoolEnd
import Threading.Proofs.CommandLine.TasksCompleted
