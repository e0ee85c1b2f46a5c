import OsnScheduling.Proc
import OsnScheduling.Table
import OsnScheduling.Sched
import OsnScheduling.Lifecycle
import OsnScheduling.System
import OsnScheduling.Steps
import OsnScheduling.Locks
import OsnScheduling.Wf
import OsnScheduling.Wakeup
import OsnScheduling.Dispatch
import OsnScheduling.Resources
import OsnScheduling.Slots
import OsnScheduling.Times
import OsnScheduling.Pids
import OsnScheduling.Tree
import OsnScheduling.Policies
import OsnScheduling.Scans
import OsnScheduling.Mlfq
import OsnScheduling.Calls
import OsnScheduling.Family
import OsnScheduling.Deadlock
import OsnScheduling.Service
import OsnScheduling.Fairness
import OsnScheduling.Exclusion
import OsnScheduling.Starvation
import OsnScheduling.FcfsOrder
import OsnScheduling.WorkConservation
import OsnScheduling.PbsOrder
