import Mathlib.Logic.Function.Basic
import Mathlib.Data.Int.Defs
import Mathlib.Algebra.Group.Nat.Basic
import Mathlib.Algebra.Group.Int

/-!
The data of `kernel/proc.c`: a `Proc` per slot of `proc[NPROC]`, a `Cpu` per entry of
`cpus[NCPU]`, and the globals the file owns. `NPROC`, `NCPU`, `NOFILE` and `PGSIZE` come
from headers outside the source and are fields of `Config`; `ticks` is the spec's
monotonically increasing tick count.
-/

namespace OsnScheduling

inductive ProcState
  | unused | used | sleeping | runnable | running | zombie
  deriving DecidableEq, Repr

inductive Chan
  | proc (i : Nat)
  | ticks
  | other (k : Nat)
  deriving DecidableEq, Repr

def Chan.isProc : Chan → Bool
  | .proc _ => true
  | _ => false

structure TrapFrame where
  epc : Nat
  sp : Nat
  a0 : Nat
  deriving DecidableEq, Repr

/-- `struct proc`. Pointers to slots are slot indices, a null pointer is `none`;
`lock` is the CPU holding `p->lock` from one step to a later one. -/
structure Proc where
  state : ProcState
  pid : Int
  parent : Option Nat
  chan : Option Chan
  killed : Bool
  xstate : Int
  trapframe : Option TrapFrame
  pagetable : Option Nat
  sz : Nat
  ofile : Nat → Option Nat
  cwd : Option Nat
  name : String
  trace : Int
  ctime : Nat
  etime : Nat
  rtime : Nat
  startTime : Int
  staticPriority : Int
  timesScheduled : Int
  runningTime : Int
  sleepingTime : Int
  priorityNumber : Nat
  timeAdded : Int
  noOfTicks : Int
  noTimes : Int
  lock : Option Nat

/-- Where a CPU stands: inside `scheduler()` (`top`, `loop k`, `rr`, `pick`), running
`c->proc` (`run`), possibly in the middle of `sleep` or `fork`, or stopped by a `panic`
(`halted`). -/
inductive CpuPc
  | top
  | loop (k : Nat)
  | rr
  | pick
  | run
  | sleep (ch : Chan)
  | forkLink (np : Nat)
  | forkRun (np : Nat)
  | halted
  deriving DecidableEq, Repr

def CpuPc.executing : CpuPc → Bool
  | .run | .sleep _ | .forkLink _ | .forkRun _ | .halted => true
  | _ => false

def CpuPc.child : CpuPc → Option Nat
  | .forkLink np | .forkRun np => some np
  | _ => none

/-- `struct cpu` with the locals of its `scheduler()` loop. -/
structure Cpu where
  proc : Option Nat
  pc : CpuPc
  toBeScheduled : Option Nat
  firstStart : Int
  intialized : Int
  rrS : Nat
  deriving DecidableEq, Repr

inductive Policy
  | default | fcfs | pbs | mlfq
  deriving DecidableEq, Repr

structure Config where
  nproc : Nat
  ncpu : Nat
  nofile : Nat
  pgsize : Nat
  policy : Policy
  nproc_pos : 0 < nproc
  ncpu_pos : 0 < ncpu

/-- The globals: the table, the CPUs, `nextpid` (kept unbounded: the C `int` holds
`int32 nextpid`), `ticks`, `initproc`, and the file table's reference counts. -/
structure Kernel where
  procs : Nat → Proc
  cpus : Nat → Cpu
  nextpid : Nat
  ticks : Nat
  initproc : Option Nat
  fileRef : Nat → Int

/-- The value a C `int` holds after the two's complement wrap. -/
def int32 (n : Int) : Int :=
  (n + 2 ^ 31) % 2 ^ 32 - 2 ^ 31

def u32 (n : Int) : Nat :=
  (n % 2 ^ 32).toNat

theorem int32_of_lt {n : Int} (h0 : -2 ^ 31 ≤ n) (h1 : n < 2 ^ 31) : int32 n = n := by
  unfold int32
  rw [Int.emod_eq_of_lt (by omega) (by omega)]
  omega

theorem int32_eq_neg_one {n : Nat} : int32 n = -1 ↔ n % 2 ^ 32 = 2 ^ 32 - 1 := by
  unfold int32
  omega

def Proc.zero : Proc where
  state := .unused
  pid := 0
  parent := none
  chan := none
  killed := false
  xstate := 0
  trapframe := none
  pagetable := none
  sz := 0
  ofile := fun _ => none
  cwd := none
  name := ""
  trace := 0
  ctime := 0
  etime := 0
  rtime := 0
  startTime := 0
  staticPriority := 0
  timesScheduled := 0
  runningTime := 0
  sleepingTime := 0
  priorityNumber := 0
  timeAdded := 0
  noOfTicks := 0
  noTimes := 0
  lock := none

def Cpu.zero : Cpu where
  proc := none
  pc := .top
  toBeScheduled := none
  firstStart := 0
  intialized := 0
  rrS := 0

/-- The table as `procinit` leaves it: every slot zeroed, no process yet. -/
def Kernel.zero : Kernel where
  procs := fun _ => Proc.zero
  cpus := fun _ => Cpu.zero
  nextpid := 1
  ticks := 0
  initproc := none
  fileRef := fun _ => 0

def Kernel.setProc (s : Kernel) (i : Nat) (p : Proc) : Kernel :=
  { s with procs := Function.update s.procs i p }

def Kernel.setCpu (s : Kernel) (c : Nat) (x : Cpu) : Kernel :=
  { s with cpus := Function.update s.cpus c x }

def Kernel.mapProcs (s : Kernel) (f : Nat → Proc → Proc) : Kernel :=
  { s with procs := fun j => f j (s.procs j) }

@[simp] theorem Kernel.setProc_procs (s : Kernel) (i : Nat) (p : Proc) :
    (s.setProc i p).procs = Function.update s.procs i p := rfl

@[simp] theorem Kernel.setProc_cpus (s : Kernel) (i : Nat) (p : Proc) :
    (s.setProc i p).cpus = s.cpus := rfl

@[simp] theorem Kernel.setProc_nextpid (s : Kernel) (i : Nat) (p : Proc) :
    (s.setProc i p).nextpid = s.nextpid := rfl

@[simp] theorem Kernel.setProc_ticks (s : Kernel) (i : Nat) (p : Proc) :
    (s.setProc i p).ticks = s.ticks := rfl

@[simp] theorem Kernel.setProc_initproc (s : Kernel) (i : Nat) (p : Proc) :
    (s.setProc i p).initproc = s.initproc := rfl

@[simp] theorem Kernel.setProc_fileRef (s : Kernel) (i : Nat) (p : Proc) :
    (s.setProc i p).fileRef = s.fileRef := rfl

@[simp] theorem Kernel.mapProcs_procs (s : Kernel) (f : Nat → Proc → Proc) (j : Nat) :
    (s.mapProcs f).procs j = f j (s.procs j) := rfl

@[simp] theorem Kernel.mapProcs_cpus (s : Kernel) (f : Nat → Proc → Proc) :
    (s.mapProcs f).cpus = s.cpus := rfl

@[simp] theorem Kernel.mapProcs_nextpid (s : Kernel) (f : Nat → Proc → Proc) :
    (s.mapProcs f).nextpid = s.nextpid := rfl

@[simp] theorem Kernel.mapProcs_ticks (s : Kernel) (f : Nat → Proc → Proc) :
    (s.mapProcs f).ticks = s.ticks := rfl

@[simp] theorem Kernel.mapProcs_initproc (s : Kernel) (f : Nat → Proc → Proc) :
    (s.mapProcs f).initproc = s.initproc := rfl

@[simp] theorem Kernel.mapProcs_fileRef (s : Kernel) (f : Nat → Proc → Proc) :
    (s.mapProcs f).fileRef = s.fileRef := rfl

@[simp] theorem Kernel.setCpu_cpus (s : Kernel) (c : Nat) (x : Cpu) :
    (s.setCpu c x).cpus = Function.update s.cpus c x := rfl

@[simp] theorem Kernel.setCpu_procs (s : Kernel) (c : Nat) (x : Cpu) :
    (s.setCpu c x).procs = s.procs := rfl

@[simp] theorem Kernel.setCpu_nextpid (s : Kernel) (c : Nat) (x : Cpu) :
    (s.setCpu c x).nextpid = s.nextpid := rfl

@[simp] theorem Kernel.setCpu_ticks (s : Kernel) (c : Nat) (x : Cpu) :
    (s.setCpu c x).ticks = s.ticks := rfl

@[simp] theorem Kernel.setCpu_initproc (s : Kernel) (c : Nat) (x : Cpu) :
    (s.setCpu c x).initproc = s.initproc := rfl

@[simp] theorem Kernel.setCpu_fileRef (s : Kernel) (c : Nat) (x : Cpu) :
    (s.setCpu c x).fileRef = s.fileRef := rfl

end OsnScheduling
