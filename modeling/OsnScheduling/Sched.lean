import OsnScheduling.Table

/-!
`sched`, `yield`, `sleep` and the four `scheduler()` loops, each cut into the steps a CPU
takes between lock sections: one table slot per step for the DEFAULT, FCFS and PBS loops,
and for MLFQ the lock-free scan, one round-robin probe, and the dispatch.
-/

namespace OsnScheduling

/-- Where `scheduler()` resumes once the process in slot `i` has switched back to it:
DEFAULT clears `c->proc` and goes on with the next slot; the other loops leave `c->proc`
set until their top. -/
def Cpu.resume (pol : Policy) (x : Cpu) (i : Nat) : Cpu :=
  match pol with
  | .default => { x with proc := none, pc := .loop (i + 1) }
  | _ => { x with pc := .top }

/-- `sched()` by the process `i` running on CPU `c`; the scheduler releases `p->lock`
after its `swtch`. -/
def switchOut (cfg : Config) (s : Kernel) (c i : Nat) : Kernel :=
  (s.setProc i { (s.procs i) with lock := none }).setCpu c ((s.cpus c).resume cfg.policy i)

/-- `sched()`'s check `mycpu()->noff == 1`: of the slot locks, CPU `c` holds `i`'s at most;
with another one held `sched()` panics with "sched locks". -/
def HoldsOnly (cfg : Config) (s : Kernel) (c i : Nat) : Prop :=
  ∀ k < cfg.nproc, (s.procs k).lock = some c → k = i

instance (cfg : Config) (s : Kernel) (c i : Nat) : Decidable (HoldsOnly cfg s c i) :=
  inferInstanceAs (Decidable (∀ k < cfg.nproc, _))

theorem switchOut_procs (cfg : Config) (s : Kernel) (c i j : Nat) :
    (switchOut cfg s c i).procs j = { (s.procs j) with lock := ((switchOut cfg s c i).procs j).lock } := by
  simp only [switchOut, Kernel.setCpu_procs, Kernel.setProc_procs, Function.update_apply]
  split_ifs <;> subst_vars <;> rfl

theorem switchOut_procs_ne (cfg : Config) (s : Kernel) (c : Nat) {i j : Nat} (h : j ≠ i) :
    (switchOut cfg s c i).procs j = s.procs j := by
  simp [switchOut, Function.update_noteq h]

theorem switchOut_lock (cfg : Config) (s : Kernel) (c i j : Nat) :
    ((switchOut cfg s c i).procs j).lock = if j = i then none else (s.procs j).lock := by
  simp only [switchOut, Kernel.setCpu_procs, Kernel.setProc_procs, Function.update_apply]
  split_ifs <;> rfl

@[simp] theorem switchOut_state (cfg : Config) (s : Kernel) (c i j : Nat) :
    ((switchOut cfg s c i).procs j).state = (s.procs j).state := by
  simp only [switchOut, Kernel.setCpu_procs, Kernel.setProc_procs, Function.update_apply]
  split_ifs <;> simp_all

@[simp] theorem switchOut_parent (cfg : Config) (s : Kernel) (c i j : Nat) :
    ((switchOut cfg s c i).procs j).parent = (s.procs j).parent := by
  simp only [switchOut, Kernel.setCpu_procs, Kernel.setProc_procs, Function.update_apply]
  split_ifs <;> simp_all

@[simp] theorem switchOut_chan (cfg : Config) (s : Kernel) (c i j : Nat) :
    ((switchOut cfg s c i).procs j).chan = (s.procs j).chan := by
  simp only [switchOut, Kernel.setCpu_procs, Kernel.setProc_procs, Function.update_apply]
  split_ifs <;> simp_all

@[simp] theorem switchOut_cpus_self (cfg : Config) (s : Kernel) (c i : Nat) :
    (switchOut cfg s c i).cpus c = (s.cpus c).resume cfg.policy i := by
  simp [switchOut]

theorem switchOut_cpus_ne (cfg : Config) (s : Kernel) {c c' : Nat} (i : Nat) (e : c' ≠ c) :
    (switchOut cfg s c i).cpus c' = s.cpus c' := by
  simp [switchOut, Function.update_noteq e]

def yield (cfg : Config) (s : Kernel) (c i : Nat) : Kernel :=
  switchOut cfg (s.setProc i { (s.procs i) with state := .runnable }) c i

/-- The first half of `sleep(chan, lk)`: take `p->lock`, then drop `lk`. -/
def sleepLock (s : Kernel) (c i : Nat) (ch : Chan) : Kernel :=
  (s.setProc i { (s.procs i) with lock := some c }).setCpu c { (s.cpus c) with pc := .sleep ch }

theorem sleepLock_procs (s : Kernel) (c i : Nat) (ch : Chan) (j : Nat) :
    (sleepLock s c i ch).procs j = { (s.procs j) with lock := ((sleepLock s c i ch).procs j).lock } := by
  simp only [sleepLock, Kernel.setCpu_procs, Kernel.setProc_procs, Function.update_apply]
  split_ifs <;> subst_vars <;> rfl

@[simp] theorem sleepLock_cpus_self (s : Kernel) (c i : Nat) (ch : Chan) :
    (sleepLock s c i ch).cpus c = { (s.cpus c) with pc := .sleep ch } := by
  simp [sleepLock]

theorem sleepLock_cpus_ne (s : Kernel) {c c' : Nat} (i : Nat) (ch : Chan) (e : c' ≠ c) :
    (sleepLock s c i ch).cpus c' = s.cpus c' := by
  simp [sleepLock, Function.update_noteq e]

@[simp] theorem sleepLock_state (s : Kernel) (c i : Nat) (ch : Chan) (j : Nat) :
    ((sleepLock s c i ch).procs j).state = (s.procs j).state := by
  simp only [sleepLock, Kernel.setCpu_procs, Kernel.setProc_procs, Function.update_apply]
  split_ifs <;> simp_all

@[simp] theorem sleepLock_parent (s : Kernel) (c i : Nat) (ch : Chan) (j : Nat) :
    ((sleepLock s c i ch).procs j).parent = (s.procs j).parent := by
  simp only [sleepLock, Kernel.setCpu_procs, Kernel.setProc_procs, Function.update_apply]
  split_ifs <;> simp_all

@[simp] theorem sleepLock_chan (s : Kernel) (c i : Nat) (ch : Chan) (j : Nat) :
    ((sleepLock s c i ch).procs j).chan = (s.procs j).chan := by
  simp only [sleepLock, Kernel.setCpu_procs, Kernel.setProc_procs, Function.update_apply]
  split_ifs <;> simp_all

def Proc.sleepOn (pol : Policy) (ticks : Nat) (ch : Chan) (p : Proc) : Proc :=
  match pol with
  | .pbs => { p with chan := some ch, state := .sleeping, runningTime := ticks - p.runningTime,
                     sleepingTime := ticks }
  | _ => { p with chan := some ch, state := .sleeping }

@[simp] theorem Proc.sleepOn_eq (pol : Policy) (ticks : Nat) (ch : Chan) (p : Proc) :
    p.sleepOn pol ticks ch =
      { p with chan := some ch, state := .sleeping,
               runningTime := if pol = .pbs then ticks - p.runningTime else p.runningTime,
               sleepingTime := if pol = .pbs then ticks else p.sleepingTime } := by
  cases pol <;> rfl

/-- The second half of `sleep`: record the channel, go SLEEPING and call `sched()`. -/
def park (cfg : Config) (s : Kernel) (c i : Nat) (ch : Chan) : Kernel :=
  switchOut cfg (s.setProc i ((s.procs i).sleepOn cfg.policy s.ticks ch)) c i

/-- The fields a scheduler sets on the slot it dispatches. -/
def Proc.onDispatch (pol : Policy) (ticks : Nat) (p : Proc) : Proc :=
  match pol with
  | .pbs => { p with timesScheduled := p.timesScheduled + 1, sleepingTime := 0,
                     runningTime := ticks }
  | .mlfq => { p with timeAdded := 0, noTimes := p.noTimes + 1 }
  | _ => p

@[simp] theorem Proc.onDispatch_eq (pol : Policy) (ticks : Nat) (p : Proc) :
    p.onDispatch pol ticks =
      { p with timesScheduled := if pol = .pbs then p.timesScheduled + 1 else p.timesScheduled,
               sleepingTime := if pol = .pbs then 0 else p.sleepingTime,
               runningTime := if pol = .pbs then ticks else p.runningTime,
               timeAdded := if pol = .mlfq then 0 else p.timeAdded,
               noTimes := if pol = .mlfq then p.noTimes + 1 else p.noTimes } := by
  cases pol <;> rfl

/-- CPU `c` switches to slot `j`, set to `p`: the resumed thread ends `sleep`
(`p->chan = 0`) or runs `forkret`, and releases `p->lock`. -/
def dispatch (s : Kernel) (c j : Nat) (p : Proc) : Kernel :=
  (s.setProc j { p with state := .running, chan := none, lock := none }).setCpu c
    { (s.cpus c) with proc := some j, pc := .run }

/-- A slot whose saved context `swtch` can resume: `sched()` of a process that yields or
sleeps, or `forkret` of a new one. A ZOMBIE, and a slot freed after its exit, resume in
`exit()` after `sched()`, at `panic("zombie exit")`. -/
def ProcState.resumable : ProcState → Bool
  | .unused | .zombie => false
  | _ => true

/-- CPU `c` switches to slot `j`, set to `p`, whose thread panics: the CPU stops holding
`p->lock`. -/
def halt (s : Kernel) (c j : Nat) (p : Proc) : Kernel :=
  (s.setProc j { p with state := .running, lock := some c }).setCpu c
    { (s.cpus c) with proc := some j, pc := .halted }

def lockStep (s : Kernel) (c k : Nat) (rel : Option Nat) : Kernel :=
  let s := s.setProc k { (s.procs k) with lock := some c }
  match rel with
  | some r => s.setProc r { (s.procs r) with lock := none }
  | none => s

theorem lockStep_procs (s : Kernel) (c k : Nat) (rel : Option Nat) (j : Nat) :
    (lockStep s c k rel).procs j = { (s.procs j) with lock := ((lockStep s c k rel).procs j).lock } := by
  unfold lockStep
  split <;> simp only [Kernel.setProc_procs, Function.update_apply] <;> split_ifs <;> subst_vars <;> rfl

@[simp] theorem lockStep_state (s : Kernel) (c k : Nat) (rel : Option Nat) (j : Nat) :
    ((lockStep s c k rel).procs j).state = (s.procs j).state := by
  unfold lockStep
  split <;> simp only [Kernel.setProc_procs, Function.update_apply] <;> split_ifs <;> simp_all

@[simp] theorem lockStep_parent (s : Kernel) (c k : Nat) (rel : Option Nat) (j : Nat) :
    ((lockStep s c k rel).procs j).parent = (s.procs j).parent := by
  unfold lockStep
  split <;> simp only [Kernel.setProc_procs, Function.update_apply] <;> split_ifs <;> simp_all

@[simp] theorem lockStep_chan (s : Kernel) (c k : Nat) (rel : Option Nat) (j : Nat) :
    ((lockStep s c k rel).procs j).chan = (s.procs j).chan := by
  unfold lockStep
  split <;> simp only [Kernel.setProc_procs, Function.update_apply] <;> split_ifs <;> simp_all

@[simp] theorem lockStep_cpus (s : Kernel) (c k : Nat) (rel : Option Nat) :
    (lockStep s c k rel).cpus = s.cpus := by
  unfold lockStep; split <;> rfl

/-- One iteration of the FCFS table loop at slot `k`, holding its lock: the new
`First_start` and `ToBeScheduled`, and the lock released (`none`: `k`'s is kept). -/
def fcfsIter (k : Nat) (p : Proc) (firstStart : Int) (tbs : Option Nat) :
    Int × Option Nat × Option Nat :=
  if p.state = .runnable then
    if firstStart = -1 then (p.startTime, some k, none)
    else if p.startTime < firstStart then (p.startTime, some k, tbs)
    else (firstStart, tbs, some k)
  else (firstStart, tbs, some k)

theorem fcfsIter_cases (k : Nat) (p : Proc) (firstStart : Int) (tbs : Option Nat) :
    p.state = .runnable ∧ (fcfsIter k p firstStart tbs).2.1 = some k ∧
      ((fcfsIter k p firstStart tbs).2.2 = none ∨
        firstStart ≠ -1 ∧ (fcfsIter k p firstStart tbs).2.2 = tbs) ∨
      (fcfsIter k p firstStart tbs).1 = firstStart ∧ (fcfsIter k p firstStart tbs).2.1 = tbs ∧
        (fcfsIter k p firstStart tbs).2.2 = some k := by
  unfold fcfsIter; split_ifs <;> simp_all

def pbsIter (k : Nat) (p : Proc) (cand : Option Proc) (intialized : Int) (tbs : Option Nat) :
    Int × Option Nat × Option Nat :=
  if p.state = .runnable then
    if intialized = -1 then (0, some k, none)
    else if (cand.map fun q => decide (pcbCompare q p > 0)) = some true then
      (intialized, some k, tbs)
    else (intialized, tbs, some k)
  else (intialized, tbs, some k)

theorem pbsIter_cases (k : Nat) (p : Proc) (cand : Option Proc) (intialized : Int)
    (tbs : Option Nat) :
    p.state = .runnable ∧ (pbsIter k p cand intialized tbs).2.1 = some k ∧
      ((pbsIter k p cand intialized tbs).2.2 = none ∨
        intialized ≠ -1 ∧ (pbsIter k p cand intialized tbs).2.2 = tbs) ∨
      (pbsIter k p cand intialized tbs).1 = intialized ∧
        (pbsIter k p cand intialized tbs).2.1 = tbs ∧ (pbsIter k p cand intialized tbs).2.2 = some k := by
  unfold pbsIter; split_ifs <;> simp_all

/-- FCFS or PBS has a candidate: `First_start` or `intialized` is no longer -1. -/
def Scanning (pol : Policy) (x : Cpu) : Prop :=
  (pol = .fcfs ∧ x.firstStart ≠ -1) ∨ (pol = .pbs ∧ x.intialized ≠ -1)

instance (pol : Policy) (x : Cpu) : Decidable (Scanning pol x) :=
  inferInstanceAs (Decidable (_ ∨ _))

theorem Scanning.policy {pol : Policy} {x : Cpu} (h : Scanning pol x) : pol = .fcfs ∨ pol = .pbs :=
  h.imp And.left And.left

/-- One step of `scheduler()` on CPU `c`; `none` while it spins on a held lock. -/
def schedStep (cfg : Config) (s : Kernel) (c : Nat) : Option Kernel :=
  let x := s.cpus c
  match cfg.policy, x.pc with
  | .default, .top => some (s.setCpu c { x with pc := .loop 0 })
  | .default, .loop k =>
    if k < cfg.nproc then
      if (s.procs k).lock = none then
        if (s.procs k).state = .runnable then some (dispatch s c k (s.procs k))
        else some (s.setCpu c { x with pc := .loop (k + 1) })
      else none
    else some (s.setCpu c { x with pc := .top })
  | .fcfs, .top => some (s.setCpu c { x with proc := none, firstStart := -1, pc := .loop 0 })
  | .fcfs, .loop k =>
    if k < cfg.nproc then
      if (s.procs k).lock = none then
        let r := fcfsIter k (s.procs k) x.firstStart x.toBeScheduled
        some ((lockStep s c k r.2.2).setCpu c
          { x with firstStart := r.1, toBeScheduled := r.2.1, pc := .loop (k + 1) })
      else none
    else if x.firstStart = -1 then some (s.setCpu c { x with pc := .top })
    else match x.toBeScheduled with
      | some j => some (dispatch s c j (s.procs j))
      | none => none
  | .pbs, .top => some (s.setCpu c { x with proc := none, intialized := -1, pc := .loop 0 })
  | .pbs, .loop k =>
    if k < cfg.nproc then
      if (s.procs k).lock = none then
        let r := pbsIter k (s.procs k) (x.toBeScheduled.map s.procs) x.intialized x.toBeScheduled
        some ((lockStep s c k r.2.2).setCpu c
          { x with intialized := r.1, toBeScheduled := r.2.1, pc := .loop (k + 1) })
      else none
    else if x.intialized = -1 then some (s.setCpu c { x with pc := .top })
    else match x.toBeScheduled with
      | some j => some (dispatch s c j ((s.procs j).onDispatch .pbs s.ticks))
      | none => none
  | .mlfq, .top =>
    let s := upgradePolicy cfg s
    match levelScan cfg s with
    | some j => some (s.setCpu c { x with proc := none, toBeScheduled := some j, pc := .pick })
    | none => some (s.setCpu c { x with proc := none, pc := .rr })
  | .mlfq, .rr =>
    if (s.procs x.rrS).state = .runnable then
      some (s.setCpu c
        { x with toBeScheduled := some x.rrS, rrS := (x.rrS + 1) % cfg.nproc, pc := .pick })
    else some (s.setCpu c { x with rrS := (x.rrS + 1) % cfg.nproc })
  | .mlfq, .pick =>
    match x.toBeScheduled with
    | some j =>
      if (s.procs j).lock = none then
        if (s.procs j).state.resumable then some (dispatch s c j ((s.procs j).onDispatch .mlfq s.ticks))
        else some (halt s c j ((s.procs j).onDispatch .mlfq s.ticks))
      else none
    | none => none
  | _, _ => none

end OsnScheduling
