import OsnScheduling.Lifecycle

/-!
The kernel as a transition system. A step is one lock section of one CPU: a step of its
`scheduler()`, or, while it runs `c->proc`, one operation of that process; the clock tick
and the other kernel code's wakeups, file calls and MLFQ level changes, which live outside
`proc.c`, are steps too. A step that would wait for a held lock is not enabled.
-/

namespace OsnScheduling

inductive Action
  | sched (c : Nat)
  | tick
  | wakeup (c : Nat) (ch : Chan)
  | fork (c : Nat) (page : Option (TrapFrame × Nat)) (copyOk : Bool)
  | forkLink (c : Nat)
  | forkRun (c : Nat)
  | exit (c : Nat) (status : Int)
  | wait (c : Nat) (addr : Nat) (copyOk : Bool)
  | sleep (c : Nat) (ch : Chan)
  | park (c : Nat)
  | yield (c : Nat)
  | kill (c : Nat) (pid : Int)
  | setPriority (c : Nat) (priority pid : Int)
  | growproc (c : Nat) (n : Int) (res : Nat)
  | fileOpen (c : Nat) (fd f : Nat)
  | fileClose (c : Nat) (fd : Nat)
  | trapLevel (c : Nat) (level : Nat) (ticks : Int)

def runningAt (cfg : Config) (s : Kernel) (c : Nat) (pc : CpuPc) : Option Nat :=
  match (s.cpus c).proc with
  | some i =>
    if c < cfg.ncpu ∧ (s.cpus c).pc = pc ∧ i < cfg.nproc ∧ (s.procs i).state = .running then
      some i
    else none
  | none => none

/-- Modelled from the spec: the clock interrupt (`trap.c`, not in the source) advances
`ticks` and runs `update_time`. -/
def tick (cfg : Config) (s : Kernel) : Kernel :=
  updateTime cfg { s with ticks := s.ticks + 1 }

@[simp] theorem tick_lock (cfg : Config) (s : Kernel) (j : Nat) :
    ((tick cfg s).procs j).lock = (s.procs j).lock := by
  simp [tick]

/-- Modelled from the spec: the descriptor calls of `sysfile.c` (not in the source)
install a file in a free descriptor of the caller, or close one, and count the
reference in the file table. -/
def fileOpen (s : Kernel) (i fd f : Nat) : Kernel :=
  let p := s.procs i
  let s := s.setProc i { p with ofile := Function.update p.ofile fd (some f) }
  { s with fileRef := Function.update s.fileRef f (s.fileRef f + 1) }

def fileClose (s : Kernel) (i fd f : Nat) : Kernel :=
  let p := s.procs i
  let s := s.setProc i { p with ofile := Function.update p.ofile fd none }
  { s with fileRef := Function.update s.fileRef f (s.fileRef f - 1) }

/-- Modelled from the spec: MLFQ's accounting in `trap.c` (not in the source) moves the
running process to another level of `Max_wait` and sets its tick count. -/
def trapLevel (s : Kernel) (i level : Nat) (n : Int) : Kernel :=
  s.setProc i { (s.procs i) with priorityNumber := level, noOfTicks := n }

def step (cfg : Config) (s : Kernel) : Action → Option Kernel
  | .sched c => if c < cfg.ncpu then schedStep cfg s c else none
  | .tick => if AllFree cfg s none then some (tick cfg s) else none
  | .wakeup c ch =>
    if c < cfg.ncpu ∧ ch.isProc = false ∧ AllFree cfg s (s.cpus c).proc then
      some (wakeup cfg s (s.cpus c).proc (some ch))
    else none
  | .fork c page copyOk =>
    match runningAt cfg s c .run with
    | some i =>
      if ScanFree cfg s unusedHit then
        match forkAlloc cfg s i page copyOk with
        | (some np, s) => some (s.setCpu c { (s.cpus c) with pc := .forkLink np })
        | (none, s) => some s
      else none
    | none => none
  | .forkLink c =>
    match (s.cpus c).pc with
    | .forkLink np =>
      match runningAt cfg s c (.forkLink np) with
      | some i => some ((forkLink s i np).setCpu c { (s.cpus c) with pc := .forkRun np })
      | none => none
    | _ => none
  | .forkRun c =>
    match (s.cpus c).pc with
    | .forkRun np =>
      match runningAt cfg s c (.forkRun np) with
      | some i =>
        if (s.procs np).lock = none then
          some ((forkRun cfg s i np).setCpu c { (s.cpus c) with pc := .run })
        else none
      | none => none
    | _ => none
  | .exit c status =>
    match runningAt cfg s c .run with
    | some i => if s.initproc ≠ some i ∧ AllFree cfg s none then some (exit cfg s c i status) else none
    | none => none
  | .wait c addr copyOk =>
    match runningAt cfg s c .run with
    | some i =>
      if WaitFree cfg s i then
        match waitScan cfg s i addr copyOk with
        | (some _, s) => some s
        | (none, s) => if (s.procs i).lock = none then some (sleepLock s c i (.proc i)) else none
      else none
    | none => none
  | .sleep c ch =>
    match runningAt cfg s c .run with
    | some i =>
      if ch.isProc = false ∧ (s.procs i).lock = none then some (sleepLock s c i ch) else none
    | none => none
  | .park c =>
    match (s.cpus c).pc with
    | .sleep ch =>
      match runningAt cfg s c (.sleep ch) with
      | some i => if HoldsOnly cfg s c i then some (park cfg s c i ch) else none
      | none => none
    | _ => none
  | .yield c =>
    match runningAt cfg s c .run with
    | some i => if (s.procs i).lock = none ∧ HoldsOnly cfg s c i then some (yield cfg s c i) else none
    | none => none
  | .kill c pid =>
    match runningAt cfg s c .run with
    | some _ => if ScanFree cfg s (pidHit pid) then some (kill cfg s pid).2 else none
    | none => none
  | .setPriority c priority pid =>
    match runningAt cfg s c .run with
    | some _ =>
      if ScanFree cfg s (priorityHit pid) then some (setPriorityI cfg s c priority pid).2 else none
    | none => none
  | .growproc c n res =>
    match runningAt cfg s c .run with
    | some i => some (growproc s i n res).2
    | none => none
  | .fileOpen c fd f =>
    match runningAt cfg s c .run with
    | some i => if fd < cfg.nofile ∧ (s.procs i).ofile fd = none then some (fileOpen s i fd f) else none
    | none => none
  | .fileClose c fd =>
    match runningAt cfg s c .run with
    | some i =>
      match (s.procs i).ofile fd with
      | some f => if fd < cfg.nofile then some (fileClose s i fd f) else none
      | none => none
    | none => none
  | .trapLevel c level n =>
    match runningAt cfg s c .run with
    | some i => if cfg.policy = .mlfq ∧ level < 5 then some (trapLevel s i level n) else none
    | none => none

inductive Reachable (cfg : Config) : Kernel → Prop
  | boot (tf : TrapFrame) (pt root : Nat) : Reachable cfg (boot cfg tf pt root)
  | step {s s' : Kernel} (a : Action) : Reachable cfg s → step cfg s a = some s' → Reachable cfg s'

def run (cfg : Config) (s : Kernel) : List Action → Option Kernel
  | [] => some s
  | a :: as => (step cfg s a).bind fun s => run cfg s as

theorem Reachable.run {cfg : Config} {s s' : Kernel} {as : List Action}
    (hs : Reachable cfg s) (h : OsnScheduling.run cfg s as = some s') : Reachable cfg s' := by
  induction as generalizing s with
  | nil => cases h; exact hs
  | cons a as ih =>
    simp only [OsnScheduling.run, Option.bind_eq_some] at h
    obtain ⟨t, ht, h⟩ := h
    exact ih (hs.step a ht) h

theorem exists_reachable_of_run {cfg : Config} {tf : TrapFrame} {pt root : Nat}
    {as : List Action} {bad : Kernel → Bool}
    (h : (OsnScheduling.run cfg (boot cfg tf pt root) as).map bad = some true) :
    ∃ s, Reachable cfg s ∧ bad s = true := by
  cases hr : OsnScheduling.run cfg (boot cfg tf pt root) as with
  | none => simp [hr] at h
  | some s =>
    simp only [hr, Option.map_some', Option.some.injEq] at h
    exact ⟨s, (Reachable.boot tf pt root).run hr, h⟩

theorem Reachable.run_getD {cfg : Config} {s : Kernel} (hs : Reachable cfg s) (as : List Action)
    (h : (OsnScheduling.run cfg s as).isSome) : Reachable cfg ((OsnScheduling.run cfg s as).getD s) := by
  cases hr : OsnScheduling.run cfg s as with
  | none => simp [hr] at h
  | some t => exact hs.run hr

/-- Sample kernels of three slots: the default policy on one CPU, MLFQ on two. -/
def sampleDefault : Config :=
  { nproc := 3, ncpu := 1, nofile := 2, pgsize := 4096, policy := .default,
    nproc_pos := by decide, ncpu_pos := by decide }

def sampleMlfq2 : Config := { sampleDefault with ncpu := 2, policy := .mlfq, ncpu_pos := by decide }

def sampleFrame : TrapFrame := ⟨0, 0, 0⟩

/-- A family on `sampleDefault`: `initproc` opens file 5 and forks two children that share it;
the first child runs and exits, and the scheduler's loop has reached the second. -/
def sampleFamily : Kernel :=
  (run sampleDefault (boot sampleDefault sampleFrame 0 1)
    [.sched 0, .sched 0, .fileOpen 0 0 5, .fork 0 (some (sampleFrame, 1)) true, .forkLink 0,
     .forkRun 0, .fork 0 (some (sampleFrame, 2)) true, .forkLink 0, .forkRun 0, .yield 0, .sched 0,
     .exit 0 7]).getD (boot sampleDefault sampleFrame 0 1)

theorem sampleFamily_reachable : Reachable sampleDefault sampleFamily :=
  (Reachable.boot sampleFrame 0 1).run_getD _ (by decide)

end OsnScheduling
