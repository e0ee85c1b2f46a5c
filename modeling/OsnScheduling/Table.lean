import OsnScheduling.Proc

/-!
The table-wide routines of `kernel/proc.c` that the lifecycle calls and the schedulers
share: the slot scans, `freeproc`, `allocpid`, `allocproc`, `wakeup`, `reparent`, `kill`,
`update_time`, the PBS priority and comparison, `set_priority_i` and `UpgradePolicy`.
-/

namespace OsnScheduling

/-- The loop `for(p = proc + i; n slots; p++) if(hit(p)) break;`. -/
def firstFrom (s : Kernel) (hit : Proc → Bool) : Nat → Nat → Option Nat
  | _, 0 => none
  | i, n + 1 => if hit (s.procs i) then some i else firstFrom s hit (i + 1) n

def firstSlot (cfg : Config) (s : Kernel) (hit : Proc → Bool) : Option Nat :=
  firstFrom s hit 0 cfg.nproc

theorem firstFrom_eq_some {s : Kernel} {hit : Proc → Bool} {i n j : Nat} :
    firstFrom s hit i n = some j ↔
      i ≤ j ∧ j < i + n ∧ hit (s.procs j) = true ∧
        ∀ k, i ≤ k → k < j → hit (s.procs k) = false := by
  induction n generalizing i with
  | zero => simp [firstFrom]; omega
  | succ n ih =>
    by_cases h : hit (s.procs i) = true
    · simp only [firstFrom, h, ↓reduceIte, Option.some.injEq]
      constructor
      · rintro rfl; exact ⟨le_rfl, by omega, h, fun k h1 h2 => by omega⟩
      · rintro ⟨h1, -, -, hk⟩
        by_contra hne
        have := hk i le_rfl (by omega)
        simp_all
    · simp only [firstFrom, h, Bool.false_eq_true, ↓reduceIte, ih]
      constructor
      · rintro ⟨h1, h2, h3, hk⟩
        refine ⟨by omega, by omega, h3, fun k hk1 hk2 => ?_⟩
        rcases Nat.eq_or_lt_of_le hk1 with rfl | hk1
        · simpa using h
        · exact hk k hk1 hk2
      · rintro ⟨h1, h2, h3, hk⟩
        rcases Nat.eq_or_lt_of_le h1 with rfl | h1
        · exact absurd h3 h
        · exact ⟨h1, by omega, h3, fun k hk1 hk2 => hk k (by omega) hk2⟩

theorem firstFrom_eq_none {s : Kernel} {hit : Proc → Bool} {i n : Nat} :
    firstFrom s hit i n = none ↔ ∀ k, i ≤ k → k < i + n → hit (s.procs k) = false := by
  induction n generalizing i with
  | zero => simp [firstFrom]; omega
  | succ n ih =>
    by_cases h : hit (s.procs i) = true
    · simp only [firstFrom, h, ↓reduceIte, reduceCtorEq, false_iff, not_forall]
      exact ⟨i, le_rfl, by omega, by simp [h]⟩
    · simp only [firstFrom, h, Bool.false_eq_true, ↓reduceIte, ih]
      constructor
      · intro hk k hk1 hk2
        rcases Nat.eq_or_lt_of_le hk1 with rfl | hk1
        · simpa using h
        · exact hk k hk1 (by omega)
      · exact fun hk k hk1 hk2 => hk k (by omega) (by omega)

theorem firstSlot_eq_some {cfg : Config} {s : Kernel} {hit : Proc → Bool} {j : Nat} :
    firstSlot cfg s hit = some j ↔
      j < cfg.nproc ∧ hit (s.procs j) = true ∧ ∀ k < j, hit (s.procs k) = false := by
  simp [firstSlot, firstFrom_eq_some]

theorem firstSlot_eq_none {cfg : Config} {s : Kernel} {hit : Proc → Bool} :
    firstSlot cfg s hit = none ↔ ∀ k < cfg.nproc, hit (s.procs k) = false := by
  simp [firstSlot, firstFrom_eq_none]

def ScanFree (cfg : Config) (s : Kernel) (hit : Proc → Bool) : Prop :=
  ∀ j < cfg.nproc, (∀ k < j, hit (s.procs k) = false) → (s.procs j).lock = none

instance (cfg : Config) (s : Kernel) (hit : Proc → Bool) : Decidable (ScanFree cfg s hit) :=
  inferInstanceAs (Decidable (∀ j < cfg.nproc, _))

def AllFree (cfg : Config) (s : Kernel) (skip : Option Nat) : Prop :=
  ∀ j < cfg.nproc, some j ≠ skip → (s.procs j).lock = none

instance (cfg : Config) (s : Kernel) (skip : Option Nat) : Decidable (AllFree cfg s skip) :=
  inferInstanceAs (Decidable (∀ j < cfg.nproc, _))

def freeproc (p : Proc) : Proc :=
  { p with trapframe := none, pagetable := none, sz := 0, pid := 0, parent := none, name := "",
           chan := none, killed := false, xstate := 0, state := .unused }

@[simp] theorem freeproc_lock (p : Proc) : (freeproc p).lock = p.lock := rfl

def allocpid (s : Kernel) : Int × Kernel :=
  (int32 s.nextpid, { s with nextpid := s.nextpid + 1 })

/-- The `#ifdef` blocks at the end of `allocproc`; the `int` field `start_time` takes the
`uint` `ticks` with the two's complement wrap. -/
def Proc.initPolicy (pol : Policy) (ticks : Nat) (p : Proc) : Proc :=
  match pol with
  | .default => p
  | .fcfs => { p with startTime := int32 ticks }
  | .pbs => { p with staticPriority := 60, timesScheduled := 0, startTime := int32 ticks,
                     runningTime := -1, sleepingTime := -1 }
  | .mlfq => { p with priorityNumber := 0, timeAdded := ticks, noOfTicks := 0, noTimes := 0 }

@[simp] theorem Proc.initPolicy_eq (pol : Policy) (ticks : Nat) (p : Proc) :
    p.initPolicy pol ticks =
      { p with startTime := if pol = .fcfs ∨ pol = .pbs then int32 ticks else p.startTime,
               staticPriority := if pol = .pbs then 60 else p.staticPriority,
               timesScheduled := if pol = .pbs then 0 else p.timesScheduled,
               runningTime := if pol = .pbs then -1 else p.runningTime,
               sleepingTime := if pol = .pbs then -1 else p.sleepingTime,
               priorityNumber := if pol = .mlfq then 0 else p.priorityNumber,
               timeAdded := if pol = .mlfq then ticks else p.timeAdded,
               noOfTicks := if pol = .mlfq then 0 else p.noOfTicks,
               noTimes := if pol = .mlfq then 0 else p.noTimes } := by
  cases pol <;> simp [Proc.initPolicy]

def unusedHit (p : Proc) : Bool := p.state == .unused

/-- `allocproc`. `page` is what `kalloc` and `proc_pagetable` return, `none` when either
fails, in which case `freeproc` gives the slot back. -/
def allocproc (cfg : Config) (s : Kernel) (page : Option (TrapFrame × Nat)) :
    Option Nat × Kernel :=
  match firstSlot cfg s unusedHit with
  | none => (none, s)
  | some i =>
    let (pid, s) := allocpid s
    let p := { (s.procs i) with pid := pid, state := .used, trace := 0 }
    match page with
    | none => (none, s.setProc i (freeproc p))
    | some (tf, pt) =>
      (some i, s.setProc i (Proc.initPolicy cfg.policy s.ticks
        { p with trapframe := some tf, pagetable := some pt, rtime := 0, etime := 0,
                 ctime := s.ticks }))

theorem allocproc_cases (cfg : Config) (s : Kernel) (page : Option (TrapFrame × Nat)) :
    allocproc cfg s page = (none, s) ∨
    ∃ i, firstSlot cfg s unusedHit = some i ∧
      (allocproc cfg s page = (none, ({ s with nextpid := s.nextpid + 1 }).setProc i
          (freeproc { (s.procs i) with pid := int32 s.nextpid, state := .used, trace := 0 })) ∨
        ∃ tf pt, page = some (tf, pt) ∧
          allocproc cfg s page = (some i, ({ s with nextpid := s.nextpid + 1 }).setProc i
            (Proc.initPolicy cfg.policy s.ticks
              { (s.procs i) with pid := int32 s.nextpid, state := .used, trace := 0,
                                 trapframe := some tf, pagetable := some pt, rtime := 0, etime := 0,
                                 ctime := s.ticks }))) := by
  unfold allocproc
  split
  · exact .inl rfl
  · rename_i i hi
    rcases page with _ | ⟨tf, pt⟩
    · exact .inr ⟨i, hi, .inl rfl⟩
    · exact .inr ⟨i, hi, .inr ⟨tf, pt, rfl, rfl⟩⟩

theorem allocproc_snd (cfg : Config) (s : Kernel) (page : Option (TrapFrame × Nat)) :
    (allocproc cfg s page).2 =
      { s with procs := (allocproc cfg s page).2.procs, nextpid := (allocproc cfg s page).2.nextpid } := by
  rcases allocproc_cases cfg s page with e | ⟨i, -, e | ⟨tf, pt, -, e⟩⟩ <;> rw [e] <;> rfl

@[simp] theorem allocproc_cpus (cfg : Config) (s : Kernel) (page : Option (TrapFrame × Nat)) :
    (allocproc cfg s page).2.cpus = s.cpus := by
  rw [allocproc_snd]

@[simp] theorem allocproc_ticks (cfg : Config) (s : Kernel) (page : Option (TrapFrame × Nat)) :
    (allocproc cfg s page).2.ticks = s.ticks := by
  rw [allocproc_snd]

@[simp] theorem allocproc_initproc (cfg : Config) (s : Kernel) (page : Option (TrapFrame × Nat)) :
    (allocproc cfg s page).2.initproc = s.initproc := by
  rw [allocproc_snd]

@[simp] theorem allocproc_fileRef (cfg : Config) (s : Kernel) (page : Option (TrapFrame × Nat)) :
    (allocproc cfg s page).2.fileRef = s.fileRef := by
  rw [allocproc_snd]

theorem allocproc_lock_ofile (cfg : Config) (s : Kernel) (page : Option (TrapFrame × Nat))
    (j : Nat) : ((allocproc cfg s page).2.procs j).lock = (s.procs j).lock ∧
      ((allocproc cfg s page).2.procs j).ofile = (s.procs j).ofile := by
  rcases allocproc_cases cfg s page with e | ⟨i, -, e | ⟨tf, pt, -, e⟩⟩ <;> rw [e]
  · exact ⟨rfl, rfl⟩
  all_goals
    simp only [Kernel.setProc_procs, Function.update_apply]
    split_ifs with hj
    · subst hj; simp [freeproc]
    · exact ⟨rfl, rfl⟩

@[simp] theorem allocproc_lock (cfg : Config) (s : Kernel) (page : Option (TrapFrame × Nat))
    (j : Nat) : ((allocproc cfg s page).2.procs j).lock = (s.procs j).lock :=
  (allocproc_lock_ofile cfg s page j).1

@[simp] theorem allocproc_ofile (cfg : Config) (s : Kernel) (page : Option (TrapFrame × Nat))
    (j : Nat) : ((allocproc cfg s page).2.procs j).ofile = (s.procs j).ofile :=
  (allocproc_lock_ofile cfg s page j).2

theorem allocproc_procs_of_ne {cfg : Config} {s : Kernel} {page : Option (TrapFrame × Nat)}
    {j : Nat} (h : (s.procs j).state ≠ .unused) : (allocproc cfg s page).2.procs j = s.procs j := by
  rcases allocproc_cases cfg s page with e | ⟨i, hi, e | ⟨tf, pt, -, e⟩⟩ <;> rw [e]
  all_goals
    have hij : j ≠ i := by
      rintro rfl; simpa [unusedHit, h] using (firstSlot_eq_some.mp hi).2.1
    simp [Function.update_noteq hij]

theorem allocproc_some {cfg : Config} {s : Kernel} {page : Option (TrapFrame × Nat)} {np : Nat}
    (h : (allocproc cfg s page).1 = some np) :
    np < cfg.nproc ∧ (s.procs np).state = .unused ∧
      ((allocproc cfg s page).2.procs np).state = .used ∧
      ((allocproc cfg s page).2.procs np).parent = (s.procs np).parent := by
  rcases allocproc_cases cfg s page with e | ⟨i, hi, e | ⟨tf, pt, -, e⟩⟩ <;> rw [e] at h ⊢ <;>
    cases h
  obtain ⟨hlt, hu, -⟩ := firstSlot_eq_some.mp hi
  exact ⟨hlt, by simpa [unusedHit] using hu, by simp, by simp⟩

theorem allocproc_state_of_unused {cfg : Config} {s : Kernel} {page : Option (TrapFrame × Nat)}
    {j : Nat} (h : (s.procs j).state = .unused) :
    ((allocproc cfg s page).2.procs j).state = .used ∨
      ((allocproc cfg s page).2.procs j).state = .unused := by
  rcases allocproc_cases cfg s page with e | ⟨i, -, e | ⟨tf, pt, -, e⟩⟩ <;> rw [e]
  · exact .inr h
  all_goals
    simp only [Kernel.setProc_procs, Function.update_apply]
    split_ifs
    · simp [freeproc]
    · exact .inr h

theorem allocproc_startTime (cfg : Config) (s : Kernel) (page : Option (TrapFrame × Nat)) (j : Nat) :
    ((allocproc cfg s page).2.procs j).startTime = (s.procs j).startTime ∨
      (s.procs j).state = .unused ∧ ((allocproc cfg s page).2.procs j).startTime = int32 s.ticks := by
  rcases allocproc_cases cfg s page with e | ⟨i, hi, e | ⟨tf, pt, -, e⟩⟩ <;> rw [e]
  · exact .inl rfl
  all_goals
    simp only [Kernel.setProc_procs, Function.update_apply]
    split_ifs with hj
  · subst hj; exact .inl rfl
  · exact .inl rfl
  · subst hj; simp only [Proc.initPolicy_eq]; split_ifs
    · exact .inr ⟨by simpa [unusedHit] using (firstSlot_eq_some.mp hi).2.1, rfl⟩
    · exact .inl rfl
  · exact .inl rfl

theorem allocproc_unused {cfg : Config} {s : Kernel} {page : Option (TrapFrame × Nat)} {j : Nat}
    (h : ((allocproc cfg s page).2.procs j).state = .unused) :
    ((allocproc cfg s page).2.procs j).parent = none ∨ (allocproc cfg s page).2.procs j = s.procs j := by
  rcases allocproc_cases cfg s page with e | ⟨i, -, e | ⟨tf, pt, -, e⟩⟩ <;> rw [e] at h ⊢
  · exact .inr rfl
  · -- the slot `freeproc` gave back has no parent
    simp only [Kernel.setProc_procs, Function.update_apply]
    split_ifs
    · exact .inl rfl
    · exact .inr rfl
  · -- the new process is USED
    simp only [Kernel.setProc_procs, Function.update_apply] at h ⊢
    split_ifs at h ⊢
    · simp at h
    · exact .inr rfl

def Proc.wake (pol : Policy) (ticks : Nat) (p : Proc) : Proc :=
  match pol with
  | .pbs => { p with state := .runnable, sleepingTime := ticks - p.sleepingTime }
  | .mlfq => { p with state := .runnable, timeAdded := ticks, noOfTicks := 0 }
  | _ => { p with state := .runnable }

@[simp] theorem Proc.wake_eq (pol : Policy) (ticks : Nat) (p : Proc) :
    p.wake pol ticks =
      { p with state := .runnable,
               sleepingTime := if pol = .pbs then ticks - p.sleepingTime else p.sleepingTime,
               timeAdded := if pol = .mlfq then ticks else p.timeAdded,
               noOfTicks := if pol = .mlfq then 0 else p.noOfTicks } := by
  cases pol <;> rfl

def WakeHit (cfg : Config) (s : Kernel) (me : Option Nat) (chan : Option Chan) (j : Nat) : Prop :=
  j < cfg.nproc ∧ some j ≠ me ∧ (s.procs j).state = .sleeping ∧ (s.procs j).chan = chan

instance (cfg : Config) (s : Kernel) (me : Option Nat) (chan : Option Chan) (j : Nat) :
    Decidable (WakeHit cfg s me chan j) :=
  inferInstanceAs (Decidable (_ ∧ _))

/-- `wakeup(chan)` called with `myproc() = me`. -/
def wakeup (cfg : Config) (s : Kernel) (me : Option Nat) (chan : Option Chan) : Kernel :=
  s.mapProcs fun j p => if WakeHit cfg s me chan j then p.wake cfg.policy s.ticks else p

@[simp] theorem wakeup_cpus (cfg : Config) (s : Kernel) (me : Option Nat) (chan : Option Chan) :
    (wakeup cfg s me chan).cpus = s.cpus := rfl

@[simp] theorem wakeup_lock (cfg : Config) (s : Kernel) (me : Option Nat) (chan : Option Chan)
    (j : Nat) : ((wakeup cfg s me chan).procs j).lock = (s.procs j).lock := by
  simp only [wakeup, Kernel.mapProcs_procs]; split_ifs <;> simp

@[simp] theorem wakeup_parent (cfg : Config) (s : Kernel) (me : Option Nat) (chan : Option Chan)
    (j : Nat) : ((wakeup cfg s me chan).procs j).parent = (s.procs j).parent := by
  simp only [wakeup, Kernel.mapProcs_procs]; split_ifs <;> simp

@[simp] theorem wakeup_chan (cfg : Config) (s : Kernel) (me : Option Nat) (chan : Option Chan)
    (j : Nat) : ((wakeup cfg s me chan).procs j).chan = (s.procs j).chan := by
  simp only [wakeup, Kernel.mapProcs_procs]; split_ifs <;> simp

theorem wakeup_state (cfg : Config) (s : Kernel) (me : Option Nat) (chan : Option Chan) (j : Nat) :
    ((wakeup cfg s me chan).procs j).state =
      if WakeHit cfg s me chan j then .runnable else (s.procs j).state := by
  simp only [wakeup, Kernel.mapProcs_procs]; split_ifs <;> simp

theorem wakeup_state_cases (cfg : Config) (s : Kernel) (me : Option Nat) (chan : Option Chan)
    (j : Nat) : ((wakeup cfg s me chan).procs j).state = (s.procs j).state ∨
      (s.procs j).state = .sleeping ∧ ((wakeup cfg s me chan).procs j).state = .runnable := by
  rw [wakeup_state]
  split_ifs with hw
  · exact .inr ⟨hw.2.2.1, rfl⟩
  · exact .inl rfl

theorem wakeup_procs (cfg : Config) (s : Kernel) (me : Option Nat) (chan : Option Chan) (j : Nat) :
    (wakeup cfg s me chan).procs j =
      { (s.procs j) with
        state := ((wakeup cfg s me chan).procs j).state,
        sleepingTime := ((wakeup cfg s me chan).procs j).sleepingTime,
        timeAdded := ((wakeup cfg s me chan).procs j).timeAdded,
        noOfTicks := ((wakeup cfg s me chan).procs j).noOfTicks } := by
  simp only [wakeup, Kernel.mapProcs_procs]; split_ifs <;> simp only [Proc.wake_eq]

theorem wakeup_procs_of_ne_sleeping {cfg : Config} {s : Kernel} {me : Option Nat} {chan : Option Chan}
    {j : Nat} (h : (s.procs j).state ≠ .sleeping) : (wakeup cfg s me chan).procs j = s.procs j := by
  simp [wakeup, WakeHit, h]

@[simp] theorem wakeup_procs_me (cfg : Config) (s : Kernel) (i : Nat) (chan : Option Chan) :
    (wakeup cfg s (some i) chan).procs i = s.procs i := by
  simp [wakeup, WakeHit]

@[simp] theorem wakeup_ticks (cfg : Config) (s : Kernel) (me : Option Nat) (chan : Option Chan) :
    (wakeup cfg s me chan).ticks = s.ticks := rfl

@[simp] theorem wakeup_nextpid (cfg : Config) (s : Kernel) (me : Option Nat) (chan : Option Chan) :
    (wakeup cfg s me chan).nextpid = s.nextpid := rfl

@[simp] theorem wakeup_initproc (cfg : Config) (s : Kernel) (me : Option Nat) (chan : Option Chan) :
    (wakeup cfg s me chan).initproc = s.initproc := rfl

@[simp] theorem wakeup_fileRef (cfg : Config) (s : Kernel) (me : Option Nat) (chan : Option Chan) :
    (wakeup cfg s me chan).fileRef = s.fileRef := rfl

def HasChild (cfg : Config) (s : Kernel) (p : Nat) : Prop :=
  ∃ j < cfg.nproc, (s.procs j).parent = some p

instance (cfg : Config) (s : Kernel) (p : Nat) : Decidable (HasChild cfg s p) :=
  inferInstanceAs (Decidable (∃ j, j < cfg.nproc ∧ _))

/-- The loop of `reparent` that gives `p`'s children to `initproc`. -/
def moveChildren (cfg : Config) (s : Kernel) (p : Nat) : Kernel :=
  s.mapProcs fun j q =>
    if j < cfg.nproc ∧ q.parent = some p then { q with parent := s.initproc } else q

@[simp] theorem moveChildren_state (cfg : Config) (s : Kernel) (p j : Nat) :
    ((moveChildren cfg s p).procs j).state = (s.procs j).state := by
  simp only [moveChildren, Kernel.mapProcs_procs]; split_ifs <;> rfl

@[simp] theorem moveChildren_chan (cfg : Config) (s : Kernel) (p j : Nat) :
    ((moveChildren cfg s p).procs j).chan = (s.procs j).chan := by
  simp only [moveChildren, Kernel.mapProcs_procs]; split_ifs <;> rfl

@[simp] theorem moveChildren_lock (cfg : Config) (s : Kernel) (p j : Nat) :
    ((moveChildren cfg s p).procs j).lock = (s.procs j).lock := by
  simp only [moveChildren, Kernel.mapProcs_procs]; split_ifs <;> rfl

theorem moveChildren_parent (cfg : Config) (s : Kernel) (p j : Nat) :
    ((moveChildren cfg s p).procs j).parent =
      if j < cfg.nproc ∧ (s.procs j).parent = some p then s.initproc else (s.procs j).parent := by
  simp only [moveChildren, Kernel.mapProcs_procs]; split_ifs <;> rfl

theorem moveChildren_procs (cfg : Config) (s : Kernel) (p j : Nat) :
    (moveChildren cfg s p).procs j =
      { (s.procs j) with parent := ((moveChildren cfg s p).procs j).parent } := by
  simp only [moveChildren, Kernel.mapProcs_procs]; split_ifs <;> rfl

/-- `reparent(p)`, run by `p` itself. The `wakeup(initproc)` after each child wakes the
same sleepers each time, so it is done once, after the children are moved. -/
def reparent (cfg : Config) (s : Kernel) (p : Nat) : Kernel :=
  if HasChild cfg s p then wakeup cfg (moveChildren cfg s p) (some p) (s.initproc.map .proc)
  else moveChildren cfg s p

@[simp] theorem reparent_cpus (cfg : Config) (s : Kernel) (p : Nat) :
    (reparent cfg s p).cpus = s.cpus := by
  unfold reparent; split_ifs <;> rfl

@[simp] theorem reparent_lock (cfg : Config) (s : Kernel) (p j : Nat) :
    ((reparent cfg s p).procs j).lock = (s.procs j).lock := by
  unfold reparent; split_ifs <;> simp

@[simp] theorem reparent_chan (cfg : Config) (s : Kernel) (p j : Nat) :
    ((reparent cfg s p).procs j).chan = (s.procs j).chan := by
  unfold reparent; split_ifs <;> simp

theorem reparent_parent (cfg : Config) (s : Kernel) (p j : Nat) :
    ((reparent cfg s p).procs j).parent =
      if j < cfg.nproc ∧ (s.procs j).parent = some p then s.initproc else (s.procs j).parent := by
  unfold reparent; split_ifs <;> simp [moveChildren_parent, *]

theorem reparent_state_cases (cfg : Config) (s : Kernel) (p j : Nat) :
    ((reparent cfg s p).procs j).state = (s.procs j).state ∨
      (s.procs j).state = .sleeping ∧ ((reparent cfg s p).procs j).state = .runnable := by
  unfold reparent
  split_ifs
  · simpa using wakeup_state_cases cfg (moveChildren cfg s p) (some p) (s.initproc.map .proc) j
  · simp

theorem reparent_procs (cfg : Config) (s : Kernel) (p j : Nat) :
    (reparent cfg s p).procs j =
      { (s.procs j) with
        parent := ((reparent cfg s p).procs j).parent,
        state := ((reparent cfg s p).procs j).state,
        sleepingTime := ((reparent cfg s p).procs j).sleepingTime,
        timeAdded := ((reparent cfg s p).procs j).timeAdded,
        noOfTicks := ((reparent cfg s p).procs j).noOfTicks } := by
  unfold reparent
  split_ifs
  · rw [wakeup_procs, moveChildren_procs]
  · rw [moveChildren_procs]

theorem reparent_procs_of_ne_sleeping (cfg : Config) (s : Kernel) (p : Nat) {j : Nat}
    (h : (s.procs j).state ≠ .sleeping) :
    (reparent cfg s p).procs j = { (s.procs j) with parent := ((reparent cfg s p).procs j).parent } := by
  unfold reparent
  split_ifs
  · rw [wakeup_procs_of_ne_sleeping (by simpa using h), moveChildren_procs]
  · rw [moveChildren_procs]

theorem reparent_procs_self (cfg : Config) (s : Kernel) (p : Nat) :
    (reparent cfg s p).procs p = { (s.procs p) with parent := ((reparent cfg s p).procs p).parent } := by
  unfold reparent
  split_ifs
  · rw [wakeup_procs_me, moveChildren_procs]
  · rw [moveChildren_procs]

@[simp] theorem reparent_ticks (cfg : Config) (s : Kernel) (p : Nat) :
    (reparent cfg s p).ticks = s.ticks := by
  unfold reparent; split_ifs <;> rfl

@[simp] theorem reparent_nextpid (cfg : Config) (s : Kernel) (p : Nat) :
    (reparent cfg s p).nextpid = s.nextpid := by
  unfold reparent; split_ifs <;> rfl

@[simp] theorem reparent_initproc (cfg : Config) (s : Kernel) (p : Nat) :
    (reparent cfg s p).initproc = s.initproc := by
  unfold reparent; split_ifs <;> rfl

@[simp] theorem reparent_fileRef (cfg : Config) (s : Kernel) (p : Nat) :
    (reparent cfg s p).fileRef = s.fileRef := by
  unfold reparent; split_ifs <;> rfl

def pidHit (pid : Int) (p : Proc) : Bool := p.pid == pid

def kill (cfg : Config) (s : Kernel) (pid : Int) : Int × Kernel :=
  match firstSlot cfg s (pidHit pid) with
  | none => (-1, s)
  | some i =>
    let p := s.procs i
    (0, s.setProc i { p with killed := true,
                             state := if p.state = .sleeping then .runnable else p.state })

@[simp] theorem kill_cpus (cfg : Config) (s : Kernel) (pid : Int) : (kill cfg s pid).2.cpus = s.cpus := by
  unfold kill; split <;> rfl

@[simp] theorem kill_lock (cfg : Config) (s : Kernel) (pid : Int) (j : Nat) :
    ((kill cfg s pid).2.procs j).lock = (s.procs j).lock := by
  unfold kill; split <;> simp [Function.update_apply]; split_ifs <;> simp_all

@[simp] theorem kill_parent (cfg : Config) (s : Kernel) (pid : Int) (j : Nat) :
    ((kill cfg s pid).2.procs j).parent = (s.procs j).parent := by
  unfold kill; split <;> simp [Function.update_apply]; split_ifs <;> simp_all

@[simp] theorem kill_chan (cfg : Config) (s : Kernel) (pid : Int) (j : Nat) :
    ((kill cfg s pid).2.procs j).chan = (s.procs j).chan := by
  unfold kill; split <;> simp [Function.update_apply]; split_ifs <;> simp_all

theorem kill_state_cases (cfg : Config) (s : Kernel) (pid : Int) (j : Nat) :
    ((kill cfg s pid).2.procs j).state = (s.procs j).state ∨
      (s.procs j).state = .sleeping ∧ ((kill cfg s pid).2.procs j).state = .runnable := by
  unfold kill; split <;> simp [Function.update_apply]; split_ifs <;> simp_all

theorem kill_procs (cfg : Config) (s : Kernel) (pid : Int) (j : Nat) :
    (kill cfg s pid).2.procs j =
      { (s.procs j) with
        killed := ((kill cfg s pid).2.procs j).killed,
        state := ((kill cfg s pid).2.procs j).state } := by
  unfold kill
  split
  · rfl
  · simp only [Kernel.setProc_procs, Function.update_apply]
    split_ifs <;> (subst_vars; rfl)

@[simp] theorem kill_ticks (cfg : Config) (s : Kernel) (pid : Int) : (kill cfg s pid).2.ticks = s.ticks := by
  unfold kill; split <;> rfl

@[simp] theorem kill_nextpid (cfg : Config) (s : Kernel) (pid : Int) :
    (kill cfg s pid).2.nextpid = s.nextpid := by
  unfold kill; split <;> rfl

@[simp] theorem kill_initproc (cfg : Config) (s : Kernel) (pid : Int) :
    (kill cfg s pid).2.initproc = s.initproc := by
  unfold kill; split <;> rfl

def updateTime (cfg : Config) (s : Kernel) : Kernel :=
  s.mapProcs fun j p =>
    if j < cfg.nproc ∧ p.state = .running then { p with rtime := p.rtime + 1 } else p

@[simp] theorem updateTime_cpus (cfg : Config) (s : Kernel) : (updateTime cfg s).cpus = s.cpus := rfl

@[simp] theorem updateTime_lock (cfg : Config) (s : Kernel) (j : Nat) :
    ((updateTime cfg s).procs j).lock = (s.procs j).lock := by
  simp only [updateTime, Kernel.mapProcs_procs]; split_ifs <;> rfl

@[simp] theorem updateTime_state (cfg : Config) (s : Kernel) (j : Nat) :
    ((updateTime cfg s).procs j).state = (s.procs j).state := by
  simp only [updateTime, Kernel.mapProcs_procs]; split_ifs <;> rfl

@[simp] theorem updateTime_parent (cfg : Config) (s : Kernel) (j : Nat) :
    ((updateTime cfg s).procs j).parent = (s.procs j).parent := by
  simp only [updateTime, Kernel.mapProcs_procs]; split_ifs <;> rfl

@[simp] theorem updateTime_chan (cfg : Config) (s : Kernel) (j : Nat) :
    ((updateTime cfg s).procs j).chan = (s.procs j).chan := by
  simp only [updateTime, Kernel.mapProcs_procs]; split_ifs <;> rfl

/-- The niceness of `PSBPriority`; C's `/` truncates, and Lean's `tdiv` by zero gives 0
where C is undefined. -/
def niceness (p : Proc) : Int :=
  if p.sleepingTime = -1 ∧ p.runningTime = -1 then 5
  else (p.sleepingTime * 10).tdiv (p.runningTime + p.sleepingTime)

def psbPriority (p : Proc) : Int :=
  let value := p.staticPriority - niceness p + 5
  if value > 100 then 100 else if value < 0 then 0 else value

def pcbCompare (p q : Proc) : Int :=
  if psbPriority p < psbPriority q then -1
  else if psbPriority p > psbPriority q then 1
  else if p.timesScheduled > q.timesScheduled then 1
  else if q.timesScheduled > p.timesScheduled then -1
  else if p.startTime < q.startTime then -1
  else if q.startTime < p.startTime then 1
  else -1

def priorityHit (pid : Int) (p : Proc) : Bool :=
  (p.state == .runnable || p.state == .sleeping) && p.pid == pid

/-- `set_priority_i` on CPU `c`; the caller's `yield()` when the priority grows is its next
step. `Ppid == -1` is the loop's "not found", so a hit on a slot whose pid is -1 returns 2 with
the `break` still holding that slot's lock. -/
def setPriorityI (cfg : Config) (s : Kernel) (c : Nat) (priority pid : Int) : Int × Kernel :=
  if cfg.policy ≠ .pbs then (10, s)
  else if priority < 0 ∨ priority > 100 then (1, s)
  else match firstSlot cfg s (priorityHit pid) with
    | none => (2, s)
    | some i =>
      let p := s.procs i
      if p.pid = -1 then (2, s.setProc i { p with lock := some c })
      else (p.staticPriority,
        s.setProc i { p with staticPriority := priority, runningTime := -1, sleepingTime := -1 })

theorem setPriorityI_cases (cfg : Config) (s : Kernel) (c : Nat) (priority pid : Int) :
    (setPriorityI cfg s c priority pid).2 = s ∨
    ∃ i, firstSlot cfg s (priorityHit pid) = some i ∧
      ((setPriorityI cfg s c priority pid).2 = s.setProc i { s.procs i with lock := some c } ∨
        (setPriorityI cfg s c priority pid).2 = s.setProc i
          { s.procs i with staticPriority := priority, runningTime := -1, sleepingTime := -1 }) := by
  unfold setPriorityI
  split_ifs
  · exact .inl rfl
  · exact .inl rfl
  · split
    · exact .inl rfl
    · rename_i i hi
      dsimp only
      split_ifs
      · exact .inr ⟨i, hi, .inl rfl⟩
      · exact .inr ⟨i, hi, .inr rfl⟩

theorem setPriorityI_snd (cfg : Config) (s : Kernel) (c : Nat) (priority pid : Int) :
    (setPriorityI cfg s c priority pid).2 = { s with procs := (setPriorityI cfg s c priority pid).2.procs } := by
  rcases setPriorityI_cases cfg s c priority pid with e | ⟨i, -, e | e⟩ <;> rw [e] <;> rfl

@[simp] theorem setPriorityI_cpus (cfg : Config) (s : Kernel) (c : Nat) (priority pid : Int) :
    (setPriorityI cfg s c priority pid).2.cpus = s.cpus := by
  rw [setPriorityI_snd]

@[simp] theorem setPriorityI_ticks (cfg : Config) (s : Kernel) (c : Nat) (priority pid : Int) :
    (setPriorityI cfg s c priority pid).2.ticks = s.ticks := by
  rw [setPriorityI_snd]

@[simp] theorem setPriorityI_nextpid (cfg : Config) (s : Kernel) (c : Nat) (priority pid : Int) :
    (setPriorityI cfg s c priority pid).2.nextpid = s.nextpid := by
  rw [setPriorityI_snd]

@[simp] theorem setPriorityI_initproc (cfg : Config) (s : Kernel) (c : Nat) (priority pid : Int) :
    (setPriorityI cfg s c priority pid).2.initproc = s.initproc := by
  rw [setPriorityI_snd]

@[simp] theorem setPriorityI_fileRef (cfg : Config) (s : Kernel) (c : Nat) (priority pid : Int) :
    (setPriorityI cfg s c priority pid).2.fileRef = s.fileRef := by
  rw [setPriorityI_snd]

theorem setPriorityI_procs (cfg : Config) (s : Kernel) (c : Nat) (priority pid : Int) (j : Nat) :
    (setPriorityI cfg s c priority pid).2.procs j =
      { (s.procs j) with
        staticPriority := ((setPriorityI cfg s c priority pid).2.procs j).staticPriority,
        runningTime := ((setPriorityI cfg s c priority pid).2.procs j).runningTime,
        sleepingTime := ((setPriorityI cfg s c priority pid).2.procs j).sleepingTime,
        lock := ((setPriorityI cfg s c priority pid).2.procs j).lock } := by
  rcases setPriorityI_cases cfg s c priority pid with e | ⟨i, -, e | e⟩ <;> rw [e]
  all_goals
    simp only [Kernel.setProc_procs, Function.update_apply]
    split_ifs <;> (subst_vars; rfl)

@[simp] theorem setPriorityI_state (cfg : Config) (s : Kernel) (c : Nat) (priority pid : Int) (j : Nat) :
    ((setPriorityI cfg s c priority pid).2.procs j).state = (s.procs j).state := by
  rw [setPriorityI_procs]

@[simp] theorem setPriorityI_parent (cfg : Config) (s : Kernel) (c : Nat) (priority pid : Int) (j : Nat) :
    ((setPriorityI cfg s c priority pid).2.procs j).parent = (s.procs j).parent := by
  rw [setPriorityI_procs]

@[simp] theorem setPriorityI_chan (cfg : Config) (s : Kernel) (c : Nat) (priority pid : Int) (j : Nat) :
    ((setPriorityI cfg s c priority pid).2.procs j).chan = (s.procs j).chan := by
  rw [setPriorityI_procs]

theorem setPriorityI_lock {cfg : Config} {s : Kernel} {c : Nat} {priority pid : Int}
    (hf : ScanFree cfg s (priorityHit pid)) (j : Nat) :
    ((setPriorityI cfg s c priority pid).2.procs j).lock = (s.procs j).lock ∨
      (s.procs j).lock = none ∧ ((setPriorityI cfg s c priority pid).2.procs j).lock = some c := by
  rcases setPriorityI_cases cfg s c priority pid with e | ⟨i, hi, e | e⟩ <;> rw [e]
  · exact .inl rfl
  · -- the slot whose pid reads as "not found" stays locked
    obtain ⟨hlt, -, hbefore⟩ := firstSlot_eq_some.mp hi
    by_cases e : j = i
    · subst e; exact .inr ⟨hf j hlt hbefore, by simp⟩
    · exact .inl (by simp [Function.update_noteq e])
  · exact .inl (by simp only [Kernel.setProc_procs, Function.update_apply]; split_ifs <;> (subst_vars; rfl))

theorem setPriorityI_procs_of_not_ready {cfg : Config} {s : Kernel} {c : Nat} {priority pid : Int}
    {j : Nat} (h : (s.procs j).state ≠ .runnable ∧ (s.procs j).state ≠ .sleeping) :
    (setPriorityI cfg s c priority pid).2.procs j = s.procs j := by
  rcases setPriorityI_cases cfg s c priority pid with e | ⟨k, hk, e | e⟩ <;> rw [e]
  all_goals
    have hjk : j ≠ k := by
      rintro rfl
      have := (firstSlot_eq_some.mp hk).2.1
      simp [priorityHit, h.1, h.2] at this
    simp [Function.update_noteq hjk]

def maxWait (k : Nat) : Int :=
  [0, 10, 30, 100, 150].getD k 0

def UpgradeHit (cfg : Config) (s : Kernel) (j : Nat) : Prop :=
  j < cfg.nproc ∧ (s.procs j).state = .runnable ∧ (s.procs j).priorityNumber ≠ 0 ∧
    u32 (s.ticks - (s.procs j).timeAdded) > u32 (maxWait (s.procs j).priorityNumber)

instance (cfg : Config) (s : Kernel) (j : Nat) : Decidable (UpgradeHit cfg s j) :=
  inferInstanceAs (Decidable (_ ∧ _))

def upgradePolicy (cfg : Config) (s : Kernel) : Kernel :=
  s.mapProcs fun j p =>
    if UpgradeHit cfg s j then { p with timeAdded := s.ticks, priorityNumber := p.priorityNumber - 1 }
    else p

@[simp] theorem upgradePolicy_cpus (cfg : Config) (s : Kernel) :
    (upgradePolicy cfg s).cpus = s.cpus := rfl

@[simp] theorem upgradePolicy_lock (cfg : Config) (s : Kernel) (j : Nat) :
    ((upgradePolicy cfg s).procs j).lock = (s.procs j).lock := by
  simp only [upgradePolicy, Kernel.mapProcs_procs]; split_ifs <;> rfl

@[simp] theorem upgradePolicy_state (cfg : Config) (s : Kernel) (j : Nat) :
    ((upgradePolicy cfg s).procs j).state = (s.procs j).state := by
  simp only [upgradePolicy, Kernel.mapProcs_procs]; split_ifs <;> rfl

@[simp] theorem upgradePolicy_parent (cfg : Config) (s : Kernel) (j : Nat) :
    ((upgradePolicy cfg s).procs j).parent = (s.procs j).parent := by
  simp only [upgradePolicy, Kernel.mapProcs_procs]; split_ifs <;> rfl

@[simp] theorem upgradePolicy_chan (cfg : Config) (s : Kernel) (j : Nat) :
    ((upgradePolicy cfg s).procs j).chan = (s.procs j).chan := by
  simp only [upgradePolicy, Kernel.mapProcs_procs]; split_ifs <;> rfl

/-- One pass of the MLFQ level loop at level `i`: `minimum_time` and `toSchedule`. -/
def levelPass (cfg : Config) (s : Kernel) (i : Nat) : Nat × Option Nat :=
  (List.range cfg.nproc).foldl (fun acc k =>
    let p := s.procs k
    if p.state = .runnable ∧ p.priorityNumber = i then
      if acc.1 = 0 then (u32 p.timeAdded, some k)
      else if u32 p.timeAdded < acc.1 then (u32 p.timeAdded, some k) else acc
    else acc) (0, none)

/-- The levels `i = 0..3`; the scan jumps to `Schedu` once `minimum_time != 0`. -/
def levelScan (cfg : Config) (s : Kernel) : Option Nat :=
  [0, 1, 2, 3].findSome? fun i =>
    if (levelPass cfg s i).1 ≠ 0 then (levelPass cfg s i).2 else none

theorem levelPass_snd {cfg : Config} {s : Kernel} {i j : Nat} (h : (levelPass cfg s i).2 = some j) :
    j < cfg.nproc ∧ (s.procs j).state = .runnable ∧ (s.procs j).priorityNumber = i := by
  unfold levelPass at h
  generalize hacc : ((0 : Nat), (none : Option Nat)) = acc at h
  have h0 : ∀ j, acc.2 = some j →
      j < cfg.nproc ∧ (s.procs j).state = .runnable ∧ (s.procs j).priorityNumber = i := by
    subst hacc; simp
  have hl : ∀ k ∈ List.range cfg.nproc, k < cfg.nproc := fun k hk => List.mem_range.mp hk
  clear hacc
  generalize List.range cfg.nproc = L at h hl
  induction L generalizing acc with
  | nil => exact h0 j h
  | cons k l ih =>
    refine ih _ ?_ h fun k hk => hl k (List.mem_cons_of_mem _ hk)
    intro j' hj'
    simp only at hj'
    split_ifs at hj' with hk
    · cases hj'; exact ⟨hl _ (List.mem_cons_self _ _), hk⟩
    · cases hj'; exact ⟨hl _ (List.mem_cons_self _ _), hk⟩
    · exact h0 j' hj'
    · exact h0 j' hj'

theorem levelScan_some {cfg : Config} {s : Kernel} {j : Nat} (h : levelScan cfg s = some j) :
    j < cfg.nproc ∧ (s.procs j).state = .runnable := by
  obtain ⟨i, -, hi⟩ := List.exists_of_findSome?_eq_some h
  split_ifs at hi
  exact (levelPass_snd hi).imp_right And.left

def Proc.fdCount (nofile : Nat) (p : Proc) (f : Nat) : Nat :=
  (List.range nofile).countP fun fd => p.ofile fd == some f

end OsnScheduling
