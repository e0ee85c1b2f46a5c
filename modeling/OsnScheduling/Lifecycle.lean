import OsnScheduling.Sched

/-!
The process lifecycle of `kernel/proc.c`: `userinit`, `fork` in its three lock sections,
`exit`, the scan of `wait` and `waitx`, and `growproc`. Each operation is run by the
process `i` that CPU `c` is running.
-/

namespace OsnScheduling

/-- `userinit` on the table `procinit` leaves: `page` is the trap frame page and page
table `allocproc` gets, `root` the inode `namei("/")` returns. -/
def userinit (cfg : Config) (s : Kernel) (tf : TrapFrame) (pt root : Nat) : Kernel :=
  match allocproc cfg s (some (tf, pt)) with
  | (some i, s) =>
    let p := s.procs i
    let s := s.setProc i { p with
      sz := cfg.pgsize, trapframe := p.trapframe.map fun t => { t with epc := 0, sp := cfg.pgsize },
      name := "initcode", cwd := some root, state := .runnable }
    { s with initproc := some i }
  | (none, s) => s

def boot (cfg : Config) (tf : TrapFrame) (pt root : Nat) : Kernel :=
  userinit cfg Kernel.zero tf pt root

@[simp] theorem userinit_cpus (cfg : Config) (s : Kernel) (tf : TrapFrame) (pt root : Nat) :
    (userinit cfg s tf pt root).cpus = s.cpus := by
  unfold userinit
  have h := allocproc_cpus cfg s (some (tf, pt))
  split <;> rename_i t ht <;> rw [ht] at h <;> exact h

theorem firstSlot_zero (cfg : Config) : firstSlot cfg Kernel.zero unusedHit = some 0 :=
  firstSlot_eq_some.mpr ⟨cfg.nproc_pos, rfl, fun _ h => absurd h (Nat.not_lt_zero _)⟩

theorem boot_procs_ne (cfg : Config) (tf : TrapFrame) (pt root : Nat) {j : Nat} (hj : j ≠ 0) :
    (boot cfg tf pt root).procs j = Proc.zero := by
  simp only [boot, userinit, allocproc, firstSlot_zero, allocpid]
  simp [Function.update_noteq hj, Kernel.zero]

@[simp] theorem boot_initproc (cfg : Config) (tf : TrapFrame) (pt root : Nat) :
    (boot cfg tf pt root).initproc = some 0 := by
  simp only [boot, userinit, allocproc, firstSlot_zero, allocpid]

@[simp] theorem boot_ofile (cfg : Config) (tf : TrapFrame) (pt root j : Nat) :
    ((boot cfg tf pt root).procs j).ofile = fun _ => none := by
  by_cases e : j = 0
  · subst e
    simp only [boot, userinit, allocproc, firstSlot_zero, allocpid]
    simp [Kernel.zero, Proc.zero]
  · simp [boot_procs_ne cfg tf pt root e, Proc.zero]

@[simp] theorem boot_fileRef (cfg : Config) (tf : TrapFrame) (pt root : Nat) :
    (boot cfg tf pt root).fileRef = fun _ => 0 := by
  simp only [boot, userinit, allocproc, firstSlot_zero, allocpid]
  rfl

@[simp] theorem boot_state_zero (cfg : Config) (tf : TrapFrame) (pt root : Nat) :
    ((boot cfg tf pt root).procs 0).state = .runnable := by
  simp only [boot, userinit, allocproc, firstSlot_zero, allocpid]
  simp

/-- The part of `fork` done under the child's lock: `allocproc`, `uvmcopy` (`copyOk`),
then the copy of the size, trace mask, registers (with `a0 = 0`), open files (one
`filedup` each), directory and name. The child's slot, or `none` when `fork` returns -1. -/
def forkAlloc (cfg : Config) (s : Kernel) (i : Nat) (page : Option (TrapFrame × Nat))
    (copyOk : Bool) : Option Nat × Kernel :=
  match allocproc cfg s page with
  | (none, s) => (none, s)
  | (some np, s) =>
    if copyOk then
      let p := s.procs i
      let q := s.procs np
      let s := s.setProc np { q with
        sz := p.sz, trace := p.trace,
        trapframe := q.trapframe.map fun t => { p.trapframe.getD t with a0 := 0 },
        ofile := fun fd => if fd < cfg.nofile ∧ (p.ofile fd).isSome then p.ofile fd else q.ofile fd,
        cwd := p.cwd, name := p.name }
      (some np, { s with fileRef := fun f => s.fileRef f + p.fdCount cfg.nofile f })
    else (none, s.setProc np (freeproc (s.procs np)))

@[simp] theorem forkAlloc_cpus (cfg : Config) (s : Kernel) (i : Nat)
    (page : Option (TrapFrame × Nat)) (copyOk : Bool) :
    (forkAlloc cfg s i page copyOk).2.cpus = s.cpus := by
  unfold forkAlloc
  have h := allocproc_cpus cfg s page
  split <;> rename_i t ht <;> rw [ht] at h
  · exact h
  · split_ifs <;> exact h

@[simp] theorem forkAlloc_lock (cfg : Config) (s : Kernel) (i : Nat)
    (page : Option (TrapFrame × Nat)) (copyOk : Bool) (j : Nat) :
    ((forkAlloc cfg s i page copyOk).2.procs j).lock = (s.procs j).lock := by
  unfold forkAlloc
  have h := allocproc_lock cfg s page j
  split <;> rename_i t ht <;> rw [ht] at h
  · exact h
  · split_ifs <;> simp only [Kernel.setProc_procs, Function.update_apply] <;> split_ifs <;>
      simp_all

theorem forkAlloc_procs_of_ne {cfg : Config} {s : Kernel} {i : Nat}
    {page : Option (TrapFrame × Nat)} {copyOk : Bool} {j : Nat} (h : (s.procs j).state ≠ .unused) :
    (forkAlloc cfg s i page copyOk).2.procs j = s.procs j := by
  unfold forkAlloc
  have h1 := @allocproc_procs_of_ne cfg s page j h
  split <;> rename_i t ht <;> rw [ht] at h1
  · exact h1
  · rename_i np
    have hnp : j ≠ np := by
      rintro rfl
      have := (@allocproc_some cfg s page _ (by rw [ht])).2.1
      exact h this
    split_ifs <;> simpa [Function.update_noteq hnp] using h1

theorem forkAlloc_some {cfg : Config} {s : Kernel} {i : Nat} {page : Option (TrapFrame × Nat)}
    {copyOk : Bool} {np : Nat} (h : (forkAlloc cfg s i page copyOk).1 = some np) :
    np < cfg.nproc ∧ (s.procs np).state = .unused ∧
      ((forkAlloc cfg s i page copyOk).2.procs np).state = .used ∧
      ((forkAlloc cfg s i page copyOk).2.procs np).parent = (s.procs np).parent := by
  unfold forkAlloc at h ⊢
  split at h
  · cases h
  · rename_i t np' ht
    have ha := @allocproc_some cfg s page _ (by rw [ht])
    rw [ht] at ha
    split_ifs at h ⊢ with hc
    cases h; simpa using ha

theorem forkAlloc_state_of_unused {cfg : Config} {s : Kernel} {i : Nat}
    {page : Option (TrapFrame × Nat)} {copyOk : Bool} {j : Nat} (h : (s.procs j).state = .unused) :
    ((forkAlloc cfg s i page copyOk).2.procs j).state = .used ∨
      ((forkAlloc cfg s i page copyOk).2.procs j).state = .unused := by
  have ha := @allocproc_state_of_unused cfg s page j h
  rcases hs : allocproc cfg s page with ⟨_ | np, t⟩ <;> rw [hs] at ha
  · simpa [forkAlloc, hs] using ha
  · by_cases e : j = np
    · subst e; cases copyOk <;> simp_all [forkAlloc, freeproc]
    · cases copyOk <;> simp_all [forkAlloc, Function.update_noteq e]

theorem forkAlloc_unused {cfg : Config} {s : Kernel} {i : Nat} {page : Option (TrapFrame × Nat)}
    {copyOk : Bool} {j : Nat} (h : ((forkAlloc cfg s i page copyOk).2.procs j).state = .unused) :
    ((forkAlloc cfg s i page copyOk).2.procs j).parent = none ∨
      (forkAlloc cfg s i page copyOk).2.procs j = s.procs j := by
  have ha := @allocproc_unused cfg s page j
  rcases hs : allocproc cfg s page with ⟨_ | np, t⟩ <;> rw [hs] at ha
  · simp_all [forkAlloc]
  · have hu := (@allocproc_some cfg s page _ (by rw [hs])).2.2.1
    rw [hs] at hu
    by_cases e : j = np
    · subst e; cases copyOk <;> simp_all [forkAlloc, freeproc]
    · cases copyOk <;> simp_all [forkAlloc, Function.update_noteq e]

@[simp] theorem forkAlloc_ticks (cfg : Config) (s : Kernel) (i : Nat)
    (page : Option (TrapFrame × Nat)) (copyOk : Bool) :
    (forkAlloc cfg s i page copyOk).2.ticks = s.ticks := by
  unfold forkAlloc
  have h := allocproc_ticks cfg s page
  split <;> rename_i t ht <;> rw [ht] at h
  · exact h
  · split_ifs <;> exact h

@[simp] theorem forkAlloc_initproc (cfg : Config) (s : Kernel) (i : Nat)
    (page : Option (TrapFrame × Nat)) (copyOk : Bool) :
    (forkAlloc cfg s i page copyOk).2.initproc = s.initproc := by
  unfold forkAlloc
  have h := allocproc_initproc cfg s page
  split <;> rename_i t ht <;> rw [ht] at h
  · exact h
  · split_ifs <;> exact h

theorem forkAlloc_startTime (cfg : Config) (s : Kernel) (i : Nat) (page : Option (TrapFrame × Nat))
    (ok : Bool) (j : Nat) :
    ((forkAlloc cfg s i page ok).2.procs j).startTime = (s.procs j).startTime ∨
      (s.procs j).state = .unused ∧ ((forkAlloc cfg s i page ok).2.procs j).startTime = int32 s.ticks := by
  have ha := allocproc_startTime cfg s page j
  unfold forkAlloc
  rcases e : allocproc cfg s page with ⟨_ | np, t⟩ <;> rw [e] at ha
  · exact ha
  · cases ok
    all_goals
      simp only [Bool.false_eq_true, if_false, if_true, Kernel.setProc_procs, Function.update_apply]
      split_ifs with hj
      · subst hj; exact ha
      · exact ha


theorem forkAlloc_spec (cfg : Config) (s : Kernel) (i : Nat) (page : Option (TrapFrame × Nat))
    (ok : Bool) :
    (forkAlloc cfg s i page ok).2.procs = s.procs ∧ (forkAlloc cfg s i page ok).2.nextpid = s.nextpid ∨
    ∃ np, np < cfg.nproc ∧ (s.procs np).state = .unused ∧
      (∀ j, j ≠ np → (forkAlloc cfg s i page ok).2.procs j = s.procs j) ∧
      (forkAlloc cfg s i page ok).2.nextpid = s.nextpid + 1 ∧
      ((∃ q, (forkAlloc cfg s i page ok).2.procs np = freeproc q ∧
          q.ofile = (s.procs np).ofile ∧ q.cwd = (s.procs np).cwd) ∨
        ((forkAlloc cfg s i page ok).2.procs np).state = .used ∧
        ((forkAlloc cfg s i page ok).2.procs np).pid = int32 s.nextpid ∧
        ((forkAlloc cfg s i page ok).2.procs np).parent = (s.procs np).parent ∧
        ((forkAlloc cfg s i page ok).2.procs np).chan = (s.procs np).chan ∧
        ((forkAlloc cfg s i page ok).2.procs np).trapframe.isSome ∧
        ((forkAlloc cfg s i page ok).2.procs np).pagetable.isSome ∧
        ((forkAlloc cfg s i page ok).2.procs np).rtime = 0 ∧
        ((forkAlloc cfg s i page ok).2.procs np).etime = 0 ∧
        ((forkAlloc cfg s i page ok).2.procs np).ctime = s.ticks) := by
  cases hf : firstSlot cfg s unusedHit with
  | none => left; simp [forkAlloc, allocproc, hf]
  | some np =>
    obtain ⟨hlt, hu, -⟩ := firstSlot_eq_some.mp hf
    refine .inr ⟨np, hlt, by simpa [unusedHit] using hu, ?_⟩
    rcases page with _ | ⟨tf, pt⟩
    · simp only [forkAlloc, allocproc, hf, allocpid, Kernel.setProc_procs, Function.update_same]
      exact ⟨fun j hj => Function.update_noteq hj _ _, rfl, .inl ⟨_, rfl, rfl, rfl⟩⟩
    · cases ok
      · simp only [forkAlloc, allocproc, hf, allocpid, Kernel.setProc_procs, Function.update_same,
          Bool.false_eq_true, ↓reduceIte]
        exact ⟨fun j hj => by simp [Function.update_noteq hj], rfl, .inl ⟨_, rfl, by simp, by simp⟩⟩
      · simp only [forkAlloc, allocproc, hf, allocpid, Kernel.setProc_procs, Function.update_same, ↓reduceIte]
        exact ⟨fun j hj => by simp [Function.update_noteq hj], rfl, .inr (by simp)⟩

theorem forkAlloc_stamp (cfg : Config) (s : Kernel) (i : Nat) (page : Option (TrapFrame × Nat))
    (ok : Bool) (j : Nat) :
    (((forkAlloc cfg s i page ok).2.procs j).pid = (s.procs j).pid ∨
        ((forkAlloc cfg s i page ok).2.procs j).pid = 0 ∨
        ((forkAlloc cfg s i page ok).2.procs j).pid = int32 s.nextpid ∧
          (forkAlloc cfg s i page ok).2.nextpid = s.nextpid + 1) ∧
      (((forkAlloc cfg s i page ok).2.procs j).startTime = (s.procs j).startTime ∨
        (s.procs j).state = .unused ∧ ((forkAlloc cfg s i page ok).2.procs j).startTime = int32 s.ticks) := by
  refine ⟨?_, forkAlloc_startTime cfg s i page ok j⟩
  rcases forkAlloc_spec cfg s i page ok with ⟨hp, -⟩ | ⟨np, -, -, hne, hn, hnp⟩
  · exact .inl (by rw [hp])
  by_cases e : j = np
  · subst e
    rcases hnp with ⟨q, hq, -⟩ | ⟨-, hpid, -⟩
    · exact .inr (.inl (by rw [hq]; rfl))
    · exact .inr (.inr ⟨hpid, hn⟩)
  · exact .inl (by rw [hne j e])

theorem forkAlloc_files (cfg : Config) (s : Kernel) {i : Nat} (page : Option (TrapFrame × Nat))
    (ok : Bool) (hi : (s.procs i).state ≠ .unused) :
    (∀ j, ((forkAlloc cfg s i page ok).2.procs j).ofile = (s.procs j).ofile) ∧
        (forkAlloc cfg s i page ok).2.fileRef = s.fileRef ∨
      ∃ np, np < cfg.nproc ∧ (s.procs np).state = .unused ∧
        (∀ j, j ≠ np → ((forkAlloc cfg s i page ok).2.procs j).ofile = (s.procs j).ofile) ∧
        (∀ fd < cfg.nofile, ((forkAlloc cfg s i page ok).2.procs np).ofile fd =
          if ((s.procs i).ofile fd).isSome then (s.procs i).ofile fd else (s.procs np).ofile fd) ∧
        ∀ f, (forkAlloc cfg s i page ok).2.fileRef f =
          s.fileRef f + (s.procs i).fdCount cfg.nofile f := by
  cases hf : firstSlot cfg s unusedHit with
  | none => exact .inl (by simp [forkAlloc, allocproc, hf])
  | some np =>
    obtain ⟨hlt, hu, -⟩ := firstSlot_eq_some.mp hf
    have hu' : (s.procs np).state = .unused := by simpa [unusedHit] using hu
    have hne : i ≠ np := fun e => hi (e ▸ hu')
    rcases page with _ | ⟨tf, pt⟩
    · refine .inl ⟨fun j => ?_, by simp [forkAlloc, allocproc, hf, allocpid]⟩
      by_cases e : j = np
      · subst e; simp [forkAlloc, allocproc, hf, allocpid, freeproc]
      · simp [forkAlloc, allocproc, hf, allocpid, Function.update_noteq e]
    · cases ok
      · refine .inl ⟨fun j => ?_, by simp [forkAlloc, allocproc, hf, allocpid]⟩
        by_cases e : j = np
        · subst e; simp [forkAlloc, allocproc, hf, allocpid, freeproc]
        · simp [forkAlloc, allocproc, hf, allocpid, Function.update_noteq e]
      · refine .inr ⟨np, hlt, hu', fun j e => ?_, fun fd hfd => ?_, fun f => ?_⟩ <;>
          simp [forkAlloc, allocproc, hf, allocpid, Function.update_noteq hne, *]

/-- `np->parent = p`, under `wait_lock`. -/
def forkLink (s : Kernel) (i np : Nat) : Kernel :=
  s.setProc np { (s.procs np) with parent := some i }

@[simp] theorem forkLink_lock (s : Kernel) (i np j : Nat) :
    ((forkLink s i np).procs j).lock = (s.procs j).lock := by
  simp only [forkLink, Kernel.setProc_procs, Function.update_apply]; split_ifs <;> simp_all

@[simp] theorem forkLink_cpus (s : Kernel) (i np : Nat) : (forkLink s i np).cpus = s.cpus := rfl

@[simp] theorem forkLink_state (s : Kernel) (i np j : Nat) :
    ((forkLink s i np).procs j).state = (s.procs j).state := by
  simp only [forkLink, Kernel.setProc_procs, Function.update_apply]; split_ifs <;> simp_all

@[simp] theorem forkLink_chan (s : Kernel) (i np j : Nat) :
    ((forkLink s i np).procs j).chan = (s.procs j).chan := by
  simp only [forkLink, Kernel.setProc_procs, Function.update_apply]; split_ifs <;> simp_all

theorem forkLink_parent (s : Kernel) (i np j : Nat) :
    ((forkLink s i np).procs j).parent = if j = np then some i else (s.procs j).parent := by
  simp only [forkLink, Kernel.setProc_procs, Function.update_apply]; split_ifs <;> simp_all

/-- `np->state = RUNNABLE`, under the child's lock; MLFQ then resets the parent's tick
count when it is not at the top level (it yields next). -/
def forkRun (cfg : Config) (s : Kernel) (i np : Nat) : Kernel :=
  let s := s.setProc np { (s.procs np) with state := .runnable }
  if cfg.policy = .mlfq ∧ (s.procs i).priorityNumber ≠ 0 then
    s.setProc i { (s.procs i) with noOfTicks := 0 }
  else s

theorem forkRun_procs (cfg : Config) (s : Kernel) (i np j : Nat) :
    (forkRun cfg s i np).procs j =
      { (s.procs j) with
        state := ((forkRun cfg s i np).procs j).state,
        noOfTicks := ((forkRun cfg s i np).procs j).noOfTicks } := by
  simp only [forkRun]
  split_ifs <;> simp only [Kernel.setProc_procs, Function.update_apply] <;> split_ifs <;>
    (subst_vars; rfl)

theorem forkRun_procs_of_ne (cfg : Config) (s : Kernel) {i np j : Nat} (hi : j ≠ i) (hnp : j ≠ np) :
    (forkRun cfg s i np).procs j = s.procs j := by
  simp only [forkRun]; split_ifs <;> simp [Function.update_noteq hi, Function.update_noteq hnp]

theorem forkRun_state (cfg : Config) (s : Kernel) (i np j : Nat) :
    ((forkRun cfg s i np).procs j).state = if j = np then .runnable else (s.procs j).state := by
  simp only [forkRun]; split_ifs <;> simp [Function.update_apply] <;> split_ifs <;> simp_all

@[simp] theorem forkRun_parent (cfg : Config) (s : Kernel) (i np j : Nat) :
    ((forkRun cfg s i np).procs j).parent = (s.procs j).parent := by
  rw [forkRun_procs]

@[simp] theorem forkRun_chan (cfg : Config) (s : Kernel) (i np j : Nat) :
    ((forkRun cfg s i np).procs j).chan = (s.procs j).chan := by
  rw [forkRun_procs]

@[simp] theorem forkRun_cpus (cfg : Config) (s : Kernel) (i np : Nat) :
    (forkRun cfg s i np).cpus = s.cpus := by
  simp only [forkRun]; split_ifs <;> rfl

@[simp] theorem forkRun_lock (cfg : Config) (s : Kernel) (i np j : Nat) :
    ((forkRun cfg s i np).procs j).lock = (s.procs j).lock := by
  rw [forkRun_procs]

/-- The loop of `exit` that closes each open file, then the release of the working
directory. -/
def closeFiles (cfg : Config) (s : Kernel) (i : Nat) : Kernel :=
  let p := s.procs i
  let s := s.setProc i
    { p with ofile := fun fd => if fd < cfg.nofile then none else p.ofile fd, cwd := none }
  { s with fileRef := fun f => s.fileRef f - p.fdCount cfg.nofile f }

@[simp] theorem closeFiles_cpus (cfg : Config) (s : Kernel) (i : Nat) :
    (closeFiles cfg s i).cpus = s.cpus := rfl

@[simp] theorem closeFiles_ticks (cfg : Config) (s : Kernel) (i : Nat) :
    (closeFiles cfg s i).ticks = s.ticks := rfl

@[simp] theorem closeFiles_initproc (cfg : Config) (s : Kernel) (i : Nat) :
    (closeFiles cfg s i).initproc = s.initproc := rfl

@[simp] theorem closeFiles_state (cfg : Config) (s : Kernel) (i j : Nat) :
    ((closeFiles cfg s i).procs j).state = (s.procs j).state := by
  simp only [closeFiles, Kernel.setProc_procs, Function.update_apply]; split_ifs <;> simp_all

@[simp] theorem closeFiles_parent (cfg : Config) (s : Kernel) (i j : Nat) :
    ((closeFiles cfg s i).procs j).parent = (s.procs j).parent := by
  simp only [closeFiles, Kernel.setProc_procs, Function.update_apply]; split_ifs <;> simp_all

@[simp] theorem closeFiles_chan (cfg : Config) (s : Kernel) (i j : Nat) :
    ((closeFiles cfg s i).procs j).chan = (s.procs j).chan := by
  simp only [closeFiles, Kernel.setProc_procs, Function.update_apply]; split_ifs <;> simp_all

@[simp] theorem closeFiles_lock (cfg : Config) (s : Kernel) (i j : Nat) :
    ((closeFiles cfg s i).procs j).lock = (s.procs j).lock := by
  simp only [closeFiles, Kernel.setProc_procs, Function.update_apply]; split_ifs <;> simp_all

/-- `exit(status)` up to its `sched()` (`initproc` panics instead): close the files and
the directory, give the children to `initproc`, wake the parent and become a ZOMBIE. -/
def exitTable (cfg : Config) (s : Kernel) (i : Nat) (status : Int) : Kernel :=
  let s := reparent cfg (closeFiles cfg s i) i
  let s := wakeup cfg s (some i) ((s.procs i).parent.map .proc)
  s.setProc i { (s.procs i) with xstate := status, state := .zombie, etime := s.ticks }

def exit (cfg : Config) (s : Kernel) (c i : Nat) (status : Int) : Kernel :=
  switchOut cfg (exitTable cfg s i status) c i

@[simp] theorem exitTable_cpus (cfg : Config) (s : Kernel) (i : Nat) (status : Int) :
    (exitTable cfg s i status).cpus = s.cpus := by
  simp [exitTable]

@[simp] theorem exitTable_lock (cfg : Config) (s : Kernel) (i : Nat) (status : Int) (j : Nat) :
    ((exitTable cfg s i status).procs j).lock = (s.procs j).lock := by
  simp only [exitTable, Kernel.setProc_procs, Function.update_apply]
  split_ifs <;> simp_all

@[simp] theorem exitTable_state_self (cfg : Config) (s : Kernel) (i : Nat) (status : Int) :
    ((exitTable cfg s i status).procs i).state = .zombie := by
  simp [exitTable]

theorem exitTable_state_cases (cfg : Config) (s : Kernel) (i : Nat) (status : Int) {j : Nat}
    (hj : j ≠ i) : ((exitTable cfg s i status).procs j).state = (s.procs j).state ∨
      (s.procs j).state = .sleeping ∧ ((exitTable cfg s i status).procs j).state = .runnable := by
  simp only [exitTable, Kernel.setProc_procs, Function.update_noteq hj]
  have := wakeup_state_cases cfg (reparent cfg (closeFiles cfg s i) i) (some i)
    (((reparent cfg (closeFiles cfg s i) i).procs i).parent.map .proc) j
  rcases reparent_state_cases cfg (closeFiles cfg s i) i j with h3 | ⟨h3, h4⟩ <;> simp_all

theorem exitTable_parent (cfg : Config) (s : Kernel) (i : Nat) (status : Int) (j : Nat) :
    ((exitTable cfg s i status).procs j).parent =
      if j < cfg.nproc ∧ (s.procs j).parent = some i then s.initproc else (s.procs j).parent := by
  simp only [exitTable, Kernel.setProc_procs, Function.update_apply]
  split_ifs <;> simp_all [reparent_parent]

@[simp] theorem exitTable_chan (cfg : Config) (s : Kernel) (i : Nat) (status : Int) (j : Nat) :
    ((exitTable cfg s i status).procs j).chan = (s.procs j).chan := by
  simp only [exitTable, Kernel.setProc_procs, Function.update_apply]
  split_ifs <;> simp_all

@[simp] theorem exitTable_ticks (cfg : Config) (s : Kernel) (i : Nat) (status : Int) :
    (exitTable cfg s i status).ticks = s.ticks := by
  simp [exitTable]

@[simp] theorem exitTable_nextpid (cfg : Config) (s : Kernel) (i : Nat) (status : Int) :
    (exitTable cfg s i status).nextpid = s.nextpid := by
  simp [exitTable, closeFiles]

@[simp] theorem exitTable_initproc (cfg : Config) (s : Kernel) (i : Nat) (status : Int) :
    (exitTable cfg s i status).initproc = s.initproc := by
  simp [exitTable]

theorem exitTable_fileRef (cfg : Config) (s : Kernel) (i : Nat) (status : Int) (f : Nat) :
    (exitTable cfg s i status).fileRef f = s.fileRef f - (s.procs i).fdCount cfg.nofile f := by
  simp [exitTable, closeFiles]

theorem exitTable_procs_self (cfg : Config) (s : Kernel) (i : Nat) (st : Int) :
    (exitTable cfg s i st).procs i =
      { (s.procs i) with
        ofile := fun fd => if fd < cfg.nofile then none else (s.procs i).ofile fd,
        cwd := none, parent := ((exitTable cfg s i st).procs i).parent, xstate := st,
        state := .zombie, etime := s.ticks } := by
  simp only [exitTable, Kernel.setProc_procs, Function.update_same, wakeup_procs_me, wakeup_ticks]
  rw [reparent_procs_self]
  simp [closeFiles]

theorem exitTable_procs_ne (cfg : Config) (s : Kernel) {i j : Nat} (st : Int) (hj : j ≠ i) :
    (exitTable cfg s i st).procs j =
      { (s.procs j) with
        parent := ((exitTable cfg s i st).procs j).parent,
        state := ((exitTable cfg s i st).procs j).state,
        sleepingTime := ((exitTable cfg s i st).procs j).sleepingTime,
        timeAdded := ((exitTable cfg s i st).procs j).timeAdded,
        noOfTicks := ((exitTable cfg s i st).procs j).noOfTicks } := by
  simp only [exitTable, Kernel.setProc_procs, Function.update_noteq hj]
  rw [wakeup_procs, reparent_procs]
  simp only [closeFiles, Kernel.setProc_procs, Function.update_noteq hj]

theorem exitTable_procs_of_ne_sleeping (cfg : Config) (s : Kernel) {i j : Nat} (st : Int)
    (hj : j ≠ i) (h : (s.procs j).state ≠ .sleeping) :
    (exitTable cfg s i st).procs j =
      { (s.procs j) with parent := ((exitTable cfg s i st).procs j).parent } := by
  have hc : (closeFiles cfg s i).procs j = s.procs j := by
    simp [closeFiles, Function.update_noteq hj]
  have hr := reparent_procs_of_ne_sleeping cfg (closeFiles cfg s i) i (by rwa [hc])
  rw [hc] at hr
  simp only [exitTable, Kernel.setProc_procs, Function.update_noteq hj]
  rw [wakeup_procs_of_ne_sleeping (by rw [hr]; exact h), hr]

def zombieHit (i : Nat) (q : Proc) : Bool :=
  q.parent == some i && q.state == .zombie

/-- One pass of the `for(;;)` of `wait` and `waitx` by process `i`: the pid of the child
it reaps, -1, or `none` when it has live children only and goes to sleep on its slot.
`copyOk` is the result of `copyout` to `addr`. -/
def waitScan (cfg : Config) (s : Kernel) (i addr : Nat) (copyOk : Bool) : Option Int × Kernel :=
  match firstSlot cfg s (zombieHit i) with
  | some j =>
    if addr ≠ 0 ∧ copyOk = false then (some (-1), s)
    else (some (s.procs j).pid, s.setProc j (freeproc (s.procs j)))
  | none => if HasChild cfg s i ∧ (s.procs i).killed = false then (none, s) else (some (-1), s)

@[simp] theorem waitScan_cpus (cfg : Config) (s : Kernel) (i addr : Nat) (copyOk : Bool) :
    (waitScan cfg s i addr copyOk).2.cpus = s.cpus := by
  unfold waitScan; split <;> split_ifs <;> rfl

@[simp] theorem waitScan_lock (cfg : Config) (s : Kernel) (i addr : Nat) (copyOk : Bool) (j : Nat) :
    ((waitScan cfg s i addr copyOk).2.procs j).lock = (s.procs j).lock := by
  unfold waitScan
  split <;> split_ifs <;> simp [Function.update_apply]
  split_ifs <;> simp_all

theorem waitScan_procs_of_ne {cfg : Config} {s : Kernel} {i addr : Nat} {copyOk : Bool} {j : Nat}
    (h : (s.procs j).state ≠ .zombie) : (waitScan cfg s i addr copyOk).2.procs j = s.procs j := by
  unfold waitScan
  split
  · rename_i k hk
    have hjk : j ≠ k := by
      rintro rfl; simp_all [firstSlot_eq_some, zombieHit]
    split_ifs <;> simp [Function.update_noteq hjk]
  · split_ifs <;> rfl

theorem waitScan_none {cfg : Config} {s : Kernel} {i addr : Nat} {copyOk : Bool}
    (h : (waitScan cfg s i addr copyOk).1 = none) :
    (waitScan cfg s i addr copyOk).2 = s ∧ (∀ j < cfg.nproc, zombieHit i (s.procs j) = false) := by
  unfold waitScan at h ⊢
  split at h
  · split_ifs at h
  · rename_i hz
    split_ifs at h ⊢
    exact ⟨rfl, firstSlot_eq_none.mp hz⟩

theorem waitScan_procs_cases (cfg : Config) (s : Kernel) (i addr : Nat) (copyOk : Bool) (j : Nat) :
    (waitScan cfg s i addr copyOk).2.procs j = s.procs j ∨
      (s.procs j).parent = some i ∧ (s.procs j).state = .zombie ∧
        (waitScan cfg s i addr copyOk).2.procs j = freeproc (s.procs j) := by
  unfold waitScan
  split
  · split_ifs
    · exact .inl rfl
    · rename_i k hk _
      by_cases e : j = k
      · subst e
        have := (firstSlot_eq_some.mp hk).2.1
        simp only [zombieHit, Bool.and_eq_true, beq_iff_eq] at this
        exact .inr ⟨this.1, this.2, by simp⟩
      · simp [Function.update_noteq e]
  · split_ifs <;> exact .inl rfl

def WaitFree (cfg : Config) (s : Kernel) (i : Nat) : Prop :=
  ∀ j < cfg.nproc, (s.procs j).parent = some i → (∀ k < j, zombieHit i (s.procs k) = false) →
    (s.procs j).lock = none

instance (cfg : Config) (s : Kernel) (i : Nat) : Decidable (WaitFree cfg s i) :=
  inferInstanceAs (Decidable (∀ j < cfg.nproc, _))

/-- `growproc(n)`. `res` is what `uvmalloc` (0 on failure) or `uvmdealloc` return; the
size passes through the `uint sz` local. -/
def growproc (s : Kernel) (i : Nat) (n : Int) (res : Nat) : Int × Kernel :=
  let p := s.procs i
  if n > 0 then
    if res % 2 ^ 32 = 0 then (-1, s) else (0, s.setProc i { p with sz := res % 2 ^ 32 })
  else if n < 0 then (0, s.setProc i { p with sz := res % 2 ^ 32 })
  else (0, s.setProc i { p with sz := p.sz % 2 ^ 32 })

theorem growproc_procs (s : Kernel) (i : Nat) (n : Int) (res j : Nat) :
    (growproc s i n res).2.procs j = { (s.procs j) with sz := ((growproc s i n res).2.procs j).sz } := by
  unfold growproc
  split_ifs <;> simp only [Kernel.setProc_procs, Function.update_apply] <;> split_ifs <;> (subst_vars; rfl)

end OsnScheduling
