import OsnScheduling.System

/-!
What each kind of step can do: one inversion lemma per action of `step`, stating its
guards and its result, so that the invariants never unfold `step` again.
-/

namespace OsnScheduling

variable {cfg : Config} {s s' : Kernel}

theorem runningAt_eq_some {c : Nat} {pc : CpuPc} {i : Nat} :
    runningAt cfg s c pc = some i ↔ c < cfg.ncpu ∧ (s.cpus c).proc = some i ∧
      (s.cpus c).pc = pc ∧ i < cfg.nproc ∧ (s.procs i).state = .running := by
  unfold runningAt
  cases hj : (s.cpus c).proc with
  | none => simp
  | some j =>
    simp only []
    split_ifs with h
    · simp only [Option.some.injEq]
      constructor
      · rintro rfl; exact ⟨h.1, rfl, h.2⟩
      · rintro ⟨-, rfl, -⟩; rfl
    · simp only [reduceCtorEq, Option.some.injEq, false_iff]
      rintro ⟨h1, rfl, h2⟩; exact h ⟨h1, h2⟩

structure Runs (cfg : Config) (s : Kernel) (c : Nat) (pc : CpuPc) (i : Nat) : Prop where
  cpu_lt : c < cfg.ncpu
  proc_eq : (s.cpus c).proc = some i
  pc_eq : (s.cpus c).pc = pc
  lt : i < cfg.nproc
  running : (s.procs i).state = .running

theorem runs_of_runningAt {c : Nat} {pc : CpuPc} {i : Nat} (h : runningAt cfg s c pc = some i) :
    Runs cfg s c pc i :=
  let ⟨h1, h2, h3, h4, h5⟩ := runningAt_eq_some.mp h
  ⟨h1, h2, h3, h4, h5⟩

theorem step_sched {c : Nat} (h : step cfg s (.sched c) = some s') :
    c < cfg.ncpu ∧ schedStep cfg s c = some s' := by
  simp only [step] at h
  split_ifs at h with hc
  exact ⟨hc, h⟩

def DispatchFrom (cfg : Config) (s : Kernel) (x : Cpu) (j : Nat) : Prop :=
  cfg.policy = .default ∧ (∃ k, x.pc = .loop k) ∧ j < cfg.nproc ∧ (s.procs j).state = .runnable ∨
    (∃ k, x.pc = .loop k) ∧ Scanning cfg.policy x ∧ x.toBeScheduled = some j ∨
    x.pc = .pick ∧ x.toBeScheduled = some j

/-- The five things a scheduler step does: rewrite CPU `c`'s loop record, move locks in a
FCFS or PBS table pass, run MLFQ's `UpgradePolicy` and its level scan, dispatch a slot, or
switch to an MLFQ pick that is not resumable and stop. -/
inductive SchedMove (cfg : Config) (s : Kernel) (c : Nat) : Kernel → Prop
  | cpu (x : Cpu) (hx : x.pc.executing = false) (hp : x.proc = (s.cpus c).proc ∨ x.proc = none) :
      SchedMove cfg s c (s.setCpu c x)
  | lock (k : Nat) (rel : Option Nat) (x : Cpu) (hx : x.pc.executing = false)
      (hp : x.proc = (s.cpus c).proc) : SchedMove cfg s c ((lockStep s c k rel).setCpu c x)
  | upgrade (x : Cpu) (hx : x.pc.executing = false) (hp : x.proc = none) :
      SchedMove cfg s c ((upgradePolicy cfg s).setCpu c x)
  | dispatch (j : Nat) (p : Proc) (hd : DispatchFrom cfg s (s.cpus c) j)
      (hp : p = (s.procs j).onDispatch cfg.policy s.ticks) : SchedMove cfg s c (dispatch s c j p)
  | halt (j : Nat) (p : Proc) (hd : (s.cpus c).pc = .pick ∧ (s.cpus c).toBeScheduled = some j)
      (hr : (s.procs j).state.resumable = false) (hl : (s.procs j).lock = none)
      (hp : p = (s.procs j).onDispatch cfg.policy s.ticks) : SchedMove cfg s c (halt s c j p)

theorem schedStep_move {c : Nat} (h : schedStep cfg s c = some s') :
    (s.cpus c).pc.executing = false ∧ SchedMove cfg s c s' := by
  simp only [schedStep] at h
  split at h
  all_goals repeat' first | split_ifs at h | split at h
  all_goals cases h
  all_goals refine ⟨by simp_all [CpuPc.executing], ?_⟩
  -- pick the constructor by the shape of the result alone, then prove its side conditions
  all_goals first
    | (with_reducible refine .cpu _ ?_ ?_) <;>
        first | rfl | exact .inl rfl | exact .inr rfl | simp_all [CpuPc.executing]
    | (with_reducible refine .lock _ _ _ ?_ ?_) <;> rfl
    | (with_reducible refine .upgrade _ ?_ ?_) <;> rfl
    | skip
  · rename_i k hpol hpc _ _ hr
    exact .dispatch k _ (.inl ⟨hpol, ⟨k, hpc⟩, by assumption, hr⟩) (by rw [hpol]; rfl)
  · rename_i k hpol hpc _ hfs _ j hj
    exact .dispatch j _ (.inr (.inl ⟨⟨k, hpc⟩, .inl ⟨hpol, hfs⟩, hj⟩)) (by rw [hpol]; rfl)
  · rename_i k hpol hpc _ hfs _ j hj
    exact .dispatch j _ (.inr (.inl ⟨⟨k, hpc⟩, .inr ⟨hpol, hfs⟩, hj⟩)) (by rw [hpol])
  · rename_i hpol hpc _ j hj _ _
    exact .dispatch j _ (.inr (.inr ⟨hpc, hj⟩)) (by rw [hpol])
  · rename_i hpol hpc _ j hj hl hr
    exact .halt j _ ⟨hpc, hj⟩ (by simpa using hr) hl (by rw [hpol])

theorem schedStep_table {c : Nat} (h : schedStep cfg s c = some s') :
    (∀ j, s'.procs j = { (s.procs j) with lock := (s'.procs j).lock }) ∨
      s'.procs = (upgradePolicy cfg s).procs ∨ (s'.cpus c).pc = .run ∨ (s'.cpus c).pc = .halted := by
  cases (schedStep_move h).2 with
  | cpu => exact .inl fun j => rfl
  | lock k rel => exact .inl (lockStep_procs s c k rel)
  | upgrade => exact .inr (.inl rfl)
  | dispatch => exact .inr (.inr (.inl (by simp [dispatch])))
  | halt => exact .inr (.inr (.inr (by simp [halt])))

theorem schedStep_dispatch {c : Nat} (h : schedStep cfg s c = some s') (hrun : (s'.cpus c).pc = .run) :
    ∃ j, DispatchFrom cfg s (s.cpus c) j ∧
      s' = dispatch s c j ((s.procs j).onDispatch cfg.policy s.ticks) := by
  cases (schedStep_move h).2 with
  | dispatch j p hd hp => exact ⟨j, hd, hp ▸ rfl⟩
  | halt => simp [halt] at hrun
  | _ x hx => simp_all [CpuPc.executing]

theorem schedStep_halt {c : Nat} (h : schedStep cfg s c = some s') (hh : (s'.cpus c).pc = .halted) :
    ∃ j, (s.cpus c).pc = .pick ∧ (s.cpus c).toBeScheduled = some j ∧
      (s.procs j).state.resumable = false ∧ (s.procs j).lock = none ∧
      s' = halt s c j ((s.procs j).onDispatch cfg.policy s.ticks) := by
  cases (schedStep_move h).2 with
  | halt j p hd hr hl hp => exact ⟨j, hd.1, hd.2, hr, hl, hp ▸ rfl⟩
  | dispatch => simp [dispatch] at hh
  | _ x hx => simp_all [CpuPc.executing]

theorem schedStep_procs {c : Nat} (h : schedStep cfg s c = some s') :
    (∀ j, s'.procs j = { (s.procs j) with lock := (s'.procs j).lock }) ∨
      s'.procs = (upgradePolicy cfg s).procs ∨
      (∃ j, DispatchFrom cfg s (s.cpus c) j ∧
        s' = dispatch s c j ((s.procs j).onDispatch cfg.policy s.ticks)) ∨
      ∃ j, (s.cpus c).pc = .pick ∧ (s.cpus c).toBeScheduled = some j ∧
        (s.procs j).state.resumable = false ∧ (s.procs j).lock = none ∧
        s' = halt s c j ((s.procs j).onDispatch cfg.policy s.ticks) :=
  (schedStep_table h).imp_right (Or.imp_right (Or.imp (schedStep_dispatch h) (schedStep_halt h)))

theorem schedStep_cpu {c : Nat} (h : schedStep cfg s c = some s') :
    ∃ (t : Kernel) (x : Cpu), s' = t.setCpu c x ∧ t.cpus = s.cpus ∧
      (s.cpus c).pc.executing = false ∧
      (x.pc = .run ∨ x.pc = .halted ∨
        x.pc.executing = false ∧ (x.proc = (s.cpus c).proc ∨ x.proc = none)) := by
  obtain ⟨he, hm⟩ := schedStep_move h
  cases hm with
  | cpu x hx hp => exact ⟨_, _, rfl, rfl, he, .inr (.inr ⟨hx, hp⟩)⟩
  | lock k rel x hx hp => exact ⟨_, _, rfl, lockStep_cpus s c k rel, he, .inr (.inr ⟨hx, .inl hp⟩)⟩
  | upgrade x hx hp => exact ⟨_, _, rfl, rfl, he, .inr (.inr ⟨hx, .inr hp⟩)⟩
  | dispatch => exact ⟨_, _, rfl, rfl, he, .inl rfl⟩
  | halt => exact ⟨_, _, rfl, rfl, he, .inr (.inl rfl)⟩

theorem schedStep_globals {c : Nat} (h : schedStep cfg s c = some s') :
    s'.nextpid = s.nextpid ∧ s'.ticks = s.ticks ∧ s'.initproc = s.initproc ∧
      s'.fileRef = s.fileRef := by
  cases (schedStep_move h).2 with
  | lock k rel => cases rel <;> exact ⟨rfl, rfl, rfl, rfl⟩
  | _ => exact ⟨rfl, rfl, rfl, rfl⟩

theorem schedStep_cpus_ne {c c' : Nat} (h : schedStep cfg s c = some s') (e : c' ≠ c) :
    s'.cpus c' = s.cpus c' := by
  obtain ⟨t, x, rfl, ht, -⟩ := schedStep_cpu h
  simp [Function.update_noteq e, ht]

theorem schedStep_pc {c : Nat} (h : schedStep cfg s c = some s') :
    (s'.cpus c).pc = .run ∨ (s'.cpus c).pc = .halted ∨ (s'.cpus c).pc.executing = false := by
  obtain ⟨t, x, rfl, -, -, hx⟩ := schedStep_cpu h
  simpa using hx.imp_right (Or.imp_right And.left)

theorem step_tick (h : step cfg s .tick = some s') : AllFree cfg s none ∧ s' = tick cfg s := by
  simp only [step] at h
  split_ifs at h with h1
  exact ⟨h1, (Option.some.inj h).symm⟩

theorem step_wakeup {c : Nat} {ch : Chan} (h : step cfg s (.wakeup c ch) = some s') :
    c < cfg.ncpu ∧ ch.isProc = false ∧ AllFree cfg s (s.cpus c).proc ∧
      s' = wakeup cfg s (s.cpus c).proc (some ch) := by
  simp only [step] at h
  split_ifs at h with h1
  exact ⟨h1.1, h1.2.1, h1.2.2, (Option.some.inj h).symm⟩

theorem step_fork {c : Nat} {page : Option (TrapFrame × Nat)} {ok : Bool}
    (h : step cfg s (.fork c page ok) = some s') :
    ∃ i, Runs cfg s c .run i ∧ ScanFree cfg s unusedHit ∧
      ((∃ np, (forkAlloc cfg s i page ok).1 = some np ∧
          s' = (forkAlloc cfg s i page ok).2.setCpu c
            { ((forkAlloc cfg s i page ok).2.cpus c) with pc := .forkLink np }) ∨
        ((forkAlloc cfg s i page ok).1 = none ∧ s' = (forkAlloc cfg s i page ok).2)) := by
  simp only [step] at h
  split at h
  · rename_i i hi
    split_ifs at h with hs
    refine ⟨i, runs_of_runningAt hi, hs, ?_⟩
    split at h <;> rename_i t ht <;> simp only [Option.some.injEq] at h <;> simp [ht, h]
  · cases h

theorem step_forkLink {c : Nat} (h : step cfg s (.forkLink c) = some s') :
    ∃ i np, Runs cfg s c (.forkLink np) i ∧
      s' = (forkLink s i np).setCpu c { (s.cpus c) with pc := .forkRun np } := by
  simp only [step] at h
  split at h
  · rename_i np _
    split at h
    · rename_i i hi
      exact ⟨i, np, runs_of_runningAt hi, (Option.some.inj h).symm⟩
    · cases h
  · cases h

theorem step_forkRun {c : Nat} (h : step cfg s (.forkRun c) = some s') :
    ∃ i np, Runs cfg s c (.forkRun np) i ∧ (s.procs np).lock = none ∧
      s' = (forkRun cfg s i np).setCpu c { (s.cpus c) with pc := .run } := by
  simp only [step] at h
  split at h
  · rename_i np _
    split at h
    · rename_i i hi
      split_ifs at h with hl
      exact ⟨i, np, runs_of_runningAt hi, hl, (Option.some.inj h).symm⟩
    · cases h
  · cases h

theorem step_exit {c : Nat} {st : Int} (h : step cfg s (.exit c st) = some s') :
    ∃ i, Runs cfg s c .run i ∧ s.initproc ≠ some i ∧ AllFree cfg s none ∧
      s' = exit cfg s c i st := by
  simp only [step] at h
  split at h
  · rename_i i hi
    split_ifs at h with h1
    exact ⟨i, runs_of_runningAt hi, h1.1, h1.2, (Option.some.inj h).symm⟩
  · cases h

theorem step_wait {c addr : Nat} {ok : Bool} (h : step cfg s (.wait c addr ok) = some s') :
    ∃ i, Runs cfg s c .run i ∧ WaitFree cfg s i ∧
      (((waitScan cfg s i addr ok).1.isSome ∧ s' = (waitScan cfg s i addr ok).2) ∨
        ((waitScan cfg s i addr ok).1 = none ∧ ((waitScan cfg s i addr ok).2.procs i).lock = none ∧
          s' = sleepLock (waitScan cfg s i addr ok).2 c i (.proc i))) := by
  simp only [step] at h
  split at h
  · rename_i i hi
    split_ifs at h with hw
    refine ⟨i, runs_of_runningAt hi, hw, ?_⟩
    split at h
    · rename_i r t ht
      simp only [Option.some.injEq] at h
      simp [ht, h]
    · rename_i t ht
      split_ifs at h with hl
      simp only [Option.some.injEq] at h
      simp [ht, h, hl]
  · cases h

theorem step_sleep {c : Nat} {ch : Chan} (h : step cfg s (.sleep c ch) = some s') :
    ∃ i, Runs cfg s c .run i ∧ ch.isProc = false ∧ (s.procs i).lock = none ∧
      s' = sleepLock s c i ch := by
  simp only [step] at h
  split at h
  · rename_i i hi
    split_ifs at h with h1
    exact ⟨i, runs_of_runningAt hi, h1.1, h1.2, (Option.some.inj h).symm⟩
  · cases h

theorem step_park {c : Nat} (h : step cfg s (.park c) = some s') :
    ∃ i ch, Runs cfg s c (.sleep ch) i ∧ s' = park cfg s c i ch := by
  simp only [step] at h
  split at h
  · rename_i ch _
    split at h
    · rename_i i hi
      split_ifs at h
      exact ⟨i, ch, runs_of_runningAt hi, (Option.some.inj h).symm⟩
    · cases h
  · cases h

theorem step_yield {c : Nat} (h : step cfg s (.yield c) = some s') :
    ∃ i, Runs cfg s c .run i ∧ (s.procs i).lock = none ∧ s' = yield cfg s c i := by
  simp only [step] at h
  split at h
  · rename_i i hi
    split_ifs at h with h1
    exact ⟨i, runs_of_runningAt hi, h1.1, (Option.some.inj h).symm⟩
  · cases h

theorem step_kill {c : Nat} {pid : Int} (h : step cfg s (.kill c pid) = some s') :
    ∃ i, Runs cfg s c .run i ∧ ScanFree cfg s (pidHit pid) ∧ s' = (kill cfg s pid).2 := by
  simp only [step] at h
  split at h
  · rename_i i hi
    split_ifs at h with h1
    exact ⟨i, runs_of_runningAt hi, h1, (Option.some.inj h).symm⟩
  · cases h

theorem step_setPriority {c : Nat} {prio pid : Int}
    (h : step cfg s (.setPriority c prio pid) = some s') :
    ∃ i, Runs cfg s c .run i ∧ ScanFree cfg s (priorityHit pid) ∧
      s' = (setPriorityI cfg s c prio pid).2 := by
  simp only [step] at h
  split at h
  · rename_i i hi
    split_ifs at h with h1
    exact ⟨i, runs_of_runningAt hi, h1, (Option.some.inj h).symm⟩
  · cases h

theorem step_growproc {c : Nat} {n : Int} {res : Nat} (h : step cfg s (.growproc c n res) = some s') :
    ∃ i, Runs cfg s c .run i ∧ s' = (growproc s i n res).2 := by
  simp only [step] at h
  split at h
  · rename_i i hi
    exact ⟨i, runs_of_runningAt hi, (Option.some.inj h).symm⟩
  · cases h

theorem step_fileOpen {c fd f : Nat} (h : step cfg s (.fileOpen c fd f) = some s') :
    ∃ i, Runs cfg s c .run i ∧ fd < cfg.nofile ∧ (s.procs i).ofile fd = none ∧
      s' = fileOpen s i fd f := by
  simp only [step] at h
  split at h
  · rename_i i hi
    split_ifs at h with h1
    exact ⟨i, runs_of_runningAt hi, h1.1, h1.2, (Option.some.inj h).symm⟩
  · cases h

theorem step_fileClose {c fd : Nat} (h : step cfg s (.fileClose c fd) = some s') :
    ∃ i f, Runs cfg s c .run i ∧ fd < cfg.nofile ∧ (s.procs i).ofile fd = some f ∧
      s' = fileClose s i fd f := by
  simp only [step] at h
  split at h
  · rename_i i hi
    split at h
    · rename_i f hf
      split_ifs at h with h1
      exact ⟨i, f, runs_of_runningAt hi, h1, hf, (Option.some.inj h).symm⟩
    · cases h
  · cases h

theorem step_trapLevel {c level : Nat} {n : Int} (h : step cfg s (.trapLevel c level n) = some s') :
    ∃ i, Runs cfg s c .run i ∧ cfg.policy = .mlfq ∧ level < 5 ∧ s' = trapLevel s i level n := by
  simp only [step] at h
  split at h
  · rename_i i hi
    split_ifs at h with h1
    exact ⟨i, runs_of_runningAt hi, h1.1, h1.2, (Option.some.inj h).symm⟩
  · cases h

def Action.own : Action → Option Nat
  | .growproc c .. | .fileOpen c .. | .fileClose c .. | .trapLevel c .. => some c
  | _ => none

/-- A step of the process `i` that CPU `c` runs in fields of its own record that no lock
guards: `growproc`, the descriptor calls and MLFQ's trap accounting. Only the size, the
descriptors, the MLFQ level and tick count of `i`, and the file table change. -/
structure OwnStep (cfg : Config) (s s' : Kernel) (c i : Nat) : Prop where
  runs : Runs cfg s c .run i
  procs : ∀ j, s'.procs j =
    { (s.procs j) with sz := (s'.procs j).sz, ofile := (s'.procs j).ofile,
                       priorityNumber := (s'.procs j).priorityNumber, noOfTicks := (s'.procs j).noOfTicks }
  other : ∀ j, j ≠ i → s'.procs j = s.procs j
  cpus : s'.cpus = s.cpus
  nextpid : s'.nextpid = s.nextpid
  ticks : s'.ticks = s.ticks
  initproc : s'.initproc = s.initproc

theorem OwnStep.refl {c i : Nat} (hr : Runs cfg s c .run i) : OwnStep cfg s s c i :=
  ⟨hr, fun _ => rfl, fun _ _ => rfl, rfl, rfl, rfl, rfl⟩

theorem OwnStep.setProc {c i : Nat} (hr : Runs cfg s c .run i) (p : Proc) (r : Nat → Int)
    (hp : p = { (s.procs i) with sz := p.sz, ofile := p.ofile, priorityNumber := p.priorityNumber,
                                 noOfTicks := p.noOfTicks }) :
    OwnStep cfg s { s.setProc i p with fileRef := r } c i := by
  refine ⟨hr, fun j => ?_, fun j e => by simp [Function.update_noteq e], rfl, rfl, rfl, rfl⟩
  simp only [Kernel.setProc, Function.update_apply]
  split_ifs with e
  · subst e; exact hp
  · rfl

theorem step_own {a : Action} {c : Nat} (hs : step cfg s a = some s') (ha : a.own = some c) :
    ∃ i, OwnStep cfg s s' c i := by
  cases a <;> simp only [Action.own, reduceCtorEq, Option.some.injEq] at ha <;> subst ha
  case growproc n res =>
    obtain ⟨i, hr, rfl⟩ := step_growproc hs
    refine ⟨i, ?_⟩
    unfold growproc
    split_ifs
    · exact .refl hr
    all_goals exact OwnStep.setProc hr _ s.fileRef rfl
  case fileOpen fd f =>
    obtain ⟨i, hr, -, -, rfl⟩ := step_fileOpen hs
    exact ⟨i, OwnStep.setProc hr _ _ rfl⟩
  case fileClose fd =>
    obtain ⟨i, f, hr, -, -, rfl⟩ := step_fileClose hs
    exact ⟨i, OwnStep.setProc hr _ _ rfl⟩
  case trapLevel level n =>
    obtain ⟨i, hr, -, -, rfl⟩ := step_trapLevel hs
    exact ⟨i, OwnStep.setProc hr _ s.fileRef rfl⟩

theorem step_stamp {a : Action} (hs : step cfg s a = some s') (j : Nat) :
    ((s'.procs j).pid = (s.procs j).pid ∨ (s'.procs j).pid = 0 ∨
        (s'.procs j).pid = int32 s.nextpid ∧ s'.nextpid = s.nextpid + 1) ∧
      ((s'.procs j).startTime = (s.procs j).startTime ∨
        (s.procs j).state = .unused ∧ (s'.procs j).startTime = int32 s.ticks) := by
  have upd : ∀ {α : Type} (f : Proc → α) (t : Kernel) (i : Nat) (p : Proc), f p = f (t.procs i) →
      f ((t.setProc i p).procs j) = f (t.procs j) := fun f t i p hp => by
    simp only [Kernel.setProc_procs, Function.update_apply]; split_ifs with e
    · subst e; exact hp
    · rfl
  cases a with
  | sched c =>
    rcases schedStep_procs (step_sched hs).2 with hl | hup | ⟨j', -, rfl⟩ | ⟨j', -, -, -, -, rfl⟩
    · rw [hl j]; exact ⟨.inl rfl, .inl rfl⟩
    · rw [hup]; simp only [upgradePolicy, Kernel.mapProcs_procs]; split_ifs <;> exact ⟨.inl rfl, .inl rfl⟩
    all_goals exact ⟨.inl (upd Proc.pid _ _ _ (by simp)), .inl (upd Proc.startTime _ _ _ (by simp))⟩
  | tick =>
    obtain ⟨-, rfl⟩ := step_tick hs
    simp only [OsnScheduling.tick, updateTime, Kernel.mapProcs_procs]; split_ifs <;> exact ⟨.inl rfl, .inl rfl⟩
  | wakeup c ch =>
    obtain ⟨-, -, -, rfl⟩ := step_wakeup hs
    rw [wakeup_procs]; exact ⟨.inl rfl, .inl rfl⟩
  | fork c page ok =>
    obtain ⟨i, -, -, ⟨np, -, rfl⟩ | ⟨-, rfl⟩⟩ := step_fork hs <;> exact forkAlloc_stamp cfg s i page ok j
  | forkLink c =>
    obtain ⟨i, np, -, rfl⟩ := step_forkLink hs
    exact ⟨.inl (upd Proc.pid _ _ _ rfl), .inl (upd Proc.startTime _ _ _ rfl)⟩
  | forkRun c =>
    obtain ⟨i, np, -, -, rfl⟩ := step_forkRun hs
    rw [Kernel.setCpu_procs, forkRun_procs]; exact ⟨.inl rfl, .inl rfl⟩
  | exit c st =>
    obtain ⟨i, -, -, -, rfl⟩ := step_exit hs
    rw [OsnScheduling.exit, switchOut_procs]
    by_cases e : j = i
    · subst e; rw [exitTable_procs_self]; exact ⟨.inl rfl, .inl rfl⟩
    · rw [exitTable_procs_ne cfg s st e]; exact ⟨.inl rfl, .inl rfl⟩
  | wait c addr ok =>
    obtain ⟨i, -, -, ⟨-, rfl⟩ | ⟨-, -, rfl⟩⟩ := step_wait hs <;> try rw [sleepLock_procs]
    all_goals
      rcases waitScan_procs_cases cfg s i addr ok j with h1 | ⟨-, -, h1⟩ <;> rw [h1]
      · exact ⟨.inl rfl, .inl rfl⟩
      · exact ⟨.inr (.inl rfl), .inl rfl⟩
  | sleep c ch =>
    obtain ⟨i, -, -, -, rfl⟩ := step_sleep hs
    rw [sleepLock_procs]; exact ⟨.inl rfl, .inl rfl⟩
  | park c =>
    obtain ⟨i, ch, -, rfl⟩ := step_park hs
    rw [park, switchOut_procs]; exact ⟨.inl (upd Proc.pid _ _ _ (by simp)), .inl (upd Proc.startTime _ _ _ (by simp))⟩
  | yield c =>
    obtain ⟨i, -, -, rfl⟩ := step_yield hs
    rw [yield, switchOut_procs]; exact ⟨.inl (upd Proc.pid _ _ _ rfl), .inl (upd Proc.startTime _ _ _ rfl)⟩
  | kill c pid =>
    obtain ⟨i, -, -, rfl⟩ := step_kill hs
    rw [kill_procs]; exact ⟨.inl rfl, .inl rfl⟩
  | setPriority c prio pid =>
    obtain ⟨i, -, -, rfl⟩ := step_setPriority hs
    rw [setPriorityI_procs]; exact ⟨.inl rfl, .inl rfl⟩
  | growproc | fileOpen | fileClose | trapLevel =>
    obtain ⟨i, ho⟩ := step_own hs rfl
    rw [ho.procs j]; exact ⟨.inl rfl, .inl rfl⟩

end OsnScheduling
