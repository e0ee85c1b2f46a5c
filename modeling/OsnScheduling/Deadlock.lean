import OsnScheduling.Scans
import OsnScheduling.Pids
import OsnScheduling.Policies

/-!
Who holds the slot locks, and why the CPUs never deadlock on them. A slot lock held from one
step to the next is held by the lock section that took it, the converse of `LockInv`, with
one exception: `set_priority_i` returns 2 from a hit on a slot whose pid is -1 without the
`release` of its loop, and no step gives that lock back. The next step of a CPU can only
wait for the lock of the slot its table loop has reached, or of its MLFQ pick; the CPU that
holds it is putting its process to sleep and can go on, or holds its FCFS or PBS candidate
and waits, if at all, for a slot further down the table. So following the holders ends at a
CPU that can step, or at a lock `set_priority_i` left held.
-/

namespace OsnScheduling

variable {cfg : Config} {s s' : Kernel} {a : Action}

/-! ### Lock ownership -/

/-- The record of a slot whose lock no lock section gives back. Under PBS, `set_priority_i`
keeps the lock of the slot its loop finds when that slot's pid is -1, the value its `Ppid`
starts at. Under FCFS, a pass keeps the lock of a RUNNABLE slot of start_time -1: while
`First_start` reads -1 the next RUNNABLE slot becomes the candidate, and the lock of the one
before is not released. -/
def Proc.Leaks (pol : Policy) (p : Proc) : Prop :=
  pol = .pbs ∧ p.pid = -1 ∧ (p.state = .runnable ∨ p.state = .sleeping) ∨
    pol = .fcfs ∧ p.startTime = -1 ∧ p.state = .runnable

def Leaked (cfg : Config) (s : Kernel) (j : Nat) : Prop :=
  j < cfg.nproc ∧ (s.procs j).Leaks cfg.policy

theorem Proc.Leaks.state {pol : Policy} {p : Proc} (h : p.Leaks pol) :
    p.state = .runnable ∨ p.state = .sleeping := by
  rcases h with ⟨-, -, h⟩ | ⟨-, -, h⟩
  · exact h
  · exact .inl h

theorem Proc.Leaks.of_eq {pol : Policy} {p q : Proc} (h : p.Leaks pol) (hpid : q.pid = p.pid)
    (hst : q.state = p.state) (hstart : q.startTime = p.startTime) : q.Leaks pol := by
  unfold Proc.Leaks; rw [hpid, hst, hstart]; exact h

def ScanOk (n : Nat) (pol : Policy) (x : Cpu) : Prop :=
  (∀ k, x.pc = .loop k → Scanning pol x → ∃ j < k, x.toBeScheduled = some j) ∧
    (x.pc = .pick → ∃ j < n, x.toBeScheduled = some j) ∧ x.rrS < n

/-- Every slot lock held between steps is held by a CPU of the machine for the section that
took it (`Cpu.held`), or was left held by `set_priority_i`. -/
structure LockOwned (cfg : Config) (s : Kernel) : Prop where
  locks : ∀ j c, (s.procs j).lock = some c →
    j < cfg.nproc ∧ c < cfg.ncpu ∧ ((s.cpus c).held cfg.policy = some j ∨ Leaked cfg s j)
  scans : ∀ c, ScanOk cfg.nproc cfg.policy (s.cpus c)

theorem Leaked.of_eq {j : Nat} (h : Leaked cfg s j) (hpid : (s'.procs j).pid = (s.procs j).pid)
    (hst : (s'.procs j).state = (s.procs j).state)
    (hstart : (s'.procs j).startTime = (s.procs j).startTime) : Leaked cfg s' j :=
  ⟨h.1, h.2.of_eq hpid hst hstart⟩

theorem Leaked.of_record {j : Nat} {q : Proc} (h : Leaked cfg s j) (he : s'.procs j = q)
    (hpid : q.pid = (s.procs j).pid) (hst : q.state = (s.procs j).state)
    (hstart : q.startTime = (s.procs j).startTime) : Leaked cfg s' j :=
  h.of_eq (he ▸ hpid) (he ▸ hst) (he ▸ hstart)

theorem Leaked.setProc {t : Kernel} {i j : Nat} {p : Proc} (h : Leaked cfg t j)
    (hp : p.pid = (t.procs i).pid) (hst : p.state = (t.procs i).state)
    (hstart : p.startTime = (t.procs i).startTime) : Leaked cfg (t.setProc i p) j := by
  by_cases e : j = i
  · subst e; exact h.of_eq (by simpa using hp) (by simpa using hst) (by simpa using hstart)
  · exact h.of_eq (by simp [Function.update_noteq e]) (by simp [Function.update_noteq e])
      (by simp [Function.update_noteq e])

theorem Leaked.setProc_ne {t : Kernel} {i j : Nat} {p : Proc} (h : Leaked cfg t j) (e : j ≠ i) :
    Leaked cfg (t.setProc i p) j :=
  h.of_eq (by simp [Function.update_noteq e]) (by simp [Function.update_noteq e])
    (by simp [Function.update_noteq e])

theorem ScanOk.of_executing {n : Nat} {pol : Policy} {x : Cpu} (hx : x.pc.executing)
    (hr : x.rrS < n) : ScanOk n pol x :=
  ⟨fun k hk => by simp [hk, CpuPc.executing] at hx, fun hk => by simp [hk, CpuPc.executing] at hx, hr⟩

theorem ScanOk.resume {n : Nat} (pol : Policy) (x : Cpu) (i : Nat) (hr : x.rrS < n) :
    ScanOk n pol (x.resume pol i) := by
  unfold Cpu.resume; split
  · exact ⟨fun _ _ hs => by simp [Scanning, *] at hs, nofun, hr⟩
  · exact ⟨nofun, nofun, hr⟩

variable {c : Nat}

theorem LockOwned.frame (c : Nat) (h : LockOwned cfg s) (hcpus : ∀ c', c' ≠ c → s'.cpus c' = s.cpus c')
    (hscan : ScanOk cfg.nproc cfg.policy (s'.cpus c))
    (hlock : ∀ j c', (s'.procs j).lock = some c' → (s.procs j).lock = some c' ∨
      c' = c ∧ j < cfg.nproc ∧ c < cfg.ncpu ∧ ((s'.cpus c).held cfg.policy = some j ∨ Leaked cfg s' j))
    (hheld : ∀ j, (s.cpus c).held cfg.policy = some j → (s'.procs j).lock = some c →
      (s'.cpus c).held cfg.policy = some j)
    (hkeep : ∀ j, Leaked cfg s j → (s'.procs j).lock ≠ none → Leaked cfg s' j) :
    LockOwned cfg s' := by
  refine ⟨fun j c' hj => ?_, fun c' => ?_⟩
  · rcases hlock j c' hj with hj0 | ⟨rfl, hh⟩
    · obtain ⟨hlt, hc', hh | hl⟩ := h.locks j c' hj0
      · refine ⟨hlt, hc', .inl ?_⟩
        by_cases e : c' = c
        · subst e; exact hheld j hh hj
        · rw [hcpus c' e]; exact hh
      · exact ⟨hlt, hc', .inr (hkeep j hl (by simp [hj]))⟩
    · exact hh
  · by_cases e : c' = c
    · subst e; exact hscan
    · rw [hcpus c' e]; exact h.scans c'

theorem LockOwned.quiet (h : LockOwned cfg s) (hcpus : s'.cpus = s.cpus)
    (hlock : ∀ j, (s'.procs j).lock = (s.procs j).lock)
    (hkeep : ∀ j, Leaked cfg s j → (s.procs j).lock ≠ none → Leaked cfg s' j) : LockOwned cfg s' :=
  LockOwned.frame 0 h (fun _ _ => by rw [hcpus]) (hcpus ▸ h.scans 0)
    (fun j c' hj => .inl (by rwa [← hlock])) (fun j hh _ => by rwa [hcpus])
    (fun j hl hj => hkeep j hl (by rwa [← hlock]))

theorem LockOwned.setCpu {x : Cpu} (h : LockOwned cfg s) (hx : ScanOk cfg.nproc cfg.policy x)
    (hheld : (s.cpus c).held cfg.policy = none ∨ x.held cfg.policy = (s.cpus c).held cfg.policy) :
    LockOwned cfg (s.setCpu c x) :=
  LockOwned.frame c h (fun c' e => by simp [Function.update_noteq e]) (by simpa using hx)
    (fun j c' hj => .inl hj)
    (fun j hh _ => by rcases hheld with e | e <;> simp_all)
    (fun j hl _ => hl)

theorem LockOwned.dispatch {j : Nat} {p : Proc} (h : LockOwned cfg s)
    (hheld : (s.cpus c).held cfg.policy = none ∨ (s.cpus c).held cfg.policy = some j) :
    LockOwned cfg (OsnScheduling.dispatch s c j p) := by
  have hne : ∀ j', j' ≠ j → (OsnScheduling.dispatch s c j p).procs j' = s.procs j' := fun j' e => by
    simp [OsnScheduling.dispatch, Function.update_noteq e]
  have hj : ((OsnScheduling.dispatch s c j p).procs j).lock = none := by simp [OsnScheduling.dispatch]
  refine LockOwned.frame c h (fun c' e => by simp [OsnScheduling.dispatch, Function.update_noteq e])
    (.of_executing (by simp [OsnScheduling.dispatch, CpuPc.executing])
      (by simpa [OsnScheduling.dispatch] using (h.scans c).2.2)) (fun j' c' hj' => .inl ?_)
    (fun j' hh hj' => ?_) (fun j' hl hj' => ?_)
  · by_cases e : j' = j
    · subst e; simp [hj] at hj'
    · rwa [hne j' e] at hj'
  · rcases hheld with e | e <;> rw [e] at hh <;> cases hh; simp [hj] at hj'
  · have e : j' ≠ j := by rintro rfl; exact hj' hj
    exact hl.of_record (hne j' e) rfl rfl rfl

theorem LockOwned.halt {j : Nat} {p : Proc} (h : LockOwned cfg s) (hc : c < cfg.ncpu)
    (hj : j < cfg.nproc) (hpol : cfg.policy = .mlfq) (hheld : (s.cpus c).held cfg.policy = none)
    (hl : (s.procs j).lock = none) : LockOwned cfg (OsnScheduling.halt s c j p) := by
  refine LockOwned.frame c h (fun c' e => by simp [OsnScheduling.halt, Function.update_noteq e])
    (.of_executing (by simp [OsnScheduling.halt, CpuPc.executing])
      (by simpa [OsnScheduling.halt] using (h.scans c).2.2)) (fun j' c' hj' => ?_)
    (fun j' hh _ => by simp [hheld] at hh) (fun j' hl' _ => by simp [Leaked, Proc.Leaks, hpol] at hl')
  by_cases e : j' = j
  · subst e
    simp only [OsnScheduling.halt, Kernel.setCpu_procs, Kernel.setProc_procs, Function.update_same,
      Option.some.injEq] at hj'
    subst hj'
    exact .inr ⟨rfl, hj, hc, .inl (by simp [OsnScheduling.halt, Cpu.held])⟩
  · exact .inl (by simpa [OsnScheduling.halt, Function.update_noteq e] using hj')

theorem LockOwned.switchOut {i : Nat} (h : LockOwned cfg s)
    (hheld : (s.cpus c).held cfg.policy = none ∨ (s.cpus c).held cfg.policy = some i) :
    LockOwned cfg (OsnScheduling.switchOut cfg s c i) := by
  refine LockOwned.frame c h (fun c' e => switchOut_cpus_ne cfg s i e)
    (by simpa using ScanOk.resume cfg.policy _ i (h.scans c).2.2) (fun j c' hj => .inl ?_)
    (fun j hh hj => ?_) (fun j hl hj => ?_)
  · rw [switchOut_lock] at hj; split_ifs at hj; exact hj
  · rw [switchOut_lock] at hj
    rcases hheld with e | e <;> rw [e] at hh <;> cases hh; simp at hj
  · have e : j ≠ i := by rintro rfl; simp [switchOut_lock] at hj
    exact hl.of_record (switchOut_procs_ne cfg s c e) rfl rfl rfl

theorem LockOwned.sleepLock {i : Nat} {ch : Chan} (h : LockOwned cfg s) (hr : Runs cfg s c .run i)
    (hi : (s.procs i).lock = none) : LockOwned cfg (OsnScheduling.sleepLock s c i ch) := by
  have hheld : (s.cpus c).held cfg.policy = none := by simp [Cpu.held, hr.pc_eq]
  refine LockOwned.frame c h (fun c' e => sleepLock_cpus_ne s i ch e)
    (.of_executing (by simp [CpuPc.executing]) (by simpa using (h.scans c).2.2)) (fun j c' hj => ?_)
    (fun j hh _ => by simp_all)
    (fun j hl hj => hl.of_eq (by rw [sleepLock_procs]) (by simp) (by rw [sleepLock_procs]))
  by_cases e : j = i
  · subst e
    simp only [OsnScheduling.sleepLock, Kernel.setCpu_procs, Kernel.setProc_procs,
      Function.update_same, Option.some.injEq] at hj
    subst hj
    exact .inr ⟨rfl, hr.lt, hr.cpu_lt, .inl (by simp [Cpu.held, hr.proc_eq])⟩
  · left; simpa [OsnScheduling.sleepLock, Function.update_noteq e] using hj

theorem LockOwned.scan {k : Nat} {rel : Option Nat} {x : Cpu} (h : LockOwned cfg s)
    (hpc : (s.cpus c).pc = .loop k) (hk : (s.procs k).lock = none) (hlt : k < cfg.nproc)
    (hc : c < cfg.ncpu) (hx : x.pc = .loop (k + 1)) (hrr : x.rrS < cfg.nproc)
    (hit : x.toBeScheduled = some k ∧ (Scanning cfg.policy x ∨ (s.procs k).Leaks cfg.policy) ∧
        (rel = none ∧ ¬ Scanning cfg.policy (s.cpus c) ∨
          Scanning cfg.policy (s.cpus c) ∧ rel = (s.cpus c).toBeScheduled) ∨
      rel = some k ∧ x.toBeScheduled = (s.cpus c).toBeScheduled ∧
        (Scanning cfg.policy x ↔ Scanning cfg.policy (s.cpus c))) :
    LockOwned cfg ((OsnScheduling.lockStep s c k rel).setCpu c x) := by
  have hscan : ScanOk cfg.nproc cfg.policy x := by
    refine ⟨fun k' hk' hs => ?_, fun hp => by simp [hx] at hp, hrr⟩
    rw [hx] at hk'; cases hk'
    rcases hit with ⟨ht, -⟩ | ⟨-, ht, hiff⟩
    · exact ⟨k, Nat.lt_succ_self k, ht⟩
    · obtain ⟨j, hj, e⟩ := (h.scans c).1 k hpc (hiff.1 hs)
      exact ⟨j, Nat.lt_succ_of_lt hj, ht.trans e⟩
  refine LockOwned.frame c h (fun c' e => by simp [Function.update_noteq e]) (by simpa using hscan)
    (fun j c' hj => ?_) (fun j hh hj => ?_) (fun j hl _ => hl.of_eq (by
      rw [Kernel.setCpu_procs, lockStep_procs]) (by simp) (by rw [Kernel.setCpu_procs, lockStep_procs]))
  · simp only [Kernel.setCpu_procs, lockStep_lock] at hj
    split_ifs at hj with h1 h2
    · subst h2; cases hj
      rcases hit with ⟨ht, hs | hlk, -⟩ | ⟨rfl, -⟩
      · exact .inr ⟨rfl, hlt, hc, .inl (by simp [Cpu.held, hx, hs, ht])⟩
      · exact .inr ⟨rfl, hlt, hc, .inr ⟨hlt, hlk.of_eq (by rw [Kernel.setCpu_procs, lockStep_procs])
          (by simp) (by rw [Kernel.setCpu_procs, lockStep_procs])⟩⟩
      · exact absurd rfl h1
    · exact .inl hj
  · simp only [Cpu.held, hpc] at hh
    split_ifs at hh with hs
    simp only [Kernel.setCpu_procs, lockStep_lock] at hj
    simp only [Kernel.setCpu_cpus, Function.update_same, Cpu.held, hx]
    rcases hit with ⟨-, -, ⟨-, hn⟩ | ⟨-, rfl⟩⟩ | ⟨-, ht, hiff⟩
    · exact absurd hs hn
    · simp [hh] at hj
    · rw [if_pos (hiff.2 hs), ht, hh]

theorem scanning_fcfs {pol : Policy} {x : Cpu} (hp : pol = .fcfs) : Scanning pol x ↔ x.firstStart ≠ -1 := by
  simp [Scanning, hp]

theorem scanning_pbs {pol : Policy} {x : Cpu} (hp : pol = .pbs) : Scanning pol x ↔ x.intialized ≠ -1 := by
  simp [Scanning, hp]

theorem held_of_scanning {k : Nat} (hpc : (s.cpus c).pc = .loop k)
    (hs : Scanning cfg.policy (s.cpus c)) {j : Nat} (ht : (s.cpus c).toBeScheduled = some j) :
    (s.cpus c).held cfg.policy = some j := by
  simp [Cpu.held, hpc, hs, ht]

theorem LockOwned.sched (h : LockOwned cfg s) (hc : c < cfg.ncpu) (hs : schedStep cfg s c = some s') : LockOwned cfg s' := by
  have hrr := (h.scans c).2.2
  have top : ∀ x : Cpu, (s.cpus c).pc = .top → ScanOk cfg.nproc cfg.policy x → LockOwned cfg (s.setCpu c x) :=
    fun x hpc hx => h.setCpu hx (.inl (by simp [Cpu.held, hpc]))
  unfold OsnScheduling.schedStep at hs
  dsimp only at hs
  split at hs
  · rename_i hpol hpc
    cases hs; exact top _ hpc ⟨fun _ _ hs => absurd hs.policy (by simp [hpol]), nofun, hrr⟩
  · rename_i k hpol hpc
    have hheld : (s.cpus c).held cfg.policy = none := by simp [Cpu.held, hpc, Scanning, hpol]
    split_ifs at hs <;> cases hs
    · exact h.dispatch (.inl hheld)
    all_goals exact h.setCpu ⟨fun _ _ hs => absurd hs.policy (by simp [hpol]), nofun, hrr⟩ (.inl hheld)
  · rename_i hpol hpc
    cases hs; exact top _ hpc ⟨fun _ _ hs => ((scanning_fcfs hpol).1 hs rfl).elim, nofun, hrr⟩
  · rename_i k hpol hpc
    split_ifs at hs with hl hk hfs
    · cases hs
      refine h.scan hpc hk hl hc rfl hrr ?_
      simp only [scanning_fcfs hpol]
      have hleak : (s.procs k).state = .runnable →
          (s.procs k).startTime ≠ -1 ∨ (s.procs k).Leaks cfg.policy :=
        fun hr => (ne_or_eq _ _).imp_right fun e => .inr ⟨hpol, e, hr⟩
      unfold fcfsIter
      split_ifs with h1 h2 h3
      · exact .inl ⟨rfl, hleak h1, .inl ⟨rfl, not_not.2 h2⟩⟩
      · exact .inl ⟨rfl, hleak h1, .inr ⟨h2, rfl⟩⟩
      · exact .inr ⟨rfl, rfl, Iff.rfl⟩
      · exact .inr ⟨rfl, rfl, Iff.rfl⟩
    · cases hs
      exact h.setCpu ⟨nofun, nofun, hrr⟩ (.inl (by simp [Cpu.held, hpc, Scanning, hpol, hfs]))
    · split at hs <;> cases hs
      exact h.dispatch (.inr (held_of_scanning hpc (.inl ⟨hpol, hfs⟩) ‹_›))
  · rename_i hpol hpc
    cases hs; exact top _ hpc ⟨fun _ _ hs => ((scanning_pbs hpol).1 hs rfl).elim, nofun, hrr⟩
  · rename_i k hpol hpc
    split_ifs at hs with hl hk hfs
    · cases hs
      refine h.scan hpc hk hl hc rfl hrr ?_
      simp only [scanning_pbs hpol]
      unfold pbsIter
      split_ifs with h1 h2 h3
      · exact .inl ⟨rfl, .inl (show (0 : Int) ≠ -1 by decide), .inl ⟨rfl, not_not.2 h2⟩⟩
      · exact .inl ⟨rfl, .inl h2, .inr ⟨h2, rfl⟩⟩
      · exact .inr ⟨rfl, rfl, Iff.rfl⟩
      · exact .inr ⟨rfl, rfl, Iff.rfl⟩
    · cases hs
      exact h.setCpu ⟨nofun, nofun, hrr⟩ (.inl (by simp [Cpu.held, hpc, Scanning, hpol, hfs]))
    · split at hs <;> cases hs
      exact h.dispatch (.inr (held_of_scanning hpc (.inr ⟨hpol, hfs⟩) ‹_›))
  · rename_i hpol hpc
    have hu : LockOwned cfg (upgradePolicy cfg s) :=
      h.quiet rfl (upgradePolicy_lock cfg s) fun j hl _ => by simp [Leaked, Proc.Leaks, hpol] at hl
    split at hs <;> cases hs
    · rename_i j hj
      exact hu.setCpu ⟨nofun, fun _ => ⟨_, (levelScan_some hj).1, rfl⟩, hrr⟩ (.inl (by simp [Cpu.held, hpc]))
    · exact hu.setCpu ⟨nofun, nofun, hrr⟩ (.inl (by simp [Cpu.held, hpc]))
  · rename_i hpol hpc
    have hheld : (s.cpus c).held cfg.policy = none := by simp [Cpu.held, hpc]
    split_ifs at hs <;> cases hs
    · exact h.setCpu ⟨nofun, fun _ => ⟨_, hrr, rfl⟩, Nat.mod_lt _ cfg.nproc_pos⟩ (.inl hheld)
    · exact h.setCpu ⟨fun _ e => by simp [hpc] at e, fun e => by simp [hpc] at e,
        Nat.mod_lt _ cfg.nproc_pos⟩ (.inl hheld)
  · rename_i hpol hpc
    have hheld : (s.cpus c).held cfg.policy = none := by simp [Cpu.held, hpc]
    split at hs
    · rename_i j ht
      obtain ⟨j', hj', e⟩ := (h.scans c).2.1 hpc
      rw [ht, Option.some.injEq] at e
      subst e
      split_ifs at hs with hl <;> cases hs
      · exact h.dispatch (.inl hheld)
      · exact h.halt hc hj' hpol hheld hl
    · cases hs
  · cases hs

theorem kill_procs_of_locked {pid : Int} {j : Nat} (hf : ScanFree cfg s (pidHit pid))
    (hj : (s.procs j).lock ≠ none) : (kill cfg s pid).2.procs j = s.procs j := by
  unfold kill
  split
  · rfl
  · rename_i i hi
    obtain ⟨hlt, -, hbefore⟩ := firstSlot_eq_some.mp hi
    have e : j ≠ i := by rintro rfl; exact hj (hf j hlt hbefore)
    simp [Function.update_noteq e]

theorem setPriorityI_lock_some {priority pid : Int} {cpu j c' : Nat}
    (h : ((setPriorityI cfg s cpu priority pid).2.procs j).lock = some c') :
    (s.procs j).lock = some c' ∨ c' = cpu ∧ cfg.policy = .pbs ∧
      firstSlot cfg s (priorityHit pid) = some j ∧ (s.procs j).pid = -1 := by
  unfold setPriorityI at h
  split_ifs at h with h1 h2
  · exact .inl h
  · exact .inl h
  · split at h
    · exact .inl h
    · rename_i i hi
      dsimp only at h
      split_ifs at h with h3 <;> simp only [Kernel.setProc_procs, Function.update_apply] at h <;>
        split_ifs at h with e
      · subst e; cases h; exact .inr ⟨rfl, not_not.1 h1, hi, h3⟩
      · exact .inl h
      · subst e; exact .inl h
      · exact .inl h

theorem LockOwned.step (h : LockOwned cfg s) (hs : step cfg s a = some s') : LockOwned cfg s' := by
  have busy : ∀ j, Leaked cfg s j → (s.procs j).lock ≠ none → ¬ AllFree cfg s none :=
    fun j hl hj hf => hj (hf j hl.1 (by simp))
  have notRunning : ∀ {i j}, (s.procs i).state = .running → Leaked cfg s j → j ≠ i := by
    rintro i j hi hl rfl; rcases hl.2.state with e | e <;> rw [hi] at e <;> cases e
  cases a with
  | sched c => exact h.sched (step_sched hs).1 (step_sched hs).2
  | tick =>
    obtain ⟨hf, rfl⟩ := step_tick hs
    exact h.quiet (by simp [tick]) (by simp) fun j hl hj => absurd hf (busy j hl hj)
  | wakeup c ch =>
    obtain ⟨-, -, hf, rfl⟩ := step_wakeup hs
    refine h.quiet rfl (by simp) fun j hl hj => hl.of_record ?_ rfl rfl rfl
    have e : some j = (s.cpus c).proc := by by_contra e; exact hj (hf j hl.1 e)
    rw [← e, wakeup_procs_me]
  | fork c page ok =>
    obtain ⟨i, hr, -, hres⟩ := step_fork hs
    have hq : LockOwned cfg (forkAlloc cfg s i page ok).2 :=
      h.quiet (by simp) (by simp) fun j hl _ => hl.of_record
        (forkAlloc_procs_of_ne (by rcases hl.2.state with e | e <;> rw [e] <;> decide)) rfl rfl rfl
    rcases hres with ⟨np, -, rfl⟩ | ⟨-, rfl⟩
    · exact hq.setCpu (.of_executing (by simp [CpuPc.executing]) (by simpa using (h.scans c).2.2))
        (.inl (by simp [Cpu.held, hr.pc_eq]))
    · exact hq
  | forkLink c =>
    obtain ⟨i, np, hr, rfl⟩ := step_forkLink hs
    have hq : LockOwned cfg (forkLink s i np) :=
      h.quiet rfl (by simp) fun j hl _ => hl.setProc rfl rfl rfl
    exact hq.setCpu (.of_executing (by simp [CpuPc.executing]) (by simpa using (h.scans c).2.2))
      (.inl (by simp [Cpu.held, hr.pc_eq]))
  | forkRun c =>
    obtain ⟨i, np, hr, hnp, rfl⟩ := step_forkRun hs
    have hq : LockOwned cfg (forkRun cfg s i np) := h.quiet (by simp) (by simp) fun j hl hj =>
      hl.of_eq (by rw [forkRun_procs]) (by rw [forkRun_state, if_neg (by rintro rfl; exact hj hnp)])
        (by rw [forkRun_procs])
    exact hq.setCpu (.of_executing (by simp [CpuPc.executing]) (by simpa using (h.scans c).2.2))
      (.inl (by simp [Cpu.held, hr.pc_eq]))
  | exit c st =>
    obtain ⟨i, hr, -, hf, rfl⟩ := step_exit hs
    have hq : LockOwned cfg (exitTable cfg s i st) :=
      h.quiet (by simp) (by simp) fun j hl hj => absurd hf (busy j hl hj)
    exact hq.switchOut (.inl (by simp [Cpu.held, hr.pc_eq]))
  | wait c addr ok =>
    obtain ⟨i, hr, -, ⟨-, rfl⟩ | ⟨hn, hl, rfl⟩⟩ := step_wait hs
    · refine h.quiet (by simp) (by simp) fun j hl _ => ?_
      rcases waitScan_procs_cases cfg s i addr ok j with e | ⟨-, hz, -⟩
      · exact hl.of_record e rfl rfl rfl
      · rcases hl.2.state with e | e <;> rw [e] at hz <;> cases hz
    · rw [(waitScan_none hn).1] at hl ⊢
      exact h.sleepLock hr hl
  | sleep c ch =>
    obtain ⟨i, hr, -, hl, rfl⟩ := step_sleep hs
    exact h.sleepLock hr hl
  | park c =>
    obtain ⟨i, ch, hr, rfl⟩ := step_park hs
    have hq : LockOwned cfg (s.setProc i ((s.procs i).sleepOn cfg.policy s.ticks ch)) :=
      h.quiet rfl (setProc_lock (by simp)) fun j hl _ => hl.setProc_ne (notRunning hr.running hl)
    exact hq.switchOut (.inr (by simp [Cpu.held, hr.pc_eq, hr.proc_eq]))
  | yield c =>
    obtain ⟨i, hr, -, rfl⟩ := step_yield hs
    have hq : LockOwned cfg (s.setProc i { (s.procs i) with state := .runnable }) :=
      h.quiet rfl (setProc_lock rfl) fun j hl _ => hl.setProc_ne (notRunning hr.running hl)
    exact hq.switchOut (.inl (by simp [Cpu.held, hr.pc_eq]))
  | kill c pid =>
    obtain ⟨i, -, hf, rfl⟩ := step_kill hs
    exact h.quiet (by simp) (by simp) fun j hl hj => hl.of_record (kill_procs_of_locked hf hj) rfl rfl rfl
  | setPriority c prio pid =>
    obtain ⟨i, hr, -, rfl⟩ := step_setPriority hs
    have hkeep : ∀ j, Leaked cfg s j → Leaked cfg (setPriorityI cfg s c prio pid).2 j := fun j hl =>
      hl.of_eq (by rw [setPriorityI_procs]) (by simp) (by rw [setPriorityI_procs])
    refine LockOwned.frame c h (fun c' _ => by simp) (by simpa using h.scans c) (fun j c' hj => ?_)
      (fun j hh _ => by simpa using hh) (fun j hl _ => hkeep j hl)
    rcases setPriorityI_lock_some hj with e | ⟨rfl, hp, hfs, hpid⟩
    · exact .inl e
    · obtain ⟨hlt, hhit, -⟩ := firstSlot_eq_some.mp hfs
      simp only [priorityHit, Bool.and_eq_true, Bool.or_eq_true, beq_iff_eq] at hhit
      exact .inr ⟨rfl, hlt, hr.cpu_lt, .inr ⟨hlt, .inl ⟨hp, by rw [setPriorityI_procs]; exact hpid,
        by simpa using hhit.1⟩⟩⟩
  | growproc | fileOpen | fileClose | trapLevel =>
    obtain ⟨i, ho⟩ := step_own hs rfl
    have e := ho.procs
    exact h.quiet ho.cpus (fun j => by rw [e j]) fun j hl _ => hl.of_eq (by rw [e j]) (by rw [e j]) (by rw [e j])

theorem LockOwned.boot (tf : TrapFrame) (pt root : Nat) :
    LockOwned cfg (OsnScheduling.boot cfg tf pt root) := by
  refine ⟨fun j c hj => ?_, fun c => ?_⟩
  · by_cases e : j = 0
    · subst e
      simp only [OsnScheduling.boot, userinit, allocproc, firstSlot_zero, allocpid] at hj
      simp [Kernel.zero, Proc.zero] at hj
    · simp [boot_procs_ne cfg tf pt root e, Proc.zero] at hj
  · have hc : (OsnScheduling.boot cfg tf pt root).cpus c = Cpu.zero := by simp [OsnScheduling.boot, Kernel.zero]
    rw [hc]; exact ⟨nofun, nofun, cfg.nproc_pos⟩

theorem Reachable.lockOwned (h : Reachable cfg s) : LockOwned cfg s := by
  induction h with
  | boot tf pt root => exact LockOwned.boot tf pt root
  | step a _ hs ih => exact ih.step hs

theorem LockOwned.holds_leaked {i : Nat} (ho : LockOwned cfg s) (hh : ¬ HoldsOnly cfg s c i)
    (hheld : ∀ k, (s.cpus c).held cfg.policy = some k → k = i) :
    ∃ k, (s.procs k).lock = some c ∧ Leaked cfg s k := by
  simp only [HoldsOnly, not_forall] at hh
  obtain ⟨k, -, hkc, hki⟩ := hh
  obtain ⟨-, -, hh' | hL⟩ := ho.locks k c hkc
  · exact absurd (hheld k hh') hki
  · exact ⟨k, hkc, hL⟩

/-! ### Deadlock freedom

A CPU spins only in `scheduler()`, on the lock of the slot its loop is at or of the MLFQ
pick. The lock's holder is a CPU that sleeps and can `sched()`, or a scanning CPU whose
candidate the slot is, and which spins, if at all, on a slot further on; or the lock is
leaked. Following the holders therefore ends at a CPU that can step, or at a leaked lock. -/

def nextStep (c : Nat) (x : Cpu) : Action :=
  match x.pc with
  | .run => .yield c
  | .sleep _ => .park c
  | .forkLink _ => .forkLink c
  | .forkRun _ => .forkRun c
  | _ => .sched c

def Cpu.wants (n : Nat) (x : Cpu) : Option Nat :=
  match x.pc with
  | .loop k => if k < n then some k else none
  | .pick => x.toBeScheduled
  | _ => none

def WaitsFor (cfg : Config) (s : Kernel) (c c' : Nat) : Prop :=
  ∃ j, (s.cpus c).wants cfg.nproc = some j ∧ (s.procs j).lock = some c'

/-- A chain of waiting CPUs ends at CPU `c`: its next step is enabled, it spins on a leaked
lock, or it holds one, so that its next `sched()` panics. -/
def ChainEnd (cfg : Config) (s : Kernel) (c : Nat) : Prop :=
  (step cfg s (nextStep c (s.cpus c))).isSome ∨
    (∃ j, (s.cpus c).wants cfg.nproc = some j ∧ Leaked cfg s j) ∨
    ∃ j, (s.procs j).lock = some c ∧ Leaked cfg s j

section Progress

variable (hw : Wf cfg s) (ho : LockOwned cfg s)
include hw ho

theorem LockOwned.holder {j c' : Nat} (hj : (s.procs j).lock = some c') :
    j < cfg.nproc ∧ c' < cfg.ncpu ∧
      ((∃ ch, (s.cpus c').pc = .sleep ch) ∧ (s.cpus c').proc = some j ∧ (s.procs j).state = .running ∨
        (∃ k, (s.cpus c').pc = .loop k ∧ j < k) ∧ (s.procs j).state = .runnable ∨ Leaked cfg s j) := by
  obtain ⟨hlt, hc, hh | hl⟩ := ho.locks j c' hj
  · refine ⟨hlt, hc, ?_⟩
    have hok := hw.cpus c' hc
    unfold Cpu.held at hh
    split at hh
    · rename_i ch hpc
      obtain ⟨i, hi, -, hr⟩ := hok.runsRunning (by simp [hpc, CpuPc.executing])
      rw [hi] at hh; cases hh
      exact .inl ⟨⟨ch, hpc⟩, hi, hr⟩
    · rename_i hpc
      simp [CpuOk, hpc] at hok
    · rename_i k hpc
      split_ifs at hh with hs
      obtain ⟨j', hj', ht⟩ := (ho.scans c').1 k hpc hs
      rw [hh] at ht; cases ht
      obtain ⟨-, hok⟩ := hok
      simp only [hpc] at hok
      exact .inr (.inl ⟨⟨k, hpc, hj'⟩, (hok.2.2 j hs hh).2⟩)
    · cases hh
  · exact ⟨hlt, hc, .inr (.inr hl)⟩

theorem LockOwned.lock_state {j c' : Nat} (hj : (s.procs j).lock = some c') :
    (s.procs j).state = .running ∨ (s.procs j).state = .runnable ∨ (s.procs j).state = .sleeping := by
  obtain ⟨-, -, ⟨-, -, h⟩ | ⟨-, h⟩ | hl⟩ := ho.holder hw hj
  · exact .inl h
  · exact .inr (.inl h)
  · exact .inr hl.2.state

theorem LockOwned.running_free {c i : Nat} {pc : CpuPc} (hr : Runs cfg s c pc i)
    (he : pc.executing) (hpc : ∀ ch, pc ≠ .sleep ch) : (s.procs i).lock = none := by
  cases hl : (s.procs i).lock with
  | none => rfl
  | some c' =>
    obtain ⟨-, hc', ⟨⟨ch, hsl⟩, hp, -⟩ | ⟨-, h⟩ | hL⟩ := ho.holder hw hl
    · have e : c' = c := hw.running c' hc' c hr.cpu_lt (by simp [hsl, CpuPc.executing])
        (by rw [hr.pc_eq]; exact he) (hp.trans hr.proc_eq.symm)
      subst e; exact absurd (hr.pc_eq.symm.trans hsl) (hpc ch)
    · rw [hr.running] at h; cases h
    · rcases hL.2.state with h | h <;> rw [hr.running] at h <;> cases h

theorem LockOwned.used_free {j : Nat} (hu : (s.procs j).state = .used) : (s.procs j).lock = none := by
  cases hl : (s.procs j).lock with
  | none => rfl
  | some c' => rcases ho.lock_state hw hl with h | h | h <;> rw [hu] at h <;> cases h

theorem nextStep_enabled {c : Nat} (hc : c < cfg.ncpu) :
    (step cfg s (nextStep c (s.cpus c))).isSome ∨
      (∃ j, (s.cpus c).wants cfg.nproc = some j ∧ (s.procs j).lock ≠ none) ∨
      ∃ j, (s.procs j).lock = some c ∧ Leaked cfg s j := by
  obtain ⟨-, hok⟩ := hw.cpus c hc
  obtain ⟨hloop, hpick, -⟩ := ho.scans c
  have hrun : ∀ {pc}, (s.cpus c).pc = pc → RunsRunning cfg s (s.cpus c) →
      ∃ i, runningAt cfg s c pc = some i ∧ Runs cfg s c pc i := fun hpc ⟨i, hp, hlt, hr⟩ =>
    ⟨i, runningAt_eq_some.mpr ⟨hc, hp, hpc, hlt, hr⟩, ⟨hc, hp, hpc, hlt, hr⟩⟩
  cases hpc : (s.cpus c).pc with
  | top =>
    left; cases hp : cfg.policy <;> simp only [nextStep, hpc, step, hc, if_true, schedStep, hp]
    all_goals first | rfl | (split <;> rfl)
  | loop k =>
    simp only [hpc] at hok
    obtain ⟨hk, hm, -⟩ := hok
    by_cases hkn : k < cfg.nproc
    · by_cases hl : (s.procs k).lock = none
      · left
        cases hp : cfg.policy <;> simp only [nextStep, hpc, step, hc, if_true, schedStep, hp, hkn, hl]
        all_goals first | rfl | (split_ifs <;> rfl) | exact absurd hp hm
      · exact .inr (.inl ⟨k, by simp [Cpu.wants, hpc, hkn], hl⟩)
    · left
      have hnk : ¬ k < cfg.nproc := hkn
      cases hp : cfg.policy <;> simp only [nextStep, hpc, step, hc, if_true, schedStep, hp, hnk, if_false]
      · rfl
      · split_ifs with h0
        · rfl
        · obtain ⟨j, -, ht⟩ := hloop k hpc (by simp [Scanning, hp, h0])
          simp [ht]
      · split_ifs with h0
        · rfl
        · obtain ⟨j, -, ht⟩ := hloop k hpc (by simp [Scanning, hp, h0])
          simp [ht]
      · exact absurd hp hm
  | rr =>
    left; simp only [hpc] at hok
    simp only [nextStep, hpc, step, hc, if_true, schedStep, hok]
    split_ifs <;> rfl
  | pick =>
    simp only [hpc] at hok
    obtain ⟨j, -, ht⟩ := hpick hpc
    by_cases hl : (s.procs j).lock = none
    · left; simp [nextStep, hpc, step, hc, schedStep, hok.1, ht, hl]; split <;> rfl
    · exact .inr (.inl ⟨j, by simp [Cpu.wants, hpc, ht], hl⟩)
  | run =>
    simp only [hpc] at hok
    obtain ⟨i, hi, hr⟩ := hrun hpc hok
    by_cases hh : HoldsOnly cfg s c i
    · left; simp [nextStep, hpc, step, hi, ho.running_free hw hr rfl nofun, hh]
    · exact .inr (.inr (ho.holds_leaked hh fun k hk => by simp [Cpu.held, hpc] at hk))
  | sleep ch =>
    simp only [hpc] at hok
    obtain ⟨i, hi, hr⟩ := hrun hpc hok
    by_cases hh : HoldsOnly cfg s c i
    · left; simp [nextStep, hpc, step, hi, hh]
    · refine .inr (.inr (ho.holds_leaked hh fun k hk => ?_))
      simp only [Cpu.held, hpc, hr.proc_eq, Option.some.injEq] at hk
      exact hk.symm
  | forkLink np =>
    simp only [hpc] at hok
    obtain ⟨i, hi, -⟩ := hrun hpc hok.1
    left; simp [nextStep, hpc, step, hi]
  | forkRun np =>
    simp only [hpc] at hok
    obtain ⟨i, hi, -⟩ := hrun hpc hok.1
    left; simp [nextStep, hpc, step, hi, ho.used_free hw hok.2.2.1]
  | halted => simp only [hpc] at hok

theorem LockOwned.waits_end {c : Nat} (hc : c < cfg.ncpu) :
    ∃ c', Relation.ReflTransGen (WaitsFor cfg s) c c' ∧ c' < cfg.ncpu ∧ ChainEnd cfg s c' := by
  suffices ∀ m c, cfg.nproc - ((s.cpus c).wants cfg.nproc).getD cfg.nproc = m → c < cfg.ncpu →
      ∃ c', Relation.ReflTransGen (WaitsFor cfg s) c c' ∧ c' < cfg.ncpu ∧ ChainEnd cfg s c' from
    this _ c rfl hc
  intro m
  induction m using Nat.strong_induction_on with
  | _ m ih =>
  intro c hm hc
  rcases nextStep_enabled hw ho hc with he | ⟨j, hwj, hl⟩ | hL
  · exact ⟨c, .refl, hc, .inl he⟩
  · obtain ⟨c'', hl⟩ := Option.ne_none_iff_exists'.mp hl
    obtain ⟨hjlt, hc'', ⟨⟨ch, hsl⟩, -, -⟩ | ⟨⟨k, hpc, hjk⟩, -⟩ | hL⟩ := ho.holder hw hl
    · refine ⟨c'', .single ⟨j, hwj, hl⟩, hc'', ?_⟩
      rcases nextStep_enabled hw ho hc'' with he | ⟨j', hw', -⟩ | hL'
      · exact .inl he
      · simp [Cpu.wants, hsl] at hw'
      · exact .inr (.inr hL')
    · have hlt : cfg.nproc - ((s.cpus c'').wants cfg.nproc).getD cfg.nproc < m := by
        rw [← hm, hwj, Option.getD_some]
        simp only [Cpu.wants, hpc]
        split_ifs <;> simp only [Option.getD_some, Option.getD_none] <;> omega
      obtain ⟨c', hrt, hc', hend⟩ := ih _ hlt c'' rfl hc''
      exact ⟨c', .head ⟨j, hwj, hl⟩ hrt, hc', hend⟩
    · exact ⟨c, .refl, hc, .inr (.inl ⟨j, hwj, hL⟩)⟩
  · exact ⟨c, .refl, hc, .inr (.inr hL)⟩

end Progress

def fcfsScanning : Kernel :=
  (run sampleFcfs (boot sampleFcfs sampleFrame 0 1) [.sched 0, .sched 0]).getD
    (boot sampleFcfs sampleFrame 0 1)

theorem slot_locks_never_deadlock (hu : MlfqUniprocessor cfg) (h : Reachable cfg s) {c : Nat}
    (hc : c < cfg.ncpu) :
    ∃ c', Relation.ReflTransGen (WaitsFor cfg s) c c' ∧ c' < cfg.ncpu ∧ ChainEnd cfg s c' :=
  LockOwned.waits_end (h.wf hu) h.lockOwned hc

theorem slot_locks_never_deadlock_scan :
    ∃ c', Relation.ReflTransGen (WaitsFor sampleFcfs fcfsScanning) 0 c' ∧ c' < sampleFcfs.ncpu ∧
      ChainEnd sampleFcfs fcfsScanning c' :=
  slot_locks_never_deadlock (by decide) ((Reachable.boot sampleFrame 0 1).run_getD _ (by decide))
    (by decide)

/-! ### The orphaned lock -/

def Orphaned (cfg : Config) (s : Kernel) (j c : Nat) : Prop :=
  (s.procs j).lock = some c ∧ ∀ c' < cfg.ncpu, (s.cpus c').held cfg.policy ≠ some j

instance (cfg : Config) (s : Kernel) (j c : Nat) : Decidable (Orphaned cfg s j c) :=
  inferInstanceAs (Decidable (_ ∧ ∀ c' < cfg.ncpu, _))

section Orphan
variable {j : Nat} {t : Kernel}

theorem Orphaned.tick_none (h : Orphaned cfg s j c) (hj : j < cfg.nproc) : step cfg s .tick = none := by
  have e := h.1
  simp only [step]
  rw [if_neg fun hf => by rw [hf j hj (by simp)] at e; cases e]

theorem Orphaned.of_locks (h : Orphaned cfg s j c) (hcpu : t.cpus = s.cpus)
    (hl : (t.procs j).lock = (s.procs j).lock) : Orphaned cfg t j c :=
  ⟨hl.trans h.1, fun c' hc' => by rw [hcpu]; exact h.2 c' hc'⟩

theorem Orphaned.setCpu {c' : Nat} {x : Cpu} (h : Orphaned cfg s j c) (hx : x.held cfg.policy ≠ some j) :
    Orphaned cfg (s.setCpu c' x) j c := by
  refine ⟨h.1, fun c'' hc'' => ?_⟩
  by_cases e : c'' = c'
  · subst e; simpa using hx
  · simpa [Function.update_noteq e] using h.2 c'' hc''

theorem Orphaned.switchOut {c' i : Nat} (h : Orphaned cfg s j c) (hi : j ≠ i) :
    Orphaned cfg (OsnScheduling.switchOut cfg s c' i) j c := by
  unfold OsnScheduling.switchOut
  refine Orphaned.setCpu ?_ (by simp)
  exact h.of_locks rfl (by simp [Function.update_noteq hi])

theorem Orphaned.sleepLock {c' i : Nat} {ch : Chan} (h : Orphaned cfg s j c) (hi : j ≠ i)
    (hp : (s.cpus c').proc = some i) : Orphaned cfg (OsnScheduling.sleepLock s c' i ch) j c := by
  unfold OsnScheduling.sleepLock
  refine Orphaned.setCpu ?_ (by simp [Cpu.held, hp, Ne.symm hi])
  exact h.of_locks rfl (by simp [Function.update_noteq hi])

theorem Orphaned.dispatch {c' j' : Nat} {p : Proc} (h : Orphaned cfg s j c) (hj : j ≠ j') :
    Orphaned cfg (OsnScheduling.dispatch s c' j' p) j c := by
  unfold OsnScheduling.dispatch
  refine Orphaned.setCpu ?_ (by simp [Cpu.held])
  exact h.of_locks rfl (by simp [Function.update_noteq hj])

theorem Orphaned.lockStep {c' k : Nat} {rel : Option Nat} {x : Cpu} (h : Orphaned cfg s j c)
    (hk : j ≠ k) (hrel : rel ≠ some j) (hx : x.held cfg.policy ≠ some j) :
    Orphaned cfg ((OsnScheduling.lockStep s c' k rel).setCpu c' x) j c :=
  (h.of_locks (lockStep_cpus s c' k rel) (by rw [lockStep_lock, if_neg hrel, if_neg hk])).setCpu hx

theorem Orphaned.iter {c' k : Nat} {rel : Option Nat} {x : Cpu} (h : Orphaned cfg s j c)
    (hc' : c' < cfg.ncpu) (hl : (s.procs k).lock = none)
    (hrel : ∀ r, rel = some r → r = k ∨ (s.cpus c').held cfg.policy = some r)
    (hx : ∀ r, x.held cfg.policy = some r → r = k ∨ (s.cpus c').held cfg.policy = some r) :
    Orphaned cfg ((OsnScheduling.lockStep s c' k rel).setCpu c' x) j c := by
  have hkj : j ≠ k := by rintro rfl; rw [h.1] at hl; cases hl
  have hne : (s.cpus c').held cfg.policy ≠ some j := h.2 c' hc'
  exact h.lockStep hkj (fun e => (hrel j e).elim hkj hne) (fun e => (hx j e).elim hkj hne)

theorem Orphaned.sched {c' : Nat} (h : Orphaned cfg s j c) (hpol : cfg.policy = .pbs ∨ cfg.policy = .fcfs)
    (hc' : c' < cfg.ncpu) (hs : schedStep cfg s c' = some s') : Orphaned cfg s' j c := by
  have hheld : ∀ r, (s.cpus c').held cfg.policy = some r → r ≠ j := fun r e hr => h.2 c' hc' (hr ▸ e)
  rcases hpol with hpol | hpol <;> cases hpc : (s.cpus c').pc <;> simp only [schedStep, hpol, hpc] at hs
  case inl.top | inr.top => cases hs; exact h.setCpu (by simp [Cpu.held, Scanning, hpol])
  case inl.loop k =>
    split_ifs at hs with hk hl hfs
    · cases hs
      rcases pbsIter_cases k (s.procs k) ((s.cpus c').toBeScheduled.map s.procs)
        (s.cpus c').intialized (s.cpus c').toBeScheduled with ⟨-, h1, h2 | ⟨hf, h2⟩⟩ | ⟨h1, h2, h3⟩
      all_goals refine h.iter hc' hl ?_ ?_
      all_goals simp_all [Cpu.held, Scanning]
    · cases hs; exact h.setCpu (by simp [Cpu.held])
    · split at hs
      · cases hs; rename_i j' hj'
        exact h.dispatch fun e => hheld j' (by simp [Cpu.held, hpc, Scanning, hpol, hfs, hj']) e.symm
      · cases hs
  case inr.loop k =>
    split_ifs at hs with hk hl hfs
    · cases hs
      rcases fcfsIter_cases k (s.procs k) (s.cpus c').firstStart (s.cpus c').toBeScheduled with
        ⟨-, h1, h2 | ⟨hf, h2⟩⟩ | ⟨h1, h2, h3⟩
      all_goals refine h.iter hc' hl ?_ ?_
      all_goals simp_all [Cpu.held, Scanning]
    · cases hs; exact h.setCpu (by simp [Cpu.held])
    · split at hs
      · cases hs; rename_i j' hj'
        exact h.dispatch fun e => hheld j' (by simp [Cpu.held, hpc, Scanning, hpol, hfs, hj']) e.symm
      · cases hs
  all_goals cases hs

theorem Orphaned.step (ho : LockOwned cfg s) (h : Orphaned cfg s j c) (hs : step cfg s a = some s') :
    Orphaned cfg s' j c := by
  obtain ⟨-, hc, hown⟩ := ho.locks j c h.1
  obtain ⟨hj, hleak⟩ := hown.resolve_left (h.2 c hc)
  have notRunning : ∀ {i}, (s.procs i).state = .running → j ≠ i := by
    rintro i hi rfl; rcases hleak.state with e | e <;> rw [hi] at e <;> cases e
  cases a with
  | sched c' =>
    refine h.sched ?_ (step_sched hs).1 (step_sched hs).2
    rcases hleak with ⟨hp, -⟩ | ⟨hp, -⟩
    · exact .inl hp
    · exact .inr hp
  | tick => rw [h.tick_none hj] at hs; cases hs
  | wakeup c' ch =>
    obtain ⟨-, -, -, rfl⟩ := step_wakeup hs
    exact h.of_locks rfl (by simp)
  | fork c' page ok =>
    obtain ⟨i, -, -, hres⟩ := step_fork hs
    have hq : Orphaned cfg (forkAlloc cfg s i page ok).2 j c := h.of_locks (by simp) (by simp)
    rcases hres with ⟨np, -, rfl⟩ | ⟨-, rfl⟩
    · exact Orphaned.setCpu hq (by simp [Cpu.held])
    · exact hq
  | forkLink c' =>
    obtain ⟨i, np, -, rfl⟩ := step_forkLink hs
    refine Orphaned.setCpu ?_ (by simp [Cpu.held])
    exact h.of_locks rfl (by simp)
  | forkRun c' =>
    obtain ⟨i, np, -, -, rfl⟩ := step_forkRun hs
    refine Orphaned.setCpu ?_ (by simp [Cpu.held])
    exact h.of_locks (by simp) (by simp)
  | exit c' st =>
    obtain ⟨i, -, -, hf, -⟩ := step_exit hs
    have e := h.1
    rw [hf j hj (by simp)] at e; cases e
  | wait c' addr ok =>
    obtain ⟨i, hr, -, ⟨-, rfl⟩ | ⟨hn, -, rfl⟩⟩ := step_wait hs
    · exact h.of_locks (by simp) (by simp)
    · rw [(waitScan_none hn).1]
      exact (h.of_locks (by simp) (by simp)).sleepLock (notRunning hr.running) (by simpa using hr.proc_eq)
  | sleep c' ch =>
    obtain ⟨i, hr, -, -, rfl⟩ := step_sleep hs
    exact h.sleepLock (notRunning hr.running) hr.proc_eq
  | park c' =>
    obtain ⟨i, ch, hr, rfl⟩ := step_park hs
    refine Orphaned.switchOut ?_ (notRunning hr.running)
    exact h.of_locks rfl (setProc_lock (by simp) j)
  | yield c' =>
    obtain ⟨i, hr, -, rfl⟩ := step_yield hs
    refine Orphaned.switchOut ?_ (notRunning hr.running)
    exact h.of_locks rfl (setProc_lock (by exact rfl) j)
  | kill c' pid =>
    obtain ⟨i, -, -, rfl⟩ := step_kill hs
    exact h.of_locks (by simp) (by simp)
  | setPriority c' prio pid =>
    obtain ⟨i, -, hf, rfl⟩ := step_setPriority hs
    refine h.of_locks (by simp) ?_
    rcases setPriorityI_lock hf j with e | ⟨e, -⟩
    · exact e
    · rw [h.1] at e; cases e
  | growproc | fileOpen | fileClose | trapLevel =>
    obtain ⟨i, hm⟩ := step_own hs rfl
    exact h.of_locks hm.cpus (by rw [hm.procs j])

end Orphan

theorem orphaned_lock_never_released (h : Reachable cfg s) {j c : Nat} (ho : Orphaned cfg s j c)
    {as : List Action} {t : Kernel} (hrun : run cfg s as = some t) :
    Orphaned cfg t j c ∧ step cfg t .tick = none := by
  induction as generalizing s with
  | nil =>
    cases hrun
    exact ⟨ho, ho.tick_none (h.lockOwned.locks j c ho.1).1⟩
  | cons a as ih =>
    simp only [run, Option.bind_eq_some] at hrun
    obtain ⟨s', hs, hrun⟩ := hrun
    exact ih (h.step a hs) (ho.step h.lockOwned hs) hrun

def pbsInitRuns : Kernel :=
  (run samplePbs (boot samplePbs sampleFrame 0 1) (List.replicate 5 (.sched 0))).getD
    (boot samplePbs sampleFrame 0 1)

def pbsWrapped : Kernel := { pbsInitRuns with nextpid := 2 ^ 32 - 1 }

/-- The next `fork` gives its child the pid -1, and `set_priority_i(50, -1)` keeps its lock. -/
def pbsLeak : Kernel :=
  (run samplePbs pbsWrapped
    [.fork 0 (some (sampleFrame, 1)) true, .forkLink 0, .forkRun 0, .setPriority 0 50 (-1)]).getD
    pbsWrapped

theorem orphaned_lock_never_released_pbs :
    ∃ t, run samplePbs pbsLeak [.growproc 0 4096 1] = some t ∧ Orphaned samplePbs t 1 0 ∧
      step samplePbs t .tick = none :=
  have h0 : Reachable samplePbs pbsInitRuns := (Reachable.boot sampleFrame 0 1).run_getD _ (by decide)
  have hw : Reachable samplePbs pbsWrapped := by
    have h := Reachable.fork_fails true h0 (by decide : runningAt samplePbs pbsInitRuns 0 .run = some 0)
      (by decide) (by decide : firstSlot samplePbs pbsInitRuns unusedHit = some 1) rfl (2 ^ 32 - 3)
    rwa [(by decide : pbsInitRuns.nextpid + (2 ^ 32 - 3) = 2 ^ 32 - 1)] at h
  have hrun := (Option.some_get (by decide :
    (run samplePbs pbsLeak [.growproc 0 4096 1]).isSome)).symm
  ⟨_, hrun, orphaned_lock_never_released (hw.run_getD _ (by decide)) (by decide) hrun⟩

end OsnScheduling
