import OsnScheduling.Steps

/-!
The slot locks held from one step to the next. A CPU holds the lock of the process it is
putting to sleep, from `acquire(&p->lock)` in `sleep` to the `release` after `swtch`, and
the FCFS and PBS loops hold their candidate's lock while they scan the rest of the table.
No step releases a lock that another CPU holds this way.
-/

namespace OsnScheduling

def Cpu.held (pol : Policy) (x : Cpu) : Option Nat :=
  match x.pc with
  | .sleep _ | .halted => x.proc
  | .loop _ => if Scanning pol x then x.toBeScheduled else none
  | _ => none

def LockInv (cfg : Config) (s : Kernel) : Prop :=
  ∀ c j, (s.cpus c).held cfg.policy = some j → (s.procs j).lock = some c

structure LockLocal (c : Nat) (s s' : Kernel) : Prop where
  cpus : ∀ c', c' ≠ c → s'.cpus c' = s.cpus c'
  locks : ∀ j c', c' ≠ c → (s.procs j).lock = some c' → (s'.procs j).lock = some c'

variable {cfg : Config} {s s' : Kernel} {c : Nat}

theorem LockInv.frame (h : LockInv cfg s) (hl : LockLocal c s s')
    (hc : ∀ j, (s'.cpus c).held cfg.policy = some j → (s'.procs j).lock = some c) :
    LockInv cfg s' := by
  intro c' j hj
  by_cases e : c' = c
  · subst e; exact hc j hj
  · rw [hl.cpus c' e] at hj
    exact hl.locks j c' e (h c' j hj)

theorem LockInv.of_locks (h : LockInv cfg s) (hc : s'.cpus = s.cpus)
    (hl : ∀ j, (s'.procs j).lock = (s.procs j).lock) : LockInv cfg s' := by
  intro c j hj
  rw [hc] at hj
  rw [hl]; exact h c j hj

theorem LockLocal.of_locks (hc : ∀ c', c' ≠ c → s'.cpus c' = s.cpus c')
    (hl : ∀ j, (s'.procs j).lock = (s.procs j).lock) : LockLocal c s s' :=
  ⟨hc, fun j _ _ h => (hl j).trans h⟩

theorem LockLocal.setCpu {x : Cpu} (h : LockLocal c s s') : LockLocal c s (s'.setCpu c x) :=
  ⟨fun c' e => by simp [Function.update_noteq e, h.cpus c' e], h.locks⟩

theorem LockLocal.rfl' : LockLocal c s s :=
  ⟨fun _ _ => rfl, fun _ _ _ h => h⟩

theorem LockLocal.setLock {i : Nat} {p : Proc} (hi : (s.procs i).lock = none ∨ (s.procs i).lock = some c) :
    LockLocal c s (s.setProc i p) := by
  refine ⟨fun _ _ => rfl, fun j c' e hj => ?_⟩
  simp only [Kernel.setProc_procs, Function.update_apply]
  split_ifs with hji
  · subst hji; rcases hi with hi | hi <;> simp_all
  · exact hj

theorem LockLocal.trans {s'' : Kernel} (h1 : LockLocal c s s') (h2 : LockLocal c s' s'') :
    LockLocal c s s'' :=
  ⟨fun c' e => (h2.cpus c' e).trans (h1.cpus c' e),
    fun j c' e hj => h2.locks j c' e (h1.locks j c' e hj)⟩

theorem lockStep_lock (k : Nat) (rel : Option Nat) (j : Nat) :
    ((lockStep s c k rel).procs j).lock =
      if rel = some j then none else if j = k then some c else (s.procs j).lock := by
  unfold lockStep
  split <;> simp only [Kernel.setProc_procs, Function.update_apply] <;> split_ifs <;> simp_all

@[simp] theorem Cpu.held_resume (pol : Policy) (x : Cpu) (i : Nat) :
    (x.resume pol i).held pol = none := by
  unfold Cpu.resume; split <;> simp [Cpu.held, Scanning, *]

theorem LockInv.switchOut {i : Nat} (h : LockInv cfg s)
    (hi : (s.procs i).lock = none ∨ (s.procs i).lock = some c) :
    LockInv cfg (switchOut cfg s c i) :=
  h.frame (LockLocal.setLock hi).setCpu (by simp)

theorem LockInv.dispatch {j : Nat} {p : Proc} (h : LockInv cfg s)
    (hj : (s.procs j).lock = none ∨ (s.procs j).lock = some c) :
    LockInv cfg (dispatch s c j p) :=
  h.frame (LockLocal.setLock hj).setCpu (by simp [OsnScheduling.dispatch, Cpu.held])

theorem LockInv.halt {j : Nat} {p : Proc} (h : LockInv cfg s) (hj : (s.procs j).lock = none) :
    LockInv cfg (halt s c j p) :=
  h.frame (LockLocal.setLock (.inl hj)).setCpu (by simp [OsnScheduling.halt, Cpu.held])

theorem LockInv.lockStep {k : Nat} {rel : Option Nat} {x : Cpu} (h : LockInv cfg s)
    (hk : (s.procs k).lock = none)
    (hrel : rel = none ∨ rel = some k ∨ ∃ r, rel = some r ∧ (s.procs r).lock = some c)
    (hx : ∀ j, x.held cfg.policy = some j →
      j = k ∧ rel ≠ some k ∨ (s.procs j).lock = some c ∧ rel ≠ some j) :
    LockInv cfg ((OsnScheduling.lockStep s c k rel).setCpu c x) := by
  refine h.frame (⟨fun c' e => by simp [Function.update_noteq e], fun j c' e hj => ?_⟩ :
    LockLocal c _ _) ?_
  · simp only [Kernel.setCpu_procs, lockStep_lock]
    have hjk : j ≠ k := by rintro rfl; simp_all
    rcases hrel with rfl | rfl | ⟨r, rfl, hr⟩
    · simp [hjk, hj]
    · simp [Ne.symm hjk, hjk, hj]
    · have hjr : r ≠ j := by rintro rfl; simp_all
      simp [hjr, hjk, hj]
  · intro j hj
    simp only [Kernel.setCpu_cpus, Function.update_same] at hj
    simp only [Kernel.setCpu_procs, lockStep_lock]
    rcases hx j hj with ⟨rfl, hr⟩ | ⟨hl, hr⟩
    · simp [hr]
    · have hjk : j ≠ k := by rintro rfl; simp_all
      simp [hr, hjk, hl]

theorem LockInv.setCpu {x : Cpu} (h : LockInv cfg s)
    (hx : ∀ j, x.held cfg.policy = some j → (s.procs j).lock = some c) :
    LockInv cfg (s.setCpu c x) :=
  h.frame LockLocal.rfl'.setCpu (by simpa using hx)

theorem LockInv.scan {k : Nat} {rel : Option Nat} {x : Cpu} (h : LockInv cfg s)
    (hpc : (s.cpus c).pc = .loop k) (hk : (s.procs k).lock = none) (hx : x.pc = .loop (k + 1))
    (hit : x.toBeScheduled = some k ∧
        (rel = none ∨ Scanning cfg.policy (s.cpus c) ∧ rel = (s.cpus c).toBeScheduled) ∨
      x.toBeScheduled = (s.cpus c).toBeScheduled ∧ rel = some k ∧
        (Scanning cfg.policy x → Scanning cfg.policy (s.cpus c))) :
    LockInv cfg ((OsnScheduling.lockStep s c k rel).setCpu c x) := by
  have hold : ∀ j, Scanning cfg.policy (s.cpus c) → (s.cpus c).toBeScheduled = some j →
      (s.procs j).lock = some c := fun j hs ht => h c j (by simp [Cpu.held, hpc, hs, ht])
  have hxk : ∀ j, x.held cfg.policy = some j → Scanning cfg.policy x ∧ x.toBeScheduled = some j :=
    fun j hj => by simp only [Cpu.held, hx] at hj; split_ifs at hj with hs; exact ⟨hs, hj⟩
  rcases hit with ⟨ht, hrel⟩ | ⟨ht, rfl, hsc⟩
  · have hrel' : rel = none ∨ ∃ r, rel = some r ∧ (s.procs r).lock = some c := by
      rcases hrel with rfl | ⟨hs, rfl⟩
      · exact .inl rfl
      · cases e : (s.cpus c).toBeScheduled with
        | none => exact .inl rfl
        | some r => exact .inr ⟨r, rfl, hold r hs e⟩
    refine h.lockStep hk (hrel'.imp_right .inr) fun j hj => .inl ⟨?_, ?_⟩
    · simpa [ht] using ((hxk j hj).2).symm
    · rintro rfl; rcases hrel' with hr | ⟨r, hr, hl⟩ <;> simp_all
  · refine h.lockStep hk (.inr (.inl rfl)) fun j hj => .inr ⟨?_, ?_⟩
    · exact hold j (hsc (hxk j hj).1) (ht ▸ (hxk j hj).2)
    · intro e; cases e
      simp [hold k (hsc (hxk k hj).1) (ht ▸ (hxk k hj).2)] at hk

theorem LockInv.sched (h : LockInv cfg s) (hs : schedStep cfg s c = some s') :
    LockInv cfg s' := by
  simp only [OsnScheduling.schedStep] at hs
  split at hs
  · cases hs; exact h.setCpu (by simp [Cpu.held, Scanning, *])
  · split_ifs at hs <;> cases hs
    · exact h.dispatch (.inl ‹_›)
    · exact h.setCpu (by simp [Cpu.held, Scanning, *])
    · exact h.setCpu (by simp [Cpu.held, Scanning, *])
  · cases hs; exact h.setCpu (by simp [Cpu.held, Scanning, *])
  · rename_i k hpol hpc
    split_ifs at hs with hk hl hfs
    · cases hs
      refine h.scan hpc hl rfl ?_
      rcases fcfsIter_cases k (s.procs k) (s.cpus c).firstStart (s.cpus c).toBeScheduled with
        ⟨-, h1, h2⟩ | ⟨h1, h2, h3⟩
      · exact .inl ⟨h1, h2.imp_right fun ⟨hf, hr⟩ => ⟨.inl ⟨hpol, hf⟩, hr⟩⟩
      · exact .inr ⟨h2, h3, fun hsc => by simpa [Scanning, h1] using hsc⟩
    · cases hs; exact h.setCpu (by simp [Cpu.held, Scanning, *])
    · split at hs <;> cases hs
      exact h.dispatch (.inr (h c _ (by simp [Cpu.held, hpc, Scanning, hpol, hfs, *])))
  · cases hs; exact h.setCpu (by simp [Cpu.held, Scanning, *])
  · rename_i k hpol hpc
    split_ifs at hs with hk hl hfs
    · cases hs
      refine h.scan hpc hl rfl ?_
      rcases pbsIter_cases k (s.procs k) ((s.cpus c).toBeScheduled.map s.procs)
          (s.cpus c).intialized (s.cpus c).toBeScheduled with ⟨-, h1, h2⟩ | ⟨h1, h2, h3⟩
      · exact .inl ⟨h1, h2.imp_right fun ⟨hf, hr⟩ => ⟨.inr ⟨hpol, hf⟩, hr⟩⟩
      · exact .inr ⟨h2, h3, fun hsc => by simpa [Scanning, h1] using hsc⟩
    · cases hs; exact h.setCpu (by simp [Cpu.held, Scanning, *])
    · split at hs <;> cases hs
      exact h.dispatch (.inr (h c _ (by simp [Cpu.held, hpc, Scanning, hpol, hfs, *])))
  · have hu : LockInv cfg (upgradePolicy cfg s) := h.of_locks rfl (upgradePolicy_lock cfg s)
    split at hs <;> cases hs <;> exact hu.setCpu (by simp [Cpu.held])
  · split_ifs at hs <;> cases hs <;> exact h.setCpu (by simp [Cpu.held, *])
  · split at hs
    · split_ifs at hs with hl
      · cases hs; exact h.dispatch (.inl hl)
      · cases hs; exact h.halt hl
    · cases hs
  · cases hs

theorem setProc_lock {i : Nat} {p : Proc} (hp : p.lock = (s.procs i).lock) (j : Nat) :
    ((s.setProc i p).procs j).lock = (s.procs j).lock := by
  simp only [Kernel.setProc_procs, Function.update_apply]
  split_ifs with e
  · subst e; exact hp
  · rfl

theorem LockInv.boot (tf : TrapFrame) (pt root : Nat) : LockInv cfg (boot cfg tf pt root) := by
  intro c j hj; simp [OsnScheduling.boot, Kernel.zero, Cpu.held, Cpu.zero] at hj

theorem LockInv.sleepLock {i : Nat} {ch : Chan} (h : LockInv cfg s) (hp : (s.cpus c).proc = some i)
    (hi : (s.procs i).lock = none) : LockInv cfg (OsnScheduling.sleepLock s c i ch) :=
  h.frame (LockLocal.setLock (.inl hi)).setCpu (by simp [OsnScheduling.sleepLock, Cpu.held, hp])

theorem LockInv.step {a : Action} (h : LockInv cfg s) (hs : step cfg s a = some s') :
    LockInv cfg s' := by
  cases a with
  | sched c => exact h.sched (step_sched hs).2
  | tick =>
    obtain ⟨-, rfl⟩ := step_tick hs
    exact h.of_locks (by simp [tick]) (by simp)
  | wakeup c ch =>
    obtain ⟨-, -, -, rfl⟩ := step_wakeup hs
    exact h.of_locks rfl (by simp)
  | fork c page ok =>
    obtain ⟨i, -, -, ⟨np, -, rfl⟩ | ⟨-, rfl⟩⟩ := step_fork hs
    · exact (h.of_locks (by simp) (by simp)).setCpu (by simp [Cpu.held])
    · exact h.of_locks (by simp) (by simp)
  | forkLink c =>
    obtain ⟨i, np, -, rfl⟩ := step_forkLink hs
    exact (h.of_locks (by simp [forkLink]) (by simp)).setCpu (by simp [Cpu.held])
  | forkRun c =>
    obtain ⟨i, np, -, -, rfl⟩ := step_forkRun hs
    exact (h.of_locks (by simp) (by simp)).setCpu (by simp [Cpu.held])
  | exit c st =>
    obtain ⟨i, hr, -, hfree, rfl⟩ := step_exit hs
    exact (h.of_locks (by simp) (by simp)).switchOut (.inl (by simpa using hfree i hr.lt (by simp)))
  | wait c addr ok =>
    obtain ⟨i, hr, -, ⟨-, rfl⟩ | ⟨-, hl, rfl⟩⟩ := step_wait hs
    · exact h.of_locks (by simp) (by simp)
    · exact (h.of_locks (by simp) (by simp)).sleepLock (by simpa using hr.proc_eq) hl
  | sleep c ch =>
    obtain ⟨i, hr, -, hl, rfl⟩ := step_sleep hs
    exact h.sleepLock hr.proc_eq hl
  | park c =>
    obtain ⟨i, ch, hr, rfl⟩ := step_park hs
    have hl : (s.procs i).lock = some c := h c i (by simp [Cpu.held, hr.pc_eq, hr.proc_eq])
    have h1 : LockInv cfg (s.setProc i ((s.procs i).sleepOn cfg.policy s.ticks ch)) :=
      h.of_locks rfl (setProc_lock (by simp))
    exact h1.switchOut (by simp [hl])
  | yield c =>
    obtain ⟨i, -, hl, rfl⟩ := step_yield hs
    have h1 : LockInv cfg (s.setProc i { (s.procs i) with state := .runnable }) :=
      h.of_locks rfl (setProc_lock rfl)
    exact h1.switchOut (by simp [hl])
  | kill c pid =>
    obtain ⟨i, -, -, rfl⟩ := step_kill hs
    exact h.of_locks (by simp) (by simp)
  | setPriority c prio pid =>
    obtain ⟨i, -, hf, rfl⟩ := step_setPriority hs
    intro c' j hj
    rw [setPriorityI_cpus] at hj
    rcases setPriorityI_lock hf j with e | ⟨e, -⟩
    · rw [e]; exact h c' j hj
    · rw [h c' j hj] at e; cases e
  | growproc | fileOpen | fileClose | trapLevel =>
    obtain ⟨i, ho⟩ := step_own hs rfl
    exact h.of_locks ho.cpus fun j => by rw [ho.procs j]

theorem Reachable.lockInv (h : Reachable cfg s) : LockInv cfg s := by
  induction h with
  | boot tf pt root => exact LockInv.boot tf pt root
  | step a _ hs ih => exact ih.step hs

end OsnScheduling
