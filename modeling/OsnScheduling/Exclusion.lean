import OsnScheduling.Fairness

/-!
What the slot locks buy. While a CPU holds `p->lock`, no other CPU and no clock tick changes
the fields the lock guards: the state, the channel, `killed`, `xstate` and the pid. And
`sleep` takes the sleeper's lock before the caller's condition lock is dropped and keeps it
until `sched()`, while `wakeup` needs every other slot's lock: so no `wakeup` runs between
the two halves of `sleep`, and the first `wakeup` on the channel after the sleeper took its
lock finds it SLEEPING.
-/

namespace OsnScheduling

def Action.cpu : Action → Option Nat
  | .tick => none
  | .sched c | .wakeup c _ | .fork c _ _ | .forkLink c | .forkRun c | .exit c _ | .wait c _ _
  | .sleep c _ | .park c | .yield c | .kill c _ | .setPriority c _ _ | .growproc c _ _
  | .fileOpen c _ _ | .fileClose c _ | .trapLevel c _ _ => some c

def Proc.SameGuarded (p q : Proc) : Prop :=
  q.state = p.state ∧ q.chan = p.chan ∧ q.killed = p.killed ∧ q.xstate = p.xstate ∧ q.pid = p.pid

theorem Proc.SameGuarded.of_eq {p q : Proc} (h : q = p) : p.SameGuarded q := by
  subst h; exact ⟨rfl, rfl, rfl, rfl, rfl⟩

section
variable {cfg : Config} {s t : Kernel} {a : Action} {c j : Nat}

theorem step_cpus_other (hs : step cfg s a = some t) (hc : a.cpu ≠ some c) : t.cpus c = s.cpus c := by
  cases a <;> simp only [Action.cpu, ne_eq, Option.some.injEq] at hc
  case sched c' => exact schedStep_cpus_ne (step_sched hs).2 (Ne.symm hc)
  case tick => obtain ⟨-, rfl⟩ := step_tick hs; simp [tick]
  case wakeup c' ch => obtain ⟨-, -, -, rfl⟩ := step_wakeup hs; rfl
  case fork c' page ok =>
    obtain ⟨i, -, -, ⟨np, -, rfl⟩ | ⟨-, rfl⟩⟩ := step_fork hs <;> simp [Function.update_noteq (Ne.symm hc)]
  case forkLink c' =>
    obtain ⟨i, np, -, rfl⟩ := step_forkLink hs; simp [Function.update_noteq (Ne.symm hc)]
  case forkRun c' =>
    obtain ⟨i, np, -, -, rfl⟩ := step_forkRun hs; simp [Function.update_noteq (Ne.symm hc)]
  case exit c' st =>
    obtain ⟨i, -, -, -, rfl⟩ := step_exit hs; simp [OsnScheduling.exit, switchOut_cpus_ne _ _ _ (Ne.symm hc)]
  case wait c' addr ok =>
    obtain ⟨i, -, -, ⟨-, rfl⟩ | ⟨-, -, rfl⟩⟩ := step_wait hs
    · simp
    · simp [sleepLock_cpus_ne _ _ _ (Ne.symm hc)]
  case sleep c' ch => obtain ⟨i, -, -, -, rfl⟩ := step_sleep hs; exact sleepLock_cpus_ne _ _ _ (Ne.symm hc)
  case park c' => obtain ⟨i, ch, -, rfl⟩ := step_park hs; simp [park, switchOut_cpus_ne _ _ _ (Ne.symm hc)]
  case yield c' => obtain ⟨i, -, -, rfl⟩ := step_yield hs; simp [yield, switchOut_cpus_ne _ _ _ (Ne.symm hc)]
  case kill c' pid => obtain ⟨i, -, -, rfl⟩ := step_kill hs; simp
  case setPriority c' prio pid => obtain ⟨i, -, -, rfl⟩ := step_setPriority hs; simp
  case growproc | fileOpen | fileClose | trapLevel => obtain ⟨i, ho⟩ := step_own hs rfl; rw [ho.cpus]

theorem step_runs (hs : step cfg s a = some t) (ha : a.cpu = some c) :
    a = .sched c ∨ (∃ ch, a = .wakeup c ch) ∨ ∃ i pc, Runs cfg s c pc i ∧
      (pc = .run ∨ (∃ np, pc = .forkLink np ∨ pc = .forkRun np) ∨ a = .park c ∧ ∃ ch, pc = .sleep ch) := by
  have run : ∀ {i}, Runs cfg s c .run i → ∃ i pc, Runs cfg s c pc i ∧
      (pc = .run ∨ (∃ np, pc = .forkLink np ∨ pc = .forkRun np) ∨ a = .park c ∧ ∃ ch, pc = .sleep ch) :=
    fun hr => ⟨_, _, hr, .inl rfl⟩
  cases a <;> simp only [Action.cpu, Option.some.injEq, reduceCtorEq] at ha <;> subst ha
  case sched => exact .inl rfl
  case wakeup ch => exact .inr (.inl ⟨ch, rfl⟩)
  case park => obtain ⟨i, ch, hr, -⟩ := step_park hs; exact .inr (.inr ⟨i, _, hr, .inr (.inr ⟨rfl, ch, rfl⟩)⟩)
  case forkLink =>
    obtain ⟨i, np, hr, -⟩ := step_forkLink hs; exact .inr (.inr ⟨i, _, hr, .inr (.inl ⟨np, .inl rfl⟩)⟩)
  case forkRun =>
    obtain ⟨i, np, hr, -⟩ := step_forkRun hs; exact .inr (.inr ⟨i, _, hr, .inr (.inl ⟨np, .inr rfl⟩)⟩)
  case fork => obtain ⟨_, hr, -⟩ := step_fork hs; exact .inr (.inr (run hr))
  case exit => obtain ⟨_, hr, -⟩ := step_exit hs; exact .inr (.inr (run hr))
  case wait => obtain ⟨_, hr, -⟩ := step_wait hs; exact .inr (.inr (run hr))
  case sleep => obtain ⟨_, hr, -⟩ := step_sleep hs; exact .inr (.inr (run hr))
  case yield => obtain ⟨_, hr, -⟩ := step_yield hs; exact .inr (.inr (run hr))
  case kill => obtain ⟨_, hr, -⟩ := step_kill hs; exact .inr (.inr (run hr))
  case setPriority => obtain ⟨_, hr, -⟩ := step_setPriority hs; exact .inr (.inr (run hr))
  case growproc | fileOpen | fileClose | trapLevel =>
    obtain ⟨_, ho⟩ := step_own hs rfl; exact .inr (.inr (run ho.runs))

/-! ### Mutual exclusion on a slot -/

theorem forkAlloc_procs_of_ne_first {i : Nat} {page : Option (TrapFrame × Nat)} {ok : Bool}
    (h : ∀ np, firstSlot cfg s unusedHit = some np → j ≠ np) :
    (forkAlloc cfg s i page ok).2.procs j = s.procs j := by
  unfold forkAlloc
  rcases allocproc_cases cfg s page with e | ⟨np, hnp, e | ⟨tf, pt, -, e⟩⟩ <;> rw [e]
  · simp [Function.update_noteq (h np hnp)]
  · split_ifs <;> simp [Function.update_noteq (h np hnp)]

theorem waitScan_procs_of_lock {i addr : Nat} {ok : Bool} (hf : WaitFree cfg s i)
    (hj : (s.procs j).lock ≠ none) : (waitScan cfg s i addr ok).2.procs j = s.procs j := by
  unfold waitScan
  split
  · rename_i k hk
    obtain ⟨hlt, hhit, hb⟩ := firstSlot_eq_some.mp hk
    have e : j ≠ k := by
      rintro rfl
      exact hj (hf j hlt (by simp only [zombieHit, Bool.and_eq_true, beq_iff_eq] at hhit; exact hhit.1) hb)
    split_ifs <;> simp [Function.update_noteq e]
  · split_ifs <;> rfl

theorem schedStep_dispatch_lock (hl : LockInv cfg s) (hs : schedStep cfg s c = some t)
    (hrun : (t.cpus c).pc = .run) :
    ∃ k p, ((s.procs k).lock = none ∨ (s.procs k).lock = some c) ∧ t = dispatch s c k p := by
  simp only [OsnScheduling.schedStep] at hs
  split at hs
  · cases hs; simp at hrun
  · split_ifs at hs <;> cases hs
    · exact ⟨_, _, .inl ‹_›, rfl⟩
    all_goals simp at hrun
  · cases hs; simp at hrun
  · rename_i k hpol hpc
    split_ifs at hs with hk hl' hfs
    · cases hs; simp at hrun
    · cases hs; simp at hrun
    · split at hs <;> cases hs
      exact ⟨_, _, .inr (hl c _ (by simp [Cpu.held, hpc, Scanning, hpol, hfs, *])), rfl⟩
  · cases hs; simp at hrun
  · rename_i k hpol hpc
    split_ifs at hs with hk hl' hfs
    · cases hs; simp at hrun
    · cases hs; simp at hrun
    · split at hs <;> cases hs
      exact ⟨_, _, .inr (hl c _ (by simp [Cpu.held, hpc, Scanning, hpol, hfs, *])), rfl⟩
  · split at hs <;> cases hs <;> simp at hrun
  · rename_i hpol hpc
    split_ifs at hs <;> cases hs <;> simp [hpc] at hrun
  · split at hs
    · split_ifs at hs with hl' <;> cases hs
      · exact ⟨_, _, .inl hl', rfl⟩
      · simp [halt] at hrun
    · cases hs
  · cases hs

/-- `q` is `p` but for the fields a step may write while another CPU holds the slot's lock:
the parent link, the size and descriptors, MLFQ's level, tick count and `time_added`, and the
lock. -/
def Proc.LockedKeeps (p q : Proc) : Prop :=
  q = { p with parent := q.parent, sz := q.sz, ofile := q.ofile, priorityNumber := q.priorityNumber,
               noOfTicks := q.noOfTicks, timeAdded := q.timeAdded, lock := q.lock }

theorem Proc.LockedKeeps.of_eq {p q : Proc} (h : q = p) : p.LockedKeeps q := by
  subst h; rfl

theorem Proc.LockedKeeps.of_lock {p q : Proc} (h : q = { p with lock := q.lock }) : p.LockedKeeps q := by
  unfold Proc.LockedKeeps; rw [h]

theorem Proc.LockedKeeps.guarded {p q : Proc} (h : p.LockedKeeps q) : p.SameGuarded q := by
  rw [h]; exact ⟨rfl, rfl, rfl, rfl, rfl⟩

theorem setPriorityI_procs_of_locked {priority pid : Int} (hf : ScanFree cfg s (priorityHit pid))
    (hj : (s.procs j).lock ≠ none) : (setPriorityI cfg s c priority pid).2.procs j = s.procs j := by
  unfold setPriorityI
  split_ifs
  · rfl
  · rfl
  · split
    · rfl
    · rename_i i hi
      obtain ⟨hlt, -, hbefore⟩ := firstSlot_eq_some.mp hi
      have e : j ≠ i := by rintro rfl; exact hj (hf j hlt hbefore)
      dsimp only
      split_ifs <;> simp [Function.update_noteq e]

theorem step_locked_slot {c' : Nat} (hl : LockInv cfg s) (hs : step cfg s a = some t)
    (hj : j < cfg.nproc) (hlk : (s.procs j).lock = some c') (hc : a.cpu ≠ some c') :
    (s.procs j).LockedKeeps (t.procs j) := by
  have locked : (s.procs j).lock ≠ none := by simp [hlk]
  have busy : ∀ {o : Option Nat}, AllFree cfg s o → o = some j := fun hf => by
    by_contra e; exact locked (hf j hj (Ne.symm e))
  have other : ∀ {i}, (s.procs i).lock = none → j ≠ i := by rintro i hi rfl; exact locked hi
  cases a <;> simp only [Action.cpu, ne_eq, Option.some.injEq] at hc
  case sched c'' =>
    have hs' := (step_sched hs).2
    by_cases hrun : (t.cpus c'').pc = .run
    · obtain ⟨k, p, hk, rfl⟩ := schedStep_dispatch_lock hl hs' hrun
      have e : j ≠ k := by rintro rfl; rw [hlk] at hk; exact hk.elim nofun fun e => hc (Option.some.inj e).symm
      exact .of_eq (by simp [dispatch, Function.update_noteq e])
    · rcases schedStep_procs hs' with hr | hup | ⟨k, -, rfl⟩ | ⟨k, -, -, -, hk, rfl⟩
      · exact .of_lock (hr j)
      · rw [hup]; simp only [upgradePolicy, Kernel.mapProcs_procs]; split_ifs <;> exact rfl
      · simp [dispatch] at hrun
      · have e : j ≠ k := by rintro rfl; rw [hlk] at hk; cases hk
        exact .of_eq (by simp [halt, Function.update_noteq e])
  case tick => obtain ⟨hf, -⟩ := step_tick hs; cases busy hf
  case wakeup c'' ch =>
    obtain ⟨-, -, hf, rfl⟩ := step_wakeup hs
    exact .of_eq (by rw [busy hf, wakeup_procs_me])
  case fork c'' page ok =>
    obtain ⟨i, -, hf, hres⟩ := step_fork hs
    have hne : ∀ np, firstSlot cfg s unusedHit = some np → j ≠ np := fun np hnp =>
      let ⟨hlt, _, hb⟩ := firstSlot_eq_some.mp hnp; other (hf np hlt hb)
    rcases hres with ⟨np, -, rfl⟩ | ⟨-, rfl⟩ <;> exact .of_eq (by simp [forkAlloc_procs_of_ne_first hne])
  case forkLink c'' =>
    obtain ⟨i, np, -, rfl⟩ := step_forkLink hs
    simp only [forkLink, Kernel.setCpu_procs, Kernel.setProc_procs, Function.update_apply]
    split_ifs <;> subst_vars <;> exact rfl
  case forkRun c'' =>
    obtain ⟨i, np, -, hnp, rfl⟩ := step_forkRun hs
    simp only [Kernel.setCpu_procs, forkRun]
    split_ifs <;> simp only [Kernel.setProc_procs, Function.update_apply] <;> split_ifs <;> subst_vars
    all_goals first | exact rfl | exact absurd rfl (other hnp)
  case exit c'' st => obtain ⟨i, -, -, hf, -⟩ := step_exit hs; cases busy hf
  case wait c'' addr ok =>
    obtain ⟨i, -, hf, ⟨-, rfl⟩ | ⟨hn, -, rfl⟩⟩ := step_wait hs
    · exact .of_eq (waitScan_procs_of_lock hf locked)
    · rw [(waitScan_none hn).1]; exact .of_lock (sleepLock_procs _ _ _ _ _)
  case sleep c'' ch =>
    obtain ⟨i, -, -, -, rfl⟩ := step_sleep hs
    exact .of_lock (sleepLock_procs _ _ _ _ _)
  case park c'' =>
    obtain ⟨i, ch, hr, rfl⟩ := step_park hs
    have hi : (s.procs i).lock = some c'' := hl c'' i (by simp [Cpu.held, hr.pc_eq, hr.proc_eq])
    have e : j ≠ i := by rintro rfl; rw [hlk] at hi; exact hc (Option.some.inj hi).symm
    exact .of_eq (by simp [park, switchOut_procs_ne _ _ _ e, Function.update_noteq e])
  case yield c'' =>
    obtain ⟨i, -, hi, rfl⟩ := step_yield hs
    exact .of_eq (by simp [yield, switchOut_procs_ne _ _ _ (other hi), Function.update_noteq (other hi)])
  case kill c'' pid =>
    obtain ⟨i, -, hf, rfl⟩ := step_kill hs
    exact .of_eq (kill_procs_of_locked hf locked)
  case setPriority c'' prio pid =>
    obtain ⟨i, -, hf, rfl⟩ := step_setPriority hs
    exact .of_eq (setPriorityI_procs_of_locked hf locked)
  case growproc | fileOpen | fileClose | trapLevel =>
    obtain ⟨i, ho⟩ := step_own hs rfl
    unfold Proc.LockedKeeps; rw [ho.procs j]

theorem step_guarded {c' : Nat} (hl : LockInv cfg s) (hs : step cfg s a = some t)
    (hj : j < cfg.nproc) (hlk : (s.procs j).lock = some c') (hc : a.cpu ≠ some c') :
    (s.procs j).SameGuarded (t.procs j) :=
  (step_locked_slot hl hs hj hlk hc).guarded

theorem held_lock_guards_slot (h : Reachable cfg s) (hs : step cfg s a = some t) {c' : Nat}
    (hj : j < cfg.nproc) (hlk : (s.procs j).lock = some c') (hc : a.cpu ≠ some c') :
    (s.procs j).SameGuarded (t.procs j) :=
  step_guarded h.lockInv hs hj hlk hc

def mlfqSleeping : Kernel :=
  (run sampleMlfq2 (boot sampleMlfq2 sampleFrame 0 1) [.sched 0, .sched 0, .sched 0, .sleep 0 .ticks]).getD
    (boot sampleMlfq2 sampleFrame 0 1)

theorem held_lock_guards_slot_mlfq :
    ∃ t, step sampleMlfq2 mlfqSleeping (.sched 1) = some t ∧ (mlfqSleeping.procs 0).SameGuarded (t.procs 0) :=
  have hr : Reachable sampleMlfq2 mlfqSleeping := (Reachable.boot sampleFrame 0 1).run_getD _ (by decide)
  have hs := (Option.some_get (by decide : (step sampleMlfq2 mlfqSleeping (.sched 1)).isSome)).symm
  ⟨_, hs, held_lock_guards_slot hr hs (by decide) (show (mlfqSleeping.procs 0).lock = some 0 by decide)
    (by decide)⟩

/-! ### No lost wakeup -/

def Committed (s : Kernel) (c i : Nat) (ch : Chan) : Prop :=
  (s.cpus c).pc = .sleep ch ∧ (s.cpus c).proc = some i ∨
    (s.procs i).state = .sleeping ∧ (s.procs i).chan = some ch

theorem step_of_sleep {ch : Chan} (hs : step cfg s a = some t) (ha : a.cpu = some c)
    (hpc : (s.cpus c).pc = .sleep ch) : a = .park c ∨ ∃ ch', a = .wakeup c ch' := by
  rcases step_runs hs ha with rfl | h | ⟨i, pc, hr, h⟩
  · simp [step, schedStep, hpc] at hs
  · exact .inr h
  · obtain rfl := hr.pc_eq.symm.trans hpc
    exact .inl (by simpa using h)

theorem Committed.step {i : Nat} {ch : Chan} (hu : MlfqUniprocessor cfg) (h : Reachable cfg s)
    (hch : ch.isProc = false) (hcom : Committed s c i ch) (hs : step cfg s a = some t)
    (hno : ∀ c', a ≠ .wakeup c' ch) (hnk : ∀ c' pid, a ≠ .kill c' pid) : Committed t c i ch := by
  rcases hcom with ⟨hpc, hi⟩ | ⟨hsl, hchan⟩
  · by_cases ha : a.cpu = some c
    · rcases step_of_sleep hs ha hpc with rfl | ⟨ch', rfl⟩
      · obtain ⟨i', ch', hr, rfl⟩ := step_park hs
        cases hpc.symm.trans hr.pc_eq; cases hi.symm.trans hr.proc_eq
        exact .inr (by simp [park])
      · obtain ⟨-, -, -, rfl⟩ := step_wakeup hs; exact .inl ⟨hpc, hi⟩
    · exact .inl (by rw [step_cpus_other hs ha]; exact ⟨hpc, hi⟩)
  · rcases sleeping_step hu h hs hsl with ⟨h1, h2⟩ |
        ⟨-, ⟨c', ch', rfl, e⟩ | ⟨c', st, i', -, -, e⟩ | ⟨c', pid, rfl, -⟩⟩
    · exact .inr ⟨h1, h2.trans hchan⟩
    · rw [hchan] at e; cases e; exact absurd rfl (hno c')
    · have hne : ∀ o : Option Nat, some ch ≠ o.map .proc := by
        rintro (_ | k) e <;> cases e; simp [Chan.isProc] at hch
      rw [hchan] at e
      rcases e with e | e <;> exact absurd e (hne _)
    · exact absurd rfl (hnk c' pid)

theorem Committed.run {i : Nat} {ch : Chan} (hu : MlfqUniprocessor cfg) (h : Reachable cfg s)
    (hch : ch.isProc = false) (hcom : Committed s c i ch) {as : List Action} (hrun : run cfg s as = some t)
    (hno : ∀ c', Action.wakeup c' ch ∉ as) (hnk : ∀ c' pid, Action.kill c' pid ∉ as) :
    Committed t c i ch := by
  induction as generalizing s with
  | nil => cases hrun; exact hcom
  | cons a as ih =>
    simp only [OsnScheduling.run, Option.bind_eq_some] at hrun
    obtain ⟨s', hs, hrun⟩ := hrun
    refine ih (h.step a hs) (hcom.step hu h hch hs (fun c' e => hno c' (e ▸ .head _))
      (fun c' pid e => hnk c' pid (e ▸ .head _))) hrun (fun c' hm => hno c' (.tail _ hm))
      (fun c' pid hm => hnk c' pid (.tail _ hm))

end

end OsnScheduling
