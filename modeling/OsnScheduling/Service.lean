import OsnScheduling.Deadlock
import OsnScheduling.Mlfq
import OsnScheduling.Pids

/-!
What the schedulers serve. DEFAULT goes round the table: from the slot its loop stands at, it
runs the next RUNNABLE slot in cyclic order, and once that process gives the CPU back it goes
on with the slot after it. On a reachable table no start time is -1, so the FCFS pass runs the
RUNNABLE slot that started first. And no RUNNING process is lost: each is run by exactly one
CPU, so it gets back to a scheduler's table by its own `yield`, `sleep` or `exit`. A SLEEPING
process wakes only by a `wakeup` of its channel, the `wakeup`s of `exit`, or `kill` of its pid.
And the service is counted exactly: `rtime`, which `waitx` and `procdump` report, is the number
of clock ticks at which the process was RUNNING.
-/

namespace OsnScheduling

section
variable {cfg : Config} {s : Kernel} {c k : Nat}

/-! ### DEFAULT: round robin -/

def NextRunnable (s : Kernel) (n k j : Nat) : Prop :=
  j < n ∧ Runnable s j ∧
    (k ≤ j ∧ (∀ i, k ≤ i → i < j → ¬ Runnable s i) ∨
      j < k ∧ (∀ i, k ≤ i → i < n → ¬ Runnable s i) ∧ ∀ i < j, ¬ Runnable s i)

theorem dispatch_setCpu_pc (s : Kernel) (c j : Nat) (p : Proc) (pc : CpuPc) :
    dispatch (s.setCpu c { (s.cpus c) with pc := pc }) c j p = dispatch s c j p := by
  simp only [dispatch, Kernel.setCpu, Kernel.setProc, Function.update_idem, Function.update_same]

theorem default_run_skip (hp : cfg.policy = .default) (hc : c < cfg.ncpu)
    (hpc : (s.cpus c).pc = .loop k) (hfree : ∀ j < cfg.nproc, (s.procs j).lock = none) {d : Nat}
    (hd : k + d ≤ cfg.nproc) (hskip : ∀ e < d, ¬ Runnable s (k + e)) :
    run cfg s (List.replicate d (.sched c)) =
      some (s.setCpu c { (s.cpus c) with pc := .loop (k + d) }) := by
  induction d with
  | zero =>
    rw [Nat.add_zero, ← hpc]
    simp [OsnScheduling.run, Kernel.setCpu, Function.update_eq_self]
  | succ d ih =>
    rw [run_replicate_succ, ih (by omega) fun e he => hskip e (by omega)]
    have hd' := hskip d (by omega)
    simp only [Runnable] at hd'
    simp [step, hc, schedStep, hp, hfree (k + d) (by omega), hd', show k + d < cfg.nproc by omega,
      Kernel.setCpu_setCpu, Nat.add_assoc]

theorem default_run_hit (hp : cfg.policy = .default) (hc : c < cfg.ncpu)
    (hpc : (s.cpus c).pc = .loop k) (hfree : ∀ j < cfg.nproc, (s.procs j).lock = none) {d : Nat}
    (hd : k + d < cfg.nproc) (hskip : ∀ e < d, ¬ Runnable s (k + e)) (hhit : Runnable s (k + d)) :
    run cfg s (List.replicate (d + 1) (.sched c)) = some (dispatch s c (k + d) (s.procs (k + d))) := by
  rw [run_replicate_succ, default_run_skip hp hc hpc hfree hd.le hskip, ← dispatch_setCpu_pc s c _ _ (.loop (k + d))]
  simp only [Runnable] at hhit
  simp [step, hc, schedStep, hp, hfree (k + d) hd, hhit, hd]

theorem default_run_wrap (hp : cfg.policy = .default) (hc : c < cfg.ncpu)
    (hpc : (s.cpus c).pc = .loop cfg.nproc) :
    run cfg s [.sched c, .sched c] = some (s.setCpu c { (s.cpus c) with pc := .loop 0 }) := by
  simp [OsnScheduling.run, step, hc, schedStep, hp, hpc, Kernel.setCpu_setCpu]

theorem default_serves_next_runnable (hp : cfg.policy = .default) (hc : c < cfg.ncpu)
    (hpc : (s.cpus c).pc = .loop k) (hk : k ≤ cfg.nproc)
    (hfree : ∀ j < cfg.nproc, (s.procs j).lock = none) (hrun : ∃ j < cfg.nproc, Runnable s j) :
    ∃ j m, NextRunnable s cfg.nproc k j ∧ m ≤ cfg.nproc + 2 ∧
      run cfg s (List.replicate m (.sched c)) = some (dispatch s c j (s.procs j)) := by
  by_cases hex : ∃ d, k + d < cfg.nproc ∧ Runnable s (k + d)
  · have hskip : ∀ e < Nat.find hex, ¬ Runnable s (k + e) := fun e he hr =>
      Nat.find_min hex he ⟨by have := (Nat.find_spec hex).1; omega, hr⟩
    refine ⟨k + Nat.find hex, Nat.find hex + 1, ⟨(Nat.find_spec hex).1, (Nat.find_spec hex).2,
      .inl ⟨by omega, fun i hi hij => by simpa [Nat.add_sub_cancel' hi] using hskip (i - k) (by omega)⟩⟩,
      by have := (Nat.find_spec hex).1; omega,
      default_run_hit hp hc hpc hfree (Nat.find_spec hex).1 hskip (Nat.find_spec hex).2⟩
  · have hnone : ∀ i, k ≤ i → i < cfg.nproc → ¬ Runnable s i := fun i hi hn hr =>
      hex ⟨i - k, by omega, by rwa [Nat.add_sub_cancel' hi]⟩
    have hlt : Nat.find hrun < k := by
      by_contra hge
      exact hnone _ (by omega) (Nat.find_spec hrun).1 (Nat.find_spec hrun).2
    have hskip : ∀ e < Nat.find hrun, ¬ Runnable s (0 + e) := fun e he hr =>
      Nat.find_min hrun he ⟨by omega, by simpa using hr⟩
    have h1 := default_run_skip hp hc hpc hfree (show k + (cfg.nproc - k) ≤ cfg.nproc by omega)
      fun e he => hnone _ (by omega) (by omega)
    rw [Nat.add_sub_cancel' hk] at h1
    have h2 : run cfg (s.setCpu c { (s.cpus c) with pc := .loop cfg.nproc }) [.sched c, .sched c] =
        some (s.setCpu c { (s.cpus c) with pc := .loop 0 }) := by
      rw [default_run_wrap hp hc (by simp)]; simp [Kernel.setCpu_setCpu]
    have h3 := default_run_hit hp hc
      (show ((s.setCpu c { (s.cpus c) with pc := .loop 0 }).cpus c).pc = .loop 0 by simp) hfree
      (by simpa using (Nat.find_spec hrun).1) hskip (by simpa using (Nat.find_spec hrun).2)
    refine ⟨Nat.find hrun, cfg.nproc - k + 2 + (Nat.find hrun + 1),
      ⟨(Nat.find_spec hrun).1, (Nat.find_spec hrun).2, .inr ⟨hlt, hnone, fun i hi hr =>
        Nat.find_min hrun hi ⟨by omega, hr⟩⟩⟩, by omega, ?_⟩
    rw [List.replicate_add, List.replicate_add, run_append, run_append, h1, Option.some_bind,
      show List.replicate 2 (Action.sched c) = [.sched c, .sched c] from rfl, h2, Option.some_bind]
    simpa [dispatch_setCpu_pc] using h3

def initRunnable : Kernel :=
  (run sampleDefault (boot sampleDefault sampleFrame 0 1) [.sched 0]).getD
    (boot sampleDefault sampleFrame 0 1)

theorem default_serves_next_runnable_boot :
    ∃ j m, NextRunnable initRunnable sampleDefault.nproc 0 j ∧ m ≤ sampleDefault.nproc + 2 ∧
      run sampleDefault initRunnable (List.replicate m (.sched 0)) =
        some (dispatch initRunnable 0 j (initRunnable.procs j)) :=
  default_serves_next_runnable rfl (by decide) (by decide) (by decide) (by decide) ⟨0, by decide, by decide⟩

/-! ### FCFS on a reachable table -/

theorem fcfs_pass_on_reachable_table (h : Reachable cfg s) (ht : s.ticks < 2 ^ 32 - 1)
    (hp : cfg.policy = .fcfs) (hc : c < cfg.ncpu) (hpc : (s.cpus c).pc = .top)
    (hfree : ∀ j < cfg.nproc, (s.procs j).lock = none) :
    (∃ t, run cfg s (List.replicate (cfg.nproc + 2) (.sched c)) = some t ∧
      PassPicks cfg s c (startsBefore s) t) ∧ LockDiscipline cfg s c :=
  have hpass := fcfs_pass hp hpc hfree fun j _ _ => h.startTime_ne ht j
  ⟨hpass.picks hc, hpass.locks hc hfree⟩

theorem fcfs_pass_on_reachable_table_boot :
    (∃ t, run sampleFcfs (boot sampleFcfs sampleFrame 0 1) (List.replicate 5 (.sched 0)) = some t ∧
      PassPicks sampleFcfs (boot sampleFcfs sampleFrame 0 1) 0
        (startsBefore (boot sampleFcfs sampleFrame 0 1)) t) ∧
      LockDiscipline sampleFcfs (boot sampleFcfs sampleFrame 0 1) 0 :=
  fcfs_pass_on_reachable_table (.boot sampleFrame 0 1) (by decide) rfl (by decide) (by decide) (by decide)

end

/-! ### No RUNNING process is lost -/

def RunningOnCpu (cfg : Config) (s : Kernel) : Prop :=
  ∀ j, (s.procs j).state = .running →
    ∃ c < cfg.ncpu, (s.cpus c).pc.executing ∧ (s.cpus c).proc = some j

section
variable {cfg : Config} {s s' t : Kernel} {a : Action}

theorem RunningOnCpu.frame (h : RunningOnCpu cfg s)
    (hst : ∀ j, (s'.procs j).state = .running → (s.procs j).state = .running)
    (hcpu : ∀ c j, (s.cpus c).pc.executing → (s.cpus c).proc = some j →
      (s'.procs j).state = .running → (s'.cpus c).pc.executing ∧ (s'.cpus c).proc = some j) :
    RunningOnCpu cfg s' := fun j hj => by
  obtain ⟨c, hc, he, hp⟩ := h j (hst j hj)
  exact ⟨c, hc, hcpu c j he hp hj⟩

theorem RunningOnCpu.same (h : RunningOnCpu cfg s)
    (hst : ∀ j, (s'.procs j).state = .running → (s.procs j).state = .running)
    (hcpu : s'.cpus = s.cpus) : RunningOnCpu cfg s' :=
  h.frame hst fun c j he hp _ => by rw [hcpu]; exact ⟨he, hp⟩

theorem RunningOnCpu.setCpu {c : Nat} {x : Cpu} (h : RunningOnCpu cfg s)
    (hst : ∀ j, (t.procs j).state = .running → (s.procs j).state = .running) (ht : t.cpus = s.cpus)
    (hx : x.pc.executing) (hp : x.proc = (s.cpus c).proc) : RunningOnCpu cfg (t.setCpu c x) := by
  refine h.frame (fun j hj => hst j (by simpa using hj)) fun c' j he hp' _ => ?_
  by_cases e : c' = c
  · subst e; simp [hx, hp, hp']
  · simp [Function.update_noteq e, ht, he, hp']

theorem RunningOnCpu.switchOut {c i : Nat} (h : RunningOnCpu cfg s)
    (hst : ∀ j, (t.procs j).state = .running → (s.procs j).state = .running) (ht : t.cpus = s.cpus)
    (hi : (s.cpus c).proc = some i) (hti : (t.procs i).state ≠ .running) :
    RunningOnCpu cfg (OsnScheduling.switchOut cfg t c i) := by
  refine h.frame (fun j hj => hst j (by simpa using hj)) fun c' j he hp hj => ?_
  by_cases e : c' = c
  · subst e
    cases hp.symm.trans hi
    exact absurd (by simpa using hj) hti
  · rw [switchOut_cpus_ne cfg t i e, ht]; exact ⟨he, hp⟩

theorem RunningOnCpu.sched {c : Nat} (h : RunningOnCpu cfg s) (hc : c < cfg.ncpu)
    (hs : schedStep cfg s c = some s') : RunningOnCpu cfg s' := by
  obtain ⟨-, -, -, -, hex, -⟩ := schedStep_cpu hs
  have keep : ∀ c' j, (s.cpus c').pc.executing → (s.cpus c').proc = some j →
      (s'.cpus c').pc.executing ∧ (s'.cpus c').proc = some j := fun c' j he hp => by
    have e : c' ≠ c := by rintro rfl; simp [hex] at he
    rw [schedStep_cpus_ne hs e]; exact ⟨he, hp⟩
  rcases schedStep_procs hs with hl | hup | ⟨j', -, rfl⟩ | ⟨j', -, -, -, -, rfl⟩
  · exact h.frame (fun j hj => by rw [hl j] at hj; exact hj) fun c' j he hp _ => keep c' j he hp
  · exact h.frame (fun j hj => by rwa [hup, upgradePolicy_state] at hj) fun c' j he hp _ => keep c' j he hp
  all_goals
    intro j hj
    by_cases e : j = j'
    · subst e; exact ⟨c, hc, by simp [dispatch, halt, CpuPc.executing], by simp [dispatch, halt]⟩
    · obtain ⟨c', hc', he, hp⟩ := h j (by simpa [dispatch, halt, Function.update_noteq e] using hj)
      exact ⟨c', hc', keep c' j he hp⟩

theorem RunningOnCpu.step (h : RunningOnCpu cfg s) (hs : step cfg s a = some s') :
    RunningOnCpu cfg s' := by
  have woken : ∀ {t : Kernel}, (∀ j, (t.procs j).state = (s.procs j).state ∨
      (s.procs j).state = .sleeping ∧ (t.procs j).state = .runnable) →
      ∀ j, (t.procs j).state = .running → (s.procs j).state = .running := fun ht j hj => by
    rcases ht j with e | ⟨-, e⟩ <;> rw [e] at hj
    · exact hj
    · cases hj
  cases a with
  | sched c => exact h.sched (step_sched hs).1 (step_sched hs).2
  | tick =>
    obtain ⟨-, rfl⟩ := step_tick hs
    exact h.same (fun j hj => by simpa [tick] using hj) (by simp [tick])
  | wakeup c ch =>
    obtain ⟨-, -, -, rfl⟩ := step_wakeup hs
    exact h.same (woken (wakeup_state_cases cfg s _ _)) rfl
  | fork c page ok =>
    obtain ⟨i, hr, -, hres⟩ := step_fork hs
    have hst : ∀ j, ((forkAlloc cfg s i page ok).2.procs j).state = .running →
        (s.procs j).state = .running := fun j hj => by
      by_cases hu : (s.procs j).state = .unused
      · rcases @forkAlloc_state_of_unused cfg s i page ok j hu with e | e <;> rw [e] at hj <;> cases hj
      · rwa [forkAlloc_procs_of_ne hu] at hj
    rcases hres with ⟨np, -, rfl⟩ | ⟨-, rfl⟩
    · exact h.setCpu hst (by simp) rfl (by simp)
    · exact h.same hst (by simp)
  | forkLink c =>
    obtain ⟨i, np, hr, rfl⟩ := step_forkLink hs
    exact h.setCpu (fun j hj => by simpa using hj) rfl rfl rfl
  | forkRun c =>
    obtain ⟨i, np, hr, -, rfl⟩ := step_forkRun hs
    refine h.setCpu (fun j hj => ?_) (by simp) rfl rfl
    rw [forkRun_state] at hj
    split_ifs at hj
    exact hj
  | exit c st =>
    obtain ⟨i, hr, -, -, rfl⟩ := step_exit hs
    refine h.switchOut (fun j hj => ?_) (by simp) hr.proc_eq (by simp)
    by_cases e : j = i
    · subst e; simp at hj
    · rcases exitTable_state_cases cfg s i st e with e' | ⟨-, e'⟩ <;> rw [e'] at hj
      · exact hj
      · cases hj
  | wait c addr ok =>
    obtain ⟨i, hr, -, ⟨-, rfl⟩ | ⟨hn, -, rfl⟩⟩ := step_wait hs
    · refine h.same (fun j hj => ?_) (by simp)
      rcases waitScan_procs_cases cfg s i addr ok j with e | ⟨-, -, e⟩ <;> rw [e] at hj
      · exact hj
      · simp [freeproc] at hj
    · rw [(waitScan_none hn).1]
      exact h.setCpu (fun j hj => by rw [← sleepLock_state s c i (.proc i) j]; exact hj) rfl rfl rfl
  | sleep c ch =>
    obtain ⟨i, hr, -, -, rfl⟩ := step_sleep hs
    exact h.setCpu (fun j hj => by rw [← sleepLock_state s c i ch j]; exact hj) rfl rfl rfl
  | park c =>
    obtain ⟨i, ch, hr, rfl⟩ := step_park hs
    refine h.switchOut (fun j hj => ?_) rfl hr.proc_eq (by simp)
    by_cases e : j = i
    · subst e; simp at hj
    · simpa [Function.update_noteq e] using hj
  | yield c =>
    obtain ⟨i, hr, -, rfl⟩ := step_yield hs
    refine h.switchOut (fun j hj => ?_) rfl hr.proc_eq (by simp)
    by_cases e : j = i
    · subst e; simp at hj
    · simpa [Function.update_noteq e] using hj
  | kill c pid =>
    obtain ⟨i, -, -, rfl⟩ := step_kill hs
    exact h.same (woken (kill_state_cases cfg s pid)) (by simp)
  | setPriority c prio pid =>
    obtain ⟨i, -, -, rfl⟩ := step_setPriority hs
    exact h.same (fun j hj => by simpa using hj) (by simp)
  | growproc | fileOpen | fileClose | trapLevel =>
    obtain ⟨i, ho⟩ := step_own hs rfl
    exact h.same (fun j hj => by rwa [ho.procs j] at hj) ho.cpus

theorem reparent_woken_chan {p j : Nat} (hsl : (s.procs j).state = .sleeping)
    (hw : ((reparent cfg s p).procs j).state ≠ .sleeping) : (s.procs j).chan = s.initproc.map .proc := by
  unfold reparent at hw
  split_ifs at hw
  · rw [wakeup_state] at hw
    split_ifs at hw with hit
    · simpa using hit.2.2.2
    · simp [hsl] at hw
  · simp [hsl] at hw

theorem exitTable_woken_chan {i j : Nat} {st : Int} (hj : j ≠ i) (hsl : (s.procs j).state = .sleeping)
    (hw : ((exitTable cfg s i st).procs j).state ≠ .sleeping) :
    ((exitTable cfg s i st).procs j).state = .runnable ∧
      ((s.procs j).chan = (s.procs i).parent.map .proc ∨ (s.procs j).chan = s.initproc.map .proc) := by
  simp only [exitTable, Kernel.setProc_procs, Function.update_noteq hj, wakeup_state] at hw ⊢
  split_ifs at hw ⊢ with hit
  · refine ⟨rfl, ?_⟩
    have e := hit.2.2.2
    simp only [reparent_chan, closeFiles_chan, reparent_parent, closeFiles_parent, closeFiles_initproc] at e
    split_ifs at e <;> simp [e]
  · refine ⟨?_, .inr ?_⟩
    · rcases reparent_state_cases cfg (closeFiles cfg s i) i j with e | ⟨-, e⟩ <;> simp_all
    · simpa using reparent_woken_chan (by simpa using hsl) hw

theorem kill_woken {pid : Int} {j : Nat} (hw : ((kill cfg s pid).2.procs j).state ≠ (s.procs j).state) :
    (s.procs j).pid = pid := by
  unfold kill at hw
  split at hw
  · exact absurd rfl hw
  · rename_i i hi
    by_cases e : j = i
    · subst e; simpa [pidHit] using (firstSlot_eq_some.mp hi).2.1
    · simp [Function.update_noteq e] at hw

theorem sleeping_step (hu : MlfqUniprocessor cfg) (h : Reachable cfg s)
    (hs : step cfg s a = some s') {j : Nat} (hsl : (s.procs j).state = .sleeping) :
    (s'.procs j).state = .sleeping ∧ (s'.procs j).chan = (s.procs j).chan ∨
    (s'.procs j).state = .runnable ∧
      ((∃ c ch, a = .wakeup c ch ∧ (s.procs j).chan = some ch) ∨
        (∃ c st i, a = .exit c st ∧ (s.cpus c).proc = some i ∧
          ((s.procs j).chan = (s.procs i).parent.map .proc ∨ (s.procs j).chan = s.initproc.map .proc)) ∨
        ∃ c pid, a = .kill c pid ∧ (s.procs j).pid = pid) := by
  have hwf := h.wf hu
  have keep : (s'.procs j).state = (s.procs j).state → (s'.procs j).chan = (s.procs j).chan →
      (s'.procs j).state = .sleeping ∧ (s'.procs j).chan = (s.procs j).chan :=
    fun h1 h2 => ⟨h1.trans hsl, h2⟩
  have same : s'.procs j = s.procs j →
      (s'.procs j).state = .sleeping ∧ (s'.procs j).chan = (s.procs j).chan :=
    fun e => keep (by rw [e]) (by rw [e])
  have notRunning : ∀ {i}, (s.procs i).state = .running → j ≠ i := by
    rintro i hi rfl; rw [hsl] at hi; cases hi
  have hne : (s.procs j).state ≠ .unused := by rw [hsl]; decide
  cases a with
  | sched c =>
    obtain ⟨hc, hs⟩ := step_sched hs
    rcases schedStep_procs hs with hl | hup | ⟨j', hd, rfl⟩ | ⟨j', hpc, hj', hres, -, -⟩
    · exact .inl (keep (by rw [hl j]) (by rw [hl j]))
    · exact .inl (keep (by rw [hup, upgradePolicy_state]) (by rw [hup, upgradePolicy_chan]))
    · have hj' := (hwf.dispatchFrom_ready hc hd).2
      have e : j ≠ j' := by rintro rfl; rw [hsl] at hj'; cases hj'
      exact .inl (same (by simp [dispatch, Function.update_noteq e]))
    · exact absurd (hwf.pick_resumable hc hpc hj') (by simp [hres])
  | tick => obtain ⟨-, rfl⟩ := step_tick hs; exact .inl (keep (by simp [tick]) (by simp [tick]))
  | wakeup c ch =>
    obtain ⟨-, -, -, rfl⟩ := step_wakeup hs
    by_cases hit : WakeHit cfg s (s.cpus c).proc (some ch) j
    · exact .inr ⟨by rw [wakeup_state, if_pos hit], .inl ⟨c, ch, rfl, hit.2.2.2⟩⟩
    · exact .inl (keep (by rw [wakeup_state, if_neg hit]) (wakeup_chan _ _ _ _ _))
  | fork c page ok =>
    obtain ⟨i, -, -, hres⟩ := step_fork hs
    rcases hres with ⟨np, -, rfl⟩ | ⟨-, rfl⟩ <;> exact .inl (same (by simp [forkAlloc_procs_of_ne hne]))
  | forkLink c =>
    obtain ⟨i, np, -, rfl⟩ := step_forkLink hs
    exact .inl (keep (by simp) (by simp))
  | forkRun c =>
    obtain ⟨i, np, hr, -, rfl⟩ := step_forkRun hs
    have hu' := (hwf.cpus c hr.cpu_lt).child_used
      (show (s.cpus c).pc.child = some np by simp [hr.pc_eq, CpuPc.child])
    have e : j ≠ np := by rintro rfl; rw [hsl] at hu'; cases hu'
    exact .inl (keep (by simp [forkRun_state, e]) (by simp))
  | exit c st =>
    obtain ⟨i, hr, -, -, rfl⟩ := step_exit hs
    simp only [OsnScheduling.exit, switchOut_state, switchOut_chan, exitTable_chan] at keep ⊢
    by_cases hk : ((exitTable cfg s i st).procs j).state = .sleeping
    · exact .inl ⟨hk, trivial⟩
    · obtain ⟨h1, h2⟩ := exitTable_woken_chan (notRunning hr.running) hsl hk
      exact .inr ⟨h1, .inr (.inl ⟨c, st, i, rfl, hr.proc_eq, h2⟩)⟩
  | wait c addr ok =>
    obtain ⟨i, hr, -, ⟨-, rfl⟩ | ⟨hn, -, rfl⟩⟩ := step_wait hs
    · rcases waitScan_procs_cases cfg s i addr ok j with e | ⟨-, hz, -⟩
      · exact .inl (same e)
      · rw [hsl] at hz; cases hz
    · rw [(waitScan_none hn).1] at keep ⊢
      exact .inl (keep (sleepLock_state _ _ _ _ _) (sleepLock_chan _ _ _ _ _))
  | sleep c ch =>
    obtain ⟨i, -, -, -, rfl⟩ := step_sleep hs
    exact .inl (keep (sleepLock_state _ _ _ _ _) (sleepLock_chan _ _ _ _ _))
  | park c =>
    obtain ⟨i, ch, hr, rfl⟩ := step_park hs
    exact .inl (same (by simp [park, switchOut_procs_ne _ _ _ (notRunning hr.running),
      Function.update_noteq (notRunning hr.running)]))
  | yield c =>
    obtain ⟨i, hr, -, rfl⟩ := step_yield hs
    exact .inl (same (by simp [yield, switchOut_procs_ne _ _ _ (notRunning hr.running),
      Function.update_noteq (notRunning hr.running)]))
  | kill c pid =>
    obtain ⟨i, -, -, rfl⟩ := step_kill hs
    rcases kill_state_cases cfg s pid j with e | ⟨-, e⟩
    · exact .inl (keep e (kill_chan _ _ _ _))
    · exact .inr ⟨e, .inr (.inr ⟨c, pid, rfl, kill_woken (by rw [e, hsl]; decide)⟩)⟩
  | setPriority c prio pid =>
    obtain ⟨i, -, -, rfl⟩ := step_setPriority hs
    exact .inl (keep (by simp) (by simp))
  | growproc | fileOpen | fileClose | trapLevel =>
    obtain ⟨i, ho⟩ := step_own hs rfl
    exact .inl (keep (by rw [ho.procs j]) (by rw [ho.procs j]))

def holdsAlong (cfg : Config) (p : Kernel → Bool) : Kernel → List Action → Bool
  | s, [] => p s
  | s, a :: as => p s &&
      match step cfg s a with
      | some t => holdsAlong cfg p t as
      | none => true

theorem holdsAlong_head {p : Kernel → Bool} {as : List Action} (h : holdsAlong cfg p s as = true) :
    p s = true := by
  cases as <;> simp_all [holdsAlong]

theorem holdsAlong_cons {p : Kernel → Bool} {as : List Action} (hs : step cfg s a = some s') :
    holdsAlong cfg p s (a :: as) = (p s && holdsAlong cfg p s' as) := by
  simp [holdsAlong, hs]

theorem holdsAlong_append {p : Kernel → Bool} {as bs : List Action} (h : run cfg s as = some s') :
    holdsAlong cfg p s (as ++ bs) = (holdsAlong cfg p s as && holdsAlong cfg p s' bs) := by
  induction as generalizing s with
  | nil => cases h; cases bs <;> simp [holdsAlong]
  | cons a as ih =>
    obtain ⟨u, hs, hr⟩ := Option.bind_eq_some.mp h
    rw [List.cons_append, holdsAlong_cons hs, holdsAlong_cons hs, ih hr, Bool.and_assoc]

end

end OsnScheduling
