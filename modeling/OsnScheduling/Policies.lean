import OsnScheduling.Slots

/-!
The bookkeeping of PBS and MLFQ while a process runs. The PBS scheduler stamps
`running_time` with the tick and clears `sleeping_time` when it dispatches a process, and the
MLFQ scheduler clears `time_added`; nothing else writes them until the process stops running.
So `PSBPriority` of a RUNNING process divides by its dispatch tick, and a process that yields
goes back to its MLFQ queue with `time_added = 0`.
-/

namespace OsnScheduling

def Proc.schedTimes (p : Proc) : Int × Int × Int :=
  (p.runningTime, p.sleepingTime, p.timeAdded)

variable {cfg : Config} {s s' : Kernel} {a : Action} {j : Nat}

theorem running_step (hs : step cfg s a = some s') (hr : (s'.procs j).state = .running) :
    (s.procs j).state = .running ∧ (s'.procs j).schedTimes = (s.procs j).schedTimes ∨
      (s'.procs j).schedTimes = ((s.procs j).onDispatch cfg.policy s.ticks).schedTimes := by
  have keep : ∀ q : Proc, s'.procs j = q → q.state = (s.procs j).state →
      q.schedTimes = (s.procs j).schedTimes →
      (s.procs j).state = .running ∧ (s'.procs j).schedTimes = (s.procs j).schedTimes :=
    fun q e hst ht => ⟨by rw [← hst, ← e]; exact hr, by rw [e, ht]⟩
  cases a with
  | sched c =>
    rcases schedStep_procs (step_sched hs).2 with hl | hup | ⟨j', -, rfl⟩ | ⟨j', -, -, -, -, rfl⟩
    · exact .inl (keep _ (hl j) rfl rfl)
    · have e : s'.procs j = if UpgradeHit cfg s j then
          { (s.procs j) with timeAdded := s.ticks, priorityNumber := (s.procs j).priorityNumber - 1 }
          else s.procs j := by rw [hup]; rfl
      split_ifs at e with hit
      · rw [e] at hr; simp [hit.2.1] at hr
      · exact .inl (keep _ e rfl rfl)
    all_goals
      by_cases e : j = j'
      · subst e; exact .inr (by simp [dispatch, halt, Proc.schedTimes])
      · exact .inl (keep _ (by simp [dispatch, halt, Function.update_noteq e]) rfl rfl)
  | tick =>
    obtain ⟨-, rfl⟩ := step_tick hs
    refine .inl (keep _ rfl ?_ ?_) <;> simp only [OsnScheduling.tick, updateTime, Kernel.mapProcs_procs] <;>
      split_ifs <;> rfl
  | wakeup c ch =>
    obtain ⟨-, -, -, rfl⟩ := step_wakeup hs
    by_cases hw : WakeHit cfg s (s.cpus c).proc (some ch) j
    · simp [wakeup, hw] at hr
    · exact .inl (keep _ (by simp [wakeup, hw]) rfl rfl)
  | fork c page ok =>
    obtain ⟨i, -, -, hres⟩ := step_fork hs
    have key : ((forkAlloc cfg s i page ok).2.procs j).state = .running →
        (forkAlloc cfg s i page ok).2.procs j = s.procs j := fun h => by
      by_cases hu : (s.procs j).state = .unused
      · rcases @forkAlloc_state_of_unused cfg s i page ok j hu with h1 | h1 <;> rw [h1] at h <;> cases h
      · exact forkAlloc_procs_of_ne hu
    rcases hres with ⟨np, -, rfl⟩ | ⟨-, rfl⟩ <;> exact .inl (keep _ (key hr) rfl rfl)
  | forkLink c =>
    obtain ⟨i, np, -, rfl⟩ := step_forkLink hs
    refine .inl (keep _ rfl ?_ ?_) <;> simp only [forkLink, Kernel.setCpu_procs, Kernel.setProc_procs,
      Function.update_apply] <;> split_ifs <;> (subst_vars; rfl)
  | forkRun c =>
    obtain ⟨i, np, -, -, rfl⟩ := step_forkRun hs
    have hf := forkRun_procs cfg s i np j
    refine .inl (keep _ hf ?_ rfl)
    have := forkRun_state cfg s i np j
    split_ifs at this with e
    · simp [this] at hr
    · exact this
  | exit c st =>
    obtain ⟨i, hri, -, -, rfl⟩ := step_exit hs
    have hsw : (OsnScheduling.exit cfg s c i st).procs j =
        { (exitTable cfg s i st).procs j with lock := ((OsnScheduling.exit cfg s c i st).procs j).lock } :=
      switchOut_procs cfg _ c i j
    by_cases e : j = i
    · subst e; rw [hsw, exitTable_procs_self] at hr; cases hr
    · have hr' : ((exitTable cfg s i st).procs j).state = .running := by rw [hsw] at hr; exact hr
      rcases exitTable_state_cases cfg s i st e with h1 | ⟨-, h1⟩
      · rw [exitTable_procs_of_ne_sleeping cfg s st e (by rw [← h1, hr']; simp)] at hsw
        exact .inl (keep _ hsw rfl rfl)
      · rw [h1] at hr'; cases hr'
  | wait c addr ok =>
    obtain ⟨i, -, -, ⟨-, rfl⟩ | ⟨hn, -, rfl⟩⟩ := step_wait hs
    · rcases waitScan_procs_cases cfg s i addr ok j with h1 | ⟨-, -, h1⟩
      · exact .inl (keep _ h1 rfl rfl)
      · rw [h1] at hr; cases hr
    · rw [(waitScan_none hn).1] at keep ⊢
      exact .inl (keep _ (sleepLock_procs _ _ _ _ _) rfl rfl)
  | sleep c ch =>
    obtain ⟨i, -, -, -, rfl⟩ := step_sleep hs
    exact .inl (keep _ (sleepLock_procs _ _ _ _ _) rfl rfl)
  | park c =>
    obtain ⟨i, ch, -, rfl⟩ := step_park hs
    by_cases e : j = i
    · subst e; simp [park] at hr
    · exact .inl (keep _ (by simp [park, switchOut_procs_ne _ _ _ e, Function.update_noteq e]) rfl rfl)
  | yield c =>
    obtain ⟨i, -, -, rfl⟩ := step_yield hs
    by_cases e : j = i
    · subst e; simp [yield] at hr
    · exact .inl (keep _ (by simp [yield, switchOut_procs_ne _ _ _ e, Function.update_noteq e]) rfl rfl)
  | kill c pid =>
    obtain ⟨i, -, -, rfl⟩ := step_kill hs
    rcases kill_state_cases cfg s pid j with h1 | ⟨-, h1⟩
    · exact .inl (keep _ (kill_procs cfg s pid j) h1 rfl)
    · rw [h1] at hr; cases hr
  | setPriority c prio pid =>
    obtain ⟨i, -, -, rfl⟩ := step_setPriority hs
    rw [setPriorityI_state] at hr
    exact .inl (keep _ (setPriorityI_procs_of_not_ready (by simp [hr])) rfl rfl)
  | growproc | fileOpen | fileClose | trapLevel =>
    obtain ⟨i, ho⟩ := step_own hs rfl
    exact .inl (keep _ rfl (by rw [ho.procs j]) (by rw [ho.procs j]; rfl))

def Proc.RunTimesOk (pol : Policy) (ticks : Nat) (p : Proc) : Prop :=
  p.state = .running →
    (pol = .pbs → p.sleepingTime = 0 ∧ 0 ≤ p.runningTime ∧ p.runningTime ≤ ticks) ∧
      (pol = .mlfq → p.timeAdded = 0)

theorem Reachable.runTimesOk (h : Reachable cfg s) (j : Nat) :
    (s.procs j).RunTimesOk cfg.policy s.ticks := by
  induction h with
  | boot tf pt root =>
    intro hr
    by_cases e : j = 0
    · subst e; simp at hr
    · rw [boot_procs_ne cfg tf pt root e] at hr; cases hr
  | @step s s' a _ hs ih =>
    intro hr
    have ht := (step_counters hs).1
    rcases running_step hs hr with ⟨hr0, e⟩ | e <;>
      simp only [Proc.schedTimes, Proc.onDispatch_eq, Prod.mk.injEq] at e <;>
      obtain ⟨e1, e2, e3⟩ := e
    · obtain ⟨hpbs, hmlfq⟩ := ih hr0
      exact ⟨fun hp => by have := hpbs hp; omega, fun hp => by rw [e3]; exact hmlfq hp⟩
    · exact ⟨fun hp => by simp only [hp, if_true] at e1 e2; omega,
        fun hp => by simp only [hp, if_true] at e3; exact e3⟩

theorem pbs_running_divisor (hp : cfg.policy = .pbs) (h : Reachable cfg s)
    (hj : (s.procs j).state = .running) :
    (s.procs j).sleepingTime = 0 ∧ 0 ≤ (s.procs j).runningTime ∧ (s.procs j).runningTime ≤ s.ticks :=
  (h.runTimesOk j hj).1 hp

def samplePbs : Config := { sampleDefault with policy := .pbs }

theorem pbs_niceness_divides_by_zero :
    ∃ s, Reachable samplePbs s ∧ (s.procs 0).state = .runnable ∧
      ¬((s.procs 0).sleepingTime = -1 ∧ (s.procs 0).runningTime = -1) ∧
      (s.procs 0).runningTime + (s.procs 0).sleepingTime = 0 :=
  ⟨_, (Reachable.boot sampleFrame 0 1).run_getD
      [.sched 0, .sched 0, .sched 0, .sched 0, .sched 0, .yield 0] (by decide),
    by decide, by decide, by decide⟩

theorem mlfq_yield_upgrade_hit {c i : Nat} (hp : cfg.policy = .mlfq) (h : Reachable cfg s)
    (hr : Runs cfg s c .run i) (hk : (s.procs i).priorityNumber ≠ 0)
    (ht : u32 s.ticks > u32 (maxWait (s.procs i).priorityNumber)) :
    ((yield cfg s c i).procs i).timeAdded = 0 ∧ UpgradeHit cfg (yield cfg s c i) i := by
  have h0 := (h.runTimesOk i hr.running).2 hp
  have e : (yield cfg s c i).procs i =
      { (s.procs i) with state := .runnable, lock := none } := by simp [yield, switchOut]
  refine ⟨by rw [e]; exact h0, hr.lt, by rw [e], by rw [e]; exact hk, ?_⟩
  rw [e]
  simpa [yield, switchOut, h0] using ht

def sampleMlfq1 : Config := { sampleDefault with policy := .mlfq }

/-- After eleven ticks MLFQ dispatches `initproc`, the trap handler moves it to level 1, and it
yields at tick 11: `time_added` is still the 0 of its dispatch, so `UpgradePolicy` promotes it
at once. -/
def mlfqYieldLate : Kernel :=
  (run sampleMlfq1 (boot sampleMlfq1 sampleFrame 0 1)
    (List.replicate 11 .tick ++ [.sched 0, .sched 0, .sched 0, .trapLevel 0 1 0])).getD
    (boot sampleMlfq1 sampleFrame 0 1)

theorem mlfq_yield_keeps_time_added :
    ∃ s, Reachable sampleMlfq1 s ∧ (s.procs 0).state = .running ∧ s.ticks = 11 ∧
      ∃ s', step sampleMlfq1 s (.yield 0) = some s' ∧ (s'.procs 0).state = .runnable ∧
        (s'.procs 0).priorityNumber = 1 ∧ (s'.procs 0).timeAdded = 0 ∧ UpgradeHit sampleMlfq1 s' 0 :=
  have hs := (Option.some_get (by decide : (step sampleMlfq1 mlfqYieldLate (.yield 0)).isSome)).symm
  ⟨_, (Reachable.boot sampleFrame 0 1).run_getD _ (by decide), by decide, by decide, _, hs,
    by decide, by decide, by decide, by decide⟩

end OsnScheduling
