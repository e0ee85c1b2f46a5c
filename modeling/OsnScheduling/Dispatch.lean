import OsnScheduling.Wf

/-!
What a scheduler dispatches. DEFAULT checks `p->state == RUNNABLE` under `p->lock`, and
FCFS and PBS keep their candidate's lock from the check to the dispatch; MLFQ picks its
slot in a scan that holds no lock, which is sound on one CPU only. The DEFAULT scheduler
also clears `c->proc` when the process switches back to it.
-/

namespace OsnScheduling

variable {cfg : Config} {s s' : Kernel}

theorem Wf.dispatchFrom_ready {c j : Nat} (h : Wf cfg s) (hc : c < cfg.ncpu)
    (hd : DispatchFrom cfg s (s.cpus c) j) : Ready cfg s j := by
  obtain ⟨-, hok⟩ := h.cpus c hc
  rcases hd with ⟨-, -, hj, hr⟩ | ⟨⟨k, hpc⟩, hsc, ht⟩ | ⟨hpc, ht⟩
  · exact ⟨hj, hr⟩
  · simp only [hpc] at hok; exact hok.2.2 j hsc ht
  · simp only [hpc] at hok; exact hok.2 j ht

theorem Wf.pick_resumable {c j : Nat} (h : Wf cfg s) (hc : c < cfg.ncpu) (hpc : (s.cpus c).pc = .pick)
    (hj : (s.cpus c).toBeScheduled = some j) : (s.procs j).state.resumable = true := by
  simp [(h.dispatchFrom_ready hc (.inr (.inr ⟨hpc, hj⟩))).2, ProcState.resumable]

def ProcCleared (cfg : Config) (s : Kernel) : Prop :=
  cfg.policy = .default → ∀ c, (s.cpus c).pc.executing = false → (s.cpus c).proc = none

theorem ProcCleared.setCpu {c : Nat} {x : Cpu} (h : ProcCleared cfg s) (t : Kernel)
    (ht : t.cpus = s.cpus) (hx : cfg.policy = .default → x.pc.executing = false → x.proc = none) :
    ProcCleared cfg (t.setCpu c x) := fun hd c' hc' => by
  by_cases e : c' = c
  · subst e; simp_all
  · simp only [Kernel.setCpu_cpus, Function.update_noteq e, ht] at hc' ⊢
    exact h hd c' hc'

theorem ProcCleared.sched {c : Nat} (h : ProcCleared cfg s) (hs : schedStep cfg s c = some s') :
    ProcCleared cfg s' := by
  obtain ⟨t, x, rfl, ht, hex, hx⟩ := schedStep_cpu hs
  refine h.setCpu t ht fun hd he => ?_
  rcases hx with hx | hx | ⟨-, hx | hx⟩
  · simp [hx, CpuPc.executing] at he
  · simp [hx, CpuPc.executing] at he
  · rw [hx]; exact h hd c hex
  · exact hx

theorem ProcCleared.step {a : Action} (h : ProcCleared cfg s) (hs : step cfg s a = some s') :
    ProcCleared cfg s' := by
  have hrun : ∀ c (t : Kernel) (x : Cpu), t.cpus = s.cpus → x.pc.executing →
      ProcCleared cfg (t.setCpu c x) :=
    fun c t x ht he' => h.setCpu t ht fun _ he => by simp [he'] at he
  have hleave : ∀ c i t, t.cpus = s.cpus → ProcCleared cfg (switchOut cfg t c i) :=
    fun c i t ht => h.setCpu _ (by simp [ht]) fun hd _ => by simp [Cpu.resume, hd]
  cases a with
  | sched c => exact h.sched (step_sched hs).2
  | tick => obtain ⟨-, rfl⟩ := step_tick hs; exact fun hd c => by simpa [tick] using h hd c
  | wakeup c ch => obtain ⟨-, -, -, rfl⟩ := step_wakeup hs; exact fun hd c => by simpa using h hd c
  | fork c page ok =>
    obtain ⟨i, hr, -, ⟨np, -, rfl⟩ | ⟨-, rfl⟩⟩ := step_fork hs
    · exact hrun c _ _ (by simp) rfl
    · exact fun hd c => by simpa using h hd c
  | forkLink c =>
    obtain ⟨i, np, hr, rfl⟩ := step_forkLink hs
    exact hrun c _ _ rfl rfl
  | forkRun c =>
    obtain ⟨i, np, hr, -, rfl⟩ := step_forkRun hs
    exact hrun c _ _ (by simp) rfl
  | exit c st =>
    obtain ⟨i, -, -, -, rfl⟩ := step_exit hs
    exact hleave c i _ (by simp)
  | wait c addr ok =>
    obtain ⟨i, hr, -, ⟨-, rfl⟩ | ⟨-, -, rfl⟩⟩ := step_wait hs
    · exact fun hd c => by simpa using h hd c
    · exact hrun c _ _ (by simp [OsnScheduling.sleepLock]) rfl
  | sleep c ch =>
    obtain ⟨i, hr, -, -, rfl⟩ := step_sleep hs
    exact hrun c _ _ rfl rfl
  | park c =>
    obtain ⟨i, ch, -, rfl⟩ := step_park hs
    exact hleave c i _ rfl
  | yield c =>
    obtain ⟨i, -, -, rfl⟩ := step_yield hs
    exact hleave c i _ rfl
  | kill c pid => obtain ⟨i, -, -, rfl⟩ := step_kill hs; exact fun hd c => by simpa using h hd c
  | setPriority c prio pid =>
    obtain ⟨i, -, -, rfl⟩ := step_setPriority hs; exact fun hd c => by simpa using h hd c
  | growproc | fileOpen | fileClose | trapLevel =>
    obtain ⟨i, ho⟩ := step_own hs rfl
    exact fun hd c => by rw [ho.cpus]; exact h hd c

theorem Reachable.procCleared (h : Reachable cfg s) : ProcCleared cfg s := by
  induction h with
  | boot tf pt root => intro _ c _; simp [OsnScheduling.boot, Kernel.zero, Cpu.zero]
  | step a _ hs ih => exact ih.step hs

theorem dispatch_runnable_only (hu : MlfqUniprocessor cfg) (h : Reachable cfg s) :
    (∀ c < cfg.ncpu, ∀ s', schedStep cfg s c = some s' → (s'.cpus c).pc = .run →
      ∃ j, (s'.cpus c).proc = some j ∧ j < cfg.nproc ∧ (s.procs j).state = .runnable) ∧
    (∀ c₁ < cfg.ncpu, ∀ c₂ < cfg.ncpu, (s.cpus c₁).pc.executing → (s.cpus c₂).pc.executing →
      (s.cpus c₁).proc = (s.cpus c₂).proc → c₁ = c₂) ∧
    (cfg.policy = .default → ∀ c₁ < cfg.ncpu, ∀ c₂ < cfg.ncpu, ∀ j,
      (s.cpus c₁).proc = some j → (s.cpus c₂).proc = some j → c₁ = c₂) := by
  have hw := h.wf hu
  refine ⟨fun c hc s' hs hrun => ?_, hw.running, fun hd c₁ h₁ c₂ h₂ j e₁ e₂ => ?_⟩
  · obtain ⟨j, hd, rfl⟩ := schedStep_dispatch hs hrun
    obtain ⟨hj, hr⟩ := hw.dispatchFrom_ready hc hd
    exact ⟨j, by simp [dispatch], hj, hr⟩
  · have hex : ∀ c, (s.cpus c).proc = some j → (s.cpus c).pc.executing := fun c hc => by
      by_contra hne
      simp [h.procCleared hd c (by simpa using hne)] at hc
    exact hw.running c₁ h₁ c₂ h₂ (hex c₁ e₁) (hex c₂ e₂) (e₁.trans e₂.symm)

theorem dispatch_runnable_only_family :
    ∃ s', schedStep sampleDefault sampleFamily 0 = some s' ∧ (s'.cpus 0).pc = .run ∧
      ∃ j, (s'.cpus 0).proc = some j ∧ j < sampleDefault.nproc ∧ (sampleFamily.procs j).state = .runnable := by
  have h : (schedStep sampleDefault sampleFamily 0).map
      (fun t : Kernel => decide ((t.cpus 0).pc = .run)) = some true := by decide
  obtain ⟨s', hs, hr⟩ := Option.map_eq_some'.1 h
  exact ⟨s', hs, of_decide_eq_true hr, (dispatch_runnable_only (by decide) sampleFamily_reachable).1 0
    (by decide) s' hs (of_decide_eq_true hr)⟩

/-- Both MLFQ schedulers of `sampleMlfq2` have picked `initproc` while it was RUNNABLE,
and the first has dispatched it. -/
def mlfqTwoPicks : Kernel :=
  (run sampleMlfq2 (boot sampleMlfq2 sampleFrame 0 1)
    [.sched 0, .sched 0, .sched 1, .sched 1, .sched 0]).getD (boot sampleMlfq2 sampleFrame 0 1)

theorem mlfq_two_cpus_dispatch_running :
    ∃ s, Reachable sampleMlfq2 s ∧ (s.procs 0).state = .running ∧
      ∃ s', schedStep sampleMlfq2 s 1 = some s' ∧ (s'.cpus 1).pc = .run ∧ (s'.cpus 1).proc = some 0 ∧
        (s'.cpus 0).pc = .run ∧ (s'.cpus 0).proc = some 0 :=
  ⟨mlfqTwoPicks, (Reachable.boot sampleFrame 0 1).run_getD _ (by decide), by decide, _,
    (Option.some_get (by decide : (schedStep sampleMlfq2 mlfqTwoPicks 1).isSome)).symm,
    by decide, by decide, by decide, by decide⟩

/-- On two CPUs CPU 1 picks `initproc`'s child in MLFQ's lock-free scan; CPU 0 runs the
child to its exit, and `initproc` reaps it. CPU 1 still holds its pick of the free slot 1. -/
def mlfqStalePick : List Action :=
  [.sched 0, .sched 0, .sched 0, .fork 0 (some (sampleFrame, 1)) true, .forkLink 0, .forkRun 0,
   .sched 1, .sched 1, .sched 1,
   .wait 0 0 true, .park 0,
   .sched 0, .sched 0, .sched 0,
   .exit 0 7,
   .sched 0, .sched 0, .sched 0, .sched 0,
   .wait 0 0 true]

end OsnScheduling
