import OsnScheduling.Exclusion

/-!
First come, first served across CPUs. An FCFS pass keeps in `First_start` the least
`start_time` of the RUNNABLE slots it has gone over, and holds the lock of the slot it took it
from, `ToBeScheduled`: no other CPU can move that slot out of RUNNABLE, and no step changes
the `start_time` of a slot in use. So a pass that has gone over a RUNNABLE slot `j` dispatches
a slot that started no later than `j`. While `j` stays RUNNABLE, each CPU switches to at most
one slot started after `j`, whatever the other CPUs, the clock and the processes do in
between: the one whose pass went over `j` before `j` was RUNNABLE.
-/

namespace OsnScheduling

def CandOk (s : Kernel) (c : Nat) : Prop :=
  ∀ k m, (s.cpus c).pc = .loop k → (s.cpus c).firstStart ≠ -1 → (s.cpus c).toBeScheduled = some m →
    (s.procs m).state = .runnable ∧ (s.procs m).startTime = (s.cpus c).firstStart

def PassedOk (s : Kernel) (c j : Nat) : Prop :=
  ∀ k, (s.cpus c).pc = .loop k → j < k →
    (s.cpus c).firstStart ≠ -1 ∧ (s.cpus c).firstStart ≤ (s.procs j).startTime

@[simp] theorem lockStep_startTime (s : Kernel) (c k : Nat) (rel : Option Nat) (j : Nat) :
    ((lockStep s c k rel).procs j).startTime = (s.procs j).startTime := by
  rw [lockStep_procs]

theorem fcfsIter_cand (k : Nat) (p : Proc) (fs : Int) (tbs : Option Nat) :
    p.state = .runnable ∧ (fcfsIter k p fs tbs).2.1 = some k ∧ (fcfsIter k p fs tbs).1 = p.startTime ∨
      (fcfsIter k p fs tbs).2.1 = tbs ∧ (fcfsIter k p fs tbs).1 = fs := by
  unfold fcfsIter; split_ifs <;> simp_all

theorem fcfsIter_le {k : Nat} {p : Proc} {fs : Int} {tbs : Option Nat} (hp : p.startTime ≠ -1)
    (hfs : fs ≠ -1) : (fcfsIter k p fs tbs).1 ≠ -1 ∧ (fcfsIter k p fs tbs).1 ≤ fs := by
  unfold fcfsIter; split_ifs <;> simp only [ne_eq] <;> omega

theorem fcfsIter_le_self {k : Nat} {p : Proc} {fs : Int} {tbs : Option Nat} (hp : p.startTime ≠ -1)
    (hr : p.state = .runnable) : (fcfsIter k p fs tbs).1 ≠ -1 ∧ (fcfsIter k p fs tbs).1 ≤ p.startTime := by
  unfold fcfsIter; simp only [if_pos hr]; split_ifs <;> simp only [ne_eq] <;> omega

section
variable {cfg : Config} {s t : Kernel} {a : Action} {c j k m : Nat}

theorem schedStep_fcfs (hp : cfg.policy = .fcfs) (hs : schedStep cfg s c = some t) :
    (s.cpus c).pc = .top ∧ t = s.setCpu c { (s.cpus c) with proc := none, firstStart := -1, pc := .loop 0 } ∨
      ∃ k, (s.cpus c).pc = .loop k ∧
        (k < cfg.nproc ∧ t = (lockStep s c k (fcfsIter k (s.procs k) (s.cpus c).firstStart
            (s.cpus c).toBeScheduled).2.2).setCpu c
            { (s.cpus c) with
              firstStart := (fcfsIter k (s.procs k) (s.cpus c).firstStart (s.cpus c).toBeScheduled).1,
              toBeScheduled := (fcfsIter k (s.procs k) (s.cpus c).firstStart (s.cpus c).toBeScheduled).2.1,
              pc := .loop (k + 1) } ∨
          cfg.nproc ≤ k ∧ (s.cpus c).firstStart = -1 ∧ t = s.setCpu c { (s.cpus c) with pc := .top } ∨
          cfg.nproc ≤ k ∧ (s.cpus c).firstStart ≠ -1 ∧
            ∃ m, (s.cpus c).toBeScheduled = some m ∧ t = dispatch s c m (s.procs m)) := by
  cases hpc : (s.cpus c).pc <;> simp only [schedStep, hp, hpc] at hs
  case top => exact .inl ⟨rfl, (Option.some.inj hs).symm⟩
  case loop k =>
    refine .inr ⟨k, rfl, ?_⟩
    split_ifs at hs with hk _ hfs
    · exact .inl ⟨hk, (Option.some.inj hs).symm⟩
    · exact .inr (.inl ⟨Nat.le_of_not_lt hk, hfs, (Option.some.inj hs).symm⟩)
    · split at hs <;> cases hs
      exact .inr (.inr ⟨Nat.le_of_not_lt hk, hfs, _, ‹_›, rfl⟩)
  all_goals cases hs

theorem step_of_loop (hs : step cfg s a = some t) (ha : a.cpu = some c)
    (hpc : (s.cpus c).pc = .loop k) : a = .sched c ∨ ∃ ch, a = .wakeup c ch := by
  rcases step_runs hs ha with h | h | ⟨i, pc, hr, h⟩
  · exact .inl h
  · exact .inr h
  · obtain rfl := hr.pc_eq.symm.trans hpc
    simp at h

theorem CpuMove.noSwitch (h : CpuMove cfg s t c) : switchIn c s t = 0 := by
  rcases h with h | ⟨i, pc, hr, he, -⟩
  · simp [switchIn, h]
  · simp [switchIn, hr.pc_eq, he]

theorem CpuMove.loop (hp : cfg.policy ≠ .default) (h : CpuMove cfg s t c) (hk : (t.cpus c).pc = .loop k) :
    t.cpus c = s.cpus c := by
  rcases h with h | ⟨i, pc, -, -, ⟨-, hte⟩ | hres⟩
  · exact h
  · simp [hk, CpuPc.executing] at hte
  · rw [hres] at hk; cases hpol : cfg.policy <;> simp [Cpu.resume, hpol] at hk hp

theorem step_own_of_held (h : Reachable cfg s) (hs : step cfg s a = some t) (ha : a ≠ .sched c)
    (hac : a.cpu = some c) (hpc : (s.cpus c).pc = .loop k) (hlk : (s.procs m).lock = some c) :
    t.procs m = s.procs m := by
  obtain ⟨ch, rfl⟩ := (step_of_loop hs hac hpc).resolve_left ha
  obtain ⟨-, -, hf, rfl⟩ := step_wakeup hs
  have hme : (s.cpus c).proc = some m := by
    by_contra e; rw [hf m (h.lockOwned.locks m c hlk).1 (Ne.symm e)] at hlk; cases hlk
  rw [hme, wakeup_procs_me]

theorem step_held_guarded (h : Reachable cfg s) (hs : step cfg s a = some t) (ha : a ≠ .sched c)
    (hpc : (s.cpus c).pc = .loop k) (hlk : (s.procs m).lock = some c) :
    (s.procs m).SameGuarded (t.procs m) := by
  by_cases hac : a.cpu = some c
  · exact .of_eq (step_own_of_held h hs ha hac hpc hlk)
  · exact step_guarded h.lockInv hs (h.lockOwned.locks m c hlk).1 hlk hac

theorem step_startTime_of_used (hs : step cfg s a = some t) (hj : (s.procs j).state ≠ .unused) :
    (t.procs j).startTime = (s.procs j).startTime :=
  (step_stamp hs j).2.resolve_right fun h => hj h.1

theorem CandOk.step (hp : cfg.policy = .fcfs) (h : Reachable cfg s) (hc : CandOk s c)
    (hs : step cfg s a = some t) : CandOk t c := by
  intro k m hk hfs hm
  by_cases ha : a = .sched c
  · subst ha
    rcases schedStep_fcfs hp (step_sched hs).2 with ⟨-, rfl⟩ | ⟨k', hpc, ⟨-, rfl⟩ | ⟨-, -, rfl⟩ | ⟨-, -, m', -, rfl⟩⟩
    · simp at hfs
    · simp only [Kernel.setCpu_cpus, Function.update_same, Kernel.setCpu_procs, lockStep_state,
        lockStep_startTime] at hfs hm ⊢
      rcases fcfsIter_cand k' (s.procs k') (s.cpus c).firstStart (s.cpus c).toBeScheduled with
        ⟨hr, hk', e⟩ | ⟨hk', e⟩ <;> rw [hk'] at hm <;> rw [e] at hfs ⊢
      · cases hm; exact ⟨hr, rfl⟩
      · exact hc k' m hpc hfs hm
    · simp at hk
    · simp [dispatch] at hk
  · have hcpu := ((step_cpuMove hs c).resolve_left ha).loop (by simp [hp]) hk
    rw [hcpu] at hk hfs hm ⊢
    obtain ⟨hr, hst⟩ := hc k m hk hfs hm
    have hlk : (s.procs m).lock = some c :=
      h.lockInv c m (held_of_scanning hk ((scanning_fcfs hp).mpr hfs) hm)
    have hg := step_held_guarded h hs ha hk hlk
    exact ⟨hg.1.trans hr, (step_startTime_of_used hs (by simp [hr])).trans hst⟩

theorem PassedOk.step (hp : cfg.policy = .fcfs) (h : Reachable cfg s) (ht : s.ticks < 2 ^ 32 - 1)
    (hpo : PassedOk s c j) (hj : (s.procs j).state = .runnable) (hs : step cfg s a = some t) :
    PassedOk t c j := by
  intro k hk hjk
  rw [step_startTime_of_used hs (by simp [hj])]
  by_cases ha : a = .sched c
  · subst ha
    rcases schedStep_fcfs hp (step_sched hs).2 with ⟨-, rfl⟩ | ⟨k', hpc, ⟨-, rfl⟩ | ⟨-, -, rfl⟩ | ⟨-, -, m', -, rfl⟩⟩
    · simp at hk; omega
    · simp only [Kernel.setCpu_cpus, Function.update_same, CpuPc.loop.injEq] at hk ⊢
      rcases Nat.lt_or_ge j k' with hjk' | hjk'
      · obtain ⟨h1, h2⟩ := hpo k' hpc hjk'
        exact (fcfsIter_le (h.startTime_ne ht k') h1).imp_right fun h4 => Int.le_trans h4 h2
      · obtain rfl : k' = j := by omega
        exact fcfsIter_le_self (h.startTime_ne ht _) hj
    · simp at hk
    · simp [dispatch] at hk
  · have hcpu := ((step_cpuMove hs c).resolve_left ha).loop (by simp [hp]) hk
    rw [hcpu] at hk ⊢
    exact hpo k hk hjk

end

end OsnScheduling
