import OsnScheduling.Slots

/-!
The process tree. `fork` links the child to its parent before the child can run, `exit`
hands the children of the exiting process to `initproc` (`reparent`) before it becomes a
ZOMBIE, and `wait` frees ZOMBIE children only. So the parent links of the processes that
have started form a tree rooted at `initproc`, whose inner nodes are RUNNABLE, RUNNING or
SLEEPING.
-/

namespace OsnScheduling

def Proc.Started (p : Proc) : Prop :=
  p.state.active ∨ p.state = .zombie

inductive Reaches (cfg : Config) (s : Kernel) : Nat → Prop
  | root {j : Nat} : s.initproc = some j → Reaches cfg s j
  | parent {j p : Nat} : (s.procs j).parent = some p → p < cfg.nproc → (s.procs p).state.active →
      Reaches cfg s p → Reaches cfg s j

structure TreeInv (cfg : Config) (s : Kernel) : Prop where
  root : ∃ r, s.initproc = some r ∧ r < cfg.nproc ∧ (s.procs r).state.active ∧
    (s.procs r).parent = none
  reaches : ∀ j < cfg.nproc, (s.procs j).Started → Reaches cfg s j

variable {cfg : Config} {s s' : Kernel} {a : Action} {j : Nat}

theorem Reaches.mono (hinit : s'.initproc = s.initproc)
    (hlink : ∀ k p, k < cfg.nproc → ((s.procs k).state.active ∨ (s'.procs k).Started) →
      (s.procs k).parent = some p → p < cfg.nproc → (s.procs p).state.active →
      Reaches cfg s' p → Reaches cfg s' k)
    (h : Reaches cfg s j) (hj : j < cfg.nproc)
    (hs : (s.procs j).state.active ∨ (s'.procs j).Started) : Reaches cfg s' j := by
  induction h with
  | root hr => exact .root (by rw [hinit]; exact hr)
  | parent hp hlt ha _ ih => exact hlink _ _ hj hs hp hlt ha (ih hlt (.inl ha))

theorem parent_step_cases (hs : step cfg s a = some s') (j : Nat) :
    (s'.procs j).parent = (s.procs j).parent ∨
      (∃ c i, a = .forkLink c ∧ Runs cfg s c (.forkLink j) i ∧
        (s'.procs j).state = (s.procs j).state ∧ (s'.procs j).parent = some i) ∨
      ((s.procs j).state = .unused ∨ (s.procs j).state = .zombie) ∧
        (s'.procs j).state = .unused ∧ (s'.procs j).parent = none ∨
      ∃ c st i, a = .exit c st ∧ (s.cpus c).proc = some i ∧ (s.procs j).parent = some i ∧
        (s'.procs j).parent = s.initproc := by
  cases a with
  | sched c =>
    refine .inl ?_
    rcases schedStep_procs (step_sched hs).2 with hl | hup | ⟨j', -, rfl⟩ | ⟨j', -, -, -, -, rfl⟩
    · rw [hl j]
    · simp [hup]
    all_goals by_cases e : j = j' <;> simp [dispatch, halt, Function.update_apply, e]
  | tick => obtain ⟨-, rfl⟩ := step_tick hs; exact .inl (by simp [OsnScheduling.tick])
  | wakeup c ch => obtain ⟨-, -, -, rfl⟩ := step_wakeup hs; exact .inl (by simp)
  | fork c page ok =>
    obtain ⟨i, -, -, hres⟩ := step_fork hs
    have key : ((forkAlloc cfg s i page ok).2.procs j).parent = (s.procs j).parent ∨
        (s.procs j).state = .unused ∧ ((forkAlloc cfg s i page ok).2.procs j).state = .unused ∧
          ((forkAlloc cfg s i page ok).2.procs j).parent = none := by
      rcases forkAlloc_spec cfg s i page ok with ⟨he, -⟩ | ⟨np, -, hu, hne, -, hnp⟩
      · exact .inl (by rw [he])
      · by_cases e : j = np
        · subst e
          rcases hnp with ⟨q, hq, -, -⟩ | ⟨-, -, hp, -⟩
          · exact .inr ⟨hu, by rw [hq]; rfl, by rw [hq]; rfl⟩
          · exact .inl hp
        · exact .inl (by rw [hne j e])
    have hp : s'.procs = (forkAlloc cfg s i page ok).2.procs := by
      rcases hres with ⟨np, -, rfl⟩ | ⟨-, rfl⟩ <;> rfl
    rw [hp]
    rcases key with e | ⟨h1, h2, h3⟩
    · exact .inl e
    · exact .inr (.inr (.inl ⟨.inl h1, h2, h3⟩))
  | forkLink c =>
    obtain ⟨i, np, hr, rfl⟩ := step_forkLink hs
    by_cases e : j = np
    · subst e; exact .inr (.inl ⟨c, i, rfl, hr, by simp, by simp [forkLink_parent]⟩)
    · exact .inl (by simp [forkLink_parent, e])
  | forkRun c => obtain ⟨i, np, -, -, rfl⟩ := step_forkRun hs; exact .inl (by simp)
  | exit c st =>
    obtain ⟨i, hr, -, -, rfl⟩ := step_exit hs
    simp only [OsnScheduling.exit, switchOut_parent, exitTable_parent]
    split_ifs with h
    · exact .inr (.inr (.inr ⟨c, st, i, rfl, hr.proc_eq, h.2, rfl⟩))
    · exact .inl rfl
  | wait c addr ok =>
    obtain ⟨i, -, -, ⟨-, rfl⟩ | ⟨hn, -, rfl⟩⟩ := step_wait hs
    · rcases waitScan_procs_cases cfg s i addr ok j with h1 | ⟨-, hz, h1⟩
      · exact .inl (by rw [h1])
      · exact .inr (.inr (.inl ⟨.inr hz, by rw [h1]; rfl, by rw [h1]; rfl⟩))
    · exact .inl (by simp [(waitScan_none hn).1])
  | sleep c ch => obtain ⟨i, -, -, -, rfl⟩ := step_sleep hs; exact .inl (by simp)
  | park c =>
    obtain ⟨i, ch, -, rfl⟩ := step_park hs
    refine .inl ?_
    by_cases e : j = i <;> simp [park, Function.update_apply, e]
  | yield c =>
    obtain ⟨i, -, -, rfl⟩ := step_yield hs
    refine .inl ?_
    by_cases e : j = i <;> simp [yield, Function.update_apply, e]
  | kill c pid => obtain ⟨i, -, -, rfl⟩ := step_kill hs; exact .inl (by simp)
  | setPriority c prio pid => obtain ⟨i, -, -, rfl⟩ := step_setPriority hs; exact .inl (by simp)
  | growproc | fileOpen | fileClose | trapLevel =>
    obtain ⟨i, ho⟩ := step_own hs rfl
    exact .inl (by rw [ho.procs j])

theorem parent_step (hw : Wf cfg s) (hs : step cfg s a = some s') (j : Nat) :
    (s'.procs j).parent = (s.procs j).parent ∨
      (s.procs j).state = .used ∧ (s'.procs j).state = .used ∨
      (s.procs j).state = .zombie ∧ (s'.procs j).state = .unused ∨
      ∃ c st i, a = .exit c st ∧ (s.cpus c).proc = some i ∧ (s.procs j).parent = some i ∧
        (s'.procs j).parent = s.initproc := by
  rcases parent_step_cases hs j with e | ⟨c, i, -, hr, hst, -⟩ | ⟨hu | hz, hu', hp⟩ | hx
  · exact .inl e
  · have hused : (s.procs j).state = .used :=
      (hw.cpus c hr.cpu_lt).child_used (by simp [hr.pc_eq, CpuPc.child])
    exact .inr (.inl ⟨hused, by rw [hst, hused]⟩)
  · exact .inl (by rw [hp, hw.free j hu])
  · exact .inr (.inr (.inl ⟨hz, hu'⟩))
  · exact .inr (.inr (.inr hx))

theorem SlotStep.active (h : SlotStep s s' a j) (hj : (s.procs j).state.active) :
    (s'.procs j).state.active ∨ ∃ c st, a = .exit c st ∧ (s.cpus c).proc = some j := by
  cases h with
  | keep _ hst =>
    rcases hst with e | e
    · exact .inl (by rw [e]; exact hj)
    · exact .inl (runEdge_active e).2
  | alloc hu => simp [hu, ProcState.active] at hj
  | start _ _ hu => simp [hu, ProcState.active] at hj
  | unused hu => simp [hu, ProcState.active] at hj
  | exit hpc => exact .inr ⟨_, _, rfl, hpc⟩
  | free _ _ _ hz => simp [hz, ProcState.active] at hj
  | tick _ hr' => exact .inl (by simp [hr', ProcState.active])

theorem SlotStep.started (h : SlotStep s s' a j) (hj : (s'.procs j).Started) :
    (s.procs j).Started ∨ ∃ c i, a = .forkRun c ∧ (s.cpus c).pc = .forkRun j ∧
      (s.cpus c).proc = some i := by
  cases h with
  | keep _ hst =>
    rcases hst with e | e
    · exact .inl (by simpa only [Proc.Started, e] using hj)
    · exact .inl (.inl (runEdge_active e).1)
  | alloc _ hused => simp [Proc.Started, hused, ProcState.active] at hj
  | start hpc hproc => exact .inr ⟨_, _, rfl, hpc, hproc⟩
  | unused _ hu' => simp [Proc.Started, hu', ProcState.active] at hj
  | exit _ hr => exact .inl (.inl (by simp [hr, ProcState.active]))
  | free _ _ _ _ _ hu' => simp [Proc.Started, hu', ProcState.active] at hj
  | tick hr => exact .inl (.inl (by simp [hr, ProcState.active]))

theorem TreeInv.step (hw : Wf cfg s) (hi : TreeInv cfg s) (hs : step cfg s a = some s') :
    TreeInv cfg s' := by
  obtain ⟨r, hr, hrl, hra, hrp⟩ := hi.root
  have hinit := (step_counters hs).2.2.2
  -- `exit` refuses `initproc`, and hands the children of the exiting process to it
  have hexit : ∀ c st k, a = .exit c st → (s.cpus c).proc = some k →
      s' = OsnScheduling.exit cfg s c k st ∧ s.initproc ≠ some k := by
    rintro c st k rfl hk
    obtain ⟨i, hri, hne, -, rfl⟩ := step_exit hs
    obtain rfl : i = k := Option.some.inj (hri.proc_eq.symm.trans hk)
    exact ⟨rfl, hne⟩
  have hroot : (s'.procs r).state.active :=
    ((SlotStep.of_step hw hs r).active hra).resolve_right fun ⟨c, st, ha, hk⟩ =>
      (hexit c st r ha hk).2 hr
  have hlink : ∀ k p, k < cfg.nproc → ((s.procs k).state.active ∨ (s'.procs k).Started) →
      (s.procs k).parent = some p → p < cfg.nproc → (s.procs p).state.active →
      Reaches cfg s' p → Reaches cfg s' k := by
    intro k p hk hks hp hpl hpa hpr
    rcases parent_step hw hs k with e | ⟨hu, hu'⟩ | ⟨hz, hu'⟩ | ⟨c, st, i, -, -, -, e⟩
    · rcases (SlotStep.of_step hw hs p).active hpa with hpa' | ⟨c, st, ha, hpc⟩
      · exact .parent (e.trans hp) hpl hpa' hpr
      · obtain ⟨rfl, hne⟩ := hexit c st p ha hpc
        simp only [OsnScheduling.exit, switchOut_parent, exitTable_parent, hk, hp, and_self,
          if_true] at e
        exact (hne e).elim
    · simp [Proc.Started, hu, hu', ProcState.active] at hks
    · simp [Proc.Started, hz, hu', ProcState.active] at hks
    · exact .parent (e.trans hr) hrl hroot (.root (hinit.trans hr))
  refine ⟨⟨r, hinit.trans hr, hrl, hroot, ?_⟩, fun j hj hjs => ?_⟩
  · rcases parent_step hw hs r with e | ⟨hu, -⟩ | ⟨hz, -⟩ | ⟨c, st, i, -, -, hp, -⟩
    · rw [e, hrp]
    · simp [hu, ProcState.active] at hra
    · simp [hz, ProcState.active] at hra
    · rw [hrp] at hp; cases hp
  rcases (SlotStep.of_step hw hs j).started hjs with hjs0 | ⟨c, i, rfl, hpc, hproc⟩
  · exact (hi.reaches j hj hjs0).mono hinit hlink hj (.inr hjs)
  · -- the fork child starts, linked to the forking process
    obtain ⟨i', np, hri, -, -⟩ := step_forkRun hs
    have hok := (hw.cpus c hri.cpu_lt).2
    simp only [hpc] at hok
    obtain ⟨⟨i'', hi'', hil, hir⟩, -, hused, hpar⟩ := hok
    rw [hproc] at hi'' hpar
    obtain rfl := Option.some.inj hi''
    have hia : (s.procs i).state.active := by simp [hir, ProcState.active]
    have e : (s'.procs j).parent = some i := by
      rcases parent_step hw hs j with e | ⟨-, hu'⟩ | ⟨hz, -⟩ | ⟨c', st, -, ha, -⟩
      · rw [e, hpar]
      · simp [Proc.Started, hu', ProcState.active] at hjs
      · rw [hused] at hz; cases hz
      · cases ha
    have hia' := ((SlotStep.of_step hw hs i).active hia).resolve_right fun ⟨_, _, ha, _⟩ => by cases ha
    exact .parent e hil hia' ((hi.reaches i hil (.inl hia)).mono hinit hlink hil (.inl hia))

theorem TreeInv.boot (tf : TrapFrame) (pt root : Nat) :
    TreeInv cfg (OsnScheduling.boot cfg tf pt root) := by
  have hp : ((OsnScheduling.boot cfg tf pt root).procs 0).parent = none := by
    simp only [OsnScheduling.boot, userinit, allocproc, firstSlot_zero, allocpid]
    simp [Kernel.zero, Proc.zero]
  refine ⟨⟨0, by simp, cfg.nproc_pos, by simp [ProcState.active], hp⟩, fun j _ hj => ?_⟩
  by_cases e : j = 0
  · subst e; exact .root (by simp)
  · rw [boot_procs_ne cfg tf pt root e] at hj
    simp [Proc.Started, Proc.zero, ProcState.active] at hj

theorem Reachable.treeInv (hu : MlfqUniprocessor cfg) (h : Reachable cfg s) : TreeInv cfg s := by
  induction h with
  | boot tf pt root => exact .boot tf pt root
  | step a hr hs ih => exact ih.step (hr.wf hu) hs

theorem process_tree (hu : MlfqUniprocessor cfg) (h : Reachable cfg s) :
    (∃ r, s.initproc = some r ∧ (s.procs r).parent = none) ∧
      ∀ j < cfg.nproc, (s.procs j).Started → s.initproc ≠ some j →
        ∃ p, (s.procs j).parent = some p ∧ p < cfg.nproc ∧ (s.procs p).state.active ∧
          Reaches cfg s p := by
  have hi := h.treeInv hu
  obtain ⟨r, hr, -, -, hrp⟩ := hi.root
  refine ⟨⟨r, hr, hrp⟩, fun j hj hjs hne => ?_⟩
  cases hi.reaches j hj hjs with
  | root hr' => exact absurd hr' hne
  | parent hp hlt ha hreach => exact ⟨_, hp, hlt, ha, hreach⟩

theorem process_tree_family :
    (sampleFamily.procs 1).state = .zombie ∧ ∃ p, (sampleFamily.procs 1).parent = some p ∧
      p < sampleDefault.nproc ∧ (sampleFamily.procs p).state.active ∧ Reaches sampleDefault sampleFamily p :=
  ⟨by decide, (process_tree (by decide) sampleFamily_reachable).2 1 (by decide) (.inr (by decide))
    (by decide)⟩

theorem mlfq_two_cpus_orphan_runs :
    ∃ s, Reachable sampleMlfq2 s ∧ (s.procs 1).state = .running ∧ s.initproc ≠ some 1 ∧
      (s.procs 1).parent = none :=
  ⟨_, (Reachable.boot sampleFrame 0 1).run_getD (mlfqStalePick ++ [.sched 1]) (by decide),
    by decide, by decide, by decide⟩

end OsnScheduling
