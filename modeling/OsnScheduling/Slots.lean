import OsnScheduling.Dispatch

/-!
What one step does to one slot of a well-formed kernel. A step keeps a process's pid, exit
status and times and moves its state along a scheduling edge, or it creates the process
(`allocproc`), starts it (the end of `fork`), ends it (`exit`), frees it (the `wait` of its
parent), or charges it a clock tick. A ZOMBIE changes in its parent, its `killed` flag and
its lock only.
-/

namespace OsnScheduling

def Proc.SameRecord (p q : Proc) : Prop :=
  q.pid = p.pid ∧ q.xstate = p.xstate ∧ q.ctime = p.ctime ∧ q.etime = p.etime ∧ q.rtime = p.rtime

def ProcState.active : ProcState → Bool
  | .runnable | .running | .sleeping => true
  | _ => false

def runEdge : ProcState → ProcState → Bool
  | .runnable, .running | .running, .runnable | .running, .sleeping | .sleeping, .runnable => true
  | _, _ => false

theorem runEdge_active {x y : ProcState} (h : runEdge x y) : x.active ∧ y.active := by
  cases x <;> cases y <;> simp_all [runEdge, ProcState.active]

theorem runEdge_live {x y : ProcState} (h : runEdge x y) :
    x ≠ .unused ∧ x ≠ .zombie ∧ y ≠ .unused ∧ y ≠ .zombie := by
  cases x <;> cases y <;> simp_all [runEdge]

def Proc.ZombieKeeps (p q : Proc) : Prop :=
  q = { p with parent := q.parent, killed := q.killed, lock := q.lock }

inductive SlotStep (s s' : Kernel) : Action → Nat → Prop
  /-- The record is kept and the state moves along a scheduling edge, if at all. -/
  | keep {a : Action} {j : Nat} (hrec : (s.procs j).SameRecord (s'.procs j))
      (hst : (s'.procs j).state = (s.procs j).state ∨ runEdge (s.procs j).state (s'.procs j).state)
      (hz : (s.procs j).state = .zombie → (s.procs j).ZombieKeeps (s'.procs j)) : SlotStep s s' a j
  /-- `fork` takes the UNUSED slot `j`, the only slot it changes, and counts a pid. -/
  | alloc {c : Nat} {page : Option (TrapFrame × Nat)} {ok : Bool} {j : Nat}
      (hu : (s.procs j).state = .unused) (hused : (s'.procs j).state = .used)
      (hpid : (s'.procs j).pid = int32 s.nextpid) (hct : (s'.procs j).ctime = s.ticks)
      (het : (s'.procs j).etime = 0) (hrt : (s'.procs j).rtime = 0)
      (hnext : s'.nextpid = s.nextpid + 1) (hother : ∀ k, k ≠ j → s'.procs k = s.procs k) :
      SlotStep s s' (.fork c page ok) j
  /-- The last step of `fork` makes the USED child `j` RUNNABLE. -/
  | start {c i j : Nat} (hpc : (s.cpus c).pc = .forkRun j) (hproc : (s.cpus c).proc = some i)
      (hu : (s.procs j).state = .used) (hr : (s'.procs j).state = .runnable)
      (hrec : (s.procs j).SameRecord (s'.procs j)) : SlotStep s s' (.forkRun c) j
  /-- The slot is UNUSED before and after. -/
  | unused {a : Action} {j : Nat} (hu : (s.procs j).state = .unused)
      (hu' : (s'.procs j).state = .unused) : SlotStep s s' a j
  /-- The process `j` that CPU `c` runs exits with status `st` at the current tick. -/
  | exit {c : Nat} {st : Int} {j : Nat} (hpc : (s.cpus c).proc = some j)
      (hr : (s.procs j).state = .running) (hz : (s'.procs j).state = .zombie)
      (hpid : (s'.procs j).pid = (s.procs j).pid) (hx : (s'.procs j).xstate = st)
      (hct : (s'.procs j).ctime = (s.procs j).ctime) (het : (s'.procs j).etime = s.ticks)
      (hrt : (s'.procs j).rtime = (s.procs j).rtime) : SlotStep s s' (.exit c st) j
  /-- The `wait` of the process `i` that CPU `c` runs frees its ZOMBIE child `j`. -/
  | free {c addr : Nat} {ok : Bool} {i j : Nat} (hpc : (s.cpus c).proc = some i)
      (hrun : (s.cpus c).pc = .run) (hi : (s.procs i).state = .running) (hz : (s.procs j).state = .zombie)
      (hp : (s.procs j).parent = some i) (hu' : (s'.procs j).state = .unused) :
      SlotStep s s' (.wait c addr ok) j
  /-- The clock charges the RUNNING slot `j` a tick. -/
  | tick {j : Nat} (hr : (s.procs j).state = .running) (hr' : (s'.procs j).state = .running)
      (hrt : (s'.procs j).rtime = (s.procs j).rtime + 1) (hpid : (s'.procs j).pid = (s.procs j).pid)
      (hx : (s'.procs j).xstate = (s.procs j).xstate) (hct : (s'.procs j).ctime = (s.procs j).ctime)
      (het : (s'.procs j).etime = (s.procs j).etime) (hticks : s'.ticks = s.ticks + 1) :
      SlotStep s s' .tick j

variable {cfg : Config} {s s' : Kernel} {a : Action} {j : Nat}

theorem SlotStep.lock (h : s'.procs j = { (s.procs j) with lock := (s'.procs j).lock }) :
    SlotStep s s' a j :=
  .keep (by rw [h]; exact ⟨rfl, rfl, rfl, rfl, rfl⟩) (.inl (by rw [h])) fun _ => by rw [h]; rfl

theorem SlotStep.same (h : s'.procs j = s.procs j) : SlotStep s s' a j :=
  .lock (by rw [h])

theorem SlotStep.live (hrec : (s.procs j).SameRecord (s'.procs j))
    (hst : (s'.procs j).state = (s.procs j).state ∨ runEdge (s.procs j).state (s'.procs j).state)
    (hnz : (s.procs j).state ≠ .zombie) : SlotStep s s' a j :=
  .keep hrec hst fun hz => absurd hz hnz

theorem SlotStep.running {i : Nat} (hi : (s.procs i).state = .running)
    (hne : ∀ k, k ≠ i → s'.procs k = { (s.procs k) with lock := (s'.procs k).lock })
    (hrec : (s.procs i).SameRecord (s'.procs i))
    (hst : (s'.procs i).state = .running ∨ runEdge .running (s'.procs i).state) :
    SlotStep s s' a j := by
  by_cases e : j = i
  · subst e; exact .live hrec (hi ▸ hst) (by simp [hi])
  · exact .lock (hne j e)

theorem SlotStep.setCpu {t : Kernel} {c : Nat} {x : Cpu} (h : SlotStep s t a j) :
    SlotStep s (t.setCpu c x) a j := by
  cases h with
  | keep hrec hst hz => exact .keep hrec hst hz
  | alloc hu hused hpid hct het hrt hnext hother => exact .alloc hu hused hpid hct het hrt hnext hother
  | start hpc hproc hu hr hrec => exact .start hpc hproc hu hr hrec
  | unused hu hu' => exact .unused hu hu'
  | exit hpc hr hz hpid hx hct het hrt => exact .exit hpc hr hz hpid hx hct het hrt
  | free hpc hrun hi hz hp hu' => exact .free hpc hrun hi hz hp hu'
  | tick hr hr' hrt hpid hx hct het hticks => exact .tick hr hr' hrt hpid hx hct het hticks

theorem SlotStep.of_sched {c : Nat} (hw : Wf cfg s) (hc : c < cfg.ncpu)
    (hs : schedStep cfg s c = some s') : SlotStep s s' a j := by
  rcases schedStep_procs hs with hl | hup | ⟨j', hd, rfl⟩ | ⟨j', hpc, hj, hres, -, -⟩
  · exact .lock (hl j)
  · have e : s'.procs j = if UpgradeHit cfg s j then
        { (s.procs j) with timeAdded := s.ticks, priorityNumber := (s.procs j).priorityNumber - 1 }
        else s.procs j := by rw [hup]; rfl
    split_ifs at e with hit
    · exact .live (by rw [e]; exact ⟨rfl, rfl, rfl, rfl, rfl⟩) (.inl (by rw [e]))
        (by simp [hit.2.1])
    · exact .same e
  · have hr := (hw.dispatchFrom_ready hc hd).2
    by_cases e : j = j'
    · subst e
      exact .live (by simp [Proc.SameRecord, dispatch]) (.inr (by simp [dispatch, hr, runEdge]))
        (by simp [hr])
    · exact .same (by simp [dispatch, Function.update_noteq e])
  · exact absurd (hw.pick_resumable hc hpc hj) (by simp [hres])

theorem SlotStep.of_fork {i : Nat} {c : Nat} {page : Option (TrapFrame × Nat)} {ok : Bool} :
    SlotStep s (forkAlloc cfg s i page ok).2 (.fork c page ok) j := by
  rcases forkAlloc_spec cfg s i page ok with ⟨he, -⟩ | ⟨np, -, hu, hne, hnext, hnp⟩
  · exact .same (by rw [he])
  · by_cases e : j = np
    · subst e
      rcases hnp with ⟨q, hq, -, -⟩ | ⟨hused, hpid, -, -, -, -, hrt, het, hct⟩
      · exact .unused hu (by rw [hq]; rfl)
      · exact .alloc hu hused hpid hct het hrt hnext hne
    · exact .same (hne j e)

theorem SlotStep.of_exit {c i : Nat} {st : Int} (hr : Runs cfg s c .run i) :
    SlotStep s (OsnScheduling.exit cfg s c i st) (.exit c st) j := by
  have hsw : (OsnScheduling.exit cfg s c i st).procs j =
      { (exitTable cfg s i st).procs j with lock := ((OsnScheduling.exit cfg s c i st).procs j).lock } :=
    switchOut_procs cfg _ c i j
  by_cases e : j = i
  · subst e
    rw [exitTable_procs_self] at hsw
    exact .exit hr.proc_eq hr.running (by rw [hsw]) (by rw [hsw]) (by rw [hsw]) (by rw [hsw])
      (by rw [hsw]) (by rw [hsw])
  · by_cases hsl : (s.procs j).state = .sleeping
    · rw [exitTable_procs_ne cfg s st e] at hsw
      refine .live (by rw [hsw]; exact ⟨rfl, rfl, rfl, rfl, rfl⟩) ?_ (by simp [hsl])
      rcases exitTable_state_cases cfg s i st e with h1 | ⟨-, h1⟩
      · exact .inl (by rw [hsw]; exact h1)
      · exact .inr (by rw [hsw, hsl]; simp [h1, runEdge])
    · rw [exitTable_procs_of_ne_sleeping cfg s st e hsl] at hsw
      exact .keep (by rw [hsw]; exact ⟨rfl, rfl, rfl, rfl, rfl⟩) (.inl (by rw [hsw])) fun _ => by
        rw [hsw]; rfl

theorem SlotStep.of_kill {pid : Int} {c : Nat} : SlotStep s (kill cfg s pid).2 (.kill c pid) j := by
  have hk := kill_procs cfg s pid j
  rcases kill_state_cases cfg s pid j with hS | ⟨hsl, hS⟩
  · rw [hS] at hk
    exact .keep (by rw [hk]; exact ⟨rfl, rfl, rfl, rfl, rfl⟩) (.inl (by rw [hk])) fun _ => by
      rw [hk]; rfl
  · refine .live (by rw [hk]; exact ⟨rfl, rfl, rfl, rfl, rfl⟩) (.inr ?_) (by simp [hsl])
    simp [hsl, hS, runEdge]

theorem SlotStep.of_step (hw : Wf cfg s) (hs : step cfg s a = some s') (j : Nat) : SlotStep s s' a j := by
  cases a with
  | sched c => exact .of_sched hw (step_sched hs).1 (step_sched hs).2
  | tick =>
    obtain ⟨-, rfl⟩ := step_tick hs
    by_cases hr : j < cfg.nproc ∧ (s.procs j).state = .running
    · have e : (OsnScheduling.tick cfg s).procs j =
        { s.procs j with rtime := (s.procs j).rtime + 1 } := if_pos hr
      exact .tick hr.2 (by rw [e]; exact hr.2) (by rw [e]) (by rw [e]) (by rw [e]) (by rw [e])
        (by rw [e]) rfl
    · exact .same (if_neg hr)
  | wakeup c ch =>
    obtain ⟨-, -, -, rfl⟩ := step_wakeup hs
    by_cases hw' : WakeHit cfg s (s.cpus c).proc (some ch) j
    · exact .live (by simp [Proc.SameRecord, wakeup, hw'])
        (.inr (by simp [wakeup, hw', hw'.2.2.1, runEdge])) (by simp [hw'.2.2.1])
    · exact .same (by simp [wakeup, hw'])
  | fork c page ok =>
    obtain ⟨i, -, -, ⟨np, -, rfl⟩ | ⟨-, rfl⟩⟩ := step_fork hs
    · exact SlotStep.of_fork.setCpu
    · exact .of_fork
  | forkLink c =>
    obtain ⟨i, np, hr, rfl⟩ := step_forkLink hs
    have hused : (s.procs np).state = .used :=
      (hw.cpus c hr.cpu_lt).child_used (by simp [hr.pc_eq, CpuPc.child])
    refine SlotStep.setCpu ?_
    by_cases e : j = np
    · subst e; exact .live (by simp [Proc.SameRecord, forkLink]) (.inl (by simp)) (by simp [hused])
    · exact .same (by simp [forkLink, Function.update_noteq e])
  | forkRun c =>
    obtain ⟨i, np, hr, -, rfl⟩ := step_forkRun hs
    have hused : (s.procs np).state = .used :=
      (hw.cpus c hr.cpu_lt).child_used (by simp [hr.pc_eq, CpuPc.child])
    have hf := forkRun_procs cfg s i np j
    refine SlotStep.setCpu ?_
    by_cases e : j = np
    · subst e
      exact .start hr.pc_eq hr.proc_eq hused (by simp [forkRun_state])
        (by rw [hf]; exact ⟨rfl, rfl, rfl, rfl, rfl⟩)
    · refine .keep (by rw [hf]; exact ⟨rfl, rfl, rfl, rfl, rfl⟩) (.inl (by simp [forkRun_state, e]))
        fun hz => ?_
      have hi : j ≠ i := by rintro rfl; simp [hr.running] at hz
      rw [forkRun_procs_of_ne cfg s hi e]; rfl
  | exit c st =>
    obtain ⟨i, hr, -, -, rfl⟩ := step_exit hs
    exact .of_exit hr
  | wait c addr ok =>
    obtain ⟨i, hr, -, ⟨-, rfl⟩ | ⟨hn, -, rfl⟩⟩ := step_wait hs
    · rcases waitScan_procs_cases cfg s i addr ok j with h1 | ⟨hp, hz, h1⟩
      · exact .same h1
      · exact .free hr.proc_eq hr.pc_eq hr.running hz hp (by rw [h1]; rfl)
    · rw [(waitScan_none hn).1]
      exact .lock (sleepLock_procs _ _ _ _ _)
  | sleep c ch =>
    obtain ⟨i, -, -, -, rfl⟩ := step_sleep hs
    exact .lock (sleepLock_procs _ _ _ _ _)
  | park c =>
    obtain ⟨i, ch, hr, rfl⟩ := step_park hs
    refine .running hr.running (fun k e => ?_) ?_ ?_
    · rw [park, switchOut_procs]; simp [Function.update_noteq e]
    · rw [park, switchOut_procs]; simp [Proc.SameRecord]
    · rw [park, switchOut_procs]; simp [runEdge]
  | yield c =>
    obtain ⟨i, hr, -, rfl⟩ := step_yield hs
    refine .running hr.running (fun k e => ?_) ?_ ?_
    · rw [yield, switchOut_procs]; simp [Function.update_noteq e]
    · rw [yield, switchOut_procs]; simp [Proc.SameRecord]
    · rw [yield, switchOut_procs]; simp [runEdge]
  | kill c pid =>
    obtain ⟨i, -, -, rfl⟩ := step_kill hs
    exact .of_kill
  | setPriority c prio pid =>
    obtain ⟨i, -, -, rfl⟩ := step_setPriority hs
    by_cases hst : (s.procs j).state ≠ .runnable ∧ (s.procs j).state ≠ .sleeping
    · exact .same (setPriorityI_procs_of_not_ready hst)
    · refine .live (by rw [setPriorityI_procs]; exact ⟨rfl, rfl, rfl, rfl, rfl⟩) (.inl (by simp)) ?_
      intro hz; simp [hz] at hst
  | growproc | fileOpen | fileClose | trapLevel =>
    obtain ⟨i, ho⟩ := step_own hs rfl
    exact .running ho.runs.running (fun k e => by rw [ho.other k e]) (by rw [ho.procs i]; exact ⟨rfl, rfl, rfl, rfl, rfl⟩)
      (.inl (by rw [ho.procs i]; exact ho.runs.running))

theorem step_counters (hs : step cfg s a = some s') :
    s.ticks ≤ s'.ticks ∧ s'.ticks ≤ s.ticks + 1 ∧ s.nextpid ≤ s'.nextpid ∧ s'.initproc = s.initproc := by
  cases a with
  | sched c =>
    have := schedStep_globals (step_sched hs).2; exact ⟨by omega, by omega, by omega, this.2.2.1⟩
  | tick => obtain ⟨-, rfl⟩ := step_tick hs; simp [OsnScheduling.tick, updateTime]
  | wakeup c ch => obtain ⟨-, -, -, rfl⟩ := step_wakeup hs; simp
  | fork c page ok =>
    obtain ⟨i, -, -, ⟨np, -, rfl⟩ | ⟨-, rfl⟩⟩ := step_fork hs <;>
    rcases forkAlloc_spec cfg s i page ok with ⟨-, h⟩ | ⟨np, -, -, -, h, -⟩ <;> simp [h]
  | forkLink c => obtain ⟨i, np, -, rfl⟩ := step_forkLink hs; simp [forkLink]
  | forkRun c => obtain ⟨i, np, -, -, rfl⟩ := step_forkRun hs; simp only [forkRun]; split_ifs <;> simp
  | exit c st => obtain ⟨i, -, -, -, rfl⟩ := step_exit hs; simp [OsnScheduling.exit, switchOut]
  | wait c addr ok =>
    obtain ⟨i, -, -, ⟨-, rfl⟩ | ⟨-, -, rfl⟩⟩ := step_wait hs <;>
    simp only [waitScan, OsnScheduling.sleepLock] <;> split <;> split_ifs <;> simp
  | sleep c ch => obtain ⟨i, -, -, -, rfl⟩ := step_sleep hs; simp [OsnScheduling.sleepLock]
  | park c => obtain ⟨i, ch, -, rfl⟩ := step_park hs; simp [park, switchOut]
  | yield c => obtain ⟨i, -, -, rfl⟩ := step_yield hs; simp [yield, switchOut]
  | kill c pid => obtain ⟨i, -, -, rfl⟩ := step_kill hs; simp
  | setPriority c prio pid => obtain ⟨i, -, -, rfl⟩ := step_setPriority hs; simp
  | growproc | fileOpen | fileClose | trapLevel =>
    obtain ⟨i, ho⟩ := step_own hs rfl
    rw [ho.ticks, ho.nextpid, ho.initproc]; exact ⟨le_rfl, by omega, le_rfl, rfl⟩

theorem Reachable.startTime_stamped (h : Reachable cfg s) (j : Nat) :
    ∃ t ≤ s.ticks, (s.procs j).startTime = int32 t := by
  induction h with
  | boot tf pt root =>
    refine ⟨0, Nat.zero_le _, ?_⟩
    by_cases e : j = 0
    · subst e
      simp only [OsnScheduling.boot, userinit, allocproc, firstSlot_zero, allocpid]
      simp [Kernel.zero, Proc.zero, int32]
    · rw [boot_procs_ne cfg tf pt root e]; decide
  | step a _ hs ih =>
    obtain ⟨t, ht, e⟩ := ih
    have hle := (step_counters hs).1
    rcases (step_stamp hs j).2 with e' | ⟨-, e'⟩
    · exact ⟨t, Nat.le_trans ht hle, e'.trans e⟩
    · exact ⟨_, hle, e'⟩

theorem Reachable.startTime_ne (h : Reachable cfg s) (ht : s.ticks < 2 ^ 32 - 1) (j : Nat) :
    (s.procs j).startTime ≠ -1 := by
  obtain ⟨t, hle, e⟩ := h.startTime_stamped j
  rw [e, Ne, int32_eq_neg_one]
  omega

def lifecycleEdge : ProcState → ProcState → Bool
  | .unused, .used | .used, .unused | .used, .runnable | .runnable, .running | .running, .runnable
  | .running, .sleeping | .sleeping, .runnable | .running, .zombie | .zombie, .unused => true
  | _, _ => false

theorem lifecycleEdge_of_runEdge {x y : ProcState} (h : runEdge x y) : lifecycleEdge x y := by
  cases x <;> cases y <;> simp_all [runEdge, lifecycleEdge]

/-- A step `a` from `s` to `s'` moves slot `j` along its life cycle: a ZOMBIE is freed only by
the `wait` of its parent, the process running on that CPU, and until then keeps everything
but its parent, its `killed` flag and its lock. -/
structure LifecycleStep (s : Kernel) (a : Action) (s' : Kernel) (j : Nat) : Prop where
  edge : (s'.procs j).state = (s.procs j).state ∨ lifecycleEdge (s.procs j).state (s'.procs j).state
  freed_by_parent : (s.procs j).state = .zombie → (s'.procs j).state = .unused →
    ∃ c addr ok i, a = .wait c addr ok ∧ (s.cpus c).proc = some i ∧ (s.cpus c).pc = .run ∧
      (s.procs i).state = .running ∧ (s.procs j).parent = some i
  zombie_keeps : (s.procs j).state = .zombie → (s'.procs j).state = .zombie →
    (s.procs j).ZombieKeeps (s'.procs j)

theorem SlotStep.lifecycleStep (h : SlotStep s s' a j) : LifecycleStep s a s' j := by
  cases h with
  | keep _ hst hz =>
    refine ⟨hst.imp_right lifecycleEdge_of_runEdge, fun h0 h1 => ?_, fun h0 _ => hz h0⟩
    rcases hst with h2 | h2 <;> simp [h0, h1, runEdge] at h2
  | alloc hu hused =>
    exact ⟨.inr (by simp [hu, hused, lifecycleEdge]), by simp [hu], by simp [hu]⟩
  | start _ _ hu hr => exact ⟨.inr (by simp [hu, hr, lifecycleEdge]), by simp [hu], by simp [hu]⟩
  | unused hu hu' => exact ⟨.inl (hu'.trans hu.symm), by simp [hu], by simp [hu]⟩
  | exit _ hr hz => exact ⟨.inr (by simp [hr, hz, lifecycleEdge]), by simp [hr], by simp [hr]⟩
  | free hpc hrun hi hz hp hu' =>
    exact ⟨.inr (by simp [hz, hu', lifecycleEdge]), fun _ _ => ⟨_, _, _, _, rfl, hpc, hrun, hi, hp⟩,
      by simp [hu']⟩
  | tick hr hr' => exact ⟨.inl (hr'.trans hr.symm), by simp [hr], by simp [hr]⟩

theorem slot_lifecycle (hu : MlfqUniprocessor cfg) (h : Reachable cfg s)
    (hs : step cfg s a = some s') (j : Nat) : LifecycleStep s a s' j :=
  (SlotStep.of_step (h.wf hu) hs j).lifecycleStep

theorem slot_lifecycle_family :
    ∃ s', step sampleDefault sampleFamily (.sched 0) = some s' ∧ (s'.procs 2).state = .running ∧
      LifecycleStep sampleFamily (.sched 0) s' 2 := by
  have h : (step sampleDefault sampleFamily (.sched 0)).map
      (fun t : Kernel => decide ((t.procs 2).state = .running)) = some true := by decide
  obtain ⟨s', hs, hr⟩ := Option.map_eq_some'.1 h
  exact ⟨s', hs, of_decide_eq_true hr, slot_lifecycle (by decide) sampleFamily_reachable hs 2⟩

def mlfqStale : Kernel :=
  (run sampleMlfq2 (boot sampleMlfq2 sampleFrame 0 1) mlfqStalePick).getD
    (boot sampleMlfq2 sampleFrame 0 1)

theorem mlfq_two_cpus_unused_runs :
    ∃ s, Reachable sampleMlfq2 s ∧ ∃ s', step sampleMlfq2 s (.sched 1) = some s' ∧
      (s.procs 1).state = .unused ∧ (s'.procs 1).state = .running ∧
      ¬ LifecycleStep s (.sched 1) s' 1 :=
  have hs := (Option.some_get (by decide : (step sampleMlfq2 mlfqStale (.sched 1)).isSome)).symm
  ⟨_, (Reachable.boot sampleFrame 0 1).run_getD mlfqStalePick (by decide), _, hs, by decide,
    by decide, fun hl => absurd hl.edge (by decide)⟩

end OsnScheduling
