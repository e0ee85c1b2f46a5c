import OsnScheduling.Service

/-!
Bounded bypass for the DEFAULT round robin. Each CPU's `for` loop walks the table in order
and takes every RUNNABLE slot it reaches, so it cannot pass a RUNNABLE slot `j`: while `j`
stays RUNNABLE, a CPU switches to at most the `NPROC - 1` other slots, whatever the other
CPUs, the clock and the processes do in between. The measure is `gap`, the number of slots
the loop still looks at before `j`. A step of another CPU leaves it, a step of the process a
CPU runs leaves it (the loop resumes after that process), and a dispatch lowers it by one.
Counting the CPU's own scheduler steps instead, with `lap` in place of `gap`, gives progress:
each of them brings the loop one slot closer to `j`, so it takes at most `NPROC + 1` of them
while `j` waits.
-/

namespace OsnScheduling

def Cpu.scanPos (x : Cpu) : Nat :=
  match x.pc, x.proc with
  | .loop k, _ => k
  | .run, some i | .sleep _, some i | .forkLink _, some i | .forkRun _, some i | .halted, some i =>
    i + 1
  | _, _ => 0

def gap (n j k : Nat) : Nat := if k ≤ j then j - k else n - k + j

def switchIn (c : Nat) (s t : Kernel) : Nat :=
  if (s.cpus c).pc.executing = false ∧ (t.cpus c).pc.executing = true then 1 else 0

def dispatches (cfg : Config) (c : Nat) : Kernel → List Action → Nat
  | _, [] => 0
  | s, a :: as => ((step cfg s a).map fun t => switchIn c s t + dispatches cfg c t as).getD 0

def Action.schedBy (c : Nat) : Action → Nat
  | .sched c' => if c' = c then 1 else 0
  | _ => 0

def schedSteps (cfg : Config) (c : Nat) : Kernel → List Action → Nat
  | _, [] => 0
  | s, a :: as => ((step cfg s a).map fun t => a.schedBy c + schedSteps cfg c t as).getD 0

def lap (n j k : Nat) : Nat := if k ≤ j then j - k else n - k + 2 + j

def Cpu.lapLeft (n j : Nat) (x : Cpu) : Nat :=
  if x.pc = .top then j + 1 else lap n j x.scanPos

theorem gap_le {n j : Nat} (hj : j < n) (k : Nat) : gap n j k ≤ n - 1 := by
  unfold gap; split_ifs <;> omega

theorem gap_succ {n j k : Nat} (hkj : k ≠ j) (hk : k < n) : gap n j (k + 1) + 1 ≤ gap n j k := by
  unfold gap; split_ifs <;> omega

theorem gap_wrap {n j k : Nat} (hk : n ≤ k) (hj : j < n) : gap n j 0 ≤ gap n j k := by
  unfold gap; split_ifs <;> omega

theorem dispatches_cons {cfg : Config} {s t : Kernel} {a : Action} {c : Nat} {as : List Action}
    (hs : step cfg s a = some t) : dispatches cfg c s (a :: as) = switchIn c s t + dispatches cfg c t as := by
  simp [dispatches, hs]

theorem dispatches_append {cfg : Config} {s t : Kernel} {c : Nat} {as bs : List Action}
    (h : run cfg s as = some t) : dispatches cfg c s (as ++ bs) = dispatches cfg c s as + dispatches cfg c t bs := by
  induction as generalizing s with
  | nil => cases h; simp [dispatches]
  | cons a as ih =>
    obtain ⟨u, hs, hr⟩ := Option.bind_eq_some.mp h
    rw [List.cons_append, dispatches_cons hs, dispatches_cons hs, ih hr, Nat.add_assoc]

theorem Cpu.lapLeft_le {n j : Nat} (hj : j < n) (x : Cpu) : x.lapLeft n j ≤ n + 1 := by
  unfold Cpu.lapLeft lap; split_ifs <;> omega

theorem lap_succ {n j k : Nat} (hkj : k ≠ j) (hk : k < n) : lap n j (k + 1) + 1 ≤ lap n j k := by
  unfold lap; split_ifs <;> omega

theorem lap_wrap {n j k : Nat} (hk : n ≤ k) (hj : j < n) : j + 2 ≤ lap n j k := by
  unfold lap; split_ifs <;> omega

theorem Action.schedBy_of_ne {a : Action} {c : Nat} (h : a ≠ .sched c) : a.schedBy c = 0 := by
  cases a <;> simp_all [Action.schedBy]

theorem schedSteps_cons {cfg : Config} {s t : Kernel} {a : Action} {c : Nat} {as : List Action}
    (hs : step cfg s a = some t) : schedSteps cfg c s (a :: as) = a.schedBy c + schedSteps cfg c t as := by
  simp [schedSteps, hs]

theorem Cpu.scanPos_of_executing {x : Cpu} {i : Nat} (he : x.pc.executing) (hp : x.proc = some i) :
    x.scanPos = i + 1 := by
  unfold Cpu.scanPos; rw [hp]; cases h : x.pc <;> simp_all [CpuPc.executing]

section
variable {cfg : Config} {s t : Kernel} {a : Action} {c j : Nat}

structure ScanKept (c : Nat) (s t : Kernel) : Prop where
  pos : (t.cpus c).scanPos = (s.cpus c).scanPos
  top : (t.cpus c).pc = .top ↔ (s.cpus c).pc = .top
  noSwitch : switchIn c s t = 0

theorem ScanKept.of_cpus (h : t.cpus c = s.cpus c) : ScanKept c s t :=
  ⟨by rw [h], by rw [h], by simp [switchIn, h]⟩

theorem ScanKept.lapLeft (h : ScanKept c s t) (n j : Nat) : (t.cpus c).lapLeft n j = (s.cpus c).lapLeft n j := by
  simp only [Cpu.lapLeft, h.pos, h.top]

def CpuMove (cfg : Config) (s t : Kernel) (c : Nat) : Prop :=
  t.cpus c = s.cpus c ∨ ∃ i pc, Runs cfg s c pc i ∧ pc.executing ∧
    ((t.cpus c).proc = some i ∧ (t.cpus c).pc.executing ∨ t.cpus c = (s.cpus c).resume cfg.policy i)

theorem CpuPc.ne_top_of_executing {pc : CpuPc} (h : pc.executing) : pc ≠ .top := by
  rintro rfl; simp [CpuPc.executing] at h

theorem Runs.cpuMove {c0 i : Nat} {pc : CpuPc} (hr : Runs cfg s c0 pc i) (he : pc.executing)
    (hc0 : (t.cpus c0).proc = some i ∧ (t.cpus c0).pc.executing ∨ t.cpus c0 = (s.cpus c0).resume cfg.policy i)
    (hne : ∀ c, c ≠ c0 → t.cpus c = s.cpus c) (c : Nat) : CpuMove cfg s t c := by
  by_cases e : c = c0
  · subst e; exact .inr ⟨i, pc, hr, he, hc0⟩
  · exact .inl (hne c e)

theorem step_cpuMove (hs : step cfg s a = some t) (c : Nat) : a = .sched c ∨ CpuMove cfg s t c := by
  cases a with
  | sched c' =>
    by_cases e : c = c'
    · exact .inl (e ▸ rfl)
    · exact .inr (.inl (schedStep_cpus_ne (step_sched hs).2 e))
  | tick => obtain ⟨-, rfl⟩ := step_tick hs; exact .inr (.inl (by simp [tick]))
  | wakeup c' ch => obtain ⟨-, -, -, rfl⟩ := step_wakeup hs; exact .inr (.inl rfl)
  | fork c' page ok =>
    obtain ⟨i, hr, -, ⟨np, -, rfl⟩ | ⟨-, rfl⟩⟩ := step_fork hs
    · exact .inr (hr.cpuMove rfl (.inl (by simp [hr.proc_eq, CpuPc.executing]))
        (fun c e => by simp [Function.update_noteq e]) c)
    · exact .inr (.inl (by simp))
  | forkLink c' =>
    obtain ⟨i, np, hr, rfl⟩ := step_forkLink hs
    exact .inr (hr.cpuMove rfl (.inl (by simp [hr.proc_eq, CpuPc.executing]))
      (fun c e => by simp [Function.update_noteq e]) c)
  | forkRun c' =>
    obtain ⟨i, np, hr, -, rfl⟩ := step_forkRun hs
    exact .inr (hr.cpuMove rfl (.inl (by simp [hr.proc_eq, CpuPc.executing]))
      (fun c e => by simp [Function.update_noteq e]) c)
  | exit c' st =>
    obtain ⟨i, hr, -, -, rfl⟩ := step_exit hs
    exact .inr (hr.cpuMove rfl (.inr (by simp [OsnScheduling.exit]))
      (fun c e => by simp [OsnScheduling.exit, switchOut_cpus_ne _ _ _ e]) c)
  | wait c' addr ok =>
    obtain ⟨i, hr, -, ⟨-, rfl⟩ | ⟨-, -, rfl⟩⟩ := step_wait hs
    · exact .inr (.inl (by simp))
    · exact .inr (hr.cpuMove rfl (.inl (by simp [hr.proc_eq, CpuPc.executing]))
        (fun c e => by simp [sleepLock_cpus_ne _ _ _ e]) c)
  | sleep c' ch =>
    obtain ⟨i, hr, -, -, rfl⟩ := step_sleep hs
    exact .inr (hr.cpuMove rfl (.inl (by simp [hr.proc_eq, CpuPc.executing]))
      (fun c e => sleepLock_cpus_ne _ _ _ e) c)
  | park c' =>
    obtain ⟨i, ch, hr, rfl⟩ := step_park hs
    exact .inr (hr.cpuMove rfl (.inr (by simp [park]))
      (fun c e => by simp [park, switchOut_cpus_ne _ _ _ e]) c)
  | yield c' =>
    obtain ⟨i, hr, -, rfl⟩ := step_yield hs
    exact .inr (hr.cpuMove rfl (.inr (by simp [yield]))
      (fun c e => by simp [yield, switchOut_cpus_ne _ _ _ e]) c)
  | kill c' pid => obtain ⟨i, -, -, rfl⟩ := step_kill hs; exact .inr (.inl (by simp))
  | setPriority c' prio pid =>
    obtain ⟨i, -, -, rfl⟩ := step_setPriority hs; exact .inr (.inl (by simp))
  | growproc | fileOpen | fileClose | trapLevel =>
    obtain ⟨i, ho⟩ := step_own hs rfl
    exact .inr (.inl (by rw [ho.cpus]))

theorem CpuMove.scanKept (hp : cfg.policy = .default) (h : CpuMove cfg s t c) : ScanKept c s t := by
  rcases h with h | ⟨i, pc, hr, he, ⟨hpi, hte⟩ | hres⟩
  · exact .of_cpus h
  · have hs : (s.cpus c).pc.executing := hr.pc_eq ▸ he
    exact ⟨by rw [Cpu.scanPos_of_executing hte hpi, Cpu.scanPos_of_executing hs hr.proc_eq],
      iff_of_false (CpuPc.ne_top_of_executing hte) (CpuPc.ne_top_of_executing hs), by simp [switchIn, hs]⟩
  · have hs : (s.cpus c).pc.executing := hr.pc_eq ▸ he
    refine ⟨?_, ?_, by simp [switchIn, hs]⟩
    · rw [hres, Cpu.scanPos_of_executing hs hr.proc_eq]; simp [Cpu.resume, hp, Cpu.scanPos]
    · rw [hres]; simp [Cpu.resume, hp, CpuPc.ne_top_of_executing hs]

theorem step_scanKept (hp : cfg.policy = .default) (hs : step cfg s a = some t) (c : Nat) :
    a = .sched c ∨ ScanKept c s t :=
  (step_cpuMove hs c).imp_right (CpuMove.scanKept hp)

theorem schedStep_default (hp : cfg.policy = .default) (hs : schedStep cfg s c = some t) :
    (s.cpus c).pc = .top ∧ t = s.setCpu c { (s.cpus c) with pc := .loop 0 } ∨
      ∃ k, (s.cpus c).pc = .loop k ∧
        (k < cfg.nproc ∧ (s.procs k).state = .runnable ∧ t = dispatch s c k (s.procs k) ∨
          k < cfg.nproc ∧ (s.procs k).state ≠ .runnable ∧ t = s.setCpu c { (s.cpus c) with pc := .loop (k + 1) } ∨
          cfg.nproc ≤ k ∧ t = s.setCpu c { (s.cpus c) with pc := .top }) := by
  cases hpc : (s.cpus c).pc <;> simp only [schedStep, hp, hpc] at hs
  case top => exact .inl ⟨rfl, (Option.some.inj hs).symm⟩
  case loop k =>
    refine .inr ⟨k, rfl, ?_⟩
    split_ifs at hs with hk _ hr <;> cases hs
    exacts [.inl ⟨hk, hr, rfl⟩, .inr (.inl ⟨hk, hr, rfl⟩), .inr (.inr ⟨Nat.le_of_not_lt hk, rfl⟩)]
  all_goals cases hs

theorem gap_sched (hp : cfg.policy = .default) (hjn : j < cfg.nproc) (hs : schedStep cfg s c = some t)
    (hj' : (t.procs j).state = .runnable) :
    switchIn c s t + gap cfg.nproc j (t.cpus c).scanPos ≤ gap cfg.nproc j (s.cpus c).scanPos := by
  rcases schedStep_default hp hs with ⟨hpc, rfl⟩ | ⟨k, hpc, ⟨hk, hr, rfl⟩ | ⟨hk, hr, rfl⟩ | ⟨hk, rfl⟩⟩
  · simp [switchIn, hpc, Cpu.scanPos, CpuPc.executing]
  · have hkj : k ≠ j := by rintro rfl; simp [dispatch] at hj'
    simpa [switchIn, hpc, dispatch, Cpu.scanPos, CpuPc.executing, Nat.add_comm] using gap_succ hkj hk
  · have hkj : k ≠ j := by rintro rfl; exact hr hj'
    simpa [switchIn, hpc, Cpu.scanPos, CpuPc.executing] using (gap_succ hkj hk).trans' (Nat.le_succ _)
  · simpa [switchIn, hpc, Cpu.scanPos, CpuPc.executing] using gap_wrap hk hjn

theorem lapLeft_sched (hp : cfg.policy = .default) (hjn : j < cfg.nproc) (hs : schedStep cfg s c = some t)
    (hj' : (t.procs j).state = .runnable) :
    (t.cpus c).lapLeft cfg.nproc j + 1 ≤ (s.cpus c).lapLeft cfg.nproc j := by
  rcases schedStep_default hp hs with ⟨hpc, rfl⟩ | ⟨k, hpc, ⟨hk, hr, rfl⟩ | ⟨hk, hr, rfl⟩ | ⟨hk, rfl⟩⟩
  · simp [Cpu.lapLeft, hpc, Cpu.scanPos, lap]
  · have hkj : k ≠ j := by rintro rfl; simp [dispatch] at hj'
    simpa [Cpu.lapLeft, hpc, dispatch, Cpu.scanPos] using lap_succ hkj hk
  · have hkj : k ≠ j := by rintro rfl; exact hr hj'
    simpa [Cpu.lapLeft, hpc, Cpu.scanPos] using lap_succ hkj hk
  · simpa [Cpu.lapLeft, hpc, Cpu.scanPos] using lap_wrap hk hjn

theorem dispatches_le_gap (hp : cfg.policy = .default) (hjn : j < cfg.nproc) (c : Nat)
    {as : List Action} (hl : holdsAlong cfg (fun s => (s.procs j).state == .runnable) s as = true) :
    dispatches cfg c s as ≤ gap cfg.nproc j (s.cpus c).scanPos := by
  induction as generalizing s with
  | nil => simp [dispatches]
  | cons a as ih =>
    cases hs : step cfg s a with
    | none => simp [dispatches, hs]
    | some t =>
      rw [holdsAlong_cons hs, Bool.and_eq_true] at hl
      have hj' : (t.procs j).state = .runnable := by simpa using holdsAlong_head hl.2
      have hrest := ih hl.2
      rw [dispatches_cons hs]
      rcases step_scanKept hp hs c with rfl | hk
      · have := gap_sched hp hjn (step_sched hs).2 hj'; omega
      · rw [hk.noSwitch, ← hk.pos]; omega

theorem default_bypass_bounded (hp : cfg.policy = .default) (hjn : j < cfg.nproc) {as : List Action}
    (hl : holdsAlong cfg (fun s => (s.procs j).state == .runnable) s as = true) (c : Nat) :
    dispatches cfg c s as ≤ cfg.nproc - 1 :=
  (dispatches_le_gap hp hjn c hl).trans (gap_le hjn _)

theorem schedSteps_le_lapLeft (hp : cfg.policy = .default) (hjn : j < cfg.nproc) (c : Nat)
    {as : List Action} (hl : holdsAlong cfg (fun s => (s.procs j).state == .runnable) s as = true) :
    schedSteps cfg c s as ≤ (s.cpus c).lapLeft cfg.nproc j := by
  induction as generalizing s with
  | nil => simp [schedSteps]
  | cons a as ih =>
    cases hs : step cfg s a with
    | none => simp [schedSteps, hs]
    | some t =>
      rw [holdsAlong_cons hs, Bool.and_eq_true] at hl
      have hj' : (t.procs j).state = .runnable := by simpa using holdsAlong_head hl.2
      have hrest := ih hl.2
      rw [schedSteps_cons hs]
      by_cases ha : a = .sched c
      · subst ha
        have := lapLeft_sched hp hjn (step_sched hs).2 hj'
        simp only [Action.schedBy, if_true]; omega
      · rw [Action.schedBy_of_ne ha, ← ((step_scanKept hp hs c).resolve_left ha).lapLeft]; omega

theorem default_runnable_served_within_lap (hp : cfg.policy = .default) (hjn : j < cfg.nproc)
    {as : List Action} (hl : holdsAlong cfg (fun s => (s.procs j).state == .runnable) s as = true) (c : Nat) :
    schedSteps cfg c s as ≤ cfg.nproc + 1 :=
  (schedSteps_le_lapLeft hp hjn c hl).trans (Cpu.lapLeft_le hjn _)

def twoRunnable : Kernel :=
  (run sampleDefault initRunnable
    [.sched 0, .fork 0 (some (sampleFrame, 1)) true, .forkLink 0, .forkRun 0, .yield 0]).getD initRunnable

/-- The child runs and yields, and the loop wraps around to `initproc`, which waits. -/
def bypassRun : List Action := [.sched 0, .yield 0, .sched 0, .sched 0, .sched 0]

theorem default_bypass_bounded_child :
    holdsAlong sampleDefault (fun s => (s.procs 0).state == .runnable) twoRunnable bypassRun = true ∧
      dispatches sampleDefault 0 twoRunnable bypassRun ≤ sampleDefault.nproc - 1 :=
  ⟨by decide, default_bypass_bounded rfl (show 0 < sampleDefault.nproc by decide) (by decide) 0⟩

example : dispatches sampleDefault 0 twoRunnable bypassRun = 1 := by decide

theorem default_runnable_served_within_lap_child :
    holdsAlong sampleDefault (fun s => (s.procs 0).state == .runnable) twoRunnable bypassRun = true ∧
      schedSteps sampleDefault 0 twoRunnable bypassRun = sampleDefault.nproc + 1 :=
  ⟨by decide, Nat.le_antisymm
    (default_runnable_served_within_lap rfl (show 0 < sampleDefault.nproc by decide) (by decide) 0)
    (by decide)⟩

end

end OsnScheduling
