import OsnScheduling.Exclusion

/-!
Starvation under MLFQ. The dispatch sets `time_added = 0`, `yield` leaves it there, and
`UpgradePolicy` only ages slots below level 0; the level loop reads `minimum_time == 0` as
"none found yet". So a RUNNABLE slot at level 0 whose `time_added` is still the 0 of its last
dispatch is passed over by any other RUNNABLE slot of level 0. On one CPU, with `initproc` in
that state and two processes that take turns sleeping on `ticks`, each clock tick wakes the
sleeper, the runner goes to sleep, and the scheduler runs the woken one: `initproc` stays
RUNNABLE through every round until the 32-bit clock wraps, while the CPU switches into a
process once a round. Under DEFAULT the same count is at most `NPROC - 1` (`Fairness`).
-/

namespace OsnScheduling

section
variable {cfg : Config} {s : Kernel} {c i j : Nat} {ch : Chan}

theorem tick_procs_of_ne_running (h : (s.procs j).state ≠ .running) : (tick cfg s).procs j = s.procs j := by
  simp [tick, updateTime, h]

theorem tick_procs_fields :
    ((tick cfg s).procs j).state = (s.procs j).state ∧
      ((tick cfg s).procs j).priorityNumber = (s.procs j).priorityNumber := by
  simp only [tick, updateTime, Kernel.mapProcs_procs]; split_ifs <;> exact ⟨rfl, rfl⟩

theorem wakeup_procs_of_hit {me : Option Nat} {chan : Option Chan} (h : WakeHit cfg s me chan j) :
    (wakeup cfg s me chan).procs j = (s.procs j).wake cfg.policy s.ticks := by
  simp [wakeup, h]

theorem sleepLock_procs_self : (sleepLock s c i ch).procs i = { (s.procs i) with lock := some c } := by
  simp [sleepLock]

theorem sleepLock_procs_ne (h : j ≠ i) : (sleepLock s c i ch).procs j = s.procs j := by
  simp [sleepLock, Function.update_noteq h]

theorem park_procs_self :
    (park cfg s c i ch).procs i = { (s.procs i).sleepOn cfg.policy s.ticks ch with lock := none } := by
  simp [park, switchOut]

theorem park_procs_ne (h : j ≠ i) : (park cfg s c i ch).procs j = s.procs j := by
  simp [park, switchOut, Function.update_noteq h]

theorem dispatch_procs_self {p : Proc} :
    (dispatch s c j p).procs j = { p with state := .running, chan := none, lock := none } := by
  simp [dispatch]

theorem dispatch_procs_ne {p : Proc} {k : Nat} (h : k ≠ j) : (dispatch s c j p).procs k = s.procs k := by
  simp [dispatch, Function.update_noteq h]

theorem upgradePolicy_of_top (h : ∀ k < cfg.nproc, (s.procs k).priorityNumber = 0) :
    upgradePolicy cfg s = s := by
  have e : (fun j => if UpgradeHit cfg s j then
      { (s.procs j) with timeAdded := s.ticks, priorityNumber := (s.procs j).priorityNumber - 1 }
      else s.procs j) = s.procs := funext fun j => if_neg fun hu => hu.2.2.1 (h j hu.1)
  simp only [upgradePolicy, Kernel.mapProcs, e]

end

def starveRound : List Action := [.tick, .wakeup 0 .ticks, .sleep 0 .ticks, .park 0, .sched 0, .sched 0]

/-- A round starts: on CPU 0 `x` runs and `y` sleeps on `ticks`, the two being slots 1 and 2;
`initproc` is RUNNABLE with `time_added` 0; every slot is at level 0 with its lock free. -/
structure RoundStart (s : Kernel) (x y : Nat) : Prop where
  roles : x = 1 ∧ y = 2 ∨ x = 2 ∧ y = 1
  proc : (s.cpus 0).proc = some x
  pc : (s.cpus 0).pc = .run
  running : (s.procs x).state = .running
  sleeping : (s.procs y).state = .sleeping
  chan : (s.procs y).chan = some .ticks
  init : (s.procs 0).state = .runnable
  added : (s.procs 0).timeAdded = 0
  level : ∀ k < 3, (s.procs k).priorityNumber = 0
  lock : ∀ k < 3, (s.procs k).lock = none

structure Parked (s : Kernel) (x y : Nat) : Prop where
  roles : x = 1 ∧ y = 2 ∨ x = 2 ∧ y = 1
  pc : (s.cpus 0).pc = .top
  sleeping : (s.procs x).state = .sleeping
  chan : (s.procs x).chan = some .ticks
  woken : (s.procs y).state = .runnable
  wokenAdded : u32 (s.procs y).timeAdded ≠ 0
  init : (s.procs 0).state = .runnable
  added : (s.procs 0).timeAdded = 0
  level : ∀ k < 3, (s.procs k).priorityNumber = 0
  lock : ∀ k < 3, (s.procs k).lock = none

variable {s : Kernel} {x y : Nat}

theorem RoundStart.toParked (h : RoundStart s x y) (ht : u32 (s.ticks + 1 : Nat) ≠ 0) :
    ∃ t, run sampleMlfq1 s [.tick, .wakeup 0 .ticks, .sleep 0 .ticks, .park 0] = some t ∧ Parked t x y ∧
      t.ticks = s.ticks + 1 ∧
      holdsAlong sampleMlfq1 (fun s => (s.procs 0).state == .runnable) s
        [.tick, .wakeup 0 .ticks, .sleep 0 .ticks, .park 0] = true ∧
      dispatches sampleMlfq1 0 s [.tick, .wakeup 0 .ticks, .sleep 0 .ticks, .park 0] = 0 := by
  obtain ⟨hr, hp, hpc, hx, hy, hch, h0, ha, hlv, hlk⟩ := h
  have cfgp : sampleMlfq1.policy = .mlfq := rfl
  have hx0 : x ≠ 0 := by omega
  have hxy : x ≠ y := by omega
  have hx3 : x < 3 := by omega
  have hy3 : y < 3 := by omega
  have hk3 : ∀ k < 3, k = 0 ∨ k = x ∨ k = y := by omega
  -- the clock
  have e1 : step sampleMlfq1 s .tick = some (tick sampleMlfq1 s) := if_pos fun k hk _ => hlk k hk
  set s1 := tick sampleMlfq1 s with hs1
  have p1 : s1.procs 0 = s.procs 0 ∧ s1.procs y = s.procs y :=
    ⟨tick_procs_of_ne_running (by simp [h0]), tick_procs_of_ne_running (by simp [hy])⟩
  have c1 : s1.cpus = s.cpus := rfl
  -- `wakeup(&ticks)` in the clock interrupt, over `x`
  have e2 : step sampleMlfq1 s1 (.wakeup 0 .ticks) = some (wakeup sampleMlfq1 s1 (some x) (some .ticks)) := by
    simp only [step, c1, hp]
    exact if_pos ⟨by decide, rfl, fun k hk _ => by simpa [hs1] using hlk k hk⟩
  set s2 := wakeup sampleMlfq1 s1 (some x) (some .ticks) with hs2
  have p2 : s2.procs 0 = s.procs 0 ∧ s2.procs x = s1.procs x ∧
      s2.procs y = (s.procs y).wake .mlfq (s.ticks + 1) := by
    refine ⟨by rw [wakeup_procs_of_ne_sleeping (by simp [p1.1, h0]), p1.1], wakeup_procs_me .., ?_⟩
    rw [wakeup_procs_of_hit ⟨by simpa using hy3, by simpa using hxy.symm, by simp [p1.2, hy],
      by simp [p1.2, hch]⟩, p1.2]
    rfl
  have c2 : s2.cpus = s.cpus := rfl
  -- `sleep(&ticks)`: take `p->lock`, then go SLEEPING and call `sched()`
  have hx2 : (s2.procs x).state = .running := by rw [p2.2.1, tick_procs_fields.1, hx]
  have e3 : step sampleMlfq1 s2 (.sleep 0 .ticks) = some (sleepLock s2 0 x .ticks) := by
    simp only [step]
    rw [runningAt_eq_some.mpr ⟨by decide, by rw [c2, hp], by rw [c2, hpc], by simpa using hx3, hx2⟩]
    exact if_pos ⟨rfl, by simp [hs2, hs1, hlk x hx3]⟩
  set s3 := sleepLock s2 0 x .ticks with hs3
  have c3 : s3.cpus 0 = { (s.cpus 0) with pc := .sleep .ticks } := by rw [hs3, sleepLock_cpus_self, c2]
  have p3 : s3.procs 0 = s.procs 0 := by rw [hs3, sleepLock_procs_ne hx0.symm, p2.1]
  have hold : HoldsOnly sampleMlfq1 s3 0 x := fun k hk hl => by
    obtain rfl | rfl | rfl := hk3 k hk
    · rw [p3, hlk 0 hk] at hl; cases hl
    · rfl
    · rw [hs3, sleepLock_procs_ne hxy.symm, p2.2.2] at hl; simp [hlk k hk] at hl
  have e4 : step sampleMlfq1 s3 (.park 0) = some (park sampleMlfq1 s3 0 x .ticks) := by
    simp only [step, c3]
    rw [runningAt_eq_some.mpr ⟨by decide, by rw [c3, hp], by rw [c3], by simpa using hx3,
      by simpa [hs3] using hx2⟩]
    exact if_pos hold
  set t := park sampleMlfq1 s3 0 x .ticks with ht4
  have c4 : (t.cpus 0).pc = .top := by
    simp only [ht4, park, switchOut_cpus_self, Kernel.setProc_cpus, c3, Cpu.resume, cfgp]
  have pt : t.procs 0 = s.procs 0 ∧
      t.procs x = { ({ (s1.procs x) with lock := some 0 }).sleepOn .mlfq s.ticks.succ .ticks with lock := none } ∧
      t.procs y = (s.procs y).wake .mlfq (s.ticks + 1) := by
    refine ⟨by rw [ht4, park_procs_ne hx0.symm, p3], ?_, ?_⟩
    · rw [ht4, park_procs_self, hs3, sleepLock_procs_self, p2.2.1]; rfl
    · rw [ht4, park_procs_ne hxy.symm, hs3, sleepLock_procs_ne hxy.symm, p2.2.2]
  have lx1 : (s1.procs x).priorityNumber = 0 := tick_procs_fields.2.trans (hlv x hx3)
  refine ⟨t, by simp only [run, e1, e2, e3, e4, Option.some_bind],
    ⟨hr, c4, by simp [pt.2.1], by simp [pt.2.1], by simp [pt.2.2], by simpa [pt.2.2] using ht,
      by rw [pt.1, h0], by rw [pt.1, ha], fun k hk => ?_, fun k hk => ?_⟩, rfl, ?_, ?_⟩
  · obtain rfl | rfl | rfl := hk3 k hk
    · rw [pt.1, hlv 0 hk]
    · simp [pt.2.1, lx1]
    · simp [pt.2.2, hlv k hk]
  · obtain rfl | rfl | rfl := hk3 k hk
    · rw [pt.1, hlk 0 hk]
    · simp [pt.2.1]
    · simp [pt.2.2, hlk k hk]
  · simp only [holdsAlong_cons e1, holdsAlong_cons e2, holdsAlong_cons e3, holdsAlong_cons e4]
    simp only [holdsAlong, p1.1, p2.1, p3, pt.1, h0, beq_self_eq_true, Bool.and_self]
  · simp only [dispatches_cons e1, dispatches_cons e2, dispatches_cons e3, dispatches_cons e4]
    simp only [dispatches, switchIn, c1, c2, c3, c4, hpc]
    rfl

theorem Parked.toRoundStart (h : Parked s x y) :
    ∃ t, run sampleMlfq1 s [.sched 0, .sched 0] = some t ∧ RoundStart t y x ∧ t.ticks = s.ticks ∧
      holdsAlong sampleMlfq1 (fun s => (s.procs 0).state == .runnable) s [.sched 0, .sched 0] = true ∧
      dispatches sampleMlfq1 0 s [.sched 0, .sched 0] = 1 := by
  obtain ⟨hr, hpc, hx, hch, hy, hya, h0, ha, hlv, hlk⟩ := h
  have cfgp : sampleMlfq1.policy = .mlfq := rfl
  have hy0 : y ≠ 0 := by omega
  have hxy : x ≠ y := by omega
  have hk3 : ∀ k < 3, k = 0 ∨ k = x ∨ k = y := by omega
  have hup : upgradePolicy sampleMlfq1 s = s := upgradePolicy_of_top hlv
  have hscan : levelScan sampleMlfq1 s = some y := by
    simp [u32] at hya
    rcases hr with ⟨rfl, rfl⟩ | ⟨rfl, rfl⟩ <;>
    simp [hya, List.findSome?_cons, levelScan, levelPass, hx, hy, h0, ha, hlv, sampleMlfq1, sampleDefault,
      u32, List.range_succ]
  have e1 : step sampleMlfq1 s (.sched 0) =
      some (s.setCpu 0 { (s.cpus 0) with proc := none, toBeScheduled := some y, pc := .pick }) := by
    simp only [step, if_pos (show 0 < sampleMlfq1.ncpu by decide), schedStep, cfgp, hpc, hup, hscan]
  set s1 := s.setCpu 0 { (s.cpus 0) with proc := none, toBeScheduled := some y, pc := .pick } with hs1
  have e2 : step sampleMlfq1 s1 (.sched 0) = some (dispatch s1 0 y ((s.procs y).onDispatch .mlfq s.ticks)) := by
    simp only [step, if_pos (show 0 < sampleMlfq1.ncpu by decide), schedStep, cfgp, hs1,
      Kernel.setCpu_cpus, Function.update_same, Kernel.setCpu_procs, Kernel.setCpu_ticks,
      hlk y (by omega), hy, ProcState.resumable, if_true]
  set t := dispatch s1 0 y ((s.procs y).onDispatch .mlfq s.ticks) with ht2
  have pt : t.procs 0 = s.procs 0 ∧ t.procs x = s.procs x :=
    ⟨by rw [ht2, dispatch_procs_ne hy0.symm]; rfl, by rw [ht2, dispatch_procs_ne hxy]; rfl⟩
  have hty : t.procs y = { (s.procs y).onDispatch .mlfq s.ticks with state := .running, chan := none, lock := none } :=
    dispatch_procs_self
  refine ⟨t, by simp only [run, e1, e2, Option.some_bind],
    ⟨hr.symm.imp And.symm And.symm, by simp [ht2, dispatch], by simp [ht2, dispatch], by simp [hty],
      by rw [pt.2, hx], by rw [pt.2, hch], by rw [pt.1, h0], by rw [pt.1, ha], fun k hk => ?_,
      fun k hk => ?_⟩, rfl, ?_, ?_⟩
  · obtain rfl | rfl | rfl := hk3 k hk
    · rw [pt.1, hlv 0 hk]
    · rw [pt.2, hlv k hk]
    · simp [hty, hlv k hk]
  · obtain rfl | rfl | rfl := hk3 k hk
    · rw [pt.1, hlk 0 hk]
    · rw [pt.2, hlk k hk]
    · simp [hty]
  · simp only [holdsAlong_cons e1, holdsAlong_cons e2]
    simp only [holdsAlong, hs1, Kernel.setCpu_procs, pt.1, h0, beq_self_eq_true, Bool.and_self]
  · have c1 : (s1.cpus 0).pc = .pick := by simp [hs1]
    have c2 : (t.cpus 0).pc = .run := by simp [ht2, dispatch]
    simp only [dispatches_cons e1, dispatches_cons e2]
    simp only [dispatches, switchIn, hpc, c1, c2]
    rfl

theorem RoundStart.rounds (h : RoundStart s x y) (n : Nat) (hn : s.ticks + n < 2 ^ 32) :
    ∃ t, run sampleMlfq1 s (List.replicate n starveRound).flatten = some t ∧
      holdsAlong sampleMlfq1 (fun s => (s.procs 0).state == .runnable) s
        (List.replicate n starveRound).flatten = true ∧
      dispatches sampleMlfq1 0 s (List.replicate n starveRound).flatten = n := by
  induction n generalizing s x y with
  | zero => exact ⟨s, rfl, by simp [holdsAlong, h.init], rfl⟩
  | succ n ih =>
    obtain ⟨u, hu, hpk, hut, hlu, hdu⟩ := h.toParked (by unfold u32; omega)
    obtain ⟨t, ht, hst, htt, hlt, hdt⟩ := hpk.toRoundStart
    obtain ⟨w, hw, hlw, hdw⟩ := ih hst (by omega)
    have hsplit : starveRound = [.tick, .wakeup 0 .ticks, .sleep 0 .ticks, .park 0] ++ [.sched 0, .sched 0] := rfl
    have hr : run sampleMlfq1 s starveRound = some t := by rw [hsplit, run_append, hu]; exact ht
    rw [List.replicate_succ, List.flatten_cons]
    refine ⟨w, by rw [run_append, hr]; exact hw, ?_, ?_⟩
    · rw [holdsAlong_append hr, hlw, hsplit, holdsAlong_append hu, hlu, hlt]; rfl
    · rw [dispatches_append hr, hdw, hsplit, dispatches_append hu, hdu, hdt]; omega

/-- MLFQ on one CPU: `initproc` runs (found by the round-robin loop, its `time_added` being
0), forks two children at tick 1 and yields; the first child runs and yields, the second runs
and sleeps on `ticks`, and the round-robin loop runs the first again. -/
def starveSetup : List Action :=
  [.sched 0, .sched 0, .sched 0, .tick, .fork 0 (some (sampleFrame, 1)) true, .forkLink 0, .forkRun 0,
    .fork 0 (some (sampleFrame, 1)) true, .forkLink 0, .forkRun 0, .yield 0, .sched 0, .sched 0, .yield 0,
    .sched 0, .sched 0, .sleep 0 .ticks, .park 0, .sched 0, .sched 0, .sched 0]

def starveStart : Kernel :=
  (run sampleMlfq1 (boot sampleMlfq1 sampleFrame 0 1) starveSetup).getD (boot sampleMlfq1 sampleFrame 0 1)

theorem starveStart_roundStart : RoundStart starveStart 1 2 ∧ starveStart.ticks = 1 := by
  obtain ⟨h1, h2, h3, h4, h5, h6, h7, h8, h9, h10⟩ :
      (starveStart.cpus 0).proc = some 1 ∧ (starveStart.cpus 0).pc = .run ∧
      (starveStart.procs 1).state = .running ∧ (starveStart.procs 2).state = .sleeping ∧
      (starveStart.procs 2).chan = some .ticks ∧ (starveStart.procs 0).state = .runnable ∧
      (starveStart.procs 0).timeAdded = 0 ∧ (∀ k < 3, (starveStart.procs k).priorityNumber = 0) ∧
      (∀ k < 3, (starveStart.procs k).lock = none) ∧ starveStart.ticks = 1 := by decide
  exact ⟨⟨.inl ⟨rfl, rfl⟩, h1, h2, h3, h4, h5, h6, h7, h8, h9⟩, h10⟩

theorem mlfq_top_level_starvation (n : Nat) (hn : n < 2 ^ 32 - 1) :
    Reachable sampleMlfq1 starveStart ∧ AtLevel starveStart 0 0 ∧
      ∃ t, run sampleMlfq1 starveStart (List.replicate n starveRound).flatten = some t ∧
        holdsAlong sampleMlfq1 (fun s => (s.procs 0).state == .runnable) starveStart
          (List.replicate n starveRound).flatten = true ∧
        dispatches sampleMlfq1 0 starveStart (List.replicate n starveRound).flatten = n := by
  obtain ⟨h, ht⟩ := starveStart_roundStart
  exact ⟨(Reachable.boot sampleFrame 0 1).run_getD _ (by decide), ⟨h.init, h.level 0 (by decide)⟩,
    h.rounds n (by omega)⟩

theorem mlfq_top_level_starvation_three :
    ∃ t, run sampleMlfq1 starveStart (List.replicate 3 starveRound).flatten = some t ∧
      sampleMlfq1.nproc - 1 < dispatches sampleMlfq1 0 starveStart (List.replicate 3 starveRound).flatten :=
  let ⟨_, _, t, ht, _, hd⟩ := mlfq_top_level_starvation 3 (by decide)
  ⟨t, ht, by rw [hd]; decide⟩

end OsnScheduling
