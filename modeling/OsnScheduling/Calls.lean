import OsnScheduling.Mlfq

/-!
The calls that look a process up by pid: `kill` and `set_priority_i`. Both take the first slot
of `proc[]` whose pid matches (for `set_priority_i`, among RUNNABLE and SLEEPING slots) and
tell the caller the outcome through their return value alone.
-/

namespace OsnScheduling

/-! ### `kill` -/

/-- DEFAULT on one CPU: `initproc` forks a child (pid 2), the child runs and exits, and the
scheduler runs `initproc` again, next to its ZOMBIE child and the UNUSED slot 2. -/
def killZombie : Kernel :=
  (run sampleDefault (boot sampleDefault sampleFrame 0 1)
    ([.sched 0, .sched 0, .fork 0 (some (sampleFrame, 1)) true, .forkLink 0, .forkRun 0, .yield 0,
      .sched 0, .exit 0 7] ++ List.replicate 4 (.sched 0))).getD (boot sampleDefault sampleFrame 0 1)

theorem kill_hits_zombie_and_unused :
    ∃ s, Reachable sampleDefault s ∧ (s.cpus 0).pc = .run ∧
      (∀ j < sampleDefault.nproc, (s.procs j).state ≠ .unused → (s.procs j).state ≠ .zombie →
        (s.procs j).pid ≠ 2 ∧ (s.procs j).pid ≠ 0) ∧
      (s.procs 1).state = .zombie ∧ (s.procs 1).pid = 2 ∧
      (kill sampleDefault s 2).1 = 0 ∧ ((kill sampleDefault s 2).2.procs 1).killed = true ∧
      (s.procs 2).state = .unused ∧
      (kill sampleDefault s 0).1 = 0 ∧ ((kill sampleDefault s 0).2.procs 2).killed = true ∧
      ∃ s', step sampleDefault s (.kill 0 2) = some s' :=
  ⟨killZombie, (Reachable.boot sampleFrame 0 1).run_getD _ (by decide), by decide, by decide,
    by decide, by decide, by decide, by decide, by decide, by decide, by decide,
    _, (Option.some_get (by decide : (step sampleDefault killZombie (.kill 0 2)).isSome)).symm⟩

/-! ### `set_priority_i` -/

def pbsPriorityTwo : Kernel :=
  (run samplePbs (boot samplePbs sampleFrame 0 1)
    (List.replicate 5 (.sched 0) ++
      [.fork 0 (some (sampleFrame, 1)) true, .forkLink 0, .forkRun 0, .setPriority 0 2 2])).getD
    (boot samplePbs sampleFrame 0 1)

theorem set_priority_old_value_reads_as_not_found :
    ∃ s, Reachable samplePbs s ∧ (s.procs 1).state = .runnable ∧ (s.procs 1).pid = 2 ∧
      (setPriorityI samplePbs s 0 50 2).1 = 2 ∧
      ((setPriorityI samplePbs s 0 50 2).2.procs 1).staticPriority = 50 ∧
      (setPriorityI samplePbs s 0 50 3).1 = 2 ∧ (setPriorityI samplePbs s 0 50 3).2 = s :=
  ⟨pbsPriorityTwo, (Reachable.boot sampleFrame 0 1).run_getD _ (by decide), by decide, by decide,
    by decide, by decide, by decide, rfl⟩

end OsnScheduling
