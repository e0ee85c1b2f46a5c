import OsnScheduling.Slots

/-!
Pids. `allocpid` returns `nextpid` and increments it under `pid_lock`, with no bound check:
the C `int` wraps once it passes `2^31 - 1`. `allocproc` takes a pid even when its `kalloc`
fails and it frees the slot again, so a `fork` that fails there spends one.
-/

namespace OsnScheduling

def PidsOk (s : Kernel) : Prop :=
  (∀ j, (s.procs j).state ≠ .unused → 0 < (s.procs j).pid ∧ (s.procs j).pid < s.nextpid) ∧
    ∀ j k, (s.procs j).state ≠ .unused → (s.procs k).state ≠ .unused →
      (s.procs j).pid = (s.procs k).pid → j = k

structure PidInv (s : Kernel) : Prop where
  one_le : 1 ≤ s.nextpid
  ok : s.nextpid ≤ 2 ^ 31 → PidsOk s

variable {cfg : Config} {s s' : Kernel} {a : Action} {j : Nat}

theorem SlotStep.live_pid (h : SlotStep s s' a j) (hl : (s'.procs j).state ≠ .unused) :
    (s.procs j).state ≠ .unused ∧ (s'.procs j).pid = (s.procs j).pid ∨
      (s.procs j).state = .unused ∧ (s'.procs j).pid = int32 s.nextpid ∧
        s'.nextpid = s.nextpid + 1 ∧ ∀ k, k ≠ j → s'.procs k = s.procs k := by
  cases h with
  | keep hrec hst =>
    refine .inl ⟨?_, hrec.1⟩
    rcases hst with e | e
    · rwa [e] at hl
    · exact (runEdge_live e).1
  | alloc hu _ hpid _ _ _ hnext hother => exact .inr ⟨hu, hpid, hnext, hother⟩
  | start _ _ hu _ hrec => exact .inl ⟨by simp [hu], hrec.1⟩
  | unused _ hu' => exact absurd hu' hl
  | exit _ hr _ hpid => exact .inl ⟨by simp [hr], hpid⟩
  | free _ _ _ _ _ hu' => exact absurd hu' hl
  | tick hr _ _ hpid => exact .inl ⟨by simp [hr], hpid⟩

theorem PidInv.step (hi : PidInv s) (hw : Wf cfg s) (hs : step cfg s a = some s') : PidInv s' := by
  have hc := (step_counters hs).2.2.1
  refine ⟨by have := hi.one_le; omega, fun hn => ?_⟩
  obtain ⟨hb, hd⟩ := hi.ok (by omega)
  have hlive := fun j (hl : (s'.procs j).state ≠ .unused) => (SlotStep.of_step hw hs j).live_pid hl
  have hnew : ∀ j, (s.procs j).state = .unused → (s'.procs j).pid = int32 s.nextpid →
      s'.nextpid = s.nextpid + 1 → (s'.procs j).pid = s.nextpid := fun j _ hp hnext => by
    rw [hp, int32_of_lt (by omega) (by omega)]
  refine ⟨fun j hl => ?_, fun j k hj hk he => ?_⟩
  · rcases hlive j hl with ⟨hl0, hp⟩ | ⟨hu, hp, hnext, -⟩
    · have := hb j hl0; rw [hp]; omega
    · have := hi.one_le; rw [hnew j hu hp hnext]; omega
  · rcases hlive j hj with ⟨hj0, hpj⟩ | ⟨hju, hpj, hnext, hoj⟩ <;>
      rcases hlive k hk with ⟨hk0, hpk⟩ | ⟨hku, hpk, hnext', hok⟩
    · exact hd j k hj0 hk0 (by rw [← hpj, ← hpk, he])
    · have := hb j hj0; have := hnew k hku hpk hnext'; omega
    · have := hb k hk0; have := hnew j hju hpj hnext; omega
    · by_contra e
      exact hj (by rw [hok j e]; exact hju)

theorem PidInv.boot (tf : TrapFrame) (pt root : Nat) : PidInv (OsnScheduling.boot cfg tf pt root) := by
  have h0 : ((OsnScheduling.boot cfg tf pt root).procs 0).pid = 1 ∧
      (OsnScheduling.boot cfg tf pt root).nextpid = 2 := by
    simp only [OsnScheduling.boot, userinit, allocproc, firstSlot_zero, allocpid]
    simp [Kernel.zero, int32]
  have hlive : ∀ j, ((OsnScheduling.boot cfg tf pt root).procs j).state ≠ .unused → j = 0 :=
    fun j hj => by_contra fun e => hj (by rw [boot_procs_ne cfg tf pt root e]; rfl)
  refine ⟨by omega, fun _ => ⟨fun j hj => ?_, fun j k hj hk _ => by rw [hlive j hj, hlive k hk]⟩⟩
  rw [hlive j hj, h0.1, h0.2]
  decide

theorem Reachable.pidInv (hu : MlfqUniprocessor cfg) (h : Reachable cfg s) : PidInv s := by
  induction h with
  | boot tf pt root => exact .boot tf pt root
  | step a hr hs ih => exact ih.step (hr.wf hu) hs

theorem live_pids_unique (hu : MlfqUniprocessor cfg) (h : Reachable cfg s) (hn : s.nextpid < 2 ^ 31) :
    (∀ j, (s.procs j).state ≠ .unused → 0 < (s.procs j).pid ∧ (s.procs j).pid < s.nextpid) ∧
      (∀ j k, (s.procs j).state ≠ .unused → (s.procs k).state ≠ .unused →
        (s.procs j).pid = (s.procs k).pid → j = k) ∧
      (allocpid s).1 ≠ -1 ∧ ∀ j, (s.procs j).state ≠ .unused → (s.procs j).pid ≠ (allocpid s).1 := by
  have hi := h.pidInv hu
  obtain ⟨hb, hd⟩ := hi.ok (Nat.le_of_lt hn)
  have hp : (allocpid s).1 = s.nextpid := int32_of_lt (by omega) (by omega)
  refine ⟨hb, hd, by have := hi.one_le; omega, fun j hj => ?_⟩
  have := (hb j hj).2
  omega

theorem live_pids_unique_family :
    sampleFamily.nextpid < 2 ^ 31 ∧ (sampleFamily.procs 1).pid ≠ (sampleFamily.procs 2).pid ∧
      (allocpid sampleFamily).1 ≠ -1 :=
  have hn : sampleFamily.nextpid < 2 ^ 31 := by decide
  have h := live_pids_unique (by decide) sampleFamily_reachable hn
  ⟨hn, fun e => absurd (h.2.1 1 2 (by decide) (by decide) e) (by decide), h.2.2.1⟩

/-! ### The counter wraps -/

theorem step_fork_fails {c i np : Nat} {ok : Bool} (hr : runningAt cfg s c .run = some i)
    (hf : ScanFree cfg s unusedHit) (hnp : firstSlot cfg s unusedHit = some np)
    (hq : freeproc { (s.procs np) with trace := 0 } = s.procs np) :
    step cfg s (.fork c none ok) = some { s with nextpid := s.nextpid + 1 } := by
  simp only [step, hr, if_pos hf, forkAlloc, allocproc, hnp, allocpid, Kernel.setProc]
  congr
  exact Function.update_eq_self_iff.mpr hq

theorem Reachable.fork_fails {c i np : Nat} (ok : Bool) (h : Reachable cfg s)
    (hr : runningAt cfg s c .run = some i) (hf : ScanFree cfg s unusedHit)
    (hnp : firstSlot cfg s unusedHit = some np)
    (hq : freeproc { (s.procs np) with trace := 0 } = s.procs np) (k : Nat) :
    Reachable cfg { s with nextpid := s.nextpid + k } := by
  have hnp' := firstSlot_eq_some.mp hnp
  induction k with
  | zero => exact h
  | succ k ih => exact .step (.fork c none ok) ih (step_fork_fails hr hf (firstSlot_eq_some.mpr hnp') hq)

def initRuns : Kernel :=
  (run sampleDefault (boot sampleDefault sampleFrame 0 1) [.sched 0, .sched 0]).getD
    (boot sampleDefault sampleFrame 0 1)

def pidsSpent : Kernel := { initRuns with nextpid := 2 ^ 31 }

theorem live_pid_not_positive :
    (∃ s, Reachable sampleMlfq2 s ∧ s.nextpid < 2 ^ 31 ∧ (s.procs 1).state = .running ∧
      (s.procs 1).pid = 0) ∧
    ∃ s, Reachable sampleDefault s ∧ (s.procs 1).state = .used ∧ (s.procs 1).pid = -2 ^ 31 :=
  have hr : Reachable sampleDefault initRuns := (Reachable.boot sampleFrame 0 1).run_getD _ (by decide)
  have hp : Reachable sampleDefault pidsSpent := by
    have h := Reachable.fork_fails true hr (by decide : runningAt sampleDefault initRuns 0 .run = some 0)
      (by decide) (by decide : firstSlot sampleDefault initRuns unusedHit = some 1) rfl (2 ^ 31 - 2)
    rwa [(by decide : initRuns.nextpid + (2 ^ 31 - 2) = 2 ^ 31)] at h
  have hs := (Option.some_get
    (by decide : (step sampleDefault pidsSpent (.fork 0 (some (sampleFrame, 1)) true)).isSome)).symm
  ⟨⟨_, (Reachable.boot sampleFrame 0 1).run_getD (mlfqStalePick ++ [.sched 1]) (by decide),
      by decide, by decide, by decide⟩,
    _, .step _ hp hs, by decide, by decide⟩

end OsnScheduling
