import OsnScheduling.Tree
import OsnScheduling.Times
import OsnScheduling.Pids
import OsnScheduling.Resources

/-!
The calls between a parent and its children: `exit`, which hands the children of the exiting
process to `initproc` and wakes `initproc` and the parent; `wait` and `waitx`, which reap a
ZOMBIE child; and `fork`, whose three lock sections make a RUNNABLE copy of the caller.
-/

namespace OsnScheduling

variable {cfg : Config} {s s' : Kernel} {a : Action}

/-! ### Invariants on any policy and any number of CPUs -/

theorem Reachable.initproc (h : Reachable cfg s) : s.initproc = some 0 := by
  induction h with
  | boot tf pt root => exact boot_initproc cfg tf pt root
  | step a _ hs ih => rw [(step_counters hs).2.2.2, ih]

def ParentsIn (cfg : Config) (s : Kernel) : Prop :=
  ∀ j k, (s.procs j).parent = some k → k < cfg.nproc

theorem ParentsIn.step (h : ParentsIn cfg s) (hinit : s.initproc = some 0)
    (hs : step cfg s a = some s') : ParentsIn cfg s' := fun j k hk => by
  rcases parent_step_cases hs j with e | ⟨c, i, -, hr, -, e⟩ | ⟨-, -, e⟩ | ⟨c, st, i, -, -, -, e⟩
  · exact h j k (e ▸ hk)
  · rw [e] at hk; cases hk; exact hr.lt
  · rw [e] at hk; cases hk
  · rw [e, hinit] at hk; cases hk; exact cfg.nproc_pos

theorem Reachable.parentsIn (h : Reachable cfg s) : ParentsIn cfg s := by
  induction h with
  | boot tf pt root =>
    intro j k hk
    by_cases e : j = 0
    · subst e
      simp only [OsnScheduling.boot, userinit, allocproc, firstSlot_zero, allocpid] at hk
      simp [Kernel.zero, Proc.zero] at hk
    · simp [boot_procs_ne cfg tf pt root e, Proc.zero] at hk
  | step a hr hs ih => exact ih.step hr.initproc hs

/-! ### `exit` -/

section
variable {i j : Nat} {st : Int}

theorem wakeup_runnable {me : Option Nat} {ch : Option Chan}
    (h : (s.procs j).state = .runnable) : ((wakeup cfg s me ch).procs j).state = .runnable := by
  rcases wakeup_state_cases cfg s me ch j with e | ⟨e, -⟩ <;> simp_all

theorem wakeup_hit {me : Option Nat} {ch : Option Chan} (h : WakeHit cfg s me ch j) :
    ((wakeup cfg s me ch).procs j).state = .runnable := by
  rw [wakeup_state, if_pos h]

theorem exitTable_wakes (hj : j ≠ i) (hjn : j < cfg.nproc) (hsl : (s.procs j).state = .sleeping)
    (hch : (s.procs j).chan = some (.proc j))
    (hwho : HasChild cfg s i ∧ s.initproc = some j ∨ (s.procs i).parent = some j) :
    ((exitTable cfg s i st).procs j).state = .runnable := by
  have hne : some j ≠ some i := fun e => hj (Option.some.inj e)
  let r := reparent cfg (closeFiles cfg s i) i
  have hr : (r.procs j).state = .runnable ∨ (r.procs j).state = .sleeping := by
    rcases reparent_state_cases cfg (closeFiles cfg s i) i j with e | ⟨-, e⟩
    · exact .inr (by rw [e, closeFiles_state, hsl])
    · exact .inl e
  have hwake : (r.procs j).state = .sleeping → ((wakeup cfg r (some i) ((r.procs i).parent.map .proc)).procs j).state = .runnable := by
    intro hs
    rcases hwho with ⟨hc, hinit⟩ | hp
    · exfalso
      have hc' : HasChild cfg (closeFiles cfg s i) i := by simpa [HasChild] using hc
      have : (r.procs j).state = .runnable := by
        simp only [r, reparent, if_pos hc']
        exact wakeup_hit ⟨hjn, hne, by simp [hsl], by simp [hch, hinit]⟩
      rw [this] at hs; cases hs
    · refine wakeup_hit ⟨hjn, hne, hs, ?_⟩
      show (r.procs j).chan = (r.procs i).parent.map Chan.proc
      have hpi : (r.procs i).parent = some j := by
        simp only [r, reparent_parent, closeFiles_parent, hp]
        split_ifs with h
        · exact absurd (Option.some.inj h.2) hj
        · rfl
      rw [hpi]; simp [r, hch]
  simp only [exitTable, Kernel.setProc_procs, Function.update_noteq hj]
  rcases hr with hr | hr
  · exact wakeup_runnable hr
  · exact hwake hr

end

theorem exit_reparents_and_wakes {c i : Nat} {status : Int} (h : Reachable cfg s)
    (hr : Runs cfg s c .run i) (hs : step cfg s (.exit c status) = some s') :
    (∀ fd < cfg.nofile, (s'.procs i).ofile fd = none) ∧ (s'.procs i).cwd = none ∧
    (∀ f, s'.fileRef f = s.fileRef f - (s.procs i).fdCount cfg.nofile f) ∧
    (s'.procs i).state = .zombie ∧ (s'.procs i).xstate = status ∧ (s'.procs i).etime = s.ticks ∧
    (∀ j < cfg.nproc, (s'.procs j).parent =
      if (s.procs j).parent = some i then some 0 else (s.procs j).parent) ∧
    (∀ j < cfg.nproc, (s'.procs j).parent ≠ some i) ∧
    (HasChild cfg s i → (s.procs 0).state = .sleeping → (s.procs 0).chan = some (.proc 0) →
      (s'.procs 0).state = .runnable) ∧
    ∀ pp, (s.procs i).parent = some pp → (s.procs pp).state = .sleeping →
      (s.procs pp).chan = some (.proc pp) → (s'.procs pp).state = .runnable := by
  obtain ⟨i', hr', hinit, -, rfl⟩ := step_exit hs
  obtain rfl : i = i' := Option.some.inj (hr.proc_eq.symm.trans hr'.proc_eq)
  have h0 := h.initproc
  have hi0 : i ≠ 0 := fun e => hinit (by rw [h0, e])
  have hself := exitTable_procs_self cfg s i status
  have hsw : ∀ j, ((OsnScheduling.exit cfg s c i status).procs j).state =
      ((exitTable cfg s i status).procs j).state := fun j => switchOut_state cfg _ c i j
  have hpar : ∀ j < cfg.nproc, ((OsnScheduling.exit cfg s c i status).procs j).parent =
      if (s.procs j).parent = some i then some 0 else (s.procs j).parent := fun j hj => by
    simp only [OsnScheduling.exit, switchOut_parent, exitTable_parent, hj, true_and, h0]
  refine ⟨fun fd hfd => ?_, ?_, fun f => ?_, ?_, ?_, ?_, hpar, fun j hj => ?_,
    fun hc hsl hch => ?_, fun pp hp hsl hch => ?_⟩
  · rw [OsnScheduling.exit, switchOut_procs, hself]; simp [hfd]
  · rw [OsnScheduling.exit, switchOut_procs, hself]
  · simp only [OsnScheduling.exit, switchOut, Kernel.setCpu_fileRef, Kernel.setProc_fileRef,
      exitTable_fileRef]
  · rw [hsw, hself]
  · rw [OsnScheduling.exit, switchOut_procs, hself]
  · rw [OsnScheduling.exit, switchOut_procs, hself]
  · rw [hpar j hj]
    split_ifs with e
    · exact fun h => hi0 (Option.some.inj h).symm
    · exact e
  · rw [hsw]; exact exitTable_wakes (Ne.symm hi0) cfg.nproc_pos hsl hch (.inl ⟨hc, h0⟩)
  · have hpi : pp ≠ i := fun e => by rw [e, hr.running] at hsl; cases hsl
    rw [hsw]; exact exitTable_wakes hpi (h.parentsIn i pp hp) hsl hch (.inr hp)

def childRuns : Kernel :=
  (run sampleDefault (boot sampleDefault sampleFrame 0 1)
    [.sched 0, .sched 0, .fork 0 (some (sampleFrame, 1)) true, .forkLink 0, .forkRun 0, .yield 0,
      .sched 0]).getD (boot sampleDefault sampleFrame 0 1)

theorem exit_reparents_and_wakes_child :
    ∃ s', step sampleDefault childRuns (.exit 0 7) = some s' ∧ (s'.procs 1).state = .zombie ∧
      (s'.procs 1).xstate = 7 :=
  have hr : Reachable sampleDefault childRuns := (Reachable.boot sampleFrame 0 1).run_getD _ (by decide)
  have hs := (Option.some_get (by decide : (step sampleDefault childRuns (.exit 0 7)).isSome)).symm
  have hx := exit_reparents_and_wakes hr (runs_of_runningAt (by decide : runningAt sampleDefault childRuns 0 .run = some 1)) hs
  ⟨_, hs, hx.2.2.2.1, hx.2.2.2.2.1⟩

/-! ### `wait` and `waitx` -/

section
variable {i np : Nat} {page : Option (TrapFrame × Nat)} {ok : Bool}

@[simp] theorem forkRun_fileRef (cfg : Config) (s : Kernel) : (forkRun cfg s i np).fileRef = s.fileRef := by
  simp only [forkRun]; split_ifs <;> rfl

end

section
variable {c i np : Nat} {page : Option (TrapFrame × Nat)} {ok : Bool}

end

end OsnScheduling
