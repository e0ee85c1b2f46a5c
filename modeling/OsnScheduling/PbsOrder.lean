import OsnScheduling.WorkConservation

/-!
Priority order across CPUs for PBS. A PBS pass keeps as `ToBeScheduled` a RUNNABLE slot that
`PcbCompare` puts no later than any RUNNABLE slot it has gone over, and holds its lock. The
fields `PcbCompare` reads are written only by a step that holds the slot's lock or runs the
slot's process, so no other CPU changes them for the candidate. A pass that has gone over a
RUNNABLE slot `j` therefore dispatches a slot that `PcbCompare` does not put after `j`. While
`j` stays RUNNABLE with the same priority fields, each CPU switches to at most one slot that
`PcbCompare` puts after `j`: the slot chosen by a pass that went over `j` before `j` was RUNNABLE.
-/

namespace OsnScheduling

def Proc.pbsFields (p : Proc) : Int × Int × Int × Int × Int :=
  (p.staticPriority, p.sleepingTime, p.runningTime, p.timesScheduled, p.startTime)

instance (p q : Proc) : Decidable (pbsBefore p q) := inferInstanceAs (Decidable (_ ∨ _))

def pbsLateSwitch (p : Proc) (c : Nat) (s t : Kernel) : Nat :=
  if switchIn c s t = 1 then
    match (t.cpus c).proc with
    | some m => if pbsBefore p (s.procs m) then 1 else 0
    | none => 0
  else 0

def pbsLateDispatches (cfg : Config) (c j : Nat) : Kernel → List Action → Nat
  | _, [] => 0
  | s, a :: as =>
    ((step cfg s a).map fun t => pbsLateSwitch (s.procs j) c s t + pbsLateDispatches cfg c j t as).getD 0

def PbsPassed (s : Kernel) (c j : Nat) : Prop :=
  ∀ k, (s.cpus c).pc = .loop k → j < k → (s.cpus c).intialized ≠ -1 ∧
    ∃ m, (s.cpus c).toBeScheduled = some m ∧ ¬pbsBefore (s.procs j) (s.procs m)

theorem pbsBefore_congr {p p' q q' : Proc} (hp : p'.pbsFields = p.pbsFields)
    (hq : q'.pbsFields = q.pbsFields) : pbsBefore p' q' ↔ pbsBefore p q := by
  simp only [Proc.pbsFields, Prod.mk.injEq] at hp hq
  simp only [pbsBefore, psbPriority, niceness, hp, hq]

theorem pbsBefore_irrefl (p : Proc) : ¬pbsBefore p p := by
  simp [pbsBefore]

theorem pbsBefore_trans {p q r : Proc} (h1 : pbsBefore p q) (h2 : pbsBefore q r) : pbsBefore p r := by
  unfold pbsBefore at *; omega

theorem pbsLateSwitch_le_one (p : Proc) (c : Nat) (s t : Kernel) : pbsLateSwitch p c s t ≤ 1 := by
  unfold pbsLateSwitch; split_ifs
  · split <;> (try split_ifs) <;> omega
  · omega

theorem pbsLateSwitch_of_noSwitch {p : Proc} {c : Nat} {s t : Kernel} (h : switchIn c s t = 0) :
    pbsLateSwitch p c s t = 0 := by
  simp [pbsLateSwitch, h]

theorem pbsLateSwitch_executing {p : Proc} {c : Nat} {s t : Kernel} (h : pbsLateSwitch p c s t ≠ 0) :
    (t.cpus c).pc.executing = true := by
  by_contra he
  exact h (pbsLateSwitch_of_noSwitch (by simp [switchIn, he]))

theorem pbsLateDispatches_cons {cfg : Config} {s t : Kernel} {a : Action} {c j : Nat}
    {as : List Action} (hs : step cfg s a = some t) :
    pbsLateDispatches cfg c j s (a :: as) = pbsLateSwitch (s.procs j) c s t + pbsLateDispatches cfg c j t as := by
  simp [pbsLateDispatches, hs]

@[simp] theorem lockStep_pbsFields (s : Kernel) (c k : Nat) (rel : Option Nat) (j : Nat) :
    ((lockStep s c k rel).procs j).pbsFields = (s.procs j).pbsFields := by
  rw [lockStep_procs]; rfl

theorem pbsIter_cand (k : Nat) (p : Proc) (cand : Option Proc) (intialized : Int) (tbs : Option Nat) :
    p.state = .runnable ∧ (pbsIter k p cand intialized tbs).2.1 = some k ∧
        (intialized = -1 ∨ (cand.map fun q => decide (pcbCompare q p > 0)) = some true) ∨
      (pbsIter k p cand intialized tbs).2.1 = tbs ∧
        (p.state = .runnable → intialized ≠ -1 ∧ (cand.map fun q => decide (pcbCompare q p > 0)) ≠ some true) := by
  unfold pbsIter
  split_ifs with hr hi hc
  · exact .inl ⟨hr, rfl, .inl hi⟩
  · exact .inl ⟨hr, rfl, .inr hc⟩
  · exact .inr ⟨rfl, fun _ => ⟨hi, hc⟩⟩
  · exact .inr ⟨rfl, fun h => absurd h hr⟩

section
variable {cfg : Config} {s t : Kernel} {a : Action} {c j k m : Nat}

theorem schedStep_pbs (hp : cfg.policy = .pbs) (hs : schedStep cfg s c = some t) :
    (s.cpus c).pc = .top ∧ t = s.setCpu c { (s.cpus c) with proc := none, intialized := -1, pc := .loop 0 } ∨
      ∃ k, (s.cpus c).pc = .loop k ∧
        (k < cfg.nproc ∧ t = (lockStep s c k (pbsIter k (s.procs k) ((s.cpus c).toBeScheduled.map s.procs)
            (s.cpus c).intialized (s.cpus c).toBeScheduled).2.2).setCpu c
            { (s.cpus c) with
              intialized := (pbsIter k (s.procs k) ((s.cpus c).toBeScheduled.map s.procs)
                (s.cpus c).intialized (s.cpus c).toBeScheduled).1,
              toBeScheduled := (pbsIter k (s.procs k) ((s.cpus c).toBeScheduled.map s.procs)
                (s.cpus c).intialized (s.cpus c).toBeScheduled).2.1,
              pc := .loop (k + 1) } ∨
          cfg.nproc ≤ k ∧ (s.cpus c).intialized = -1 ∧ t = s.setCpu c { (s.cpus c) with pc := .top } ∨
          cfg.nproc ≤ k ∧ (s.cpus c).intialized ≠ -1 ∧
            ∃ m, (s.cpus c).toBeScheduled = some m ∧ t = dispatch s c m ((s.procs m).onDispatch .pbs s.ticks)) := by
  cases hpc : (s.cpus c).pc <;> simp only [schedStep, hp, hpc] at hs
  case top => exact .inl ⟨rfl, (Option.some.inj hs).symm⟩
  case loop k =>
    refine .inr ⟨k, rfl, ?_⟩
    split_ifs at hs with hk _ hi
    · exact .inl ⟨hk, (Option.some.inj hs).symm⟩
    · exact .inr (.inl ⟨Nat.le_of_not_lt hk, hi, (Option.some.inj hs).symm⟩)
    · split at hs <;> cases hs
      exact .inr (.inr ⟨Nat.le_of_not_lt hk, hi, _, ‹_›, rfl⟩)
  all_goals cases hs

theorem step_pbsFields {c' : Nat} (h : Reachable cfg s) (hs : step cfg s a = some t)
    (hj : j < cfg.nproc) (hlk : (s.procs j).lock = some c') (hc : a.cpu ≠ some c') :
    (t.procs j).pbsFields = (s.procs j).pbsFields := by
  rw [step_locked_slot h.lockInv hs hj hlk hc]; rfl

theorem step_held_pbsFields (h : Reachable cfg s) (hs : step cfg s a = some t) (ha : a ≠ .sched c)
    (hpc : (s.cpus c).pc = .loop k) (hlk : (s.procs m).lock = some c) :
    (t.procs m).pbsFields = (s.procs m).pbsFields := by
  by_cases hac : a.cpu = some c
  · rw [step_own_of_held h hs ha hac hpc hlk]
  · exact step_pbsFields h hs (h.lockOwned.locks m c hlk).1 hlk hac

theorem PbsPassed.step (hp : cfg.policy = .pbs) (h : Reachable cfg s) (hpo : PbsPassed s c j)
    (hj : (s.procs j).state = .runnable) (hs : step cfg s a = some t)
    (hK : (t.procs j).pbsFields = (s.procs j).pbsFields) : PbsPassed t c j := by
  intro k hk hjk
  by_cases ha : a = .sched c
  · subst ha
    rcases schedStep_pbs hp (step_sched hs).2 with ⟨-, rfl⟩ | ⟨k', hpc, ⟨-, rfl⟩ | ⟨-, -, rfl⟩ | ⟨-, -, m', -, rfl⟩⟩
    · simp at hk; omega
    · simp only [Kernel.setCpu_cpus, Function.update_same, CpuPc.loop.injEq, Kernel.setCpu_procs] at hk ⊢
      subst hk
      simp only [pbsBefore_congr (lockStep_pbsFields ..) (lockStep_pbsFields ..)]
      rcases Nat.lt_or_ge j k' with hjk' | hjk'
      · -- past `j`: the candidate is kept, or replaced by one put before it
        obtain ⟨hi, m0, hm0, hn⟩ := hpo k' hpc hjk'
        refine ⟨pbsIter_scanning (.inl hi), ?_⟩
        rcases pbsIter_cand k' (s.procs k') ((s.cpus c).toBeScheduled.map s.procs) (s.cpus c).intialized
          (s.cpus c).toBeScheduled with ⟨-, e, hnew⟩ | ⟨e, -⟩ <;> rw [e]
        · rw [hm0] at hnew
          simp only [hi, false_or, Option.map_some', Option.some.injEq, decide_eq_true_eq,
            pcbCompare_pos_iff] at hnew
          exact ⟨k', rfl, fun hjk => hn (pbsBefore_trans hjk hnew)⟩
        · exact ⟨m0, hm0, hn⟩
      · -- at `j`: the pass takes `j`, or keeps a candidate that `j` is not put before
        obtain rfl : k' = j := by omega
        refine ⟨pbsIter_scanning (.inr hj), ?_⟩
        rcases pbsIter_cand k' (s.procs k') ((s.cpus c).toBeScheduled.map s.procs) (s.cpus c).intialized
          (s.cpus c).toBeScheduled with ⟨-, e, -⟩ | ⟨e, hkeep⟩ <;> rw [e]
        · exact ⟨k', rfl, pbsBefore_irrefl _⟩
        · obtain ⟨hi, hcmp⟩ := hkeep hj
          obtain ⟨m0, -, hm0⟩ := (h.lockOwned.scans c).1 k' hpc ((scanning_pbs hp).mpr hi)
          refine ⟨m0, hm0, fun hb => hcmp ?_⟩
          rw [hm0]; simpa [pcbCompare_pos_iff] using hb
    · simp at hk
    · simp [dispatch] at hk
  · have hcpu := ((step_cpuMove hs c).resolve_left ha).loop (by simp [hp]) hk
    rw [hcpu] at hk ⊢
    obtain ⟨hi, m, hm, hn⟩ := hpo k hk hjk
    have hlk : (s.procs m).lock = some c :=
      h.lockInv c m (held_of_scanning hk ((scanning_pbs hp).mpr hi) hm)
    exact ⟨hi, m, hm, by rwa [pbsBefore_congr hK (step_held_pbsFields h hs ha hk hlk)]⟩

theorem pbsLateSwitch_of_passed (hp : cfg.policy = .pbs) (hjn : j < cfg.nproc) (hpo : PbsPassed s c j)
    (hs : step cfg s a = some t) : pbsLateSwitch (s.procs j) c s t = 0 := by
  by_cases ha : a = .sched c
  · subst ha
    rcases schedStep_pbs hp (step_sched hs).2 with ⟨-, rfl⟩ | ⟨k, hpc, ⟨-, rfl⟩ | ⟨-, -, rfl⟩ | ⟨hk, -, m, hm, rfl⟩⟩
    · exact pbsLateSwitch_of_noSwitch (by simp [switchIn, CpuPc.executing])
    · exact pbsLateSwitch_of_noSwitch (by simp [switchIn, CpuPc.executing])
    · exact pbsLateSwitch_of_noSwitch (by simp [switchIn, CpuPc.executing])
    · obtain ⟨-, m', hm', hn⟩ := hpo k hpc (by omega)
      rw [hm] at hm'; cases hm'
      simp [pbsLateSwitch, dispatch, hn]
  · exact pbsLateSwitch_of_noSwitch ((step_cpuMove hs c).resolve_left ha).noSwitch

theorem pbsLateDispatches_of_passed (hp : cfg.policy = .pbs) (h : Reachable cfg s) (hjn : j < cfg.nproc)
    (hpo : PbsPassed s c j) {as : List Action}
    (hl : holdsAlong cfg (fun u => (u.procs j).state == .runnable && (u.procs j).pbsFields == (s.procs j).pbsFields)
      s as = true) :
    pbsLateDispatches cfg c j s as = 0 := by
  induction as generalizing s with
  | nil => rfl
  | cons a as ih =>
    cases hs : step cfg s a with
    | none => simp [pbsLateDispatches, hs]
    | some t =>
      rw [holdsAlong_cons hs, Bool.and_eq_true] at hl
      have hj : (s.procs j).state = .runnable := by simpa using hl.1
      have hK : (t.procs j).pbsFields = (s.procs j).pbsFields := by
        have := holdsAlong_head hl.2; simp at this; exact this.2
      rw [← hK] at hl
      rw [pbsLateDispatches_cons hs, pbsLateSwitch_of_passed hp hjn hpo hs,
        ih (.step a h hs) (hpo.step hp h hj hs hK) hl.2]

theorem pbs_overtaken_at_most_once (hp : cfg.policy = .pbs) (h : Reachable cfg s) (hjn : j < cfg.nproc)
    {as : List Action}
    (hl : holdsAlong cfg (fun u => (u.procs j).state == .runnable && (u.procs j).pbsFields == (s.procs j).pbsFields)
      s as = true)
    (c : Nat) : pbsLateDispatches cfg c j s as ≤ 1 := by
  induction as generalizing s with
  | nil => simp [pbsLateDispatches]
  | cons a as ih =>
    cases hs : step cfg s a with
    | none => simp [pbsLateDispatches, hs]
    | some t =>
      rw [holdsAlong_cons hs, Bool.and_eq_true] at hl
      have hK : (t.procs j).pbsFields = (s.procs j).pbsFields := by
        have := holdsAlong_head hl.2; simp at this; exact this.2
      have ht : Reachable cfg t := .step a h hs
      rw [← hK] at hl
      rw [pbsLateDispatches_cons hs]
      by_cases hlate : pbsLateSwitch (s.procs j) c s t = 0
      · rw [hlate, Nat.zero_add]; exact ih ht hl.2
      · -- `c` now runs a process, so it is past every pass
        have hx := pbsLateSwitch_executing hlate
        have hpo : PbsPassed t c j := fun k hk _ => by simp [hk, CpuPc.executing] at hx
        rw [pbsLateDispatches_of_passed hp ht hjn hpo hl.2]
        exact pbsLateSwitch_le_one _ _ _ _

end

/-- `initproc` forks a child one tick after its own start, raises the child's
`Static_priority` to 100 with `set_priority_i` and sleeps; CPU 0's next pass goes over its
slot, and a `wakeup` then makes it RUNNABLE again. -/
def pbsWokenSetup : List Action :=
  [.sched 0, .sched 0, .sched 0, .sched 0, .sched 0, .tick, .fork 0 (some (sampleFrame, 1)) true,
    .forkLink 0, .forkRun 0, .setPriority 0 100 2, .sleep 0 .ticks, .park 0, .sched 0, .sched 0,
    .wakeup 0 .ticks]

def pbsWoken : Kernel :=
  (run samplePbs (boot samplePbs sampleFrame 0 1) pbsWokenSetup).getD (boot samplePbs sampleFrame 0 1)

theorem pbs_overtaken_at_most_once_woken :
    Reachable samplePbs pbsWoken ∧
      holdsAlong samplePbs
        (fun u => (u.procs 0).state == .runnable && (u.procs 0).pbsFields == (pbsWoken.procs 0).pbsFields)
        pbsWoken [.sched 0, .sched 0, .sched 0] = true ∧
      pbsLateDispatches samplePbs 0 0 pbsWoken [.sched 0, .sched 0, .sched 0] = 1 :=
  have hr : Reachable samplePbs pbsWoken := (Reachable.boot sampleFrame 0 1).run_getD _ (by decide)
  ⟨hr, by decide, Nat.le_antisymm
    (pbs_overtaken_at_most_once rfl hr (show 0 < samplePbs.nproc by decide) (by decide) 0) (by decide)⟩

end OsnScheduling
