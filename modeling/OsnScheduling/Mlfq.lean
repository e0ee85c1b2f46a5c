import Mathlib.Data.Nat.Find
import OsnScheduling.Scans
import OsnScheduling.Policies

/-!
The MLFQ scheduler's choice. `UpgradePolicy` first, then for the levels `i = 0..3` a scan for
the RUNNABLE slot at level `i` with the least `time_added`, which keeps `minimum_time == 0`
for "none found yet"; when no level has one, the round-robin loop probes `proc[rr_s]` and
moves `rr_s` on, modulo `NPROC`, until it finds a RUNNABLE slot.
-/

namespace OsnScheduling

section
variable {cfg : Config} {s : Kernel} {c : Nat}

/-! ### The round-robin loop -/

theorem Kernel.setCpu_setCpu (s : Kernel) (c : Nat) (x y : Cpu) :
    (s.setCpu c x).setCpu c y = s.setCpu c y := by
  simp only [Kernel.setCpu, Function.update_idem]

theorem rr_run_skip (hp : cfg.policy = .mlfq) (hc : c < cfg.ncpu) (hpc : (s.cpus c).pc = .rr)
    (hrr : (s.cpus c).rrS < cfg.nproc) {d : Nat}
    (hskip : ∀ e < d, ¬ Runnable s (((s.cpus c).rrS + e) % cfg.nproc)) :
    run cfg s (List.replicate d (.sched c)) =
      some (s.setCpu c { (s.cpus c) with rrS := ((s.cpus c).rrS + d) % cfg.nproc }) := by
  induction d with
  | zero =>
    rw [Nat.add_zero, Nat.mod_eq_of_lt hrr]
    simp [OsnScheduling.run, Kernel.setCpu, Function.update_eq_self]
  | succ d ih =>
    rw [run_replicate_succ, ih fun e he => hskip e (Nat.lt_succ_of_lt he)]
    have hd := hskip d (Nat.lt_succ_self d)
    simp only [Runnable] at hd
    simp [step, hc, schedStep, hp, hpc, hd, Kernel.setCpu_setCpu, Nat.add_assoc]

theorem rr_run_hit (hp : cfg.policy = .mlfq) (hc : c < cfg.ncpu) (hpc : (s.cpus c).pc = .rr)
    (hrr : (s.cpus c).rrS < cfg.nproc) {d : Nat}
    (hskip : ∀ e < d, ¬ Runnable s (((s.cpus c).rrS + e) % cfg.nproc))
    (hhit : Runnable s (((s.cpus c).rrS + d) % cfg.nproc)) :
    run cfg s (List.replicate (d + 1) (.sched c)) =
      some (s.setCpu c { (s.cpus c) with
        toBeScheduled := some (((s.cpus c).rrS + d) % cfg.nproc),
        rrS := (((s.cpus c).rrS + d) % cfg.nproc + 1) % cfg.nproc,
        pc := .pick }) := by
  rw [run_replicate_succ, rr_run_skip hp hc hpc hrr hskip]
  simp only [Runnable] at hhit
  simp [step, hc, schedStep, hp, hpc, hhit, Kernel.setCpu_setCpu]

theorem exists_rr_probe (hrr : (s.cpus c).rrS < cfg.nproc) (hrun : ∃ j < cfg.nproc, Runnable s j) :
    ∃ e, e < cfg.nproc ∧ Runnable s (((s.cpus c).rrS + e) % cfg.nproc) := by
  obtain ⟨j, hj, hr⟩ := hrun
  by_cases h : (s.cpus c).rrS ≤ j
  · exact ⟨j - (s.cpus c).rrS, by omega, by rwa [Nat.add_sub_cancel' h, Nat.mod_eq_of_lt hj]⟩
  · refine ⟨j + cfg.nproc - (s.cpus c).rrS, by omega, ?_⟩
    rwa [show (s.cpus c).rrS + (j + cfg.nproc - (s.cpus c).rrS) = j + cfg.nproc by omega,
      Nat.add_mod_right, Nat.mod_eq_of_lt hj]

theorem round_robin_picks_next_runnable (hp : cfg.policy = .mlfq) (hc : c < cfg.ncpu)
    (hpc : (s.cpus c).pc = .rr) (hrr : (s.cpus c).rrS < cfg.nproc)
    (hrun : ∃ j < cfg.nproc, Runnable s j) :
    ∃ d < cfg.nproc,
      (∀ e < d, ¬ Runnable s (((s.cpus c).rrS + e) % cfg.nproc)) ∧
      Runnable s (((s.cpus c).rrS + d) % cfg.nproc) ∧
      run cfg s (List.replicate (d + 1) (.sched c)) =
        some (s.setCpu c { (s.cpus c) with
          toBeScheduled := some (((s.cpus c).rrS + d) % cfg.nproc),
          rrS := (((s.cpus c).rrS + d) % cfg.nproc + 1) % cfg.nproc,
          pc := .pick }) ∧
      (((s.cpus c).rrS + d) % cfg.nproc + 1) % cfg.nproc < cfg.nproc := by
  have hex := exists_rr_probe hrr hrun
  have hskip : ∀ e < Nat.find hex, ¬ Runnable s (((s.cpus c).rrS + e) % cfg.nproc) :=
    fun e he hr => Nat.find_min hex he ⟨Nat.lt_trans he (Nat.find_spec hex).1, hr⟩
  exact ⟨Nat.find hex, (Nat.find_spec hex).1, hskip, (Nat.find_spec hex).2,
    rr_run_hit hp hc hpc hrr hskip (Nat.find_spec hex).2, Nat.mod_lt _ cfg.nproc_pos⟩

end

def sampleRr : Kernel :=
  { boot sampleMlfq1 sampleFrame 0 1 with
    cpus := fun _ => { Cpu.zero with pc := .rr, rrS := 2 } }

theorem round_robin_picks_next_runnable_boot :
    ∃ d < sampleMlfq1.nproc, Runnable sampleRr ((2 + d) % sampleMlfq1.nproc) :=
  let ⟨d, hd, _, hr, _⟩ := round_robin_picks_next_runnable rfl (by decide : 0 < sampleMlfq1.ncpu)
    (rfl : (sampleRr.cpus 0).pc = .rr) (by decide) ⟨0, by decide, by decide⟩
  ⟨d, hd, hr⟩

/-! ### The level scan -/

def AtLevel (s : Kernel) (i k : Nat) : Prop :=
  Runnable s k ∧ (s.procs k).priorityNumber = i

instance (s : Kernel) (i : Nat) : DecidablePred (AtLevel s i) :=
  fun _ => inferInstanceAs (Decidable (_ ∧ _))

def addedBefore (s : Kernel) (k j : Nat) : Prop :=
  u32 (s.procs k).timeAdded < u32 (s.procs j).timeAdded

instance (s : Kernel) : DecidableRel (addedBefore s) := fun _ _ => inferInstanceAs (Decidable (_ < _))

theorem addedBefore_strictWeak (s : Kernel) : StrictWeak (addedBefore s) := by
  refine ⟨fun _ => ?_, fun h h' => ?_, fun _ h => ?_⟩ <;> unfold addedBefore at * <;> omega

def minimumTime (s : Kernel) : Option Nat → Nat
  | none => 0
  | some j => u32 (s.procs j).timeAdded

section
variable {s : Kernel} {P : Nat → Prop} [DecidablePred P] {before : Nat → Nat → Prop}
  [DecidableRel before]

theorem foldl_range_leastBelow {F : Nat × Option Nat → Nat → Nat × Option Nat} (m : Nat)
    (hF : ∀ k < m, F (minimumTime s (leastBelow P before k), leastBelow P before k) k =
      (minimumTime s (leastBelow P before (k + 1)), leastBelow P before (k + 1))) :
    (List.range m).foldl F (0, none) = (minimumTime s (leastBelow P before m), leastBelow P before m) := by
  induction m with
  | zero => rfl
  | succ m ih =>
    rw [List.range_succ, List.foldl_append, ih fun k hk => hF k (Nat.lt_succ_of_lt hk)]
    exact hF m (Nat.lt_succ_self m)

end

variable {cfg : Config} {s : Kernel}

theorem levelPass_eq {i : Nat}
    (h0 : ∀ k < cfg.nproc, AtLevel s i k → u32 (s.procs k).timeAdded ≠ 0) :
    levelPass cfg s i = (minimumTime s (leastBelow (AtLevel s i) (addedBefore s) cfg.nproc),
      leastBelow (AtLevel s i) (addedBefore s) cfg.nproc) := by
  have hb := addedBefore_strictWeak s
  unfold levelPass
  refine foldl_range_leastBelow _ fun k hk => ?_
  simp only [leastBelow]
  by_cases ha : AtLevel s i k
  · have ha' : (s.procs k).state = .runnable ∧ (s.procs k).priorityNumber = i := ha
    cases hc : leastBelow (AtLevel s i) (addedBefore s) k with
    | none => simp only [minimumTime, if_pos ha, if_pos ha', if_true]
    | some j =>
      -- the running minimum so far was added at a nonzero time, so the code's
      -- `minimum_time` guard reduces to the comparison of `addedBefore`
      have hj := h0 j (Nat.lt_trans (leastBelow_lt hb hc) hk) (leastBelow_pass hb hc)
      by_cases hlt : addedBefore s k j
      · simp only [minimumTime, if_pos ha', if_neg hj, if_pos hlt, if_pos (And.intro ha hlt)]
        exact if_pos hlt
      · simp only [minimumTime, if_pos ha', if_neg hj,
          if_neg (fun h : AtLevel s i k ∧ addedBefore s k j => hlt h.2)]
        exact if_neg hlt
  · have ha' : ¬ ((s.procs k).state = .runnable ∧ (s.procs k).priorityNumber = i) := ha
    cases hc : leastBelow (AtLevel s i) (addedBefore s) k with
    | none => simp only [minimumTime, if_neg ha, if_neg ha']
    | some j =>
      simp only [minimumTime, if_neg ha',
        if_neg (fun h : AtLevel s i k ∧ addedBefore s k j => ha h.1)]

theorem findSome?_range_leastBelow (s : Kernel) (n m : Nat) :
    ((List.range m).findSome? (fun i => leastBelow (AtLevel s i) (addedBefore s) n) = none ∧
      ∀ i < m, ∀ k < n, ¬ AtLevel s i k) ∨
    ∃ i < m, ∃ j, (List.range m).findSome? (fun i => leastBelow (AtLevel s i) (addedBefore s) n) = some j ∧
      (∀ i' < i, ∀ k < n, ¬ AtLevel s i' k) ∧ FirstLeast (AtLevel s i) (addedBefore s) n j := by
  induction m with
  | zero => exact .inl ⟨rfl, fun _ h => absurd h (Nat.not_lt_zero _)⟩
  | succ m ih =>
    rw [List.range_succ, List.findSome?_append]
    rcases ih with ⟨hn, hall⟩ | ⟨i, hi, j, hj, hbelow, hfl⟩
    · rw [hn, Option.none_or]
      rcases leastBelow_spec (AtLevel s m) (addedBefore_strictWeak s) n with ⟨hm, hnone⟩ | ⟨j, hm, hfl⟩
      · refine .inl ⟨by simp [hm], fun i hi => ?_⟩
        rcases Nat.lt_succ_iff_lt_or_eq.mp hi with hi | rfl
        exacts [hall i hi, hnone]
      · exact .inr ⟨m, Nat.lt_succ_self m, j, by simp [hm], hall, hfl⟩
    · exact .inr ⟨i, Nat.lt_succ_of_lt hi, j, by rw [hj]; rfl, hbelow, hfl⟩

theorem levelScan_eq (h0 : ∀ i < 4, ∀ k < cfg.nproc, AtLevel s i k → u32 (s.procs k).timeAdded ≠ 0) :
    levelScan cfg s = (List.range 4).findSome? fun i => leastBelow (AtLevel s i) (addedBefore s) cfg.nproc := by
  have hb := addedBefore_strictWeak s
  have hsel : ∀ i < 4, (if (levelPass cfg s i).1 ≠ 0 then (levelPass cfg s i).2 else none) =
      leastBelow (AtLevel s i) (addedBefore s) cfg.nproc := by
    intro i hi
    rw [levelPass_eq (h0 i hi)]
    cases hc : leastBelow (AtLevel s i) (addedBefore s) cfg.nproc with
    | none => rfl
    | some j => simp [minimumTime, h0 i hi j (leastBelow_lt hb hc) (leastBelow_pass hb hc)]
  rw [show List.range 4 = [0, 1, 2, 3] from rfl]
  simp only [levelScan, List.findSome?, hsel 0 (by decide), hsel 1 (by decide), hsel 2 (by decide),
    hsel 3 (by decide)]

theorem mlfq_top_selects_first_least {c : Nat} (hp : cfg.policy = .mlfq) (hc : c < cfg.ncpu)
    (hpc : (s.cpus c).pc = .top)
    (h0 : ∀ i < 4, ∀ k < cfg.nproc, AtLevel (upgradePolicy cfg s) i k →
      u32 ((upgradePolicy cfg s).procs k).timeAdded ≠ 0) :
    ∃ t, step cfg s (.sched c) = some t ∧ t.procs = (upgradePolicy cfg s).procs ∧
      ((∃ i < 4, ∃ j, (t.cpus c).toBeScheduled = some j ∧ (t.cpus c).pc = .pick ∧
          (∀ i' < i, ∀ k < cfg.nproc, ¬ AtLevel (upgradePolicy cfg s) i' k) ∧
          FirstLeast (AtLevel (upgradePolicy cfg s) i) (addedBefore (upgradePolicy cfg s)) cfg.nproc j) ∨
        (t.cpus c).pc = .rr ∧ ∀ i < 4, ∀ k < cfg.nproc, ¬ AtLevel (upgradePolicy cfg s) i k) := by
  rcases findSome?_range_leastBelow (upgradePolicy cfg s) cfg.nproc 4 with
    ⟨hn, hall⟩ | ⟨i, hi, j, hj, hbelow, hfl⟩ <;> rw [← levelScan_eq h0] at *
  · exact ⟨(upgradePolicy cfg s).setCpu c { (s.cpus c) with proc := none, pc := .rr },
      by simp [step, hc, schedStep, hp, hpc, hn], rfl, .inr ⟨by simp, hall⟩⟩
  · refine ⟨(upgradePolicy cfg s).setCpu c
      { (s.cpus c) with proc := none, toBeScheduled := some j, pc := .pick },
      by simp [step, hc, schedStep, hp, hpc, hj], rfl, .inl ⟨i, hi, j, by simp, by simp, hbelow, hfl⟩⟩

def mlfqAddedOne : Kernel :=
  { Kernel.zero with
    ticks := 1
    procs := fun j => if j = 1 then { Proc.zero with state := .runnable, timeAdded := 1 } else Proc.zero }

theorem mlfq_top_selects_first_least_one :
    ∃ t, step sampleMlfq1 mlfqAddedOne (.sched 0) = some t ∧
      t.procs = (upgradePolicy sampleMlfq1 mlfqAddedOne).procs :=
  let ⟨t, h, hp, _⟩ := mlfq_top_selects_first_least rfl (by decide : 0 < sampleMlfq1.ncpu)
    (rfl : (mlfqAddedOne.cpus 0).pc = .top) (by decide)
  ⟨t, h, hp⟩

def mlfqTwoAdded : Kernel :=
  (run sampleMlfq1 (boot sampleMlfq1 sampleFrame 0 1)
    [.sched 0, .sched 0, .sched 0, .tick, .fork 0 (some (sampleFrame, 1)) true, .forkLink 0,
      .forkRun 0, .yield 0]).getD (boot sampleMlfq1 sampleFrame 0 1)

theorem mlfq_level_scan_skips_time_added_zero :
    ∃ s, Reachable sampleMlfq1 s ∧ (s.cpus 0).pc = .top ∧
      AtLevel (upgradePolicy sampleMlfq1 s) 0 0 ∧ AtLevel (upgradePolicy sampleMlfq1 s) 0 1 ∧
      addedBefore (upgradePolicy sampleMlfq1 s) 0 1 ∧
      ∃ s', run sampleMlfq1 s [.sched 0, .sched 0] = some s' ∧ (s'.cpus 0).proc = some 1 ∧
        (s'.procs 1).state = .running ∧ (s'.procs 0).state = .runnable :=
  ⟨_, (Reachable.boot sampleFrame 0 1).run_getD _ (by decide), by decide, by decide, by decide,
    by decide, _, (Option.some_get (by decide : (run sampleMlfq1 mlfqTwoAdded _).isSome)).symm,
    by decide, by decide, by decide⟩

end OsnScheduling
