import OsnScheduling.Slots

/-!
The times `proc.c` keeps per process: `ctime`, stamped by `allocproc`; `rtime`, counted by
`update_time` at each tick the process is RUNNING; and `etime`, stamped by `exit`. `waitx`
reports `etime - ctime - rtime` and `procdump` the same with `ticks` for a process that has
not exited, all in `uint` arithmetic.
-/

namespace OsnScheduling

/-- `*wtime = np->etime - np->ctime - np->rtime` of `waitx`, before the `uint` wrap. -/
def waitxWtime (p : Proc) : Int :=
  (p.etime : Int) - p.ctime - p.rtime

/-- `waittime` of `procdump`, before the `uint` wrap. -/
def procdumpWaittime (ticks : Nat) (p : Proc) : Int :=
  if p.etime = 0 then (ticks : Int) - p.ctime - p.rtime else (p.etime : Int) - p.ctime - p.rtime

structure Proc.TimesOk (ticks : Nat) (p : Proc) : Prop where
  live : p.state ≠ .unused → p.ctime + p.rtime ≤ ticks
  zombie : p.state = .zombie → p.ctime + p.rtime ≤ p.etime
  etime : p.state ≠ .unused → p.state ≠ .zombie → p.etime = 0

theorem Proc.TimesOk.mono {t t' : Nat} {p : Proc} (h : p.TimesOk t) (ht : t ≤ t') : p.TimesOk t' :=
  ⟨fun hu => Nat.le_trans (h.live hu) ht, h.zombie, h.etime⟩

variable {cfg : Config} {s s' : Kernel} {a : Action} {j : Nat}

theorem SlotStep.timesOk (h : SlotStep s s' a j) (hp : (s.procs j).TimesOk s.ticks)
    (ht : s.ticks ≤ s'.ticks) : (s'.procs j).TimesOk s'.ticks := by
  cases h with
  | keep hrec hst =>
    obtain ⟨-, -, hct, het, hrt⟩ := hrec
    have hq := hp.mono ht
    rcases hst with hst | hst
    · exact ⟨by rw [hst, hct, hrt]; exact hq.live, by rw [hst, hct, hrt, het]; exact hq.zombie,
        by rw [hst, het]; exact hq.etime⟩
    · obtain ⟨h1, h2, h3, h4⟩ := runEdge_live hst
      exact ⟨fun _ => by rw [hct, hrt]; exact hq.live h1, fun h => absurd h h4,
        fun _ _ => by rw [het]; exact hq.etime h1 h2⟩
  | alloc _ hused _ hct het hrt =>
    exact ⟨fun _ => by omega, by simp [hused], fun _ _ => het⟩
  | start _ _ hu hr hrec =>
    obtain ⟨-, -, hct, het, hrt⟩ := hrec
    have hq := hp.mono ht
    exact ⟨fun _ => by rw [hct, hrt]; exact hq.live (by simp [hu]), by simp [hr],
      fun _ _ => by rw [het]; exact hq.etime (by simp [hu]) (by simp [hu])⟩
  | unused _ hu' => exact ⟨fun h => absurd hu' h, by simp [hu'], fun h => absurd hu' h⟩
  | exit _ hr hz _ _ hct het hrt =>
    have := hp.live (by simp [hr])
    exact ⟨fun _ => by omega, fun _ => by omega, fun _ h => absurd hz h⟩
  | free _ _ _ _ _ hu' => exact ⟨fun h => absurd hu' h, by simp [hu'], fun h => absurd hu' h⟩
  | tick hr hr' hrt _ _ hct het hticks =>
    have := hp.live (by simp [hr])
    exact ⟨fun _ => by omega, by simp [hr'], fun _ _ => by rw [het]; exact hp.etime (by simp [hr]) (by simp [hr])⟩

theorem Proc.TimesOk.boot (tf : TrapFrame) (pt root j : Nat) :
    ((OsnScheduling.boot cfg tf pt root).procs j).TimesOk (OsnScheduling.boot cfg tf pt root).ticks := by
  by_cases e : j = 0
  · subst e
    have h : ((OsnScheduling.boot cfg tf pt root).procs 0).ctime = 0 ∧ ((OsnScheduling.boot cfg tf pt root).procs 0).rtime = 0 ∧
        ((OsnScheduling.boot cfg tf pt root).procs 0).etime = 0 := by
      simp only [OsnScheduling.boot, userinit, allocproc, firstSlot_zero, allocpid]
      simp [Kernel.zero, Proc.zero]
    exact ⟨fun _ => by omega, fun _ => by omega, fun _ _ => h.2.2⟩
  · rw [boot_procs_ne cfg tf pt root e]
    exact ⟨fun h => absurd rfl h, nofun, fun h _ => absurd rfl h⟩

theorem Reachable.timesOk (hu : MlfqUniprocessor cfg) (h : Reachable cfg s) (j : Nat) :
    (s.procs j).TimesOk s.ticks := by
  induction h with
  | boot tf pt root => exact .boot tf pt root j
  | step a hr hs ih => exact (SlotStep.of_step (hr.wf hu) hs j).timesOk ih (step_counters hs).1

theorem process_times_bounded (hu : MlfqUniprocessor cfg) (h : Reachable cfg s) (j : Nat)
    (hj : (s.procs j).state ≠ .unused) :
    (s.procs j).ctime + (s.procs j).rtime ≤ s.ticks ∧
      ((s.procs j).state = .zombie → (s.procs j).ctime + (s.procs j).rtime ≤ (s.procs j).etime) ∧
      ((s.procs j).state = .zombie → 0 ≤ waitxWtime (s.procs j)) ∧
      0 ≤ procdumpWaittime s.ticks (s.procs j) := by
  have hp := h.timesOk hu j
  have hl := hp.live hj
  refine ⟨hl, hp.zombie, fun hz => ?_, ?_⟩
  · have := hp.zombie hz; simp only [waitxWtime]; omega
  · unfold procdumpWaittime
    split_ifs with he
    · omega
    · by_cases hz : (s.procs j).state = .zombie
      · have := hp.zombie hz; omega
      · exact absurd (hp.etime hj hz) he

theorem process_times_bounded_boot :
    ((boot sampleDefault sampleFrame 0 1).procs 0).state ≠ .unused ∧
      0 ≤ procdumpWaittime (boot sampleDefault sampleFrame 0 1).ticks
        ((boot sampleDefault sampleFrame 0 1).procs 0) :=
  have hj : ((boot sampleDefault sampleFrame 0 1).procs 0).state ≠ .unused := by decide
  ⟨hj, (process_times_bounded (by decide) (.boot sampleFrame 0 1) 0 hj).2.2.2⟩

end OsnScheduling
