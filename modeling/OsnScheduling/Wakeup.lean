import OsnScheduling.Wf

/-!
No lost wakeup in `wait`: a process asleep on its own slot has no ZOMBIE child. `wait`
scans for ZOMBIE children and hands itself to `sleep` in one hold of `wait_lock`, and
`sleep` takes `p->lock` before it drops `wait_lock`; `exit` makes a ZOMBIE and wakes its
parent only when it gets every slot lock. So no child exits between the parent's scan
and its move to SLEEPING.
-/

namespace OsnScheduling

def Waiting (s : Kernel) (k : Nat) : Prop :=
  (s.procs k).state = .sleeping ∧ (s.procs k).chan = some (.proc k)

instance (s : Kernel) (k : Nat) : Decidable (Waiting s k) :=
  inferInstanceAs (Decidable (_ ∧ _))

def NoZombieChild (cfg : Config) (s : Kernel) (k : Nat) : Prop :=
  ∀ j < cfg.nproc, (s.procs j).parent = some k → (s.procs j).state ≠ .zombie

instance (cfg : Config) (s : Kernel) (k : Nat) : Decidable (NoZombieChild cfg s k) :=
  inferInstanceAs (Decidable (∀ j < cfg.nproc, _))

structure WaitInv (cfg : Config) (s : Kernel) : Prop where
  wf : Wf cfg s
  waiting : ∀ k, Waiting s k → k < cfg.nproc ∧ NoZombieChild cfg s k
  handover : ∀ c < cfg.ncpu, ∀ k, (s.cpus c).pc = .sleep (.proc k) →
    (s.cpus c).proc = some k ∧ k < cfg.nproc ∧ NoZombieChild cfg s k

def ZombieKept (cfg : Config) (s s' : Kernel) : Prop :=
  ∀ j < cfg.nproc, (s'.procs j).state = .zombie →
    (s.procs j).state = .zombie ∧ (s'.procs j).parent = (s.procs j).parent

structure Settled (cfg : Config) (s s' : Kernel) : Prop where
  zombie : ZombieKept cfg s s'
  waiting : ∀ k, Waiting s' k → Waiting s k

variable {cfg : Config} {s s' : Kernel} {k : Nat}

theorem NoZombieChild.kept (h : NoZombieChild cfg s k) (hz : ZombieKept cfg s s') :
    NoZombieChild cfg s' k := fun j hj hp hzj =>
  let ⟨h1, h2⟩ := hz j hj hzj
  h j hj (h2 ▸ hp) h1

theorem Settled.of_slots (h : ∀ j, (s'.procs j).state = (s.procs j).state ∧
      (s'.procs j).chan = (s.procs j).chan ∧ (s'.procs j).parent = (s.procs j).parent ∨
      (s'.procs j).state ≠ .sleeping ∧ (s'.procs j).state ≠ .zombie) : Settled cfg s s' where
  zombie j _ hz := by rcases h j with ⟨h1, -, h3⟩ | ⟨-, h2⟩ <;> simp_all
  waiting k hk := by rcases h k with ⟨h1, h2, -⟩ | ⟨h1, -⟩ <;> simp_all [Waiting]

theorem Settled.of_eq (hst : ∀ j, (s'.procs j).state = (s.procs j).state)
    (hch : ∀ j, (s'.procs j).chan = (s.procs j).chan)
    (hpar : ∀ j, (s'.procs j).parent = (s.procs j).parent) : Settled cfg s s' :=
  .of_slots fun j => .inl ⟨hst j, hch j, hpar j⟩

theorem Settled.of_wake (hst : ∀ j, (s'.procs j).state = (s.procs j).state ∨
      (s.procs j).state = .sleeping ∧ (s'.procs j).state = .runnable)
    (hch : ∀ j, (s'.procs j).chan = (s.procs j).chan)
    (hpar : ∀ j, (s'.procs j).parent = (s.procs j).parent) : Settled cfg s s' :=
  .of_slots fun j => by rcases hst j with h1 | ⟨-, h1⟩ <;> simp [h1, hch, hpar]

theorem Waiting.of_wakeup {me : Option Nat} {ch : Option Chan} (h : Waiting (wakeup cfg s me ch) k) :
    Waiting s k := by
  rcases wakeup_state_cases cfg s me ch k with h1 | ⟨-, h1⟩ <;> simp_all [Waiting]

theorem not_waiting_wakeup {me : Option Nat} (hk : k < cfg.nproc) (hme : me ≠ some k) :
    ¬ Waiting (wakeup cfg s me (some (.proc k))) k := by
  simp only [Waiting, wakeup_state, wakeup_chan, WakeHit]
  split_ifs with hw
  · simp
  · exact fun ⟨h1, h2⟩ => hw ⟨hk, Ne.symm hme, h1, h2⟩

theorem Waiting.of_reparent {p : Nat} (h : Waiting (reparent cfg s p) k) :
    Waiting s k ∧ (HasChild cfg s p → k < cfg.nproc → k ≠ p → s.initproc ≠ some k) := by
  unfold reparent at h
  split_ifs at h with hc
  · refine ⟨by simpa [Waiting] using h.of_wakeup, fun _ hk hkp hi => ?_⟩
    rw [hi] at h
    exact not_waiting_wakeup hk (by simpa using hkp.symm) h
  · exact ⟨by simpa [Waiting] using h, fun h' => absurd h' hc⟩

theorem Waiting.of_exitTable {i : Nat} {st : Int} (h : Waiting (exitTable cfg s i st) k) :
    Waiting s k ∧ k ≠ i ∧
      (k < cfg.nproc → ((exitTable cfg s i st).procs i).parent ≠ some k ∧
        (HasChild cfg s i → s.initproc ≠ some k)) := by
  have hki : k ≠ i := by rintro rfl; simp [Waiting] at h
  simp only [exitTable] at h ⊢
  have h2 : Waiting (wakeup cfg (reparent cfg (closeFiles cfg s i) i) (some i)
      (((reparent cfg (closeFiles cfg s i) i).procs i).parent.map .proc)) k := by
    simpa [Waiting, Function.update_noteq hki] using h
  obtain ⟨h1, hinit⟩ := h2.of_wakeup.of_reparent
  refine ⟨by simpa [Waiting] using h1, hki, fun hk => ⟨fun hp => ?_, fun hc => ?_⟩⟩
  · simp only [Kernel.setProc_procs, Function.update_same, wakeup_parent] at hp
    rw [hp] at h2
    exact not_waiting_wakeup hk (by simpa using hki.symm) h2
  · simpa using hinit (by simpa [HasChild] using hc) hk hki

theorem WaitInv.of_step (c : Nat) (h : WaitInv cfg s) (hwf : Wf cfg s') (hz : ZombieKept cfg s s')
    (hw : ∀ k, Waiting s' k → Waiting s k ∨ c < cfg.ncpu ∧ (s.cpus c).pc = .sleep (.proc k))
    (hcpu : ∀ c', c' ≠ c → s'.cpus c' = s.cpus c')
    (hc : c < cfg.ncpu → ∀ k, (s'.cpus c).pc = .sleep (.proc k) →
      (s'.cpus c).proc = some k ∧ k < cfg.nproc ∧ NoZombieChild cfg s k) : WaitInv cfg s' where
  wf := hwf
  waiting k hk := by
    rcases hw k hk with hk | ⟨hc', hpc⟩
    · exact (h.waiting k hk).imp_right (·.kept hz)
    · obtain ⟨-, hlt, hn⟩ := h.handover c hc' k hpc
      exact ⟨hlt, hn.kept hz⟩
  handover c' hc' k hpc := by
    by_cases e : c' = c
    · subst e; exact (hc hc' k hpc).imp_right (And.imp_right (·.kept hz))
    · rw [hcpu c' e] at hpc ⊢
      exact (h.handover c' hc' k hpc).imp_right (And.imp_right (·.kept hz))

theorem WaitInv.of_settled (h : WaitInv cfg s) (hwf : Wf cfg s') (hs : Settled cfg s s')
    (hcpu : s'.cpus = s.cpus) : WaitInv cfg s' :=
  h.of_step 0 hwf hs.zombie (fun k hk => .inl (hs.waiting k hk)) (fun _ _ => by rw [hcpu])
    (fun hc k hpc => by rw [hcpu] at hpc ⊢; exact h.handover 0 hc k hpc)

theorem WaitInv.of_settled_cpu {c : Nat} (h : WaitInv cfg s) (hwf : Wf cfg s') (hs : Settled cfg s s')
    (hcpu : ∀ c', c' ≠ c → s'.cpus c' = s.cpus c') (hc : ∀ k, (s'.cpus c).pc ≠ .sleep (.proc k)) :
    WaitInv cfg s' :=
  h.of_step c hwf hs.zombie (fun k hk => .inl (hs.waiting k hk)) hcpu
    (fun _ k hpc => absurd hpc (hc k))

theorem WaitInv.sleepLock {c i : Nat} {ch : Chan} (h : WaitInv cfg s)
    (hwf : Wf cfg (OsnScheduling.sleepLock s c i ch)) (hr : Runs cfg s c .run i)
    (hch : ∀ k, ch = .proc k → k = i ∧ NoZombieChild cfg s i) :
    WaitInv cfg (OsnScheduling.sleepLock s c i ch) :=
  have hs : Settled cfg s (OsnScheduling.sleepLock s c i ch) := .of_eq (by simp) (by simp) (by simp)
  h.of_step c hwf hs.zombie (fun k hk => .inl (hs.waiting k hk)) (fun c' e => sleepLock_cpus_ne s i ch e)
    (fun _ k hpc => by
      simp only [sleepLock_cpus_self, CpuPc.sleep.injEq] at hpc ⊢
      obtain ⟨rfl, hn⟩ := hch k hpc
      exact ⟨hr.proc_eq, hr.lt, hn⟩)

theorem WaitInv.park {c i : Nat} {ch : Chan} (h : WaitInv cfg s)
    (hwf : Wf cfg (OsnScheduling.park cfg s c i ch)) (hr : Runs cfg s c (.sleep ch) i) :
    WaitInv cfg (OsnScheduling.park cfg s c i ch) := by
  have hz : ZombieKept cfg s (OsnScheduling.park cfg s c i ch) := fun j _ hj => by
    by_cases e : j = i
    · subst e; simp [OsnScheduling.park] at hj
    · simp_all [OsnScheduling.park, Function.update_noteq e]
  refine h.of_step c hwf hz (fun k hk => ?_) (fun c' e => switchOut_cpus_ne _ _ _ e)
    (fun _ k hpc => by simp [OsnScheduling.park] at hpc)
  by_cases e : k = i
  · subst e
    simp [Waiting, OsnScheduling.park] at hk
    exact .inr ⟨hr.cpu_lt, by rw [hr.pc_eq, hk]⟩
  · exact .inl (by simpa [Waiting, OsnScheduling.park, Function.update_noteq e] using hk)

theorem WaitInv.exit {c i : Nat} {st : Int} (h : WaitInv cfg s) (hwf : Wf cfg (exit cfg s c i st))
    (hr : Runs cfg s c .run i) (hfree : AllFree cfg s none) : WaitInv cfg (exit cfg s c i st) where
  wf := hwf
  waiting k hk := by
    obtain ⟨hw, hki, hwk⟩ := Waiting.of_exitTable (by simpa [Waiting, OsnScheduling.exit] using hk)
    obtain ⟨hlt, hn⟩ := h.waiting k hw
    refine ⟨hlt, fun j hj hp hz => ?_⟩
    simp only [OsnScheduling.exit, switchOut_parent, switchOut_state] at hp hz
    by_cases e : j = i
    · subst e; exact (hwk hlt).1 hp
    · rcases exitTable_state_cases cfg s i st e with h1 | ⟨-, h1⟩
      · rw [exitTable_parent] at hp
        split_ifs at hp with hc
        · exact (hwk hlt).2 ⟨j, hc⟩ hp
        · exact hn j hj hp (h1 ▸ hz)
      · simp [h1] at hz
  handover c' hc' k hpc := by
    have e : c' ≠ c := by rintro rfl; simp [OsnScheduling.exit] at hpc
    rw [OsnScheduling.exit, switchOut_cpus_ne _ _ _ e, exitTable_cpus] at hpc
    obtain ⟨hp, hlt, -⟩ := h.handover c' hc' k hpc
    have := h.wf.locks c' k (by simp [Cpu.held, hpc, hp])
    simp [hfree k hlt (by simp)] at this

theorem WaitInv.step {a : Action} (hu : MlfqUniprocessor cfg) (h : WaitInv cfg s)
    (hs : step cfg s a = some s') : WaitInv cfg s' := by
  have hwf := h.wf.step hu hs
  cases a with
  | sched c =>
    have hsc := (step_sched hs).2
    refine h.of_settled_cpu hwf (.of_slots fun j => ?_) (fun c' e => schedStep_cpus_ne hsc e)
      (fun k hk => by rcases schedStep_pc hsc with h1 | h1 | h1 <;> simp [hk, CpuPc.executing] at h1)
    rcases schedStep_procs hsc with h1 | h1 | ⟨j', -, rfl⟩ | ⟨j', -, -, -, -, rfl⟩
    · exact .inl (by rw [h1 j]; exact ⟨rfl, rfl, rfl⟩)
    · exact .inl (by simp [h1])
    all_goals by_cases e : j = j'
    · subst e; exact .inr (by simp [dispatch])
    · exact .inl (by simp [dispatch, Function.update_noteq e])
    · subst e; exact .inr (by simp [halt])
    · exact .inl (by simp [halt, Function.update_noteq e])
  | tick =>
    obtain ⟨-, rfl⟩ := step_tick hs
    exact h.of_settled hwf (.of_eq (by simp [tick]) (by simp [tick]) (by simp [tick])) rfl
  | wakeup c ch =>
    obtain ⟨-, -, -, rfl⟩ := step_wakeup hs
    exact h.of_settled hwf (.of_wake (wakeup_state_cases cfg s _ _) (by simp) (by simp)) rfl
  | fork c page ok =>
    obtain ⟨i, hr, -, hres⟩ := step_fork hs
    have forkAlloc_settled : ∀ j, ((forkAlloc cfg s i page ok).2.procs j).state = (s.procs j).state ∧
        ((forkAlloc cfg s i page ok).2.procs j).chan = (s.procs j).chan ∧
        ((forkAlloc cfg s i page ok).2.procs j).parent = (s.procs j).parent ∨
        ((forkAlloc cfg s i page ok).2.procs j).state ≠ .sleeping ∧
        ((forkAlloc cfg s i page ok).2.procs j).state ≠ .zombie := fun j => by
      by_cases hj : (s.procs j).state = .unused
      · rcases @forkAlloc_state_of_unused cfg s i page ok j hj with h1 | h1 <;> simp [h1]
      · exact .inl (by simp [forkAlloc_procs_of_ne hj])
    rcases hres with ⟨np, hnp, rfl⟩ | ⟨-, rfl⟩
    · refine h.of_settled_cpu hwf (.of_slots fun j => ?_)
        (fun c' (e : c' ≠ c) => by simp [Function.update_noteq e]) (fun k => by simp)
      exact forkAlloc_settled j
    · exact h.of_settled hwf (.of_slots forkAlloc_settled) (by simp)
  | forkLink c =>
    obtain ⟨i, np, hr, rfl⟩ := step_forkLink hs
    have hused : (s.procs np).state = .used := (h.wf.cpus c hr.cpu_lt).child_used (by simp [hr.pc_eq, CpuPc.child])
    refine h.of_settled_cpu hwf (.of_slots fun j => ?_)
      (fun c' (e : c' ≠ c) => by simp [Function.update_noteq e]) (fun k => by simp)
    by_cases e : j = np
    · subst e; exact .inr (by simp [hused])
    · exact .inl (by simp [forkLink_parent, e])
  | forkRun c =>
    obtain ⟨i, np, hr, -, rfl⟩ := step_forkRun hs
    refine h.of_settled_cpu hwf (.of_slots fun j => ?_)
      (fun c' (e : c' ≠ c) => by simp [Function.update_noteq e]) (fun k => by simp)
    by_cases e : j = np
    · subst e; exact .inr (by simp [forkRun_state])
    · exact .inl (by simp [forkRun_state, e])
  | exit c st =>
    obtain ⟨i, hr, -, hfree, rfl⟩ := step_exit hs
    exact h.exit hwf hr hfree
  | wait c addr ok =>
    obtain ⟨i, hr, -, ⟨-, rfl⟩ | ⟨hn, -, rfl⟩⟩ := step_wait hs
    · refine h.of_settled hwf (.of_slots fun j => ?_) (by simp)
      rcases waitScan_procs_cases cfg s i addr ok j with h1 | ⟨-, -, h1⟩
      · exact .inl (by simp [h1])
      · exact .inr (by simp [h1, freeproc])
    · obtain ⟨he, hz⟩ := waitScan_none hn
      rw [he] at hwf ⊢
      refine h.sleepLock hwf hr fun k hk => ⟨by cases hk; rfl, fun j hj hp hzj => ?_⟩
      have := hz j hj
      simp_all [zombieHit]
  | sleep c ch =>
    obtain ⟨i, hr, hch, -, rfl⟩ := step_sleep hs
    exact h.sleepLock hwf hr fun k hk => by subst hk; simp [Chan.isProc] at hch
  | park c =>
    obtain ⟨i, ch, hr, rfl⟩ := step_park hs
    exact h.park hwf hr
  | yield c =>
    obtain ⟨i, -, -, rfl⟩ := step_yield hs
    refine h.of_settled_cpu hwf (.of_slots fun j => ?_) (fun c' e => switchOut_cpus_ne _ _ _ e)
      (fun k => by simp [OsnScheduling.yield])
    by_cases e : j = i
    · subst e; exact .inr (by simp [OsnScheduling.yield])
    · exact .inl (by simp [OsnScheduling.yield, Function.update_noteq e])
  | kill c pid =>
    obtain ⟨i, -, -, rfl⟩ := step_kill hs
    exact h.of_settled hwf (.of_wake (kill_state_cases cfg s pid) (by simp) (by simp)) (by simp)
  | setPriority c prio pid =>
    obtain ⟨i, -, -, rfl⟩ := step_setPriority hs
    exact h.of_settled hwf (.of_eq (by simp) (by simp) (by simp)) (by simp)
  | growproc | fileOpen | fileClose | trapLevel =>
    obtain ⟨i, ho⟩ := step_own hs rfl
    exact h.of_settled hwf (.of_eq (fun j => by rw [ho.procs j]) (fun j => by rw [ho.procs j])
      fun j => by rw [ho.procs j]) ho.cpus

theorem WaitInv.boot (tf : TrapFrame) (pt root : Nat) :
    WaitInv cfg (OsnScheduling.boot cfg tf pt root) where
  wf := Wf.boot tf pt root
  waiting k hk := by
    have hs := hk.1
    by_cases e : k = 0
    · subst e; simp at hs
    · simp [boot_procs_ne cfg tf pt root e, Proc.zero] at hs
  handover c _ k hpc := by simp [OsnScheduling.boot, Kernel.zero, Cpu.zero] at hpc

theorem Reachable.waitInv (hu : MlfqUniprocessor cfg) (h : Reachable cfg s) : WaitInv cfg s := by
  induction h with
  | boot tf pt root => exact WaitInv.boot tf pt root
  | step a _ hs ih => exact ih.step hu hs

theorem waiting_no_zombie_child (hu : MlfqUniprocessor cfg) (h : Reachable cfg s)
    (hw : Waiting s k) : NoZombieChild cfg s k :=
  ((h.waitInv hu).waiting k hw).2

def initWaiting : Kernel :=
  (run sampleDefault (boot sampleDefault sampleFrame 0 1)
    [.sched 0, .sched 0, .fork 0 (some (sampleFrame, 1)) true, .forkLink 0, .forkRun 0,
     .wait 0 0 true, .park 0]).getD (boot sampleDefault sampleFrame 0 1)

theorem init_waits_for_running_child :
    MlfqUniprocessor sampleDefault ∧ Reachable sampleDefault initWaiting ∧ Waiting initWaiting 0 ∧
      NoZombieChild sampleDefault initWaiting 0 :=
  have hu : MlfqUniprocessor sampleDefault := by decide
  have hr : Reachable sampleDefault initWaiting := (Reachable.boot sampleFrame 0 1).run_getD _ (by decide)
  have hw : Waiting initWaiting 0 := by decide
  ⟨hu, hr, hw, waiting_no_zombie_child hu hr hw⟩

end OsnScheduling
