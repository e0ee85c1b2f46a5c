import OsnScheduling.Locks

/-!
Well-formedness of the CPUs against the table, for every policy on any number of CPUs and
for MLFQ on one CPU: a CPU runs a RUNNING slot that no other CPU runs, a fork child stays
USED and unlinked until its parent links it, and the slot a scheduler is about to
dispatch (the FCFS or PBS candidate whose lock it holds, or the MLFQ pick) is RUNNABLE.
MLFQ picks its slot in a scan that holds no lock; on one CPU nothing can run between the
scan and the dispatch.
-/

namespace OsnScheduling

def MlfqUniprocessor (cfg : Config) : Prop :=
  cfg.policy = .mlfq → cfg.ncpu = 1

instance (cfg : Config) : Decidable (MlfqUniprocessor cfg) :=
  inferInstanceAs (Decidable (_ → _))

def RunsRunning (cfg : Config) (s : Kernel) (x : Cpu) : Prop :=
  ∃ i, x.proc = some i ∧ i < cfg.nproc ∧ (s.procs i).state = .running

def Ready (cfg : Config) (s : Kernel) (j : Nat) : Prop :=
  j < cfg.nproc ∧ (s.procs j).state = .runnable

def CpuOk (cfg : Config) (s : Kernel) (x : Cpu) : Prop :=
  x.rrS < cfg.nproc ∧
  match x.pc with
  | .top => True
  | .loop k => k ≤ cfg.nproc ∧ cfg.policy ≠ .mlfq ∧
      ∀ j, Scanning cfg.policy x → x.toBeScheduled = some j → Ready cfg s j
  | .rr => cfg.policy = .mlfq
  | .pick => cfg.policy = .mlfq ∧ ∀ j, x.toBeScheduled = some j → Ready cfg s j
  | .run | .sleep _ => RunsRunning cfg s x
  | .forkLink np => RunsRunning cfg s x ∧ np < cfg.nproc ∧ (s.procs np).state = .used ∧
      (s.procs np).parent = none
  | .forkRun np => RunsRunning cfg s x ∧ np < cfg.nproc ∧ (s.procs np).state = .used ∧
      (s.procs np).parent = x.proc
  | .halted => False

structure Wf (cfg : Config) (s : Kernel) : Prop where
  locks : LockInv cfg s
  cpus : ∀ c < cfg.ncpu, CpuOk cfg s (s.cpus c)
  running : ∀ c₁ < cfg.ncpu, ∀ c₂ < cfg.ncpu, (s.cpus c₁).pc.executing →
    (s.cpus c₂).pc.executing → (s.cpus c₁).proc = (s.cpus c₂).proc → c₁ = c₂
  child : ∀ c₁ < cfg.ncpu, ∀ c₂ < cfg.ncpu, ∀ np, (s.cpus c₁).pc.child = some np →
    (s.cpus c₂).pc.child = some np → c₁ = c₂
  free : ∀ j, (s.procs j).state = .unused → (s.procs j).parent = none

def Claims (pol : Policy) (x : Cpu) (j : Nat) : Prop :=
  (x.pc.executing ∧ x.proc = some j) ∨ x.pc.child = some j ∨
    (x.toBeScheduled = some j ∧ (x.pc = .pick ∨ (∃ k, x.pc = .loop k) ∧ Scanning pol x))

variable {cfg : Config} {s s' : Kernel} {x : Cpu}

theorem CpuOk.frame (h : CpuOk cfg s x)
    (hst : ∀ j, Claims cfg.policy x j → (s'.procs j).state = (s.procs j).state)
    (hpar : ∀ np, x.pc.child = some np → (s'.procs np).parent = (s.procs np).parent) :
    CpuOk cfg s' x := by
  obtain ⟨hrr, h⟩ := h
  refine ⟨hrr, ?_⟩
  have hrun : x.pc.executing → RunsRunning cfg s x → RunsRunning cfg s' x :=
    fun he ⟨i, hi, hlt, hr⟩ => ⟨i, hi, hlt, (hst i (.inl ⟨he, hi⟩)).trans hr⟩
  have hready : ∀ j, Claims cfg.policy x j → Ready cfg s j → Ready cfg s' j :=
    fun j hc ⟨hlt, hr⟩ => ⟨hlt, (hst j hc).trans hr⟩
  cases hpc : x.pc with
  | top => trivial
  | loop k =>
    simp only [hpc] at h ⊢
    exact ⟨h.1, h.2.1, fun j hs ht =>
      hready j (.inr (.inr ⟨ht, .inr ⟨⟨k, hpc⟩, hs⟩⟩)) (h.2.2 j hs ht)⟩
  | rr => simpa [hpc] using h
  | pick =>
    simp only [hpc] at h ⊢
    exact ⟨h.1, fun j ht => hready j (.inr (.inr ⟨ht, .inl hpc⟩)) (h.2 j ht)⟩
  | run => simp only [hpc] at h ⊢; exact hrun (by simp [hpc, CpuPc.executing]) h
  | sleep ch => simp only [hpc] at h ⊢; exact hrun (by simp [hpc, CpuPc.executing]) h
  | forkLink np =>
    simp only [hpc] at h ⊢
    have hc : x.pc.child = some np := by simp [hpc, CpuPc.child]
    refine ⟨hrun (by simp [hpc, CpuPc.executing]) h.1, h.2.1, ?_, ?_⟩
    · rw [hst np (.inr (.inl hc))]; exact h.2.2.1
    · rw [hpar np hc]; exact h.2.2.2
  | forkRun np =>
    simp only [hpc] at h ⊢
    have hc : x.pc.child = some np := by simp [hpc, CpuPc.child]
    refine ⟨hrun (by simp [hpc, CpuPc.executing]) h.1, h.2.1, ?_, ?_⟩
    · rw [hst np (.inr (.inl hc))]; exact h.2.2.1
    · rw [hpar np hc]; exact h.2.2.2
  | halted => simp [hpc] at h

theorem CpuOk.runsRunning (h : CpuOk cfg s x) (he : x.pc.executing) : RunsRunning cfg s x := by
  obtain ⟨-, h⟩ := h
  cases hpc : x.pc <;> simp only [hpc, CpuPc.executing, Bool.false_eq_true] at h he
  · exact h
  · exact h
  · exact h.1
  · exact h.1

theorem CpuOk.child_used {np : Nat} (h : CpuOk cfg s x) (hch : x.pc.child = some np) :
    (s.procs np).state = .used := by
  obtain ⟨-, h⟩ := h
  cases hpc : x.pc <;> simp only [hpc, CpuPc.child, reduceCtorEq, Option.some.injEq] at h hch <;>
    (subst hch; exact h.2.2.1)

theorem CpuOk.claims {j : Nat} (h : CpuOk cfg s x) (hc : Claims cfg.policy x j) :
    (s.procs j).state = .running ∧ x.pc.executing ∧ x.proc = some j ∨
      (s.procs j).state = .used ∧ x.pc.child = some j ∨
      (s.procs j).state = .runnable ∧ x.toBeScheduled = some j ∧
        (x.pc = .pick ∨ (∃ k, x.pc = .loop k) ∧ Scanning cfg.policy x) := by
  rcases hc with ⟨he, hp⟩ | hch | ⟨ht, hpk⟩
  · obtain ⟨i, hi, -, hr⟩ := h.runsRunning he
    exact .inl ⟨by simp_all, he, hp⟩
  · exact .inr (.inl ⟨h.child_used hch, hch⟩)
  · refine .inr (.inr ⟨?_, ht, hpk⟩)
    obtain ⟨-, h⟩ := h
    rcases hpk with hpk | ⟨⟨k, hpk⟩, hs⟩
    · simp only [hpk] at h; exact (h.2 j ht).2
    · simp only [hpk] at h; exact (h.2.2 j hs ht).2

theorem Wf.unclaimed {c j : Nat} (h : Wf cfg s) (hc : c < cfg.ncpu)
    (hj : (s.procs j).state = .sleeping ∨ (s.procs j).state = .unused ∨
      (s.procs j).state = .zombie) : ¬ Claims cfg.policy (s.cpus c) j := fun hcl => by
  rcases (h.cpus c hc).claims hcl with ⟨h1, -⟩ | ⟨h1, -⟩ | ⟨h1, -⟩ <;> rcases hj with h2 | h2 | h2 <;>
    simp_all

theorem Wf.unclaimed_running {c c' i : Nat} (h : Wf cfg s) (hc : c < cfg.ncpu) (hc' : c' < cfg.ncpu)
    (hne : c' ≠ c) (he : (s.cpus c).pc.executing) (hi : (s.cpus c).proc = some i) :
    ¬ Claims cfg.policy (s.cpus c') i := fun hcl => by
  obtain ⟨i', hi', -, hr⟩ := (h.cpus c hc).runsRunning he
  rcases (h.cpus c' hc').claims hcl with ⟨-, he', hp'⟩ | ⟨h1, -⟩ | ⟨h1, -⟩
  · exact hne (h.running c' hc' c hc he' he (hp'.trans hi.symm))
  · simp_all
  · simp_all

theorem Wf.unclaimed_child {c c' np : Nat} (h : Wf cfg s) (hc : c < cfg.ncpu) (hc' : c' < cfg.ncpu)
    (hne : c' ≠ c) (hch : (s.cpus c).pc.child = some np) : ¬ Claims cfg.policy (s.cpus c') np :=
    fun hcl => by
  have hu := (h.cpus c hc).child_used hch
  rcases (h.cpus c' hc').claims hcl with ⟨h1, -⟩ | ⟨-, h1⟩ | ⟨h1, -⟩
  · simp_all
  · exact hne (h.child c' hc' c hc np h1 hch)
  · simp_all

theorem Wf.frame {c : Nat} (h : Wf cfg s) (hl : LockInv cfg s')
    (hcpu : ∀ c', c' ≠ c → s'.cpus c' = s.cpus c')
    (hst : ∀ c' < cfg.ncpu, c' ≠ c → ∀ j, Claims cfg.policy (s.cpus c') j →
      (s'.procs j).state = (s.procs j).state)
    (hpar : ∀ c' < cfg.ncpu, c' ≠ c → ∀ np, (s.cpus c').pc.child = some np →
      (s'.procs np).parent = (s.procs np).parent)
    (hx : c < cfg.ncpu → CpuOk cfg s' (s'.cpus c))
    (hex : (s'.cpus c).pc.executing → ∀ c' < cfg.ncpu, c' ≠ c → (s.cpus c').pc.executing →
      (s.cpus c').proc ≠ (s'.cpus c).proc)
    (hch : ∀ np, (s'.cpus c).pc.child = some np → ∀ c' < cfg.ncpu, c' ≠ c →
      (s.cpus c').pc.child ≠ some np)
    (hfree : ∀ j, (s'.procs j).state = .unused → (s'.procs j).parent = none) : Wf cfg s' := by
  refine ⟨hl, fun c' hc' => ?_, fun c₁ h₁ c₂ h₂ e₁ e₂ hp => ?_, fun c₁ h₁ c₂ h₂ np e₁ e₂ => ?_,
    hfree⟩
  · by_cases e : c' = c
    · subst e; exact hx hc'
    · rw [hcpu c' e]
      exact (h.cpus c' hc').frame (hst c' hc' e) (hpar c' hc' e)
  · by_cases n₁ : c₁ = c <;> by_cases n₂ : c₂ = c
    · rw [n₁, n₂]
    · subst n₁; rw [hcpu c₂ n₂] at e₂ hp; exact absurd hp.symm (hex e₁ c₂ h₂ n₂ e₂)
    · subst n₂; rw [hcpu c₁ n₁] at e₁ hp; exact absurd hp (hex e₂ c₁ h₁ n₁ e₁)
    · rw [hcpu c₁ n₁] at e₁ hp; rw [hcpu c₂ n₂] at e₂ hp
      exact h.running c₁ h₁ c₂ h₂ e₁ e₂ hp
  · by_cases n₁ : c₁ = c <;> by_cases n₂ : c₂ = c
    · rw [n₁, n₂]
    · subst n₁; rw [hcpu c₂ n₂] at e₂; exact absurd e₂ (hch np e₁ c₂ h₂ n₂)
    · subst n₂; rw [hcpu c₁ n₁] at e₁; exact absurd e₁ (hch np e₂ c₁ h₁ n₁)
    · rw [hcpu c₁ n₁] at e₁; rw [hcpu c₂ n₂] at e₂
      exact h.child c₁ h₁ c₂ h₂ np e₁ e₂

theorem Wf.quiet (h : Wf cfg s) (hl : LockInv cfg s') (hcpu : s'.cpus = s.cpus)
    (hq : ∀ j, (s'.procs j).state ≠ (s.procs j).state ∨ (s'.procs j).parent ≠ (s.procs j).parent →
      (s.procs j).state = .sleeping ∨ (s.procs j).state = .unused ∨ (s.procs j).state = .zombie)
    (hfree : ∀ j, (s'.procs j).state = .unused → (s'.procs j).parent = none ∨
      (s.procs j).state = .unused ∧ (s'.procs j).parent = (s.procs j).parent) : Wf cfg s' := by
  have keep : ∀ c < cfg.ncpu, ∀ j, Claims cfg.policy (s.cpus c) j →
      (s'.procs j).state = (s.procs j).state ∧ (s'.procs j).parent = (s.procs j).parent :=
    fun c hc j hcl => by
      by_contra hne
      exact h.unclaimed hc (hq j (not_and_or.mp hne)) hcl
  refine ⟨hl, fun c hc => ?_, ?_, ?_, fun j hj => ?_⟩
  · rw [hcpu]
    exact (h.cpus c hc).frame (fun j hcl => (keep c hc j hcl).1)
      (fun np hch => (keep c hc np (.inr (.inl hch))).2)
  · simpa only [hcpu] using h.running
  · simpa only [hcpu] using h.child
  · rcases hfree j hj with h1 | ⟨h1, h2⟩
    · exact h1
    · rw [h2]; exact h.free j h1

theorem Wf.same (h : Wf cfg s) (hl : LockInv cfg s') (hcpu : s'.cpus = s.cpus)
    (hst : ∀ j, (s'.procs j).state = (s.procs j).state)
    (hpar : ∀ j, (s'.procs j).parent = (s.procs j).parent) : Wf cfg s' :=
  h.quiet hl hcpu (fun j hj => by simp [hst, hpar] at hj)
    (fun j hj => .inr ⟨(hst j).symm.trans hj, hpar j⟩)

theorem Wf.sched_local {c : Nat} (h : Wf cfg s) (hl : LockInv cfg s')
    (hcpu : ∀ c', c' ≠ c → s'.cpus c' = s.cpus c')
    (hst : ∀ j, (s'.procs j).state = (s.procs j).state)
    (hpar : ∀ j, (s'.procs j).parent = (s.procs j).parent)
    (hx : CpuOk cfg s' (s'.cpus c)) (hex : (s'.cpus c).pc.executing = false)
    (hch : (s'.cpus c).pc.child = none) : Wf cfg s' := by
  refine ⟨hl, fun c' hc' => ?_, fun c₁ h₁ c₂ h₂ e₁ e₂ hp => ?_, fun c₁ h₁ c₂ h₂ np e₁ e₂ => ?_,
    fun j hj => ?_⟩
  · by_cases e : c' = c
    · subst e; exact hx
    · rw [hcpu c' e]
      exact (h.cpus c' hc').frame (fun j _ => hst j) (fun np _ => hpar np)
  · have n₁ : c₁ ≠ c := by rintro rfl; simp [hex] at e₁
    have n₂ : c₂ ≠ c := by rintro rfl; simp [hex] at e₂
    rw [hcpu c₁ n₁] at e₁ hp; rw [hcpu c₂ n₂] at e₂ hp
    exact h.running c₁ h₁ c₂ h₂ e₁ e₂ hp
  · have n₁ : c₁ ≠ c := by rintro rfl; simp [hch] at e₁
    have n₂ : c₂ ≠ c := by rintro rfl; simp [hch] at e₂
    rw [hcpu c₁ n₁] at e₁; rw [hcpu c₂ n₂] at e₂
    exact h.child c₁ h₁ c₂ h₂ np e₁ e₂
  · rw [hpar]; exact h.free j ((hst j).symm.trans hj)

theorem Wf.setCpu {c : Nat} {x' : Cpu} (h : Wf cfg s) (hl : LockInv cfg (s.setCpu c x'))
    (hx : CpuOk cfg s x') (hex : x'.pc.executing = false) (hch : x'.pc.child = none) :
    Wf cfg (s.setCpu c x') := by
  have hx' : CpuOk cfg (s.setCpu c x') x' := hx.frame (fun _ _ => rfl) (fun _ _ => rfl)
  exact h.sched_local hl (fun c' (e : c' ≠ c) => by simp [Function.update_noteq e]) (fun _ => rfl)
    (fun _ => rfl) (by simpa using hx') (by simpa using hex) (by simpa using hch)

theorem Wf.dispatch {c j : Nat} {p : Proc} (h : Wf cfg s) (hc : c < cfg.ncpu)
    (hl : LockInv cfg (OsnScheduling.dispatch s c j p)) (hj : Ready cfg s j)
    (hp : p.parent = (s.procs j).parent)
    (hunc : ∀ c' < cfg.ncpu, c' ≠ c → ¬ Claims cfg.policy (s.cpus c') j)
    (hex : (s.cpus c).pc.executing = false) : Wf cfg (OsnScheduling.dispatch s c j p) := by
  have hst : ∀ i, i ≠ j → ((OsnScheduling.dispatch s c j p).procs i) = s.procs i := fun i e => by
    simp [OsnScheduling.dispatch, Function.update_noteq e]
  have hpar : ∀ i, ((OsnScheduling.dispatch s c j p).procs i).parent = (s.procs i).parent := by
    intro i
    by_cases e : i = j
    · subst e; simp [OsnScheduling.dispatch, hp]
    · rw [hst i e]
  have hcpu : ∀ c', c' ≠ c → (OsnScheduling.dispatch s c j p).cpus c' = s.cpus c' := fun c' e => by
    simp [OsnScheduling.dispatch, Function.update_noteq e]
  have hrun : ∀ c' < cfg.ncpu, c' ≠ c → (s.cpus c').pc.executing → (s.cpus c').proc ≠ some j :=
    fun c' hc' _ he hp' => hunc c' hc' ‹_› (.inl ⟨he, hp'⟩)
  refine ⟨hl, fun c' hc' => ?_, fun c₁ h₁ c₂ h₂ e₁ e₂ hp' => ?_, fun c₁ h₁ c₂ h₂ np e₁ e₂ => ?_,
    fun i hi => ?_⟩
  · by_cases e : c' = c
    · subst e
      refine ⟨by simpa [OsnScheduling.dispatch] using (h.cpus c' hc).1, ?_⟩
      simp only [OsnScheduling.dispatch, Kernel.setCpu_cpus, Function.update_same]
      exact ⟨j, rfl, hj.1, by simp [OsnScheduling.dispatch]⟩
    · rw [hcpu c' e]
      refine (h.cpus c' hc').frame (fun i hcl => ?_) (fun np _ => hpar np)
      have : i ≠ j := by rintro rfl; exact hunc c' hc' e hcl
      rw [hst i this]
  · by_cases n₁ : c₁ = c <;> by_cases n₂ : c₂ = c
    · rw [n₁, n₂]
    · subst n₁
      rw [hcpu c₂ n₂] at e₂ hp'
      exact absurd (by simpa [OsnScheduling.dispatch] using hp'.symm) (hrun c₂ h₂ n₂ e₂)
    · subst n₂
      rw [hcpu c₁ n₁] at e₁ hp'
      exact absurd (by simpa [OsnScheduling.dispatch] using hp') (hrun c₁ h₁ n₁ e₁)
    · rw [hcpu c₁ n₁] at e₁ hp'; rw [hcpu c₂ n₂] at e₂ hp'
      exact h.running c₁ h₁ c₂ h₂ e₁ e₂ hp'
  · have n₁ : c₁ ≠ c := by rintro rfl; simp [OsnScheduling.dispatch, CpuPc.child] at e₁
    have n₂ : c₂ ≠ c := by rintro rfl; simp [OsnScheduling.dispatch, CpuPc.child] at e₂
    rw [hcpu c₁ n₁] at e₁; rw [hcpu c₂ n₂] at e₂
    exact h.child c₁ h₁ c₂ h₂ np e₁ e₂
  · by_cases e : i = j
    · subst e; simp [OsnScheduling.dispatch] at hi
    · rw [hst i e] at hi ⊢; exact h.free i hi

theorem Wf.no_other_pick {c c' : Nat} (hu : MlfqUniprocessor cfg) (h : Wf cfg s) (hc : c < cfg.ncpu)
    (hc' : c' < cfg.ncpu) (hne : c' ≠ c) : (s.cpus c').pc ≠ .pick := fun hp => by
  by_cases hm : cfg.policy = .mlfq
  · have := hu hm; omega
  · have := (h.cpus c' hc').2; simp only [hp] at this; exact hm this.1

theorem Wf.unclaimed_ready {c c' j : Nat} (hu : MlfqUniprocessor cfg) (h : Wf cfg s)
    (hc : c < cfg.ncpu) (hc' : c' < cfg.ncpu) (hne : c' ≠ c) (hj : (s.procs j).state = .runnable)
    (hlk : (s.procs j).lock = none ∨ (s.procs j).lock = some c) :
    ¬ Claims cfg.policy (s.cpus c') j := fun hcl => by
  rcases (h.cpus c' hc').claims hcl with ⟨h1, -⟩ | ⟨h1, -⟩ | ⟨-, ht, hpk | ⟨⟨k, hpk⟩, hsc⟩⟩
  · simp_all
  · simp_all
  · exact h.no_other_pick hu hc hc' hne hpk
  · have := h.locks c' j (by simp [Cpu.held, hpk, hsc, ht])
    rcases hlk with hl | hl <;> rw [hl] at this <;> simp_all

theorem Wf.sched {c : Nat} (hu : MlfqUniprocessor cfg) (h : Wf cfg s) (hc : c < cfg.ncpu)
    (hs : schedStep cfg s c = some s') : Wf cfg s' := by
  have hl := h.locks.sched hs
  obtain ⟨hrr, hok⟩ := h.cpus c hc
  simp only [OsnScheduling.schedStep] at hs
  split at hs
  · rename_i hpol hpc
    cases hs
    exact h.setCpu hl ⟨hrr, by simp [hpol, Scanning]⟩ rfl rfl
  · rename_i k hpol hpc
    simp only [hpc] at hok
    split_ifs at hs with hk hlk hr <;> cases hs
    · refine h.dispatch hc hl ⟨hk, hr⟩ rfl
        (fun c' hc' hne => h.unclaimed_ready hu hc hc' hne hr (.inl hlk)) (by simp [hpc, CpuPc.executing])
    · exact h.setCpu hl ⟨hrr, by simp [hpol, Scanning]; omega⟩ rfl rfl
    · exact h.setCpu hl ⟨hrr, by simp [hpol, Scanning]⟩ rfl rfl
  · rename_i hpol hpc
    cases hs
    exact h.setCpu hl ⟨hrr, by simp [hpol, Scanning]⟩ rfl rfl
  · rename_i k hpol hpc
    simp only [hpc] at hok
    split_ifs at hs with hk hlk hfs
    · cases hs
      refine h.sched_local hl (fun c' (e : c' ≠ c) => by simp [Function.update_noteq e])
        (by simp) (by simp) ⟨by simpa using hrr, ?_⟩ (by simp [CpuPc.executing])
        (by simp [CpuPc.child])
      simp only [Kernel.setCpu_cpus, Function.update_same]
      refine ⟨by omega, by simp [hpol], fun j hsc ht => ?_⟩
      rcases fcfsIter_cases k (s.procs k) (s.cpus c).firstStart (s.cpus c).toBeScheduled with
        ⟨hr, h1, -⟩ | ⟨h1, h2, -⟩
      · rw [h1] at ht; cases ht
        exact ⟨hk, by simpa using hr⟩
      · rw [h2] at ht
        have hr := hok.2.2 j (by simpa [Scanning, h1] using hsc) ht
        exact ⟨hr.1, by simpa using hr.2⟩
    · cases hs; exact h.setCpu hl ⟨hrr, by simp [hpol, Scanning]⟩ rfl rfl
    · split at hs <;> cases hs
      rename_i j hj
      have hsc : Scanning cfg.policy (s.cpus c) := .inl ⟨hpol, hfs⟩
      have hr := hok.2.2 j hsc hj
      exact h.dispatch hc hl hr rfl (fun c' hc' hne => h.unclaimed_ready hu hc hc' hne hr.2
        (.inr (h.locks c j (by simp [Cpu.held, hpc, hsc, hj])))) (by simp [hpc, CpuPc.executing])
  · rename_i hpol hpc
    cases hs
    exact h.setCpu hl ⟨hrr, by simp [hpol, Scanning]⟩ rfl rfl
  · rename_i k hpol hpc
    simp only [hpc] at hok
    split_ifs at hs with hk hlk hfs
    · cases hs
      refine h.sched_local hl (fun c' (e : c' ≠ c) => by simp [Function.update_noteq e])
        (by simp) (by simp) ⟨by simpa using hrr, ?_⟩ (by simp [CpuPc.executing])
        (by simp [CpuPc.child])
      simp only [Kernel.setCpu_cpus, Function.update_same]
      refine ⟨by omega, by simp [hpol], fun j hsc ht => ?_⟩
      rcases pbsIter_cases k (s.procs k) ((s.cpus c).toBeScheduled.map s.procs)
          (s.cpus c).intialized (s.cpus c).toBeScheduled with ⟨hr, h1, -⟩ | ⟨h1, h2, -⟩
      · rw [h1] at ht; cases ht
        exact ⟨hk, by simpa using hr⟩
      · rw [h2] at ht
        have hr := hok.2.2 j (by simpa [Scanning, h1] using hsc) ht
        exact ⟨hr.1, by simpa using hr.2⟩
    · cases hs; exact h.setCpu hl ⟨hrr, by simp [hpol, Scanning]⟩ rfl rfl
    · split at hs <;> cases hs
      rename_i j hj
      have hsc : Scanning cfg.policy (s.cpus c) := .inr ⟨hpol, hfs⟩
      have hr := hok.2.2 j hsc hj
      exact h.dispatch hc hl hr (by simp) (fun c' hc' hne => h.unclaimed_ready hu hc hc' hne hr.2
        (.inr (h.locks c j (by simp [Cpu.held, hpc, hsc, hj])))) (by simp [hpc, CpuPc.executing])
  · rename_i hpol hpc
    have hup : Wf cfg (upgradePolicy cfg s) :=
      h.same (h.locks.of_locks rfl (upgradePolicy_lock cfg s)) rfl (by simp) (by simp)
    split at hs <;> cases hs
    · rename_i j hj
      obtain ⟨hlt, hr⟩ := levelScan_some hj
      exact hup.setCpu hl ⟨hrr, hpol, fun j' hj' => by cases hj'; exact ⟨hlt, hr⟩⟩ rfl rfl
    · exact hup.setCpu hl ⟨hrr, hpol⟩ rfl rfl
  · rename_i hpol hpc
    have hpol' : cfg.policy = .mlfq := by simpa [hpc] using hok
    split_ifs at hs with hr <;> cases hs
    · exact h.setCpu hl ⟨Nat.mod_lt _ cfg.nproc_pos, hpol', fun j hj => by cases hj; exact ⟨hrr, hr⟩⟩
        rfl rfl
    · exact h.setCpu hl ⟨Nat.mod_lt _ cfg.nproc_pos, by simpa [hpc] using hpol'⟩
        (by simp [hpc, CpuPc.executing]) (by simp [hpc, CpuPc.child])
  · rename_i hpol hpc
    simp only [hpc] at hok
    split at hs
    · rename_i j hj
      have hr := hok.2 j hj
      split_ifs at hs with hlk hres <;> cases hs
      · exact h.dispatch hc hl hr (by simp) (fun c' hc' hne => h.unclaimed_ready hu hc hc' hne hr.2
          (.inl hlk)) (by simp [hpc, CpuPc.executing])
      · simp [hr.2, ProcState.resumable] at hres
    · cases hs
  · cases hs

theorem Cpu.resume_ok {i : Nat} (hi : i < cfg.nproc) (hrr : x.rrS < cfg.nproc) :
    CpuOk cfg s (x.resume cfg.policy i) := by
  unfold Cpu.resume
  split
  · rename_i hpol
    exact ⟨hrr, by omega, by simp [hpol], fun j hs => absurd hs.policy (by simp [hpol])⟩
  · exact ⟨hrr, trivial⟩

@[simp] theorem Cpu.resume_executing (pol : Policy) (x : Cpu) (i : Nat) :
    (x.resume pol i).pc.executing = false := by
  unfold Cpu.resume; split <;> rfl

@[simp] theorem Cpu.resume_child (pol : Policy) (x : Cpu) (i : Nat) :
    (x.resume pol i).pc.child = none := by
  unfold Cpu.resume; split <;> rfl

@[simp] theorem Cpu.resume_pc_ne_sleep (pol : Policy) (x : Cpu) (i : Nat) (ch : Chan) :
    (x.resume pol i).pc ≠ .sleep ch := by
  unfold Cpu.resume; split <;> simp

theorem Wf.child_parent_ne {c c' i np : Nat} (h : Wf cfg s) (hc : c < cfg.ncpu)
    (he : (s.cpus c).pc.executing) (hi : (s.cpus c).proc = some i) (hc' : c' < cfg.ncpu)
    (hne : c' ≠ c) (hch : (s.cpus c').pc.child = some np) : (s.procs np).parent ≠ some i := by
  intro hp
  obtain ⟨-, hok⟩ := h.cpus c' hc'
  cases hpc : (s.cpus c').pc <;> simp only [hpc, CpuPc.child, reduceCtorEq, Option.some.injEq] at hch
  · subst hch; simp only [hpc] at hok; simp_all
  · subst hch
    simp only [hpc] at hok
    have he' : (s.cpus c').pc.executing := by simp [hpc, CpuPc.executing]
    exact hne (h.running c' hc' c hc he' he (hok.2.2.2.symm.trans (hp.trans hi.symm)))

theorem Wf.leave {c i : Nat} {pc : CpuPc} {t : Kernel} (h : Wf cfg s) (hr : Runs cfg s c pc i)
    (he : pc.executing) (hl : LockInv cfg (switchOut cfg t c i))
    (hcpu : t.cpus = s.cpus)
    (hst : ∀ j, j ≠ i → (t.procs j).state = (s.procs j).state ∨
      (s.procs j).state = .sleeping ∧ (t.procs j).state = .runnable)
    (hpar : ∀ j, (t.procs j).parent = (s.procs j).parent ∨ (s.procs j).parent = some i)
    (hi : (t.procs i).state ≠ .unused) : Wf cfg (switchOut cfg t c i) := by
  have he' : (s.cpus c).pc.executing := by rw [hr.pc_eq]; exact he
  have hcpu' : ∀ c', c' ≠ c → (switchOut cfg t c i).cpus c' = s.cpus c' := fun c' e => by
    rw [switchOut_cpus_ne _ _ _ e, hcpu]
  refine ⟨hl, fun c' hc' => ?_, fun c₁ h₁ c₂ h₂ e₁ e₂ hp => ?_, fun c₁ h₁ c₂ h₂ np e₁ e₂ => ?_,
    fun j hj => ?_⟩
  · by_cases e : c' = c
    · subst e
      rw [switchOut_cpus_self, hcpu]
      exact Cpu.resume_ok hr.lt (h.cpus c' hc').1
    · rw [hcpu' c' e]
      refine (h.cpus c' hc').frame (fun j hcl => ?_) (fun np hnp => ?_)
      · rw [switchOut_state]
        by_cases hji : j = i
        · subst hji; exact absurd hcl (h.unclaimed_running hr.cpu_lt hc' e he' hr.proc_eq)
        · rcases hst j hji with h1 | ⟨h1, -⟩
          · exact h1
          · exact absurd hcl (h.unclaimed hc' (.inl h1))
      · rw [switchOut_parent]
        exact (hpar np).resolve_right
          (h.child_parent_ne hr.cpu_lt he' hr.proc_eq hc' e hnp)
  · have n₁ : c₁ ≠ c := by rintro rfl; simp at e₁
    have n₂ : c₂ ≠ c := by rintro rfl; simp at e₂
    rw [hcpu' c₁ n₁] at e₁ hp; rw [hcpu' c₂ n₂] at e₂ hp
    exact h.running c₁ h₁ c₂ h₂ e₁ e₂ hp
  · have n₁ : c₁ ≠ c := by rintro rfl; simp at e₁
    have n₂ : c₂ ≠ c := by rintro rfl; simp at e₂
    rw [hcpu' c₁ n₁] at e₁; rw [hcpu' c₂ n₂] at e₂
    exact h.child c₁ h₁ c₂ h₂ np e₁ e₂
  · rw [switchOut_state] at hj
    rw [switchOut_parent]
    have hji : j ≠ i := by rintro rfl; exact hi hj
    rcases hst j hji with h1 | ⟨-, h1⟩
    · have h0 := h.free j (h1 ▸ hj)
      rcases hpar j with h2 | h2
      · rw [h2, h0]
      · simp_all
    · simp_all

theorem Wf.wake (h : Wf cfg s) (hl : LockInv cfg s') (hcpu : s'.cpus = s.cpus)
    (hst : ∀ j, (s'.procs j).state = (s.procs j).state ∨
      (s.procs j).state = .sleeping ∧ (s'.procs j).state = .runnable)
    (hpar : ∀ j, (s'.procs j).parent = (s.procs j).parent) : Wf cfg s' :=
  h.quiet hl hcpu (fun j hj => by rcases hst j with h1 | ⟨h1, -⟩ <;> simp_all)
    (fun j hj => .inr ⟨by rcases hst j with h1 | ⟨-, h1⟩ <;> simp_all, hpar j⟩)

theorem Wf.release (h : Wf cfg s) (hl : LockInv cfg s') (hcpu : s'.cpus = s.cpus)
    (hkeep : ∀ j, (s.procs j).state ≠ .unused → (s.procs j).state ≠ .zombie → s'.procs j = s.procs j)
    (hfree : ∀ j, (s'.procs j).state = .unused → (s'.procs j).parent = none ∨ s'.procs j = s.procs j) :
    Wf cfg s' := by
  refine h.quiet hl hcpu (fun j hj => ?_) (fun j hj => ?_)
  · by_contra hn
    simp only [not_or] at hn
    simp [hkeep j hn.2.1 hn.2.2] at hj
  · rcases hfree j hj with h1 | h1
    · exact .inl h1
    · rw [h1] at hj ⊢; exact .inr ⟨hj, rfl⟩

theorem Wf.proc_ne {c c' i : Nat} {pc : CpuPc} (h : Wf cfg s) (hr : Runs cfg s c pc i)
    (he : pc.executing) (hc' : c' < cfg.ncpu) (hne : c' ≠ c) (he' : (s.cpus c').pc.executing) :
    (s.cpus c').proc ≠ some i := fun hp =>
  h.unclaimed_running hr.cpu_lt hc' hne (by rw [hr.pc_eq]; exact he) hr.proc_eq (.inl ⟨he', hp⟩)

theorem Wf.sleepLock {c i : Nat} {ch : Chan} (h : Wf cfg s) (hr : Runs cfg s c .run i)
    (hl : LockInv cfg (OsnScheduling.sleepLock s c i ch)) :
    Wf cfg (OsnScheduling.sleepLock s c i ch) := by
  refine h.frame hl (fun c' e => sleepLock_cpus_ne s i ch e) (fun _ _ _ _ _ => by simp)
    (fun _ _ _ _ _ => by simp) (fun _ => ?_) (fun _ c' hc' e he' => ?_) (fun np hnp => ?_)
    (fun j hj => by simpa using h.free j (by simpa using hj))
  · rw [sleepLock_cpus_self]
    exact ⟨(h.cpus c hr.cpu_lt).1, i, hr.proc_eq, hr.lt, by simpa using hr.running⟩
  · simpa [hr.proc_eq] using h.proc_ne hr rfl hc' e he'
  · simp [CpuPc.child] at hnp

theorem Wf.fork {c i np : Nat} {page : Option (TrapFrame × Nat)} {ok : Bool} (h : Wf cfg s)
    (hr : Runs cfg s c .run i) (hnp : (forkAlloc cfg s i page ok).1 = some np)
    (hl : LockInv cfg ((forkAlloc cfg s i page ok).2.setCpu c
      { ((forkAlloc cfg s i page ok).2.cpus c) with pc := .forkLink np })) :
    Wf cfg ((forkAlloc cfg s i page ok).2.setCpu c
      { ((forkAlloc cfg s i page ok).2.cpus c) with pc := .forkLink np }) := by
  obtain ⟨hlt, hun, hused, hpar⟩ := forkAlloc_some hnp
  have keep : ∀ c' < cfg.ncpu, ∀ j, Claims cfg.policy (s.cpus c') j →
      (forkAlloc cfg s i page ok).2.procs j = s.procs j :=
    fun c' hc' j hcl => forkAlloc_procs_of_ne fun hu => h.unclaimed hc' (.inr (.inl hu)) hcl
  refine h.frame hl (fun c' (e : c' ≠ c) => by simp [Function.update_noteq e])
    (fun c' hc' _ j hcl => by simp [keep c' hc' j hcl])
    (fun c' hc' _ np' hch => by simp [keep c' hc' np' (.inr (.inl hch))])
    (fun _ => ?_) (fun _ c' hc' e he' => ?_) (fun np' hch c' hc' _ hch' => ?_) (fun j hj => ?_)
  · simp only [Kernel.setCpu_cpus, Function.update_same, forkAlloc_cpus]
    have hi := keep c hr.cpu_lt i (.inl ⟨by simp [hr.pc_eq, CpuPc.executing], hr.proc_eq⟩)
    exact ⟨(h.cpus c hr.cpu_lt).1, ⟨i, hr.proc_eq, hr.lt, by simpa [hi] using hr.running⟩, hlt,
      by simpa using hused, by simpa [hpar] using h.free np hun⟩
  · simpa [hr.proc_eq] using h.proc_ne hr rfl hc' e he'
  · simp only [Kernel.setCpu_cpus, Function.update_same, CpuPc.child, Option.some.injEq] at hch
    subst hch
    simp [(h.cpus c' hc').child_used hch'] at hun
  · simp only [Kernel.setCpu_procs] at hj ⊢
    rcases forkAlloc_unused hj with h1 | h1
    · exact h1
    · rw [h1] at hj ⊢; exact h.free j hj

theorem Wf.forkLink {c i np : Nat} (h : Wf cfg s) (hr : Runs cfg s c (.forkLink np) i)
    (hl : LockInv cfg ((OsnScheduling.forkLink s i np).setCpu c { (s.cpus c) with pc := .forkRun np })) :
    Wf cfg ((OsnScheduling.forkLink s i np).setCpu c { (s.cpus c) with pc := .forkRun np }) := by
  obtain ⟨hrr, hok⟩ := h.cpus c hr.cpu_lt
  simp only [hr.pc_eq] at hok
  obtain ⟨-, hlt, hused, -⟩ := hok
  have hch : (s.cpus c).pc.child = some np := by simp [hr.pc_eq, CpuPc.child]
  refine h.frame hl (fun c' (e : c' ≠ c) => by simp [Function.update_noteq e]) (fun _ _ _ _ _ => by simp)
    (fun c' hc' e np' hch' => ?_) (fun _ => ?_) (fun _ c' hc' e he' => ?_)
    (fun np' hch' c' hc' e hch'' => ?_) (fun j hj => ?_)
  · have : np' ≠ np := by rintro rfl; exact e (h.child c' hc' c hr.cpu_lt np' hch' hch)
    simp [forkLink_parent, this]
  · simp only [Kernel.setCpu_cpus, Function.update_same]
    exact ⟨hrr, ⟨i, hr.proc_eq, hr.lt, by simpa using hr.running⟩, hlt, by simpa using hused,
      by simp [forkLink_parent, hr.proc_eq]⟩
  · simpa [hr.proc_eq] using h.proc_ne hr rfl hc' e he'
  · simp only [Kernel.setCpu_cpus, Function.update_same, CpuPc.child, Option.some.injEq] at hch'
    subst hch'
    exact e (h.child c' hc' c hr.cpu_lt _ hch'' hch)
  · simp only [Kernel.setCpu_procs, forkLink_state, forkLink_parent] at hj ⊢
    split_ifs with e
    · subst e; simp [hused] at hj
    · exact h.free j hj

theorem Wf.forkRun {c i np : Nat} (h : Wf cfg s) (hr : Runs cfg s c (.forkRun np) i)
    (hl : LockInv cfg ((OsnScheduling.forkRun cfg s i np).setCpu c { (s.cpus c) with pc := .run })) :
    Wf cfg ((OsnScheduling.forkRun cfg s i np).setCpu c { (s.cpus c) with pc := .run }) := by
  obtain ⟨hrr, hok⟩ := h.cpus c hr.cpu_lt
  simp only [hr.pc_eq] at hok
  have hused := hok.2.2.1
  have hch : (s.cpus c).pc.child = some np := by simp [hr.pc_eq, CpuPc.child]
  have hin : i ≠ np := by rintro rfl; simp [hr.running] at hused
  refine h.frame hl (fun c' (e : c' ≠ c) => by simp [Function.update_noteq e]) (fun c' hc' e j hcl => ?_)
    (fun _ _ _ _ _ => by simp) (fun _ => ?_) (fun _ c' hc' e he' => ?_)
    (fun np' hch' => by simp [CpuPc.child] at hch') (fun j hj => ?_)
  · have : j ≠ np := by rintro rfl; exact h.unclaimed_child hr.cpu_lt hc' e hch hcl
    simp [forkRun_state, this]
  · simp only [Kernel.setCpu_cpus, Function.update_same]
    exact ⟨hrr, i, hr.proc_eq, hr.lt, by simp [forkRun_state, hin, hr.running]⟩
  · simpa [hr.proc_eq] using h.proc_ne hr rfl hc' e he'
  · simp only [Kernel.setCpu_procs, forkRun_state, forkRun_parent] at hj ⊢
    split_ifs at hj
    exact h.free j hj

theorem Wf.exit {c i : Nat} {st : Int} (h : Wf cfg s) (hr : Runs cfg s c .run i)
    (hl : LockInv cfg (exit cfg s c i st)) : Wf cfg (exit cfg s c i st) :=
  h.leave hr rfl hl (exitTable_cpus cfg s i st) (fun _ hj => exitTable_state_cases cfg s i st hj)
    (fun j => by rw [exitTable_parent]; split_ifs with h1; exacts [.inr h1.2, .inl rfl]) (by simp)

theorem Wf.setAside {c i : Nat} {pc : CpuPc} {p : Proc} (h : Wf cfg s) (hr : Runs cfg s c pc i)
    (he : pc.executing) (hp : p.parent = (s.procs i).parent) (hu : p.state ≠ .unused)
    (hl : LockInv cfg (switchOut cfg (s.setProc i p) c i)) :
    Wf cfg (switchOut cfg (s.setProc i p) c i) :=
  h.leave hr he hl rfl (fun j hj => .inl (by simp [Function.update_noteq hj]))
    (fun j => .inl (by by_cases e : j = i <;> simp_all [Function.update_noteq]))
    (by simpa using hu)

theorem Wf.step {a : Action} (hu : MlfqUniprocessor cfg) (h : Wf cfg s)
    (hs : step cfg s a = some s') : Wf cfg s' := by
  have hl := h.locks.step hs
  cases a with
  | sched c => exact h.sched hu (step_sched hs).1 (step_sched hs).2
  | tick =>
    obtain ⟨-, rfl⟩ := step_tick hs
    exact h.same hl rfl (by simp [tick]) (by simp [tick])
  | wakeup c ch =>
    obtain ⟨-, -, -, rfl⟩ := step_wakeup hs
    exact h.wake hl rfl (wakeup_state_cases cfg s _ _) (by simp)
  | fork c page ok =>
    obtain ⟨i, hr, -, ⟨np, hnp, rfl⟩ | ⟨-, rfl⟩⟩ := step_fork hs
    · exact h.fork hr hnp hl
    · exact h.release hl (by simp) (fun j hj _ => forkAlloc_procs_of_ne hj)
        (fun j hj => forkAlloc_unused hj)
  | forkLink c =>
    obtain ⟨i, np, hr, rfl⟩ := step_forkLink hs
    exact h.forkLink hr hl
  | forkRun c =>
    obtain ⟨i, np, hr, -, rfl⟩ := step_forkRun hs
    exact h.forkRun hr hl
  | exit c st =>
    obtain ⟨i, hr, -, -, rfl⟩ := step_exit hs
    exact h.exit hr hl
  | wait c addr ok =>
    obtain ⟨i, hr, -, ⟨-, rfl⟩ | ⟨hn, -, rfl⟩⟩ := step_wait hs
    · exact h.release hl (by simp) (fun j _ hj => waitScan_procs_of_ne hj)
        (fun j _ => (waitScan_procs_cases cfg s i addr ok j).elim .inr
          fun h1 => .inl (by simp [h1.2.2, freeproc]))
    · rw [(waitScan_none hn).1] at hl ⊢
      exact h.sleepLock hr hl
  | sleep c ch =>
    obtain ⟨i, hr, -, -, rfl⟩ := step_sleep hs
    exact h.sleepLock hr hl
  | park c =>
    obtain ⟨i, ch, hr, rfl⟩ := step_park hs
    exact h.setAside hr rfl (by simp) (by simp) hl
  | yield c =>
    obtain ⟨i, hr, -, rfl⟩ := step_yield hs
    exact h.setAside hr rfl rfl (by simp) hl
  | kill c pid =>
    obtain ⟨i, -, -, rfl⟩ := step_kill hs
    exact h.wake hl (by simp) (kill_state_cases cfg s pid) (by simp)
  | setPriority c prio pid =>
    obtain ⟨i, -, -, rfl⟩ := step_setPriority hs
    exact h.same hl (by simp) (by simp) (by simp)
  | growproc | fileOpen | fileClose | trapLevel =>
    obtain ⟨i, ho⟩ := step_own hs rfl
    exact h.same hl ho.cpus (fun j => by rw [ho.procs j]) fun j => by rw [ho.procs j]

theorem Wf.boot (tf : TrapFrame) (pt root : Nat) : Wf cfg (OsnScheduling.boot cfg tf pt root) := by
  have hcpu : (OsnScheduling.boot cfg tf pt root).cpus = fun _ => Cpu.zero := by
    simp [OsnScheduling.boot, Kernel.zero]
  refine ⟨LockInv.boot tf pt root, fun c _ => ?_, fun c₁ _ c₂ _ e₁ => ?_,
    fun c₁ _ c₂ _ np e₁ => ?_, fun j hj => ?_⟩
  · rw [hcpu]; exact ⟨cfg.nproc_pos, trivial⟩
  · simp [hcpu, Cpu.zero, CpuPc.executing] at e₁
  · simp [hcpu, Cpu.zero, CpuPc.child] at e₁
  · have ha := @allocproc_unused cfg Kernel.zero (some (tf, pt)) j
    simp only [OsnScheduling.boot, userinit] at hj ⊢
    rcases hs : allocproc cfg Kernel.zero (some (tf, pt)) with ⟨_ | i, t⟩ <;>
      simp only [hs] at ha hj ⊢
    · rcases ha hj with h1 | h1 <;> simp [h1, Kernel.zero, Proc.zero]
    · by_cases e : j = i
      · subst e; simp at hj
      · simp only [Kernel.setProc_procs, Function.update_noteq e] at hj ⊢
        rcases ha hj with h1 | h1 <;> simp [h1, Kernel.zero, Proc.zero]

theorem Reachable.wf (hu : MlfqUniprocessor cfg) (h : Reachable cfg s) : Wf cfg s := by
  induction h with
  | boot tf pt root => exact Wf.boot tf pt root
  | step a _ hs ih => exact ih.step hu hs

end OsnScheduling
