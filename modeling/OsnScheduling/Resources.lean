import Mathlib.Algebra.BigOperators.Group.Finset
import OsnScheduling.Dispatch

/-!
What a slot owns. `allocproc` gives a slot its trap frame and page table as it leaves
UNUSED, and `freeproc` takes them back, with the pid, parent, channel and exit status, as
it marks the slot UNUSED again; `exit` closes the files and the directory before. `fork`
takes one reference to each file it copies to the child and `exit` drops one for each file
it closes, so the reference counts match the descriptor table. `kill` is the exception to
what `freeproc` promises: it matches its pid against every slot, UNUSED ones too, so
`kill(0)` sets `killed` on a free slot, which `allocproc` hands out as it is.
-/

namespace OsnScheduling

def Proc.Closed (nofile : Nat) (p : Proc) : Prop :=
  (∀ fd < nofile, p.ofile fd = none) ∧ p.cwd = none

def Proc.Reset (nofile : Nat) (p : Proc) : Prop :=
  p.pid = 0 ∧ p.parent = none ∧ p.chan = none ∧ p.xstate = 0 ∧ p.trapframe = none ∧
    p.pagetable = none ∧ p.Closed nofile

def Proc.Mapped (p : Proc) : Prop :=
  p.trapframe.isSome ∧ p.pagetable.isSome

def Proc.ResetOk (nofile : Nat) (p : Proc) : Prop :=
  (p.state = .unused → p.Reset nofile) ∧ (p.state = .zombie → p.Closed nofile) ∧
    (p.state ≠ .unused → p.Mapped)

def ResetInv (cfg : Config) (s : Kernel) : Prop :=
  ∀ j, (s.procs j).ResetOk cfg.nofile

def Proc.KeepsReset (p q : Proc) : Prop :=
  q.pid = p.pid ∧ q.chan = p.chan ∧ q.xstate = p.xstate ∧ q.trapframe = p.trapframe ∧
    q.pagetable = p.pagetable ∧ q.ofile = p.ofile ∧ q.cwd = p.cwd

def Proc.StaysLive (p q : Proc) : Prop :=
  p.state ≠ .unused ∧ q.state ≠ .unused ∧ q.state ≠ .zombie ∧ q.trapframe = p.trapframe ∧
    q.pagetable = p.pagetable

section
variable {n : Nat} {p q : Proc}

theorem Proc.ResetOk.keep (h : p.ResetOk n) (hst : q.state = p.state)
    (hpar : p.state = .unused → q.parent = p.parent) (hk : p.KeepsReset q) : q.ResetOk n := by
  obtain ⟨h1, h2, h3, h4, h5, h6, h7⟩ := hk
  have closed : p.Closed n → q.Closed n := fun ⟨hf, hc⟩ =>
    ⟨fun fd hfd => (congrFun h6 fd).trans (hf fd hfd), h7.trans hc⟩
  refine ⟨fun hu => ?_, fun hz => closed (h.2.1 (hst ▸ hz)), fun hu => ?_⟩
  · obtain ⟨a, b, c, d, e, f, g⟩ := h.1 (hst ▸ hu)
    exact ⟨h1.trans a, (hpar (hst ▸ hu)).trans b, h2.trans c, h3.trans d, h4.trans e, h5.trans f,
      closed g⟩
  · obtain ⟨a, b⟩ := h.2.2 (hst ▸ hu)
    exact ⟨h4 ▸ a, h5 ▸ b⟩

theorem Proc.ResetOk.live (h : p.ResetOk n) (hl : p.StaysLive q) : q.ResetOk n := by
  obtain ⟨h0, h1, h2, h3, h4⟩ := hl
  obtain ⟨a, b⟩ := h.2.2 h0
  exact ⟨fun e => absurd e h1, fun e => absurd e h2, fun _ => ⟨h3 ▸ a, h4 ▸ b⟩⟩

theorem Proc.ResetOk.freeproc (h : p.Closed n) : (freeproc p).ResetOk n :=
  ⟨fun _ => ⟨rfl, rfl, rfl, rfl, rfl, rfl, h⟩, fun hz => by simp [OsnScheduling.freeproc] at hz,
    fun hu => absurd rfl hu⟩

end

variable {cfg : Config} {s s' : Kernel}

theorem ResetInv.of_slots (h : ResetInv cfg s)
    (hj : ∀ j, (s'.procs j).state = (s.procs j).state ∧
        ((s.procs j).state = .unused → (s'.procs j).parent = (s.procs j).parent) ∧
        (s.procs j).KeepsReset (s'.procs j) ∨
      (s.procs j).StaysLive (s'.procs j) ∨ (s'.procs j).ResetOk cfg.nofile) :
    ResetInv cfg s' := fun j => by
  rcases hj j with ⟨hst, hpar, hk⟩ | hl | hok
  · exact (h j).keep hst hpar hk
  · exact (h j).live hl
  · exact hok

theorem ResetInv.of_live (h : ResetInv cfg s)
    (hj : ∀ j, s'.procs j = s.procs j ∨ (s.procs j).StaysLive (s'.procs j)) : ResetInv cfg s' :=
  fun j => (hj j).elim (fun e => e ▸ h j) (h j).live

theorem ResetInv.of_running (i : Nat) (h : ResetInv cfg s) (hne : ∀ j, j ≠ i → s'.procs j = s.procs j)
    (hi : (s.procs i).StaysLive (s'.procs i)) : ResetInv cfg s' :=
  h.of_live fun j => by
    by_cases e : j = i
    · exact .inr (e ▸ hi)
    · exact .inl (hne j e)

theorem ResetInv.of_locks (h : ResetInv cfg s)
    (hl : ∀ j, s'.procs j = { (s.procs j) with lock := (s'.procs j).lock }) : ResetInv cfg s' :=
  fun j => by rw [hl j]; exact h j

theorem ResetInv.switchOut {c i : Nat} (h : ResetInv cfg s) : ResetInv cfg (switchOut cfg s c i) :=
  h.of_locks fun j => by
    simp only [OsnScheduling.switchOut, Kernel.setCpu_procs, Kernel.setProc_procs, Function.update_apply]
    split_ifs <;> subst_vars <;> rfl

theorem ResetInv.sleepLock {c i : Nat} {ch : Chan} (h : ResetInv cfg s) :
    ResetInv cfg (sleepLock s c i ch) :=
  h.of_locks fun j => by
    simp only [OsnScheduling.sleepLock, Kernel.setCpu_procs, Kernel.setProc_procs, Function.update_apply]
    split_ifs <;> subst_vars <;> rfl

theorem ResetInv.sched {c : Nat} (hw : Wf cfg s) (hc : c < cfg.ncpu) (h : ResetInv cfg s)
    (hs : schedStep cfg s c = some s') : ResetInv cfg s' := by
  rcases schedStep_procs hs with hl | hup | ⟨j', hd, rfl⟩ | ⟨j', hpc, hj, hres, -, -⟩
  · exact h.of_locks hl
  · refine h.of_live fun j => ?_
    simp only [hup, upgradePolicy, Kernel.mapProcs_procs]
    split_ifs with hit
    · exact .inr (by simp [Proc.StaysLive, hit.2.1])
    · exact .inl rfl
  · have hr := (hw.dispatchFrom_ready hc hd).2
    refine h.of_live fun j => ?_
    by_cases e : j = j'
    · subst e; exact .inr (by simp [Proc.StaysLive, dispatch, hr])
    · exact .inl (by simp [dispatch, Function.update_noteq e])
  · exact absurd (hw.pick_resumable hc hpc hj) (by simp [hres])

theorem ResetInv.exit {c i : Nat} {st : Int} (h : ResetInv cfg s) (hi : (s.procs i).state ≠ .unused) :
    ResetInv cfg (exit cfg s c i st) := by
  refine ResetInv.switchOut (h.of_slots fun j => ?_)
  by_cases e : j = i
  · subst e
    obtain ⟨a, b⟩ := (h j).2.2 hi
    rw [exitTable_procs_self]
    exact .inr (.inr ⟨by simp, fun _ => ⟨fun fd hfd => by simp [hfd], rfl⟩, fun _ => ⟨a, b⟩⟩)
  · rw [exitTable_procs_ne cfg s st e]
    rcases exitTable_state_cases cfg s i st e with hst | ⟨h1, hst⟩
    · refine .inl ⟨hst, fun hu => ?_, ⟨rfl, rfl, rfl, rfl, rfl, rfl, rfl⟩⟩
      simp [exitTable_parent, ((h j).1 hu).2.1]
    · exact .inr (.inl ⟨by simp [h1], by simp [hst], by simp [hst], rfl, rfl⟩)

theorem ResetInv.fork {i : Nat} {page : Option (TrapFrame × Nat)} {ok : Bool} (h : ResetInv cfg s) :
    ResetInv cfg (forkAlloc cfg s i page ok).2 := by
  rcases forkAlloc_spec cfg s i page ok with ⟨he, -⟩ | ⟨np, -, hu, hne, -, hnp⟩
  · exact fun j => by rw [he]; exact h j
  · refine h.of_slots fun j => ?_
    by_cases e : j = np
    · subst e
      refine .inr (.inr ?_)
      rcases hnp with ⟨q, hq, hof, hcwd⟩ | ⟨hused, -, -, -, htf, hpt, -, -⟩
      · obtain ⟨-, -, -, -, -, -, hf, hc⟩ := (h j).1 hu
        exact hq ▸ .freeproc ⟨fun fd hfd => hof ▸ hf fd hfd, hcwd.trans hc⟩
      · exact ⟨fun e => by simp [hused] at e, fun e => by simp [hused] at e, fun _ => ⟨htf, hpt⟩⟩
    · rw [hne j e]; exact .inl ⟨rfl, fun _ => rfl, rfl, rfl, rfl, rfl, rfl, rfl, rfl⟩

theorem ResetInv.step {a : Action} (hw : Wf cfg s) (h : ResetInv cfg s)
    (hs : step cfg s a = some s') : ResetInv cfg s' := by
  cases a with
  | sched c => exact h.sched hw (step_sched hs).1 (step_sched hs).2
  | tick =>
    obtain ⟨-, rfl⟩ := step_tick hs
    refine h.of_live fun j => ?_
    simp only [tick, updateTime, Kernel.mapProcs_procs]
    split_ifs with hr
    · exact .inr (by simp [Proc.StaysLive, hr.2])
    · exact .inl rfl
  | wakeup c ch =>
    obtain ⟨-, -, -, rfl⟩ := step_wakeup hs
    refine h.of_slots fun j => ?_
    rw [wakeup_procs]
    rcases wakeup_state_cases cfg s (s.cpus c).proc (some ch) j with hst | ⟨h1, hst⟩
    · exact .inl ⟨hst, fun _ => by simp, ⟨rfl, rfl, rfl, rfl, rfl, rfl, rfl⟩⟩
    · exact .inr (.inl ⟨by simp [h1], by simp [hst], by simp [hst], rfl, rfl⟩)
  | fork c page ok =>
    obtain ⟨i, -, -, ⟨np, -, rfl⟩ | ⟨-, rfl⟩⟩ := step_fork hs
    · exact h.fork
    · exact h.fork
  | forkLink c =>
    obtain ⟨i, np, hr, rfl⟩ := step_forkLink hs
    have hused : (s.procs np).state = .used :=
      (hw.cpus c hr.cpu_lt).child_used (by simp [hr.pc_eq, CpuPc.child])
    exact h.of_running np (fun j e => by simp [forkLink, Function.update_noteq e])
      (by simp [Proc.StaysLive, forkLink, hused])
  | forkRun c =>
    obtain ⟨i, np, hr, -, rfl⟩ := step_forkRun hs
    have hused : (s.procs np).state = .used :=
      (hw.cpus c hr.cpu_lt).child_used (by simp [hr.pc_eq, CpuPc.child])
    refine h.of_live fun j => ?_
    rw [Kernel.setCpu_procs]
    by_cases hj : j = i ∨ j = np
    · have hp : (s.procs j).state = .running ∨ (s.procs j).state = .used :=
        hj.imp (fun e : j = i => e ▸ hr.running) (fun e : j = np => e ▸ hused)
      have hq := forkRun_state cfg s i np j
      refine .inr ⟨by rcases hp with e | e <;> simp [e], ?_, ?_, by rw [forkRun_procs], by rw [forkRun_procs]⟩ <;>
        split_ifs at hq <;> rcases hp with e | e <;> simp [hq, e]
    · push_neg at hj
      exact .inl (forkRun_procs_of_ne cfg s hj.1 hj.2)
  | exit c st =>
    obtain ⟨i, hr, -, -, rfl⟩ := step_exit hs
    exact h.exit (by simp [hr.running])
  | wait c addr ok =>
    obtain ⟨i, hr, -, ⟨-, rfl⟩ | ⟨hn, -, rfl⟩⟩ := step_wait hs
    · refine h.of_slots fun j => ?_
      rcases waitScan_procs_cases cfg s i addr ok j with h1 | ⟨-, hz, h1⟩
      · rw [h1]; exact .inl ⟨rfl, fun _ => rfl, rfl, rfl, rfl, rfl, rfl, rfl, rfl⟩
      · exact .inr (.inr (h1 ▸ .freeproc ((h j).2.1 hz)))
    · rw [(waitScan_none hn).1]
      exact h.sleepLock
  | sleep c ch =>
    obtain ⟨i, -, -, -, rfl⟩ := step_sleep hs
    exact h.sleepLock
  | park c =>
    obtain ⟨i, ch, hr, rfl⟩ := step_park hs
    exact ResetInv.switchOut (h.of_running i (fun j e => by simp [Function.update_noteq e])
      (by simp [Proc.StaysLive, hr.running]))
  | yield c =>
    obtain ⟨i, hr, -, rfl⟩ := step_yield hs
    exact ResetInv.switchOut (h.of_running i (fun j e => by simp [Function.update_noteq e])
      (by simp [Proc.StaysLive, hr.running]))
  | kill c pid =>
    obtain ⟨i, -, -, rfl⟩ := step_kill hs
    refine h.of_slots fun j => ?_
    rw [kill_procs]
    rcases kill_state_cases cfg s pid j with hst | ⟨h1, hst⟩
    · exact .inl ⟨hst, fun _ => by simp, ⟨rfl, rfl, rfl, rfl, rfl, rfl, rfl⟩⟩
    · exact .inr (.inl ⟨by simp [h1], by simp [hst], by simp [hst], rfl, rfl⟩)
  | setPriority c prio pid =>
    obtain ⟨i, -, -, rfl⟩ := step_setPriority hs
    refine h.of_slots fun j => .inl ⟨by simp, fun _ => by simp, ?_⟩
    rw [setPriorityI_procs]; exact ⟨rfl, rfl, rfl, rfl, rfl, rfl, rfl⟩
  | growproc | fileOpen | fileClose | trapLevel =>
    obtain ⟨i, ho⟩ := step_own hs rfl
    have hr := ho.runs.running
    exact h.of_running i ho.other (by rw [ho.procs i]; simp [Proc.StaysLive, hr])

theorem ResetInv.boot (tf : TrapFrame) (pt root : Nat) :
    ResetInv cfg (OsnScheduling.boot cfg tf pt root) := fun j => by
  by_cases e : j = 0
  · subst e
    refine ⟨fun h => by simp at h, fun h => by simp at h, fun _ => ?_⟩
    simp [Proc.Mapped, OsnScheduling.boot, userinit, allocproc, firstSlot_zero, allocpid]
  · rw [boot_procs_ne cfg tf pt root e]
    exact ⟨fun _ => ⟨rfl, rfl, rfl, rfl, rfl, rfl, fun _ _ => rfl, rfl⟩, (fun hz => by cases hz),
      fun hu => absurd rfl hu⟩

theorem Reachable.resetInv (hu : MlfqUniprocessor cfg) (h : Reachable cfg s) : ResetInv cfg s := by
  induction h with
  | boot tf pt root => exact ResetInv.boot tf pt root
  | step a hr hs ih => exact ih.step (hr.wf hu) hs

def killedFree : Kernel :=
  (run sampleDefault (boot sampleDefault sampleFrame 0 1) [.sched 0, .sched 0, .kill 0 0]).getD
    (boot sampleDefault sampleFrame 0 1)

theorem kill_zero_kills_next_child :
    ∃ s, Reachable sampleDefault s ∧ (s.procs 1).state = .unused ∧ (s.procs 1).killed = true ∧
      ∃ s', step sampleDefault s (.fork 0 (some (sampleFrame, 1)) true) = some s' ∧
        (s'.cpus 0).pc = .forkLink 1 ∧ (s'.procs 1).state = .used ∧ (s'.procs 1).killed = true :=
  ⟨killedFree, (Reachable.boot sampleFrame 0 1).run_getD _ (by decide), by decide, by decide, _,
    (Option.some_get (by decide :
      (step sampleDefault killedFree (.fork 0 (some (sampleFrame, 1)) true)).isSome)).symm,
    by decide, by decide, by decide⟩


def fileCount (cfg : Config) (s : Kernel) (f : Nat) : Int :=
  ∑ j ∈ Finset.range cfg.nproc, ((s.procs j).fdCount cfg.nofile f : Int)

def FileInv (cfg : Config) (s : Kernel) : Prop :=
  ∀ f, s.fileRef f = fileCount cfg s f

theorem sum_range_update_add {M : Type} [AddCommMonoid M] {n a : Nat} (ha : a < n)
    {g g' : Nat → M} (h : ∀ x, x ≠ a → g' x = g x) :
    ∑ x ∈ Finset.range n, g' x + g a = ∑ x ∈ Finset.range n, g x + g' a := by
  have hm := Finset.mem_range.2 ha
  rw [Finset.sum_eq_add_sum_diff_singleton hm g', Finset.sum_eq_add_sum_diff_singleton hm g,
    Finset.sum_congr rfl fun x hx => h x (by simpa using (Finset.mem_sdiff.1 hx).2)]
  ac_rfl

theorem Proc.fdCount_eq_sum (nofile : Nat) (p : Proc) (f : Nat) :
    p.fdCount nofile f = ∑ fd ∈ Finset.range nofile, if p.ofile fd = some f then 1 else 0 := by
  induction nofile with
  | zero => rfl
  | succ n ih =>
    rw [Finset.sum_range_succ, ← ih]
    simp [Proc.fdCount, List.range_succ, List.countP_append, List.countP_cons]

theorem Proc.fdCount_congr {nofile : Nat} {p q : Proc} (h : ∀ fd < nofile, q.ofile fd = p.ofile fd)
    (f : Nat) : q.fdCount nofile f = p.fdCount nofile f :=
  List.countP_congr fun fd hfd => by rw [h fd (List.mem_range.1 hfd)]

theorem Proc.fdCount_closed {nofile : Nat} {p : Proc} (h : ∀ fd < nofile, p.ofile fd = none)
    (f : Nat) : p.fdCount nofile f = 0 :=
  List.countP_eq_zero.2 fun fd hfd => by simp [h fd (List.mem_range.1 hfd)]

theorem Proc.fdCount_update {nofile fd : Nat} (hfd : fd < nofile) {p q : Proc}
    (h : ∀ x, x ≠ fd → q.ofile x = p.ofile x) (f : Nat) :
    q.fdCount nofile f + (if p.ofile fd = some f then 1 else 0) =
      p.fdCount nofile f + (if q.ofile fd = some f then 1 else 0) := by
  rw [Proc.fdCount_eq_sum, Proc.fdCount_eq_sum]
  exact @sum_range_update_add ℕ _ _ _ hfd (fun x => if p.ofile x = some f then 1 else 0)
    (fun x => if q.ofile x = some f then 1 else 0) fun x hx => by simp only [h x hx]

theorem fileCount_congr (h : ∀ j < cfg.nproc, (s'.procs j).ofile = (s.procs j).ofile) :
    fileCount cfg s' = fileCount cfg s :=
  funext fun _ => Finset.sum_congr rfl fun j hj => by
    simp only [Proc.fdCount, h j (Finset.mem_range.1 hj)]

theorem fileCount_update {a : Nat} (ha : a < cfg.nproc)
    (h : ∀ j, j ≠ a → (s'.procs j).ofile = (s.procs j).ofile) (f : Nat) :
    fileCount cfg s' f + (s.procs a).fdCount cfg.nofile f =
      fileCount cfg s f + (s'.procs a).fdCount cfg.nofile f := by
  unfold fileCount
  refine @sum_range_update_add ℤ _ _ _ ha (fun j => ((s.procs j).fdCount cfg.nofile f : ℤ))
    (fun j => ((s'.procs j).fdCount cfg.nofile f : ℤ)) fun j hj => ?_
  exact congrArg Nat.cast (Proc.fdCount_congr (fun fd _ => congrFun (h j hj) fd) f)

theorem FileInv.of_ofile (h : FileInv cfg s) (hof : ∀ j, (s'.procs j).ofile = (s.procs j).ofile)
    (hr : s'.fileRef = s.fileRef) : FileInv cfg s' := fun f => by
  rw [hr, fileCount_congr fun j _ => hof j]; exact h f

theorem FileInv.fork {i : Nat} {page : Option (TrapFrame × Nat)} {ok : Bool} (h : FileInv cfg s)
    (hres : ResetInv cfg s) (hi : (s.procs i).state ≠ .unused) :
    FileInv cfg (forkAlloc cfg s i page ok).2 := by
  rcases forkAlloc_files cfg s page ok hi with ⟨hof, hr⟩ | ⟨np, hlt, hu, hne, hnp, hr⟩
  · exact h.of_ofile hof hr
  · intro f
    have hclosed := ((hres np).1 hu).2.2.2.2.2.2.1
    have hc := fileCount_update hlt hne f
    have hnew : ((forkAlloc cfg s i page ok).2.procs np).fdCount cfg.nofile f =
        (s.procs i).fdCount cfg.nofile f :=
      Proc.fdCount_congr (fun fd hfd => by
        rw [hnp fd hfd]; cases hp : (s.procs i).ofile fd <;> simp [hclosed fd hfd]) f
    rw [Proc.fdCount_closed hclosed, hnew] at hc
    rw [hr f, h f]
    omega

theorem FileInv.exit {c i : Nat} {st : Int} (h : FileInv cfg s) (hi : i < cfg.nproc) :
    FileInv cfg (exit cfg s c i st) := fun f => by
  have hc := @fileCount_update cfg s (exitTable cfg s i st) i hi
    (fun j e => by rw [exitTable_procs_ne cfg s st e]) f
  have h0 : ((exitTable cfg s i st).procs i).fdCount cfg.nofile f = 0 :=
    Proc.fdCount_closed (fun fd hfd => by rw [exitTable_procs_self]; simp [hfd]) f
  have hsw : OsnScheduling.exit cfg s c i st = switchOut cfg (exitTable cfg s i st) c i := rfl
  rw [hsw, fileCount_congr (s := exitTable cfg s i st) fun j _ => by
    simp only [switchOut, Kernel.setCpu_procs, Kernel.setProc_procs, Function.update_apply]
    split_ifs <;> subst_vars <;> rfl]
  simp only [switchOut, Kernel.setCpu_fileRef, Kernel.setProc_fileRef]
  rw [h0] at hc
  rw [exitTable_fileRef, h f]
  omega


theorem FileInv.fileOpen {i fd f : Nat} (h : FileInv cfg s) (hi : i < cfg.nproc)
    (hfd : fd < cfg.nofile) (hnone : (s.procs i).ofile fd = none) :
    FileInv cfg (OsnScheduling.fileOpen s i fd f) := fun g => by
  have hne : ∀ j, j ≠ i → ((OsnScheduling.fileOpen s i fd f).procs j).ofile = (s.procs j).ofile :=
    fun j e => by simp [OsnScheduling.fileOpen, Function.update_noteq e]
  have hc := fileCount_update hi hne g
  have hu := @Proc.fdCount_update _ fd hfd (s.procs i) ((OsnScheduling.fileOpen s i fd f).procs i)
    (fun x e => by simp [OsnScheduling.fileOpen, Function.update_noteq e]) g
  have hq : ((OsnScheduling.fileOpen s i fd f).procs i).ofile fd = some f := by
    simp [OsnScheduling.fileOpen]
  have hr : (OsnScheduling.fileOpen s i fd f).fileRef g = s.fileRef g + if f = g then 1 else 0 := by
    simp only [OsnScheduling.fileOpen, Kernel.setProc_fileRef, Function.update_apply]
    by_cases e : g = f
    · subst e; simp
    · simp [e, Ne.symm e]
  rw [hnone, hq] at hu
  rw [hr, h g]
  rcases eq_or_ne f g with rfl | e
  · simp at hu ⊢; omega
  · simp [e] at hu ⊢; omega

theorem FileInv.fileClose {i fd f : Nat} (h : FileInv cfg s) (hi : i < cfg.nproc)
    (hfd : fd < cfg.nofile) (hsome : (s.procs i).ofile fd = some f) :
    FileInv cfg (OsnScheduling.fileClose s i fd f) := fun g => by
  have hne : ∀ j, j ≠ i → ((OsnScheduling.fileClose s i fd f).procs j).ofile = (s.procs j).ofile :=
    fun j e => by simp [OsnScheduling.fileClose, Function.update_noteq e]
  have hc := fileCount_update hi hne g
  have hu := @Proc.fdCount_update _ fd hfd (s.procs i) ((OsnScheduling.fileClose s i fd f).procs i)
    (fun x e => by simp [OsnScheduling.fileClose, Function.update_noteq e]) g
  have hq : ((OsnScheduling.fileClose s i fd f).procs i).ofile fd = none := by
    simp [OsnScheduling.fileClose]
  have hr : (OsnScheduling.fileClose s i fd f).fileRef g = s.fileRef g - if f = g then 1 else 0 := by
    simp only [OsnScheduling.fileClose, Kernel.setProc_fileRef, Function.update_apply]
    by_cases e : g = f
    · subst e; simp
    · simp [e, Ne.symm e]
  rw [hsome, hq] at hu
  rw [hr, h g]
  rcases eq_or_ne f g with rfl | e
  · simp at hu ⊢; omega
  · simp [e] at hu ⊢; omega

theorem FileInv.sched {c : Nat} (h : FileInv cfg s) (hs : schedStep cfg s c = some s') :
    FileInv cfg s' := by
  refine h.of_ofile (fun j => ?_) (schedStep_globals hs).2.2.2
  rcases schedStep_procs hs with hl | hup | ⟨j', -, rfl⟩ | ⟨j', -, -, -, -, rfl⟩
  · rw [hl j]
  · rw [hup]; simp only [upgradePolicy, Kernel.mapProcs_procs]; split_ifs <;> rfl
  all_goals
    simp only [dispatch, halt, Kernel.setCpu_procs, Kernel.setProc_procs, Function.update_apply,
      Proc.onDispatch_eq]
    split_ifs <;> subst_vars <;> rfl

theorem FileInv.setCpu {c : Nat} {x : Cpu} (h : FileInv cfg s) : FileInv cfg (s.setCpu c x) :=
  h.of_ofile (fun _ => rfl) rfl

theorem FileInv.switchOut {c i : Nat} (h : FileInv cfg s) : FileInv cfg (switchOut cfg s c i) :=
  h.of_ofile (fun j => by
    simp only [OsnScheduling.switchOut, Kernel.setCpu_procs, Kernel.setProc_procs, Function.update_apply]
    split_ifs <;> subst_vars <;> rfl) rfl

theorem FileInv.sleepLock {c i : Nat} {ch : Chan} (h : FileInv cfg s) :
    FileInv cfg (sleepLock s c i ch) :=
  h.of_ofile (fun j => by
    simp only [OsnScheduling.sleepLock, Kernel.setCpu_procs, Kernel.setProc_procs, Function.update_apply]
    split_ifs <;> subst_vars <;> rfl) rfl

theorem FileInv.setProc {i : Nat} {p : Proc} (h : FileInv cfg s) (hp : p.ofile = (s.procs i).ofile) :
    FileInv cfg (s.setProc i p) :=
  h.of_ofile (fun j => by
    simp only [Kernel.setProc_procs, Function.update_apply]
    split_ifs <;> subst_vars <;> simp [hp]) rfl

theorem FileInv.step {a : Action} (hres : ResetInv cfg s) (h : FileInv cfg s)
    (hs : step cfg s a = some s') : FileInv cfg s' := by
  cases a with
  | sched c => exact h.sched (step_sched hs).2
  | tick =>
    obtain ⟨-, rfl⟩ := step_tick hs
    exact h.of_ofile (fun j => by simp only [tick, updateTime, Kernel.mapProcs_procs]; split_ifs <;> rfl) rfl
  | wakeup c ch =>
    obtain ⟨-, -, -, rfl⟩ := step_wakeup hs
    exact h.of_ofile (fun j => by rw [wakeup_procs]) rfl
  | fork c page ok =>
    obtain ⟨i, hr, -, ⟨np, -, rfl⟩ | ⟨-, rfl⟩⟩ := step_fork hs
    · exact (h.fork hres (by simp [hr.running])).setCpu
    · exact h.fork hres (by simp [hr.running])
  | forkLink c =>
    obtain ⟨i, np, -, rfl⟩ := step_forkLink hs
    refine FileInv.setCpu ?_
    unfold forkLink
    exact h.setProc rfl
  | forkRun c =>
    obtain ⟨i, np, -, -, rfl⟩ := step_forkRun hs
    refine FileInv.setCpu ?_
    dsimp only [forkRun]
    split_ifs
    · exact FileInv.setProc (FileInv.setProc h rfl) rfl
    · exact FileInv.setProc h rfl
  | exit c st =>
    obtain ⟨i, hr, -, -, rfl⟩ := step_exit hs
    exact h.exit hr.lt
  | wait c addr ok =>
    obtain ⟨i, -, -, ⟨-, rfl⟩ | ⟨hn, -, rfl⟩⟩ := step_wait hs
    · refine h.of_ofile (fun j => ?_) (by unfold waitScan; split <;> split_ifs <;> rfl)
      rcases waitScan_procs_cases cfg s i addr ok j with h1 | ⟨-, -, h1⟩ <;> rw [h1]
      rfl
    · rw [(waitScan_none hn).1]
      exact h.sleepLock
  | sleep c ch =>
    obtain ⟨i, -, -, -, rfl⟩ := step_sleep hs
    exact h.sleepLock
  | park c =>
    obtain ⟨i, ch, -, rfl⟩ := step_park hs
    exact FileInv.switchOut (FileInv.setProc h (by simp))
  | yield c =>
    obtain ⟨i, -, -, rfl⟩ := step_yield hs
    exact FileInv.switchOut (FileInv.setProc h rfl)
  | kill c pid =>
    obtain ⟨i, -, -, rfl⟩ := step_kill hs
    exact h.of_ofile (fun j => by rw [kill_procs]) (by unfold kill; split <;> rfl)
  | setPriority c prio pid =>
    obtain ⟨i, -, -, rfl⟩ := step_setPriority hs
    exact h.of_ofile (fun j => by rw [setPriorityI_procs]) (setPriorityI_fileRef cfg s c prio pid)
  | growproc c n res =>
    obtain ⟨i, -, rfl⟩ := step_growproc hs
    exact h.of_ofile (fun j => by rw [growproc_procs]) (by unfold growproc; split_ifs <;> rfl)
  | fileOpen c fd f =>
    obtain ⟨i, hr, hfd, hnone, rfl⟩ := step_fileOpen hs
    exact h.fileOpen hr.lt hfd hnone
  | fileClose c fd =>
    obtain ⟨i, f, hr, hfd, hsome, rfl⟩ := step_fileClose hs
    exact h.fileClose hr.lt hfd hsome
  | trapLevel c level n =>
    obtain ⟨i, -, -, -, rfl⟩ := step_trapLevel hs
    exact h.setProc rfl

theorem FileInv.boot (tf : TrapFrame) (pt root : Nat) :
    FileInv cfg (OsnScheduling.boot cfg tf pt root) := fun f => by
  simp [fileCount, Proc.fdCount_closed]

theorem Reachable.fileInv (hu : MlfqUniprocessor cfg) (h : Reachable cfg s) : FileInv cfg s := by
  induction h with
  | boot tf pt root => exact FileInv.boot tf pt root
  | step a hr hs ih => exact ih.step (hr.resetInv hu) hs


theorem slot_resources_balanced (hu : MlfqUniprocessor cfg) (h : Reachable cfg s) :
    (∀ j, ((s.procs j).trapframe.isSome ∧ (s.procs j).pagetable.isSome ↔
      (s.procs j).state ≠ .unused)) ∧
    (∀ j, (s.procs j).state = .unused →
      (∀ fd < cfg.nofile, (s.procs j).ofile fd = none) ∧ (s.procs j).cwd = none) ∧
    ∀ f, s.fileRef f = fileCount cfg s f := by
  have hr := h.resetInv hu
  refine ⟨fun j => ⟨fun ⟨a, _⟩ e => ?_, (hr j).2.2⟩, fun j e => ((hr j).1 e).2.2.2.2.2.2,
    h.fileInv hu⟩
  simp [((hr j).1 e).2.2.2.2.1] at a

theorem slot_resources_balanced_family :
    sampleFamily.fileRef 5 = 2 ∧ (sampleFamily.procs 1).trapframe.isSome ∧
      sampleFamily.fileRef 5 = fileCount sampleDefault sampleFamily 5 :=
  have h := slot_resources_balanced (by decide) sampleFamily_reachable
  ⟨by decide, ((h.1 1).2 (by decide)).1, h.2.2 5⟩

theorem mlfq_two_cpus_run_free_slot :
    ∃ s, Reachable sampleMlfq2 s ∧ (s.procs 1).state = .running ∧
      ¬ ((s.procs 1).trapframe.isSome ∧ (s.procs 1).pagetable.isSome) :=
  ⟨_, (Reachable.boot sampleFrame 0 1).run_getD (mlfqStalePick ++ [.sched 1]) (by decide),
    by decide, by decide⟩

end OsnScheduling
