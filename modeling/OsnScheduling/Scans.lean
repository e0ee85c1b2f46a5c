import Mathlib.Data.List.Basic
import OsnScheduling.System

/-!
The table passes of the FCFS and PBS schedulers. Each keeps a running minimum over the
slots: the abstract scan `leastBelow` takes slot `k` when it passes the test and there is no
candidate yet or `k` comes strictly before the candidate, and it ends with the first least
slot (`FirstLeast`). A pass of `scheduler()` is this scan with the candidate's lock held;
FCFS reads "no candidate" off `First_start == -1` and PBS off `intialized == -1`.
-/

namespace OsnScheduling

def FirstLeast (P : Nat → Prop) (before : Nat → Nat → Prop) (n j : Nat) : Prop :=
  j < n ∧ P j ∧ (∀ k < n, P k → ¬ before k j) ∧ ∀ k < j, P k → before j k

structure StrictWeak (before : Nat → Nat → Prop) : Prop where
  irrefl : ∀ a, ¬ before a a
  trans : ∀ {a b c}, before a b → before b c → before a c
  cotrans : ∀ {a c} b, before a c → before a b ∨ before b c

def leastBelow (P : Nat → Prop) [DecidablePred P] (before : Nat → Nat → Prop)
    [DecidableRel before] : Nat → Option Nat
  | 0 => none
  | n + 1 =>
    match leastBelow P before n with
    | none => if P n then some n else none
    | some j => if P n ∧ before n j then some n else some j

section
variable {P : Nat → Prop} {before : Nat → Nat → Prop}

theorem FirstLeast.first {n : Nat} (hn : ∀ k < n, ¬ P k) (hp : P n) (hb : StrictWeak before) :
    FirstLeast P before (n + 1) n :=
  ⟨Nat.lt_succ_self n, hp, fun k hk hk' => by
    rcases Nat.lt_succ_iff_lt_or_eq.mp hk with hk | rfl
    · exact absurd hk' (hn k hk)
    · exact hb.irrefl k, fun k hk hk' => absurd hk' (hn k hk)⟩

theorem FirstLeast.take {n j : Nat} (h : FirstLeast P before n j) (hp : P n) (hnj : before n j)
    (hb : StrictWeak before) : FirstLeast P before (n + 1) n := by
  obtain ⟨-, -, hmin, -⟩ := h
  refine ⟨Nat.lt_succ_self n, hp, fun k hk hk' hkn => ?_, fun k hk hk' => ?_⟩
  · rcases Nat.lt_succ_iff_lt_or_eq.mp hk with hk | rfl
    · exact hmin k hk hk' (hb.trans hkn hnj)
    · exact hb.irrefl k hkn
  · exact (hb.cotrans k hnj).resolve_right (hmin k hk hk')

theorem FirstLeast.keep {n j : Nat} (h : FirstLeast P before n j) (hk : P n → ¬ before n j) :
    FirstLeast P before (n + 1) j := by
  obtain ⟨hj, hpj, hmin, hfirst⟩ := h
  refine ⟨Nat.lt_succ_of_lt hj, hpj, fun k hkn hk' => ?_, hfirst⟩
  rcases Nat.lt_succ_iff_lt_or_eq.mp hkn with hkn | rfl
  · exact hmin k hkn hk'
  · exact hk hk'

theorem leastBelow_spec (P : Nat → Prop) [DecidablePred P] [DecidableRel before] (hb : StrictWeak before) (n : Nat) :
    leastBelow P before n = none ∧ (∀ k < n, ¬ P k) ∨
      ∃ j, leastBelow P before n = some j ∧ FirstLeast P before n j := by
  induction n with
  | zero => exact .inl ⟨rfl, fun k hk => absurd hk (Nat.not_lt_zero k)⟩
  | succ n ih =>
    rcases ih with ⟨h, hn⟩ | ⟨j, h, hj⟩
    · by_cases hp : P n
      · exact .inr ⟨n, by simp [leastBelow, h, hp], .first hn hp hb⟩
      · refine .inl ⟨by simp [leastBelow, h, hp], fun k hk => ?_⟩
        rcases Nat.lt_succ_iff_lt_or_eq.mp hk with hk | rfl
        · exact hn k hk
        · exact hp
    · by_cases ht : P n ∧ before n j
      · exact .inr ⟨n, by simp [leastBelow, h, ht], hj.take ht.1 ht.2 hb⟩
      · exact .inr ⟨j, by simp [leastBelow, h, ht], hj.keep fun hp hnj => ht ⟨hp, hnj⟩⟩

variable [DecidablePred P] [DecidableRel before]

theorem leastBelow_lt {n j : Nat} (hb : StrictWeak before) (h : leastBelow P before n = some j) :
    j < n := by
  rcases leastBelow_spec P hb n with ⟨h', -⟩ | ⟨j', h', hj⟩
  · simp [h] at h'
  · rw [h] at h'; cases h'; exact hj.1

theorem leastBelow_pass {n j : Nat} (hb : StrictWeak before) (h : leastBelow P before n = some j) :
    P j := by
  rcases leastBelow_spec P hb n with ⟨h', -⟩ | ⟨j', h', hj⟩
  · simp [h] at h'
  · rw [h] at h'; cases h'; exact hj.2.1

end

/-! ### The passes of `scheduler()` -/

def Runnable (s : Kernel) (k : Nat) : Prop := (s.procs k).state = .runnable

instance (s : Kernel) : DecidablePred (Runnable s) := fun _ => inferInstanceAs (Decidable (_ = _))

def startsBefore (s : Kernel) (k j : Nat) : Prop := (s.procs k).startTime < (s.procs j).startTime

instance (s : Kernel) : DecidableRel (startsBefore s) := fun _ _ => inferInstanceAs (Decidable (_ < _))

theorem startsBefore_strictWeak (s : Kernel) : StrictWeak (startsBefore s) := by
  refine ⟨fun _ => ?_, fun h h' => ?_, fun _ h => ?_⟩ <;> unfold startsBefore at * <;> omega

def pbsBefore (p q : Proc) : Prop :=
  psbPriority p < psbPriority q ∨ psbPriority p = psbPriority q ∧
    (p.timesScheduled < q.timesScheduled ∨
      p.timesScheduled = q.timesScheduled ∧ p.startTime < q.startTime)

theorem pcbCompare_pos_iff (p q : Proc) : pcbCompare q p > 0 ↔ pbsBefore p q := by
  unfold pcbCompare pbsBefore
  by_cases h1 : psbPriority q < psbPriority p
  · rw [if_pos h1]; omega
  rw [if_neg h1]
  by_cases h2 : psbPriority q > psbPriority p
  · rw [if_pos h2]; omega
  rw [if_neg h2]
  by_cases h3 : q.timesScheduled > p.timesScheduled
  · rw [if_pos h3]; omega
  rw [if_neg h3]
  by_cases h4 : p.timesScheduled > q.timesScheduled
  · rw [if_pos h4]; omega
  rw [if_neg h4]
  by_cases h5 : q.startTime < p.startTime
  · rw [if_pos h5]; omega
  rw [if_neg h5]
  by_cases h6 : p.startTime < q.startTime
  · rw [if_pos h6]; omega
  rw [if_neg h6]; omega

def pcbBefore (s : Kernel) (k j : Nat) : Prop := pcbCompare (s.procs j) (s.procs k) > 0

instance (s : Kernel) : DecidableRel (pcbBefore s) := fun _ _ => inferInstanceAs (Decidable (_ > _))

theorem pcbBefore_strictWeak (s : Kernel) : StrictWeak (pcbBefore s) := by
  refine ⟨fun _ => ?_, fun h h' => ?_, fun _ h => ?_⟩ <;>
    simp only [pcbBefore, pcbCompare_pos_iff, pbsBefore] at * <;> omega

def passProcs (s : Kernel) (c : Nat) (cand : Option Nat) (j : Nat) : Proc :=
  if cand = some j then { (s.procs j) with lock := some c } else s.procs j

/-- Where a pass of CPU `c` from `s` stands after `k` slots: `c` holds the lock of the
candidate `cand` only, `mark` reads `cand` off `c`'s locals, and the other CPUs and the clock
are as in `s`. -/
structure PassAt (mark : Cpu → Option Nat → Prop) (s : Kernel) (c k : Nat) (cand : Option Nat)
    (t : Kernel) : Prop where
  procs : t.procs = passProcs s c cand
  pc : (t.cpus c).pc = .loop k
  mark : mark (t.cpus c) cand
  cpus_ne : ∀ c', c' ≠ c → t.cpus c' = s.cpus c'
  ticks : t.ticks = s.ticks

@[simp] theorem lockStep_ticks (s : Kernel) (c k : Nat) (rel : Option Nat) :
    (lockStep s c k rel).ticks = s.ticks := by
  unfold lockStep; split <;> rfl

theorem Proc.unlock_of_free {p : Proc} (h : p.lock = none) : { p with lock := none } = p := by
  rw [← h]

theorem lockStep_passProcs {s t : Kernel} {c k : Nat} {cand cand' rel : Option Nat}
    (ht : t.procs = passProcs s c cand) (hk : (s.procs k).lock = none) (hck : cand ≠ some k)
    (hcand : ∀ j, cand = some j → (s.procs j).lock = none)
    (hr : cand' = cand ∧ rel = some k ∨ cand' = some k ∧ rel = cand) :
    (lockStep t c k rel).procs = passProcs s c cand' := by
  have htk : t.procs k = s.procs k := by rw [ht, passProcs, if_neg hck]
  funext j
  rcases hr with ⟨rfl, rfl⟩ | ⟨rfl, rfl⟩
  · -- slot `k` is taken and released
    by_cases e : j = k
    · subst e; simp [lockStep, passProcs, htk, hck, Proc.unlock_of_free hk]
    · simp [lockStep, Function.update_noteq e, ht]
  · -- slot `k` becomes the candidate and the old candidate `r`, if any, is released
    rcases rel with _ | r
    · by_cases e : j = k
      · subst e; simp [lockStep, passProcs, htk]
      · simp [lockStep, Function.update_noteq e, ht, passProcs, Ne.symm e]
    · have hrk : r ≠ k := fun h => hck (h ▸ rfl)
      by_cases e : j = k
      · subst e; simp [lockStep, passProcs, htk, Function.update_noteq (Ne.symm hrk)]
      · by_cases er : j = r
        · subst er; simp [lockStep, passProcs, ht, Proc.unlock_of_free (hcand j rfl), e, Ne.symm e]
        · simp [lockStep, passProcs, ht, Function.update_noteq e, Function.update_noteq er, Ne.symm e,
            Ne.symm er]

section
variable {mark : Cpu → Option Nat → Prop} {s t : Kernel} {c k : Nat}

theorem PassAt.next {cand cand' rel : Option Nat} {x : Cpu} (h : PassAt mark s c k cand t)
    (hk : (s.procs k).lock = none) (hck : cand ≠ some k)
    (hcand : ∀ j, cand = some j → (s.procs j).lock = none)
    (hr : cand' = cand ∧ rel = some k ∨ cand' = some k ∧ rel = cand)
    (hx : x.pc = .loop (k + 1)) (hm : mark x cand') :
    PassAt mark s c (k + 1) cand' ((lockStep t c k rel).setCpu c x) :=
  ⟨lockStep_passProcs h.procs hk hck hcand hr, by simp [hx], by simpa using hm,
    fun c' e => by simp [Function.update_noteq e, h.cpus_ne c' e], by simp [h.ticks]⟩

theorem PassAt.procs_self {cand : Option Nat} (h : PassAt mark s c k cand t) (hck : cand ≠ some k) :
    t.procs k = s.procs k := by
  rw [h.procs, passProcs, if_neg hck]

theorem PassAt.procs_cand {j : Nat} (h : PassAt mark s c k (some j) t) :
    t.procs j = { (s.procs j) with lock := some c } := by
  rw [h.procs, passProcs, if_pos rfl]

end

theorem run_append (cfg : Config) (s : Kernel) (as bs : List Action) :
    run cfg s (as ++ bs) = (run cfg s as).bind fun t => run cfg t bs := by
  induction as generalizing s with
  | nil => rfl
  | cons a as ih =>
    simp only [List.cons_append, run, Option.bind_assoc]
    congr 1; funext t; exact ih t

theorem run_replicate_succ (cfg : Config) (s : Kernel) (a : Action) (k : Nat) :
    run cfg s (List.replicate (k + 1) a) = (run cfg s (List.replicate k a)).bind fun t => step cfg t a := by
  rw [List.replicate_succ', run_append]
  congr; funext t; simp only [run, Option.bind_some]

def PassPicks (cfg : Config) (s : Kernel) (c : Nat) (before : Nat → Nat → Prop) (t : Kernel) :
    Prop :=
  (∃ j, FirstLeast (Runnable s) before cfg.nproc j ∧ (t.cpus c).proc = some j ∧
      (t.cpus c).pc = .run ∧ (t.procs j).state = .running ∧ ∀ k, k ≠ j → t.procs k = s.procs k) ∨
    (∀ j < cfg.nproc, ¬ Runnable s j) ∧ (t.cpus c).pc = .top ∧ t.procs = s.procs

def PassEnds (t : Kernel) (c : Nat) (cand : Option Nat) (t' : Kernel) : Prop :=
  cand = none ∧ t' = t.setCpu c { t.cpus c with pc := .top } ∨
    ∃ j p, cand = some j ∧ t' = dispatch t c j p

section
variable {cfg : Config} {mark : Cpu → Option Nat → Prop} {s t t' : Kernel} {c : Nat}
  {before : Nat → Nat → Prop} [DecidableRel before]

theorem PassAt.picks (hb : StrictWeak before)
    (h : PassAt mark s c cfg.nproc (leastBelow (Runnable s) before cfg.nproc) t)
    (he : PassEnds t c (leastBelow (Runnable s) before cfg.nproc) t') :
    PassPicks cfg s c before t' := by
  rcases leastBelow_spec (Runnable s) hb cfg.nproc with ⟨hl, hn⟩ | ⟨j, hl, hj⟩ <;>
    rw [hl] at he h <;> rcases he with ⟨e, rfl⟩ | ⟨j', p, e, rfl⟩
  · refine .inr ⟨hn, by simp, ?_⟩
    funext j; simp [h.procs, passProcs]
  · cases e
  · cases e
  · cases e
    refine .inl ⟨j, hj, by simp [dispatch], by simp [dispatch], by simp [dispatch], fun k hk => ?_⟩
    simp [dispatch, Function.update_noteq hk, h.procs, passProcs, Ne.symm hk]

theorem PassAt.ends_unlocked {cand : Option Nat} (h : PassAt mark s c k cand t)
    (hfree : ∀ j, cand = some j → (s.procs j).lock = none) (he : PassEnds t c cand t') (j : Nat) :
    (t'.procs j).lock = (s.procs j).lock := by
  rcases he with ⟨rfl, rfl⟩ | ⟨i, p, rfl, rfl⟩
  · simp [h.procs, passProcs]
  · by_cases e : j = i
    · subst e; simp [dispatch, hfree j rfl]
    · simp [dispatch, Function.update_noteq e, h.procs, passProcs, Ne.symm e]

theorem PassEnds.cpu {cand : Option Nat} (he : PassEnds t c cand t') :
    (t'.cpus c).pc = .run ∧ (t'.cpus c).proc = cand ∨ cand = none ∧ (t'.cpus c).pc = .top := by
  rcases he with ⟨rfl, rfl⟩ | ⟨i, p, rfl, rfl⟩
  · exact .inr ⟨rfl, by simp⟩
  · exact .inl (by simp [dispatch])

end

/-- The locks of a pass of CPU `c` from `s`: after its first step and `k` iterations it holds
the lock of a candidate and no other, the candidate being none exactly when no slot below
`k` is RUNNABLE; iteration `k` takes slot `k`'s lock, which no one holds, and releases that
lock or the candidate's; the step after the last iteration runs the candidate or goes back to
the top of the loop, and then `c` holds no slot lock. -/
def LockDiscipline (cfg : Config) (s : Kernel) (c : Nat) : Prop :=
  ∀ k ≤ cfg.nproc, ∃ t cand, run cfg s (List.replicate (k + 1) (.sched c)) = some t ∧
    (t.cpus c).pc = .loop k ∧ (cand = none ↔ ∀ j < k, ¬ Runnable s j) ∧
    (∀ j, (t.procs j).lock = if cand = some j then some c else (s.procs j).lock) ∧
    (k < cfg.nproc → (t.procs k).lock = none ∧
      ∃ rel x, schedStep cfg t c = some ((lockStep t c k rel).setCpu c x) ∧
        (rel = some k ∨ rel = cand)) ∧
    (k = cfg.nproc → ∃ t', schedStep cfg t c = some t' ∧
      (∀ j, (t'.procs j).lock = (s.procs j).lock) ∧
      ((t'.cpus c).pc = .run ∧ (t'.cpus c).proc = cand ∨ cand = none ∧ (t'.cpus c).pc = .top))

/-- A table pass of CPU `c` from `s` as `scheduler()` takes it: its first step, its
iterations, each taking slot `k`'s lock and releasing that lock or the candidate's, and its
last step, keeping the running minimum of `before` with `mark` as its reading of the
candidate. -/
structure Pass (cfg : Config) (s : Kernel) (c : Nat) (mark : Cpu → Option Nat → Prop)
    (before : Nat → Nat → Prop) [DecidableRel before] : Prop where
  order : StrictWeak before
  start : ∃ t, schedStep cfg s c = some t ∧ PassAt mark s c 0 none t
  iter : ∀ k < cfg.nproc, ∀ t, PassAt mark s c k (leastBelow (Runnable s) before k) t →
    ∃ rel x, schedStep cfg t c = some ((lockStep t c k rel).setCpu c x) ∧
      (rel = some k ∨ rel = leastBelow (Runnable s) before k) ∧
      PassAt mark s c (k + 1) (leastBelow (Runnable s) before (k + 1))
        ((lockStep t c k rel).setCpu c x)
  finish : ∀ t, PassAt mark s c cfg.nproc (leastBelow (Runnable s) before cfg.nproc) t →
    ∃ t', schedStep cfg t c = some t' ∧ PassEnds t c (leastBelow (Runnable s) before cfg.nproc) t'

section
variable {cfg : Config} {mark : Cpu → Option Nat → Prop} {s : Kernel} {c : Nat}
  {before : Nat → Nat → Prop} [DecidableRel before]

theorem Pass.run (h : Pass cfg s c mark before) (hc : c < cfg.ncpu) :
    ∀ k ≤ cfg.nproc, ∃ t, run cfg s (List.replicate (k + 1) (.sched c)) = some t ∧
      PassAt mark s c k (leastBelow (Runnable s) before k) t := by
  intro k hk
  induction k with
  | zero =>
    obtain ⟨t, ht, h0⟩ := h.start
    exact ⟨t, by simp [OsnScheduling.run, step, hc, ht], h0⟩
  | succ k ih =>
    obtain ⟨t, hrun, ht⟩ := ih (Nat.le_of_succ_le hk)
    obtain ⟨rel, x, hs, -, ht'⟩ := h.iter k hk t ht
    exact ⟨_, by rw [run_replicate_succ, hrun]; simp [step, hc, hs], ht'⟩

theorem Pass.picks (h : Pass cfg s c mark before) (hc : c < cfg.ncpu) :
    ∃ t, OsnScheduling.run cfg s (List.replicate (cfg.nproc + 2) (.sched c)) = some t ∧
      PassPicks cfg s c before t := by
  obtain ⟨t, hrun, ht⟩ := h.run hc cfg.nproc le_rfl
  obtain ⟨t', hs, he⟩ := h.finish t ht
  exact ⟨t', by rw [run_replicate_succ, hrun]; simp [step, hc, hs], ht.picks h.order he⟩

theorem Pass.locks (h : Pass cfg s c mark before) (hc : c < cfg.ncpu)
    (hfree : ∀ j < cfg.nproc, (s.procs j).lock = none) : LockDiscipline cfg s c := by
  intro k hk
  obtain ⟨t, hrun, ht⟩ := h.run hc k hk
  have hb := h.order
  have hlt : ∀ j, leastBelow (Runnable s) before k = some j → j < cfg.nproc :=
    fun j e => Nat.lt_of_lt_of_le (leastBelow_lt hb e) hk
  refine ⟨t, leastBelow (Runnable s) before k, hrun, ht.pc, ?_, fun j => ?_, fun hk' => ⟨?_, ?_⟩,
    fun e => ?_⟩
  · rcases leastBelow_spec (Runnable s) hb k with ⟨e, hn⟩ | ⟨j, e, hj⟩
    · exact ⟨fun _ => hn, fun _ => e⟩
    · rw [e]; exact ⟨nofun, fun hn => (hn j hj.1 hj.2.1).elim⟩
  · rw [ht.procs, passProcs]; split_ifs <;> simp
  · rw [ht.procs_self fun e => Nat.lt_irrefl k (leastBelow_lt hb e)]; exact hfree k hk'
  · obtain ⟨rel, x, hs, hr, -⟩ := h.iter k hk' t ht
    exact ⟨rel, x, hs, hr⟩
  · subst e
    obtain ⟨t', hs, he⟩ := h.finish t ht
    exact ⟨t', hs, ht.ends_unlocked (fun j e => hfree j (hlt j e)) he, he.cpu⟩

end

/-! ### FCFS -/

def fcfsMark (s : Kernel) (x : Cpu) : Option Nat → Prop
  | none => x.firstStart = -1
  | some j => x.firstStart = (s.procs j).startTime ∧ x.toBeScheduled = some j

theorem fcfsIter_next {s : Kernel} {k : Nat} {x : Cpu}
    (hm : fcfsMark s x (leastBelow (Runnable s) (startsBefore s) k))
    (hstart : ∀ j, leastBelow (Runnable s) (startsBefore s) k = some j → (s.procs j).startTime ≠ -1) :
    fcfsMark s
        { x with
          firstStart := (fcfsIter k (s.procs k) x.firstStart x.toBeScheduled).1,
          toBeScheduled := (fcfsIter k (s.procs k) x.firstStart x.toBeScheduled).2.1,
          pc := .loop (k + 1) }
        (leastBelow (Runnable s) (startsBefore s) (k + 1)) ∧
      (leastBelow (Runnable s) (startsBefore s) (k + 1) = leastBelow (Runnable s) (startsBefore s) k ∧
          (fcfsIter k (s.procs k) x.firstStart x.toBeScheduled).2.2 = some k ∨
        leastBelow (Runnable s) (startsBefore s) (k + 1) = some k ∧
          (fcfsIter k (s.procs k) x.firstStart x.toBeScheduled).2.2 =
            leastBelow (Runnable s) (startsBefore s) k) := by
  simp only [leastBelow]
  cases hc : leastBelow (Runnable s) (startsBefore s) k with
  | none =>
    rw [hc] at hm
    simp only [fcfsMark] at hm
    unfold fcfsIter Runnable
    split_ifs <;> simp_all [fcfsMark]
  | some j =>
    rw [hc] at hm hstart
    dsimp only
    obtain ⟨h1, h2⟩ := hm
    have hj : x.firstStart ≠ -1 := h1 ▸ hstart j rfl
    by_cases hr : Runnable s k
    · have hr' : (s.procs k).state = .runnable := hr
      by_cases hlt : startsBefore s k j
      · have hlt' : (s.procs k).startTime < x.firstStart := h1 ▸ hlt
        rw [if_pos ⟨hr, hlt⟩]
        rw [show fcfsIter k (s.procs k) x.firstStart x.toBeScheduled = ((s.procs k).startTime, some k, some j)
          by simp only [fcfsIter, if_pos hr', if_neg hj, if_pos hlt', h2]]
        exact ⟨⟨rfl, rfl⟩, .inr ⟨rfl, rfl⟩⟩
      · have hlt' : ¬ (s.procs k).startTime < x.firstStart := h1 ▸ hlt
        rw [if_neg fun h => hlt h.2]
        rw [show fcfsIter k (s.procs k) x.firstStart x.toBeScheduled = (x.firstStart, x.toBeScheduled, some k)
          by simp only [fcfsIter, if_pos hr', if_neg hj, if_neg hlt']]
        exact ⟨⟨h1, h2⟩, .inl ⟨rfl, rfl⟩⟩
    · have hr' : ¬ (s.procs k).state = .runnable := hr
      rw [if_neg fun h => hr h.1]
      rw [show fcfsIter k (s.procs k) x.firstStart x.toBeScheduled = (x.firstStart, x.toBeScheduled, some k)
        by simp only [fcfsIter, if_neg hr']]
      exact ⟨⟨h1, h2⟩, .inl ⟨rfl, rfl⟩⟩

section
variable {cfg : Config} {s : Kernel} {c : Nat}

theorem fcfs_pass_start (hp : cfg.policy = .fcfs) (hpc : (s.cpus c).pc = .top) :
    ∃ t, schedStep cfg s c = some t ∧ PassAt (fcfsMark s) s c 0 none t := by
  refine ⟨s.setCpu c { (s.cpus c) with proc := none, firstStart := -1, pc := .loop 0 },
    by simp only [schedStep, hp, hpc], ⟨?_, by simp, by simp [fcfsMark],
      fun c' e => by simp [Function.update_noteq e], rfl⟩⟩
  funext j; simp [passProcs]

theorem fcfs_pass_step (hp : cfg.policy = .fcfs) (hfree : ∀ j < cfg.nproc, (s.procs j).lock = none)
    (hstart : ∀ j < cfg.nproc, Runnable s j → (s.procs j).startTime ≠ -1) {k : Nat} {t : Kernel}
    (hk : k < cfg.nproc) (h : PassAt (fcfsMark s) s c k (leastBelow (Runnable s) (startsBefore s) k) t) :
    ∃ rel x, schedStep cfg t c = some ((lockStep t c k rel).setCpu c x) ∧
      (rel = some k ∨ rel = leastBelow (Runnable s) (startsBefore s) k) ∧
      PassAt (fcfsMark s) s c (k + 1) (leastBelow (Runnable s) (startsBefore s) (k + 1))
        ((lockStep t c k rel).setCpu c x) := by
  have hb := startsBefore_strictWeak s
  have hck : leastBelow (Runnable s) (startsBefore s) k ≠ some k :=
    fun e => Nat.lt_irrefl k (leastBelow_lt hb e)
  have hcand : ∀ j, leastBelow (Runnable s) (startsBefore s) k = some j → j < cfg.nproc :=
    fun j e => Nat.lt_trans (leastBelow_lt hb e) hk
  have htk := h.procs_self hck
  obtain ⟨hm, hr⟩ := fcfsIter_next h.mark fun j e => hstart j (hcand j e) (leastBelow_pass hb e)
  refine ⟨_, _, ?_, hr.imp And.right And.right,
    h.next (hfree k hk) hck (fun j e => hfree j (hcand j e)) hr rfl hm⟩
  simp only [schedStep, hp, h.pc, if_pos hk, htk, if_pos (hfree k hk)]

theorem fcfs_pass_end (hp : cfg.policy = .fcfs)
    (hstart : ∀ j < cfg.nproc, Runnable s j → (s.procs j).startTime ≠ -1) {t : Kernel}
    (h : PassAt (fcfsMark s) s c cfg.nproc (leastBelow (Runnable s) (startsBefore s) cfg.nproc) t) :
    ∃ t', schedStep cfg t c = some t' ∧
      PassEnds t c (leastBelow (Runnable s) (startsBefore s) cfg.nproc) t' := by
  have hb := startsBefore_strictWeak s
  have hm := h.mark
  cases hc : leastBelow (Runnable s) (startsBefore s) cfg.nproc with
  | none =>
    rw [hc] at hm
    refine ⟨_, ?_, .inl ⟨rfl, rfl⟩⟩
    simp only [fcfsMark] at hm
    simp only [schedStep, hp, h.pc, lt_irrefl, if_false, hm, if_true]
  | some j =>
    rw [hc] at hm
    obtain ⟨hfs, htb⟩ := hm
    have hne := hstart j (leastBelow_lt hb hc) (leastBelow_pass hb hc)
    refine ⟨_, ?_, .inr ⟨j, t.procs j, rfl, rfl⟩⟩
    simp only [schedStep, hp, h.pc, lt_irrefl, if_false, hfs, hne, htb]

theorem fcfs_pass (hp : cfg.policy = .fcfs) (hpc : (s.cpus c).pc = .top)
    (hfree : ∀ j < cfg.nproc, (s.procs j).lock = none)
    (hstart : ∀ j < cfg.nproc, Runnable s j → (s.procs j).startTime ≠ -1) :
    Pass cfg s c (fcfsMark s) (startsBefore s) :=
  ⟨startsBefore_strictWeak s, fcfs_pass_start hp hpc, fun _ hk _ h => fcfs_pass_step hp hfree hstart hk h,
    fun _ h => fcfs_pass_end hp hstart h⟩

end

/-! ### PBS -/

def pbsMark (x : Cpu) : Option Nat → Prop
  | none => x.intialized = -1
  | some j => x.intialized ≠ -1 ∧ x.toBeScheduled = some j

theorem pbsIter_next {s : Kernel} {c k : Nat} {x : Cpu} {q : Option Proc}
    (hm : pbsMark x (leastBelow (Runnable s) (pcbBefore s) k))
    (hq : ∀ j, leastBelow (Runnable s) (pcbBefore s) k = some j →
      q = some { (s.procs j) with lock := some c }) :
    pbsMark
        { x with
          intialized := (pbsIter k (s.procs k) q x.intialized x.toBeScheduled).1,
          toBeScheduled := (pbsIter k (s.procs k) q x.intialized x.toBeScheduled).2.1,
          pc := .loop (k + 1) }
        (leastBelow (Runnable s) (pcbBefore s) (k + 1)) ∧
      (leastBelow (Runnable s) (pcbBefore s) (k + 1) = leastBelow (Runnable s) (pcbBefore s) k ∧
          (pbsIter k (s.procs k) q x.intialized x.toBeScheduled).2.2 = some k ∨
        leastBelow (Runnable s) (pcbBefore s) (k + 1) = some k ∧
          (pbsIter k (s.procs k) q x.intialized x.toBeScheduled).2.2 =
            leastBelow (Runnable s) (pcbBefore s) k) := by
  simp only [leastBelow]
  cases hc : leastBelow (Runnable s) (pcbBefore s) k with
  | none =>
    rw [hc] at hm
    simp only [pbsMark] at hm
    unfold pbsIter Runnable
    split_ifs <;> simp_all [pbsMark]
  | some j =>
    rw [hc] at hm hq
    dsimp only
    obtain ⟨h1, h2⟩ := hm
    have hcmp : (q.map fun q => decide (pcbCompare q (s.procs k) > 0)) =
        some (decide (pcbBefore s k j)) := by
      rw [hq j rfl]; rfl
    by_cases hr : Runnable s k
    · have hr' : (s.procs k).state = .runnable := hr
      by_cases hlt : pcbBefore s k j
      · rw [if_pos ⟨hr, hlt⟩]
        rw [show pbsIter k (s.procs k) q x.intialized x.toBeScheduled = (x.intialized, some k, some j)
          by simp only [pbsIter, if_pos hr', if_neg h1, hcmp, decide_eq_true hlt, h2, if_true]]
        exact ⟨⟨h1, rfl⟩, .inr ⟨rfl, rfl⟩⟩
      · rw [if_neg fun h => hlt h.2]
        rw [show pbsIter k (s.procs k) q x.intialized x.toBeScheduled = (x.intialized, x.toBeScheduled, some k)
          by simp only [pbsIter, if_pos hr', if_neg h1, hcmp, decide_eq_false hlt]; rfl]
        exact ⟨⟨h1, h2⟩, .inl ⟨rfl, rfl⟩⟩
    · have hr' : ¬ (s.procs k).state = .runnable := hr
      rw [if_neg fun h => hr h.1]
      rw [show pbsIter k (s.procs k) q x.intialized x.toBeScheduled = (x.intialized, x.toBeScheduled, some k)
        by simp only [pbsIter, if_neg hr']]
      exact ⟨⟨h1, h2⟩, .inl ⟨rfl, rfl⟩⟩

section
variable {cfg : Config} {s : Kernel} {c : Nat}

theorem pbs_pass_start (hp : cfg.policy = .pbs) (hpc : (s.cpus c).pc = .top) :
    ∃ t, schedStep cfg s c = some t ∧ PassAt pbsMark s c 0 none t := by
  refine ⟨s.setCpu c { (s.cpus c) with proc := none, intialized := -1, pc := .loop 0 },
    by simp only [schedStep, hp, hpc], ⟨?_, by simp, by simp [pbsMark],
      fun c' e => by simp [Function.update_noteq e], rfl⟩⟩
  funext j; simp [passProcs]

theorem pbs_pass_step (hp : cfg.policy = .pbs) (hfree : ∀ j < cfg.nproc, (s.procs j).lock = none)
    {k : Nat} {t : Kernel} (hk : k < cfg.nproc)
    (h : PassAt pbsMark s c k (leastBelow (Runnable s) (pcbBefore s) k) t) :
    ∃ rel x, schedStep cfg t c = some ((lockStep t c k rel).setCpu c x) ∧
      (rel = some k ∨ rel = leastBelow (Runnable s) (pcbBefore s) k) ∧
      PassAt pbsMark s c (k + 1) (leastBelow (Runnable s) (pcbBefore s) (k + 1))
        ((lockStep t c k rel).setCpu c x) := by
  have hb := pcbBefore_strictWeak s
  have hck : leastBelow (Runnable s) (pcbBefore s) k ≠ some k :=
    fun e => Nat.lt_irrefl k (leastBelow_lt hb e)
  have hcand : ∀ j, leastBelow (Runnable s) (pcbBefore s) k = some j → j < cfg.nproc :=
    fun j e => Nat.lt_trans (leastBelow_lt hb e) hk
  have htk := h.procs_self hck
  have hq : ∀ j, leastBelow (Runnable s) (pcbBefore s) k = some j →
      (t.cpus c).toBeScheduled.map t.procs = some { (s.procs j) with lock := some c } := by
    intro j e
    have hm := h.mark
    rw [e] at hm h
    rw [hm.2, Option.map_some', h.procs_cand]
  obtain ⟨hm, hr⟩ := pbsIter_next h.mark hq
  refine ⟨_, _, ?_, hr.imp And.right And.right,
    h.next (hfree k hk) hck (fun j e => hfree j (hcand j e)) hr rfl hm⟩
  simp only [schedStep, hp, h.pc, if_pos hk, htk, if_pos (hfree k hk)]

theorem pbs_pass_end (hp : cfg.policy = .pbs) {t : Kernel}
    (h : PassAt pbsMark s c cfg.nproc (leastBelow (Runnable s) (pcbBefore s) cfg.nproc) t) :
    ∃ t', schedStep cfg t c = some t' ∧
      PassEnds t c (leastBelow (Runnable s) (pcbBefore s) cfg.nproc) t' := by
  have hm := h.mark
  cases hc : leastBelow (Runnable s) (pcbBefore s) cfg.nproc with
  | none =>
    rw [hc] at hm
    refine ⟨_, ?_, .inl ⟨rfl, rfl⟩⟩
    simp only [pbsMark] at hm
    simp only [schedStep, hp, h.pc, lt_irrefl, if_false, hm, if_true]
  | some j =>
    rw [hc] at hm
    obtain ⟨hne, htb⟩ := hm
    refine ⟨_, ?_, .inr ⟨j, (t.procs j).onDispatch .pbs t.ticks, rfl, rfl⟩⟩
    simp only [schedStep, hp, h.pc, lt_irrefl, if_false, hne, htb]

theorem pbs_pass (hp : cfg.policy = .pbs) (hpc : (s.cpus c).pc = .top)
    (hfree : ∀ j < cfg.nproc, (s.procs j).lock = none) :
    Pass cfg s c pbsMark (pcbBefore s) :=
  ⟨pcbBefore_strictWeak s, pbs_pass_start hp hpc, fun _ hk _ h => pbs_pass_step hp hfree hk h,
    fun _ h => pbs_pass_end hp h⟩

end

/-! ### The passes -/

section
variable {cfg : Config} {s : Kernel} {c : Nat}

theorem pass_dispatches_first_least (hc : c < cfg.ncpu) (hpc : (s.cpus c).pc = .top)
    (hfree : ∀ j < cfg.nproc, (s.procs j).lock = none) :
    (cfg.policy = .fcfs → (∀ j < cfg.nproc, Runnable s j → (s.procs j).startTime ≠ -1) →
      ∃ t, run cfg s (List.replicate (cfg.nproc + 2) (.sched c)) = some t ∧
        PassPicks cfg s c (startsBefore s) t) ∧
    (cfg.policy = .pbs →
      ∃ t, run cfg s (List.replicate (cfg.nproc + 2) (.sched c)) = some t ∧
        PassPicks cfg s c (fun k j => pbsBefore (s.procs k) (s.procs j)) t) ∧
    ∀ p q, pcbCompare q p > 0 ↔ pbsBefore p q := by
  refine ⟨fun hp hstart => (fcfs_pass hp hpc hfree hstart).picks hc, fun hp => ?_, pcbCompare_pos_iff⟩
  have e : pcbBefore s = fun k j => pbsBefore (s.procs k) (s.procs j) :=
    funext fun k => funext fun j => propext (pcbCompare_pos_iff _ _)
  obtain ⟨t, hrun, hpk⟩ := (pbs_pass hp hpc hfree).picks hc
  exact ⟨t, hrun, e ▸ hpk⟩

theorem pass_holds_candidate_lock (hp : cfg.policy = .fcfs ∨ cfg.policy = .pbs)
    (hc : c < cfg.ncpu) (hpc : (s.cpus c).pc = .top) (hfree : ∀ j < cfg.nproc, (s.procs j).lock = none)
    (hstart : cfg.policy = .fcfs → ∀ j < cfg.nproc, Runnable s j → (s.procs j).startTime ≠ -1) :
    LockDiscipline cfg s c := by
  rcases hp with hp | hp
  · exact (fcfs_pass hp hpc hfree (hstart hp)).locks hc hfree
  · exact (pbs_pass hp hpc hfree).locks hc hfree

end

def sampleFcfs : Config := { sampleDefault with policy := .fcfs }

/-- A table for FCFS: slot 0 RUNNABLE with the start time -1, slot 1 RUNNABLE with start
time 0. -/
def fcfsMinusOne : Kernel :=
  { Kernel.zero with
    procs := fun j =>
      if j = 0 then { Proc.zero with state := .runnable, startTime := -1 }
      else if j = 1 then { Proc.zero with state := .runnable } else Proc.zero }

theorem fcfs_passes_over_start_minus_one :
    ∃ t, run sampleFcfs fcfsMinusOne (List.replicate 5 (.sched 0)) = some t ∧
      (t.cpus 0).pc = .run ∧ (t.cpus 0).proc = some 1 ∧ Runnable fcfsMinusOne 0 ∧
      startsBefore fcfsMinusOne 0 1 :=
  ⟨_, (Option.some_get (by decide : (run sampleFcfs fcfsMinusOne (List.replicate 5 (.sched 0))).isSome)).symm,
    by decide, by decide, by decide, by decide⟩

theorem fcfs_leaks_candidate_lock :
    ∃ t, run sampleFcfs fcfsMinusOne (List.replicate 5 (.sched 0)) = some t ∧
      (t.cpus 0).pc = .run ∧ (t.cpus 0).proc = some 1 ∧ (t.procs 0).lock = some 0 :=
  ⟨_, (Option.some_get (by decide : (run sampleFcfs fcfsMinusOne (List.replicate 5 (.sched 0))).isSome)).symm,
    by decide, by decide, by decide⟩

end OsnScheduling
