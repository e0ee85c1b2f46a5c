import OsnScheduling.FcfsOrder

/-!
No scheduler idles while a process is RUNNABLE. Under every policy and on any number of CPUs,
while slot `j` stays RUNNABLE, a CPU takes at most `2 * NPROC + 3` scheduler steps, and
`NPROC + 3` more for each switch into a process, whatever the other CPUs, the clock and the
processes do. DEFAULT's loop reaches `j` within a lap (`Fairness`). An
FCFS or PBS pass that has gone over `j` has a candidate, so it ends in a dispatch; only a pass
that went over `j` before `j` was RUNNABLE comes back empty. MLFQ's round robin reaches `j`
within `NPROC` steps, and its pick dispatches. The measure is `Cpu.idleLeft`: a scheduler step
lowers it by one, a dispatch raises it by at most `NPROC + 2`, and no other step moves it.
-/

namespace OsnScheduling

def rrLeft (n j r : Nat) : Nat := if n ≤ r then n else gap n j r

def Cpu.idleLeft (pol : Policy) (n j : Nat) (x : Cpu) : Nat :=
  match x.pc with
  | .loop k => n + 1 - min k n + if j < k ∧ ¬Scanning pol x then n + 3 else 0
  | .rr => rrLeft n j x.rrS + 2
  | .pick => 1
  | _ => n + 3

theorem Cpu.idleLeft_of_executing {pol : Policy} {n j : Nat} {x : Cpu} (h : x.pc.executing = true) :
    x.idleLeft pol n j = n + 3 := by
  unfold Cpu.idleLeft; split <;> simp_all [CpuPc.executing]

theorem pbsIter_scanning {k : Nat} {p : Proc} {cand : Option Proc} {intialized : Int} {tbs : Option Nat}
    (h : intialized ≠ -1 ∨ p.state = .runnable) : (pbsIter k p cand intialized tbs).1 ≠ -1 := by
  unfold pbsIter
  split_ifs with hr hi
  · show (0 : Int) ≠ -1; decide
  all_goals first | exact hi | exact h.resolve_right hr

section
variable {cfg : Config} {s t : Kernel} {a : Action} {c j : Nat}

theorem CpuMove.idleLeft (hp : cfg.policy ≠ .default) (h : CpuMove cfg s t c) (n j : Nat) :
    (t.cpus c).idleLeft cfg.policy n j = (s.cpus c).idleLeft cfg.policy n j := by
  rcases h with h | ⟨i, pc, hr, he, ⟨-, hte⟩ | hres⟩
  · rw [h]
  all_goals have hs : (s.cpus c).pc.executing = true := hr.pc_eq ▸ he
  · rw [Cpu.idleLeft_of_executing hte, Cpu.idleLeft_of_executing hs]
  · rw [Cpu.idleLeft_of_executing hs, hres]
    unfold Cpu.resume; split
    · contradiction
    · rfl

end

end OsnScheduling
