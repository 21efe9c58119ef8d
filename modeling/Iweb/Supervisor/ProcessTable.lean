import Mathlib.Algebra.Group.Int.Defs
import Mathlib.Algebra.GroupWithZero.Nat
import Mathlib.Data.List.Basic
import Mathlib.Logic.Function.Basic

/-!
# The process table and its stat lines

The process table of the kernel as proc(5) shows it: a process has one line in `/proc/<pid>/stat`. The start
time, field 22, is constant for the life of a process and new for every later process with its pid; every
other field may change at any time, and the command name is any string.
-/

namespace Iweb

/-! ## Stat lines -/

/-- What a stat line says of its process: the command name, the state letter, and the numbers from field 4
to field 52, each in the range of its C type. -/
structure ProcStat where
  comm : List Char
  state : Char
  numbers : List Int
  letter : state ≠ ' ' ∧ state ≠ ')'
  complete : numbers.length = 49
  bounded : ∀ n ∈ numbers, -2 ^ 63 ≤ n ∧ n < 2 ^ 64

/-- A decimal number as the kernel prints it. -/
def decimal : Int → List Char
  | .ofNat n => Nat.toDigits 10 n
  | .negSucc n => '-' :: Nat.toDigits 10 (n + 1)

namespace ProcStat

/-- A field after the state letter, numbered as in proc(5). -/
def field (stat : ProcStat) (n : Nat) : Int := stat.numbers.getD (n - 4) 0

def startTime (stat : ProcStat) : Int := stat.field 22

def vsize (stat : ProcStat) : Int := stat.field 23

/-- A zombie or a dead process. -/
def dead (stat : ProcStat) : Bool := stat.state == 'Z' || stat.state == 'X' || stat.state == 'x'

/-- The text of `/proc/<pid>/stat`. -/
def line (pid : Nat) (stat : ProcStat) : List Char :=
  decimal pid ++ ' ' :: '(' :: stat.comm ++ ')' :: ' ' :: stat.state ::
    stat.numbers.flatMap (fun n => ' ' :: decimal n) ++ ['\n']

end ProcStat

/-! ## The table -/

/-- A process: which one of all that were ever started it is, and what its line says now. -/
structure Process where
  incarnation : Nat
  stat : ProcStat

/-- The processes by pid, the number of processes started so far, those that have exited, and the start
times each pid has had. -/
structure ProcessTable where
  at? : Nat → Option Process
  born : Nat
  exited : List Nat
  startTimes : Nat → List Int
  started : ∀ pid process, at? pid = some process → process.incarnation < born
  exits : ∀ i ∈ exited, i < born
  zombies : ∀ pid process, at? pid = some process →
    (process.stat.dead = true ↔ process.incarnation ∈ exited)
  unique : ∀ pid pid' process process', at? pid = some process → at? pid' = some process' →
    process.incarnation = process'.incarnation → pid = pid'
  dated : ∀ pid process, at? pid = some process → process.stat.startTime ∈ startTimes pid

namespace ProcessTable

def empty : ProcessTable where
  at? := fun _ => none
  born := 0
  exited := []
  startTimes := fun _ => []
  started := fun _ _ h => nomatch h
  exits := fun _ h => nomatch h
  zombies := fun _ _ h => nomatch h
  unique := fun _ _ _ _ h => nomatch h
  dated := fun _ _ h => nomatch h

/-- A process is started under a free pid, with a start time that no process has had under it. -/
def fork (table : ProcessTable) (pid : Nat) (stat : ProcStat) : Option ProcessTable :=
  if h : table.at? pid = none ∧ 0 < pid ∧ stat.startTime ∉ table.startTimes pid ∧ stat.dead = false then
    some
      { at? := Function.update table.at? pid (some ⟨table.born, stat⟩)
        born := table.born + 1
        exited := table.exited
        startTimes := Function.update table.startTimes pid (stat.startTime :: table.startTimes pid)
        started := by
          intro q process hq
          by_cases hpid : q = pid
          · subst hpid
            rw [Function.update_self] at hq
            cases hq
            exact Nat.lt_succ_self _
          · rw [Function.update_of_ne hpid] at hq
            exact Nat.lt_succ_of_lt (table.started q process hq)
        exits := fun i hi => Nat.lt_succ_of_lt (table.exits i hi)
        zombies := by
          intro q process hq
          by_cases hpid : q = pid
          · subst hpid
            rw [Function.update_self] at hq
            cases hq
            constructor
            · intro hdead
              rw [h.2.2.2] at hdead
              cases hdead
            · exact fun hexit => absurd (table.exits _ hexit) (Nat.lt_irrefl _)
          · rw [Function.update_of_ne hpid] at hq
            exact table.zombies q process hq
        unique := by
          have hold : ∀ q process, q ≠ pid →
              Function.update table.at? pid (some ⟨table.born, stat⟩) q = some process →
              process.incarnation < table.born ∧ table.at? q = some process := by
            intro q process hq hat
            rw [Function.update_of_ne hq] at hat
            exact ⟨table.started q process hat, hat⟩
          intro q q' process process' hq hq' hsame
          by_cases hpid : q = pid <;> by_cases hpid' : q' = pid
          · rw [hpid, hpid']
          · have hlt := (hold q' process' hpid' hq').1
            rw [hpid, Function.update_self] at hq
            cases hq
            exact absurd (hsame ▸ hlt) (Nat.lt_irrefl _)
          · have hlt := (hold q process hpid hq).1
            rw [hpid', Function.update_self] at hq'
            cases hq'
            exact absurd (hsame ▸ hlt) (Nat.lt_irrefl _)
          · exact table.unique q q' process process' (hold q process hpid hq).2 (hold q' process' hpid' hq').2
              hsame
        dated := by
          intro q process hq
          by_cases hpid : q = pid
          · subst hpid
            rw [Function.update_self] at hq ⊢
            cases hq
            exact List.mem_cons_self
          · rw [Function.update_of_ne hpid] at hq ⊢
            exact table.dated q process hq }
  else none

/-- The line of a process is replaced by one with the same start time. Where the new state letter is that of
a zombie, the process has exited. -/
def rewrite (table : ProcessTable) (pid : Nat) (stat : ProcStat) : Option ProcessTable :=
  match hat : table.at? pid with
  | none => none
  | some process =>
    if h : stat.startTime = process.stat.startTime ∧ (process.stat.dead = true → stat.dead = true) then
      some
        { at? := Function.update table.at? pid (some ⟨process.incarnation, stat⟩)
          born := table.born
          exited := if stat.dead then process.incarnation :: table.exited else table.exited
          startTimes := table.startTimes
          started := by
            intro q other hq
            by_cases hpid : q = pid
            · subst hpid
              rw [Function.update_self] at hq
              cases hq
              exact table.started q process hat
            · rw [Function.update_of_ne hpid] at hq
              exact table.started q other hq
          exits := by
            intro i hi
            split at hi
            · rcases List.mem_cons.mp hi with rfl | hi
              · exact table.started pid process hat
              · exact table.exits i hi
            · exact table.exits i hi
          zombies := by
            intro q other hq
            by_cases hpid : q = pid
            · subst hpid
              rw [Function.update_self] at hq
              cases hq
              dsimp only
              split
              · rename_i hdead
                exact ⟨fun _ => List.mem_cons_self, fun _ => hdead⟩
              · rename_i hlive
                refine ⟨fun hdead => absurd hdead hlive, fun hexit => ?_⟩
                exact h.2 ((table.zombies q process hat).mpr hexit)
            · have hne : other.incarnation ≠ process.incarnation := by
                rw [Function.update_of_ne hpid] at hq
                exact fun hsame => hpid (table.unique q pid other process hq hat hsame)
              rw [Function.update_of_ne hpid] at hq
              rw [table.zombies q other hq]
              split
              · exact ⟨List.mem_cons_of_mem _, fun hmem => (List.mem_cons.mp hmem).resolve_left hne⟩
              · exact Iff.rfl
          unique := by
            have hold : ∀ q other, Function.update table.at? pid (some ⟨process.incarnation, stat⟩) q = some other →
                ∃ before, table.at? q = some before ∧ before.incarnation = other.incarnation := by
              intro q other hq
              by_cases hpid : q = pid
              · subst hpid
                rw [Function.update_self] at hq
                cases hq
                exact ⟨process, hat, rfl⟩
              · rw [Function.update_of_ne hpid] at hq
                exact ⟨other, hq, rfl⟩
            intro q q' other other' hq hq' hsame
            obtain ⟨before, hbefore, hinc⟩ := hold q other hq
            obtain ⟨before', hbefore', hinc'⟩ := hold q' other' hq'
            exact table.unique q q' before before' hbefore hbefore' (by rw [hinc, hinc', hsame])
          dated := by
            intro q other hq
            by_cases hpid : q = pid
            · subst hpid
              rw [Function.update_self] at hq
              cases hq
              dsimp only
              rw [h.1]
              exact table.dated q process hat
            · rw [Function.update_of_ne hpid] at hq
              exact table.dated q other hq }
    else none

/-- A zombie is reaped by its parent, and its pid is free again. -/
def reap (table : ProcessTable) (pid : Nat) : Option ProcessTable :=
  match table.at? pid with
  | none => none
  | some process =>
    if process.stat.dead then
      have hold : ∀ q other, Function.update table.at? pid none q = some other → table.at? q = some other := by
        intro q other hq
        by_cases hpid : q = pid
        · subst hpid
          rw [Function.update_self] at hq
          cases hq
        · rwa [Function.update_of_ne hpid] at hq
      some
        { at? := Function.update table.at? pid none
          born := table.born
          exited := table.exited
          startTimes := table.startTimes
          started := fun q other hq => table.started q other (hold q other hq)
          exits := table.exits
          zombies := fun q other hq => table.zombies q other (hold q other hq)
          unique := fun q q' other other' hq hq' =>
            table.unique q q' other other' (hold q other hq) (hold q' other' hq')
          dated := fun q other hq => table.dated q other (hold q other hq) }
    else none

/-- What reading `/proc/<pid>/stat` yields; `none`: there is no such file. -/
def stat (table : ProcessTable) (pid : Nat) : Option (List Char) :=
  (table.at? pid).map fun process => process.stat.line pid

/-- Which process has the pid. -/
def incarnation (table : ProcessTable) (pid : Nat) : Option Nat :=
  (table.at? pid).map Process.incarnation

end ProcessTable

end Iweb
