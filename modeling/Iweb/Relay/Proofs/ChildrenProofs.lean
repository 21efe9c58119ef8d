import Iweb.Foundations.ListUpdates
import Iweb.Relay.Children
import Mathlib.Data.List.Nodup

/-!
# The exits of the children

What the child table says of a child is kept by every step of a careful order: a child whose spawn has answered has its
entry until it is old, the entry tells its exit from the moment it is recorded, and an exit in the table is that of a
child of the command. A command has one spawn under way at a time, and none while it has an entry.
-/

namespace Iweb.Relay

open CrashRefinement ListUpdates

/-! ## Eviction -/

theorem removeFirstExited_eq_none {entries : List ChildEntry} :
    removeFirstExited entries = none ↔ ∀ e ∈ entries, e.status.exitCode = none := by
  induction entries with
  | nil => exact iff_of_true rfl nofun
  | cons e entries ih =>
    rw [removeFirstExited, List.forall_mem_cons]
    cases hexit : e.status.exitCode with
    | none =>
      rw [Option.isSome_none, if_neg Bool.false_ne_true, Option.map_eq_none_iff, ih]
      exact (and_iff_right rfl).symm
    | some code =>
      rw [Option.isSome_some, if_pos rfl]
      exact iff_of_false nofun fun hall => nomatch hall.1

/-- The entry taken out is the first exited one. -/
theorem removeFirstExited_eq_some {entries rest : List ChildEntry} (h : removeFirstExited entries = some rest) :
    ∃ e l r, firstExited entries = some e ∧ entries = l ++ e :: r ∧ rest = l ++ r := by
  induction entries generalizing rest with
  | nil => exact nomatch h
  | cons e entries ih =>
    rw [removeFirstExited] at h
    unfold firstExited
    rw [List.find?_cons]
    by_cases hexit : e.status.exitCode.isSome = true
    · rw [if_pos hexit] at h
      cases h
      rw [hexit]
      exact ⟨e, [], entries, rfl, rfl, rfl⟩
    · rw [if_neg hexit, Option.map_eq_some_iff] at h
      obtain ⟨rest', hrest, rfl⟩ := h
      obtain ⟨e', l, r, hfirst, rfl, rfl⟩ := ih hrest
      rw [Bool.eq_false_iff.mpr hexit]
      exact ⟨e', e :: l, r, hfirst, rfl, rfl⟩

theorem evictTimes_running {entries : List ChildEntry} (h : ∀ e ∈ entries, e.status.exitCode = none) (n : ℕ) :
    evictTimes n entries = entries := by
  cases n with
  | zero => rfl
  | succ n =>
    rw [evictTimes, removeFirstExited_eq_none.mpr h]

/-- A table that holds one entry too many, or one exited entry, loses at most its first exited entry. -/
theorem evictLocked_cases {entries : List ChildEntry} (h : entries.length ≤ childTableMax + 1 ∨
    ∀ rest, removeFirstExited entries = some rest → ∀ e ∈ rest, e.status.exitCode = none) :
    (evictLocked entries = entries ∧
      (entries.length ≤ childTableMax ∨ ∀ e ∈ entries, e.status.exitCode = none)) ∨
    (childTableMax < entries.length ∧ ∃ e l r, firstExited entries = some e ∧ entries = l ++ e :: r ∧
      evictLocked entries = l ++ r ∧ ((l ++ r).length ≤ childTableMax ∨ ∀ e ∈ l ++ r, e.status.exitCode = none)) := by
  unfold evictLocked
  cases hover : entries.length - childTableMax with
  | zero => exact .inl ⟨rfl, .inl (Nat.sub_eq_zero_iff_le.mp hover)⟩
  | succ n =>
    rw [evictTimes]
    cases hremove : removeFirstExited entries with
    | none => exact .inl ⟨rfl, .inr (removeFirstExited_eq_none.mp hremove)⟩
    | some rest =>
      obtain ⟨e, l, r, hfirst, hentries, rfl⟩ := removeFirstExited_eq_some hremove
      have hlength : entries.length = (l ++ r).length + 1 := by
        rw [hentries, List.length_append, List.length_append, List.length_cons, Nat.add_assoc]
      refine .inr ⟨by omega, e, l, r, hfirst, hentries, ?_⟩
      rcases h with hone | hrunning
      · obtain rfl : n = 0 := by omega
        exact ⟨rfl, .inl (by omega)⟩
      · have hall := hrunning _ hremove
        exact ⟨evictTimes_running hall n, .inr hall⟩

/-! ## The children of a command -/

theorem length_takeWhile_le {α : Type} {p : α → Bool} {l : List α} {k : ℕ} {a : α} (h : l[k]? = some a)
    (ha : p a = false) : (l.takeWhile p).length ≤ k := by
  induction l generalizing k with
  | nil => exact nomatch h
  | cons b l ih =>
    rw [List.takeWhile_cons]
    cases k with
    | zero =>
      obtain rfl : b = a := Option.some.inj h
      rw [ha]
      exact Nat.le_refl 0
    | succ k =>
      split
      · exact Nat.succ_le_succ (ih h)
      · exact Nat.zero_le _

/-- The children after the last one of a command come after each of its children. -/
theorem laterStarts_le {children : List Child} {i : ℕ} {child : Child} (h : children[i]? = some child) :
    laterStarts children child.command ≤ children.length - i - 1 := by
  obtain ⟨hi, hget⟩ := List.getElem?_eq_some_iff.mp h
  unfold laterStarts
  refine length_takeWhile_le (a := child) ?_ (by simp)
  rw [List.getElem?_reverse (by omega)]
  rw [show children.length - 1 - (children.length - i - 1) = i by omega, h]

/-- What the table says of a process. -/
def exitOf : ProcessPhase → Option ℕ
  | .recorded code => some code
  | _ => none

theorem exitOf_eq_some {process : ProcessPhase} {code : ℕ} : exitOf process = some code ↔ process = .recorded code := by
  cases process with
  | recorded code' => exact ⟨fun h => congrArg _ (Option.some.inj h), fun h => by rw [h]; rfl⟩
  | _ => exact iff_of_false nofun nofun

/-- The child needs no entry: its exit is recorded and as many children as the table holds were started after it. -/
def Old (children : List Child) (i : ℕ) (child : Child) : Prop :=
  ∃ code, child.process = .recorded code ∧ childTableMax ≤ children.length - i - 1

/-- What every step keeps, but for the number of entries. -/
structure Core (s : RelayState) : Prop where
  commands : (s.entries.map (·.command)).Nodup
  one_call : ∀ (i j : ℕ) (a b : Child), s.children[i]? = some a → s.children[j]? = some b → a.call ≠ .answered →
    b.call ≠ .answered → a.command = b.command → a.command ∉ s.discarded → i = j
  absent : ∀ a ∈ s.children, a.call ≠ .answered → a.command ∉ s.discarded → a.command ∉ s.entries.map (·.command)
  unrecorded : ∀ a ∈ s.children, a.call ≠ .answered → a.command ∉ s.discarded → exitOf a.process = none
  own : ∀ e ∈ s.entries, ∀ code, e.status.exitCode = some code →
    ∃ a ∈ s.children, a.command = e.command ∧ a.pid = e.status.pid ∧ a.process = .recorded code
  kept : ∀ (i : ℕ) (a : Child), s.children[i]? = some a → a.call = .answered → a.command ∉ s.discarded →
    Old s.children i a ∨ ∃ e ∈ s.entries, e.command = a.command ∧ e.status = ⟨a.pid, exitOf a.process⟩
  older : ∀ (i j : ℕ) (a b : Child), i < j → s.children[i]? = some a → s.children[j]? = some b →
    a.command = b.command → a.command ∉ s.discarded → Old s.children i a
  discarding : ∀ command ∈ s.discarding, command ∈ s.discarded
  once : (s.children.flatMap (·.handoffs)).Nodup
  serials : (s.held.map (·.serial)).Nodup ∧ ∀ h ∈ s.held, h.serial < s.nextSerial
  used : ∀ a ∈ s.children, ∀ h ∈ a.handoffs, h.serial < s.nextSerial
  held_used : ∀ h ∈ s.held, ∀ a ∈ s.children, h ∈ a.handoffs → a.call = .forked ∧ a.command = h.command

/-- The invariant. A table with too many entries has only running ones. -/
structure Kept (s : RelayState) : Prop extends Core s where
  bounded : s.entries.length ≤ childTableMax ∨ ∀ e ∈ s.entries, e.status.exitCode = none

/-- The entry of a command is what a wait reads. -/
theorem waitForExit_of_mem {entries : List ChildEntry} (h : (entries.map (·.command)).Nodup) {e : ChildEntry}
    (he : e ∈ entries) : waitForExit entries e.command = some e.status := by
  unfold waitForExit
  cases hfind : entries.find? (·.command == e.command) with
  | none =>
    have hnone := List.find?_eq_none.mp hfind e he
    exact absurd (beq_self_eq_true e.command) hnone
  | some e' =>
    have hcommand : e'.command = e.command := by simpa only [beq_iff_eq] using List.find?_some hfind
    rw [List.inj_on_of_nodup_map h (List.mem_of_find?_eq_some hfind) he hcommand]
    rfl

theorem Kept.truthful {s : RelayState} (h : Kept s) : Truthful s where
  once := h.once
  exit_kept i child code hi hcall hprocess hkeep hlater := by
    rcases h.kept i child hi hcall hkeep with ⟨_, -, hold⟩ | ⟨e, he, hcommand, hstatus⟩
    · omega
    · rw [← hcommand, waitForExit_of_mem h.commands he, hstatus, hprocess]
      rfl
  running_kept i child hi hcall hprocess hkeep := by
    rcases h.kept i child hi hcall hkeep with ⟨code, hrecorded, -⟩ | ⟨e, he, hcommand, hstatus⟩
    · exact absurd hrecorded (hprocess code)
    · rw [← hcommand, waitForExit_of_mem h.commands he, hstatus]
      have hexit : exitOf child.process = none := by
        cases hphase : child.process with
        | recorded code => exact absurd hphase (hprocess code)
        | _ => rfl
      rw [hexit]
  own_exit command pid code hwait := by
    unfold waitForExit at hwait
    rw [Option.map_eq_some_iff] at hwait
    obtain ⟨e, hfind, hstatus⟩ := hwait
    have hcommand : e.command = command := by simpa only [beq_iff_eq] using List.find?_some hfind
    obtain ⟨child, hchild, hc, hp, hr⟩ := h.own e (List.mem_of_find?_eq_some hfind) code (by rw [hstatus])
    exact ⟨child, hchild, hc.trans hcommand, by rw [hp, hstatus], hr⟩

/-! ## Steps that change one child -/

section

variable {s : RelayState} {i : ℕ} {a a' : Child}

theorem Old.set {children : List Child} {j : ℕ} {b : Child} (h : Old children j b) : Old (children.set i a') j b := by
  unfold Old
  rw [List.length_set]
  exact h

theorem laterStarts_eq (children : List Child) (command : String) :
    laterStarts children command = ((children.map (·.command)).reverse.takeWhile fun c => !(c == command)).length := by
  unfold laterStarts
  rw [← List.map_reverse, List.takeWhile_map, List.length_map]
  rfl

/-- What a child shows that no step changes. -/
structure Same (a' a : Child) : Prop where
  command : a'.command = a.command
  pid : a'.pid = a.pid
  handoffs : a'.handoffs = a.handoffs

/-- The clauses about handoffs are kept when one child changes and some handoffs are taken away. -/
theorem Core.held_used_update (h : Core s) (hi : s.children[i]? = some a) (hsame : Same a' a) {held : List Handoff}
    (hheld : ∀ x ∈ held, x ∈ s.held) (hcall : ∀ x ∈ held, x ∈ a'.handoffs → a'.call = .forked) :
    ∀ x ∈ held, ∀ b ∈ s.children.set i a', x ∈ b.handoffs → b.call = .forked ∧ b.command = x.command := by
  intro x hx b hb hmem
  rcases List.mem_or_eq_of_mem_set hb with hb | rfl
  · exact h.held_used x (hheld x hx) b hb hmem
  · rw [hsame.handoffs] at hmem
    refine ⟨hcall x hx (hsame.handoffs ▸ hmem), hsame.command.trans ?_⟩
    exact (h.held_used x (hheld x hx) a (List.mem_of_getElem? hi) hmem).2

theorem Core.used_update (h : Core s) (hi : s.children[i]? = some a) (hsame : Same a' a) :
    ∀ b ∈ s.children.set i a', ∀ x ∈ b.handoffs, x.serial < s.nextSerial := by
  intro b hb x hx
  rcases List.mem_or_eq_of_mem_set hb with hb | rfl
  · exact h.used b hb x hx
  · rw [hsame.handoffs] at hx
    exact h.used a (List.mem_of_getElem? hi) x hx

theorem Core.once_update (h : Core s) (hi : s.children[i]? = some a) (hsame : Same a' a) :
    ((s.children.set i a').flatMap (·.handoffs)).Nodup := by
  rw [List.flatMap_def, map_set_of_eq hi hsame.handoffs, ← List.flatMap_def]
  exact h.once

/-- The children before a later one of their command stay old when one child changes and a recorded exit stays. -/
theorem Core.older_update (h : Core s) (hi : s.children[i]? = some a) (hsame : Same a' a)
    (hrecorded : ∀ code, a.process = .recorded code → a'.process = .recorded code) (j k : ℕ) (b c : Child) (hjk : j < k)
    (hb : (s.children.set i a')[j]? = some b) (hc : (s.children.set i a')[k]? = some c)
    (hcommand : b.command = c.command) (hkeep : b.command ∉ s.discarded) : Old (s.children.set i a') j b := by
  rcases set_cases hb with ⟨rfl, rfl⟩ | ⟨hj, hb'⟩
  · rcases set_cases hc with ⟨hk, -⟩ | ⟨-, hc⟩
    · exact absurd hk (Nat.ne_of_gt hjk)
    · rw [hsame.command] at hcommand hkeep
      obtain ⟨code, hcode, hlate⟩ := h.older j k a c hjk hi hc hcommand hkeep
      exact ⟨code, hrecorded code hcode, (@List.length_set Child s.children j b).symm ▸ hlate⟩
  · rcases set_cases hc with ⟨hk, heqc⟩ | ⟨-, hc⟩
    · subst hk heqc
      exact (h.older j k b a hjk hb' hi (hcommand.trans hsame.command) hkeep).set
    · exact (h.older j k b c hjk hb' hc hcommand hkeep).set

/-- The steps that leave the table alone: the child's spawn is not answered by them, and the table says the same of
the process before and after. -/
theorem Core.update (h : Core s) (hi : s.children[i]? = some a) (hsame : Same a' a)
    (hexit : exitOf a'.process = exitOf a.process) (hanswer : a'.call = .answered ↔ a.call = .answered)
    {held : List Handoff} (hheld : held.Sublist s.held)
    (hcall : ∀ x ∈ held, x ∈ a'.handoffs → a'.call = .forked) :
    Core { s.updateChild i a' with held := held } where
  commands := h.commands
  one_call j k b c hb hc hcallb hcallc hcommand hkeep := by
    rcases set_cases hb with ⟨hj, heqb⟩ | ⟨hj, hb'⟩ <;> rcases set_cases hc with ⟨hk, heqc⟩ | ⟨hk, hc'⟩
    · exact hj.trans hk.symm
    · subst hj heqb
      rw [hsame.command] at hcommand hkeep
      exact h.one_call _ _ a c hi hc' (fun h => hcallb (hanswer.mpr h)) hcallc hcommand hkeep
    · subst hk heqc
      rw [hsame.command] at hcommand
      exact h.one_call _ _ b a hb' hi hcallb (fun h => hcallc (hanswer.mpr h)) hcommand hkeep
    · exact h.one_call _ _ b c hb' hc' hcallb hcallc hcommand hkeep
  absent b hb hcallb hkeep := by
    rcases List.mem_or_eq_of_mem_set hb with hb | rfl
    · exact h.absent b hb hcallb hkeep
    · rw [hsame.command] at hkeep ⊢
      exact h.absent a (List.mem_of_getElem? hi) (fun h => hcallb (hanswer.mpr h)) hkeep
  unrecorded b hb hcallb hkeep := by
    rcases List.mem_or_eq_of_mem_set hb with hb | rfl
    · exact h.unrecorded b hb hcallb hkeep
    · rw [hsame.command] at hkeep
      rw [hexit]
      exact h.unrecorded a (List.mem_of_getElem? hi) (fun h => hcallb (hanswer.mpr h)) hkeep
  own e he code hcode := by
    obtain ⟨b, hb, hcommand, hpid, hprocess⟩ := h.own e he code hcode
    by_cases hba : b = a
    · subst hba
      refine ⟨_, mem_set_self hi, hsame.command.trans hcommand, hsame.pid.trans hpid, ?_⟩
      rw [← exitOf_eq_some, hexit, hprocess]
      rfl
    · exact ⟨b, mem_set_of_mem hi hb hba, hcommand, hpid, hprocess⟩
  kept j b hb hcallb hkeep := by
    rcases set_cases hb with ⟨rfl, rfl⟩ | ⟨hj, hb⟩
    · rw [hsame.command] at hkeep
      rcases h.kept j a hi (hanswer.mp hcallb) hkeep with ⟨code, hcode, hlate⟩ | hentry
      · refine .inl ⟨code, ?_, (@List.length_set Child s.children j b).symm ▸ hlate⟩
        rw [← exitOf_eq_some, hexit, hcode]
        rfl
      · rw [← hexit, ← hsame.command, ← hsame.pid] at hentry
        exact .inr hentry
    · exact (h.kept j b hb hcallb hkeep).imp_left Old.set
  older := h.older_update hi hsame fun code hcode => by
    rw [← exitOf_eq_some, hexit, hcode]
    rfl
  discarding := h.discarding
  once := h.once_update hi hsame
  serials := ⟨h.serials.1.sublist (hheld.map _), fun x hx => h.serials.2 x (hheld.subset hx)⟩
  used := h.used_update hi hsame
  held_used := h.held_used_update hi hsame (fun _ hx => hheld.subset hx) hcall

end

/-! ## Entries that change -/

theorem replacePid_commands (command : String) (pid : ℕ) (entries : List ChildEntry) :
    (replacePid command pid entries).map (·.command) = entries.map (·.command) := by
  induction entries with
  | nil => rfl
  | cons e entries ih =>
    rw [replacePid]
    split
    · split <;> rfl
    · rw [List.map_cons, ih, List.map_cons]

theorem mem_replacePid {command : String} {pid : ℕ} {entries : List ChildEntry} {e : ChildEntry}
    (h : e ∈ replacePid command pid entries) : e ∈ entries ∨ e.status.exitCode = none ∧ e.command = command := by
  induction entries with
  | nil => exact .inl h
  | cons e' entries ih =>
    rw [replacePid] at h
    by_cases hcommand : e'.command = command
    · rw [if_pos hcommand] at h
      rcases List.mem_cons.mp h with rfl | hmem
      · split
        · rename_i hnone
          exact .inr ⟨Option.isNone_iff_eq_none.mp hnone, hcommand⟩
        · exact .inl List.mem_cons_self
      · exact .inl (List.mem_cons_of_mem _ hmem)
    · rw [if_neg hcommand] at h
      rcases List.mem_cons.mp h with rfl | hmem
      · exact .inl List.mem_cons_self
      · exact (ih hmem).imp_left (List.mem_cons_of_mem _)

theorem mem_replacePid_of_ne {command : String} {pid : ℕ} {entries : List ChildEntry} {e : ChildEntry}
    (he : e ∈ entries) (hne : e.command ≠ command) : e ∈ replacePid command pid entries := by
  induction entries with
  | nil => exact he
  | cons e' entries ih =>
    rw [replacePid]
    rcases List.mem_cons.mp he with rfl | hmem
    · rw [if_neg hne]
      exact List.mem_cons_self
    · split
      · exact List.mem_cons_of_mem _ hmem
      · exact List.mem_cons_of_mem _ (ih hmem)

section

variable {pid exitCode : ℕ} {entries : List ChildEntry} {e : ChildEntry}

/-- The exit is meant for the entry. -/
def Meant (pid : ℕ) (e : ChildEntry) : Prop := e.status.pid = pid ∧ e.status.exitCode = none

theorem markExit_commands (pid exitCode : ℕ) (entries : List ChildEntry) :
    (markExit pid exitCode entries).map (·.command) = entries.map (·.command) := by
  unfold markExit
  rw [List.map_map]
  refine List.map_congr_left fun e _ => ?_
  rw [Function.comp_apply]
  split <;> rfl

theorem mem_markExit (h : e ∈ markExit pid exitCode entries) :
    (e ∈ entries ∧ ¬ Meant pid e) ∨
      ∃ e' ∈ entries, Meant pid e' ∧ e = { e' with status := { e'.status with exitCode := some exitCode } } := by
  obtain ⟨e', he', rfl⟩ := List.mem_map.mp h
  by_cases hmeant : Meant pid e'
  · exact .inr ⟨e', he', hmeant, if_pos hmeant⟩
  · rw [if_neg (show ¬ (e'.status.pid = pid ∧ e'.status.exitCode = none) from hmeant)]
    exact .inl ⟨he', hmeant⟩

theorem mem_markExit_of_meant (he : e ∈ entries) (h : Meant pid e) :
    { e with status := { e.status with exitCode := some exitCode } } ∈ markExit pid exitCode entries :=
  List.mem_map.mpr ⟨e, he, if_pos h⟩

theorem mem_markExit_of_not (he : e ∈ entries) (h : ¬ Meant pid e) : e ∈ markExit pid exitCode entries :=
  List.mem_map.mpr ⟨e, he, if_neg h⟩

end

section

variable {s : RelayState} {i : ℕ} {a : Child}

/-- A registration: new entries are running and of the child's command, the others stay, and the child has an entry
unless its command was discarded. -/
theorem Core.answer (h : Core s) (hi : s.children[i]? = some a) (hcall : a.call = .consumed)
    {entries : List ChildEntry} (hcommands : (entries.map (·.command)).Nodup)
    (hnew : ∀ e ∈ entries, e ∈ s.entries ∨ e.status.exitCode = none ∧ e.command = a.command)
    (hstay : ∀ e ∈ s.entries, e.command ≠ a.command → e ∈ entries)
    (hown : a.command ∉ s.discarded → ⟨a.command, ⟨a.pid, none⟩⟩ ∈ entries) :
    Core { s.updateChild i { a with call := .answered } with entries := entries } := by
  have hsame : Same { a with call := .answered } a := ⟨rfl, rfl, rfl⟩
  have hopen : a.call ≠ .answered := by
    rw [hcall]
    exact nofun
  refine { h with
    commands := hcommands
    one_call := ?_, absent := ?_, unrecorded := ?_, own := ?_, kept := ?_
    older := h.older_update hi hsame fun _ => id
    once := h.once_update hi hsame
    used := h.used_update hi hsame
    held_used := h.held_used_update hi hsame (fun _ => id) fun x hx hmem => ?_ }
  · intro j k b c hb hc hcallb hcallc hcommand hkeep
    rcases set_cases hb with ⟨-, rfl⟩ | ⟨-, hb'⟩
    · exact absurd rfl hcallb
    · rcases set_cases hc with ⟨-, rfl⟩ | ⟨-, hc'⟩
      · exact absurd rfl hcallc
      · exact h.one_call j k b c hb' hc' hcallb hcallc hcommand hkeep
  · intro b hb hcallb hkeep hmem
    obtain ⟨j, hj⟩ := List.mem_iff_getElem?.mp hb
    obtain ⟨e, he, hcommand⟩ := List.mem_map.mp hmem
    rcases set_cases hj with ⟨-, rfl⟩ | ⟨hne, hj'⟩
    · exact absurd rfl hcallb
    · rcases hnew e he with hold | ⟨-, hself⟩
      · exact h.absent b (List.mem_of_getElem? hj') hcallb hkeep (List.mem_map.mpr ⟨e, hold, hcommand⟩)
      · exact hne (h.one_call j i b a hj' hi hcallb hopen (hcommand.symm.trans hself) hkeep)
  · intro b hb hcallb hkeep
    rcases List.mem_or_eq_of_mem_set hb with hb | rfl
    · exact h.unrecorded b hb hcallb hkeep
    · exact absurd rfl hcallb
  · intro e he code hcode
    rcases hnew e he with hold | ⟨hnone, -⟩
    · obtain ⟨b, hb, hcommand, hpid, hprocess⟩ := h.own e hold code hcode
      by_cases hba : b = a
      · subst hba
        exact ⟨_, mem_set_self hi, hcommand, hpid, hprocess⟩
      · exact ⟨b, mem_set_of_mem hi hb hba, hcommand, hpid, hprocess⟩
    · rw [hnone] at hcode
      exact nomatch hcode
  · intro j b hb hcallb hkeep
    rcases set_cases hb with ⟨-, rfl⟩ | ⟨-, hb'⟩
    · refine .inr ⟨_, hown hkeep, rfl, ?_⟩
      rw [show exitOf a.process = none from h.unrecorded a (List.mem_of_getElem? hi) hopen hkeep]
    · rcases h.kept j b hb' hcallb hkeep with hold | ⟨e, he, hcommand, hstatus⟩
      · exact .inl hold.set
      · refine .inr ⟨e, hstay e he fun hself => ?_, hcommand, hstatus⟩
        have hkeep' : a.command ∉ s.discarded := hself ▸ hcommand ▸ hkeep
        exact h.absent a (List.mem_of_getElem? hi) hopen hkeep' (List.mem_map.mpr ⟨e, he, hself⟩)
  · exact absurd (h.held_used x hx a (List.mem_of_getElem? hi) hmem).1 (by rw [hcall]; exact nofun)

/-- The record of an exit: the entries it is meant for are of the child's command. -/
theorem Core.record (h : Core s) (hi : s.children[i]? = some a) {code : ℕ} (hprocess : a.process = .collected code)
    (hcall : a.command ∈ s.discarded ∨ a.call = .answered)
    (hmeant : ∀ e ∈ s.entries, Meant a.pid e → e.command = a.command) :
    Core { s.updateChild i { a with process := .recorded code } with
      entries := markExit a.pid code s.entries } := by
  have hsame : Same { a with process := .recorded code } a := ⟨rfl, rfl, rfl⟩
  have hopen : ∀ code', a.process ≠ .recorded code' := by
    rw [hprocess]
    exact nofun
  refine { h with
    commands := (markExit_commands a.pid code s.entries).symm ▸ h.commands
    one_call := ?_, absent := ?_, unrecorded := ?_, own := ?_, kept := ?_
    older := h.older_update hi hsame fun code' hcode => absurd hcode (hopen code')
    once := h.once_update hi hsame
    used := h.used_update hi hsame
    held_used := h.held_used_update hi hsame (fun _ => id) fun x hx hmem => ?_ }
  · intro j k b c hb hc hcallb hcallc hcommand hkeep
    rcases set_cases hb with ⟨hj, heqb⟩ | ⟨hj, hb'⟩ <;> rcases set_cases hc with ⟨hk, heqc⟩ | ⟨hk, hc'⟩
    · exact hj.trans hk.symm
    · subst hj heqb
      exact h.one_call _ _ a c hi hc' hcallb hcallc hcommand hkeep
    · subst hk heqc
      exact h.one_call _ _ b a hb' hi hcallb hcallc hcommand hkeep
    · exact h.one_call _ _ b c hb' hc' hcallb hcallc hcommand hkeep
  · intro b hb hcallb hkeep
    rw [markExit_commands]
    rcases List.mem_or_eq_of_mem_set hb with hb | rfl
    · exact h.absent b hb hcallb hkeep
    · exact h.absent a (List.mem_of_getElem? hi) hcallb hkeep
  · intro b hb hcallb hkeep
    rcases List.mem_or_eq_of_mem_set hb with hb | rfl
    · exact h.unrecorded b hb hcallb hkeep
    · exact (hcall.elim hkeep hcallb).elim
  · intro e he code' hcode
    rcases mem_markExit he with ⟨he, -⟩ | ⟨e', he', hmeant', rfl⟩
    · obtain ⟨b, hb, hcommand, hpid, hrecorded⟩ := h.own e he code' hcode
      refine ⟨b, mem_set_of_mem hi hb ?_, hcommand, hpid, hrecorded⟩
      rintro rfl
      exact hopen code' hrecorded
    · obtain rfl : code = code' := Option.some.inj hcode
      exact ⟨_, mem_set_self hi, (hmeant e' he' hmeant').symm, hmeant'.1.symm, rfl⟩
  · intro j b hb hcallb hkeep
    rcases set_cases hb with ⟨-, rfl⟩ | ⟨hne, hb'⟩
    · rcases h.kept i a hi hcallb hkeep with ⟨code', hcode, -⟩ | ⟨e, he, hcommand, hstatus⟩
      · exact absurd hcode (hopen code')
      · -- the entry of the child itself is running, and its exit is meant for it
        rw [hprocess] at hstatus
        refine .inr ⟨_, mem_markExit_of_meant he ⟨?_, ?_⟩, hcommand, ?_⟩
        · rw [hstatus]
        · rw [hstatus]
          rfl
        · rw [hstatus]
          rfl
    · rcases h.kept j b hb' hcallb hkeep with hold | ⟨e, he, hcommand, hstatus⟩
      · exact .inl hold.set
      · by_cases hmark : Meant a.pid e
        · -- another child of the command: the later of the two makes the earlier one old
          have hsamecommand : b.command = a.command := hcommand.symm.trans (hmeant e he hmark)
          rcases Nat.lt_or_gt_of_ne hne with hlt | hgt
          · exact .inl (h.older j i b a hlt hb' hi hsamecommand hkeep).set
          · obtain ⟨code', hcode, -⟩ := h.older i j a b hgt hi hb' hsamecommand.symm (hsamecommand ▸ hkeep)
            exact absurd hcode (hopen code')
        · exact .inr ⟨e, mem_markExit_of_not he hmark, hcommand, hstatus⟩
  · exact (h.held_used x hx a (List.mem_of_getElem? hi) hmem).1

/-- Entries may go that belong to a discarded command or to children that are old. -/
theorem Core.sublist (h : Core s) {entries : List ChildEntry} (hsub : entries.Sublist s.entries)
    (hgone : ∀ e ∈ s.entries, e ∈ entries ∨ e.command ∈ s.discarded ∨
      (∃ code, e.status.exitCode = some code) ∧ childTableMax ≤ laterStarts s.children e.command) :
    Core { s with entries := entries } where
  commands := h.commands.sublist (hsub.map _)
  one_call := h.one_call
  absent b hb hcallb hkeep hmem := h.absent b hb hcallb hkeep ((hsub.map _).subset hmem)
  unrecorded := h.unrecorded
  own e he := h.own e (hsub.subset he)
  kept j b hb hcallb hkeep := by
    rcases h.kept j b hb hcallb hkeep with hold | ⟨e, he, hcommand, hstatus⟩
    · exact .inl hold
    · rcases hgone e he with hstay | hdiscarded | ⟨⟨code, hcode⟩, hlate⟩
      · exact .inr ⟨e, hstay, hcommand, hstatus⟩
      · exact absurd (hcommand ▸ hdiscarded) hkeep
      · rw [hcommand] at hlate
        rw [hstatus] at hcode
        cases hprocess : b.process with
        | recorded code' => exact .inl ⟨code', hprocess, Nat.le_trans hlate (laterStarts_le hb)⟩
        | _ =>
          rw [hprocess] at hcode
          exact nomatch hcode
  older := h.older
  discarding := h.discarding
  once := h.once
  serials := h.serials
  used := h.used
  held_used := h.held_used

/-- The eviction from a roomy table. -/
theorem Core.evict (h : Core s) (hroomy : Roomy s s.entries) (hone : s.entries.length ≤ childTableMax + 1 ∨
    ∀ rest, removeFirstExited s.entries = some rest → ∀ e ∈ rest, e.status.exitCode = none) :
    Kept { s with entries := evictLocked s.entries } := by
  rcases evictLocked_cases hone with ⟨heq, hbounded⟩ | ⟨hover, e, l, r, hfirst, hentries, heq, hbounded⟩
  · rw [heq]
    exact { h with bounded := hbounded }
  · rw [heq]
    refine { h.sublist ?_ ?_ with bounded := hbounded }
    · rw [hentries]
      exact List.Sublist.append_left (List.sublist_cons_self e r) l
    · intro e' he'
      rw [hentries, List.mem_append, List.mem_cons] at he'
      rcases he' with hl | rfl | hr
      · exact .inl (List.mem_append_left _ hl)
      · refine .inr ((hroomy.resolve_left (Nat.not_le_of_lt hover) e' hfirst).imp_right fun hlate => ⟨?_, hlate⟩)
        exact Option.isSome_iff_exists.mp (by simpa only using List.find?_some hfirst)
      · exact .inl (List.mem_append_right _ hr)

end

/-! ## Every step -/

section

variable {s : RelayState}

theorem Old.append {children : List Child} {j : ℕ} {b : Child} (h : Old children j b) (a : Child) :
    Old (children ++ [a]) j b := by
  obtain ⟨code, hcode, hlate⟩ := h
  refine ⟨code, hcode, ?_⟩
  rw [List.length_append, List.length_singleton]
  omega

theorem consumeHandoffs_sublist (command : String) (held : List Handoff) :
    (consumeHandoffs command held).Sublist held := List.filter_sublist

theorem Kept.accept (h : Kept s) (command : String) (isSecret : Bool) : Kept (s.step (.accept command isSecret)) := by
  unfold RelayState.step
  dsimp only
  split
  · exact h
  · refine { h with serials := ⟨?_, fun x hx => ?_⟩, used := ?_, held_used := ?_ }
    · rw [List.map_append]
      refine List.nodup_append.mpr ⟨h.serials.1, List.nodup_singleton _, ?_⟩
      rintro c hc d hd rfl
      obtain ⟨x, hx, hserial⟩ := List.mem_map.mp hc
      have hlt := h.serials.2 x hx
      rw [hserial, List.mem_singleton.mp hd] at hlt
      exact absurd hlt (Nat.lt_irrefl _)
    · rcases List.mem_append.mp hx with hx | hx
      · exact Nat.lt_succ_of_lt (h.serials.2 x hx)
      · rw [List.mem_singleton.mp hx]
        exact Nat.lt_succ_self _
    · exact fun b hb x hx => Nat.lt_succ_of_lt (h.used b hb x hx)
    · intro x hx b hb hmem
      rcases List.mem_append.mp hx with hx | hx
      · exact h.held_used x hx b hb hmem
      · have hlt := h.used b hb x hmem
        rw [List.mem_singleton.mp hx] at hlt
        exact absurd hlt (Nat.lt_irrefl _)

theorem Kept.fork (h : Kept s) {command : String} {pid : ℕ} (hgood : Careful s (.fork command pid)) :
    Kept (s.step (.fork command pid)) := by
  obtain ⟨hfree, hfresh⟩ := hgood
  unfold RelayState.step
  dsimp only
  split
  case isFalse => exact h
  case isTrue =>
    refine { h with
      one_call := ?_, absent := ?_, unrecorded := ?_, own := ?_, kept := ?_, older := ?_, once := ?_, used := ?_
      held_used := ?_ }
    · intro j k b c hb hc hcallb hcallc hcommand hkeep
      rcases append_cases hb with hb | ⟨hj, rfl⟩ <;> rcases append_cases hc with hc | ⟨hk, rfl⟩
      · exact h.one_call j k b c hb hc hcallb hcallc hcommand hkeep
      · obtain ⟨hanswered, -⟩ := hfresh.resolve_left ((show b.command = command from hcommand) ▸ hkeep)
        exact absurd (hanswered b (List.mem_of_getElem? hb) hcommand) hcallb
      · obtain ⟨hanswered, -⟩ := hfresh.resolve_left hkeep
        exact absurd (hanswered c (List.mem_of_getElem? hc) hcommand.symm) hcallc
      · exact hj.trans hk.symm
    · intro b hb hcallb hkeep
      rcases List.mem_append.mp hb with hb | hb
      · exact h.absent b hb hcallb hkeep
      · obtain rfl := List.mem_singleton.mp hb
        intro hmem
        obtain ⟨e, he, hcommand⟩ := List.mem_map.mp hmem
        exact (hfresh.resolve_left hkeep).2 e he hcommand
    · intro b hb hcallb hkeep
      rcases List.mem_append.mp hb with hb | hb
      · exact h.unrecorded b hb hcallb hkeep
      · rw [List.mem_singleton.mp hb]
        rfl
    · intro e he code hcode
      obtain ⟨b, hb, hown⟩ := h.own e he code hcode
      exact ⟨b, List.mem_append_left _ hb, hown⟩
    · intro j b hb hcallb hkeep
      rcases append_cases hb with hb | ⟨-, rfl⟩
      · exact (h.kept j b hb hcallb hkeep).imp_left fun hold => hold.append _
      · exact nomatch hcallb
    · intro j k b c hjk hb hc hcommand hkeep
      rcases append_cases hb with hb | ⟨hj, -⟩
      · rcases append_cases hc with hc | ⟨-, rfl⟩
        · exact (h.older j k b c hjk hb hc hcommand hkeep).append _
        · -- an earlier child of the command has no entry any more
          obtain ⟨hanswered, hgone⟩ := hfresh.resolve_left ((show b.command = command from hcommand) ▸ hkeep)
          rcases h.kept j b hb (hanswered b (List.mem_of_getElem? hb) hcommand) hkeep with hold | ⟨e, he, hentry, -⟩
          · exact hold.append _
          · exact absurd (hentry.trans hcommand) (hgone e he)
      · have hk := (List.getElem?_eq_some_iff.mp hc).1
        rw [List.length_append, List.length_singleton] at hk
        omega
    · rw [List.flatMap_append, List.flatMap_singleton]
      refine List.nodup_append.mpr ⟨h.once, (h.serials.1.of_map _).filter _, ?_⟩
      rintro x hx _ hy rfl
      obtain ⟨b, hb, hmem⟩ := List.mem_flatMap.mp hx
      obtain ⟨hheld, hcommand⟩ := List.mem_filter.mp hy
      obtain ⟨hforked, hsame⟩ := h.held_used x hheld b hb hmem
      exact hfree b hb (hsame.trans (beq_iff_eq.mp hcommand)) hforked
    · intro b hb x hx
      rcases List.mem_append.mp hb with hb | hb
      · exact h.used b hb x hx
      · rw [List.mem_singleton.mp hb] at hx
        exact h.serials.2 x (List.mem_of_mem_filter hx)
    · intro x hx b hb hmem
      rcases List.mem_append.mp hb with hb | hb
      · exact h.held_used x hx b hb hmem
      · obtain rfl := List.mem_singleton.mp hb
        exact ⟨rfl, (beq_iff_eq.mp (List.mem_filter.mp hmem).2).symm⟩

/-- Roomy tables stay roomy when a child changes. -/
theorem Roomy.update {entries : List ChildEntry} (h : Roomy s entries) {i : ℕ} {a a' : Child}
    (hi : s.children[i]? = some a) (hsame : Same a' a) :
    Roomy { s.updateChild i a' with entries := entries } entries := by
  refine h.imp_right fun hold e he => (hold e he).imp_right fun hlate => ?_
  rw [laterStarts_eq] at hlate ⊢
  exact (map_set_of_eq (f := fun c : Child => c.command) hi hsame.command).symm ▸ hlate

theorem Kept.register (h : Kept s) {i : ℕ} (hgood : Careful s (.register i)) : Kept (s.step (.register i)) := by
  unfold RelayState.step
  dsimp only
  cases hi : s.children[i]? with
  | none => exact h
  | some a =>
    dsimp only
    split
    case isFalse => exact h
    case isTrue hcall =>
      unfold Relay.register
      by_cases hany : s.entries.any (·.command == a.command) = true
      · -- an entry of the command is left only when the command was discarded
        rw [if_pos hany]
        obtain ⟨e, he, hcommand⟩ := List.any_eq_true.mp hany
        have hdiscarded : a.command ∈ s.discarded := by
          by_contra hkeep
          refine h.absent a (List.mem_of_getElem? hi) (by rw [hcall]; exact nofun) hkeep ?_
          exact List.mem_map.mpr ⟨e, he, beq_iff_eq.mp hcommand⟩
        refine { h.toCore.answer hi hcall ((replacePid_commands ..).symm ▸ h.commands) (fun _ => mem_replacePid)
          (fun _ => mem_replacePid_of_ne) (fun hkeep => absurd hdiscarded hkeep) with bounded := ?_ }
        rcases h.bounded with hlength | hrunning
        · rw [← @List.length_map _ _ s.entries (·.command), ← replacePid_commands, List.length_map] at hlength
          exact .inl hlength
        · exact .inr fun e' he' => (mem_replacePid he').elim (hrunning e') And.left
      · rw [if_neg hany]
        have habsent : a.command ∉ s.entries.map (·.command) := by
          intro hmem
          obtain ⟨e, he, hcommand⟩ := List.mem_map.mp hmem
          exact hany (List.any_eq_true.mpr ⟨e, he, beq_iff_eq.mpr hcommand⟩)
        have hcore : Core { s.updateChild i { a with call := .answered } with
            entries := s.entries ++ [⟨a.command, ⟨a.pid, none⟩⟩] } := by
          refine h.toCore.answer hi hcall ?_ ?_ ?_ ?_
          · rw [List.map_append]
            exact List.nodup_append.mpr ⟨h.commands, List.nodup_singleton _, fun c hc d hd => by
              rintro rfl
              rw [List.map_singleton, List.mem_singleton] at hd
              exact habsent ((show c = a.command from hd) ▸ hc)⟩
          · intro e he
            refine (List.mem_append.mp he).imp_right fun hnew => ?_
            rw [List.mem_singleton.mp hnew]
            exact ⟨rfl, rfl⟩
          · exact fun e he _ => List.mem_append_left _ he
          · exact fun _ => List.mem_append_right _ List.mem_cons_self
        have hsame : Same { a with call := .answered } a := ⟨rfl, rfl, rfl⟩
        refine hcore.evict ((hgood a hi).update hi hsame) (h.bounded.imp (fun hlength => ?_) fun hrunning rest hrest => ?_)
        · rw [List.length_append, List.length_singleton]
          exact Nat.succ_le_succ hlength
        · rw [removeFirstExited_eq_none.mpr] at hrest
          · exact nomatch hrest
          · intro e he
            rcases List.mem_append.mp he with he | he
            · exact hrunning e he
            · rw [List.mem_singleton.mp he]

/-- In a table without exits one record marks at most one entry. -/
theorem markExit_running {entries : List ChildEntry} {command : String} {pid code : ℕ}
    (hcommands : (entries.map (·.command)).Nodup) (hrunning : ∀ e ∈ entries, e.status.exitCode = none)
    (hmeant : ∀ e ∈ entries, Meant pid e → e.command = command) {rest : List ChildEntry}
    (hrest : removeFirstExited (markExit pid code entries) = some rest) : ∀ e ∈ rest, e.status.exitCode = none := by
  obtain ⟨e, l, r, hfirst, hmarked, rfl⟩ := removeFirstExited_eq_some hrest
  have hexited : ∀ x ∈ markExit pid code entries, x.status.exitCode = none ∨ x.command = command := by
    intro x hx
    rcases mem_markExit hx with ⟨hx, -⟩ | ⟨x', hx', hmark, rfl⟩
    · exact .inl (hrunning x hx)
    · exact .inr (hmeant x' hx' hmark)
  have he : e.command = command := by
    refine (hexited e (List.mem_of_find?_eq_some hfirst)).resolve_left fun hnone => ?_
    have hsome : e.status.exitCode.isSome = true := by simpa only using List.find?_some hfirst
    rw [hnone] at hsome
    exact nomatch hsome
  intro x hx
  refine (hexited x ?_).resolve_right fun hx' => ?_
  · rw [hmarked, List.mem_append, List.mem_cons]
    exact (List.mem_append.mp hx).imp_right .inr
  · rw [← markExit_commands pid code, hmarked, List.map_append, List.map_cons, List.nodup_middle] at hcommands
    refine (List.nodup_cons.mp hcommands).1 ?_
    rw [← List.map_append]
    exact List.mem_map.mpr ⟨x, hx, hx'.trans he.symm⟩

theorem Kept.record (h : Kept s) {i : ℕ} (hgood : Careful s (.record i)) : Kept (s.step (.record i)) := by
  unfold RelayState.step
  dsimp only
  cases hi : s.children[i]? with
  | none => exact h
  | some a =>
    obtain ⟨hcall, hmeant, hroomy⟩ := hgood a hi
    have hmeant' : ∀ e ∈ s.entries, Meant a.pid e → e.command = a.command := fun e he hm => hmeant e he hm.1 hm.2
    dsimp only
    cases hprocess : a.process with
    | collected code =>
      refine (h.toCore.record hi hprocess hcall hmeant').evict ((hroomy code hprocess).update hi ⟨rfl, rfl, rfl⟩) ?_
      rcases h.bounded with hlength | hrunning
      · refine .inl (Nat.le_succ_of_le ?_)
        exact (@List.length_map _ _ s.entries _).symm ▸ hlength
      · exact .inr fun rest => markExit_running h.commands hrunning hmeant'
    | _ => exact h

/-- A step that changes one child and not the table. -/
theorem Kept.update (h : Kept s) {i : ℕ} {a a' : Child} (hi : s.children[i]? = some a) (hsame : Same a' a)
    (hexit : exitOf a'.process = exitOf a.process) (hcall : a'.call = a.call) : Kept (s.updateChild i a') :=
  { h.toCore.update hi hsame hexit (by rw [hcall]) (List.Sublist.refl s.held) fun x hx hmem => by
      rw [hcall]
      exact (h.held_used x hx a (List.mem_of_getElem? hi) (hsame.handoffs ▸ hmem)).1 with
    bounded := h.bounded }

/-- A discard promises nothing any more of the command. -/
theorem Kept.discard (h : Kept s) (command : String) : Kept (s.step (.discard command)) := by
  have hkeep : ∀ {c : String}, c ∉ command :: s.discarded → c ∉ s.discarded := fun hc hmem =>
    hc (List.mem_cons_of_mem _ hmem)
  have hsub := consumeHandoffs_sublist command s.held
  exact { h with
    one_call := fun i j a b ha hb hcalla hcallb hcommand hk => h.one_call i j a b ha hb hcalla hcallb hcommand (hkeep hk)
    absent := fun a ha hcall hk => h.absent a ha hcall (hkeep hk)
    unrecorded := fun a ha hcall hk => h.unrecorded a ha hcall (hkeep hk)
    kept := fun i a ha hcall hk => h.kept i a ha hcall (hkeep hk)
    older := fun i j a b hij ha hb hcommand hk => h.older i j a b hij ha hb hcommand (hkeep hk)
    discarding := fun c hc => by
      rcases List.mem_cons.mp hc with rfl | hc
      · exact List.mem_cons_self
      · exact List.mem_cons_of_mem _ (h.discarding c hc)
    serials := ⟨h.serials.1.sublist (hsub.map _), fun x hx => h.serials.2 x (hsub.subset hx)⟩
    held_used := fun x hx => h.held_used x (hsub.subset hx) }

theorem Kept.forget (h : Kept s) (command : String) : Kept (s.step (.forget command)) := by
  unfold RelayState.step
  dsimp only
  split
  case isFalse => exact h
  case isTrue hmem =>
    have hdiscarded := h.discarding command (List.contains_iff_mem.mp hmem)
    have hsub : (Relay.forget command s.entries).Sublist s.entries := List.filter_sublist
    refine { h.toCore.sublist hsub ?_ with
      bounded := ?_
      discarding := fun c hc => h.discarding c (List.mem_of_mem_erase hc) }
    · intro e he
      by_cases hcommand : e.command = command
      · exact .inr (.inl (hcommand ▸ hdiscarded))
      · refine .inl (List.mem_filter.mpr ⟨he, ?_⟩)
        rw [beq_eq_false_iff_ne.mpr hcommand]
        rfl
    · exact h.bounded.imp (Nat.le_trans hsub.length_le) fun hrunning e he => hrunning e (hsub.subset he)

theorem Kept.step {event : RelayEvent} (hgood : Careful s event) (h : Kept s) : Kept (s.step event) := by
  cases event with
  | accept command isSecret => exact h.accept command isSecret
  | fork command pid => exact h.fork hgood
  | register i => exact h.register hgood
  | record i => exact h.record hgood
  | forget command => exact h.forget command
  | consume i =>
    unfold RelayState.step
    dsimp only
    cases hi : s.children[i]? with
    | none => exact h
    | some a =>
      dsimp only
      split
      case isFalse => exact h
      case isTrue hcall =>
        have hsub := consumeHandoffs_sublist a.command s.held
        have hsame : Same { a with call := .consumed } a := ⟨rfl, rfl, rfl⟩
        refine ⟨h.toCore.update hi hsame rfl ?_ hsub fun x hx hmem => ?_, h.bounded⟩
        · rw [hcall]
          exact iff_of_false nofun nofun
        · -- the handoffs of the child are those of its command
          obtain ⟨hheld, hother⟩ := List.mem_filter.mp hx
          rw [(h.held_used x hheld a (List.mem_of_getElem? hi) hmem).2, beq_self_eq_true] at hother
          exact nomatch hother
  | exit i code =>
    unfold RelayState.step
    dsimp only
    cases hi : s.children[i]? with
    | none => exact h
    | some a =>
      dsimp only
      split
      case isFalse => exact h
      case isTrue hrunning => exact h.update hi ⟨rfl, rfl, rfl⟩ (by rw [hrunning]; rfl) rfl
  | collect i =>
    unfold RelayState.step
    dsimp only
    cases hi : s.children[i]? with
    | none => exact h
    | some a =>
      dsimp only
      cases hprocess : a.process with
      | exited code =>
        dsimp only
        split
        · exact h
        · exact h.update hi ⟨rfl, rfl, rfl⟩ (by rw [hprocess]; rfl) rfl
      | _ => exact h
  | discard command => exact h.discard command

end

/-! ## Whole runs -/

theorem Kept.initial : Kept .initial where
  commands := List.nodup_nil
  one_call _ _ _ _ h := nomatch h
  absent := nofun
  unrecorded := nofun
  own := nofun
  kept _ _ h := nomatch h
  older _ _ _ _ _ h := nomatch h
  discarding := nofun
  once := List.nodup_nil
  serials := ⟨List.nodup_nil, nofun⟩
  used := nofun
  held_used := nofun
  bounded := .inl (Nat.zero_le _)

/-- In every state of a careful order of steps a handoff has started one process at most, and a wait reports the exit
of the command's own child from its record on. -/
theorem exits_reported {events : List RelayEvent} (h : Along RelayState.step Careful .initial events) :
    Truthful (run RelayState.step .initial events) :=
  (Along.invariant (fun _ _ hgood hkept => Kept.step hgood hkept) h Kept.initial).truthful

/-- A child that exits after its registration. -/
theorem exits_reported_once : Truthful (run RelayState.step .initial
    [.accept "command" true, .fork "command" 7, .consume 0, .register 0, .exit 0 3, .collect 0, .record 0]) := by
  refine exits_reported ⟨trivial, ⟨by decide, .inr ⟨by decide, by decide⟩⟩, trivial, ?_, trivial, trivial, ?_, trivial⟩
  · exact fun child _ => .inl (Nat.le_of_ble_eq_true rfl)
  · intro child hchild
    obtain rfl := Option.some.inj hchild
    refine ⟨.inr rfl, ?_, fun code _ => .inl (Nat.le_of_ble_eq_true rfl)⟩
    exact List.forall_mem_singleton.mpr fun _ _ => rfl

/-- A child whose exit is recorded before it is registered stays running for every wait. -/
theorem exit_lost_before_registration : ¬ ∀ events, Truthful (run RelayState.step .initial events) := by
  intro h
  have hkept := (h [.accept "command" true, .fork "command" 7, .exit 0 3, .collect 0, .record 0, .consume 0,
    .register 0]).exit_kept 0 ⟨"command", 7, [⟨"command", true, 0⟩], .answered, .recorded 3⟩ 3
  exact absurd (hkept rfl rfl rfl nofun (by decide)) (by decide)

end Iweb.Relay
