import Iweb.Foundations.ListUpdates
import Iweb.Kernel.TextBytes
import Iweb.Workspace.Files
import Mathlib.Data.List.Induction

/-!
# Writes that are kept apart

Two writes share their temporary file exactly when they read the same millisecond. A run in which no write fills or
removes a file that another one waits to copy keeps every request apart from the others.
-/

namespace Iweb.Workspace

open CrashRefinement ListUpdates

/-- The reading of the clock can be read off the name. -/
theorem temporaryName_inj {process millis millis' : ℕ} :
    temporaryName process millis = temporaryName process millis' ↔ millis = millis' := by
  refine ⟨fun h => repr_inj.mp (String.append_right_inj _ |>.mp h), congrArg _⟩

/-- What every step keeps: a write that waits for its copy has its content in its file. -/
structure Ready (s : Files) : Prop where
  waiting : ∀ (i : ℕ) (w : Write), s.writes[i]? = some w → w.phase = .written →
    s.temporary (s.temporaryOf w) = some w.content
  unmixed : Unmixed s
  found : ∀ w ∈ s.writes, w.phase ≠ .finished (.error .missing) ∧ w.phase ≠ .answered (.error .missing)

theorem Ready.initial (process : ℕ) : Ready (.initial process) where
  waiting _ _ h := nomatch h
  unmixed _ _ h := nomatch h
  found := nofun

section

variable {s : Files} {i : ℕ} {w : Write}

/-- A step of one write keeps the paths and contents of all. -/
theorem Ready.unmixed_update (h : Ready s) (hi : s.writes[i]? = some w) (phase : WritePhase) (path content : String)
    (hobject : s.objects path = some content) :
    ∃ w' ∈ s.writes.set i { w with phase := phase }, w'.path = path ∧ w'.content = content := by
  obtain ⟨w', hmem, hpath, hcontent⟩ := h.unmixed path content hobject
  by_cases heq : w' = w
  · subst heq
    exact ⟨_, mem_set_self hi, hpath, hcontent⟩
  · exact ⟨w', mem_set_of_mem hi hmem heq, hpath, hcontent⟩

theorem Ready.found_update (h : Ready s) {phase : WritePhase} (hfinished : phase ≠ .finished (.error .missing))
    (hanswered : phase ≠ .answered (.error .missing)) :
    ∀ w' ∈ s.writes.set i { w with phase := phase },
      w'.phase ≠ .finished (.error .missing) ∧ w'.phase ≠ .answered (.error .missing) := by
  intro w' hmem
  rcases List.mem_or_eq_of_mem_set hmem with hmem | rfl
  · exact h.found w' hmem
  · exact ⟨hfinished, hanswered⟩

/-- A temporary file that changes as the other writes expect it. -/
theorem Ready.temporary_update (h : Ready s) (hi : s.writes[i]? = some w) {phase : WritePhase} {left : Option String}
    (hleft : Expected s i left) (hown : phase = .written → left = some w.content) (j : ℕ) (w' : Write)
    (hj : (s.writes.set i { w with phase := phase })[j]? = some w') (hphase : w'.phase = .written) :
    Function.update s.temporary (s.temporaryOf w) left (s.temporaryOf w') = some w'.content := by
  rcases set_cases hj with ⟨-, rfl⟩ | ⟨hne, hj⟩
  · exact (Function.update_self ..).trans (hown hphase)
  · by_cases hname : s.temporaryOf w' = s.temporaryOf w
    · rw [hname, Function.update_self]
      exact hleft w hi j w' hne hj (by rw [hphase]) (temporaryName_inj.mp hname)
    · rw [Function.update_of_ne hname]
      exact h.waiting j w' hj hphase

theorem Ready.fill (h : Ready s) (hi : s.writes[i]? = some w) {effect : FileEffect}
    (hleft : Expected s i (effect.left w.content)) : Ready (s.fill i w effect) := by
  cases effect with
  | done =>
    exact ⟨h.temporary_update hi hleft fun _ => rfl, h.unmixed_update hi _, h.found_update nofun nofun⟩
  | failed left =>
    exact ⟨h.temporary_update hi hleft nofun, h.unmixed_update hi _, h.found_update nofun nofun⟩

/-- The copy finds the content of the write. -/
theorem Ready.copy (h : Ready s) (hi : s.writes[i]? = some w) (hphase : w.phase = .written) (effect : ObjectEffect) :
    Ready (s.copy i w effect) := by
  have hkept : ∀ result (j : ℕ) (w' : Write), (s.writes.set i { w with phase := .finished result })[j]? = some w' →
      w'.phase = .written → s.temporary (s.temporaryOf w') = some w'.content := by
    intro result j w' hj hwritten
    rcases set_cases hj with ⟨-, rfl⟩ | ⟨-, hj⟩
    · exact nomatch hwritten
    · exact h.waiting j w' hj hwritten
  have hstored : ∀ result path content, Function.update s.objects w.path (some w.content) path = some content →
      ∃ w' ∈ s.writes.set i { w with phase := .finished result }, w'.path = path ∧ w'.content = content := by
    intro result path content hobject
    by_cases hpath : path = w.path
    · subst hpath
      rw [Function.update_self] at hobject
      exact ⟨_, mem_set_self hi, rfl, Option.some.inj hobject⟩
    · rw [Function.update_of_ne hpath] at hobject
      exact h.unmixed_update hi _ path content hobject
  unfold Files.copy
  rw [h.waiting i w hi hphase]
  cases effect with
  | done => exact ⟨hkept _, hstored _, h.found_update nofun nofun⟩
  | failed => exact ⟨hkept _, h.unmixed_update hi _, h.found_update nofun nofun⟩
  | unanswered => exact ⟨hkept _, hstored _, h.found_update nofun nofun⟩

end

theorem Ready.step {s : Files} {event : FilesEvent} (hgood : Careful s event) (h : Ready s) : Ready (s.step event) := by
  unfold Files.step
  cases event with
  | call path content millis =>
    dsimp only
    refine ⟨fun i w hi hphase => ?_, fun path content hobject => ?_, fun w hw => ?_⟩
    · rcases append_cases hi with hi | ⟨-, rfl⟩
      · exact h.waiting i w hi hphase
      · split at hphase <;> exact nomatch hphase
    · obtain ⟨w, hw, hwrite⟩ := h.unmixed path content hobject
      exact ⟨w, List.mem_append_left _ hw, hwrite⟩
    · rcases List.mem_append.mp hw with hw | hw
      · exact h.found w hw
      · rw [List.mem_singleton.mp hw]
        split <;> exact ⟨nofun, nofun⟩
  | fill i effect =>
    dsimp only
    cases hi : s.writes[i]? with
    | none => exact h
    | some w =>
      dsimp only
      cases hphase : w.phase with
      | named => exact h.fill hi (hgood w hi (by rw [hphase]))
      | _ => exact h
  | copy i effect =>
    dsimp only
    cases hi : s.writes[i]? with
    | none => exact h
    | some w =>
      dsimp only
      cases hphase : w.phase with
      | written => exact h.copy hi hphase effect
      | _ => exact h
  | remove i =>
    dsimp only
    cases hi : s.writes[i]? with
    | none => exact h
    | some w =>
      dsimp only
      cases hphase : w.phase with
      | finished result =>
        have hleft := hgood w hi (by rw [hphase])
        refine ⟨h.temporary_update hi hleft nofun, h.unmixed_update hi _, h.found_update nofun fun hanswered => ?_⟩
        refine (h.found w (List.mem_of_getElem? hi)).1 (hphase.trans ?_)
        injection hanswered with hresult
        rw [hresult]
      | _ => exact h
  | delete path effect =>
    have hdeleted : Ready { s with objects := Function.update s.objects path none } := by
      refine ⟨h.waiting, fun path' content hobject => h.unmixed path' content ?_, h.found⟩
      dsimp only at hobject
      by_cases hpath : path' = path
      · subst hpath
        rw [Function.update_self] at hobject
        exact nomatch hobject
      · rwa [Function.update_of_ne hpath] at hobject
    cases effect with
    | failed => exact h
    | _ => exact hdeleted

/-! ## The content of an answered write -/

/-- The write has its result, a success. -/
def Succeeded (w : Write) (bytes : ℕ) : Prop := w.phase = .finished (.ok bytes) ∨ w.phase = .answered (.ok bytes)

/-- A write that has succeeded had done so before the step, or the step was its copy. -/
theorem succeeded_step {s : Files} {event : FilesEvent} (h : Ready s) {i : ℕ} {w : Write} {bytes : ℕ}
    (hi : (s.step event).writes[i]? = some w) (hw : Succeeded w bytes) :
    (∃ w', s.writes[i]? = some w' ∧ w'.path = w.path ∧ w'.content = w.content ∧ Succeeded w' bytes) ∨
      ¬ w.phase.Answered ∧ (s.step event).objects w.path = some w.content := by
  have hsame : s.writes[i]? = some w → ∃ w', s.writes[i]? = some w' ∧ w'.path = w.path ∧ w'.content = w.content ∧
      Succeeded w' bytes := fun hi => ⟨w, hi, rfl, rfl, hw⟩
  unfold Files.step at hi ⊢
  cases event with
  | call path content millis =>
    rcases append_cases hi with hi | ⟨-, rfl⟩
    · exact .inl (hsame hi)
    · unfold Succeeded at hw
      dsimp only at hw
      split at hw <;> exact hw.elim nofun nofun
  | fill j effect =>
    dsimp only at hi ⊢
    cases hj : s.writes[j]? with
    | none =>
      rw [hj] at hi
      exact .inl (hsame hi)
    | some w' =>
      rw [hj] at hi
      dsimp only at hi ⊢
      cases hphase : w'.phase with
      | named =>
        rw [hphase] at hi
        rcases set_cases hi with ⟨-, rfl⟩ | ⟨-, hi⟩
        · unfold Succeeded at hw
          cases effect <;> exact hw.elim nofun nofun
        · exact .inl (hsame hi)
      | _ =>
        rw [hphase] at hi
        exact .inl (hsame hi)
  | copy j effect =>
    dsimp only at hi ⊢
    cases hj : s.writes[j]? with
    | none =>
      rw [hj] at hi
      exact .inl (hsame hi)
    | some w' =>
      rw [hj] at hi
      dsimp only at hi ⊢
      cases hphase : w'.phase with
      | written =>
        rw [hphase] at hi
        dsimp only at hi ⊢
        unfold Files.copy at hi ⊢
        rw [h.waiting j w' hj hphase] at hi ⊢
        cases effect with
        | done =>
          rcases set_cases hi with ⟨-, rfl⟩ | ⟨-, hi⟩
          · exact .inr ⟨id, Function.update_self ..⟩
          · exact .inl (hsame hi)
        | _ =>
          rcases set_cases hi with ⟨-, rfl⟩ | ⟨-, hi⟩
          · exact hw.elim nofun nofun
          · exact .inl (hsame hi)
      | _ =>
        rw [hphase] at hi
        exact .inl (hsame hi)
  | remove j =>
    dsimp only at hi ⊢
    cases hj : s.writes[j]? with
    | none =>
      rw [hj] at hi
      exact .inl (hsame hi)
    | some w' =>
      rw [hj] at hi
      dsimp only at hi ⊢
      cases hphase : w'.phase with
      | finished result =>
        rw [hphase] at hi
        rcases set_cases hi with ⟨rfl, rfl⟩ | ⟨-, hi⟩
        · rcases hw with hw | hw
          · exact nomatch hw
          · injection hw with hresult
            exact .inl ⟨w', hj, rfl, rfl, .inl (hresult ▸ hphase)⟩
        · exact .inl (hsame hi)
      | _ =>
        rw [hphase] at hi
        exact .inl (hsame hi)
  | delete path effect => cases effect <;> exact .inl (hsame hi)

theorem StoredOwn.append {process : ℕ} {events : List FilesEvent} {i : ℕ} {w w' : Write}
    (h : StoredOwn process events i w') (hpath : w'.path = w.path) (hcontent : w'.content = w.content)
    (event : FilesEvent) : StoredOwn process (events ++ [event]) i w := by
  obtain ⟨before, after, rfl, hunder, hobject⟩ := h
  refine ⟨before, after ++ [event], List.append_assoc .., hunder, ?_⟩
  rw [← hpath, ← hcontent]
  exact hobject

/-- A success has stored its own content. -/
theorem storedOwn {process : ℕ} {events : List FilesEvent} (hgood : Along Files.step Careful (.initial process) events)
    {i : ℕ} {w : Write} {bytes : ℕ} (hi : (run Files.step (.initial process) events).writes[i]? = some w)
    (hw : Succeeded w bytes) : StoredOwn process events i w := by
  induction events using List.reverseRecOn generalizing w with
  | nil => exact nomatch hi
  | append_singleton events event ih =>
    obtain ⟨hbefore, -⟩ := along_append.mp hgood
    have hready : Ready (run Files.step (.initial process) events) :=
      hbefore.invariant (fun _ _ hgood h => Ready.step hgood h) (Ready.initial process)
    have hi' := hi
    rw [run_append] at hi'
    rcases succeeded_step hready hi' hw with ⟨w', hi'', hpath, hcontent, hw'⟩ | ⟨hunder, hobject⟩
    · exact (ih hbefore hi'' hw').append hpath hcontent event
    · refine ⟨events ++ [event], [], (List.append_nil _).symm, ⟨w, hi, hunder⟩, ?_⟩
      rw [run_append]
      exact hobject

/-- In a run whose fills and removals are careful, every path holds the content of one write to it, a success has
stored its own content, and no write fails for another request's steps. -/
theorem writes_kept_apart {process : ℕ} {events : List FilesEvent}
    (h : Along Files.step Careful (.initial process) events) : KeptApart process events := by
  have hready : Ready (run Files.step (.initial process) events) :=
    h.invariant (fun _ _ hgood h => Ready.step hgood h) (Ready.initial process)
  exact ⟨hready.unmixed, fun i w bytes hi hw => storedOwn h hi (.inr hw), fun w hw => (hready.found w hw).2⟩

/-- Two writes in different milliseconds, one inside the other. -/
theorem writes_kept_apart_nested : KeptApart 7 [.call "a" "1" 40, .fill 0 .done, .call "b" "2" 41, .fill 1 .done,
    .copy 1 .done, .copy 0 .done, .remove 0, .remove 1] := by
  refine writes_kept_apart ⟨trivial, ?fillA, trivial, ?fillB, trivial, trivial, ?removeA, ?removeB, trivial⟩
  case fillA =>
    rintro _ - - _ - (_ | j) w' hne hj - -
    · exact absurd rfl hne
    · exact nomatch hj
  case fillB =>
    rintro _ - - w hw (_ | _ | j) w' hne hj - hmillis
    · cases hw
      cases hj
      exact absurd hmillis (by decide)
    · exact absurd rfl hne
    · exact nomatch hj
  case removeA =>
    rintro _ - - w hw (_ | _ | j) w' hne hj hphase -
    · exact absurd rfl hne
    · cases hj
      exact nomatch hphase
    · exact nomatch hj
  case removeB =>
    rintro _ - - w hw (_ | _ | j) w' hne hj hphase -
    · cases hj
      exact nomatch hphase
    · exact absurd rfl hne
    · exact nomatch hj

/-- Two writes in one millisecond: the first copies the content of the second to its own path. -/
theorem writes_mixed : ¬ ∀ process events, KeptApart process events := by
  intro h
  have hunmixed := (h 7 [.call "a" "1" 40, .call "b" "2" 40, .fill 0 .done, .fill 1 .done, .copy 0 .done]).unmixed
  obtain ⟨w, hw, hpath, hcontent⟩ := hunmixed "a" "2" rfl
  rcases List.mem_cons.mp hw with rfl | hw
  · exact absurd hcontent (by decide)
  · rw [List.mem_singleton.mp hw] at hpath
    exact absurd hpath (by decide)

end Iweb.Workspace
