import Mathlib.Data.List.TakeWhile

/-!
# Readers of separated lists

A reader takes a value off the front of a text and says what is left. A list of items ends with a closing symbol, a
separator parts its items, and blanks may stand around them. What the loop over the items reads is a list text, and it
reads every list text to its end.
-/

namespace Iweb.Readers

variable {σ ε α β : Type}

abbrev Reader (σ ε α : Type) : Type := List σ → Except ε (α × List σ)

/-! ## Symbols of a kind -/

/-- The text does not go on with a symbol of the kind. -/
def NotNext (kind : σ → Bool) (text : List σ) : Prop := ∀ u ∈ text.head?, kind u = false

theorem NotNext.nil {kind : σ → Bool} : NotNext kind ([] : List σ) := by
  intro u hu
  cases hu

theorem NotNext.cons {kind : σ → Bool} {u : σ} {text : List σ} (h : kind u = false) : NotNext kind (u :: text) := by
  intro u' hu
  cases hu
  exact h

theorem NotNext.append {kind : σ → Bool} {text rest : List σ} (hne : text ≠ []) (h : NotNext kind text) :
    NotNext kind (text ++ rest) := by
  cases text with
  | nil => exact absurd rfl hne
  | cons u text => exact NotNext.cons (h u rfl)

/-- A longest run of a kind ends where the text goes on with something else. -/
theorem span_append {kind : σ → Bool} {run rest : List σ} (hrun : ∀ u ∈ run, kind u = true) (hrest : NotNext kind rest) :
    (run ++ rest).takeWhile kind = run ∧ (run ++ rest).dropWhile kind = rest := by
  induction run with
  | nil =>
    cases rest with
    | nil => exact ⟨rfl, rfl⟩
    | cons u rest =>
      have hu : ¬ kind u = true := by rw [hrest u rfl]; exact Bool.false_ne_true
      exact ⟨List.takeWhile_cons_of_neg hu, List.dropWhile_cons_of_neg hu⟩
  | cons u run ih =>
    have hu := hrun u List.mem_cons_self
    have hmore := ih fun u' hu' => hrun u' (List.mem_cons_of_mem u hu')
    rw [List.cons_append, List.takeWhile_cons_of_pos hu, List.dropWhile_cons_of_pos hu, hmore.1, hmore.2]
    exact ⟨rfl, rfl⟩

theorem notNext_dropWhile (kind : σ → Bool) (text : List σ) : NotNext kind (text.dropWhile kind) := by
  intro u hu
  have hnot := List.head?_dropWhile_not kind text
  rw [Option.mem_def.mp hu] at hnot
  exact hnot

/-! ## Lists -/

section Lists

variable [DecidableEq σ] (blank : σ → Bool) (separator close : σ) (unexpected spent : ε)

/-- The loop over the items of a list; the reader of an item knows the items before it. -/
def listLoop (item : List α → Reader σ ε α) : Nat → List α → Reader σ ε (List α)
  | 0, _, _ => .error spent
  | fuel + 1, done, text =>
    match item done (text.dropWhile blank) with
    | .error e => .error e
    | .ok (value, text) =>
      match text.dropWhile blank with
      | [] => .error unexpected
      | symbol :: text =>
        if symbol = separator then listLoop item fuel (done ++ [value]) text
        else if symbol = close then .ok (done ++ [value], text)
        else .error unexpected

variable {blank separator close unexpected spent} {item : List α → Reader σ ε α} {done : List α}

/-- An item that a separator follows. -/
theorem listLoop_more {fuel : Nat} {value : α} {before text after rest : List σ}
    (hbefore : ∀ u ∈ before, blank u = true) (hafter : ∀ u ∈ after, blank u = true) (hblank : NotNext blank text)
    (hne : text ≠ []) (hseparator : blank separator = false)
    (hitem : item done (text ++ (after ++ separator :: rest)) = .ok (value, after ++ separator :: rest)) :
    listLoop blank separator close unexpected spent item (fuel + 1) done (before ++ (text ++ (after ++ separator :: rest)))
      = listLoop blank separator close unexpected spent item fuel (done ++ [value]) rest := by
  rw [listLoop, (span_append hbefore (hblank.append hne)).2, hitem]
  dsimp only
  rw [(span_append hafter (NotNext.cons hseparator)).2]
  exact if_pos rfl

/-- The last item. -/
theorem listLoop_last {fuel : Nat} {value : α} {before text after rest : List σ}
    (hbefore : ∀ u ∈ before, blank u = true) (hafter : ∀ u ∈ after, blank u = true) (hblank : NotNext blank text)
    (hne : text ≠ []) (hclose : blank close = false) (hdistinct : close ≠ separator)
    (hitem : item done (text ++ (after ++ close :: rest)) = .ok (value, after ++ close :: rest)) :
    listLoop blank separator close unexpected spent item (fuel + 1) done (before ++ (text ++ (after ++ close :: rest)))
      = .ok (done ++ [value], rest) := by
  rw [listLoop, (span_append hbefore (hblank.append hne)).2, hitem]
  dsimp only
  rw [(span_append hafter (NotNext.cons hclose)).2]
  exact (if_neg hdistinct).trans (if_pos rfl)

/-- Blanks in front of the first item make no difference. -/
theorem listLoop_dropWhile {fuel : Nat} {text : List σ} :
    listLoop blank separator close unexpected spent item fuel done (text.dropWhile blank) =
      listLoop blank separator close unexpected spent item fuel done text := by
  have hskip : (text.dropWhile blank).dropWhile blank = text.dropWhile blank :=
    (span_append (fun _ hu => absurd hu List.not_mem_nil) (notNext_dropWhile blank text)).2
  cases fuel with
  | zero => rfl
  | succ fuel => rw [listLoop, listLoop, hskip]

/-- One turn of a loop that reads a list. -/
theorem listLoop_eq_ok {fuel : Nat} {text rest : List σ} {all : List α}
    (h : listLoop blank separator close unexpected spent item fuel done text = .ok (all, rest)) :
    ∃ fuel' value left, fuel = fuel' + 1 ∧ item done (text.dropWhile blank) = .ok (value, left) ∧
      ((left.dropWhile blank = close :: rest ∧ all = done ++ [value]) ∨
        ∃ more, left.dropWhile blank = separator :: more ∧
          listLoop blank separator close unexpected spent item fuel' (done ++ [value]) more = .ok (all, rest)) := by
  cases fuel with
  | zero => cases h
  | succ fuel =>
    rw [listLoop] at h
    cases hitem : item done (text.dropWhile blank) with
    | error e =>
      rw [hitem] at h
      cases h
    | ok next =>
      obtain ⟨value, left⟩ := next
      rw [hitem] at h
      dsimp only at h
      refine ⟨fuel, value, left, rfl, rfl, ?_⟩
      cases hsymbol : left.dropWhile blank with
      | nil =>
        rw [hsymbol] at h
        cases h
      | cons symbol more =>
        rw [hsymbol] at h
        dsimp only at h
        by_cases hseparator : symbol = separator
        · rw [if_pos hseparator] at h
          exact .inr ⟨more, by rw [hseparator], h⟩
        · rw [if_neg hseparator] at h
          by_cases hclose : symbol = close
          · rw [if_pos hclose] at h
            cases h
            exact .inl ⟨by rw [hclose], rfl⟩
          · rw [if_neg hclose] at h
            cases h

end Lists

end Iweb.Readers
