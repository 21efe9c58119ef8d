import Mathlib.Data.List.Basic

/-!
# Lexers

A lexer reads the tokens at the head of a text and says what is left of it. It always consumes something, so
a text of any length is read to its end.
-/

namespace Iweb

/-- A step of a lexer on a text with first character `a`: its tokens and the rest of the text. -/
structure Lexer (α τ ε : Type) where
  next : α → List α → Except ε (List τ × List α)
  /-- Every step consumes the first character. -/
  shortens : ∀ {a : α} {l : List α} {tokens : List τ} {rest : List α},
    next a l = .ok (tokens, rest) → rest.length ≤ l.length

namespace Lexer

variable {α τ ε : Type} (L : Lexer α τ ε)

/-- The tokens of a text that needs at most `fuel` steps. -/
def scanWith : Nat → List α → Except ε (List τ)
  | 0, _ => .ok []
  | _ + 1, [] => .ok []
  | fuel + 1, a :: l => L.next a l >>= fun step => (scanWith fuel step.2).map (step.1 ++ ·)

/-- The tokens of a text. -/
def scan (text : List α) : Except ε (List τ) := L.scanWith text.length text

variable {L}

theorem scanWith_cons {fuel : Nat} {a : α} {l : List α} {tokens : List τ} {rest : List α}
    (h : L.next a l = .ok (tokens, rest)) :
    L.scanWith (fuel + 1) (a :: l) = (L.scanWith fuel rest).map (tokens ++ ·) := by
  show L.next a l >>= _ = _
  rw [h]
  rfl

theorem scanWith_cons_error {fuel : Nat} {a : α} {l : List α} {e : ε} (h : L.next a l = .error e) :
    L.scanWith (fuel + 1) (a :: l) = .error e := by
  show L.next a l >>= _ = _
  rw [h]
  rfl

/-- More steps than characters make no difference. -/
theorem scanWith_eq_scan {fuel : Nat} {text : List α} (h : text.length ≤ fuel) :
    L.scanWith fuel text = L.scan text := by
  unfold scan
  generalize hn : text.length = n at h
  have hle : text.length ≤ n := by omega
  clear hn
  induction n generalizing fuel text with
  | zero =>
    obtain rfl : text = [] := List.eq_nil_of_length_eq_zero (by omega)
    cases fuel <;> rfl
  | succ n ih =>
    obtain ⟨fuel, rfl⟩ : ∃ f, fuel = f + 1 := ⟨fuel - 1, by omega⟩
    cases text with
    | nil => rfl
    | cons a l =>
      rw [List.length_cons] at hle
      cases hnext : L.next a l with
      | error e => rw [scanWith_cons_error hnext, scanWith_cons_error hnext]
      | ok step =>
        obtain ⟨tokens, rest⟩ := step
        have hshort := L.shortens hnext
        rw [scanWith_cons hnext, scanWith_cons hnext, ih (by omega) (by omega)]

@[simp] theorem scan_nil : L.scan [] = .ok [] := rfl

/-- One step, then the rest of the text. -/
theorem scan_cons {a : α} {l : List α} {tokens : List τ} {rest : List α} (h : L.next a l = .ok (tokens, rest)) :
    L.scan (a :: l) = (L.scan rest).map (tokens ++ ·) := by
  have hshort := L.shortens h
  rw [← scanWith_eq_scan hshort]
  exact scanWith_cons h

theorem scan_cons_error {a : α} {l : List α} {e : ε} (h : L.next a l = .error e) : L.scan (a :: l) = .error e :=
  scanWith_cons_error h

/-- A text that was read starts with a step and continues with a text that is read. -/
theorem scan_cons_eq_ok {a : α} {l : List α} {tokens : List τ} (h : L.scan (a :: l) = .ok tokens) :
    ∃ first rest more, L.next a l = .ok (first, rest) ∧ L.scan rest = .ok more ∧ tokens = first ++ more := by
  cases hnext : L.next a l with
  | error e =>
    rw [scan_cons_error hnext] at h
    cases h
  | ok step =>
    obtain ⟨first, rest⟩ := step
    rw [scan_cons hnext] at h
    cases hrest : L.scan rest with
    | error e =>
      rw [hrest] at h
      cases h
    | ok more =>
      rw [hrest] at h
      cases h
      exact ⟨first, rest, more, rfl, hrest, rfl⟩

/-- A text that was not read was refused by a step. -/
theorem scan_eq_error {text : List α} {e : ε} (h : L.scan text = .error e) : ∃ a l, L.next a l = .error e := by
  generalize hn : text.length = n
  induction n using Nat.strongRecOn generalizing text with
  | ind n ih =>
    cases text with
    | nil => cases h
    | cons a l =>
      cases hnext : L.next a l with
      | error e' =>
        rw [scan_cons_error hnext] at h
        cases h
        exact ⟨a, l, hnext⟩
      | ok step =>
        obtain ⟨tokens, rest⟩ := step
        have hshort := L.shortens hnext
        rw [List.length_cons] at hn
        rw [scan_cons hnext] at h
        cases hrest : L.scan rest with
        | error e' =>
          rw [hrest] at h
          cases h
          exact ih rest.length (by omega) hrest rfl
        | ok more =>
          rw [hrest] at h
          cases h

/-! ## Two lexers on one text -/

/-- The lexer that stops where a step would start at a marked position. -/
def guarded (L : Lexer α τ ε) (marked : α → List α → Bool) : Lexer α τ (Option ε) where
  next a l := if marked a l then .error none else (L.next a l).mapError some
  shortens {a l tokens rest} h := by
    split at h
    · cases h
    · cases hnext : L.next a l with
      | error e =>
        rw [hnext] at h
        cases h
      | ok step =>
        rw [hnext] at h
        cases h
        exact L.shortens hnext

/-- No step starts at a marked position. -/
def avoids (L : Lexer α τ ε) (marked : α → List α → Bool) (text : List α) : Bool :=
  match (L.guarded marked).scan text with
  | .error none => false
  | _ => true

theorem avoids_cons {marked : α → List α → Bool} {a : α} {l : List α} (h : L.avoids marked (a :: l) = true) :
    marked a l = false ∧ ∀ tokens rest, L.next a l = .ok (tokens, rest) → L.avoids marked rest = true := by
  unfold avoids at h
  have hmark : marked a l = false := by
    rw [← Bool.not_eq_true]
    intro hmarked
    have hnext : (L.guarded marked).next a l = .error none := if_pos hmarked
    rw [scan_cons_error hnext] at h
    cases h
  refine ⟨hmark, fun tokens rest hok => ?_⟩
  have hnext : (L.guarded marked).next a l = .ok (tokens, rest) := by
    show (if marked a l then _ else _) = _
    rw [hmark, hok]
    rfl
  rw [scan_cons hnext] at h
  unfold avoids
  cases hscan : (L.guarded marked).scan rest with
  | ok more => rfl
  | error e =>
    rw [hscan] at h
    cases e with
    | none => cases h
    | some e => rfl

/-- Both texts were refused, or their tokens are related. -/
inductive SameOutcome {σ δ : Type} (R : List τ → List σ → Prop) :
    Except ε (List τ) → Except δ (List σ) → Prop
  | refused (e : ε) (e' : δ) : SameOutcome R (.error e) (.error e')
  | read {tokens : List τ} {tokens' : List σ} (h : R tokens tokens') : SameOutcome R (.ok tokens) (.ok tokens')

/-- Two lexers that take related steps at every position but the marked ones read a text that avoids these with
related tokens. The second may take several steps for one of the first. -/
theorem scan_sameOutcome {σ δ : Type} {M : Lexer α σ δ} {marked : α → List α → Bool}
    {R : List τ → List σ → Prop} (hnil : R [] [])
    (happend : ∀ {t t' : List τ} {s s' : List σ}, R t s → R t' s' → R (t ++ t') (s ++ s'))
    (hstep : ∀ a l, marked a l = false →
      (∃ e e', L.next a l = .error e ∧ M.scan (a :: l) = .error e') ∨
        ∃ tokens rest tokens', L.next a l = .ok (tokens, rest) ∧ R tokens tokens' ∧
          M.scan (a :: l) = (M.scan rest).map (tokens' ++ ·))
    {text : List α} (h : L.avoids marked text = true) : SameOutcome R (L.scan text) (M.scan text) := by
  generalize hn : text.length = n
  induction n using Nat.strongRecOn generalizing text with
  | ind n ih =>
    cases text with
    | nil => exact .read hnil
    | cons a l =>
      obtain ⟨hmark, havoids⟩ := avoids_cons h
      rcases hstep a l hmark with ⟨e, e', hnext, hscan⟩ | ⟨tokens, rest, tokens', hnext, hrelated, hscan⟩
      · rw [scan_cons_error hnext, hscan]
        exact .refused e e'
      · have hshort := L.shortens hnext
        rw [List.length_cons] at hn
        have hrest := ih rest.length (by omega) (havoids tokens rest hnext) rfl
        rw [scan_cons hnext, hscan]
        generalize L.scan rest = read at hrest
        generalize M.scan rest = read' at hrest
        cases hrest with
        | refused e e' => exact .refused e e'
        | read hlater => exact .read (happend hrelated hlater)

end Lexer

end Iweb
