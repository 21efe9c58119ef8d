import Mathlib.Data.List.Forall2

/-!
# A log of lines that a crash can cut

A log file holds one line for each record. A crash in the middle of an append leaves a prefix of the last
line. `Written` says which records such a file stands for: a cut line stands for its record if only the
line end is missing, and for nothing otherwise.
-/

namespace Iweb.LineLog

/-- The end of a line. -/
def newline : UInt8 := 10

/-- The bytes of complete lines. -/
def lines : List (List UInt8) → List UInt8
  | [] => []
  | text :: texts => text ++ newline :: lines texts

@[simp] theorem lines_nil : lines [] = [] := rfl

@[simp] theorem lines_cons (text : List UInt8) (texts : List (List UInt8)) :
    lines (text :: texts) = text ++ newline :: lines texts := rfl

theorem lines_append (texts texts' : List (List UInt8)) :
    lines (texts ++ texts') = lines texts ++ lines texts' := by
  induction texts with
  | nil => rfl
  | cons text texts ih => simp [ih]

/-- Splitting at the line ends gives the lines and what stands after the last of them. -/
theorem splitOn_lines {texts : List (List UInt8)} {tail : List UInt8}
    (htexts : ∀ text ∈ texts, newline ∉ text) (htail : newline ∉ tail) :
    (lines texts ++ tail).splitOn newline = texts ++ [tail] := by
  induction texts with
  | nil =>
    rw [lines_nil, List.nil_append, List.nil_append]
    exact List.splitOn_eq_singleton htail
  | cons text texts ih =>
    have hfirst : newline ∉ text := htexts text List.mem_cons_self
    have hrest := ih fun other hother => htexts other (List.mem_cons_of_mem text hother)
    rw [lines_cons, List.append_assoc, List.cons_append,
      List.splitOn_append_cons_of_beq _ _ (beq_self_eq_true _), List.splitOn_eq_singleton hfirst, hrest]
    rfl

/-- A file is empty or ends with a line end. -/
def terminated (file : List UInt8) : Bool := file.getLast?.all (· == newline)

theorem terminated_lines (texts : List (List UInt8)) : terminated (lines texts) = true := by
  induction texts with
  | nil => rfl
  | cons text texts ih =>
    unfold terminated at ih ⊢
    rw [lines_cons, List.getLast?_append, List.getLast?_cons]
    cases hlast : (lines texts).getLast? with
    | none => rfl
    | some b =>
      rw [hlast] at ih
      exact ih

/-- Only an empty rest leaves complete lines terminated. -/
theorem terminated_append {texts : List (List UInt8)} {tail : List UInt8} (htail : newline ∉ tail) :
    terminated (lines texts ++ tail) = true ↔ tail = [] := by
  constructor
  · intro h
    unfold terminated at h
    rw [List.getLast?_append] at h
    cases hlast : tail.getLast? with
    | none => exact List.getLast?_eq_none_iff.mp hlast
    | some b =>
      rw [hlast] at h
      have hb : b = newline := by simpa using h
      subst hb
      exact absurd (List.mem_of_getLast? hlast) htail
  · rintro rfl
    rw [List.append_nil]
    exact terminated_lines texts

section Written

variable {ρ ε : Type} {encode : ρ → Except ε (List UInt8)}

/-- The texts of records. -/
def Texts (encode : ρ → Except ε (List UInt8)) : List ρ → List (List UInt8) → Prop :=
  List.Forall₂ fun record text => encode record = .ok text

/-- The records a log file stands for. -/
inductive Written (encode : ρ → Except ε (List UInt8)) : List UInt8 → List ρ → Prop
  /-- Complete lines. -/
  | complete {records : List ρ} {texts : List (List UInt8)} (htexts : Texts encode records texts) :
      Written encode (lines texts) records
  /-- Complete lines and a part of another. -/
  | torn {records : List ρ} {texts : List (List UInt8)} (htexts : Texts encode records texts) {record : ρ}
      {text : List UInt8} (htext : encode record = .ok text) {n : Nat} (hpos : 0 < n) (hn : n < text.length) :
      Written encode (lines texts ++ text.take n) records
  /-- Complete lines and another without its end. -/
  | unended {records : List ρ} {texts : List (List UInt8)} (htexts : Texts encode records texts)
      {record : ρ} {text : List UInt8} (htext : encode record = .ok text) :
      Written encode (lines texts ++ text) (records ++ [record])

theorem Texts.append {records records' : List ρ} {texts texts' : List (List UInt8)}
    (h : Texts encode records texts) (h' : Texts encode records' texts') :
    Texts encode (records ++ records') (texts ++ texts') :=
  List.rel_append h h'

theorem Texts.singleton {record : ρ} {text : List UInt8} (h : encode record = .ok text) :
    Texts encode [record] [text] :=
  .cons h .nil

/-- Texts of records without a line end are without a line end. -/
theorem Texts.newline_notMem {records : List ρ} {texts : List (List UInt8)} (h : Texts encode records texts)
    (hline : ∀ record text, encode record = .ok text → newline ∉ text) : ∀ text ∈ texts, newline ∉ text := by
  induction h with
  | nil => nofun
  | cons hfirst _ ih =>
    intro text hmem
    rcases List.mem_cons.mp hmem with rfl | hrest
    · exact hline _ _ hfirst
    · exact ih text hrest

/-- An empty file stands for no records. -/
theorem Written.empty : Written encode [] ([] : List ρ) := .complete .nil

/-- A terminated file consists of complete lines. -/
theorem Written.texts {file : List UInt8} {records : List ρ} (h : Written encode file records)
    (hline : ∀ record text, encode record = .ok text → newline ∉ text ∧ text ≠ [])
    (hend : terminated file = true) : ∃ texts, Texts encode records texts ∧ file = lines texts := by
  cases h with
  | complete htexts => exact ⟨_, htexts, rfl⟩
  | torn htexts htext hpos hn =>
    obtain ⟨hnewline, hne⟩ := hline _ _ htext
    have hempty := (terminated_append fun hmem => hnewline (List.mem_of_mem_take hmem)).mp hend
    rcases List.take_eq_nil_iff.mp hempty with hzero | hnil
    · omega
    · exact absurd hnil hne
  | unended htexts htext =>
    obtain ⟨hnewline, hne⟩ := hline _ _ htext
    exact absurd ((terminated_append hnewline).mp hend) hne

/-- A whole line after complete lines. -/
theorem Written.append {records : List ρ} {texts : List (List UInt8)} (htexts : Texts encode records texts)
    {record : ρ} {text : List UInt8} (htext : encode record = .ok text) :
    Written encode (lines texts ++ (text ++ [newline])) (records ++ [record]) := by
  have h := Written.complete (htexts.append (Texts.singleton htext))
  rw [lines_append] at h
  exact h

/-- A crash after `n` bytes of a line leaves its record if the whole text was written. -/
theorem Written.cut {records : List ρ} {texts : List (List UInt8)} (htexts : Texts encode records texts)
    {record : ρ} {text : List UInt8} (htext : encode record = .ok text) (n : Nat) :
    Written encode (lines texts ++ (text ++ [newline]).take n)
      (if text.length ≤ n then records ++ [record] else records) := by
  by_cases hwhole : text.length ≤ n
  · rw [if_pos hwhole]
    by_cases hend : n = text.length
    · rw [hend, List.take_append_of_le_length (Nat.le_refl _), List.take_length]
      exact .unended htexts htext
    · rw [List.take_of_length_le (by rw [List.length_append, List.length_singleton]; omega)]
      exact .append htexts htext
  · rw [if_neg hwhole, List.take_append_of_le_length (by omega)]
    by_cases hzero : n = 0
    · rw [hzero, List.take_zero, List.append_nil]
      exact .complete htexts
    · exact .torn htexts htext (by omega) (by omega)

end Written

end Iweb.LineLog
