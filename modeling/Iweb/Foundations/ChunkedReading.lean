import Mathlib.Data.List.Basic

/-!
# Reading a stream in chunks

A reader appends chunk after chunk to its buffer and stops as soon as the buffer satisfies a condition. It has the
whole stream at the end exactly if no chunk but the last one brings the buffer to the condition. Conditions often ask
for the first occurrence of a pattern, which does not move while the buffer grows.
-/

namespace Iweb.ChunkedReading

variable {α : Type}

/-! ## The reader -/

/-- The buffer at which the reader stops, if it does. -/
def readUntil (stop : List α → Bool) (buffer : List α) : List (List α) → Option (List α)
  | [] => none
  | chunk :: chunks =>
    if stop (buffer ++ chunk) then some (buffer ++ chunk) else readUntil stop (buffer ++ chunk) chunks

/-- The chunks before some of the others. -/
def Before (chunks first : List (List α)) : Prop := ∃ rest, rest ≠ [] ∧ chunks = first ++ rest

variable {stop : List α → Bool} {buffer : List α} {chunks : List (List α)}

/-- The reader stops where it is asked to, after some of the chunks. -/
theorem readUntil_eq_some {stopped : List α} (h : readUntil stop buffer chunks = some stopped) :
    stop stopped = true ∧ ∃ first rest, chunks = first ++ rest ∧ stopped = buffer ++ first.flatten := by
  induction chunks generalizing buffer with
  | nil => cases h
  | cons chunk chunks ih =>
    unfold readUntil at h
    by_cases hstop : stop (buffer ++ chunk) = true
    · rw [if_pos hstop] at h
      cases h
      exact ⟨hstop, [chunk], chunks, rfl, by rw [List.flatten_singleton]⟩
    · rw [if_neg hstop] at h
      obtain ⟨hstopped, first, rest, rfl, rfl⟩ := ih h
      exact ⟨hstopped, chunk :: first, rest, rfl, by rw [List.flatten_cons, List.append_assoc]⟩

/-- A reader whose condition holds of the whole stream stops. -/
theorem readUntil_isSome (hne : chunks ≠ []) (h : stop (buffer ++ chunks.flatten) = true) :
    (readUntil stop buffer chunks).isSome = true := by
  induction chunks generalizing buffer with
  | nil => exact absurd rfl hne
  | cons chunk chunks ih =>
    unfold readUntil
    by_cases hstop : stop (buffer ++ chunk) = true
    · rw [if_pos hstop]
      rfl
    · rw [if_neg hstop]
      rw [List.flatten_cons, ← List.append_assoc] at h
      refine ih ?_ h
      rintro rfl
      rw [List.flatten_nil, List.append_nil] at h
      exact hstop h

/-- The reader has the whole stream exactly if no chunk but the last brings it to its condition. -/
theorem readUntil_eq_flatten (hchunks : ∀ chunk ∈ chunks, chunk ≠ []) (hne : chunks ≠ [])
    (h : stop (buffer ++ chunks.flatten) = true) :
    readUntil stop buffer chunks = some (buffer ++ chunks.flatten) ↔
      ∀ first, first ≠ [] → Before chunks first → stop (buffer ++ first.flatten) = false := by
  induction chunks generalizing buffer with
  | nil => exact absurd rfl hne
  | cons chunk chunks ih =>
    rw [List.flatten_cons, ← List.append_assoc] at h
    obtain ⟨hchunk, hrest⟩ := List.forall_mem_cons.mp hchunks
    unfold readUntil
    by_cases hlast : chunks = []
    · subst hlast
      rw [List.flatten_nil, List.append_nil] at h
      rw [if_pos h, List.flatten_cons, List.flatten_nil, List.append_nil]
      refine ⟨fun _ first hfirst ⟨rest, hnil, heq⟩ => ?_, fun _ => rfl⟩
      have hlength := congrArg List.length heq
      rw [List.length_append, List.length_singleton] at hlength
      have := List.length_pos_iff.mpr hfirst
      have := List.length_pos_iff.mpr hnil
      omega
    · by_cases hstop : stop (buffer ++ chunk) = true
      · rw [if_pos hstop]
        constructor
        · intro hsome
          have hlength := congrArg List.length (Option.some.inj hsome)
          rw [List.flatten_cons, List.length_append, List.length_append, List.length_append] at hlength
          obtain ⟨next, others, rfl⟩ := List.exists_cons_of_ne_nil hlast
          have hnext := List.length_pos_iff.mpr (hrest next (.head _))
          rw [List.flatten_cons, List.length_append] at hlength
          omega
        · intro hnone
          have hfalse := hnone [chunk] (List.cons_ne_nil _ _) ⟨chunks, hlast, rfl⟩
          rw [List.flatten_singleton, hstop] at hfalse
          cases hfalse
      · rw [if_neg hstop, List.flatten_cons, ← List.append_assoc, ih hrest hlast h]
        constructor
        · rintro hnone first hfirst ⟨rest, hrest, heq⟩
          obtain ⟨head, tail, rfl⟩ := List.exists_cons_of_ne_nil hfirst
          obtain ⟨rfl, htail⟩ := List.cons.inj heq
          rw [List.flatten_cons, ← List.append_assoc]
          by_cases hnil : tail = []
          · rw [hnil, List.flatten_nil, List.append_nil]
            exact Bool.eq_false_iff.mpr hstop
          · exact hnone tail hnil ⟨rest, hrest, htail⟩
        · intro hnone first _ hbefore
          obtain ⟨remaining, hremaining, heq⟩ := hbefore
          have hfalse := hnone (chunk :: first) (List.cons_ne_nil _ _) ⟨remaining, hremaining, by rw [heq]; rfl⟩
          rw [List.flatten_cons, ← List.append_assoc] at hfalse
          exact hfalse

/-! ## The first occurrence of a pattern -/

variable [DecidableEq α] {pattern : List α}

/-- The position of the first occurrence of a pattern. -/
def position (pattern : List α) : List α → Option Nat
  | [] => if pattern = [] then some 0 else none
  | a :: rest => if pattern.isPrefixOf (a :: rest) then some 0 else (position pattern rest).map (· + 1)

/-- The pattern lies within the stream. -/
theorem position_le {stream : List α} {p : Nat} (h : position pattern stream = some p) :
    p + pattern.length ≤ stream.length := by
  induction stream generalizing p with
  | nil =>
    unfold position at h
    by_cases hnil : pattern = []
    · rw [if_pos hnil] at h
      cases h
      rw [hnil]
      exact Nat.le_refl _
    · rw [if_neg hnil] at h
      cases h
  | cons a rest ih =>
    unfold position at h
    by_cases hhere : pattern.isPrefixOf (a :: rest) = true
    · rw [if_pos hhere] at h
      cases h
      rw [Nat.zero_add]
      exact (List.isPrefixOf_iff_prefix.mp hhere).length_le
    · rw [if_neg hhere] at h
      obtain ⟨q, hq, rfl⟩ := Option.map_eq_some_iff.mp h
      have := ih hq
      rw [List.length_cons]
      omega

/-- A position is not moved by what comes later, and it is found as soon as the pattern is complete. -/
theorem position_take {stream : List α} {p : Nat} (hne : pattern ≠ []) (h : position pattern stream = some p)
    (n : Nat) : position pattern (stream.take n) = if p + pattern.length ≤ n then some p else none := by
  induction stream generalizing p n with
  | nil =>
    unfold position at h
    rw [if_neg hne] at h
    cases h
  | cons a rest ih =>
    have hpos := List.length_pos_iff.mpr hne
    cases n with
    | zero =>
      rw [if_neg (by omega), List.take_zero]
      exact if_neg hne
    | succ n =>
      rw [List.take_succ_cons]
      unfold position at h ⊢
      by_cases hhere : pattern.isPrefixOf (a :: rest) = true
      · rw [if_pos hhere] at h
        cases h
        rw [Nat.zero_add]
        have hiff : pattern.isPrefixOf (a :: rest.take n) = true ↔ pattern.length ≤ n + 1 := by
          rw [← List.take_succ_cons, List.isPrefixOf_iff_prefix, List.prefix_take_iff]
          exact ⟨And.right, fun hle => ⟨List.isPrefixOf_iff_prefix.mp hhere, hle⟩⟩
        by_cases hle : pattern.length ≤ n + 1
        · rw [if_pos (hiff.mpr hle), if_pos hle]
        · rw [if_neg (fun hsome => hle (hiff.mp hsome)), if_neg hle]
          cases hrest : position pattern (rest.take n) with
          | none => rfl
          | some q =>
            have hfound := position_le hrest
            rw [List.length_take] at hfound
            omega
      · rw [if_neg hhere] at h
        obtain ⟨q, hq, rfl⟩ := Option.map_eq_some_iff.mp h
        have hthere : ¬ pattern.isPrefixOf (a :: rest.take n) = true := by
          rw [← List.take_succ_cons, List.isPrefixOf_iff_prefix]
          exact fun hstarts => hhere (List.isPrefixOf_iff_prefix.mpr (hstarts.trans (List.take_prefix _ _)))
        rw [if_neg hthere, ih hq n]
        by_cases hle : q + pattern.length ≤ n
        · rw [if_pos hle, if_pos (by omega)]
          rfl
        · rw [if_neg hle, if_neg (by omega)]
          rfl
end Iweb.ChunkedReading
