import Iweb.Supervisor.ProcessRuntime

/-!
# What the runtime reads of a stat line

The command name may hold any character, the closing parenthesis too: the text after the last one is the
state letter and the numbers. So the state letter is read right, and `readStartTicks` reads field 23, the
size of the virtual memory, whatever the command name is.
-/

namespace Iweb

/-! ## Decimal numbers -/

theorem isDigit_of_mem_decimal {n : Int} {c : Char} (h : c ∈ decimal n) : c.isDigit = true ∨ c = '-' := by
  cases n with
  | ofNat n => exact .inl (Nat.isDigit_of_mem_toDigits (by decide) (by decide) h)
  | negSucc n =>
    rcases List.mem_cons.mp h with rfl | h
    · exact .inr rfl
    · exact .inl (Nat.isDigit_of_mem_toDigits (by decide) (by decide) h)

theorem notMem_decimal {c : Char} (hdigit : c.isDigit = false) (hminus : c ≠ '-') (n : Int) : c ∉ decimal n := by
  intro h
  rcases isDigit_of_mem_decimal h with h | h
  · rw [hdigit] at h; cases h
  · exact hminus h

/-- A digit is not white space. -/
theorem isJsSpace_digit {c : Char} (h : c.isDigit = true) : isJsSpace c = false := by
  rw [Char.isDigit_iff_toNat] at h
  have hlow : 48 ≤ c.toNat := h.1
  have hhigh : c.toNat ≤ 57 := h.2
  simp only [isJsSpace, Bool.or_eq_false_iff, Bool.and_eq_false_iff, beq_eq_false_iff_ne, decide_eq_false_iff_not]
  omega

theorem takeWhile_all {p : Char → Bool} {text : List Char} (h : ∀ c ∈ text, p c = true) :
    text.takeWhile p = text := by
  induction text with
  | nil => rfl
  | cons c text ih =>
    rw [List.takeWhile_cons_of_pos (h c List.mem_cons_self), ih fun d hd => h d (List.mem_cons_of_mem _ hd)]

theorem takeWhile_digits (n : Nat) : (Nat.toDigits 10 n).takeWhile Char.isDigit = Nat.toDigits 10 n :=
  takeWhile_all fun _ hc => Nat.isDigit_of_mem_toDigits (by decide) (by decide) hc

/-- Every number of 64 bits has a nearest double. -/
theorem toDouble_isSome {n : Nat} (h : n < 2 ^ 65) : (toDouble n).isSome = true := by
  unfold toDouble
  dsimp only
  generalize hunit : 2 ^ (n.log2 - 52) = unit
  have hle : unit ≤ 2 ^ 13 := by
    rw [← hunit]
    apply Nat.pow_le_pow_right (by decide)
    rcases Nat.eq_zero_or_pos n with rfl | hpos
    · decide
    · have := (Nat.log2_lt (Nat.pos_iff_ne_zero.mp hpos)).mpr h
      omega
  have hdiv : n / unit * unit ≤ n := Nat.div_mul_le_self n unit
  have hsmall : (n / unit + 1) * unit < 2 ^ 1024 := by
    rw [Nat.add_mul, Nat.one_mul]
    exact Nat.lt_of_lt_of_le (by omega : n / unit * unit + unit < 2 ^ 66)
      (Nat.pow_le_pow_right (by decide) (by decide))
  generalize hrounded : (if unit < 2 * (n % unit) ∨ 2 * (n % unit) = unit ∧ n / unit % 2 = 1 then n / unit + 1
    else n / unit) = rounded
  have hle' : rounded ≤ n / unit + 1 := by
    rw [← hrounded]
    split <;> omega
  rw [if_pos (Nat.lt_of_le_of_lt (Nat.mul_le_mul_right _ hle') hsmall)]
  rfl

/-- What `parseInt` makes of a number that was printed. -/
def roundedInt : Int → Option Int
  | .ofNat n => (toDouble n).map fun m : Nat => (m : Int)
  | .negSucc n => (toDouble (n + 1)).map fun m : Nat => -(m : Int)

theorem head?_toDigits (n : Nat) : ∃ c rest, Nat.toDigits 10 n = c :: rest ∧ c.isDigit = true := by
  cases h : Nat.toDigits 10 n with
  | nil => exact absurd h Nat.toDigits_ne_nil
  | cons c rest =>
    exact ⟨c, rest, rfl, Nat.isDigit_of_mem_toDigits (by decide) (by decide) (h ▸ List.mem_cons_self)⟩

theorem parseInt_decimal (n : Int) : parseInt (decimal n) = roundedInt n := by
  cases n with
  | ofNat n =>
    obtain ⟨c, rest, hdigits, hc⟩ := head?_toDigits n
    have hspace : (Nat.toDigits 10 n).dropWhile isJsSpace = Nat.toDigits 10 n := by
      rw [hdigits, List.dropWhile_cons_of_neg (by rw [isJsSpace_digit hc]; decide)]
    have hminus : ((Nat.toDigits 10 n).head? == some '-') = false := by
      rw [hdigits, List.head?_cons, beq_eq_false_iff_ne]
      rintro ⟨⟩
      cases hc
    have hplus : (Nat.toDigits 10 n).head? ≠ some '+' := by
      rw [hdigits, List.head?_cons]
      rintro ⟨⟩
      cases hc
    have hne : (Nat.toDigits 10 n).isEmpty = false := by rw [hdigits]; rfl
    unfold parseInt decimal roundedInt
    dsimp only
    rw [hspace, hminus]
    have hsign : ¬(false = true ∨ (Nat.toDigits 10 n).head? = some '+') := by simp [hplus]
    rw [if_neg hsign, takeWhile_digits, hne, Nat.ofDigitChars_ten_toDigits]
    rfl
  | negSucc n =>
    obtain ⟨c, rest, hdigits, hc⟩ := head?_toDigits (n + 1)
    have hne : (Nat.toDigits 10 (n + 1)).isEmpty = false := by rw [hdigits]; rfl
    unfold parseInt decimal roundedInt
    dsimp only
    rw [List.dropWhile_cons_of_neg (by decide), List.head?_cons]
    have hsign : (some '-' == some '-') = true ∨ some '-' = some '+' := .inl rfl
    rw [if_pos hsign, List.tail_cons, takeWhile_digits, hne, Nat.ofDigitChars_ten_toDigits]
    rfl

theorem roundedInt_isSome {n : Int} (hlow : -2 ^ 63 ≤ n) (hhigh : n < 2 ^ 64) :
    (roundedInt n).isSome = true := by
  cases n with
  | ofNat n =>
    have h : n < 2 ^ 65 := by
      have : (n : Int) < 2 ^ 64 := hhigh
      omega
    unfold roundedInt
    dsimp only
    rw [Option.isSome_map, toDouble_isSome h]
  | negSucc n =>
    have h : n + 1 < 2 ^ 65 := by omega
    unfold roundedInt
    dsimp only
    rw [Option.isSome_map, toDouble_isSome h]

/-! ## The fields of a line -/

theorem lastClose_append {before after : List Char} (h : ')' ∉ after) :
    lastClose (before ++ ')' :: after) = some before.length := by
  have hindex : (before ++ ')' :: after).reverse.findIdx? (· == ')') = some after.length := by
    have hrev : (before ++ ')' :: after).reverse = after.reverse ++ ')' :: before.reverse := by simp
    rw [hrev, List.findIdx?_append, List.findIdx?_eq_none_iff.mpr, List.findIdx?_cons]
    · simp
    · intro c hc
      rw [beq_eq_false_iff_ne]
      rintro rfl
      exact h (List.mem_reverse.mp hc)
  unfold lastClose
  rw [hindex, Option.map_some]
  congr 1
  simp only [List.length_append, List.length_cons]
  omega

/-- The fields between blanks. -/
theorem splitOn_fields {first : List Char} {fields : List (List Char)} {last : List Char} (hfirst : ' ' ∉ first)
    (hfields : ∀ field ∈ fields, ' ' ∉ field) (hlast : ' ' ∉ last) :
    (first ++ fields.flatMap (fun field => ' ' :: field) ++ last).splitOn ' ' =
      (first :: fields).dropLast ++ [(first :: fields).getLast (List.cons_ne_nil _ _) ++ last] := by
  induction fields generalizing first with
  | nil =>
    have h : ' ' ∉ first ++ last := by
      rw [List.mem_append]
      rintro (h | h)
      · exact hfirst h
      · exact hlast h
    rw [List.flatMap_nil, List.append_nil, List.splitOn_eq_singleton h]
    rfl
  | cons field fields ih =>
    have hrest := ih (hfields field List.mem_cons_self) fun other h => hfields other (List.mem_cons_of_mem _ h)
    have hshape : first ++ (field :: fields).flatMap (fun field => ' ' :: field) ++ last =
        first ++ ' ' :: (field ++ fields.flatMap (fun field => ' ' :: field) ++ last) := by
      simp [List.flatMap_cons, List.append_assoc]
    rw [hshape, List.splitOn_append_cons_self_of_not_mem hfirst, hrest]
    rfl

namespace ProcStat

variable (pid : Nat) (stat : ProcStat)

/-- The text after the command name. -/
def tail (stat : ProcStat) : List Char :=
  stat.state :: stat.numbers.flatMap (fun n => ' ' :: decimal n) ++ ['\n']

theorem notMem_tail : ')' ∉ ' ' :: stat.tail := by
  unfold tail
  intro h
  simp only [List.mem_cons, List.mem_append, List.mem_flatMap, List.not_mem_nil, or_false, List.cons_append] at h
  rcases h with h | h | ⟨n, -, h | h⟩ | h
  · cases h
  · exact stat.letter.2 h.symm
  · cases h
  · exact notMem_decimal (by decide) (by decide) n h
  · cases h

theorem line_eq : stat.line pid = (decimal pid ++ ' ' :: '(' :: stat.comm) ++ ')' :: ' ' :: stat.tail := by
  unfold line tail
  simp [List.append_assoc]

theorem lastClose_line : lastClose (stat.line pid) = some (decimal pid ++ ' ' :: '(' :: stat.comm).length := by
  rw [line_eq, lastClose_append stat.notMem_tail]

theorem drop_line : (stat.line pid).drop ((decimal pid ++ ' ' :: '(' :: stat.comm).length + 2) = stat.tail := by
  rw [line_eq, List.drop_length_add_append]
  rfl

theorem aliveByState_line : aliveByState (some (stat.line pid)) = !stat.dead := by
  unfold aliveByState
  dsimp only
  rw [stat.lastClose_line pid]
  dsimp only
  rw [stat.drop_line pid]
  have htake : stat.tail.take 1 = [stat.state] := by
    unfold tail
    rfl
  rw [htake]
  unfold dead
  simp

theorem splitOn_tail : ∃ last, stat.tail.splitOn ' ' =
    ([stat.state] :: stat.numbers.map decimal).dropLast ++ [last] := by
  have hshape : stat.tail =
      [stat.state] ++ (stat.numbers.map decimal).flatMap (fun field => ' ' :: field) ++ ['\n'] := by
    unfold tail
    rw [List.flatMap_map]
    rfl
  have hfirst : ' ' ∉ [stat.state] := by
    rw [List.mem_singleton]
    exact fun h => stat.letter.1 h.symm
  have hfields : ∀ field ∈ stat.numbers.map decimal, ' ' ∉ field := by
    intro field hfield
    obtain ⟨n, -, rfl⟩ := List.mem_map.mp hfield
    exact notMem_decimal (by decide) (by decide) n
  rw [hshape]
  exact ⟨_, splitOn_fields hfirst hfields (by decide)⟩

/-- `readStartTicks` reads field 23, whatever the command name. -/
theorem startTicksOf_line : startTicksOf (stat.line pid) = roundedInt stat.vsize := by
  have hlength := stat.complete
  have hindex : (stat.tail.splitOn ' ').getD 20 [] = decimal stat.vsize := by
    obtain ⟨last, hlast⟩ := stat.splitOn_tail
    rw [hlast, List.getD_eq_getElem?_getD, List.getElem?_append_left (by simp [hlength]),
      List.getElem?_dropLast, if_pos (by simp [hlength]), List.getElem?_cons_succ, List.getElem?_map]
    unfold vsize field
    rw [List.getD_eq_getElem?_getD, List.getElem?_eq_getElem (by omega)]
    rfl
  unfold startTicksOf
  rw [stat.lastClose_line pid]
  dsimp only
  rw [stat.drop_line pid, hindex, parseInt_decimal]

theorem vsize_bounded : -2 ^ 63 ≤ stat.vsize ∧ stat.vsize < 2 ^ 64 := by
  have hlength := stat.complete
  unfold vsize field
  rw [List.getD_eq_getElem?_getD, List.getElem?_eq_getElem (by omega), Option.getD_some]
  exact stat.bounded _ (List.getElem_mem _)

end ProcStat

end Iweb
