import Mathlib.Algebra.Ring.Int.Defs
import Mathlib.Algebra.GroupWithZero.Nat
import Mathlib.Data.List.Basic

/-!
# Wire grammar of the Kernel records

The Kernel checks every string that crosses a wire against a fixed regular expression and every
number against the `u53` range. The regular expressions are decidable predicates on the bytes of the
string; numbers are natural numbers, and the range check is explicit where the code makes it.

Errors are a stable code plus a detail text, as in the source (`AdmissionError`, `ActivationError`
and `WasmControlFailure` all have these two fields).
-/

namespace Iweb

/-- A structured Kernel error: a stable, owner-visible code and a detail text. -/
structure KernelError where
  /-- The stable code. -/
  code : String
  /-- Path and context; never a secret value. -/
  detail : String
deriving DecidableEq

/-- Replace the code of a failure and keep its detail (`map_err(|e| err(code, e.detail))`). -/
def recode {α : Type} (code : String) : Except KernelError α → Except KernelError α
  | .ok a => .ok a
  | .error e => .error ⟨code, e.detail⟩

/-- Replace the code of a failure and put a field path in front of its detail. -/
def recodeAt {α : Type} (code path : String) : Except KernelError α → Except KernelError α
  | .ok a => .ok a
  | .error e => .error ⟨code, path ++ ": " ++ e.detail⟩

/-- `if !ok { return Err(err(code, detail)) }`. -/
def require (ok : Bool) (code detail : String) : Except KernelError Unit :=
  if ok then .ok () else .error ⟨code, detail⟩

@[simp] theorem require_eq_ok {ok : Bool} {code detail : String} {u : Unit} :
    require ok code detail = .ok u ↔ ok = true := by
  cases ok <;> simp [require]

@[simp] theorem recode_eq_ok {α : Type} {code : String} {x : Except KernelError α} {a : α} :
    recode code x = .ok a ↔ x = .ok a := by
  cases x <;> simp [recode]

@[simp] theorem recodeAt_eq_ok {α : Type} {code path : String} {x : Except KernelError α} {a : α} :
    recodeAt code path x = .ok a ↔ x = .ok a := by
  cases x <;> simp [recodeAt]

/-- A sequence of fallible steps succeeds exactly when every step does. -/
@[simp] theorem bind_eq_ok {ε α β : Type} {x : Except ε α} {f : α → Except ε β} {b : β} :
    x >>= f = .ok b ↔ ∃ a, x = .ok a ∧ f a = .ok b := by
  cases x <;> simp [Except.bind, bind]

/-- A loop over a list succeeds when its body succeeds on every member. -/
theorem forM_eq_ok {α : Type} {f : α → Except KernelError PUnit} {l : List α}
    (h : ∀ a ∈ l, f a = .ok ()) : l.forM f = .ok () := by
  induction l with
  | nil => rfl
  | cons a l ih =>
    show (f a >>= fun _ => l.forM f) = .ok ()
    rw [h a List.mem_cons_self]
    exact ih fun b hb => h b (List.mem_cons_of_mem a hb)

/-- Every failure of `x` carries a code that satisfies `P`. -/
def FailsOnlyWith {α : Type} (P : String → Prop) (x : Except KernelError α) : Prop :=
  ∀ e, x = .error e → P e.code

theorem FailsOnlyWith.ok {α : Type} {P : String → Prop} (a : α) :
    FailsOnlyWith P (.ok a : Except KernelError α) := nofun

theorem FailsOnlyWith.error {α : Type} {P : String → Prop} {code detail : String} (h : P code) :
    FailsOnlyWith P (.error ⟨code, detail⟩ : Except KernelError α) := by
  rintro e ⟨⟩
  exact h

theorem FailsOnlyWith.require {P : String → Prop} {ok : Bool} {code detail : String} (h : P code) :
    FailsOnlyWith P (require ok code detail) := by
  cases ok
  · exact .error h
  · exact .ok ()

theorem FailsOnlyWith.recode {α : Type} {P : String → Prop} {code : String}
    {x : Except KernelError α} (h : P code) : FailsOnlyWith P (recode code x) := by
  cases x
  · exact .error h
  · exact .ok _

theorem FailsOnlyWith.recodeAt {α : Type} {P : String → Prop} {code path : String}
    {x : Except KernelError α} (h : P code) : FailsOnlyWith P (recodeAt code path x) := by
  cases x
  · exact .error h
  · exact .ok _

theorem FailsOnlyWith.bind {α β : Type} {P : String → Prop} {x : Except KernelError α}
    {f : α → Except KernelError β} (hx : FailsOnlyWith P x) (hf : ∀ a, FailsOnlyWith P (f a)) :
    FailsOnlyWith P (x >>= f) := by
  cases x with
  | error e => exact fun e' h => hx e' (by cases h; rfl)
  | ok a => exact hf a

/-! ## Numbers -/

/-- The largest integer of the `u53` range. -/
def wasmU53Max : Nat := 9007199254740991

/-- `value >= minimum && value <= maximum && value <= WASM_U53_MAX`. -/
def isU53Between (value minimum maximum : Nat) : Bool :=
  minimum ≤ value && value ≤ maximum && value ≤ wasmU53Max

/-! ## Character classes and fixed-shape patterns

All patterns are ASCII, so a string matches exactly when its UTF-8 bytes do. -/

/-- The UTF-8 bytes of a string. -/
def bytes (s : String) : List UInt8 := s.toByteArray.data.toList

theorem bytes_append (s t : String) : bytes (s ++ t) = bytes s ++ bytes t := by
  simp [bytes]

theorem bytes_injective {s t : String} (h : bytes s = bytes t) : s = t := by
  apply String.toByteArray_inj.mp
  apply ByteArray.ext
  exact Array.toList_inj.mp h

/-- `str::is_ascii` -/
def isAsciiText (s : String) : Bool := (bytes s).all (·.toNat < 128)

/-- The byte of an ASCII character. -/
def ascii (c : Char) : UInt8 := UInt8.ofNat c.toNat

/-- `[lo-hi]` -/
def inRange (lo hi : Char) (b : UInt8) : Bool := lo.toNat ≤ b.toNat && b.toNat ≤ hi.toNat

/-- `[a-z]` -/
def isLowerAlpha (b : UInt8) : Bool := inRange 'a' 'z' b

/-- `[0-9]` -/
def isDecimalDigit (b : UInt8) : Bool := inRange '0' '9' b

/-- `[a-f0-9]` -/
def isHexLower (b : UInt8) : Bool := isDecimalDigit b || inRange 'a' 'f' b

/-- `[a-z0-9]` -/
def isLabelEdge (b : UInt8) : Bool := isLowerAlpha b || isDecimalDigit b

/-- `[a-z0-9-]` -/
def isLabelChar (b : UInt8) : Bool := isLabelEdge b || b == ascii '-'

/-- A text of fixed length, each position in its own character class. -/
def matchesShape (shape : List (UInt8 → Bool)) (bs : List UInt8) : Bool :=
  shape.length == bs.length && (shape.zip bs).all fun p => p.1 p.2

/-- `^first([a-z0-9-]{0,61}[a-z0-9])?$` -/
def isDnsLabel (first : UInt8 → Bool) (s : String) : Bool :=
  let bs := bytes s
  bs.length ≤ 63 && bs.all isLabelChar && bs.head?.any first && bs.getLast?.any isLabelEdge

/-- `^[a-z0-9]([a-z0-9-]{0,61}[a-z0-9])?$` -/
def isApplicationId (s : String) : Bool := isDnsLabel isLabelEdge s

/-- `^[a-z]([a-z0-9-]{0,61}[a-z0-9])?$` -/
def isSandboxId (s : String) : Bool := isDnsLabel isLowerAlpha s

/-- `^[a-f0-9]{64}$` -/
def isSha256Hex (s : String) : Bool := (bytes s).length == 64 && (bytes s).all isHexLower

/-- `^sha256:[a-f0-9]{64}$` -/
def isOciSha256 (s : String) : Bool :=
  (bytes "sha256:").isPrefixOf (bytes s) && (bytes s).length == 71 &&
    ((bytes s).drop 7).all isHexLower

/-- `^[a-f0-9]{32}$` -/
def isLeaseNonce (s : String) : Bool := (bytes s).length == 32 && (bytes s).all isHexLower

/-- `^[a-z][a-z0-9.-]{0,63}$` -/
def isEntryKey (s : String) : Bool :=
  match bytes s with
  | [] => false
  | b :: bs => isLowerAlpha b && bs.length ≤ 63 && bs.all fun b => isLabelChar b || b == ascii '.'

/-- `^[0-9a-f]{8}-[0-9a-f]{4}-7[0-9a-f]{3}-[89ab][0-9a-f]{3}-[0-9a-f]{12}$` -/
def isUuidV7 (s : String) : Bool :=
  let hex (n : Nat) := List.replicate n isHexLower
  let dash := [fun b => b == ascii '-']
  let variant := [fun b => b == ascii '8' || b == ascii '9' || b == ascii 'a' || b == ascii 'b']
  matchesShape
    (hex 8 ++ dash ++ hex 4 ++ dash ++ [fun b => b == ascii '7'] ++ hex 3 ++ dash ++ variant ++
      hex 3 ++ dash ++ hex 12)
    (bytes s)

/-- The value of a text of decimal digits (`str::parse::<u64>` on such a text). -/
def decimalValue (bs : List UInt8) : Nat := bs.foldl (fun n b => 10 * n + (b.toNat - 48)) 0

/-- The decimal digits of `n`, padded with zeros on the left to `width` (`{n:0width}`). -/
def padDecimal (width n : Nat) : String :=
  let digits := (toString n).toList
  String.ofList (List.replicate (width - digits.length) '0' ++ digits)

/-! ## RFC 3339 timestamps with millisecond precision -/

/-- The code of a malformed timestamp. -/
def wasmAdmissionProofInvalid : String := "WASM_ADMISSION_PROOF_INVALID"

/-- Days since 1970-01-01 of a civil date; the divisions truncate as in the source. -/
def daysFromCivil (year : Int) (month day : Nat) : Int :=
  let y := if month ≤ 2 then year - 1 else year
  let era := (if y ≥ 0 then y else y - 399).tdiv 400
  let yoe := y - era * 400
  let mp : Int := (month + 9) % 12
  let doy := (153 * mp + 2).tdiv 5 + day - 1
  let doe := yoe * 365 + yoe.tdiv 4 - yoe.tdiv 100 + doy
  era * 146097 + doe - 719468

/-- The civil date of a day at or after 1970-01-01: year, month, day. -/
def civilFromDays (days : Nat) : Nat × Nat × Nat :=
  let z := days + 719468
  let era := z / 146097
  let doe := z - era * 146097
  let yoe := (doe - doe / 1460 + doe / 36524 - doe / 146096) / 365
  let doy := doe - (365 * yoe + yoe / 4 - yoe / 100)
  let mp := (5 * doy + 2) / 153
  let d := doy - (153 * mp + 2) / 5 + 1
  let m := if mp < 10 then mp + 3 else mp - 9
  (if m ≤ 2 then yoe + era * 400 + 1 else yoe + era * 400, m, d)

/-- Epoch milliseconds rendered as `YYYY-MM-DDTHH:MM:SS.mmmZ`. -/
def formatRfc3339UtcMillis (epochMillis : Nat) : String :=
  let secs := epochMillis / 1000
  let sod := secs % 86400
  let (year, month, day) := civilFromDays (secs / 86400)
  padDecimal 4 year ++ "-" ++ padDecimal 2 month ++ "-" ++ padDecimal 2 day ++ "T" ++
    padDecimal 2 (sod / 3600) ++ ":" ++ padDecimal 2 (sod % 3600 / 60) ++ ":" ++
    padDecimal 2 (sod % 60) ++ "." ++ padDecimal 3 (epochMillis % 1000) ++ "Z"

/-- The length of a month, `none` for a month outside `1..12`. -/
def monthLength (year month : Nat) : Option Nat :=
  let leap := (year % 4 == 0 && year % 100 != 0) || year % 400 == 0
  if [1, 3, 5, 7, 8, 10, 12].contains month then some 31
  else if [4, 6, 9, 11].contains month then some 30
  else if month == 2 then some (if leap then 29 else 28)
  else none

/-- The text after the seconds: `Z`, or a fraction of one to nine digits and `Z`; its milliseconds. -/
def parseFraction : List UInt8 → Option Nat
  | [] => none
  | b :: rest =>
    let digits := rest.takeWhile isDecimalDigit
    if b == ascii 'Z' && rest.isEmpty then some 0
    else if b == ascii '.' && rest.drop digits.length == [ascii 'Z'] && 1 ≤ digits.length &&
        digits.length ≤ 9 then
      some (decimalValue ((digits ++ [ascii '0', ascii '0']).take 3))
    else none

/-- `^(\d{4})-(\d{2})-(\d{2})T(\d{2}):(\d{2}):(\d{2})` at the start of a timestamp. -/
def timestampShape : List (UInt8 → Bool) :=
  let digits (n : Nat) := List.replicate n isDecimalDigit
  let literal (c : Char) := [fun b => b == ascii c]
  digits 4 ++ literal '-' ++ digits 2 ++ literal '-' ++ digits 2 ++ literal 'T' ++ digits 2 ++
    literal ':' ++ digits 2 ++ literal ':' ++ digits 2

/-- Parse an RFC 3339 UTC timestamp ending in `Z` to epoch milliseconds. -/
def parseRfc3339UtcMillis (value : String) : Except KernelError Nat := do
  let fail (detail : String) : Except KernelError Nat := .error ⟨wasmAdmissionProofInvalid, detail⟩
  let bs := bytes value
  let field (start len : Nat) := decimalValue ((bs.drop start).take len)
  let some millis := parseFraction (bs.drop 19)
    | fail "timestamp must be RFC3339 UTC ending in Z"
  if !matchesShape timestampShape (bs.take 19) then
    fail "timestamp must be RFC3339 UTC ending in Z"
  else
    let (year, month, day) := (field 0 4, field 5 2, field 8 2)
    let (hour, minute, second) := (field 11 2, field 14 2, field 17 2)
    if month < 1 || 12 < month || day == 0 || 23 < hour || 59 < minute || 59 < second then
      fail "timestamp component out of range"
    else match monthLength year month with
      | none => fail "invalid month"
      | some length =>
        if length < day then fail "day exceeds month length"
        else
          let secs := daysFromCivil year month day * 86400 + hour * 3600 + minute * 60 + second
          if secs < 0 then fail "timestamps before 1970 are not accepted"
          else .ok (secs.toNat * 1000 + millis)

/-- The rendering of an instant parses back to it. -/
example : formatRfc3339UtcMillis 1790000000123 = "2026-09-21T14:13:20.123Z" ∧
    parseRfc3339UtcMillis "2026-09-21T14:13:20.123Z" = .ok 1790000000123 := by decide

end Iweb
