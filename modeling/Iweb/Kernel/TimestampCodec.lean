import Iweb.Kernel.Timestamps

/-!
# The RFC 3339 codec on every text

`parse_rfc3339_utc_millis` matches a text against a regular expression whose class `\d` holds the decimal digits of
every script, reads each number with `str::parse`, which takes ASCII digits only, and cuts the fraction at its third
byte. A cut inside a character panics. The other modules read timestamps with `parseRfc3339UtcMillis`, which takes
the class for the ASCII digits.
-/

namespace Iweb.Rfc3339

open Calendar Decimals

/-- The digits of the regular expression crate; among the ASCII characters they are `0` to `9`. -/
structure DigitClass where
  isDigit : Char → Bool
  ascii : ∀ c, c.toNat < 128 → (isDigit c = true ↔ 48 ≤ c.toNat ∧ c.toNat ≤ 57)

/-- What a call ends with. -/
inductive Parsed (α : Type) where
  | ok (value : α)
  | refused (error : KernelError)
  | panicked
deriving DecidableEq

/-- A refusal or a panic ends the call. -/
def Parsed.bind {α β : Type} : Parsed α → (α → Parsed β) → Parsed β
  | .ok value, f => f value
  | .refused error, _ => .refused error
  | .panicked, _ => .panicked

instance : Monad Parsed where
  pure := .ok
  bind := Parsed.bind

def refuse {α : Type} (detail : String) : Parsed α := .refused ⟨wasmAdmissionProofInvalid, detail⟩

/-! ## The regular expression -/

/-- The groups of a match; the fraction without its dot. -/
structure Captures where
  year : List Char
  month : List Char
  day : List Char
  hour : List Char
  minute : List Char
  second : List Char
  fraction : Option (List Char)

/-- `(\d{4})-(\d{2})-(\d{2})T(\d{2}):(\d{2}):(\d{2})` -/
def timeShape (digits : DigitClass) : List (Char → Bool) :=
  let group (n : ℕ) := List.replicate n digits.isDigit
  let literal (c : Char) := [fun d => d == c]
  group 4 ++ literal '-' ++ group 2 ++ literal '-' ++ group 2 ++ literal 'T' ++ group 2 ++ literal ':' ++ group 2 ++
    literal ':' ++ group 2

/-- `(\.(\d{1,9}))?Z$` -/
def captureFraction (digits : DigitClass) : List Char → Option (Option (List Char))
  | [] => none
  | c :: rest =>
    let fraction := rest.takeWhile digits.isDigit
    if c = 'Z' ∧ rest = [] then some none
    else if c = '.' ∧ 1 ≤ fraction.length ∧ fraction.length ≤ 9 ∧ rest.drop fraction.length = ['Z'] then
      some (some fraction)
    else none

/-- The match of a text. -/
def captures (digits : DigitClass) (text : List Char) : Option Captures :=
  let head := text.take 19
  let group (start length : ℕ) := (head.drop start).take length
  if head.length = 19 ∧ ((timeShape digits).zip head).all (fun p => p.1 p.2) = true then
    (captureFraction digits (text.drop 19)).map fun fraction =>
      { year := group 0 4
        month := group 5 2
        day := group 8 2
        hour := group 11 2
        minute := group 14 2
        second := group 17 2
        fraction := fraction }
  else none

/-! ## Numbers -/

def isAsciiDigit (c : Char) : Bool := 48 ≤ c.toNat && c.toNat ≤ 57

/-- `str::parse` on a group, which is never empty and too short to overflow. -/
def parseNumber (text : List Char) : Option ℕ :=
  if text.all isAsciiDigit then some (text.foldl (fun n c => 10 * n + (c.toNat - 48)) 0) else none

def number (text : List Char) (detail : String) : Parsed ℕ :=
  match parseNumber text with
  | some n => .ok n
  | none => refuse detail

/-- The text up to a byte; `none` when the byte lies inside a character or behind the text. -/
def sliceTo : ℕ → List Char → Option (List Char)
  | n, [] => if n = 0 then some [] else none
  | n, c :: rest =>
    if n = 0 then some []
    else if c.utf8Size ≤ n then (sliceTo (n - c.utf8Size) rest).map (c :: ·)
    else none

/-- `format!("{digits:0<3}")` -/
def padFraction (fraction : List Char) : List Char := fraction ++ List.replicate (3 - fraction.length) '0'

def fractionMillis : Option (List Char) → Parsed ℕ
  | none => .ok 0
  | some fraction =>
    match sliceTo 3 (padFraction fraction) with
    | none => .panicked
    | some head => number head "invalid fraction"

/-- The checks of the numbers, and the instant. -/
def epochMillis (year month day hour minute second millis : ℕ) : Parsed ℕ :=
  if month < 1 || 12 < month || day == 0 || 23 < hour || 59 < minute || 59 < second then
    refuse "timestamp component out of range"
  else
    match monthLength year month with
    | none => refuse "invalid month"
    | some length =>
      if length < day then refuse "day exceeds month length"
      else
        let secs := daysFromCivil year month day * 86400 + hour * 3600 + minute * 60 + second
        if secs < 0 then refuse "timestamps before 1970 are not accepted"
        else .ok (secs.toNat * 1000 + millis)

/-- `parse_rfc3339_utc_millis` -/
def parse (digits : DigitClass) (value : String) : Parsed ℕ :=
  match captures digits value.toList with
  | none => refuse "timestamp must be RFC3339 UTC ending in Z"
  | some c => do
    let year ← number c.year "invalid year"
    let month ← number c.month "invalid month"
    let day ← number c.day "invalid day"
    let hour ← number c.hour "invalid hour"
    let minute ← number c.minute "invalid minute"
    let second ← number c.second "invalid second"
    let millis ← fractionMillis c.fraction
    epochMillis year month day hour minute second millis

/-! ## Days of every year -/

/-- `civil_from_days`, for days before 1970 too; the divisions truncate. -/
def civilFromDaysInt (days : ℤ) : ℤ × ℕ × ℕ :=
  let z := days + 719468
  let era := (if z ≥ 0 then z else z - 146096).tdiv 146097
  let doe := (z - era * 146097).toNat
  let yoe := (doe - doe / 1460 + doe / 36524 - doe / 146096) / 365
  let y := (yoe : ℤ) + era * 400
  let doy := doe - (365 * yoe + yoe / 4 - yoe / 100)
  let mp := (5 * doy + 2) / 153
  let d := doy - (153 * mp + 2) / 5 + 1
  let m := if mp < 10 then mp + 3 else mp - 9
  (if m ≤ 2 then y + 1 else y, m, d)

/-! ## What a text denotes -/

/-- A timestamp `YYYY-MM-DDTHH:MM:SSZ` with an optional fraction of one to nine digits: the number of its digits
and their value. -/
structure Stamp where
  year : ℕ
  month : ℕ
  day : ℕ
  hour : ℕ
  minute : ℕ
  second : ℕ
  fraction : Option (ℕ × ℕ)
  year_lt : year < 10000
  isDate : IsDate year month day
  hour_lt : hour < 24
  minute_lt : minute < 60
  second_lt : second < 60
  fraction_lt : ∀ width n, fraction = some (width, n) → 1 ≤ width ∧ width ≤ 9 ∧ n < 10 ^ width

namespace Stamp

def fractionText : Option (ℕ × ℕ) → List UInt8
  | none => [Iweb.ascii 'Z']
  | some (width, n) => Iweb.ascii '.' :: (decimal width n ++ [Iweb.ascii 'Z'])

/-- The bytes of a timestamp. -/
def text (stamp : Stamp) : List UInt8 :=
  timestampBytes stamp.year stamp.month stamp.day stamp.hour stamp.minute stamp.second (fractionText stamp.fraction)

def seconds (stamp : Stamp) : ℤ :=
  epochSeconds stamp.year stamp.month stamp.day stamp.hour stamp.minute stamp.second

/-- The whole milliseconds of a fraction. -/
def fractionValue : Option (ℕ × ℕ) → ℕ
  | none => 0
  | some (width, n) => n * 1000 / 10 ^ width

def millis (stamp : Stamp) : ℕ := fractionValue stamp.fraction

end Stamp

/-- The text denotes an instant not before 1970; its milliseconds are truncated. -/
def Denotes (value : String) (ms : ℕ) : Prop :=
  ∃ stamp : Stamp, bytes value = stamp.text ∧ stamp.seconds * 1000 + stamp.millis = (ms : ℤ) ∧ 0 ≤ stamp.seconds

/-- The parser does not panic on the text, accepts it exactly when it denotes an instant, and gives that instant. -/
def ParsesExactly (digits : DigitClass) (value : String) : Prop :=
  parse digits value ≠ .panicked ∧ ∀ ms, parse digits value = .ok ms ↔ Denotes value ms

/-- A month and a day of a year before or after the start of the era. -/
def IsCivilDate (year : ℤ) (month day : ℕ) : Prop := IsDate (year % 400).toNat month day

/-! ## Where the parser is exact -/

/-- The numbers of a match, when they are all written in ASCII. -/
def Captures.numbers (c : Captures) : Option (ℕ × ℕ × ℕ × ℕ × ℕ × ℕ) := do
  let year ← parseNumber c.year
  let month ← parseNumber c.month
  let day ← parseNumber c.day
  let hour ← parseNumber c.hour
  let minute ← parseNumber c.minute
  let second ← parseNumber c.second
  return (year, month, day, hour, minute, second)

/-- The numbers are a date and a time of day not before 1970. -/
def IsInstant (year month day hour minute second : ℕ) : Prop :=
  1970 ≤ year ∧ IsDate year month day ∧ hour < 24 ∧ minute < 60 ∧ second < 60

/-- A fraction that holds a digit of another script, behind six numbers in ASCII: its third byte ends a character,
and it starts with such a digit within its first three characters or the numbers are no instant. -/
def ForeignFractionRefused (digits : DigitClass) (value : String) : Prop :=
  ∀ c fraction year month day hour minute second, captures digits value.toList = some c →
    c.fraction = some fraction → c.numbers = some (year, month, day, hour, minute, second) →
    fraction.all isAsciiDigit = false →
    ∃ head, sliceTo 3 (padFraction fraction) = some head ∧
      (head.all isAsciiDigit = false ∨ ¬IsInstant year month day hour minute second)

end Iweb.Rfc3339
