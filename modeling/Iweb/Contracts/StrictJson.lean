import Iweb.Foundations.Readers
import Iweb.Kernel.Utf16
import Mathlib.Data.List.Sort

/-!
# Canonical JSON of the contracts

The contracts write a JSON value in one way only: the members of an object stand in the order of the UTF-16 units of
their names, a string escapes only what it must, and a number is the text that the language gives it. A strict reader
takes a text back to its value and refuses a second member of one name before the first is overwritten.

Numbers are the doubles of the language, the two zeros being one; what the code uses of them is a parameter.
-/

namespace Iweb.StrictJson

open Readers

/-- The numbers of the language: `Number.isFinite`, `Number(token)` and `String(value)`. -/
structure JsNumbers (ν : Type) where
  isFinite : ν → Bool
  number : JsString → ν
  text : ν → JsString

/-- A JSON value; the members of an object in the order of `Object.keys`. -/
inductive JsValue (ν : Type)
  | null
  | bool (value : Bool)
  | number (value : ν)
  | string (value : JsString)
  | array (items : List (JsValue ν))
  | object (members : List (JsString × JsValue ν))

variable {ν : Type}

def nullWord : JsString := [0x6e, 0x75, 0x6c, 0x6c]
def trueWord : JsString := [0x74, 0x72, 0x75, 0x65]
def falseWord : JsString := [0x66, 0x61, 0x6c, 0x73, 0x65]

/-! ## The writer -/

def serializeJcsNumber (N : JsNumbers ν) (value : ν) : Except String JsString :=
  if !N.isFinite value then .error "NaN and Infinity are not JSON values" else .ok (N.text value)

def isSurrogate (unit : UInt16) : Bool := JsString.isHighSurrogate unit || JsString.isLowSurrogate unit

/-- A digit of `toString(16)`. -/
def hexUnit (digit : Nat) : UInt16 := if digit < 10 then UInt16.ofNat (0x30 + digit) else UInt16.ofNat (0x57 + digit)

/-- What a unit that is no surrogate is written as. -/
def serializeJcsUnit (unit : UInt16) : JsString :=
  if unit = 0x22 then [0x5c, 0x22]
  else if unit = 0x5c then [0x5c, 0x5c]
  else if unit = 0x08 then [0x5c, 0x62]
  else if unit = 0x09 then [0x5c, 0x74]
  else if unit = 0x0a then [0x5c, 0x6e]
  else if unit = 0x0c then [0x5c, 0x66]
  else if unit = 0x0d then [0x5c, 0x72]
  else if unit.toNat < 0x20 then [0x5c, 0x75, 0x30, 0x30, hexUnit (unit.toNat / 16), hexUnit (unit.toNat % 16)]
  else [unit]

/-- The loop of `serializeJcsString`. -/
def serializeJcsUnits : JsString → Except String JsString
  | [] => .ok []
  | unit :: rest =>
    if isSurrogate unit then
      match rest with
      | [] => .error "lone surrogate is not valid Unicode for JCS"
      | next :: rest =>
        if JsString.isHighSurrogate unit && JsString.isLowSurrogate next then
          (serializeJcsUnits rest).map fun out => unit :: next :: out
        else .error "lone surrogate is not valid Unicode for JCS"
    else (serializeJcsUnits rest).map fun out => serializeJcsUnit unit ++ out

def serializeJcsString (value : JsString) : Except String JsString :=
  (serializeJcsUnits value).map fun out => 0x22 :: (out ++ [0x22])

def compareJcsKeys : JsString → JsString → Int
  | l :: left, r :: right =>
    let delta : Int := (l.toNat : Int) - r.toNat
    if delta ≠ 0 then delta else compareJcsKeys left right
  | left, right => (left.length : Int) - right.length

def KeyLe {γ : Type} (a b : JsString × γ) : Prop := compareJcsKeys a.1 b.1 ≤ 0

instance {γ : Type} : DecidableRel (@KeyLe γ) := fun a b => inferInstanceAs (Decidable (compareJcsKeys a.1 b.1 ≤ 0))

/-- `Object.keys(record).sort(compareJcsKeys)`, every name with what belongs to it. -/
def sortMembers {γ : Type} (members : List (JsString × γ)) : List (JsString × γ) := members.insertionSort KeyLe

/-- The texts with commas between them; the first error in their order is thrown. -/
def joinTexts : List (Except String JsString) → Except String JsString
  | [] => .ok []
  | [text] => text
  | text :: texts =>
    match text with
    | .error e => .error e
    | .ok first => (joinTexts texts).map fun out => first ++ 0x2c :: out

def serializeJcsMember (member : JsString × Except String JsString) : Except String JsString :=
  match serializeJcsString member.1 with
  | .error e => .error e
  | .ok name => member.2.map fun value => name ++ 0x3a :: value

mutual

def serializeJcsValue (N : JsNumbers ν) : JsValue ν → Except String JsString
  | .null => .ok nullWord
  | .bool value => .ok (if value then trueWord else falseWord)
  | .number value => serializeJcsNumber N value
  | .string value => serializeJcsString value
  | .array items => (joinTexts (serializeJcsItems N items)).map fun out => 0x5b :: (out ++ [0x5d])
  | .object members =>
    (joinTexts ((sortMembers (serializeJcsMembers N members)).map serializeJcsMember)).map fun out =>
      0x7b :: (out ++ [0x7d])

def serializeJcsItems (N : JsNumbers ν) : List (JsValue ν) → List (Except String JsString)
  | [] => []
  | item :: items => serializeJcsValue N item :: serializeJcsItems N items

def serializeJcsMembers (N : JsNumbers ν) : List (JsString × JsValue ν) → List (JsString × Except String JsString)
  | [] => []
  | (key, value) :: members => (key, serializeJcsValue N value) :: serializeJcsMembers N members

end

def jcsCanonicalize (N : JsNumbers ν) (value : JsValue ν) : Except String JsString := serializeJcsValue N value

def jcsCanonicalBytes (N : JsNumbers ν) (value : JsValue ν) : Except String (List UInt8) :=
  (jcsCanonicalize N value).map JsString.utf8

/-! ## The reader -/

abbrev JsonReader (α : Type) : Type := Reader UInt16 String α

/-- No text is long enough for the reader to give this answer. -/
def outOfFuel : String := "the reader stopped before the end of the text"

def isWhitespace (c : UInt16) : Bool := c == 0x20 || c == 0x09 || c == 0x0a || c == 0x0d

def skipWhitespace (text : JsString) : JsString := text.dropWhile isWhitespace

def isDigit (c : UInt16) : Bool := 0x30 ≤ c.toNat && c.toNat ≤ 0x39

def parseLiteral (word : JsString) (value : JsValue ν) : JsonReader (JsValue ν) := fun text =>
  if text.take word.length = word then .ok (value, text.drop word.length) else .error "invalid JSON literal"

def hexDigit (c : UInt16) : Option Nat :=
  if 0x30 ≤ c.toNat ∧ c.toNat ≤ 0x39 then some (c.toNat - 0x30)
  else if 0x61 ≤ c.toNat ∧ c.toNat ≤ 0x66 then some (c.toNat - 0x61 + 10)
  else if 0x41 ≤ c.toNat ∧ c.toNat ≤ 0x46 then some (c.toNat - 0x41 + 10)
  else none

/-- The loop of `readHex4`. -/
def readHex : Nat → Nat → JsonReader Nat
  | 0, value, text => .ok (value, text)
  | _ + 1, _, [] => .error "invalid \\u escape"
  | n + 1, value, c :: text =>
    match hexDigit c with
    | none => .error "invalid \\u escape"
    | some digit => readHex n (value * 16 + digit) text

def readHex4 : JsonReader Nat := readHex 4 0

/-- The low half of a surrogate pair. -/
def parseLowEscape (unit : Nat) : JsonReader JsString
  | c :: c' :: text =>
    if c ≠ 0x5c ∨ c' ≠ 0x75 then .error "lone high surrogate"
    else
      match readHex4 text with
      | .error e => .error e
      | .ok (low, text) =>
        if low < 0xdc00 ∨ 0xdfff < low then .error "invalid surrogate pair"
        else .ok ([UInt16.ofNat unit, UInt16.ofNat low], text)
  | _ => .error "lone high surrogate"

def parseUnicodeEscape : JsonReader JsString := fun text =>
  match readHex4 text with
  | .error e => .error e
  | .ok (unit, text) =>
    if 0xd800 ≤ unit ∧ unit ≤ 0xdbff then parseLowEscape unit text
    else if 0xdc00 ≤ unit ∧ unit ≤ 0xdfff then .error "lone low surrogate"
    else .ok ([UInt16.ofNat unit], text)

/-- The escapes of one letter. -/
def shortEscape (c : UInt16) : Option UInt16 :=
  if c = 0x22 then some 0x22
  else if c = 0x5c then some 0x5c
  else if c = 0x2f then some 0x2f
  else if c = 0x62 then some 0x08
  else if c = 0x66 then some 0x0c
  else if c = 0x6e then some 0x0a
  else if c = 0x72 then some 0x0d
  else if c = 0x74 then some 0x09
  else none

/-- The text is what follows the backslash. -/
def parseEscape : JsonReader JsString
  | [] => .error "invalid string escape"
  | c :: text =>
    match shortEscape c with
    | some unit => .ok ([unit], text)
    | none => if c = 0x75 then parseUnicodeEscape text else .error "invalid string escape"

/-- The loop of `parseString`. -/
def parseStringFrom : Nat → JsString → JsonReader JsString
  | 0, _, _ => .error outOfFuel
  | _ + 1, _, [] => .error "unterminated string"
  | fuel + 1, out, c :: text =>
    if c = 0x22 then .ok (out, text)
    else if c = 0x5c then
      match parseEscape text with
      | .error e => .error e
      | .ok (piece, text) => parseStringFrom fuel (out ++ piece) text
    else if c.toNat < 0x20 then .error "raw control character in string"
    else parseStringFrom fuel (out ++ [c]) text

def parseString : JsonReader JsString := fun text => parseStringFrom (text.length + 1) [] text.tail

/-- A sign in front of a number. -/
def scanSign : JsString → JsString × JsString
  | [] => ([], [])
  | c :: text => if c = 0x2d then ([c], text) else ([], c :: text)

def scanInteger : JsonReader JsString
  | [] => .error "invalid number"
  | c :: text =>
    if c = 0x30 then .ok ([c], text)
    else if isDigit c then .ok ((c :: text).takeWhile isDigit, (c :: text).dropWhile isDigit)
    else .error "invalid number"

/-- Digits, at least one. -/
def scanDigits (error : String) : JsonReader JsString := fun text =>
  if text.takeWhile isDigit = [] then .error error else .ok (text.takeWhile isDigit, text.dropWhile isDigit)

def scanFraction : JsonReader JsString
  | [] => .ok ([], [])
  | c :: text =>
    if c = 0x2e then
      match scanDigits "invalid number fraction" text with
      | .error e => .error e
      | .ok (digits, text) => .ok (c :: digits, text)
    else .ok ([], c :: text)

def scanExponentSign : JsString → JsString × JsString
  | [] => ([], [])
  | c :: text => if c = 0x2b ∨ c = 0x2d then ([c], text) else ([], c :: text)

def scanExponent : JsonReader JsString
  | [] => .ok ([], [])
  | c :: text =>
    if c = 0x65 ∨ c = 0x45 then
      match scanDigits "invalid number exponent" (scanExponentSign text).2 with
      | .error e => .error e
      | .ok (digits, rest) => .ok (c :: ((scanExponentSign text).1 ++ digits), rest)
    else .ok ([], c :: text)

/-- The token at the head of a text. -/
def scanNumber : JsonReader JsString := fun text =>
  match scanInteger (scanSign text).2 with
  | .error e => .error e
  | .ok (integer, rest) =>
    match scanFraction rest with
    | .error e => .error e
    | .ok (fraction, rest) =>
      match scanExponent rest with
      | .error e => .error e
      | .ok (exponent, rest) => .ok ((scanSign text).1 ++ (integer ++ (fraction ++ exponent)), rest)

def parseNumber (N : JsNumbers ν) : JsonReader (JsValue ν) := fun text =>
  match scanNumber text with
  | .error e => .error e
  | .ok (token, rest) =>
    if !N.isFinite (N.number token) then .error "number exceeds IEEE 754 double range"
    else .ok (.number (N.number token), rest)

/-- A member, after the members before it. -/
def parseMember (value : JsonReader (JsValue ν)) (result : List (JsString × JsValue ν)) :
    JsonReader (JsString × JsValue ν) := fun text =>
  if text.head? ≠ some 0x22 then .error "object member name must be a string"
  else
    match parseString text with
    | .error e => .error e
    | .ok (key, text) =>
      match skipWhitespace text with
      | [] => .error "expected ':' after member name"
      | c :: text =>
        if c ≠ 0x3a then .error "expected ':' after member name"
        else
          match value (skipWhitespace text) with
          | .error e => .error e
          | .ok (member, text) =>
            if result.any fun m => m.1 == key then .error "duplicate object member name"
            else .ok ((key, member), text)

def parseObject (value : JsonReader (JsValue ν)) : JsonReader (JsValue ν) := fun text =>
  let inner := skipWhitespace text.tail
  if inner.head? = some 0x7d then .ok (.object [], inner.tail)
  else
    match listLoop isWhitespace 0x2c 0x7d "expected ',' or '\x7d' in object" outOfFuel (parseMember value)
        (text.length + 1) [] inner with
    | .error e => .error e
    | .ok (members, text) => .ok (.object members, text)

def parseArray (value : JsonReader (JsValue ν)) : JsonReader (JsValue ν) := fun text =>
  let inner := skipWhitespace text.tail
  if inner.head? = some 0x5d then .ok (.array [], inner.tail)
  else
    match listLoop isWhitespace 0x2c 0x5d "expected ',' or ']' in array" outOfFuel (fun _ => value)
        (text.length + 1) [] inner with
    | .error e => .error e
    | .ok (items, text) => .ok (.array items, text)

def parseValue (N : JsNumbers ν) : Nat → JsonReader (JsValue ν)
  | 0, _ => .error outOfFuel
  | _ + 1, [] => .error "unexpected end of JSON input"
  | depth + 1, c :: text =>
    if c = 0x7b then parseObject (parseValue N depth) (c :: text)
    else if c = 0x5b then parseArray (parseValue N depth) (c :: text)
    else if c = 0x22 then (parseString (c :: text)).map fun read => (.string read.1, read.2)
    else if c = 0x74 then parseLiteral trueWord (.bool true) (c :: text)
    else if c = 0x66 then parseLiteral falseWord (.bool false) (c :: text)
    else if c = 0x6e then parseLiteral nullWord .null (c :: text)
    else if c = 0x2d || isDigit c then parseNumber N (c :: text)
    else .error "unexpected character in JSON input"

def parseStrictJson (N : JsNumbers ν) (text : JsString) : Except String (JsValue ν) :=
  if text.head? = some 0xfeff then .error "byte-order mark is not valid JSON"
  else
    match parseValue N (text.length + 1) (skipWhitespace text) with
    | .error e => .error e
    | .ok (value, rest) =>
      if skipWhitespace rest ≠ [] then .error "unexpected trailing content after JSON value" else .ok value

end Iweb.StrictJson
