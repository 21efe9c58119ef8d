import Iweb.Contracts.StrictJson

/-!
# What a JSON text says

The grammar of JSON texts, each with the value it says: a number is the number of its token, a string is the units that
its pieces stand for, an object has no two members of one name. An escape names no surrogate that stands alone, and a
number is finite.
-/

namespace Iweb.StrictJson

variable {ν : Type}

/-- Blanks around the symbols of a text. -/
def IsBlank (text : JsString) : Prop := ∀ u ∈ text, isWhitespace u = true

/-! ## Numbers -/

def IsDigits (text : JsString) : Prop := text ≠ [] ∧ ∀ u ∈ text, isDigit u = true

def IsInteger (text : JsString) : Prop := text = [0x30] ∨ IsDigits text ∧ text.head? ≠ some 0x30

def IsFraction (text : JsString) : Prop := text = [] ∨ ∃ digits, IsDigits digits ∧ text = 0x2e :: digits

def IsExponent (text : JsString) : Prop :=
  text = [] ∨ ∃ mark sign digits, (mark = 0x65 ∨ mark = 0x45) ∧ (sign = [] ∨ sign = [0x2b] ∨ sign = [0x2d]) ∧
    IsDigits digits ∧ text = mark :: (sign ++ digits)

/-- The tokens of numbers. -/
def IsNumberToken (token : JsString) : Prop :=
  ∃ sign integer fraction exponent, (sign = [] ∨ sign = [0x2d]) ∧ IsInteger integer ∧ IsFraction fraction ∧
    IsExponent exponent ∧ token = sign ++ (integer ++ (fraction ++ exponent))

/-! ## Strings -/

/-- Four digits and their number. -/
inductive IsHex4 : JsString → Nat → Prop
  | digits {a b c d : UInt16} {p q r s : Nat} (ha : hexDigit a = some p) (hb : hexDigit b = some q)
      (hc : hexDigit c = some r) (hd : hexDigit d = some s) : IsHex4 [a, b, c, d] (((p * 16 + q) * 16 + r) * 16 + s)

/-- A piece of a string and the units it stands for. -/
inductive IsPiece : JsString → JsString → Prop
  | plain {u : UInt16} (hcontrol : 0x20 ≤ u.toNat) (hquote : u ≠ 0x22) (hbackslash : u ≠ 0x5c) : IsPiece [u] [u]
  | short {c u : UInt16} (h : shortEscape c = some u) : IsPiece [0x5c, c] [u]
  | unit {digits : JsString} {n : Nat} (h : IsHex4 digits n) (hlow : ¬(0xd800 ≤ n ∧ n ≤ 0xdfff)) :
      IsPiece (0x5c :: 0x75 :: digits) [UInt16.ofNat n]
  | pair {digits digits' : JsString} {high low : Nat} (h : IsHex4 digits high) (h' : IsHex4 digits' low)
      (hhigh : 0xd800 ≤ high ∧ high ≤ 0xdbff) (hlow : 0xdc00 ≤ low ∧ low ≤ 0xdfff) :
      IsPiece (0x5c :: 0x75 :: (digits ++ 0x5c :: 0x75 :: digits')) [UInt16.ofNat high, UInt16.ofNat low]

/-- The inside of a string. -/
inductive IsBody : JsString → JsString → Prop
  | nil : IsBody [] []
  | cons {piece units text value : JsString} (h : IsPiece piece units) (hrest : IsBody text value) :
      IsBody (piece ++ text) (units ++ value)

def IsString (text value : JsString) : Prop := ∃ body, IsBody body value ∧ text = 0x22 :: (body ++ [0x22])

/-! ## Values -/

mutual

/-- A text says a value. -/
inductive Says (N : JsNumbers ν) : JsString → JsValue ν → Prop
  | null : Says N nullWord .null
  | bool (value : Bool) : Says N (if value then trueWord else falseWord) (.bool value)
  | number {token : JsString} (h : IsNumberToken token) (hfinite : N.isFinite (N.number token) = true) :
      Says N token (.number (N.number token))
  | string {text value : JsString} (h : IsString text value) : Says N text (.string value)
  | emptyArray {blank : JsString} (hblank : IsBlank blank) : Says N (0x5b :: (blank ++ [0x5d])) (.array [])
  | array {text : JsString} {items : List (JsValue ν)} (h : SaysItems N text items) :
      Says N (0x5b :: text) (.array items)
  | emptyObject {blank : JsString} (hblank : IsBlank blank) : Says N (0x7b :: (blank ++ [0x7d])) (.object [])
  | object {text : JsString} {members : List (JsString × JsValue ν)} (h : SaysMembers N text members)
      (hnames : (members.map Prod.fst).Nodup) : Says N (0x7b :: text) (.object members)

/-- The items of an array, and the bracket that closes it. -/
inductive SaysItems (N : JsNumbers ν) : JsString → List (JsValue ν) → Prop
  | last {before text after : JsString} {value : JsValue ν} (hbefore : IsBlank before) (h : Says N text value)
      (hafter : IsBlank after) : SaysItems N (before ++ (text ++ (after ++ [0x5d]))) [value]
  | more {before text after rest : JsString} {value : JsValue ν} {items : List (JsValue ν)} (hbefore : IsBlank before)
      (h : Says N text value) (hafter : IsBlank after) (hrest : SaysItems N rest items) :
      SaysItems N (before ++ (text ++ (after ++ 0x2c :: rest))) (value :: items)

/-- The members of an object, and the brace that closes it. -/
inductive SaysMembers (N : JsNumbers ν) : JsString → List (JsString × JsValue ν) → Prop
  | last {before text after : JsString} {member : JsString × JsValue ν} (hbefore : IsBlank before)
      (h : SaysMember N text member) (hafter : IsBlank after) :
      SaysMembers N (before ++ (text ++ (after ++ [0x7d]))) [member]
  | more {before text after rest : JsString} {member : JsString × JsValue ν} {members : List (JsString × JsValue ν)}
      (hbefore : IsBlank before) (h : SaysMember N text member) (hafter : IsBlank after)
      (hrest : SaysMembers N rest members) :
      SaysMembers N (before ++ (text ++ (after ++ 0x2c :: rest))) (member :: members)

/-- A name and its value. -/
inductive SaysMember (N : JsNumbers ν) : JsString → JsString × JsValue ν → Prop
  | mk {name key blank blank' text : JsString} {value : JsValue ν} (hname : IsString name key) (hblank : IsBlank blank)
      (hblank' : IsBlank blank') (h : Says N text value) :
      SaysMember N (name ++ (blank ++ 0x3a :: (blank' ++ text))) (key, value)

end

/-- A whole text, with blanks around it. -/
def SaysText (N : JsNumbers ν) (text : JsString) (value : JsValue ν) : Prop :=
  ∃ before inner after, IsBlank before ∧ Says N inner value ∧ IsBlank after ∧ text = before ++ (inner ++ after)

/-! ## Values up to the order of members -/

mutual

/-- No object of the value has two members of one name. -/
def JsValue.Distinct : JsValue ν → Prop
  | .array items => DistinctItems items
  | .object members => (members.map Prod.fst).Nodup ∧ DistinctMembers members
  | _ => True

def DistinctItems : List (JsValue ν) → Prop
  | [] => True
  | item :: items => item.Distinct ∧ DistinctItems items

def DistinctMembers : List (JsString × JsValue ν) → Prop
  | [] => True
  | (_, value) :: members => value.Distinct ∧ DistinctMembers members

end

mutual

/-- The value with the members of every object in the order of their names. Two values are equal up to the order of
members if they agree on it. -/
def JsValue.sorted : JsValue ν → JsValue ν
  | .array items => .array (sortedItems items)
  | .object members => .object (sortMembers (sortedMembers members))
  | value => value

def sortedItems : List (JsValue ν) → List (JsValue ν)
  | [] => []
  | item :: items => item.sorted :: sortedItems items

def sortedMembers : List (JsString × JsValue ν) → List (JsString × JsValue ν)
  | [] => []
  | (key, value) :: members => (key, value.sorted) :: sortedMembers members

end

/-- What the language documents of its numbers: the text of a finite one is a token, which gives it back. -/
structure JsNumbers.Lawful (N : JsNumbers ν) : Prop where
  token : ∀ value, N.isFinite value = true → IsNumberToken (N.text value)
  number : ∀ value, N.isFinite value = true → N.number (N.text value) = value

end Iweb.StrictJson
