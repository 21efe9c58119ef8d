import Iweb.Foundations.ChunkedReading
import Iweb.Kernel.Wire
import Mathlib.Data.List.SplitOn

/-!
# Responses over a private connection

The response of a sandbox, and that of an application to an upgrade request, is read from a socket by hand: the reads
fill a buffer until it has what is asked for, and the buffer is cut into the status, the headers and the body. A head
is ASCII text.
-/

namespace Iweb

namespace Ingress

open ChunkedReading

/-! ## Texts -/

def headerTerminator : List UInt8 := [13, 10, 13, 10]

/-- `find_header_end` -/
def findHeaderEnd (buffer : List UInt8) : Option Nat := position headerTerminator buffer

/-- A line without the carriage return before its line feed. -/
def stripReturn (line : List UInt8) : List UInt8 := if line.getLast? = some 13 then line.dropLast else line

/-- `str::lines`: what follows the last line feed is a line if there is anything. -/
def textLines (text : List UInt8) : List (List UInt8) :=
  let pieces := text.splitOn 10
  pieces.dropLast.map stripReturn ++ pieces.getLast?.toList.filter (· ≠ [])

/-- `char::is_whitespace`, of an ASCII character. -/
def isSpace (b : UInt8) : Bool := b == 32 || (9 ≤ b && b ≤ 13)

/-- `str::trim` -/
def trim (text : List UInt8) : List UInt8 := ((text.dropWhile isSpace).reverse.dropWhile isSpace).reverse

/-- `u8::to_ascii_lowercase` -/
def toLower (b : UInt8) : UInt8 := if 65 ≤ b && b ≤ 90 then b + 32 else b

/-- `str::eq_ignore_ascii_case`, with a text in lower case. -/
def isNamed (name : List UInt8) (lower : String) : Bool := name.map toLower == bytes lower

/-- `str::parse` of an unsigned integer below a limit. -/
def parseUnsigned (limit : Nat) (text : List UInt8) : Option Nat :=
  let digits := if text.head? = some (ascii '+') then text.tail else text
  if digits = [] || !digits.all isDecimalDigit || limit ≤ decimalValue digits then none else some (decimalValue digits)

/-- `str::split_whitespace` -/
def words (text : List UInt8) : List (List UInt8) := (text.splitOnP isSpace).filter (· ≠ [])

/-- `str::split_once` at a colon. -/
def splitColon (line : List UInt8) : Option (List UInt8 × List UInt8) :=
  if line.contains 58 then some (line.takeWhile (· ≠ 58), (line.dropWhile (· ≠ 58)).tail) else none

/-! ## The response of a sandbox -/

/-- What comes of a response: the reader waits for more, an error, or a response. -/
inductive Exchange
  | waits
  | failed (detail : String)
  | responded (status : Nat) (headers : List (List UInt8 × List UInt8)) (body : List UInt8)
deriving DecidableEq

/-- `header_content_length` -/
def headerContentLength (head : List UInt8) : Option Nat :=
  match (textLines head).find? fun line => (bytes "content-length:").isPrefixOf (line.map toLower) with
  | none => none
  | some line => parseUnsigned (2 ^ 64) (trim ((line.map toLower).drop (bytes "content-length:").length))

/-- The buffer has what the head declares. -/
def isComplete (buffer : List UInt8) : Bool :=
  match findHeaderEnd buffer with
  | none => false
  | some position =>
    match headerContentLength (buffer.take position) with
    | none => false
    | some length => position + length ≤ buffer.length

/-- `SANDBOX_MAX_BODY_BYTES` -/
def sandboxMaxBodyBytes : Nat := 64 * 1024 * 1024

/-- How the loop over the reads ends. -/
inductive Filled
  | waits
  | overBudget
  | filled (buffer : List UInt8)

/-- The loop over the reads; a connection that is closed gives an empty read after them. -/
def fill (closed : Bool) (buffer : List UInt8) : List (List UInt8) → Filled
  | [] => if closed then .filled buffer else .waits
  | chunk :: chunks =>
    let buffer := buffer ++ chunk
    if sandboxMaxBodyBytes < buffer.length then .overBudget
    else if isComplete buffer then .filled buffer
    else fill closed buffer chunks

/-- The headers of a head so far, and the length it declares. -/
structure HeadFields where
  headers : List (List UInt8 × List UInt8)
  declaredLength : Option Nat

/-- The header line of a response, but for those with one of the framing names. -/
def readHeader (framing : List String) (fields : HeadFields) (line : List UInt8) : HeadFields :=
  match splitColon line with
  | none => fields
  | some (name, value) =>
    if isNamed (trim name) "content-length" then
      { fields with declaredLength := parseUnsigned (2 ^ 64) (trim value) }
    else if framing.any (isNamed (trim name)) then fields
    else { fields with headers := fields.headers ++ [(trim name, trim value)] }

variable (builds : Nat → List (List UInt8 × List UInt8) → Bool)

/-- The response in a buffer; `builds` says which status and headers the builder of responses takes. -/
def respond (buffer : List UInt8) : Exchange :=
  match findHeaderEnd buffer with
  | none => .failed "sandbox response has no header terminator"
  | some position =>
    match textLines (buffer.take position) with
    | [] => .failed "empty sandbox response"
    | statusLine :: lines =>
      match (words statusLine)[1]?.bind (parseUnsigned (2 ^ 16)) with
      | none => .failed "sandbox response carries no status"
      | some status =>
        if ¬(100 ≤ status ∧ status ≤ 999) then .failed "invalid status code"
        else
          let fields := lines.foldl (readHeader ["transfer-encoding", "connection"]) ⟨[], none⟩
          let start := position + 4
          let stop := match fields.declaredLength with
            | none => some buffer.length
            | some length => if start + length ≤ buffer.length then some (start + length) else none
          match stop with
          | none => .failed "sandbox response body is shorter than its content-length"
          | some stop =>
            if builds status fields.headers then
              .responded status fields.headers ((buffer.take stop).drop start)
            else .failed "http error"

/-- `sandbox_exchange`, after the request is sent. -/
def sandboxExchange (closed : Bool) (reads : List (List UInt8)) : Exchange :=
  match fill closed [] reads with
  | .waits => .waits
  | .overBudget => .failed "sandbox response exceeds the body budget"
  | .filled buffer => respond builds buffer

/-! ## The response to an upgrade request -/

/-- The status and the headers of the head of a tunnel. -/
structure TunnelHead where
  status : Option Nat
  headers : List (List UInt8 × List UInt8)

/-- A line of the head: a status line anywhere, or a header but for the framing ones. -/
def readTunnelLine (head : TunnelHead) (line : List UInt8) : TunnelHead :=
  if (bytes "HTTP/").isPrefixOf line then
    match (words line)[1]?.bind (parseUnsigned (2 ^ 16)) with
    | none => head
    | some status => { head with status := some status }
  else
    match splitColon line with
    | none => head
    | some (name, value) =>
      if isNamed (trim name) "content-length" || isNamed (trim name) "transfer-encoding" then head
      else { head with headers := head.headers ++ [(trim name, trim value)] }

/-- What comes of an upgrade request. -/
inductive Tunnel
  | waits
  | unavailable (detail : String)
  | upgraded (headers : List (List UInt8 × List UInt8)) (leftover : List UInt8)
  | responded (status : Nat) (headers : List (List UInt8 × List UInt8)) (body : List UInt8)
deriving DecidableEq

/-- The response at the end of the head, with what was read beyond it. -/
def tunnelRespond (buffer : List UInt8) : Tunnel :=
  match findHeaderEnd buffer with
  | none => .unavailable "upgrade upstream closed before response head"
  | some position =>
    let leftover := buffer.drop (position + 4)
    let head := ((textLines (buffer.take position)).filter (· ≠ [])).foldl readTunnelLine ⟨none, []⟩
    if head.status = some 101 then .upgraded head.headers leftover
    else
      let status := head.status.getD 200
      if 100 ≤ status && status ≤ 999 && builds status head.headers then .responded status head.headers leftover
      else .unavailable "bad upstream response"

/-- The buffer has the whole head. -/
def headComplete (buffer : List UInt8) : Bool := (findHeaderEnd buffer).isSome

/-- `upgrade_tunnel`, after the request is sent: it reads until the head is complete. -/
def upgradeTunnel (closed : Bool) (reads : List (List UInt8)) : Tunnel :=
  match readUntil headComplete [] reads with
  | some buffer => tunnelRespond builds buffer
  | none => if closed then .unavailable "upgrade upstream closed before response head" else .waits

/-! ## Well-formed responses -/

/-- A byte of a header name. -/
def isTokenByte (b : UInt8) : Bool :=
  isLabelEdge b || inRange 'A' 'Z' b || (bytes "!#$%&'*+-.^_|~").contains b || b == 96

/-- A byte of a header value: visible, a space or a tab. -/
def isFieldByte (b : UInt8) : Bool := (32 ≤ b && b ≤ 126) || b == 9

/-- A header of a response: its name, and what stands after the colon. -/
structure HeaderLine where
  name : List UInt8
  content : List UInt8
  name_ne_nil : name ≠ []
  name_token : name.all isTokenByte = true
  content_field : content.all isFieldByte = true

def HeaderLine.text (line : HeaderLine) : List UInt8 := line.name ++ 58 :: line.content

def HeaderLine.named (lower : String) (line : HeaderLine) : Bool := isNamed line.name lower

/-- The name of the header is none of some names. -/
def HeaderLine.outside (names : List String) (line : HeaderLine) : Bool := !names.any (isNamed line.name)

/-- A response of HTTP/1.1: its code has three digits, and a content length, if it has one, is that of the body. -/
structure HttpResponse where
  code : List UInt8
  reason : List UInt8
  headers : List HeaderLine
  body : List UInt8
  code_digits : code.length = 3 ∧ code.all isDecimalDigit = true ∧ 100 ≤ decimalValue code
  reason_field : reason.all isFieldByte = true
  framing : headers.filter (HeaderLine.named "content-length") = [] ∨
    ∃ line, headers.filter (HeaderLine.named "content-length") = [line] ∧ trim line.content ≠ [] ∧
      (trim line.content).all isDecimalDigit = true ∧ decimalValue (trim line.content) = body.length

namespace HttpResponse

def status (response : HttpResponse) : Nat := decimalValue response.code

def statusLine (response : HttpResponse) : List UInt8 :=
  bytes "HTTP/1.1 " ++ response.code ++ 32 :: response.reason

/-- Lines with what separates them. -/
def joinLines : List (List UInt8) → List UInt8
  | [] => []
  | [line] => line
  | line :: lines => line ++ 13 :: 10 :: joinLines lines

def head (response : HttpResponse) : List UInt8 :=
  joinLines (response.statusLine :: response.headers.map HeaderLine.text)

/-- The bytes of the response. -/
def render (response : HttpResponse) : List UInt8 := response.head ++ headerTerminator ++ response.body

/-- The response declares its length. -/
def declaresLength (response : HttpResponse) : Bool := response.headers.any (HeaderLine.named "content-length")

/-- The headers but for those with one of the names, each with its value. -/
def headersWithout (response : HttpResponse) (names : List String) : List (List UInt8 × List UInt8) :=
  (response.headers.filter (HeaderLine.outside names)).map fun line => (line.name, trim line.content)

/-- The reads of a response on a connection that is closed after it, or kept open if the response says where it
ends. -/
structure ReadAs (response : HttpResponse) (reads : List (List UInt8)) (closed : Bool) : Prop where
  nonempty : ∀ chunk ∈ reads, chunk ≠ []
  flatten : reads.flatten = response.render
  closed : response.declaresLength = true ∨ closed = true
  budget : response.render.length ≤ sandboxMaxBodyBytes

/-- Some read but the last ends where the head is complete and at most four bytes of the body are missing. -/
def CutAtEnd (response : HttpResponse) (reads : List (List UInt8)) : Prop :=
  response.declaresLength = true ∧ ∃ first, Before reads first ∧ response.head.length + 4 ≤ first.flatten.length ∧
    response.head.length + response.body.length ≤ first.flatten.length

/-- Some read but the last ends where the head is complete. -/
def CutInBody (response : HttpResponse) (reads : List (List UInt8)) : Prop :=
  ∃ first, Before reads first ∧ response.head.length + 4 ≤ first.flatten.length

end HttpResponse

end Ingress

end Iweb
