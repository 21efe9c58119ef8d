import Iweb.Catalog.Records
import Iweb.Contracts.StrictJson

/-!
# Canonical files

A file is canonical if its bytes are the ones its value is written as.
-/

namespace Iweb.StrictJson

variable {ν : Type}

/-- `utf8Decoder.decode`: it leaves out a byte-order mark. -/
def decodeUtf8 (bytes : List UInt8) : Option JsString :=
  (String.fromUTF8? ⟨(if bytes.take 3 = [0xef, 0xbb, 0xbf] then bytes.drop 3 else bytes).toArray⟩).map JsString.ofString

/-- The value of a canonical file, or the issue that is reported; the value `null` stands for a failure at the
callers, which then report nothing. -/
def parseCanonicalJson (N : JsNumbers ν) (bytes : List UInt8) (path : String) : Except ValidationIssue (JsValue ν) :=
  match decodeUtf8 bytes with
  | none => .error ⟨"WASM_OCI_JSON_INVALID", path, "file bytes are not valid UTF-8"⟩
  | some text =>
    match parseStrictJson N text with
    | .error e => .error ⟨"WASM_OCI_JSON_INVALID", path, e⟩
    | .ok value =>
      match jcsCanonicalBytes N value with
      | .error _ => .error ⟨"WASM_OCI_JSON_INVALID", path, "parsed value cannot be canonicalized as JCS"⟩
      | .ok canonical =>
        if canonical ≠ bytes then
          .error ⟨"WASM_OCI_NON_CANONICAL_JSON", path, "raw bytes must equal JCS(JSON.parse(bytes))"⟩
        else .ok value

end Iweb.StrictJson
