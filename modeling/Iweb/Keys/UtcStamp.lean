import Iweb.Keys.KeyStore
import Iweb.Kernel.Timestamps

/-!
# Timestamps and the instants they denote

A timestamp has a date of the calendar and a time of day, with or without milliseconds. Its instant is counted in
milliseconds from the start of 1970. This says what the expiry of a key means, without the comparison of texts
that decides it in the store.
-/

namespace Iweb.Keys

open Calendar Decimals

/-- A timestamp `YYYY-MM-DDTHH:MM:SSZ` or `YYYY-MM-DDTHH:MM:SS.sssZ`. -/
structure UtcStamp where
  year : ℕ
  month : ℕ
  day : ℕ
  hour : ℕ
  minute : ℕ
  second : ℕ
  millis : Option ℕ
  year_lt : year < 10000
  isDate : IsDate year month day
  hour_lt : hour < 24
  minute_lt : minute < 60
  second_lt : second < 60
  millis_lt : ∀ ms, millis = some ms → ms < 1000

namespace UtcStamp

/-- What follows the seconds. -/
def fractionText : Option ℕ → List UInt8
  | none => [ascii 'Z']
  | some ms => ascii '.' :: (decimal 3 ms ++ [ascii 'Z'])

/-- The bytes of a timestamp. -/
def text (stamp : UtcStamp) : List UInt8 :=
  timestampBytes stamp.year stamp.month stamp.day stamp.hour stamp.minute stamp.second (fractionText stamp.millis)

/-- The seconds since the start of 1970. -/
def seconds (stamp : UtcStamp) : ℤ :=
  epochSeconds stamp.year stamp.month stamp.day stamp.hour stamp.minute stamp.second

/-- The milliseconds since the start of 1970. -/
def instant (stamp : UtcStamp) : ℤ := stamp.seconds * 1000 + (stamp.millis.getD 0 : ℕ)

end UtcStamp

/-- A text is a timestamp of an instant. -/
def Denotes (value : String) (instant : ℤ) : Prop :=
  ∃ stamp : UtcStamp, bytes value = stamp.text ∧ stamp.instant = instant

/-- The key has ended: its expiry denotes an instant that is not after the clock. -/
def KeyRecord.Ended (record : KeyRecord) (now : ℕ) : Prop :=
  ∃ expiry instant, record.expiresAt = some expiry ∧ Denotes expiry instant ∧ instant ≤ (now : ℤ)

/-- A bearer presents the key: it names the key and a secret with the digest of the record. -/
def Presents (host : KeyHost) (bearer : String) (record : KeyRecord) : Prop :=
  ∃ secret, bytes bearer = bytes "iwb_" ++ bytes record.keyId ++ ascii '_' :: secret ∧ secret.length = 43 ∧
    secret.all isBase64UrlChar = true ∧ host.sha256Hex secret = record.secretHash

/-- Every reader of the store takes the key for expired exactly when it has ended. -/
structure FollowsClock (host : KeyHost) (store : KeyStore) (now : ℕ) (record : KeyRecord) : Prop where
  authenticate : ∀ bearer, Presents host bearer record → host.sha256 (bytes bearer) ≠ store.bootstrapDigest →
    (store.authenticate host now bearer = none ↔ record.Ended now)
  isActive : store.isActive record.keyId now = false ↔ record.Ended now
  metadata : (∃ entry ∈ store.metadata now, entry.keyId = record.keyId ∧ entry.status = "expired") ↔ record.Ended now

/-- `create` refuses the expiry exactly when it denotes no instant after the clock. -/
def CreateFollowsClock (host : KeyHost) (store : KeyStore) (now : ℕ) (expiry : String) : Prop :=
  ∀ label issuedAt outcome draws, validLabel label = true →
    (store.create host label (some expiry) now issuedAt outcome draws = some (.error expiryRefused, store) ↔
      ¬∃ instant, Denotes expiry instant ∧ (now : ℤ) < instant)

/-! ## Where the order of the texts is the order of the instants -/

/-- The clock writes its year in four digits and the timestamp does not name the second of the clock without
milliseconds; or the clock writes a longer year, and the year of the timestamp is at most its first four digits. -/
def ClockAgrees (stamp : UtcStamp) (now : ℕ) : Prop :=
  let year := (civilFromDays (now / 1000 / 86400)).1
  if year < 10000 then ¬(stamp.millis = none ∧ stamp.seconds = (now / 1000 : ℕ)) else stamp.year ≤ leadingFour year

instance (stamp : UtcStamp) (now : ℕ) : Decidable (ClockAgrees stamp now) := by
  unfold ClockAgrees
  infer_instance

/-- The condition on a text. -/
def TextAgrees (value : String) (now : ℕ) : Prop :=
  ∀ stamp : UtcStamp, bytes value = stamp.text → ClockAgrees stamp now

end Iweb.Keys
