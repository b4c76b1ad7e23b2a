/-
Who may use the ledger.

A caller shows a raw key, of which only the digest is stored.  A key that was revoked is
as good as none, and one that has expired is told so: it is valid up to and including the
instant at which it expires.  A key is made with a token that only the operator knows.
-/
import UsageLedger.Digest.Sha256
import UsageLedger.Store.Tables

namespace UsageLedger

/-- The key with a digest, unless it was revoked. -/
def Tables.activeKey? (t : Tables) (digest : String) : Option ApiKeyRow :=
  t.apiKeys.find? fun row => row.key = .text digest && !row.revoked

namespace Access

/-- Every raw key begins with this mark. -/
def keyMark : String := "msk_"

/-- The raw key of a secret. -/
def rawKey (secret : String) : String := keyMark ++ secret

/-- Why a raw key opens nothing. -/
inductive KeyDefect
  /-- No key, or one that was revoked. -/
  | unknown
  | expired
  deriving DecidableEq, Repr

/-- The identifier of the key that a raw key stands for. -/
def resolve (t : Tables) (clock : Timestamp) (raw : String) : Except KeyDefect Uuid :=
  match t.activeKey? (Digest.sha256Hex raw) with
  | none => .error .unknown
  | some row => if row.expiresAt.instant < clock.instant then .error .expired else .ok row.id

/-! ### Credentials -/

/-- The raw key in a credential: after the word `Bearer`, in any case, and a space. -/
def bearer? (credential : String) : Option String :=
  let cs := credential.toList
  let scheme := cs.takeWhile (· ≠ ' ')
  let raw := Text.trim Text.isBlank ((cs.dropWhile (· ≠ ' ')).drop 1)
  if scheme.map Char.toLower = "bearer".toList ∧ raw ≠ [] then some (String.ofList raw) else none

/-- What comes of comparing a token with the one that is expected. -/
inductive TokenCheck
  | same
  | different
  /-- Only ASCII can be compared. -/
  | incomparable
  deriving DecidableEq, Repr

/-- Every character of the text is ASCII. -/
def isAscii (s : String) : Bool := s.toList.all fun c => c.toNat < 0x80

/-- Compares a token with the expected one. -/
def compareTokens (given expected : String) : TokenCheck :=
  if isAscii given && isAscii expected then
    if given = expected then .same else .different
  else .incomparable

end Access

end UsageLedger
