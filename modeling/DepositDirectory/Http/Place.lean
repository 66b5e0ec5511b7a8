import DepositDirectory.Url.Reader

/-!
# Places

A request is made to a place: a host and a port, spoken to over TLS or not.  Not all that reads as a
URL names one that can be asked.
-/

namespace DepositDirectory.Http

/-- Where a server listens. -/
structure Place where
  /-- Whether it is spoken to over TLS. -/
  secure : Bool
  host : Url.Host
  port : Nat
  deriving DecidableEq

def isWeb (url : Url) : Bool :=
  ["http", "https"].contains (String.ofList url.scheme)

def isSecure (url : Url) : Bool :=
  String.ofList url.scheme = "https"

def Place.ofUrl? (url : Url) : Option Place := do
  let authority ← url.authority
  let port ← url.effectivePort?
  return ⟨isSecure url, authority.host, port⟩

/-! ## Places that can be asked for -/

def isAuthorityChar (c : Char) : Bool :=
  c.isAlphanum || "!$&'()*+,-.;=_~".toList.contains c

/--
Whether a text reads as an authority, where `colons` and an escape have come since the last user or
bracket: one colon at most, for the port; no escape outside the user; and one pair of brackets.
-/
def readsAsAuthority (colons : Nat) (escaped opened closed : Bool) : List Char → Bool
  | [] => colons ≤ 1 && !escaped && opened = closed
  | ':' :: rest => colons < 8 && readsAsAuthority (colons + 1) escaped opened closed rest
  | '[' :: rest => !escaped && !opened && readsAsAuthority colons escaped true closed rest
  | ']' :: rest => opened && !closed && readsAsAuthority 0 false opened true rest
  | '@' :: rest => rest ≠ [] && readsAsAuthority 0 false opened closed rest
  | '%' :: rest => readsAsAuthority colons true opened closed rest
  | c :: rest => isAuthorityChar c && readsAsAuthority colons escaped opened closed rest

/-- Whether a URL can be asked for: it has a host, or reads as an authority as a whole. -/
def isAskable (url : Url) : Bool :=
  url.text.utf8ByteSize ≤ 65534 &&
    match url.authority with
    | some authority =>
        authority.hostChars ≠ [] && url.scheme.length ≤ 64 &&
          readsAsAuthority 0 false false false (authority.userChars ++ authority.hostChars)
    | none => readsAsAuthority 0 false false false url.text.toList

end DepositDirectory.Http
