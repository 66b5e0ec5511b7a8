import DepositDirectory.Environment
import DepositDirectory.Http.Place
import DepositDirectory.Text.Blank

/-!
# Proxies

The environment can name places that requests are made through, one for plain web addresses and one
for those over TLS, and hosts that are asked without.  An entry that names no place counts as not
there.
-/

namespace DepositDirectory.Http

/-! ## Exempt hosts -/

inductive Exemption where
  /-- Addresses of version 4 that begin with the same bits. -/
  | v4 (address bits : Nat)
  /-- Addresses of version 6 that begin with the same bits. -/
  | v6 (address bits : Nat)
  /-- A domain and those below it, or all. -/
  | domain (name : List Char)
  deriving DecidableEq

namespace Exemption

def v4Of? (byte? : List Char → Option Nat) (cs : List Char) : Option Nat :=
  let parts := Text.splitAt '.' cs
  if parts.length = 4 then (parts.mapM byte?).map (·.foldl (fun value part => value * 256 + part) 0)
  else none

def decimal? (digits limit : Nat) (cs : List Char) : Option Nat :=
  if cs = [] || digits < cs.length then none else (Url.digitsIn? 10 cs).filter (· ≤ limit)

def v6Of? (cs : List Char) : Option Nat :=
  (Url.v6Pieces? cs).map (·.foldl (fun value piece => value * 65536 + piece) 0)

def network? (cs : List Char) : Option Exemption :=
  match Text.splitAt '/' cs with
  | [address, bits] =>
      match v4Of? (decimal? 3 255) address with
      | some address => (decimal? 2 32 bits).map (v4 address)
      | none => do return v6 (← v6Of? address) (← decimal? 3 128 bits)
  | _ => none

def address? (cs : List Char) : Option Exemption :=
  match v4Of? Url.decimalByte? cs with
  | some address => some (v4 address 32)
  | none => (v6Of? cs).map (v6 · 128)

/-- Read one entry; what is no network and no address is a domain. -/
def ofChars (cs : List Char) : Exemption :=
  ((network? cs).or (address? cs)).getD (domain cs)

/-- Whether a domain is the named one or below it; a dot in front of the name does not matter. -/
def coversDomain (name host : List Char) : Bool :=
  name = host || name = '.' :: host ||
    if name.isSuffixOf host then
      name.head? = some '.' || (host.take (host.length - name.length)).getLast? = some '.'
    else name = ['*']

def covers : Exemption → Url.Host → Bool
  | v4 address bits, .v4 host => address / Nat.pow 2 (32 - bits) = host / Nat.pow 2 (32 - bits)
  | v6 address bits, .v6 pieces =>
      let host := pieces.foldl (fun value piece => value * 65536 + piece) 0
      address / Nat.pow 2 (128 - bits) = host / Nat.pow 2 (128 - bits)
  | domain name, .domain host => coversDomain name host.toList
  | _, _ => false

end Exemption

/-! ## Proxies -/

def Place.ofProxy? (text : String) : Option Place :=
  if Text.trim text = "" then none
  else
    match Url.read text with
    | .ok url => if url.hasHost then ofWeb? url else schemeless
    | .error .noBase => schemeless
    | .error _ => none
where
  /-- The place of a web address. -/
  ofWeb? (url : Url) : Option Place :=
    let host := (url.authority.map (·.hostChars)).getD []
    if isWeb url && readsAsAuthority 0 false false false host then Place.ofUrl? url else none
  /-- The place of the text as a plain web address. -/
  schemeless : Option Place :=
    (Url.read ("http://" ++ text)).toOption.bind ofWeb?

/-- The places that requests are made through. -/
structure Proxies where
  plain : Option Place
  secure : Option Place
  exempt : List Exemption
  deriving DecidableEq

namespace Proxies

def empty : Proxies := ⟨none, none, []⟩

/--
The proxies of an environment.  One for all requests comes before those for some.  A program that
answers requests of its own gets the headers of those as variables, so that the plain proxy is not
taken from one that could be a header.
-/
def read (environment : Environment) : Proxies :=
  let first := fun names : List String =>
    names.findSome? fun name => (environment name).bind Place.ofProxy?
  let shared := ["ALL_PROXY", "all_proxy"]
  let answering := (environment "REQUEST_METHOD").isSome
  let listed := ((environment "NO_PROXY").or (environment "no_proxy")).getD ""
  { plain := first (shared ++ if answering then [] else ["HTTP_PROXY", "http_proxy"])
    secure := first (shared ++ ["HTTPS_PROXY", "https_proxy"])
    exempt :=
      if listed = "" then []
      else (Text.splitAt ',' listed.toList).map (Exemption.ofChars ∘ Text.trimChars) }

/-- The place that a URL is asked through, if it is not asked itself. -/
def choose? (proxies : Proxies) (url : Url) : Option Place :=
  if url.authority.any fun authority => proxies.exempt.any (·.covers authority.host) then none
  else if isSecure url then proxies.secure
  else proxies.plain

end Proxies

end DepositDirectory.Http
