import DepositDirectory.Url.Host

/-!
# URLs

A URL has a scheme, perhaps an authority with a host, a path, and perhaps a query and a fragment.  A
path that starts with a slash is a list of components; another is a text as a whole and takes no
components.  The parts are held as they are written, with their escapes.
-/

namespace DepositDirectory

namespace Url

/-- Who is asked, and as whom. -/
structure Authority where
  user : List Char
  password : Option (List Char)
  host : Host
  port : Option Nat
  deriving DecidableEq

/-- The path of a URL. -/
inductive Path where
  /-- Components, a slash before each. -/
  | parts (components : List (List Char))
  | whole (text : List Char)
  deriving DecidableEq

end Url

/-- A URL. -/
structure Url where
  scheme : List Char
  authority : Option Url.Authority
  /-- Whether a slash and a dot stand before the path, lest it be read as an authority. -/
  guarded : Bool
  path : Url.Path
  query : Option (List Char)
  fragment : Option (List Char)
  deriving DecidableEq

namespace Url

/-- The schemes of web addresses and their likes, which always have a host and a path. -/
def isSpecial (scheme : List Char) : Bool :=
  ["http", "https", "ws", "wss", "ftp", "file"].contains (String.ofList scheme)

/-- The scheme of files, whose paths can begin with a drive. -/
def isFile (scheme : List Char) : Bool :=
  scheme = ['f', 'i', 'l', 'e']

def defaultPort? (scheme : List Char) : Option Nat :=
  match String.ofList scheme with
  | "http" => some 80
  | "ws" => some 80
  | "https" => some 443
  | "wss" => some 443
  | "ftp" => some 21
  | _ => none

def Path.chars : Path → List Char
  | parts components => components.flatMap ('/' :: ·)
  | whole text => text

def Authority.userChars (authority : Authority) : List Char :=
  match authority.password with
  | some password => authority.user ++ ':' :: password ++ ['@']
  | none => if authority.user = [] then [] else authority.user ++ ['@']

def Authority.hostChars (authority : Authority) : List Char :=
  authority.host.text.toList ++
    match authority.port with
    | some port => ':' :: port.repr.toList
    | none => []

def hasHost (url : Url) : Bool :=
  url.authority.any (·.hostChars ≠ [])

def authorityChars (url : Url) : List Char :=
  match url.authority with
  | some authority => ['/', '/'] ++ authority.userChars ++ authority.hostChars
  | none => if url.guarded then ['/', '.'] else []

/-- The query as it is written, with its mark. -/
def queryChars (url : Url) : List Char :=
  match url.query with
  | some query => '?' :: query
  | none => []

/-- The fragment as it is written, with its mark. -/
def fragmentChars (url : Url) : List Char :=
  match url.fragment with
  | some fragment => '#' :: fragment
  | none => []

def text (url : Url) : String :=
  String.ofList (url.scheme ++ ':' :: url.authorityChars ++ url.path.chars ++ url.queryChars ++
    url.fragmentChars)

def pathText (url : Url) : String :=
  String.ofList url.path.chars

def target (url : Url) : String :=
  String.ofList (url.path.chars ++ url.queryChars)

def effectivePort? (url : Url) : Option Nat :=
  (url.authority.bind Authority.port).or (defaultPort? url.scheme)

end Url

end DepositDirectory
