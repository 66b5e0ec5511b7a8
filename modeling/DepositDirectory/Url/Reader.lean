import DepositDirectory.Url.Basic

/-!
# Reading URLs

A URL is read in the lenient way of browsers: blanks around it are dropped, tabs and line breaks
anywhere, backslashes count as slashes in web addresses, dots in the path are resolved, and what may
not stand as it is gets escaped.  A reference is read against a base that it leaves parts out of.
-/

namespace DepositDirectory.Url

open Text (splitAt)

def isDropped (c : Char) : Bool :=
  c = '\t' || c = '\n' || c = '\r'

def trimmed (cs : List Char) : List Char :=
  let isEdge := fun c : Char => c.toNat ≤ 0x20
  ((cs.dropWhile isEdge).reverse.dropWhile isEdge).reverse

def clean (cs : List Char) : List Char :=
  cs.filter (!isDropped ·)

/-- What follows the end of a path: the query and the fragment. -/
structure Ending where
  query : Option (List Char)
  fragment : Option (List Char)

def splitEnding (special : Bool) (cs : List Char) : List Char × Ending :=
  let beforeFragment := cs.takeWhile (· ≠ '#')
  let fragment := (cs.dropWhile (· ≠ '#')).tail?
  let path := beforeFragment.takeWhile (· ≠ '?')
  let query := (beforeFragment.dropWhile (· ≠ '?')).tail?
  (path, ⟨query.map (percentEncode (if special then webQuerySet else querySet) ∘ clean),
    fragment.map (percentEncode fragmentSet ∘ clean)⟩)

/-! ## Paths -/

def isSlash (special : Bool) (c : Char) : Bool :=
  c = '/' || (special && c = '\\')

def splitSlashes (special : Bool) (cs : List Char) : List (List Char) :=
  splitAt '/' (cs.map fun c => if isSlash special c then '/' else c)

def isSingleDot (component : List Char) : Bool :=
  [".", "%2e"].contains (String.ofList (component.map Char.toLower))

def isDoubleDot (component : List Char) : Bool :=
  ["..", "%2e%2e", "%2e.", ".%2e"].contains (String.ofList (component.map Char.toLower))

/-- A letter and a colon or a bar, which can name a drive; two dots do not go back over it. -/
def isDrive (component : List Char) : Bool :=
  match component with
  | [letter, mark] => letter.isAlpha && (mark = ':' || mark = '|')
  | _ => false

def goBack (components : List (List Char)) : List (List Char) :=
  match components.getLast? with
  | none => []
  | some last => if isDrive last then components else components.dropLast

def plainDrive (component : List Char) : List Char :=
  match component with
  | [letter, '|'] => if letter.isAlpha then [letter, ':'] else component
  | _ => component

def splitDrive? (component : List Char) : Option (List Char × List Char) :=
  let isApart := ((component.dropWhile (· ≠ ':')).drop 1).head?.any isDropped
  match clean component with
  | letter :: ':' :: c :: rest =>
      if isApart && letter.isAlpha then some ([letter, ':'], c :: rest) else none
  | _ => none

/-- Add a component to those before; the first of a file can name a drive. -/
def addComponent (isFile : Bool) (before : List (List Char)) (component : List Char) :
    List (List Char) :=
  let isFirst := isFile && before = []
  match if isFirst then splitDrive? component else none with
  | some (drive, rest) => [drive, percentEncode pathSet rest]
  | none =>
      let written := percentEncode pathSet (clean component)
      before ++ [if isFirst then plainDrive written else written]

/-- Add components to those before, resolving dots; a path that ends in dots ends with a slash. -/
def resolveDots (isFile : Bool) (before : List (List Char)) :
    List (List Char) → List (List Char)
  | [] => before
  | component :: rest =>
      if isDoubleDot (clean component) then
        let back := goBack before
        if rest = [] then back ++ [[]] else resolveDots isFile back rest
      else if isSingleDot (clean component) then
        if rest = [] then before ++ [[]] else resolveDots isFile before rest
      else resolveDots isFile (addComponent isFile before component) rest

def withoutSlash (special : Bool) (cs : List Char) : List Char :=
  match cs with
  | c :: rest => if isSlash special c then rest else cs
  | [] => []

/-- Read a path from its first slash on, or from nothing. -/
def readPath (special : Bool) (cs : List Char) : Path :=
  match cs with
  | [] => .parts (if special then [[]] else [])
  | _ => .parts (resolveDots false [] (splitSlashes special (withoutSlash special cs)))

def fileComponents (components : List (List Char)) : List (List Char) :=
  match components.dropWhile (· = []) with
  | [] => [[]]
  | named => named

/-! ## Authorities -/

def splitUser (cs : List Char) : Option (List Char) × List Char :=
  if cs.contains '@' then
    let host := (cs.reverse.takeWhile (· ≠ '@')).reverse
    (some (cs.take (cs.length - host.length - 1)), host)
  else (none, cs)

def readUser (cs : List Char) : List Char × Option (List Char) :=
  let user := cs.takeWhile (· ≠ ':')
  let password := (cs.dropWhile (· ≠ ':')).drop 1
  (percentEncode userSet user,
    if password = [] then none else some (percentEncode userSet password))

/-- Split a host from what follows the colon after it; colons in brackets belong to the host. -/
def splitPort (inBrackets : Bool) : List Char → List Char × Option (List Char)
  | [] => ([], none)
  | c :: rest =>
      if c = ':' && !inBrackets then ([], some rest)
      else
        let inside := if c = '[' then true else if c = ']' then false else inBrackets
        let (host, port) := splitPort inside rest
        (c :: host, port)

/-- Read a port; none is written, or the one that goes without saying, for no port. -/
def readPort (scheme cs : List Char) : Except UrlError (Option Nat) :=
  match cs.foldlM (fun value c => do
      let next ← (digitIn? 10 c).map (value * 10 + ·)
      if next ≤ 65535 then some next else none) 0 with
  | none => .error .badPort
  | some port => .ok (if cs = [] ∨ some port = defaultPort? scheme then none else some port)

/--
Read what stands between the two slashes and the path.  A mark that ends a user needs a host unless
nothing is written before it; where it is the first character, it needs one unless the text ends.
-/
def readAuthority (scheme cs : List Char) (isLast : Bool) : Except UrlError Authority := do
  let special := isSpecial scheme
  let (user?, rest) := splitUser cs
  if user? = some [] && rest = [] && !isLast then throw .emptyHost
  let (user, password) := (user?.map readUser).getD ([], none)
  let (hostChars, portChars?) := splitPort false rest
  if hostChars = [] && (special || portChars?.isSome || user ≠ [] || password.isSome) then
    throw .emptyHost
  let host ← if special then readWebHost hostChars else readPlainHost hostChars
  let port ←
    match portChars? with
    | some portChars => readPort scheme portChars
    | none => pure none
  return ⟨user, password, host, port⟩

def splitAfterPort (cs : List Char) : List Char × List Char :=
  let (hostChars, portChars?) := splitPort false (splitUser cs).2
  match portChars? with
  | some portChars =>
      let path := portChars.dropWhile (· ≠ '\\')
      if hostChars = [] then (cs, []) else (cs.take (cs.length - path.length), path)
  | none => (cs, [])

def readFromAuthority (scheme cs : List Char) : Except UrlError Url := do
  let special := isSpecial scheme
  let isEnd := fun c => isSlash special c || c = '?' || c = '#'
  let (authorityChars, pathChars) := splitAfterPort (cs.takeWhile (!isEnd ·))
  let after := pathChars ++ cs.dropWhile (!isEnd ·)
  let authority ← readAuthority scheme authorityChars (after = [])
  let (path, ending) := splitEnding special after
  return ⟨scheme, some authority, false, readPath special path, ending.query, ending.fragment⟩

/-! ## Whole URLs -/

def splitScheme? (cs : List Char) : Option (List Char × List Char) :=
  let isSchemeChar := fun c : Char => c.isAlphanum || c = '+' || c = '-' || c = '.'
  let scheme := cs.takeWhile isSchemeChar
  match scheme, cs.dropWhile isSchemeChar with
  | first :: _, ':' :: rest =>
      if first.isAlpha then some (scheme.map Char.toLower, rest) else none
  | _, _ => none

/-- The host of a file, and the text from its path on; a drive is no host. -/
def splitFileHost (cs : List Char) : List Char × List Char :=
  let isEnd := fun c => isSlash true c || c = '?' || c = '#'
  let host := clean (cs.takeWhile (!isEnd ·))
  if isDrive host then ([], cs) else (host, cs.dropWhile (!isEnd ·))

/--
Read the address of a file from after the colon of its scheme on.  A host can follow two slashes.
A path that begins with a drive has no host; one slash before the path is its own, but where two
stand for an empty host, the path begins behind another one.
-/
def readFile (cs : List Char) : Except UrlError Url := do
  let afterSlash? := fun cs : List Char =>
    match cs.dropWhile isDropped with
    | c :: rest => if isSlash true c then some rest else none
    | [] => none
  let withHost? := (afterSlash? cs).bind afterSlash?
  let (hostChars, rest) := (withHost?.map splitFileHost).getD ([], cs)
  let named ← if hostChars = [] then pure (.domain "") else readWebHost hostChars
  let host := if named = .domain "localhost" then .domain "" else named
  let (pathChars, ending) := splitEnding true rest
  let ownSlash? := if withHost?.isNone || host ≠ .domain "" then afterSlash? pathChars else none
  let written := splitSlashes true (ownSlash?.getD pathChars)
  let components := resolveDots true [] written
  let startsWithDrive := components.head?.any fun first =>
    isDrive first && written.any fun component => plainDrive (clean component) = first
  return ⟨['f', 'i', 'l', 'e'],
    some ⟨[], none, if startsWithDrive then .domain "" else host, none⟩, false,
    .parts (fileComponents components), ending.query, ending.fragment⟩

def Path.needsGuard : Path → Bool
  | parts ([] :: _ :: _) => true
  | _ => false

def readAfterScheme (scheme cs : List Char) : Except UrlError Url :=
  if isFile scheme then readFile cs
  else if isSpecial scheme then readFromAuthority scheme ((clean cs).dropWhile (isSlash true))
  else
    match clean cs with
    | '/' :: '/' :: rest => readFromAuthority scheme rest
    | cs =>
        let (path, ending) := splitEnding false cs
        let path :=
          match path with
          | '/' :: _ => readPath false path
          | _ => .whole (percentEncode [] path)
        .ok ⟨scheme, none, path.needsGuard, path, ending.query, ending.fragment⟩

/-- Split off a scheme; the text after it is left with its tabs and line breaks. -/
def splitUrl? (text : String) : Option (List Char × List Char) :=
  let cs := trimmed text.toList
  (splitScheme? (clean cs)).map fun (scheme, _) => (scheme, (cs.dropWhile (· ≠ ':')).drop 1)

/-- Read a URL that leaves nothing out. -/
def read (text : String) : Except UrlError Url :=
  match splitUrl? text with
  | some (scheme, rest) => readAfterScheme scheme rest
  | none => .error .noBase

/-! ## References -/

def Path.components : Path → List (List Char)
  | parts components => components
  | whole _ => []

/--
Read a reference that leaves out the scheme of the base.  Of slashes at its front two are enough for
a host to follow; where a backslash is one of the two, all of them are passed over.
-/
def readRelative (base : Url) (cs : List Char) : Except UrlError Url :=
  let special := isSpecial base.scheme
  let (path, ending) := splitEnding special cs
  let withPath := fun path =>
    { base with path := path, query := ending.query, fragment := ending.fragment }
  match path with
  | [] => .ok { base with query := ending.query.or base.query, fragment := ending.fragment }
  | a :: rest =>
      if isSlash special a then
        if rest.head?.any (isSlash special) then
          readFromAuthority base.scheme
            (if ['/', '/'].isPrefixOf cs then cs.drop 2 else cs.dropWhile (isSlash special))
        else .ok (withPath (readPath special path))
      else
        let before := base.path.components.dropLast
        .ok (withPath (.parts (resolveDots false before (splitSlashes special path))))

def join (base : Url) (reference : String) : Except UrlError Url :=
  match splitUrl? reference with
  | none => readRelative base (clean (trimmed reference.toList))
  | some (scheme, rest) =>
      let relative := clean rest
      let slashes := relative.takeWhile (isSlash true)
      if scheme = base.scheme && isSpecial scheme && slashes.length < 2 then
        readRelative base relative
      else readAfterScheme scheme rest

end DepositDirectory.Url
