import DepositDirectory.Url.Form
import DepositDirectory.Url.Reader

/-!
# Components added to a path

Texts are added to the end of a path, each as one component with its special characters escaped.  A
final empty component is given up first.  One dot and two dots are passed over.  A text that becomes
dots only when its tabs and line breaks are dropped is resolved as dots in a path are.  The first
component of the path of a file can name a drive, with the same rules as where a path is read.
-/

namespace DepositDirectory.Url

def dropFinalEmpty (components : List (List Char)) : List (List Char) :=
  if 2 ≤ components.length ∧ components.getLast? = some [] then components.dropLast else components

/-- Open a new component; the only one of a root path is opened as it is. -/
def openComponent (components : List (List Char)) : List (List Char) :=
  if components = [[]] then [] else components

def encodeSegment (scheme segment : List Char) : List Char :=
  percentEncode (if isSpecial scheme then webSegmentSet else segmentSet) segment

def addSegment (scheme : List Char) (components : List (List Char)) (segment : List Char) :
    List (List Char) :=
  if segment = ['.'] ∨ segment = ['.', '.'] then components
  else
    let written := segment.filter (!isDropped ·)
    let before := openComponent components
    let isFirstOfFile := isFile scheme && before = []
    if written = ['.', '.'] then goBack before ++ [[]]
    else if written = ['.'] then before ++ [[]]
    else
      match splitDrive? segment with
      | some (drive, rest) =>
          if isFirstOfFile then [drive, encodeSegment scheme rest]
          else before ++ [encodeSegment scheme written]
      | none =>
          let component := encodeSegment scheme written
          before ++ [if isFirstOfFile then plainDrive component else component]

/-- A URL with texts added to its path; one whose path is a text as a whole takes none. -/
def addSegments? (url : Url) (segments : List String) : Option Url :=
  match url.path with
  | .whole _ => none
  | .parts components =>
      let added := (segments.map String.toList).foldl (addSegment url.scheme)
        (dropFinalEmpty components)
      some { url with path := .parts added }

def addQuery (url : Url) (pairs : List (String × String)) : Url :=
  let held := url.query.getD []
  let separator := if held = [] ∨ pairs = [] then [] else ['&']
  let query := held ++ separator ++ formPairs pairs
  { url with query := if query = [] then none else some query }

end DepositDirectory.Url
