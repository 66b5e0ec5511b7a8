import DepositDirectory.Text.CombiningClass
import DepositDirectory.Text.Composite

/-!
# Composed text

A text has one composed spelling: its characters are taken apart, the marks behind each letter are
put in the order of their classes, and then every letter takes up the marks that it can be one
character with.
-/

namespace DepositDirectory.Text

/-- Put a mark in its place among those behind it; it goes before marks of its own class. -/
def placeMark (mark : Char) : List Char → List Char
  | [] => [mark]
  | c :: rest =>
      if combiningClass c = 0 ∨ combiningClass mark ≤ combiningClass c then mark :: c :: rest
      else c :: placeMark mark rest

def orderMarks : List Char → List Char
  | [] => []
  | c :: rest =>
      if combiningClass c = 0 then c :: orderMarks rest else placeMark c (orderMarks rest)

def decomposed (cs : List Char) : List Char :=
  orderMarks (cs.flatMap parts)

/--
A letter, the marks behind it that it has not taken up, read backwards, and the text after them.  A
mark is out of reach when one of its own class or a higher one is in between.
-/
def takeUp (letter : Char) (left : List Char) : List Char → List Char
  | [] => letter :: left.reverse
  | c :: rest =>
      let isReached := left.head?.all (combiningClass · < combiningClass c)
      match if isReached then whole? letter c else none with
      | some whole => takeUp whole left rest
      | none =>
          if combiningClass c = 0 then letter :: left.reverse ++ takeUp c [] rest
          else takeUp letter (c :: left) rest

def putTogether : List Char → List Char
  | [] => []
  | c :: rest => if combiningClass c = 0 then takeUp c [] rest else c :: putTogether rest

def composed (cs : List Char) : List Char :=
  putTogether (decomposed cs)

end DepositDirectory.Text
