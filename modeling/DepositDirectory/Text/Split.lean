/-!
# Splitting at separators

A list is split at every occurrence of a separator, so that there is one part more than there are
separators and none of the parts holds one.
-/

namespace DepositDirectory.Text

/-- Split a list at a separator. -/
def splitAt {α : Type} [DecidableEq α] (separator : α) : List α → List (List α)
  | [] => [[]]
  | a :: rest =>
      if a = separator then [] :: splitAt separator rest
      else
        match splitAt separator rest with
        | [] => [[a]]
        | first :: others => (a :: first) :: others

end DepositDirectory.Text
