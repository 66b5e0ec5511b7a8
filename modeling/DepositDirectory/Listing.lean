import DepositDirectory.Retry
import DepositDirectory.Text.Quoted

/-!
# Draining a paged listing

A listing comes in pages, each with the cursor of the next.  It is drained from its first page on
until a page has no items or no next cursor, or is absent.  The items keep the order in which they
came.  An allowance of pages bounds the drain, for a listing whose cursors run in a circle has no
end.
-/

namespace DepositDirectory

open Custody (CallError)

/-- A paged listing: how a page is fetched, where it goes on, and what it holds. -/
structure Listing (I : Interface) (π α : Type) where
  fetch : Option String → Task I CallError (Option π)
  next : π → Option String
  items : π → List α

namespace Listing

variable {I : Interface} {π α : Type}

def tell (level : Log.Level) (message : String) : Task I CallError Unit :=
  ExceptT.lift (Dialogue.say level .listing message)

def drainFrom (listing : Listing I π α) (patience : Patience) :
    (allowance : Nat) → (cursor : Option String) → (page held : Nat) → Task I CallError (List α)
  | 0, _, _, _ => ExceptT.mk .unfinished
  | allowance + 1, cursor, page, held => do
      match ← patience.execute (listing.fetch cursor) with
      | none =>
          let place := Text.quotedOption cursor
          tell .warn s!"Empty response on page {page} (cursor {place}), stopping with {held} items"
          return []
      | some fetched =>
          let items := listing.items fetched
          let total := held + items.length
          match listing.next fetched, items with
          | some next, _ :: _ =>
              tell .debug s!"Page {page} returned {items.length} items, next cursor {next}"
              return items ++ (← listing.drainFrom patience allowance (some next) (page + 1) total)
          | _, _ =>
              tell .debug s!"Listing drained after {page} pages, {total} items"
              return items

def drain (listing : Listing I π α) (patience : Patience) (allowance : Nat) :
    Task I CallError (List α) :=
  listing.drainFrom patience allowance none 1 0

end Listing

end DepositDirectory
