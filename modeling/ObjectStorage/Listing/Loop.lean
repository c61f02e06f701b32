import ObjectStorage.Listing.Basic

/-!
# Whole listings

Loops that ask for page after page until an empty one.  A server may never send one, so each loop
takes the number of pages after which it stops, and says whether the listing ended before.
-/

namespace ObjectStorage.Listing

variable {kind : Kind} {σ α : Type}

/-- The items of all pages; none if `rounds` pages did not end the listing. -/
def collectPages (page : Remote (Listing kind × σ) (List α)) :
    Nat → Remote (Listing kind × σ) (Option (List α))
  | 0 => return none
  | rounds + 1 => do
      let items ← page
      if items.isEmpty then return some []
      match ← collectPages page rounds with
      | some rest => return some (items ++ rest)
      | none => return none

/-- Visits the items of all pages; false if `rounds` pages did not end the listing. -/
def visitPages (page : Remote (Listing kind × σ) (List α)) (visit : α → Remote σ Unit) :
    Nat → Remote (Listing kind × σ) Bool
  | 0 => return false
  | rounds + 1 => do
      let items ← page
      if items.isEmpty then return true
      items.forM fun item => Remote.onSecond (visit item)
      visitPages page visit rounds

def collect (transport : Transport σ) (rounds : Nat) :
    Remote (Listing kind × σ) (Option (List (Handle kind))) :=
  collectPages (nextPage transport none) rounds

def collectDetailed (transport : Transport σ) (rounds : Nat) :
    Remote (Listing kind × σ) (Option (List (Handle kind × Details kind))) :=
  collectPages (nextPageDetailed transport none) rounds

def foreach (transport : Transport σ) (visit : Handle kind → Remote σ Unit) (rounds : Nat) :
    Remote (Listing kind × σ) Bool :=
  visitPages (nextPage transport none) visit rounds

def foreachDetailed (transport : Transport σ)
    (visit : Handle kind × Details kind → Remote σ Unit) (rounds : Nat) :
    Remote (Listing kind × σ) Bool :=
  visitPages (nextPageDetailed transport none) visit rounds

end ObjectStorage.Listing
