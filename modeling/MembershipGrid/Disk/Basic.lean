import MembershipGrid.Disk.Path
import MembershipGrid.Text.Utf8

/-!
# The disk

A disk holds files and directories at locations, and one of its directories is the working
directory. What it holds is seen through `node?`; storing something at a location changes nothing
elsewhere (`node?_store`).
-/

namespace MembershipGrid

inductive Node where
  | directory
  | file (content : Bytes)
  deriving DecidableEq

structure Disk where
  workingDirectory : Location
  entries : List (Location × Node)
  deriving DecidableEq

namespace Disk

def findEntry (place : Location) : List (Location × Node) → Option Node
  | [] => none
  | entry :: rest => if entry.1 = place then some entry.2 else findEntry place rest

/-- What stands at a location. The root is always a directory. -/
def node? (d : Disk) (place : Location) : Option Node :=
  if place = [] then some .directory else findEntry place d.entries

/-- The entries with one stored in them, in place of an earlier one for the same location. -/
def storeEntry (place : Location) (node : Node) : List (Location × Node) → List (Location × Node)
  | [] => [(place, node)]
  | entry :: rest =>
    if entry.1 = place then (place, node) :: rest else entry :: storeEntry place node rest

def store (d : Disk) (place : Location) (node : Node) : Disk :=
  { d with entries := storeEntry place node d.entries }

theorem findEntry_storeEntry (place other : Location) (node : Node)
    (entries : List (Location × Node)) :
    findEntry other (storeEntry place node entries) =
      if other = place then some node else findEntry other entries := by
  induction entries with
  | nil => grind [storeEntry, findEntry]
  | cons entry rest ih => grind [storeEntry, findEntry]

theorem node?_store {place : Location} (inside : place ≠ []) (d : Disk) (node : Node)
    (other : Location) :
    (d.store place node).node? other = if other = place then some node else d.node? other := by
  by_cases root : other = []
  · simp [node?, root, Ne.symm inside]
  · simp [node?, root, store, findEntry_storeEntry]

end Disk

end MembershipGrid
