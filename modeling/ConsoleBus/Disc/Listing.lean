import ConsoleBus.Disc.Entry

/-!
# Listings of disc images

A listing has a fixed capacity. Entries are stored in the order they are added, and stay where they
are. What is shown is a separate sequence of storage indices, which can be sorted, and from which
images that have a cue sheet can be hidden. Storing an entry over another one shows all entries in
storage order again, because a sort or a hiding done before may no longer hold.
-/

namespace ConsoleBus.Disc

/-- Why an entry could not be stored. -/
inductive ListingError where
  /-- There is no room for another entry. -/
  | full
  /-- The index is beyond the end of what is stored. -/
  | outOfRange
  deriving DecidableEq, Repr

/-- The error in words. -/
def ListingError.message : ListingError → String
  | .full => "File list full"
  | .outOfRange => "Index out of range"

/-- The number of entries that storage indices can tell apart. -/
def indexLimit : Nat := 65536

/-- The usual capacity of a listing. -/
def usualCapacity : Nat := 4096

/-- A listing with room for `capacity` entries. -/
structure Listing (capacity : Nat) where
  /-- The entries, in the order they were added. -/
  stored : Array Entry
  /-- The storage indices of the entries that are shown, in the order they are shown. -/
  order : Array Nat
  deriving DecidableEq, Repr

namespace Listing

variable {capacity : Nat}

/-- A listing without entries. -/
def empty : Listing capacity := ⟨#[], #[]⟩

instance : Inhabited (Listing capacity) := ⟨empty⟩

/-- The number of entries shown. -/
def size (listing : Listing capacity) : Nat := listing.order.size

/-- Whether nothing is shown. -/
def isEmpty (listing : Listing capacity) : Bool := listing.order.isEmpty

/-- The storage index of the entry shown at a position. -/
def index? (listing : Listing capacity) (position : Nat) : Option Nat := listing.order[position]?

/-- The entry shown at a position. -/
def entry? (listing : Listing capacity) (position : Nat) : Option Entry := do
  listing.stored[← listing.index? position]?

/-- The entries that are shown, in the order they are shown. -/
def toList (listing : Listing capacity) : List Entry :=
  listing.order.toList.filterMap fun index => listing.stored[index]?

/-- An operation on a listing that may be refused part way. What it has changed until then stays
changed. -/
abbrev Edit (capacity : Nat) : Type → Type := ExceptT ListingError (StateM (Listing capacity))

/-- Show a storage index after all others, if it can be told apart from them and there is room. -/
def showLast (index : Nat) : Edit capacity Unit := do
  let shown := (← get).order.size
  if index < indexLimit ∧ shown < capacity then
    modify fun listing => { listing with order := listing.order.push index }
  else
    throw .full

/-- Show `count` storage indices from `index` on after all others. -/
def showFrom (index : Nat) : (count : Nat) → Edit capacity Unit
  | 0 => return ()
  | count + 1 => do
    showLast index
    showFrom (index + 1) count

/-- Show everything that is stored, in storage order. -/
def showAll : Edit capacity Unit := do
  modify fun listing => { listing with order := #[] }
  showFrom 0 (← get).stored.size

/-- Store an entry over the one at `index`. -/
def replace (index : Nat) (entry : Entry) : Edit capacity Unit := do
  modify fun listing => { listing with stored := listing.stored.setIfInBounds index entry }
  showAll

/-- Store an entry after all others, if its index can be told apart from theirs and there is room.
It is shown last, unless something is hidden: then everything is shown again. -/
def append (entry : Entry) : Edit capacity Unit := do
  let index := (← get).stored.size
  if index < indexLimit ∧ index < capacity then
    modify fun listing => { listing with stored := listing.stored.push entry }
    let shown := (← get).order.size
    if shown = index then showLast index else showAll
  else
    throw .full

/-- Store an entry over the one at `index`, or after all others if that is where `index` points. -/
def store (index : Nat) (entry : Entry) : Edit capacity Unit := do
  let count := (← get).stored.size
  if index < count then
    replace index entry
  else if index = count then
    append entry
  else
    throw .outOfRange

/-- Store an entry at an index unless it is refused. -/
def put (listing : Listing capacity) (index : Nat) (entry : Entry) :
    Except ListingError (Listing capacity) :=
  match (store index entry).run.run listing with
  | (.ok (), listing) => .ok listing
  | (.error error, _) => .error error

/-- The entry at a storage index. -/
def entryAt (listing : Listing capacity) (index : Nat) : Entry := listing.stored.getD index default

/-- Whether the entry at one storage index may be shown before the entry at another. -/
def precedes (listing : Listing capacity) (a b : Nat) : Bool :=
  (compare (listing.entryAt a) (listing.entryAt b)).isLE

/-- Sort what is shown: directories first, then by name. -/
def sort (listing : Listing capacity) : Listing capacity :=
  { listing with order := (listing.order.toList.mergeSort listing.precedes).toArray }

/-- The items without those that are paired with the item right after them. -/
def dropPaired {α : Type} (paired : α → α → Bool) : List α → List α
  | first :: second :: rest =>
    if paired first second then dropPaired paired (second :: rest)
    else first :: dropPaired paired (second :: rest)
  | items => items

/-- Hide every image whose cue sheet is shown right after it. -/
def hideImages (listing : Listing capacity) : Listing capacity :=
  let paired a b := (listing.entryAt a).isImageOf (listing.entryAt b)
  { listing with order := (dropPaired paired listing.order.toList).toArray }

/-- A number that tells apart listings that show storage indices in different orders. -/
def fingerprint (listing : Listing capacity) : UInt32 :=
  listing.order.foldl (fun sum index => sum * 31 + UInt32.ofNat index + 1) 0

end Listing

end ConsoleBus.Disc
