import ConsoleBus.Disc.Listing

/-!
# Series of numbered names

A listing can be filled with a whole series of entries whose names are made from a number: the same
opening, the number with five digits, and one of several endings in turn.
-/

namespace ConsoleBus.Disc

/-- A series of numbered entries. -/
structure Series where
  /-- What every name starts with. -/
  opening : String
  /-- What the names end with, in turn: each number is used once with every ending. -/
  endings : List String
  /-- Whether the numbers go down from the highest one instead of up from zero. -/
  descending : Bool
  /-- Whether the entries are directories. -/
  isDirectory : Bool

namespace Series

/-- The highest number of a series. -/
def highest : Nat := 99999

/-- A number with at least five digits. -/
def digits (n : Nat) : String :=
  let text := Nat.toDigits 10 n
  String.ofList (List.replicate (5 - text.length) '0' ++ text)

/-- The entry of the series at the given place, counted from zero. -/
def entry (series : Series) (place : Nat) : Entry :=
  let turns := max 1 series.endings.length
  let number := if series.descending then highest - place / turns else place / turns
  .named series.isDirectory
    (series.opening ++ digits number ++ series.endings.getD (place % turns) "")

/-- Store the entries of the series from the given place on, `count` of them, each `start` beyond
its place. Give back what is then stored, and the place and error of the entry that was refused,
if any; nothing is stored after it. -/
def store {capacity : Nat} (series : Series) (start : Nat) :
    (place count : Nat) → Listing capacity → Option (Nat × ListingError) × Listing capacity
  | _, 0, listing => (none, listing)
  | place, count + 1, listing =>
    match (Listing.store (start + place) (series.entry place)).run.run listing with
    | (.ok (), listing) => series.store start (place + 1) count listing
    | (.error error, listing) => (some (place, error), listing)

end Series

end ConsoleBus.Disc
