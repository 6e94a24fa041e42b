import ConsoleBus.Disc.Entry
import ConsoleBus.Proofs.Boundaries
import Mathlib.Data.List.Infix

/-!
# What is kept of a name

A name is cut at the last boundary among its first bytes, which a walk back from the limit finds.
The same is left if characters are taken from the front for as long as they fit
(`boundaryFrom?_name`), and this is the longest part of the name that fits at all. Since a character
has four bytes at most, a cut loses three bytes of the room at most.
-/

namespace ConsoleBus

namespace Text

/-- Text put behind what a buffer holds, if the buffer has room for both. -/
def append? (capacity : Nat) (held text : String) : Option String :=
  if (bytes held).length + (bytes text).length ≤ capacity then some (held ++ text) else none

end Text

namespace Disc

/-- The entry for a name that is cut by its bytes and put into an empty buffer. There is none if the
walk back passes the start of the name, if the name cannot be cut where the walk ends, or if what is
left does not fit into the buffer. -/
def Entry.named? (isDirectory : Bool) (name : String) : Option Entry := do
  let stop ← Text.boundaryFrom? (Text.bytes name) (min (Text.bytes name).length maxNameLength)
  let front ← Text.before? name stop
  let kept ← Text.append? maxNameLength "" front
  return ⟨isDirectory, kept⟩

variable {name first rest : String}

/-! ## Taking characters from the front -/

theorem utf8ByteSize_ofList_cons (c : Char) (cs : List Char) :
    (String.ofList (c :: cs)).utf8ByteSize = c.utf8Size + (String.ofList cs).utf8ByteSize := by
  rw [String.ofList_cons, String.utf8ByteSize_append, String.utf8ByteSize_singleton]

theorem fitting_fits (cs : List Char) : ∀ room,
    (String.ofList (fitting room cs)).utf8ByteSize ≤ room := by
  induction cs with
  | nil => exact fun room => Nat.zero_le room
  | cons c cs ih =>
    intro room
    unfold fitting
    split
    case isTrue hfits =>
      have hrest := ih (room - c.utf8Size)
      rw [utf8ByteSize_ofList_cons]
      omega
    case isFalse => exact Nat.zero_le room

/-- No character is left over that would fit next. -/
theorem fitting_stops (cs : List Char) : ∀ room, ∃ left, cs = fitting room cs ++ left ∧
    ∀ next ∈ left.head?,
      room < (String.ofList (fitting room cs)).utf8ByteSize + next.utf8Size := by
  induction cs with
  | nil => exact fun room => ⟨[], rfl, fun _ hnext => nomatch hnext⟩
  | cons c cs ih =>
    intro room
    unfold fitting
    by_cases hfits : c.utf8Size ≤ room
    · obtain ⟨left, hleft, hstops⟩ := ih (room - c.utf8Size)
      rw [if_pos hfits]
      refine ⟨left, congrArg (c :: ·) hleft, fun next hnext => ?_⟩
      have hover := hstops next hnext
      rw [utf8ByteSize_ofList_cons]
      omega
    · rw [if_neg hfits]
      refine ⟨c :: cs, rfl, fun next hnext => ?_⟩
      rw [← Option.some.inj hnext]
      exact Nat.lt_of_lt_of_le (Nat.lt_of_not_le hfits) (Nat.le_add_left _ _)

/-! ## The longest part that fits -/

theorem length_clampName_le (name : String) :
    (Text.bytes (clampName name)).length ≤ maxNameLength :=
  fitting_fits name.toList maxNameLength

theorem clampName_stops (name : String) : ∃ left, name = clampName name ++ left ∧
    ∀ next ∈ left.toList.head?,
      maxNameLength < (Text.bytes (clampName name)).length + next.utf8Size := by
  obtain ⟨left, hleft, hstops⟩ := fitting_stops name.toList maxNameLength
  refine ⟨String.ofList left, ?_, ?_⟩
  · rw [clampName, ← String.ofList_append, ← hleft, String.ofList_toList]
  · rw [String.toList_ofList]
    exact hstops

/-- Any part from the front that fits is in what is kept. -/
theorem front_clampName (hname : name = first ++ rest)
    (hfits : (Text.bytes first).length ≤ maxNameLength) :
    ∃ more, clampName name = first ++ more := by
  obtain ⟨left, hleft, hstops⟩ := clampName_stops name
  have hparts : (clampName name).toList ++ left.toList = first.toList ++ rest.toList := by
    rw [← String.toList_append, ← String.toList_append, ← hleft, ← hname]
  rcases List.append_eq_append_iff.mp hparts with ⟨beyond, hfirst, hbeyond⟩ | ⟨more, hkept, -⟩
  · cases beyond with
    | nil =>
      rw [List.append_nil, String.toList_inj] at hfirst
      exact ⟨"", by rw [String.append_empty, hfirst]⟩
    | cons next beyond =>
      -- Whatever goes beyond what is kept begins with the character that does not fit.
      have hover := hstops next (by rw [hbeyond]; rfl)
      have hsize : (Text.bytes first).length = (Text.bytes (clampName name)).length +
          (next.utf8Size + (String.ofList beyond).utf8ByteSize) := by
        rw [← utf8ByteSize_ofList_cons, Text.length_bytes, Text.length_bytes,
          ← String.utf8ByteSize_append, ← String.ofList_toList (s := first), hfirst,
          String.ofList_append, String.ofList_toList]
      omega
  · refine ⟨String.ofList more, ?_⟩
    rw [← String.ofList_toList (s := clampName name), hkept, String.ofList_append,
      String.ofList_toList]

theorem clampName_of_le (h : (Text.bytes name).length ≤ maxNameLength) : clampName name = name := by
  obtain ⟨more, hmore⟩ := front_clampName (String.append_empty (s := name)).symm h
  obtain ⟨left, hleft, -⟩ := clampName_stops name
  have hsizes : name.utf8ByteSize = name.utf8ByteSize + more.utf8ByteSize + left.utf8ByteSize := by
    rw [← String.utf8ByteSize_append, ← hmore, ← String.utf8ByteSize_append, ← hleft]
  have hnothing : more = "" := String.utf8ByteSize_eq_zero_iff.mp (by omega)
  rw [hmore, hnothing, String.append_empty]

theorem clampName_of_lt (h : maxNameLength < (Text.bytes name).length) :
    252 ≤ (Text.bytes (clampName name)).length ∧
      ∃ next rest, name = (clampName name).push next ++ rest ∧
        maxNameLength < (Text.bytes ((clampName name).push next)).length := by
  obtain ⟨left, hleft, hstops⟩ := clampName_stops name
  have hkept := length_clampName_le name
  cases hchars : left.toList with
  | nil =>
    rw [String.toList_eq_nil_iff.mp hchars, String.append_empty] at hleft
    rw [← hleft] at hkept
    exact absurd h (Nat.not_lt.mpr hkept)
  | cons next rest =>
    have hover := hstops next (by rw [hchars]; rfl)
    have hfour := next.utf8Size_le_four
    refine ⟨?_, next, String.ofList rest, ?_, ?_⟩
    · unfold maxNameLength at hover
      omega
    · rw [← String.append_singleton, String.append_assoc, String.singleton_eq_ofList,
        ← String.ofList_append, List.singleton_append, ← hchars, String.ofList_toList]
      exact hleft
    · rw [Text.length_bytes, String.utf8ByteSize_push]
      exact hover

/-! ## Cutting by bytes -/

/-- Both ways to cut a name end at the same place, because each of them finds the longest part. -/
theorem boundaryFrom?_name (name : String) :
    Text.boundaryFrom? (Text.bytes name) (min (Text.bytes name).length maxNameLength) =
      some (Text.bytes (clampName name)).length := by
  obtain ⟨stop, hfound, hboundary, hle, hlast⟩ := Text.boundaryFrom?_eq_some (Text.bytes name)
    (min (Text.bytes name).length maxNameLength)
  obtain ⟨left, hleft, -⟩ := clampName_stops name
  obtain ⟨first, rest, hname, rfl⟩ := Text.isBoundary_iff.mp hboundary
  obtain ⟨more, hmore⟩ := front_clampName hname (Nat.le_trans hle (Nat.min_le_right _ _))
  have hinside : (Text.bytes (clampName name)).length ≤ (Text.bytes name).length := by
    have hparts := congrArg (fun text => (Text.bytes text).length) hleft
    rw [Text.bytes_append, List.length_append] at hparts
    omega
  have hreached : (Text.bytes (clampName name)).length ≤ (Text.bytes first).length :=
    hlast _ (Nat.le_min.mpr ⟨hinside, length_clampName_le name⟩)
      (Text.isBoundary_iff.mpr ⟨clampName name, left, hleft, rfl⟩)
  have hkept : (Text.bytes first).length ≤ (Text.bytes (clampName name)).length := by
    rw [hmore, Text.bytes_append, List.length_append]
    exact Nat.le_add_right _ _
  rw [hfound, Nat.le_antisymm hkept hreached]

theorem named?_eq (isDirectory : Bool) (name : String) :
    Entry.named? isDirectory name = some (Entry.named isDirectory name) := by
  obtain ⟨left, hleft, -⟩ := clampName_stops name
  have hcut : Text.before? name (Text.bytes (clampName name)).length = some (clampName name) := by
    have hbefore := Text.before?_append (clampName name) left
    rwa [← hleft] at hbefore
  have hroom : Text.append? maxNameLength "" (clampName name) = some (clampName name) := by
    unfold Text.append?
    rw [if_pos, String.empty_append]
    exact Nat.le_trans (Nat.le_of_eq (Nat.zero_add _)) (length_clampName_le name)
  unfold Entry.named?
  rw [boundaryFrom?_name]
  show (Text.before? name _).bind _ = _
  rw [hcut]
  show (Text.append? maxNameLength "" _).bind _ = _
  rw [hroom]
  rfl

/-- An entry is made for any name. The walk back from the limit ends after three steps at most, and
what is kept fits into the buffer: it is the longest part from the front of the name that has no
more bytes than that and cuts no character in two. A name that fits is kept as it is, and what was
kept once is kept again. -/
theorem named_keeps_longest (isDirectory : Bool) (name : String) :
    ∃ kept stop,
      Entry.named isDirectory name = ⟨isDirectory, kept⟩ ∧
      Entry.named? isDirectory name = some ⟨isDirectory, kept⟩ ∧
      Text.boundaryFrom? (Text.bytes name) (min (Text.bytes name).length maxNameLength) =
        some stop ∧
      min (Text.bytes name).length maxNameLength ≤ stop + 3 ∧
      (∃ rest, name = kept ++ rest) ∧
      (Text.bytes kept).length ≤ maxNameLength ∧
      (∀ first rest, name = first ++ rest → (Text.bytes first).length ≤ maxNameLength →
        ∃ more, kept = first ++ more) ∧
      ((Text.bytes name).length ≤ maxNameLength → kept = name) ∧
      (maxNameLength < (Text.bytes name).length →
        252 ≤ (Text.bytes kept).length ∧
        ∃ next rest, name = kept.push next ++ rest ∧
          maxNameLength < (Text.bytes (kept.push next)).length) ∧
      Entry.named isDirectory kept = ⟨isDirectory, kept⟩ := by
  obtain ⟨left, hleft, -⟩ := clampName_stops name
  have hkept := length_clampName_le name
  refine ⟨clampName name, (Text.bytes (clampName name)).length, rfl, named?_eq isDirectory name,
    boundaryFrom?_name name, ?_, ⟨left, hleft⟩, hkept,
    fun first rest hname hfits => front_clampName hname hfits, clampName_of_le, clampName_of_lt, ?_⟩
  · rcases Nat.lt_or_ge maxNameLength (Text.bytes name).length with hlong | hshort
    · have hnear := (clampName_of_lt hlong).1
      have hlimit : min (Text.bytes name).length maxNameLength ≤ 255 := Nat.min_le_right _ _
      omega
    · rw [clampName_of_le hshort]
      exact Nat.le_trans (Nat.min_le_left _ _) (Nat.le_add_right _ _)
  · exact congrArg (Entry.mk isDirectory) (clampName_of_le hkept)

/-- A name whose character of three bytes straddles the limit by one of them. -/
def straddlingName : String := String.ofList (List.replicate 253 'a' ++ ['€', 'b'])

theorem named_keeps_longest_straddling :
    ∃ kept, Entry.named? false straddlingName = some ⟨false, kept⟩ ∧
      252 ≤ (Text.bytes kept).length ∧
      (∃ more, kept = String.ofList (List.replicate 200 'a') ++ more) ∧
      ∃ next rest, straddlingName = kept.push next ++ rest ∧
        maxNameLength < (Text.bytes (kept.push next)).length := by
  obtain ⟨kept, stop, -, hnamed, -, -, -, -, hlongest, -, hlong, -⟩ :=
    named_keeps_longest false straddlingName
  have hfront : straddlingName = String.ofList (List.replicate 200 'a') ++
      String.ofList (List.replicate 53 'a' ++ ['€', 'b']) := by
    rw [← String.ofList_append]
    decide +kernel
  obtain ⟨hnear, hnext⟩ := hlong (by decide +kernel)
  exact ⟨kept, hnamed, hnear, hlongest _ _ hfront (by decide +kernel), hnext⟩

end Disc

end ConsoleBus
