import ConsoleBus.Disc.Listing
import Mathlib.Data.List.Perm.Subperm

/-!
# What every listing satisfies

Storage and order are two tables of different lengths once images are hidden. Whatever is done to a
listing, no more is stored than there is room for, and the order names stored entries only, each at
most once. On such listings storing is all or nothing: none of the checks made on the way fails once
the first change is made (`Sound.store_cases`). So every listing that comes about is sound, and its
three views, by position, by storage index and as a whole, agree.
-/

namespace ConsoleBus.Disc

/-! ## The order of entries -/

instance : Std.TransOrd Entry :=
  have : Std.TransCmp fun a b : Entry => compare b.isDirectory a.isDirectory :=
    @Std.TransCmp.opposite _ (compareOn fun entry : Entry => entry.isDirectory) _
  inferInstanceAs (Std.TransCmp (compareLex (fun a b : Entry => compare b.isDirectory a.isDirectory)
    (compareOn fun entry : Entry => Text.bytes entry.name)))

/-! ## Sorting -/

/-- A way to sort storage indices. If comparing two of them the other way round gives the opposite
answer, and comparisons chain, it rearranges them so that none compares greater than a later one.
Which of two equal ones comes first is left open. -/
structure Sorter where
  /-- Sort by a comparison. -/
  run : (Nat → Nat → Ordering) → List Nat → List Nat
  perm (cmp : Nat → Nat → Ordering) [Std.TransCmp cmp] (indices : List Nat) :
    (run cmp indices).Perm indices
  ordered (cmp : Nat → Nat → Ordering) [Std.TransCmp cmp] (indices : List Nat) :
    (run cmp indices).Pairwise fun a b => (cmp a b).isLE = true

/-- Merge sort keeps equal indices as they were. -/
def Sorter.merge : Sorter where
  run cmp indices := indices.mergeSort fun a b => (cmp a b).isLE
  perm cmp _ indices := List.mergeSort_perm indices _
  ordered cmp _ indices := by
    refine List.pairwise_mergeSort (fun a b c => Std.TransCmp.isLE_trans) (fun a b => ?_) indices
    have hswap : cmp b a = (cmp a b).swap := Std.OrientedCmp.eq_swap
    rw [hswap]
    cases cmp a b <;> rfl

namespace Listing

variable {capacity : Nat} {listing sorted : Listing capacity}

/-- The other listing shows the same entries, sorted. Which of two equal entries comes first is
left open. -/
structure SortsTo (listing sorted : Listing capacity) : Prop where
  stored : sorted.stored = listing.stored
  perm : sorted.order.toList.Perm listing.order.toList
  ordered : sorted.order.toList.Pairwise fun a b => listing.precedes a b = true

/-- Sort what is shown in the given way. -/
def sortBy (sorter : Sorter) (listing : Listing capacity) : Listing capacity :=
  let order := sorter.run (fun a b => compare (listing.entryAt a) (listing.entryAt b))
    listing.order.toList
  { listing with order := order.toArray }

theorem sortsTo_sortBy (sorter : Sorter) (listing : Listing capacity) :
    listing.SortsTo (listing.sortBy sorter) := by
  have hcmp : Std.TransCmp fun a b => compare (listing.entryAt a) (listing.entryAt b) :=
    inferInstanceAs (Std.TransCmp (compareOn listing.entryAt))
  exact ⟨rfl, sorter.perm _ _, sorter.ordered _ _⟩

theorem sortsTo_sort (listing : Listing capacity) : listing.SortsTo listing.sort :=
  sortsTo_sortBy .merge listing

/-! ## Soundness -/

/-- The order names entries that are stored, each at most once. -/
structure Sound (listing : Listing capacity) : Prop where
  stored_le_capacity : listing.stored.size ≤ capacity
  stored_le_limit : listing.stored.size ≤ indexLimit
  nodup : listing.order.toList.Nodup
  lt : ∀ index ∈ listing.order.toList, index < listing.stored.size

theorem sound_empty : (empty : Listing capacity).Sound :=
  ⟨Nat.zero_le _, Nat.zero_le _, List.nodup_nil, fun _ h => nomatch h⟩

theorem Sound.subperm (h : listing.Sound) :
    listing.order.toList.Subperm (List.range listing.stored.size) :=
  h.nodup.subperm fun index hindex => List.mem_range.mpr (h.lt index hindex)

/-- Everything is shown exactly if the order is a permutation of the storage indices. -/
theorem Sound.size_eq_iff (h : listing.Sound) : listing.order.size = listing.stored.size ↔
    listing.order.toList.Perm (List.range listing.stored.size) := by
  constructor
  · intro hsize
    exact h.subperm.perm_of_length_le (by simp [hsize])
  · intro hperm
    have hlength := hperm.length_eq
    rwa [List.length_range, Array.length_toList] at hlength

/-- An entry is stored at the index, but it is not shown. -/
def Hides (listing : Listing capacity) (index : Nat) : Prop :=
  index < listing.stored.size ∧ index ∉ listing.order.toList

theorem Sound.size_eq_iff_not_hides (h : listing.Sound) :
    listing.order.size = listing.stored.size ↔ ∀ index, ¬ listing.Hides index := by
  rw [h.size_eq_iff]
  constructor
  · rintro hperm index ⟨hlt, hhidden⟩
    exact hhidden (hperm.mem_iff.mpr (List.mem_range.mpr hlt))
  · intro hshown
    refine (List.perm_ext_iff_of_nodup h.nodup List.nodup_range).mpr fun index => ?_
    rw [List.mem_range]
    exact ⟨h.lt index, fun hlt => not_not.mp fun hhidden => hshown index ⟨hlt, hhidden⟩⟩

theorem Sound.entryAt (h : listing.Sound) {index : Nat} (hindex : index ∈ listing.order.toList) :
    listing.stored[index]? = some (listing.entryAt index) := by
  have hlt := h.lt index hindex
  simp [Listing.entryAt, Array.getD_eq_getD_getElem?, hlt]

theorem Sound.toList_eq (h : listing.Sound) :
    listing.toList = listing.order.toList.map listing.entryAt :=
  List.filterMap_eq_map_iff_forall_eq_some.mpr fun _ hindex => h.entryAt hindex

/-- Sorting looks up stored entries only: what is told about other indices does not matter. -/
theorem Sound.sort_eq (h : listing.Sound) {lookup : Nat → Entry}
    (hlookup : ∀ index entry, listing.stored[index]? = some entry → lookup index = entry) :
    listing.sort.order.toList =
      listing.order.toList.mergeSort fun a b => (compare (lookup a) (lookup b)).isLE := by
  have hagree : ∀ index ∈ listing.order.toList, lookup index = listing.entryAt index :=
    fun index hindex => hlookup index _ (h.entryAt hindex)
  have hmap := List.map_mergeSort (r := listing.precedes) (f := id)
    (s := fun a b => (compare (lookup a) (lookup b)).isLE) (l := listing.order.toList)
    fun a ha b hb => by rw [id, id, hagree a ha, hagree b hb, precedes]
  rwa [List.map_id, List.map_id] at hmap

theorem Sound.at_position (h : listing.Sound) {position : Nat} (hposition : position < listing.size) :
    ∃ index entry, listing.index? position = some index ∧ listing.stored[index]? = some entry ∧
      listing.entry? position = some entry ∧ listing.toList[position]? = some entry := by
  have hshown : listing.order.toList[position]? = some listing.order[position] := by
    rw [Array.getElem?_toList, Array.getElem?_eq_getElem hposition]
  have hindex : listing.index? position = some listing.order[position] := by
    rw [← hshown, Array.getElem?_toList]
    rfl
  have hstored := h.entryAt (List.mem_of_getElem? hshown)
  refine ⟨_, _, hindex, hstored, ?_, ?_⟩
  · unfold entry?
    rw [hindex]
    exact hstored
  · rw [h.toList_eq, List.getElem?_map, hshown]
    rfl

theorem beyond_size {position : Nat} (hposition : listing.size ≤ position) :
    listing.index? position = none ∧ listing.entry? position = none := by
  have hindex : listing.index? position = none := Array.getElem?_eq_none hposition
  refine ⟨hindex, ?_⟩
  unfold entry?
  rw [hindex]
  rfl

/-! ## Rearranging and hiding -/

/-- A listing stays sound when its order is rearranged or thinned out. -/
theorem Sound.reorder (h : listing.Sound) {order : Array Nat}
    (hsub : order.toList.Subperm listing.order.toList) :
    ({ stored := listing.stored, order } : Listing capacity).Sound where
  stored_le_capacity := h.stored_le_capacity
  stored_le_limit := h.stored_le_limit
  nodup := by
    obtain ⟨between, hperm, hsublist⟩ := hsub
    exact hperm.nodup_iff.mp (h.nodup.sublist hsublist)
  lt index hindex := h.lt index (hsub.subset hindex)

theorem Sound.sortsTo (h : listing.Sound) (hsorted : listing.SortsTo sorted) : sorted.Sound := by
  have heq : sorted = ⟨listing.stored, sorted.order⟩ := by
    rw [← hsorted.stored]
  rw [heq]
  exact h.reorder hsorted.perm.subperm

theorem dropPaired_sublist {α : Type} (paired : α → α → Bool) (items : List α) :
    (dropPaired paired items).Sublist items := by
  fun_induction dropPaired paired items with
  | case1 first second rest hpaired ih => exact ih.cons first
  | case2 first second rest hpaired ih => exact ih.cons_cons first
  | case3 items hshort => exact .refl items

theorem Sound.hideImages (h : listing.Sound) : listing.hideImages.Sound :=
  h.reorder (dropPaired_sublist _ _).subperm

/-! ## Storing -/

theorem get_run : (get : Edit capacity (Listing capacity)).run listing = (.ok listing, listing) :=
  rfl

theorem modify_run (change : Listing capacity → Listing capacity) :
    (modify change : Edit capacity Unit).run listing = (.ok (), change listing) := rfl

/-- Once its first part has succeeded, an operation goes on from what that left. -/
theorem bind_run {α β : Type} {edit : Edit capacity α} {a : α} {after : Listing capacity}
    (h : edit.run listing = (.ok a, after)) (next : α → Edit capacity β) :
    (edit >>= next).run listing = (next a).run after := by
  show ExceptT.bindCont next (edit.run listing).1 (edit.run listing).2 = _
  rw [h]
  rfl

theorem showLast_run {index : Nat} (hlimit : index < indexLimit)
    (hroom : listing.order.size < capacity) :
    (showLast index).run listing =
      (.ok (), { listing with order := listing.order.push index }) := by
  unfold showLast
  rw [bind_run get_run, if_pos ⟨hlimit, hroom⟩, modify_run]

theorem showFrom_run (count : Nat) : ∀ (index : Nat) (listing : Listing capacity),
    index + count ≤ indexLimit → listing.order.size + count ≤ capacity →
      (showFrom index count).run listing = (.ok (),
        { listing with order := (listing.order.toList ++ List.range' index count).toArray }) := by
  induction count with
  | zero =>
    intro index listing _ _
    rw [List.range'_zero, List.append_nil, Array.toArray_toList]
    rfl
  | succ count ih =>
    intro index listing hlimit hroom
    have hnext := ih (index + 1) { listing with order := listing.order.push index } (by omega)
      (by rw [Array.size_push]; omega)
    rw [showFrom, bind_run (showLast_run (by omega) (by omega)), hnext, List.range'_succ]
    simp

/-- A listing that does not store too much can show all of it. -/
theorem showAll_run (hcapacity : listing.stored.size ≤ capacity)
    (hlimit : listing.stored.size ≤ indexLimit) :
    showAll.run listing =
      (.ok (), { listing with order := (List.range listing.stored.size).toArray }) := by
  have hshown := showFrom_run listing.stored.size 0 { listing with order := #[] }
    (by omega) (by simpa using hcapacity)
  unfold showAll
  rw [bind_run (modify_run _), bind_run get_run, hshown, List.range_eq_range']
  rfl

/-- All that storing an entry can do to a sound listing. Where it is refused nothing has changed. -/
theorem Sound.store_cases (h : listing.Sound) (index : Nat) (entry : Entry) :
    (index < listing.stored.size ∧ (store index entry).run listing = (.ok (),
      ⟨listing.stored.setIfInBounds index entry, (List.range listing.stored.size).toArray⟩)) ∨
    (index = listing.stored.size ∧ index < indexLimit ∧ index < capacity ∧
      listing.order.size = index ∧ (store index entry).run listing =
        (.ok (), ⟨listing.stored.push entry, listing.order.push index⟩)) ∨
    (index = listing.stored.size ∧ index < indexLimit ∧ index < capacity ∧
      listing.order.size ≠ index ∧ (store index entry).run listing =
        (.ok (), ⟨listing.stored.push entry, (List.range (index + 1)).toArray⟩)) ∨
    (index = listing.stored.size ∧ ¬ (index < indexLimit ∧ index < capacity) ∧
      (store index entry).run listing = (.error .full, listing)) ∨
    (listing.stored.size < index ∧
      (store index entry).run listing = (.error .outOfRange, listing)) := by
  have hcapacity := h.stored_le_capacity
  have hlimit := h.stored_le_limit
  unfold store
  rw [bind_run get_run]
  by_cases hlt : index < listing.stored.size
  · refine .inl ⟨hlt, ?_⟩
    rw [if_pos hlt, replace, bind_run (modify_run _), showAll_run] <;>
      simp [hcapacity, hlimit]
  by_cases heq : index = listing.stored.size
  · subst heq
    rw [if_neg hlt, if_pos rfl, append, bind_run get_run]
    by_cases hroom : listing.stored.size < indexLimit ∧ listing.stored.size < capacity
    · rw [if_pos hroom, bind_run (modify_run _), bind_run get_run]
      by_cases hall : listing.order.size = listing.stored.size
      · refine .inr (.inl ⟨rfl, hroom.1, hroom.2, hall, ?_⟩)
        rw [if_pos hall, showLast_run hroom.1 (by simpa [hall] using hroom.2)]
      · refine .inr (.inr (.inl ⟨rfl, hroom.1, hroom.2, hall, ?_⟩))
        rw [if_neg hall, showAll_run] <;> simp <;> omega
    · refine .inr (.inr (.inr (.inl ⟨rfl, hroom, ?_⟩)))
      rw [if_neg hroom]
      rfl
  · refine .inr (.inr (.inr (.inr ⟨by omega, ?_⟩)))
    rw [if_neg hlt, if_neg heq]
    rfl

/-- A listing that shows everything in storage order is sound. -/
theorem sound_range {stored : Array Entry} (hcapacity : stored.size ≤ capacity)
    (hlimit : stored.size ≤ indexLimit) :
    (⟨stored, (List.range stored.size).toArray⟩ : Listing capacity).Sound where
  stored_le_capacity := hcapacity
  stored_le_limit := hlimit
  nodup := List.nodup_range
  lt _ hindex := List.mem_range.mp hindex

theorem Sound.push (h : listing.Sound) (hlimit : listing.stored.size < indexLimit)
    (hcapacity : listing.stored.size < capacity) (entry : Entry) :
    (⟨listing.stored.push entry, listing.order.push listing.stored.size⟩ :
      Listing capacity).Sound where
  stored_le_capacity := by rw [Array.size_push]; omega
  stored_le_limit := by rw [Array.size_push]; omega
  nodup := by
    rw [Array.toList_push, List.nodup_append]
    refine ⟨h.nodup, List.pairwise_singleton .., fun index hindex last hlast heq => ?_⟩
    have hlt := h.lt index hindex
    rw [heq, List.mem_singleton.mp hlast] at hlt
    omega
  lt index hindex := by
    rw [Array.size_push]
    rcases List.mem_append.mp (Array.toList_push ▸ hindex) with hold | hnew
    · have hlt := h.lt index hold
      omega
    · rw [List.mem_singleton.mp hnew]
      omega

/-- Whether an entry is stored or refused, a sound listing stays sound. -/
theorem Sound.store (h : listing.Sound) (index : Nat) (entry : Entry) :
    ((Listing.store index entry).run listing).2.Sound := by
  have hcapacity := h.stored_le_capacity
  have hlimit := h.stored_le_limit
  obtain ⟨-, hrun⟩ | ⟨rfl, hindex, hroom, -, hrun⟩ | ⟨rfl, hindex, hroom, -, hrun⟩ |
    ⟨-, -, hrun⟩ | ⟨-, hrun⟩ := h.store_cases index entry
  · rw [hrun]
    have hsize : (listing.stored.setIfInBounds index entry).size = listing.stored.size :=
      Array.size_setIfInBounds
    rw [← hsize] at hcapacity hlimit ⊢
    exact sound_range hcapacity hlimit
  · rw [hrun]
    exact h.push hindex hroom entry
  · have hsize : (listing.stored.push entry).size = listing.stored.size + 1 := Array.size_push entry
    rw [hrun, ← hsize]
    refine sound_range ?_ ?_ <;> rw [Array.size_push] <;> omega
  · rw [hrun]
    exact h
  · rw [hrun]
    exact h

/-! ## Listings that come about -/

/-- What becomes of a new listing when entries are stored in it or refused, and when it is sorted,
rid of images that have a cue sheet, and cleared, in any order and as often as one likes. -/
inductive Reachable : Listing capacity → Prop where
  | empty : Reachable empty
  | store {listing : Listing capacity} (h : Reachable listing) (index : Nat) (isDirectory : Bool)
    (name : String) : Reachable ((Listing.store index (.named isDirectory name)).run listing).2
  | sort {listing sorted : Listing capacity} (h : Reachable listing)
    (hsorted : listing.SortsTo sorted) : Reachable sorted
  | hideImages {listing : Listing capacity} (h : Reachable listing) : Reachable listing.hideImages
  | clear {listing : Listing capacity} (h : Reachable listing) : Reachable .empty

theorem Reachable.sound (h : listing.Reachable) : listing.Sound := by
  induction h with
  | empty => exact sound_empty
  | store h index isDirectory name ih => exact ih.store index _
  | sort h hsorted ih => exact ih.sortsTo hsorted
  | hideImages h ih => exact ih.hideImages
  | clear h ih => exact sound_empty

/-- However a listing came about, no more is stored than there is room for and than indices can
tell apart, the order names stored entries, each at most once, and sorting looks up no others. The
shown entries as a whole are the ones shown at each position, which are the ones stored at the
indices shown there, and there are none beyond. Everything is shown exactly if the order is a
permutation of the storage indices. -/
theorem representation_of_reachable (h : listing.Reachable) :
    listing.stored.size ≤ min capacity indexLimit ∧
      listing.order.toList.Nodup ∧
      (∀ index ∈ listing.order.toList, index < listing.stored.size) ∧
      (∀ lookup : Nat → Entry,
        (∀ index entry, listing.stored[index]? = some entry → lookup index = entry) →
          listing.sort.order.toList = listing.order.toList.mergeSort
            fun a b => (compare (lookup a) (lookup b)).isLE) ∧
      listing.size = listing.toList.length ∧
      (∀ position < listing.size, ∃ index entry, listing.index? position = some index ∧
        listing.stored[index]? = some entry ∧ listing.entry? position = some entry ∧
        listing.toList[position]? = some entry) ∧
      (∀ position, listing.size ≤ position →
        listing.index? position = none ∧ listing.entry? position = none) ∧
      (listing.size = listing.stored.size ↔
        listing.order.toList.Perm (List.range listing.stored.size)) := by
  have hsound := h.sound
  refine ⟨Nat.le_min.mpr ⟨hsound.stored_le_capacity, hsound.stored_le_limit⟩, hsound.nodup,
    hsound.lt, fun _ hlookup => hsound.sort_eq hlookup, ?_,
    fun _ hposition => hsound.at_position hposition, fun _ hposition => beyond_size hposition,
    hsound.size_eq_iff⟩
  rw [hsound.toList_eq, List.length_map, Array.length_toList]
  rfl

/-- A full listing that hides an image, after another entry was refused. -/
theorem representation_of_reachable_hidden :
    ∃ listing : Listing 2, listing.Reachable ∧ listing.stored.size = 2 ∧ listing.order = #[1] ∧
      listing.order.toList.Nodup ∧ listing.size = listing.toList.length ∧
      ¬ listing.order.toList.Perm (List.range listing.stored.size) := by
  have hbin : ((Listing.store 0 (.named false "a.bin")).run (.empty : Listing 2)).2.Reachable :=
    Reachable.empty.store 0 false "a.bin"
  have hreached := ((hbin.store 1 false "a.cue").store 2 false "b.iso").hideImages
  obtain ⟨-, hnodup, -, -, hlength, -, -, hperm⟩ := representation_of_reachable hreached
  refine ⟨_, hreached, by decide, by decide, hnodup, hlength, fun h => ?_⟩
  exact absurd (hperm.mpr h) (by decide)

end Listing

end ConsoleBus.Disc
