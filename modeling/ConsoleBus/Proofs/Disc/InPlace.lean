import ConsoleBus.Proofs.Disc.Hiding

/-!
# Hiding images in place

Images can be hidden without a second sequence: a position walks along what is shown, and an image
that stands there before its cue sheet is taken out, so that what followed it moves up. Every look
is then at a listing that has already changed. It still finds two entries that were neighbours at
the start, because what lies ahead of the position has not been touched (`hideFrom_eq`). So the walk
hides the same images as `hideImages`, and these can be told from the listing as it was before.
-/

namespace ConsoleBus.Disc

theorem Entry.isImageOf_default_left (sheet : Entry) : (default : Entry).isImageOf sheet = false := by
  have hstem : stem? (Text.bytes ".bin") (Text.bytes (default : Entry).name) = none := by decide
  simp [isImageOf, hstem]

theorem Entry.isImageOf_default_right (image : Entry) : image.isImageOf default = false := by
  have hstem : stem? (Text.bytes ".cue") (Text.bytes (default : Entry).name) = none := by decide
  simp [isImageOf, hstem]

namespace Listing

/-! ## The places of what is left -/

section Places

variable {α : Type} {paired : α → α → Bool} {items : List α}

/-- Whether the item at a place is paired with the item right after it. -/
def pairedAt (paired : α → α → Bool) (items : List α) (place : Nat) : Bool :=
  match items[place]?, items[place + 1]? with
  | some first, some second => paired first second
  | _, _ => false

/-- The places of the items that are not paired with the item after them. -/
def places (paired : α → α → Bool) (items : List α) : List Nat :=
  (List.range items.length).filter fun place => !pairedAt paired items place

theorem pairedAt_append (before : List α) :
    pairedAt paired (before ++ items) before.length = pairedAt paired items 0 := by
  unfold pairedAt
  simp [List.getElem?_append_right]

/-- All places but the first are those of the rest, each moved by one. -/
theorem places_cons (first : α) (items : List α) :
    places paired (first :: items) =
      (if pairedAt paired (first :: items) 0 then [] else [0]) ++ (places paired items).map Nat.succ := by
  have hmoved : ((List.range items.length).map Nat.succ).filter
      (fun place => !pairedAt paired (first :: items) place) = (places paired items).map Nat.succ := by
    rw [List.filter_map]
    rfl
  unfold places at hmoved ⊢
  rw [List.length_cons, List.range_succ_eq_map, List.filter_cons, hmoved]
  by_cases h : pairedAt paired (first :: items) 0 <;> simp [h]

theorem dropPaired_eq_places (paired : α → α → Bool) (items : List α) :
    dropPaired paired items = (places paired items).filterMap fun place => items[place]? := by
  fun_induction dropPaired paired items with
  | case1 first second rest hpaired ih =>
    have hfirst : pairedAt paired (first :: second :: rest) 0 = true := hpaired
    rw [places_cons, if_pos hfirst, List.nil_append, List.filterMap_map, ih]
    rfl
  | case2 first second rest hpaired ih =>
    have hfirst : ¬ pairedAt paired (first :: second :: rest) 0 = true := hpaired
    rw [places_cons, if_neg hfirst, List.singleton_append, List.filterMap_cons, List.filterMap_map,
      ih]
    rfl
  | case3 items hshort =>
    rcases items with _ | ⟨first, _ | ⟨second, rest⟩⟩
    · rfl
    · rfl
    · exact absurd rfl (hshort first second rest)

end Places

/-! ## Walking along what is shown -/

variable {capacity : Nat} {listing : Listing capacity} {position : Nat}

/-- An image is shown at the position, and right after it the cue sheet of the same stem. -/
def Doubled (listing : Listing capacity) (position : Nat) : Prop :=
  ∃ image sheet stem, listing.entry? position = some image ∧
    listing.entry? (position + 1) = some sheet ∧
    Text.bytes image.name = stem ++ Text.bytes ".bin" ∧
    Text.bytes sheet.name = stem ++ Text.bytes ".cue"

/-- Look whether an image is shown at the position, and its cue sheet right after it. -/
def doubledAt (listing : Listing capacity) (position : Nat) : Bool :=
  match listing.entry? position, listing.entry? (position + 1) with
  | some image, some sheet => image.isImageOf sheet
  | _, _ => false

/-- Hide images in place from a position on. After one was taken out, the next look is at the same
position again. -/
def hideFrom (listing : Listing capacity) (position : Nat) : Listing capacity :=
  if position + 1 < listing.size then
    if listing.doubledAt position then
      hideFrom { listing with order := listing.order.eraseIdxIfInBounds position } position
    else
      hideFrom listing (position + 1)
  else
    listing
termination_by listing.size - position
decreasing_by
  · have hlength := List.length_eraseIdx_of_lt (l := listing.order.toList) (i := position)
    rw [← Array.toList_eraseIdxIfInBounds, Array.length_toList, Array.length_toList] at hlength
    simp only [size] at *
    have hless := hlength (by omega)
    omega
  · omega

theorem doubledAt_iff : listing.doubledAt position = true ↔ listing.Doubled position := by
  unfold doubledAt Doubled
  constructor
  · intro h
    split at h
    case h_1 image sheet himage hsheet =>
      obtain ⟨stem, hnames⟩ := Entry.isImageOf_iff.mp h
      exact ⟨image, sheet, stem, himage, hsheet, hnames⟩
    case h_2 => cases h
  · rintro ⟨image, sheet, stem, himage, hsheet, hnames⟩
    rw [himage, hsheet]
    exact Entry.isImageOf_iff.mpr ⟨stem, hnames⟩

instance (position : Nat) : Decidable (listing.Doubled position) :=
  decidable_of_iff _ doubledAt_iff

/-- Whether the entry at one storage index is an image, and the entry at another its cue sheet. -/
def pairs (listing : Listing capacity) (a b : Nat) : Bool :=
  (listing.entryAt a).isImageOf (listing.entryAt b)

theorem doubledAt_eq (position : Nat) :
    listing.doubledAt position = pairedAt listing.pairs listing.order.toList position := by
  unfold doubledAt pairedAt entry? index? pairs entryAt
  rw [Array.getElem?_toList, Array.getElem?_toList]
  cases listing.order[position]? with
  | none => rfl
  | some a =>
    cases listing.order[position + 1]? with
    | none => cases ha : listing.stored[a]? <;> simp [ha]
    | some b =>
      -- An index at which nothing is stored stands for an entry without a name, which pairs with none.
      cases ha : listing.stored[a]? <;> cases hb : listing.stored[b]? <;>
        simp [ha, hb, Array.getD_eq_getD_getElem?, Entry.isImageOf_default_left,
          Entry.isImageOf_default_right]

theorem size_of_order {items : List Nat} (h : listing.order.toList = items) :
    listing.size = items.length := by
  rw [← h, Array.length_toList]
  rfl

theorem hideFrom_of_le (h : listing.size ≤ position + 1) : listing.hideFrom position = listing := by
  have hend : ¬ position + 1 < listing.size := by omega
  rw [hideFrom, if_neg hend]

/-- The walk has settled what lies before the position, and what lies ahead is as it was. -/
theorem hideFrom_eq (before after : List Nat) (listing : Listing capacity)
    (horder : listing.order.toList = before ++ after) :
    listing.hideFrom before.length =
      { listing with order := (before ++ dropPaired listing.pairs after).toArray } := by
  induction after generalizing before listing with
  | nil =>
    have hend : listing.size ≤ before.length + 1 := by simp [size_of_order horder]
    rw [hideFrom_of_le hend, dropPaired, ← horder, Array.toArray_toList]
    simp
  | cons first after ih =>
    rcases after with _ | ⟨second, rest⟩
    · have hend : listing.size ≤ before.length + 1 := by simp [size_of_order horder]
      rw [hideFrom_of_le hend, dropPaired, ← horder, Array.toArray_toList]
      simp
    have hmore : before.length + 1 < listing.size := by simp [size_of_order horder]
    have hlook : listing.doubledAt before.length = listing.pairs first second := by
      rw [doubledAt_eq, horder, pairedAt_append]
      rfl
    rw [hideFrom, if_pos hmore, hlook, dropPaired]
    by_cases hpaired : listing.pairs first second = true
    · have herased : (listing.order.eraseIdxIfInBounds before.length).toList =
          before ++ second :: rest := by
        simp [horder, List.eraseIdx_append_of_length_le]
      rw [if_pos hpaired, if_pos hpaired]
      exact ih before { listing with order := listing.order.eraseIdxIfInBounds before.length } herased
    · have hpassed : listing.order.toList = (before ++ [first]) ++ second :: rest := by
        simp [horder]
      have hrest := ih (before ++ [first]) listing hpassed
      rw [if_neg hpaired, if_neg hpaired]
      simpa using hrest

theorem not_doubled_succ (h : listing.Doubled position) : ¬ listing.Doubled (position + 1) := by
  rintro ⟨image, next, stem, himage, -, hname, hnext⟩
  obtain ⟨first, sheet, other, -, hsheet, hnames⟩ := h
  obtain rfl : sheet = image := Option.some.inj (hsheet.symm.trans himage)
  have hpaired : first.isImageOf sheet = true := Entry.isImageOf_iff.mpr ⟨other, hnames⟩
  have hagain : sheet.isImageOf next = true := Entry.isImageOf_iff.mpr ⟨stem, hname, hnext⟩
  rw [Entry.isImageOf_sheet hpaired next] at hagain
  cases hagain

theorem order_hideImages (listing : Listing capacity) :
    listing.hideImages.order.toList =
      ((List.range listing.size).filter fun position => ¬ listing.Doubled position).filterMap
        listing.index? := by
  have hplaces : places listing.pairs listing.order.toList =
      (List.range listing.size).filter fun position => ¬ listing.Doubled position := by
    unfold places size
    rw [Array.length_toList]
    refine List.filter_congr fun position _ => ?_
    rw [← doubledAt_eq]
    simp [← doubledAt_iff]
  have hindex : (fun place => listing.order.toList[place]?) = listing.index? := by
    funext place
    exact Array.getElem?_toList
  have hleft := dropPaired_eq_places listing.pairs listing.order.toList
  rw [hplaces, hindex] at hleft
  exact hleft

/-- Hiding takes out every image that was shown right before its cue sheet, and nothing else. It may
be done in place. What is left keeps its order and what is stored stays, and the cue sheet of every
image that was taken out is still shown. -/
theorem hideImages_exact (listing : Listing capacity) :
    listing.hideFrom 0 = listing.hideImages ∧
      listing.hideImages.stored = listing.stored ∧
      listing.hideImages.order.toList =
        ((List.range listing.size).filter fun position => ¬ listing.Doubled position).filterMap
          listing.index? ∧
      ∀ position, listing.Doubled position → ∃ sheet, listing.index? (position + 1) = some sheet ∧
        sheet ∈ listing.hideImages.order.toList := by
  have hwalk : listing.hideFrom 0 = listing.hideImages := hideFrom_eq [] _ listing rfl
  refine ⟨hwalk, rfl, order_hideImages listing, fun position hdoubled => ?_⟩
  have hkept := not_doubled_succ hdoubled
  obtain ⟨image, sheet, stem, -, hsheet, -⟩ := hdoubled
  obtain ⟨index, hindex, -⟩ := Option.bind_eq_some_iff.mp hsheet
  have hlt : position + 1 < listing.size := (Array.getElem?_eq_some_iff.mp hindex).1
  refine ⟨index, hindex, ?_⟩
  rw [order_hideImages, List.mem_filterMap]
  exact ⟨position + 1, List.mem_filter.mpr ⟨List.mem_range.mpr hlt, by simpa using hkept⟩, hindex⟩

/-- Of two copies of an image only the one next to the cue sheet is hidden. A stem may be empty, and
directories count like files. -/
example : (⟨#[⟨false, "a.bin"⟩, ⟨false, "a.bin"⟩, ⟨false, "a.cue"⟩, ⟨true, ".bin"⟩, ⟨false, ".cue"⟩],
    #[0, 1, 2, 3, 4]⟩ : Listing 8).hideImages.order = #[0, 2, 4] := by decide

end Listing

end ConsoleBus.Disc
