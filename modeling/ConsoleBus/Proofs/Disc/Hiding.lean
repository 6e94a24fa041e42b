import ConsoleBus.Proofs.Disc.Representation

/-!
# Which images are hidden

Hiding looks at neighbours alone, so it depends on what the listing shows between an image and its
cue sheet. A sort puts the two in order, but nothing keeps other names from sorting in between:
`game.ccd` comes after `game.bin` and before `game.cue`.
-/

namespace ConsoleBus.Disc

/-! ## The order of entries decides between them -/

theorem bytes_injective {a b : String} (h : Text.bytes a = Text.bytes b) : a = b := by
  have hread := Text.ofBytes?_bytes a
  rw [h, Text.ofBytes?_bytes] at hread
  exact (Option.some.inj hread).symm

instance : Std.LawfulEqOrd Entry where
  eq_of_compare {a b} h := by
    obtain ⟨hkind, hname⟩ := Ordering.then_eq_eq.mp h
    have hname := bytes_injective (Std.LawfulEqOrd.eq_of_compare hname)
    have hkind := Std.LawfulEqOrd.eq_of_compare hkind
    cases a
    cases b
    simp_all

namespace Entry

variable {a b image sheet next : Entry}

theorem lt_of_isLE_of_ne (hle : (compare a b).isLE = true) (hne : a ≠ b) : compare a b = .lt := by
  rcases Ordering.isLE_iff_eq_lt_or_eq_eq.mp hle with hlt | heq
  · exact hlt
  · exact absurd (Std.LawfulEqOrd.eq_of_compare heq) hne

theorem ne_of_lt (h : compare a b = .lt) : a ≠ b := by
  rintro rfl
  rw [Std.ReflOrd.compare_self] at h
  cases h

theorem not_isLE_of_lt (h : compare a b = .lt) : ¬ (compare b a).isLE = true := by
  rw [Std.OrientedCmp.gt_of_lt h]
  decide

/-! ## Images and their cue sheets -/

theorem stem?_eq_some_iff {ending name stem : List UInt8} :
    stem? ending name = some stem ↔ name = stem ++ ending := by
  unfold stem?
  constructor
  · intro h
    split at h
    case isTrue hends =>
      obtain ⟨front, rfl⟩ := List.isSuffixOf_iff_suffix.mp hends
      simp_all
    case isFalse => cases h
  · rintro rfl
    rw [if_pos (List.isSuffixOf_iff_suffix.mpr (List.suffix_append stem ending))]
    simp

theorem isImageOf_iff : image.isImageOf sheet = true ↔
    ∃ stem, Text.bytes image.name = stem ++ Text.bytes ".bin" ∧
      Text.bytes sheet.name = stem ++ Text.bytes ".cue" := by
  simp only [← stem?_eq_some_iff]
  unfold isImageOf
  split
  case h_1 stem other hstem hother =>
    rw [hstem, hother, beq_iff_eq]
    constructor
    · rintro rfl
      exact ⟨stem, rfl, rfl⟩
    · rintro ⟨shared, himage, hsheet⟩
      exact Option.some.inj (himage.trans hsheet.symm)
  case h_2 hnone =>
    constructor
    · intro h
      cases h
    · rintro ⟨stem, hstem, hother⟩
      exact absurd hother (hnone stem stem hstem)

theorem compare_append (stem a b : List UInt8) : compare (stem ++ a) (stem ++ b) = compare a b := by
  induction stem with
  | nil => rfl
  | cons byte stem ih =>
    rw [List.cons_append, List.cons_append, List.compare_cons_cons, Std.ReflOrd.compare_self, ih]
    rfl

/-- A file that is named like a raw image, and the file that is named like its cue sheet. -/
structure Pair (image sheet : Entry) : Prop where
  image_file : image.isDirectory = false
  sheet_file : sheet.isDirectory = false
  named : image.isImageOf sheet = true

theorem Pair.lt (h : Pair image sheet) : compare image sheet = .lt := by
  obtain ⟨stem, himage, hsheet⟩ := isImageOf_iff.mp h.named
  show (compare sheet.isDirectory image.isDirectory).then
    (compare (Text.bytes image.name) (Text.bytes sheet.name)) = _
  rw [h.image_file, h.sheet_file, himage, hsheet, compare_append]
  decide

/-- No name ends like an image and like a sheet at once. -/
theorem isImageOf_sheet (h : image.isImageOf sheet = true) (next : Entry) :
    sheet.isImageOf next = false := by
  obtain ⟨stem, -, hsheet⟩ := isImageOf_iff.mp h
  rw [Bool.eq_false_iff]
  intro hnext
  obtain ⟨other, hother, -⟩ := isImageOf_iff.mp hnext
  rw [hsheet] at hother
  have hlast := congrArg List.getLast? hother
  have hcue : Text.bytes ".cue" = [0x2E, 0x63, 0x75, 0x65] := by decide
  have hbin : Text.bytes ".bin" = [0x2E, 0x62, 0x69, 0x6E] := by decide
  rw [hcue, hbin] at hlast
  simp at hlast

/-- Among the entries after an image, only its cue sheet can make it be hidden. -/
theorem Pair.unique (h : Pair image sheet) (hle : (compare image next).isLE = true)
    (hnext : image.isImageOf next = true) : next = sheet := by
  obtain ⟨stem, himage, hsheet⟩ := isImageOf_iff.mp h.named
  obtain ⟨other, hother, hname⟩ := isImageOf_iff.mp hnext
  have hstem : stem = other := List.append_cancel_right (himage.symm.trans hother)
  have hsame : next.name = sheet.name := by
    apply bytes_injective
    rw [hname, hsheet, hstem]
  have hfile : next.isDirectory = false := by
    by_contra hdirectory
    rw [Bool.not_eq_false] at hdirectory
    have hafter : compare image next = .gt := by
      show (compare next.isDirectory image.isDirectory).then _ = _
      rw [h.image_file, hdirectory]
      rfl
    rw [hafter] at hle
    cases hle
  have hkind : next.isDirectory = sheet.isDirectory := hfile.trans h.sheet_file.symm
  cases next
  cases sheet
  simp_all

end Entry

namespace Listing

variable {capacity : Nat} {listing sorted : Listing capacity}

/-! ## What is left of a sequence -/

/-- An item is left if at one of its places it is not paired with the item after it. -/
theorem mem_dropPaired_iff {α : Type} {paired : α → α → Bool} {items : List α} {item : α} :
    item ∈ dropPaired paired items ↔ ∃ before after, items = before ++ item :: after ∧
      ∀ next ∈ after.head?, paired item next = false := by
  fun_induction dropPaired paired items with
  | case1 first second rest hpaired ih =>
    rw [ih]
    constructor
    · rintro ⟨before, after, hsplit, hnext⟩
      exact ⟨first :: before, after, by rw [hsplit, List.cons_append], hnext⟩
    · rintro ⟨before, after, hsplit, hnext⟩
      rcases List.cons_eq_append_iff.mp hsplit with ⟨rfl, hhead⟩ | ⟨before, rfl, htail⟩
      · obtain ⟨rfl, rfl⟩ := List.cons.inj hhead
        rw [hnext second rfl] at hpaired
        cases hpaired
      · exact ⟨before, after, htail, hnext⟩
  | case2 first second rest hpaired ih =>
    rw [List.mem_cons, ih]
    constructor
    · rintro (rfl | ⟨before, after, hsplit, hnext⟩)
      · refine ⟨[], second :: rest, rfl, fun next hhead => ?_⟩
        rw [← Option.some.inj hhead]
        exact Bool.eq_false_iff.mpr hpaired
      · exact ⟨first :: before, after, by rw [hsplit, List.cons_append], hnext⟩
    · rintro ⟨before, after, hsplit, hnext⟩
      rcases List.cons_eq_append_iff.mp hsplit with ⟨rfl, hhead⟩ | ⟨before, rfl, htail⟩
      · exact .inl (List.cons.inj hhead).1
      · exact .inr ⟨before, after, htail, hnext⟩
  | case3 items hshort =>
    constructor
    · intro hitem
      obtain ⟨before, after, rfl⟩ := List.append_of_mem hitem
      rcases after with _ | ⟨next, after⟩
      · refine ⟨before, [], rfl, ?_⟩
        intro next hhead
        cases hhead
      · rcases before with _ | ⟨first, _ | ⟨second, before⟩⟩ <;> exact absurd rfl (hshort _ _ _)
    · rintro ⟨before, after, rfl, -⟩
      exact List.mem_append_right before List.mem_cons_self

theorem map_dropPaired {α β : Type} (f : α → β) (paired : β → β → Bool) (items : List α) :
    (dropPaired (fun a b => paired (f a) (f b)) items).map f = dropPaired paired (items.map f) := by
  fun_induction dropPaired (fun a b => paired (f a) (f b)) items with
  | case1 first second rest hpaired ih =>
    rw [ih, List.map_cons, List.map_cons, List.map_cons, dropPaired, if_pos hpaired]
  | case2 first second rest hpaired ih =>
    rw [List.map_cons, ih, List.map_cons, List.map_cons, List.map_cons, dropPaired, if_neg hpaired]
  | case3 items hshort =>
    rcases items with _ | ⟨first, _ | ⟨second, rest⟩⟩
    · rfl
    · rfl
    · exact absurd rfl (hshort first second rest)

/-! ## What is left of a sorted sequence -/

section Sorted

variable {entries : List Entry} {image sheet : Entry}

/-- A cue sheet is never hidden. -/
theorem sheet_mem_dropPaired (hpair : image.isImageOf sheet = true) (hsheet : sheet ∈ entries) :
    sheet ∈ dropPaired Entry.isImageOf entries := by
  obtain ⟨before, after, rfl⟩ := List.append_of_mem hsheet
  exact mem_dropPaired_iff.mpr
    ⟨before, after, rfl, fun next _ => Entry.isImageOf_sheet hpair next⟩

/-- In a sorted sequence, what comes later than an entry stands after each of its places. -/
theorem mem_after_of_lt (hsorted : entries.Pairwise fun a b => (compare a b).isLE = true)
    {before after : List Entry} (hsplit : entries = before ++ image :: after)
    {later : Entry} (hlater : later ∈ entries) (hlt : compare image later = .lt) :
    later ∈ after := by
  rw [hsplit] at hsorted hlater
  obtain ⟨-, -, hacross⟩ := List.pairwise_append.mp hsorted
  rcases List.mem_append.mp hlater with hbefore | htail
  · have hle := hacross later hbefore image List.mem_cons_self
    exact absurd hle (Entry.not_isLE_of_lt hlt)
  · rcases List.mem_cons.mp htail with rfl | hafter
    · exact absurd rfl (Entry.ne_of_lt hlt)
    · exact hafter

theorem isLE_after (hsorted : entries.Pairwise fun a b => (compare a b).isLE = true)
    {before after : List Entry} {next : Entry}
    (hsplit : entries = before ++ image :: next :: after) :
    (compare image next).isLE = true ∧
      ∀ later ∈ next :: after, (compare next later).isLE = true := by
  rw [hsplit] at hsorted
  obtain ⟨-, hfrom, -⟩ := List.pairwise_append.mp hsorted
  obtain ⟨hfirst, hrest⟩ := List.pairwise_cons.mp hfrom
  refine ⟨hfirst next List.mem_cons_self, fun later hlater => ?_⟩
  rcases List.mem_cons.mp hlater with rfl | hlater
  · rw [Std.ReflOrd.compare_self]
    rfl
  · exact (List.pairwise_cons.mp hrest).1 later hlater

/-- An image is left next to its twin, or where another entry sorts before its cue sheet. -/
theorem image_mem_dropPaired_iff
    (hsorted : entries.Pairwise fun a b => (compare a b).isLE = true)
    (hpair : image.Pair sheet) (himage : image ∈ entries) (hsheet : sheet ∈ entries) :
    image ∈ dropPaired Entry.isImageOf entries ↔ 2 ≤ entries.count image ∨
      ∃ between ∈ entries, compare image between = .lt ∧ compare between sheet = .lt := by
  constructor
  · intro hleft
    obtain ⟨before, after, hsplit, hnext⟩ := mem_dropPaired_iff.mp hleft
    have hafter := mem_after_of_lt hsorted hsplit hsheet hpair.lt
    rcases after with _ | ⟨next, after⟩
    · cases hafter
    obtain ⟨hle, hlater⟩ := isLE_after hsorted hsplit
    by_cases htwin : image = next
    · left
      rw [hsplit, ← htwin, List.count_append, List.count_cons_self, List.count_cons_self]
      omega
    · right
      have hne : next ≠ sheet := by
        rintro rfl
        exact absurd hpair.named (Bool.eq_false_iff.mp (hnext next rfl))
      refine ⟨next, ?_, Entry.lt_of_isLE_of_ne hle htwin,
        Entry.lt_of_isLE_of_ne (hlater sheet hafter) hne⟩
      rw [hsplit]
      simp
  · intro hwhy
    rw [mem_dropPaired_iff]
    -- At its first place the image stands before all its twins.
    obtain ⟨before, after, hsplit, hfirst⟩ := List.eq_append_cons_of_mem himage
    refine ⟨before, after, hsplit, fun next hhead => ?_⟩
    rcases after with _ | ⟨head, after⟩
    · cases hhead
    obtain rfl : head = next := Option.some.inj hhead
    obtain ⟨hle, hlater⟩ := isLE_after hsorted hsplit
    rw [Bool.eq_false_iff]
    intro hpaired
    obtain rfl := hpair.unique hle hpaired
    rcases hwhy with hcount | ⟨between, hbetween, hlower, hupper⟩
    · have htwin : image ∈ head :: after := by
        rw [hsplit, List.count_append, List.count_eq_zero_of_not_mem hfirst,
          List.count_cons_self] at hcount
        exact List.one_le_count_iff.mp (by omega)
      exact Entry.not_isLE_of_lt hpair.lt (hlater image htwin)
    · have hafter := mem_after_of_lt hsorted hsplit hbetween hlower
      exact Entry.not_isLE_of_lt hupper (hlater between hafter)

end Sorted

/-! ## What is left of a sorted listing -/

variable {image sheet : Entry}

theorem Sound.toList_hideImages (h : listing.Sound) :
    listing.hideImages.toList = dropPaired Entry.isImageOf listing.toList := by
  rw [h.hideImages.toList_eq, h.toList_eq]
  exact map_dropPaired listing.entryAt Entry.isImageOf listing.order.toList

theorem SortsTo.entryAt_eq (h : listing.SortsTo sorted) : sorted.entryAt = listing.entryAt := by
  unfold entryAt
  rw [h.stored]

theorem SortsTo.toList_perm (h : listing.SortsTo sorted) (hsound : listing.Sound) :
    sorted.toList.Perm listing.toList := by
  rw [(hsound.sortsTo h).toList_eq, hsound.toList_eq, h.entryAt_eq]
  exact h.perm.map listing.entryAt

theorem SortsTo.pairwise (h : listing.SortsTo sorted) (hsound : listing.Sound) :
    sorted.toList.Pairwise fun a b => (compare a b).isLE = true := by
  rw [(hsound.sortsTo h).toList_eq, h.entryAt_eq]
  exact List.pairwise_map.mpr h.ordered

/-- Sorting and then hiding leaves every cue sheet. It also leaves an image that has one if the
image is listed twice, or if another entry sorts in between. -/
theorem image_shown_iff (h : listing.Reachable) (hsorted : listing.SortsTo sorted)
    (hpair : image.Pair sheet) (himage : image ∈ listing.toList) (hsheet : sheet ∈ listing.toList) :
    sheet ∈ sorted.hideImages.toList ∧
      (image ∈ sorted.hideImages.toList ↔ 2 ≤ listing.toList.count image ∨
        ∃ between ∈ listing.toList,
          compare image between = .lt ∧ compare between sheet = .lt) := by
  have hperm := hsorted.toList_perm h.sound
  have hordered := hsorted.pairwise h.sound
  rw [(h.sound.sortsTo hsorted).toList_hideImages, ← hperm.count_eq]
  simp only [← hperm.mem_iff] at himage hsheet ⊢
  exact ⟨sheet_mem_dropPaired hpair.named hsheet,
    image_mem_dropPaired_iff hordered hpair himage hsheet⟩

/-- The name of a third file sorts between those of an image and its cue sheet. -/
theorem image_shown_iff_between :
    ∃ listing : Listing 4, listing.Reachable ∧ ⟨false, "game.bin"⟩ ∈ listing.toList ∧
      ⟨false, "game.cue"⟩ ∈ listing.toList ∧
      ⟨false, "game.bin"⟩ ∈ listing.sort.hideImages.toList := by
  have hbin : ((Listing.store 0 (.named false "game.bin")).run (.empty : Listing 4)).2.Reachable :=
    Reachable.empty.store 0 false "game.bin"
  have hreached := (hbin.store 1 false "game.ccd").store 2 false "game.cue"
  have hpair : Entry.Pair ⟨false, "game.bin"⟩ ⟨false, "game.cue"⟩ := ⟨rfl, rfl, by decide⟩
  refine ⟨_, hreached, by decide, by decide, ?_⟩
  obtain ⟨-, hshown⟩ :=
    image_shown_iff hreached (sortsTo_sort _) hpair (by decide) (by decide)
  exact hshown.mpr (.inr ⟨⟨false, "game.ccd"⟩, by decide, by decide, by decide⟩)

end Listing

end ConsoleBus.Disc
