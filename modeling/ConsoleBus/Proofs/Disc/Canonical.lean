import ConsoleBus.Proofs.Disc.Hiding

/-!
# What a sorted listing looks like

Storage indices are sorted by the entries that are stored there, and the sort may exchange equal
entries as it likes. Nothing of this can be seen in what is shown: directories come first, names
follow in the order of their bytes, and since entries compare equal only if they are the same entry,
the sequence of entries depends on nothing but which entries are shown, and how often.
-/

namespace ConsoleBus.Disc

/-! ## What the order says -/

theorem isLE_compare_iff_le {a b : List UInt8} : (compare a b).isLE = true ↔ a ≤ b := by
  induction a generalizing b with
  | nil => cases b <;> simp
  | cons x a ih =>
    cases b with
    | nil => simp
    | cons y b =>
      rw [List.compare_cons_cons, List.cons_le_cons_iff, Ordering.isLE_then_iff_or, ih,
        Std.compare_eq_lt, Std.LawfulEqOrd.compare_eq_iff_eq]

namespace Entry

variable {a b : Entry}

/-- One entry may be shown before another: it is no file if the other is a directory, and among
entries of the same kind the bytes of the names do not decrease. -/
structure InOrder (a b : Entry) : Prop where
  directoriesFirst : b.isDirectory = true → a.isDirectory = true
  byName : a.isDirectory = b.isDirectory → Text.bytes a.name ≤ Text.bytes b.name

theorem inOrder_of_isLE (h : (compare a b).isLE = true) : a.InOrder b := by
  have hkinds : ((compare b.isDirectory a.isDirectory).then
      (compare (Text.bytes a.name) (Text.bytes b.name))).isLE = true := h
  rw [Ordering.isLE_then_iff_or, isLE_compare_iff_le] at hkinds
  constructor
  · intro hdirectory
    rw [hdirectory] at hkinds
    by_contra hfile
    rw [Bool.not_eq_true] at hfile
    rw [hfile] at hkinds
    rcases hkinds with hlt | ⟨heq, -⟩
    · cases hlt
    · cases heq
  · intro hsame
    rw [hsame, Std.ReflOrd.compare_self] at hkinds
    rcases hkinds with hlt | ⟨-, hname⟩
    · cases hlt
    · exact hname

theorem compare_eq_eq_iff :
    compare a b = .eq ↔ a.isDirectory = b.isDirectory ∧ a.name = b.name := by
  rw [Std.LawfulEqOrd.compare_eq_iff_eq]
  constructor
  · rintro rfl
    exact ⟨rfl, rfl⟩
  · rintro ⟨hkind, hname⟩
    cases a
    cases b
    simp_all

end Entry

namespace Listing

variable {capacity room : Nat} {listing : Listing capacity} {other : Listing room}

theorem eq_of_sorted {a b : List Entry} (ha : a.Pairwise fun a b => (compare a b).isLE = true)
    (hb : b.Pairwise fun a b => (compare a b).isLE = true) (hperm : a.Perm b) : a = b := by
  refine List.Perm.eq_of_pairwise (fun x y _ _ hxy hyx => ?_) ha hb hperm
  exact Std.LawfulEqOrd.eq_of_compare (Std.OrientedCmp.isLE_antisymm hxy hyx)

/-- Sorted listings show the same sequence exactly if they show the same entries equally often. -/
theorem toList_sortBy_eq_iff (h : listing.Sound) (hother : other.Sound) (first second : Sorter) :
    (listing.sortBy first).toList = (other.sortBy second).toList ↔
      listing.toList.Perm other.toList := by
  have hlisting := (sortsTo_sortBy first listing).toList_perm h
  have hrest := (sortsTo_sortBy second other).toList_perm hother
  constructor
  · intro heq
    rw [heq] at hlisting
    exact hlisting.symm.trans hrest
  · intro hperm
    exact eq_of_sorted ((sortsTo_sortBy first listing).pairwise h)
      ((sortsTo_sortBy second other).pairwise hother) (hlisting.trans (hperm.trans hrest.symm))

/-- Entries are compared by a total preorder that tells any two of them apart. Whichever way a
listing is sorted, it shows the same entries as before, directories first and then by the bytes of
their names, and two listings of the same entries show them in the same sequence. -/
theorem sort_canonical (h : listing.Reachable) (hother : other.Reachable) (first second : Sorter) :
    (∀ a b : Entry, compare b a = (compare a b).swap) ∧
      (∀ a b c : Entry, (compare a b).isLE = true → (compare b c).isLE = true →
        (compare a c).isLE = true) ∧
      (∀ a b : Entry, compare a b = .eq ↔ a.isDirectory = b.isDirectory ∧ a.name = b.name) ∧
      listing.sort = listing.sortBy .merge ∧
      (listing.sortBy first).stored = listing.stored ∧
      (listing.sortBy first).order.toList.Perm listing.order.toList ∧
      (∀ index, (listing.sortBy first).Hides index ↔ listing.Hides index) ∧
      (listing.sortBy first).toList.Pairwise Entry.InOrder ∧
      ((listing.sortBy first).toList = (other.sortBy second).toList ↔
        listing.toList.Perm other.toList) := by
  have hsorts := sortsTo_sortBy first listing
  refine ⟨fun a b => Std.OrientedCmp.eq_swap, fun a b c => Std.TransCmp.isLE_trans,
    fun a b => Entry.compare_eq_eq_iff, rfl, rfl, hsorts.perm, fun index => ?_, ?_,
    toList_sortBy_eq_iff h.sound hother.sound first second⟩
  · unfold Hides
    rw [hsorts.perm.mem_iff, hsorts.stored]
  · exact (hsorts.pairwise h.sound).imp Entry.inOrder_of_isLE

/-- Listings of different size, one of which hides an image, in which three entries were stored in
different sequences, one of them twice. -/
theorem sort_canonical_twice :
    ∃ (listing : Listing 4) (other : Listing 3), listing.Reachable ∧ other.Reachable ∧
      listing.Hides 0 ∧ listing.toList ≠ other.toList ∧
      (listing.sortBy .merge).toList = (other.sortBy .merge).toList := by
  have hbin : ((Listing.store 0 (.named false "b.bin")).run (.empty : Listing 4)).2.Reachable :=
    Reachable.empty.store 0 false "b.bin"
  have hlisting := (((hbin.store 1 false "b.cue").store 2 true "z").store 3 false "b.cue").hideImages
  have hcue : ((Listing.store 0 (.named false "b.cue")).run (.empty : Listing 3)).2.Reachable :=
    Reachable.empty.store 0 false "b.cue"
  have hother := (hcue.store 1 false "b.cue").store 2 true "z"
  obtain ⟨-, -, -, -, -, -, -, -, hsame⟩ := sort_canonical hlisting hother .merge .merge
  exact ⟨_, _, hlisting, hother, ⟨by decide, by decide⟩, by decide, hsame.mpr (by decide)⟩

end Listing

end ConsoleBus.Disc
