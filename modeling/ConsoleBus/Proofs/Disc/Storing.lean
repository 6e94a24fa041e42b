import ConsoleBus.Proofs.Disc.Representation

/-!
# When storing is refused, and what it does otherwise

Four steps of storing an entry check something, the last of them after storage has changed. On a
sound listing no check fails once one has passed (`Sound.store_cases`), so that what is refused can
be told from the index and the number of stored entries alone, and a refusal changes nothing.
-/

namespace ConsoleBus.Disc.Listing

variable {capacity index : Nat} {listing after : Listing capacity} {entry : Entry}

/-- What a listing becomes when an entry is stored in it. -/
structure Takes (listing : Listing capacity) (index : Nat) (entry : Entry)
    (after : Listing capacity) : Prop where
  /-- The entry replaces the one at its index. -/
  replaced : index < listing.stored.size →
    after.stored = listing.stored.setIfInBounds index entry
  /-- The entry comes after all others. -/
  appended : index = listing.stored.size → after.stored = listing.stored.push entry
  /-- All entries are shown in storage order if one was replaced or if one was hidden. -/
  restored : (index < listing.stored.size ∨ ∃ hidden, listing.Hides hidden) →
    after.order.toList = List.range after.stored.size
  /-- The new entry is shown last if none was replaced and none was hidden. -/
  extended : index = listing.stored.size → (∀ hidden, ¬ listing.Hides hidden) →
    after.order = listing.order.push index

section Outcome

variable {outcome : Except ListingError Unit}

theorem Sound.store_outcome (h : listing.Sound)
    (hrun : (Listing.store index entry).run listing = (outcome, after)) :
    outcome =
      if index < listing.stored.size then .ok ()
      else if listing.stored.size < index then .error .outOfRange
      else if index = capacity ∨ index = indexLimit then .error .full
      else .ok () := by
  have hcapacity := h.stored_le_capacity
  have hlimit := h.stored_le_limit
  obtain ⟨hlt, hcase⟩ | ⟨rfl, hindex, hroom, -, hcase⟩ | ⟨rfl, hindex, hroom, -, hcase⟩ |
    ⟨rfl, hfull, hcase⟩ | ⟨hbeyond, hcase⟩ := h.store_cases index entry
  all_goals obtain ⟨rfl, rfl⟩ := Prod.mk.inj (hrun.symm.trans hcase)
  · simp [hlt]
  · simp [Nat.ne_of_lt hindex, Nat.ne_of_lt hroom]
  · simp [Nat.ne_of_lt hindex, Nat.ne_of_lt hroom]
  · have hreached : after.stored.size = capacity ∨ after.stored.size = indexLimit := by omega
    simp [hreached]
  · have hnot : ¬ index < after.stored.size := by omega
    simp [hnot, hbeyond]

theorem Sound.eq_of_refused (h : listing.Sound)
    (hrun : (Listing.store index entry).run listing = (outcome, after)) (hrefused : outcome ≠ .ok ()) :
    after = listing := by
  obtain ⟨-, hcase⟩ | ⟨-, -, -, -, hcase⟩ | ⟨-, -, -, -, hcase⟩ | ⟨-, -, hcase⟩ | ⟨-, hcase⟩ :=
    h.store_cases index entry
  all_goals obtain ⟨rfl, rfl⟩ := Prod.mk.inj (hrun.symm.trans hcase)
  · exact absurd rfl hrefused
  · exact absurd rfl hrefused
  · exact absurd rfl hrefused
  · rfl
  · rfl

theorem Sound.takes (h : listing.Sound)
    (hrun : (Listing.store index entry).run listing = (.ok (), after)) :
    listing.Takes index entry after := by
  have hshown := h.size_eq_iff_not_hides
  obtain ⟨hlt, hcase⟩ | ⟨rfl, -, -, hall, hcase⟩ | ⟨rfl, -, -, hsome, hcase⟩ |
    ⟨-, -, hcase⟩ | ⟨-, hcase⟩ := h.store_cases index entry
  all_goals obtain ⟨houtcome, rfl⟩ := Prod.mk.inj (hrun.symm.trans hcase)
  · exact {
      replaced := fun _ => rfl
      appended := fun heq => absurd heq (Nat.ne_of_lt hlt)
      restored := fun _ => by simp
      extended := fun heq => absurd heq (Nat.ne_of_lt hlt) }
  · have hnone := hshown.mp hall
    refine {
      replaced := fun hlt => absurd hlt (Nat.lt_irrefl _)
      appended := fun _ => rfl
      restored := ?_
      extended := fun _ _ => rfl }
    rintro (hlt | ⟨hidden, hhides⟩)
    · exact absurd hlt (Nat.lt_irrefl _)
    · exact absurd hhides (hnone hidden)
  · exact {
      replaced := fun hlt => absurd hlt (Nat.lt_irrefl _)
      appended := fun _ => rfl
      restored := fun _ => by simp
      extended := fun _ hnone => absurd (hshown.mpr hnone) hsome }
  · cases houtcome
  · cases houtcome

end Outcome

/-- Storing an entry is refused for its index exactly if that lies beyond the end of what is stored,
and for want of room exactly if it lies at the end and no more entries fit or can be told apart. A
refusal changes nothing. Otherwise the entry, its name cut to what is kept of it, is stored at its
index. -/
theorem store_exact (h : listing.Reachable) (index : Nat) (isDirectory : Bool) (name : String) :
    ∃ outcome after, (store index (.named isDirectory name)).run listing = (outcome, after) ∧
      (outcome = .error .outOfRange ↔ listing.stored.size < index) ∧
      (outcome = .error .full ↔ index = listing.stored.size ∧
        (listing.stored.size = capacity ∨ listing.stored.size = indexLimit)) ∧
      (outcome = .ok () ↔ index < listing.stored.size ∨ index = listing.stored.size ∧
        listing.stored.size ≠ capacity ∧ listing.stored.size ≠ indexLimit) ∧
      (outcome ≠ .ok () → after = listing) ∧
      (outcome = .ok () → listing.Takes index (.named isDirectory name) after) := by
  obtain ⟨⟨outcome, after⟩, hrun⟩ :
    ∃ result, (store index (.named isDirectory name)).run listing = result := ⟨_, rfl⟩
  have houtcome := h.sound.store_outcome hrun
  refine ⟨outcome, after, hrun, ?_, ?_, ?_, h.sound.eq_of_refused hrun, ?_⟩
  · rw [houtcome]
    split_ifs with hlt hbeyond hfull <;> simp <;> omega
  · rw [houtcome]
    split_ifs with hlt hbeyond hfull <;> simp <;> omega
  · rw [houtcome]
    split_ifs with hlt hbeyond hfull <;> simp <;> omega
  · rintro rfl
    exact h.sound.takes hrun

/-- The entry after a hidden image is stored last, and brings the image back. -/
theorem store_exact_restores :
    ∃ listing : Listing 3, listing.Reachable ∧ listing.Hides 0 ∧ listing.order = #[1] ∧
      ∃ after, (store 2 (.named true "games")).run listing = (.ok (), after) ∧
        after.stored = listing.stored.push ⟨true, "games"⟩ ∧ after.order.toList = [0, 1, 2] := by
  have hbin : ((Listing.store 0 (.named false "a.bin")).run (.empty : Listing 3)).2.Reachable :=
    Reachable.empty.store 0 false "a.bin"
  have hreached := (hbin.store 1 false "a.cue").hideImages
  obtain ⟨outcome, after, hrun, -, -, hok, -, htakes⟩ := store_exact hreached 2 true "games"
  obtain rfl : outcome = .ok () := hok.mpr (.inr ⟨by decide, by decide, by decide⟩)
  have hstored := (htakes rfl).appended (by decide)
  have horder := (htakes rfl).restored (.inr ⟨0, by decide, by decide⟩)
  refine ⟨_, hreached, ⟨by decide, by decide⟩, by decide, after, hrun, hstored, ?_⟩
  rw [horder, hstored]
  decide

end ConsoleBus.Disc.Listing
