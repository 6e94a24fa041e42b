import ConsoleBus.Proofs.ControlLines

/-!
# Arming after every acknowledge

The interrupt stays pending until it is cleared, and the transceiver reports no second acknowledge
before it is armed again. This file says that an exchange does both exactly once for every
acknowledge: `Rearms` describes what follows a look that saw the interrupt, up to the next byte that
is sent, and `Paired` compares the numbers of looks, clears and writes.
-/

namespace ConsoleBus

/-- Whether the interrupt is looked at or cleared, or the control register written with attention
asserted. -/
def Occurrence.handles : Occurrence → Bool
  | .access .readInterrupt _ | .access .clearInterrupt _ => true
  | .access (.writeControl value) _ => value.contains Control.attention
  | _ => false

namespace Bus

variable {config : Config} {t u : List Occurrence}

/-! ## After a look that saw the interrupt -/

/-- Before the next byte is sent nobody looks at the interrupt or clears it, and the control
register is only written to release attention. -/
def Settled (t : List Occurrence) : Prop := ∀ o ∈ untilSent t, o.handles = false

/-- Whenever a look sees the interrupt, it is cleared and the transceiver is armed before anything
else is asked, and neither happens a second time before the next byte is sent. -/
def Rearms (t : List Occurrence) : Prop :=
  ∀ before after, t = before ++ .access .readInterrupt true :: after →
    ∃ control rest, after = .access .clearInterrupt () ::
      (rewriting (fun control => control.union Control.acknowledge) control ++ rest) ∧
      Settled rest

theorem settled_of_forall (h : ∀ o ∈ t, o.handles = false) : Settled t :=
  fun o ho => h o ((List.takeWhile_sublist _).subset ho)

theorem Settled.append (ht : Settled t) (hu : Settled u) : Settled (t ++ u) := by
  intro o ho
  unfold untilSent at ho
  rw [List.takeWhile_append] at ho
  split at ho
  case isTrue hwhole =>
    have hall : untilSent t = t := (List.takeWhile_prefix _).eq_of_length hwhole
    rcases List.mem_append.mp ho with h | h
    · exact ht o (hall.symm ▸ h)
    · exact hu o h
  case isFalse => exact ht o ho

/-- An occurrence of a trace that is put together lies in one of its two parts. -/
theorem append_eq_append_cons {before after : List Occurrence} {o : Occurrence}
    (h : t ++ u = before ++ o :: after) :
    (∃ between, u = between ++ o :: after) ∨
      ∃ rest, t = before ++ o :: rest ∧ after = rest ++ u := by
  rcases List.append_eq_append_iff.mp h with ⟨between, -, hsplit⟩ | ⟨between, hsplit, hafter⟩
  · exact .inl ⟨between, hsplit⟩
  · cases between with
    | nil => exact .inl ⟨[], hafter.symm⟩
    | cons o' between =>
      rw [List.cons_append] at hafter
      obtain ⟨rfl, rfl⟩ := List.cons.inj hafter
      exact .inr ⟨between, hsplit, rfl⟩

theorem Rearms.append (ht : Rearms t) (hu : Rearms u) (hsettled : Settled u) :
    Rearms (t ++ u) := by
  intro before after h
  rcases append_eq_append_cons h with ⟨between, hsplit⟩ | ⟨rest, hsplit, rfl⟩
  · exact hu between after hsplit
  · obtain ⟨control, rest, rfl, hrest⟩ := ht before rest hsplit
    exact ⟨control, rest ++ u, by simp only [List.cons_append, List.append_assoc],
      hrest.append hsettled⟩

theorem not_mem_of_unseen (h : acknowledged t = false) : .access .readInterrupt true ∉ t :=
  fun hmem => List.any_eq_false.mp h _ hmem rfl

/-- Where no look sees the interrupt there is nothing to answer for. -/
theorem Rearms.prepend (h : acknowledged t = false) (hu : Rearms u) : Rearms (t ++ u) := by
  intro before after hsplit
  rcases append_eq_append_cons hsplit with ⟨between, hu'⟩ | ⟨rest, rfl, -⟩
  · exact hu between after hu'
  · exact absurd (List.mem_append_right before List.mem_cons_self) (not_mem_of_unseen h)

theorem rearms_of_unseen (h : acknowledged t = false) : Rearms t := by
  rintro before after rfl
  exact absurd (List.mem_append_right before List.mem_cons_self) (not_mem_of_unseen h)

/-! ## The parts of an exchange -/

theorem Draining.settled (h : Draining t) : Settled t := by
  refine settled_of_forall fun o ho => ?_
  obtain ⟨status, rfl⟩ | ⟨byte, rfl⟩ := h o ho
  · rfl
  · rfl

/-- An exchanged byte settles whatever follows it. -/
theorem Exchanging.settled_append {sent received : UInt8} (h : Exchanging sent received t)
    (u : List Occurrence) : Settled (t ++ u) := by
  obtain ⟨before, between, hbefore, -, rfl⟩ := h
  rw [List.append_assoc]
  refine hbefore.draining.settled.append fun o ho => ?_
  exact absurd (show o ∈ [] from ho) List.not_mem_nil

theorem Exchanging.acknowledged {sent received : UInt8} (h : Exchanging sent received t) :
    acknowledged t = false := by
  obtain ⟨before, between, hbefore, hbetween, rfl⟩ := h
  have hread : Bus.acknowledged (between ++ [.access .readData received]) = false := by
    rw [acknowledged_append, hbetween.acknowledged]
    rfl
  rw [acknowledged_append, hbefore.acknowledged]
  exact hread

theorem Waiting.rearms {remaining : Nat} {seen : Bool} (h : Waiting config remaining seen t) :
    Rearms t := by
  induction h with
  | expired => exact rearms_of_unseen rfl
  | unseen pos rest ih =>
    exact ih.prepend (t := [.access .readInterrupt false, .sleep config.pollStep]) rfl
  | seen pos control =>
    have hlater : Rearms (.access .clearInterrupt () ::
        rewriting (fun control => control.union Control.acknowledge) control) :=
      rearms_of_unseen rfl
    intro before after h
    cases before with
    | nil =>
      obtain ⟨-, rfl⟩ := List.cons.inj h
      exact ⟨control, [], by rw [List.append_nil], settled_of_forall nofun⟩
    | cons o before => exact hlater before after (List.cons.inj h).2

theorem Filling.rearms {request buffer : List UInt8} {reply : Reply}
    (h : Filling config request buffer reply t) : Rearms t ∧ Settled t := by
  induction h with
  | full => exact ⟨rearms_of_unseen rfl, settled_of_forall nofun⟩
  | last exchanged waited =>
    exact ⟨waited.rearms.prepend exchanged.acknowledged, exchanged.settled_append _⟩
  | more exchanged waited filled ih =>
    exact ⟨(waited.rearms.append ih.1 ih.2).prepend exchanged.acknowledged,
      exchanged.settled_append _⟩

theorem Replying.rearms {request buffer : List UInt8} {reply : Reply}
    (h : Replying config request buffer reply t) : Rearms t := by
  cases h with
  | unanswered waited => exact waited.rearms
  | answered waited drained filled =>
    obtain ⟨hrearms, hsettled⟩ := filled.rearms
    exact waited.rearms.append (hrearms.prepend drained.acknowledged)
      (drained.settled.append hsettled)

/-! ## How often -/

/-- How many looks saw the interrupt. -/
def sightings (t : List Occurrence) : Nat :=
  t.countP fun
    | .access .readInterrupt seen => seen
    | _ => false

/-- How many times the interrupt was cleared. -/
def clearings (t : List Occurrence) : Nat :=
  t.countP fun
    | .access .clearInterrupt _ => true
    | _ => false

theorem sightings_append (t u : List Occurrence) :
    sightings (t ++ u) = sightings t + sightings u := List.countP_append

theorem clearings_append (t u : List Occurrence) :
    clearings (t ++ u) = clearings t + clearings u := List.countP_append

theorem sightings_of_unseen (h : acknowledged t = false) : sightings t = 0 :=
  List.countP_eq_zero.mpr (List.any_eq_false.mp h)

theorem Waiting.sightings {remaining : Nat} {seen : Bool} (h : Waiting config remaining seen t) :
    sightings t = seen.toNat := by
  induction h with
  | expired => rfl
  | unseen pos rest ih => exact ih
  | seen pos control => rfl

/-- For every look that saw the interrupt it was cleared once and the control register was written
once. -/
structure Paired (t : List Occurrence) : Prop where
  cleared : clearings t = sightings t
  written : (controlsWritten t).length = sightings t

theorem Paired.append (ht : Paired t) (hu : Paired u) : Paired (t ++ u) where
  cleared := by rw [clearings_append, sightings_append, ht.cleared, hu.cleared]
  written := by
    rw [controlsWritten_append, List.length_append, sightings_append, ht.written, hu.written]

theorem Waiting.paired {remaining : Nat} {seen : Bool} (h : Waiting config remaining seen t) :
    Paired t := by
  induction h with
  | expired => exact ⟨rfl, rfl⟩
  | unseen pos rest ih => exact ⟨ih.cleared, ih.written⟩
  | seen pos control => exact ⟨rfl, rfl⟩

theorem Draining.paired (h : Draining t) : Paired t := by
  induction t with
  | nil => exact ⟨rfl, rfl⟩
  | cons o t ih =>
    have ht : Paired t := ih fun o' ho' => h o' (List.mem_cons_of_mem o ho')
    obtain ⟨status, rfl⟩ | ⟨byte, rfl⟩ := h o List.mem_cons_self
    · exact ⟨ht.cleared, ht.written⟩
    · exact ⟨ht.cleared, ht.written⟩

theorem Exchanging.paired {sent received : UInt8} (h : Exchanging sent received t) :
    Paired t := by
  obtain ⟨before, between, hbefore, hbetween, rfl⟩ := h
  have hsent : Paired [.access (.writeData sent) ()] := ⟨rfl, rfl⟩
  have hread : Paired [.access .readData received] := ⟨rfl, rfl⟩
  exact hbefore.draining.paired.append (hsent.append (hbetween.draining.paired.append hread))

theorem Filling.paired {request buffer : List UInt8} {reply : Reply}
    (h : Filling config request buffer reply t) : Paired t := by
  induction h with
  | full => exact ⟨rfl, rfl⟩
  | last exchanged waited => exact exchanged.paired.append waited.paired
  | more exchanged waited filled ih => exact exchanged.paired.append (waited.paired.append ih)

theorem Replying.paired {request buffer : List UInt8} {reply : Reply}
    (h : Replying config request buffer reply t) : Paired t := by
  cases h with
  | unanswered waited => exact waited.paired
  | answered waited drained filled =>
    exact waited.paired.append (drained.paired.append filled.paired)

/-! ## Once in a turn -/

/-- How many of the bytes that were sent are acknowledged. -/
def acknowledgedTurns (t : List Occurrence) : Nat :=
  (turns t).countP fun turn => acknowledged turn.2

theorem acknowledgedTurns_of_unsent (h : Unsent t) : acknowledgedTurns t = 0 := by
  unfold acknowledgedTurns
  rw [turns_of_unsent h]
  rfl

theorem Exchanging.acknowledgedTurns {sent received : UInt8} {seen : Bool} {remaining : Nat}
    {w : List Occurrence} (h : Exchanging sent received t)
    (waited : Waiting config remaining seen w) (hread : bytesRead (untilSent u) = [])
    (hack : Bus.acknowledged (untilSent u) = false) :
    acknowledgedTurns (t ++ (w ++ u)) = seen.toNat + acknowledgedTurns u := by
  obtain ⟨after, hturns, -, hseen⟩ := h.turns waited hread hack
  unfold Bus.acknowledgedTurns
  rw [hturns, List.countP_cons, hseen, Nat.add_comm]
  cases seen <;> rfl

/-- A wait sees one interrupt at most, whatever follows in which nothing is sent, read or seen. -/
theorem Filling.sightings {request buffer : List UInt8} {reply : Reply}
    (h : Filling config request buffer reply t) (hsent : Unsent u) (hread : bytesRead u = [])
    (hack : acknowledged u = false) : sightings t = acknowledgedTurns (t ++ u) := by
  induction h with
  | full => exact (acknowledgedTurns_of_unsent hsent).symm
  | last exchanged waited =>
    have hread' : bytesRead (untilSent u) = [] := by rw [untilSent_of_unsent hsent, hread]
    have hack' : acknowledged (untilSent u) = false := by rw [untilSent_of_unsent hsent, hack]
    rw [sightings_append, sightings_of_unseen exchanged.acknowledged, waited.sightings,
      List.append_assoc, exchanged.acknowledgedTurns waited hread' hack',
      acknowledgedTurns_of_unsent hsent]
    rfl
  | more exchanged waited filled ih =>
    obtain ⟨hread', hack', -⟩ := filled.turned hsent hread hack
    rw [sightings_append, sightings_append, sightings_of_unseen exchanged.acknowledged,
      waited.sightings, ih, List.append_assoc, List.append_assoc,
      exchanged.acknowledgedTurns waited hread' hack', Nat.zero_add]

theorem Replying.sightings {request buffer : List UInt8} {reply : Reply}
    (h : Replying config request buffer reply t) (hsent : Unsent u) (hread : bytesRead u = [])
    (hack : acknowledged u = false) :
    sightings t = acknowledgedTurns (t ++ u) + (acknowledged (untilSent (t ++ u))).toNat := by
  cases h with
  | unanswered waited =>
    have hall : Unsent (t ++ u) := waited.unsent.append hsent
    rw [acknowledgedTurns_of_unsent hall, untilSent_of_unsent hall, acknowledged_append,
      waited.acknowledged, hack, waited.sightings]
    rfl
  | answered waited drained filled =>
    obtain ⟨-, hseen, -⟩ := filled.turned hsent hread hack
    unfold acknowledgedTurns
    rw [List.append_assoc, List.append_assoc, untilSent_append waited.unsent,
      untilSent_append drained.unsent, turns_append waited.unsent, turns_append drained.unsent,
      acknowledged_append, acknowledged_append, waited.acknowledged, sightings_append,
      sightings_append, waited.sightings, sightings_of_unseen drained.acknowledged,
      filled.sightings hsent hread hack, Nat.zero_add, Nat.add_comm]
    rfl

/-! ## The whole packet -/

/-- What comes after the reply. -/
def concluding (config : Config) (last : Control) : List Occurrence :=
  releasing config last ++ [.sleep (clampMicros config.postDelay)]

/-- A packet, by what comes between its address byte and the release of attention. -/
def wholePacket (config : Config) (byte : UInt8) (first last : Control) (t : List Occurrence) :
    List Occurrence :=
  .sleep (clampMicros config.preDelay) :: (asserting config first ++
    .access (.writeData byte) () :: (t ++ concluding config last))

theorem forall_mem_concluding {p : Occurrence → Prop} {last : Control}
    (hsleep : ∀ micros, p (.sleep micros)) (hread : p (.access .readControl last))
    (hwrite : p (.access (.writeControl (last.diff Control.attention)) ())) :
    ∀ o ∈ concluding config last, p o := by
  intro o ho
  simp only [concluding, releasing, rewriting, List.mem_append, List.mem_cons, List.not_mem_nil,
    or_false] at ho
  rcases ho with (rfl | rfl | rfl) | rfl
  · exact hsleep _
  · exact hread
  · exact hwrite
  · exact hsleep _

/-- Nothing is sent any more. -/
theorem unsent_concluding (config : Config) (last : Control) : Unsent (concluding config last) :=
  forall_mem_concluding (fun _ => rfl) rfl rfl

theorem settled_concluding (config : Config) (last : Control) :
    Settled (concluding config last) := by
  refine settled_of_forall (forall_mem_concluding (fun _ => rfl) rfl ?_)
  exact Flags.contains_diff_self (by decide)

variable {request buffer : List UInt8} {reply : Reply} {byte : UInt8} {first last : Control}

theorem Replying.rearms_wholePacket (h : Replying config request buffer reply t) :
    Rearms (wholePacket config byte first last t) := by
  have hafter : Rearms (t ++ concluding config last) :=
    h.rearms.append (rearms_of_unseen rfl) (settled_concluding config last)
  have hwhole := hafter.prepend (t := .sleep (clampMicros config.preDelay) ::
    (asserting config first ++ [.access (.writeData byte) ()])) rfl
  rwa [List.cons_append, List.append_assoc, List.singleton_append] at hwhole

theorem sightings_wholePacket : sightings (wholePacket config byte first last t) = sightings t :=
  sightings_append t (concluding config last)

/-- An old interrupt is cleared before the packet. -/
theorem clearings_wholePacket :
    clearings (wholePacket config byte first last t) = clearings t + 1 := by
  show clearings (.access .clearInterrupt () :: (t ++ concluding config last)) = _
  rw [clearings, List.countP_cons_of_pos rfl]
  exact congrArg (· + 1) (clearings_append t (concluding config last))

/-- Attention is asserted by one write and released by another. -/
theorem length_controlsWritten_wholePacket :
    (controlsWritten (wholePacket config byte first last t)).length =
      (controlsWritten t).length + 2 := by
  show (_ :: controlsWritten (t ++ concluding config last)).length = _
  rw [controlsWritten_append, List.length_cons, List.length_append]
  rfl

theorem acknowledgedTurns_wholePacket :
    acknowledgedTurns (wholePacket config byte first last t) =
      acknowledgedTurns (t ++ concluding config last) +
        (acknowledged (untilSent (t ++ concluding config last))).toNat := by
  unfold acknowledgedTurns wholePacket
  rw [turns_opening, List.countP_cons]
  cases acknowledged (untilSent (t ++ concluding config last)) <;> rfl

/-- Every byte that is acknowledged is seen to be so once. -/
theorem Replying.sightings_wholePacket (h : Replying config request buffer reply t) :
    Bus.sightings (wholePacket config byte first last t) =
      acknowledgedTurns (wholePacket config byte first last t) := by
  rw [Bus.sightings_wholePacket, acknowledgedTurns_wholePacket]
  exact h.sightings (unsent_concluding config last) rfl rfl

end Bus

end ConsoleBus
