import ConsoleBus.Text

/-!
# Where text can be cut

The first byte of a character never looks like one of its later bytes. So a single byte tells
whether text can be cut in front of it, and a walk back from any place finds the last place before
it where that is so. The places found in this way are just those between two parts of the text that
are text themselves (`isBoundary_iff`).
-/

namespace ConsoleBus.Text

/-- Whether a byte of some text begins a character. The bytes from `0x80` to `0xBF` do not. -/
def opens (byte : UInt8) : Bool := byte < 0x80 || 0xC0 ≤ byte

/-- Whether a place among the bytes of a text lies between two characters, or at an end. -/
def isBoundary (bytes : List UInt8) (place : Nat) : Bool :=
  place == 0 || (bytes[place]?).elim (place == bytes.length) opens

/-- The first boundary on the way back from a place, unless the walk has to go on at the start. -/
def boundaryFrom? (bytes : List UInt8) : (place : Nat) → Option Nat
  | 0 => if isBoundary bytes 0 then some 0 else none
  | place + 1 =>
    if isBoundary bytes (place + 1) then some (place + 1) else boundaryFrom? bytes place

/-- The text before a place, if it can be cut there. -/
def before? (text : String) (place : Nat) : Option String :=
  if isBoundary (bytes text) place then ofBytes? ((bytes text).take place) else none

variable {text : String} {place : Nat}

/-! ## The bytes of a text -/

theorem length_bytes (text : String) : (bytes text).length = text.utf8ByteSize := rfl

theorem bytes_eq_flatMap (text : String) :
    bytes text = text.toList.flatMap String.utf8EncodeChar := by
  obtain ⟨chars, rfl⟩ := text.exists_eq_ofList
  unfold bytes
  rw [String.toUTF8_eq_toByteArray, String.toByteArray_ofList, String.toList_ofList]
  exact List.toList_data_toByteArray

theorem bytes_append (first rest : String) : bytes (first ++ rest) = bytes first ++ bytes rest := by
  simp only [bytes_eq_flatMap, String.toList_append, List.flatMap_append]

/-! ## Boundaries -/

/-- No byte of a character has its upper five bits set. -/
theorem lt_of_mem_utf8EncodeChar {c : Char} {byte : UInt8} (h : byte ∈ String.utf8EncodeChar c) :
    byte < 0xF8 := by
  rw [UInt8.lt_iff_toNat_lt]
  show byte.toNat < 248
  revert h
  fun_cases String.utf8EncodeChar c
  all_goals
    simp only [List.mem_cons, List.not_mem_nil, or_false]
    intro h
  · rw [h, UInt8.toNat_ofNat']
    omega
  · rcases h with rfl | rfl <;> rw [UInt8.toNat_ofNat'] <;> omega
  · rcases h with rfl | rfl | rfl <;> rw [UInt8.toNat_ofNat'] <;> omega
  · rcases h with rfl | rfl | rfl | rfl <;> rw [UInt8.toNat_ofNat'] <;> omega

/-- Bytes that cannot be in any text apart, those that begin a character look like first bytes. -/
theorem opens_iff_of_lt {byte : UInt8} (h : byte < 0xF8) :
    opens byte = true ↔ byte.IsUTF8FirstByte := by
  have hall : ∀ n < 0xF8, opens (UInt8.ofNat n) = true ↔ (UInt8.ofNat n).IsUTF8FirstByte := by
    decide +kernel
  rw [← UInt8.ofNat_toNat (x := byte)]
  exact hall byte.toNat (UInt8.lt_iff_toNat_lt.mp h)

theorem opens_getUTF8Byte {p : String.Pos.Raw} (h : p < text.rawEndPos) :
    opens (text.getUTF8Byte p h) = true ↔ (text.getUTF8Byte p h).IsUTF8FirstByte := by
  have hmem : text.getUTF8Byte p h ∈ bytes text := Array.getElem_mem_toList _
  rw [bytes_eq_flatMap, List.mem_flatMap] at hmem
  obtain ⟨c, -, hbyte⟩ := hmem
  exact opens_iff_of_lt (lt_of_mem_utf8EncodeChar hbyte)

theorem isBoundary_iff_isValid :
    isBoundary (bytes text) place = true ↔ (⟨place⟩ : String.Pos.Raw).IsValid text := by
  unfold isBoundary
  rw [Bool.or_eq_true, beq_iff_eq]
  rcases Nat.eq_zero_or_pos place with rfl | hpos
  · exact iff_of_true (.inl rfl) String.Pos.Raw.isValid_zero
  rw [or_iff_right (Nat.ne_of_gt hpos), String.Pos.Raw.isValid_iff_isUTF8FirstByte]
  by_cases h : place < (bytes text).length
  · have hopens : opens (bytes text)[place] = true ↔
        (text.getUTF8Byte ⟨place⟩ h).IsUTF8FirstByte := opens_getUTF8Byte h
    have hinside : ¬ (⟨place⟩ : String.Pos.Raw) = text.rawEndPos := by
      rw [String.Pos.Raw.ext_iff]
      exact Nat.ne_of_lt h
    rw [List.getElem?_eq_getElem h, Option.elim_some, hopens, or_iff_right hinside]
    exact ⟨fun hfirst => ⟨h, hfirst⟩, fun ⟨_, hfirst⟩ => hfirst⟩
  · have houtside : ¬ ∃ h : (⟨place⟩ : String.Pos.Raw) < text.rawEndPos,
        (text.getUTF8Byte ⟨place⟩ h).IsUTF8FirstByte := fun ⟨hinside, _⟩ => h hinside
    rw [List.getElem?_eq_none (Nat.le_of_not_lt h), Option.elim_none, beq_iff_eq,
      or_iff_left houtside, String.Pos.Raw.ext_iff]
    rfl

theorem isBoundary_iff :
    isBoundary (bytes text) place = true ↔
      ∃ first rest, text = first ++ rest ∧ (bytes first).length = place := by
  rw [isBoundary_iff_isValid, String.Pos.Raw.isValid_iff_exists_append]
  refine exists_congr fun first => exists_congr fun rest => and_congr_right fun _ => ?_
  rw [String.Pos.Raw.ext_iff]
  exact eq_comm

theorem before?_append (first rest : String) :
    before? (first ++ rest) (bytes first).length = some first := by
  unfold before?
  rw [if_pos (isBoundary_iff.mpr ⟨first, rest, rfl, rfl⟩), bytes_append, List.take_left,
    ofBytes?_bytes]

/-- The walk back never passes the start, and finds the last boundary on its way. -/
theorem boundaryFrom?_eq_some (bytes : List UInt8) (place : Nat) :
    ∃ stop, boundaryFrom? bytes place = some stop ∧ isBoundary bytes stop = true ∧ stop ≤ place ∧
      ∀ other ≤ place, isBoundary bytes other = true → other ≤ stop := by
  induction place with
  | zero => exact ⟨0, rfl, rfl, Nat.le_refl 0, fun other hother _ => hother⟩
  | succ place ih =>
    unfold boundaryFrom?
    by_cases h : isBoundary bytes (place + 1) = true
    · exact ⟨place + 1, if_pos h, h, Nat.le_refl _, fun other hother _ => hother⟩
    · obtain ⟨stop, hstop, hboundary, hle, hlast⟩ := ih
      refine ⟨stop, (if_neg h).trans hstop, hboundary, Nat.le_succ_of_le hle, ?_⟩
      intro other hother hother'
      have hne : other ≠ place + 1 := by
        rintro rfl
        exact h hother'
      exact hlast other (by omega) hother'

end ConsoleBus.Text
