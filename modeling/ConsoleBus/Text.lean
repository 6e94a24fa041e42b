/-!
# Text as bytes

Text travels over the bus, and is measured and compared, as the bytes of its UTF-8 form.
-/

namespace ConsoleBus.Text

/-- The bytes of the text. -/
def bytes (text : String) : List UInt8 := text.toUTF8.data.toList

/-- The text with the given bytes, if they are well formed. -/
def ofBytes? (bytes : List UInt8) : Option String := String.fromUTF8? ⟨bytes.toArray⟩

/-- Text is read back from its own bytes. -/
@[simp] theorem ofBytes?_bytes (text : String) : ofBytes? (bytes text) = some text := by
  unfold ofBytes? bytes String.fromUTF8?
  have h : (⟨text.toUTF8.data.toList.toArray⟩ : ByteArray) = text.toUTF8 := by
    rw [Array.toArray_toList]
  rw [h]
  exact dif_pos text.isValidUTF8

/-- Bytes are read as the text that has just these bytes. -/
theorem bytes_of_ofBytes? {bytes : List UInt8} {text : String} (h : ofBytes? bytes = some text) :
    Text.bytes text = bytes := by
  unfold ofBytes? String.fromUTF8? at h
  split at h
  · rw [← Option.some.inj h]
    exact List.toList_toArray
  · cases h

end ConsoleBus.Text
