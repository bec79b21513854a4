import HostFlash.Firmware.Image
import HostFlash.Proofs.Listing.Lines
import HostFlash.Proofs.Text.Utf8

/-!
# Images of a version text

An image gives back the text that it was made of, up to the first NUL. A signed image does so for
every text, since its header is skipped whole. A plain image does so unless the text itself begins
like a signed container. An image of one byte only says nothing if that byte is zero, and spells
replacement characters if it is the byte of erased flash.
-/

namespace HostFlash.Firmware.Image

open Text.Utf8 (encode)

/-- A text up to its first NUL. -/
def untilNul (text : String) : String :=
  String.ofList (text.toList.takeWhile (· ≠ '\x00'))

/-- The UTF-8 form of the text begins like a signed container. -/
def LooksSigned (text : String) : Prop := containerMagic <+: encode text.toList

instance (text : String) : Decidable (LooksSigned text) :=
  inferInstanceAs (Decidable (_ <+: _))

/-! ## The payload -/

theorem length_header : header.length = containerHeaderSize := by
  rw [header, List.length_append, List.length_replicate]
  rfl

theorem payload_signed (text : String) : payload (signed text) = plain text := by
  have hmagic : containerMagic <+: signed text :=
    ((List.prefix_append containerMagic _).trans (List.prefix_append header (plain text)))
  rw [payload, if_pos (List.isPrefixOf_iff_prefix.mpr hmagic), signed,
    List.drop_left' length_header]

/-- The byte behind a plain text is no part of a container, so only the text can look signed. -/
theorem magic_prefix_plain (text : String) :
    containerMagic <+: plain text ↔ LooksSigned text := by
  rw [plain, List.prefix_concat_iff]
  refine ⟨fun h => h.resolve_left fun heq => ?_, Or.inr⟩
  have hzero : (0 : UInt8) ∈ containerMagic := heq ▸ List.mem_append_right _ List.mem_cons_self
  exact absurd hzero (by decide)

theorem payload_plain {text : String} (htext : ¬ LooksSigned text) :
    payload (plain text) = plain text := by
  rw [payload, if_neg]
  exact fun h => htext ((magic_prefix_plain text).mp (List.isPrefixOf_iff_prefix.mp h))

/-! ## The text -/

/-- The bytes of a plain image in front of its first zero are those of the text up to its NUL. -/
theorem takeWhile_plain (text : String) :
    (plain text).takeWhile (· ≠ 0) = encode (text.toList.takeWhile (· ≠ '\x00')) := by
  rw [plain, Text.takeWhile_ne_append_cons, Text.Utf8.takeWhile_encode]

theorem text_of_payload_plain {data : List UInt8} {t : String} (hdata : payload data = plain t) :
    text data = untilNul t := by
  rw [text, hdata, takeWhile_plain, Text.Utf8.decodeLossy_encode, untilNul]

theorem text_signed (t : String) : text (signed t) = untilNul t :=
  text_of_payload_plain (payload_signed t)

theorem text_plain {t : String} (ht : ¬ LooksSigned t) : text (plain t) = untilNul t :=
  text_of_payload_plain (payload_plain ht)

/-- A text may begin like a container, and is then lost with the header that it does not have. -/
example : text (plain "\x17\x08 \x11v2.2") = "" := by decide +kernel

/-! ## Images of one byte -/

/-- No container begins with the same byte twice. -/
theorem payload_replicate (n : Nat) (b : UInt8) :
    payload (List.replicate n b) = List.replicate n b := by
  rw [payload, if_neg]
  intro h
  have hmem : ∀ a ∈ containerMagic, a = b := fun a ha =>
    List.eq_of_mem_replicate ((List.isPrefixOf_iff_prefix.mp h).subset ha)
  have hfirst : (0x17 : UInt8) = b := hmem _ (by decide)
  have hsecond : (0x08 : UInt8) = b := hmem _ (by decide)
  exact absurd (hfirst.trans hsecond.symm) (by decide)

/-- An image of zeros alone has no text. -/
theorem text_replicate_zero (n : Nat) : text (List.replicate n 0) = "" := by
  rw [text, payload_replicate, List.takeWhile_replicate]
  rfl

/-- An image of erased bytes alone is read as one replacement character for each of them. -/
theorem text_replicate_erased (n : Nat) :
    text (List.replicate n 0xFF) = String.ofList (List.replicate n '\uFFFD') := by
  have hstray : Text.Utf8.opening 0xFF = .stray := rfl
  rw [text, payload_replicate, List.takeWhile_replicate, if_pos (by decide),
    Text.Utf8.decodeLossy_replicate hstray]

end HostFlash.Firmware.Image
