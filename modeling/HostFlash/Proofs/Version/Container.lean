import Mathlib.Data.List.TakeWhile
import HostFlash.Proofs.Text.Lossy
import HostFlash.Proofs.Version.Image

/-!
# What of an image reaches its text

The text of an image is made of the bytes in front of the first zero of its payload. No byte of the
header of a container is among them, nor one behind the zero, and a header is skipped once: data
that begins like a container inside of another one is text. The zero that ends the text is no part
of it either, so that no text holds a NUL.
-/

namespace HostFlash.Firmware.Image

variable {data : List UInt8}

/-! ## The payload -/

theorem payload_of_magic (hmagic : containerMagic <+: data) :
    payload data = data.drop containerHeaderSize :=
  if_pos (List.isPrefixOf_iff_prefix.mpr hmagic)

theorem payload_of_not_magic (hmagic : ¬ containerMagic <+: data) : payload data = data :=
  if_neg (mt List.isPrefixOf_iff_prefix.mp hmagic)

/-- Behind a header stands the payload, whatever it begins with. -/
theorem payload_append {front : List UInt8} (hlength : front.length = containerHeaderSize)
    (hmagic : containerMagic <+: front) (data : List UInt8) : payload (front ++ data) = data := by
  rw [payload_of_magic (hmagic.trans (List.prefix_append front data)), List.drop_left' hlength]

/-- There is no zero in the magic, so one behind the data does not complete it. -/
theorem magic_prefix_append_zero (data junk : List UInt8) :
    containerMagic <+: data ++ 0 :: junk ↔ containerMagic <+: data :=
  Text.prefix_append_cons_iff (by decide) data junk

/-! ## The text -/

/-- The text is made of the bytes in front of the first zero of the payload. -/
theorem text_congr {other : List UInt8}
    (hsame : (payload other).takeWhile (· ≠ 0) = (payload data).takeWhile (· ≠ 0)) :
    text other = text data := by
  rw [text, hsame, ← text]

theorem text_of_short (hmagic : containerMagic <+: data)
    (hlength : data.length ≤ containerHeaderSize) : text data = "" := by
  rw [text, payload_of_magic hmagic, List.drop_eq_nil_of_le hlength]
  rfl

/-- What is behind a zero is behind the text. -/
theorem text_append_zero (hmagic : ¬ containerMagic <+: data) (junk : List UInt8) :
    text (data ++ 0 :: junk) = text data := by
  apply text_congr
  rw [payload_of_not_magic hmagic,
    payload_of_not_magic (mt (magic_prefix_append_zero data junk).mp hmagic),
    Text.takeWhile_ne_append_cons]

theorem nul_not_mem_text (data : List UInt8) : '\x00' ∉ (text data).toList := by
  rw [text, String.toList_ofList]
  apply Text.Utf8.nul_not_mem_decodeLossy
  intro hzero
  have hne : decide ((0 : UInt8) ≠ 0) = true :=
    List.mem_takeWhile_imp (p := fun b : UInt8 => decide (b ≠ 0)) hzero
  exact absurd hne (by decide)

/-- No byte of a header and none behind the first zero of the payload reaches the text, and no
text holds a NUL. A header is skipped once, also if what is behind it begins like another one. -/
theorem text_confined (data : List UInt8) :
    (containerMagic <+: data →
        (data.length ≤ 4096 → text data = "") ∧
        ∀ other, containerMagic <+: other →
          (other.drop 4096).takeWhile (· ≠ 0) = (data.drop 4096).takeWhile (· ≠ 0) →
          text other = text data) ∧
      (∀ front : List UInt8, front.length = 4096 → containerMagic <+: front →
        text (front ++ data) =
            String.ofList (Text.Utf8.decodeLossy (data.takeWhile (· ≠ 0))) ∧
          (¬ containerMagic <+: data → text (front ++ data) = text data)) ∧
      (¬ containerMagic <+: data → ∀ junk, text (data ++ [0] ++ junk) = text data) ∧
      '\x00' ∉ (text data).toList := by
  refine ⟨fun hmagic => ⟨text_of_short hmagic, fun other hother hsame => ?_⟩,
    fun front hlength hfront => ?_, fun hmagic junk => ?_, nul_not_mem_text data⟩
  · apply text_congr
    rw [payload_of_magic hmagic, payload_of_magic hother]
    exact hsame
  · have hpayload := payload_append hlength hfront data
    refine ⟨by rw [text, hpayload], fun hmagic => ?_⟩
    rw [text, hpayload, text, payload_of_not_magic hmagic]
  · rw [List.append_assoc]
    exact text_append_zero hmagic junk

/-- A container in a container is text behind one header, and lost without one. -/
theorem nestedContainer_confined :
    header.length = 4096 ∧ containerMagic <+: header ∧
      text (header ++ (containerMagic ++ [0x76, 0x31, 0, 0xFF])) = "\x17\x08 \x11v1" ∧
      containerMagic <+: containerMagic ++ [0x76, 0x31, 0, 0xFF] ∧
      text (containerMagic ++ [0x76, 0x31, 0, 0xFF]) = "" ∧
      ¬ containerMagic <+: [0x17, 0x08, 0x20] ∧
      text ([0x17, 0x08, 0x20] ++ [0] ++ [0x11]) = "\x17\x08 " := by
  have hheader : containerMagic <+: header := List.prefix_append containerMagic _
  have hnested : containerMagic <+: containerMagic ++ [0x76, 0x31, 0, 0xFF] :=
    List.prefix_append containerMagic _
  have hpartial : ¬ containerMagic <+: [0x17, 0x08, 0x20] := by decide
  obtain ⟨hsigned, hbehind, _⟩ := text_confined (containerMagic ++ [0x76, 0x31, 0, 0xFF])
  refine ⟨length_header, hheader, ?_, hnested, (hsigned hnested).1 (by decide), hpartial, ?_⟩
  · rw [(hbehind header length_header hheader).1]
    decide +kernel
  · rw [(text_confined [0x17, 0x08, 0x20]).2.2.1 hpartial [0x11]]
    decide +kernel

end HostFlash.Firmware.Image
