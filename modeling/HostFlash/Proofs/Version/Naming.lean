import HostFlash.Firmware.VersionText
import HostFlash.Proofs.Listing.Lines

/-!
# What a version text names

The version that a text names is its first line, and the id of an image is made of the digest of
the version. A digest is never empty, so that a text without an id is one whose first line is
empty.
-/

namespace HostFlash

namespace Text

theorem head?_splitStep (separator c : Char) {piece : List Char} {pieces : List (List Char)} :
    (splitStep separator c (piece :: pieces)).head? =
      some (if c = separator then [] else c :: piece) := by
  rw [splitStep]
  split <;> rfl

/-- The first piece of a text is what stands in front of its first separator. -/
theorem head?_splitOn (separator : Char) (cs : List Char) :
    (splitOn separator cs).head? = some (cs.takeWhile (· ≠ separator)) := by
  induction cs with
  | nil => rfl
  | cons c cs ih =>
      obtain ⟨pieces, hpieces⟩ := List.head?_eq_some_iff.mp ih
      rw [splitOn_cons, hpieces, head?_splitStep]
      by_cases hc : c = separator
      · rw [if_pos hc, List.takeWhile_cons_of_neg (by simpa using hc)]
      · rw [if_neg hc, List.takeWhile_cons_of_pos (by simpa using hc)]

end Text

namespace Sha512

theorem length_bigEndian (width n : Nat) : (bigEndian width n).length = width := by
  induction width with
  | zero => rfl
  | succ width ih => rw [bigEndian, List.length_cons, ih]

theorem length_digest (message : List UInt8) : (digest message).length = 64 := by
  simp [digest, length_bigEndian]

end Sha512

namespace Firmware.Version

/-- The first line of a text, which a line feed ends. -/
def firstLine (text : String) : String :=
  String.ofList (text.toList.takeWhile (· ≠ '\n'))

theorem firstLine_eq_empty_iff (text : String) :
    firstLine text = "" ↔ text = "" ∨ text.toList.head? = some '\n' := by
  rw [firstLine, String.ofList_eq_empty_iff, ← String.toList_eq_nil_iff]
  cases text.toList with
  | nil => simp
  | cons c cs => simp [List.takeWhile_cons]

/-- A line feed at the very end is no part of the first line. -/
theorem takeWhile_withoutFinalNewline (cs : List Char) :
    (withoutFinalNewline cs).takeWhile (· ≠ '\n') = cs.takeWhile (· ≠ '\n') := by
  unfold withoutFinalNewline
  split
  next hlast =>
    obtain ⟨front, rfl⟩ := List.getLast?_eq_some_iff.mp hlast
    rw [List.dropLast_concat, Text.takeWhile_ne_append_cons]
  next => rfl

/-- The version that a text names is its first line. -/
theorem version_parse (text : String) : (parse text).version = firstLine text := by
  obtain ⟨pieces, hpieces⟩ :=
    List.head?_eq_some_iff.mp (Text.head?_splitOn '\n' (withoutFinalNewline text.toList))
  simp only [parse, hpieces, takeWhile_withoutFinalNewline, firstLine]

theorem length_idOf {version : String} (hversion : version ≠ "") :
    (idOf version).toList.length = idLength := by
  rw [idOf, if_neg hversion]
  simp [List.length_flatMap, List.map_const', Sha512.length_digest, idLength]

/-- Only the empty version has no id. -/
theorem idOf_eq_empty_iff {version : String} : idOf version = "" ↔ version = "" := by
  refine ⟨fun hid => ?_, fun hversion => if_pos hversion⟩
  refine Decidable.byContradiction fun hversion => ?_
  have hlength := length_idOf hversion
  rw [hid] at hlength
  cases hlength

/-- A text has no id exactly when its first line is empty. -/
theorem id_parse_eq_empty_iff {text : String} : (parse text).id = "" ↔ firstLine text = "" := by
  rw [id, idOf_eq_empty_iff, version_parse]

/-- A text of one line names a version and no components. -/
theorem parse_of_not_mem {text : String} (htext : '\n' ∉ text.toList) :
    parse text = ⟨text, ""⟩ := by
  have hline : withoutFinalNewline text.toList = text.toList :=
    if_neg fun hlast => htext (List.mem_of_getLast? hlast)
  simp [parse, hline, Text.splitOn_of_not_mem htext]

end Firmware.Version

end HostFlash
