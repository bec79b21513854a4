import HostFlash.Text.Utf8

/-!
# Reading UTF-8 back

The reader takes the bytes of one character from where a character may begin to where the next
one may begin, and so it reads every text back from its UTF-8 form. The only byte zero in that form
is the one of the character NUL, so that looking for the end of a text among bytes finds the same
end as looking for it among characters.
-/

namespace HostFlash.Text.Utf8

/-! ## One byte -/

theorem toNat_byte {n : Nat} (hn : n < 256) : (UInt8.ofNat n).toNat = n :=
  UInt8.toNat_ofNat_of_lt hn

theorem opening_one {x : Nat} (hx : x < 128) :
    opening (UInt8.ofNat x) = .whole (Char.ofNat x) := by
  rw [opening, toNat_byte (by omega), if_pos hx]

theorem opening_two {x : Nat} (hlow : 2 ≤ x) (hx : x < 32) :
    opening (UInt8.ofNat (x + 192)) = .sequence ⟨x, 1, 0x80, 0xBF⟩ := by
  rw [opening, toNat_byte (by omega), if_neg (by omega), if_neg (by omega), if_pos (by omega),
    Nat.add_sub_cancel]

theorem opening_three {x : Nat} (hx : x < 16) :
    opening (UInt8.ofNat (x + 224)) =
      .sequence ⟨x, 2, if x = 0 then 0xA0 else 0x80, if x = 13 then 0x9F else 0xBF⟩ := by
  rw [opening, toNat_byte (by omega), if_neg (by omega), if_neg (by omega), if_neg (by omega),
    if_pos (by omega)]
  simp

theorem opening_four {x : Nat} (hx : x < 5) :
    opening (UInt8.ofNat (x + 240)) =
      .sequence ⟨x, 3, if x = 0 then 0x90 else 0x80, if x = 4 then 0x8F else 0xBF⟩ := by
  rw [opening, toNat_byte (by omega), if_neg (by omega), if_neg (by omega), if_neg (by omega),
    if_neg (by omega), if_pos (by omega)]
  simp

namespace Reader

theorem feed_whole {b : UInt8} {c : Char} (hb : opening b = .whole c) (r : List (Option Char)) :
    feed ⟨r, none⟩ b = ⟨some c :: r, none⟩ := by
  simp only [feed, beginWith, hb]

theorem feed_sequence {b : UInt8} {o : Open} (hb : opening b = .sequence o)
    (r : List (Option Char)) : feed ⟨r, none⟩ b = ⟨r, some o⟩ := by
  simp only [feed, beginWith, hb]

theorem feed_stray {b : UInt8} (hb : opening b = .stray) (r : List (Option Char)) :
    feed ⟨r, none⟩ b = ⟨none :: r, none⟩ := by
  simp only [feed, beginWith, hb]

/-- A byte within its bounds adds six bits to the open sequence, and the last one closes it. -/
theorem feed_within {bits missing x : Nat} {low high : UInt8} (hx : x < 64)
    (hlow : low.toNat ≤ x + 128) (hhigh : x + 128 ≤ high.toNat) (r : List (Option Char)) :
    feed ⟨r, some ⟨bits, missing, low, high⟩⟩ (UInt8.ofNat (x + 128)) =
      if missing ≤ 1 then ⟨some (Char.ofNat (bits * 64 + x)) :: r, none⟩
      else ⟨r, some ⟨bits * 64 + x, missing - 1, 0x80, 0xBF⟩⟩ := by
  have hbyte : (UInt8.ofNat (x + 128)).toNat = x + 128 := toNat_byte (by omega)
  have hbounds : low ≤ UInt8.ofNat (x + 128) ∧ UInt8.ofNat (x + 128) ≤ high := by
    rw [UInt8.le_iff_toNat_le, UInt8.le_iff_toNat_le, hbyte]
    exact ⟨hlow, hhigh⟩
  simp only [feed, if_pos hbounds, hbyte, Nat.add_sub_cancel]

/-- A byte behind the first two of a sequence is bound by nothing but being a continuation. -/
theorem feed_continuation {bits missing x : Nat} (hx : x < 64) (r : List (Option Char)) :
    feed ⟨r, some ⟨bits, missing, 0x80, 0xBF⟩⟩ (UInt8.ofNat (x + 128)) =
      if missing ≤ 1 then ⟨some (Char.ofNat (bits * 64 + x)) :: r, none⟩
      else ⟨r, some ⟨bits * 64 + x, missing - 1, 0x80, 0xBF⟩⟩ := by
  have hlow : (0x80 : UInt8).toNat ≤ x + 128 := Nat.le_add_left 128 x
  have hhigh : x + 128 ≤ (0xBF : UInt8).toNat := show x + 128 ≤ 191 by omega
  exact feed_within hx hlow hhigh r

/-! ## One character -/

/-- A character is read from its bytes, whatever was read before it. -/
theorem foldl_feed_encodeChar (r : List (Option Char)) (c : Char) :
    (String.utf8EncodeChar c).foldl feed ⟨r, none⟩ = ⟨some c :: r, none⟩ := by
  have hvalid : c.toNat < 0xD800 ∨ 0xDFFF < c.toNat ∧ c.toNat < 0x110000 := c.valid
  have hchar : Char.ofNat c.toNat = c := Char.ofNat_toNat c
  simp only [String.utf8EncodeChar, Char.toNat_val]
  generalize c.toNat = v at hvalid hchar
  split
  next hone =>
    rw [List.foldl_cons, feed_whole (opening_one (by omega)), hchar, List.foldl_nil]
  next hone =>
  split
  next htwo =>
    have hbits : v / 64 % 32 * 64 + v % 64 = v := by omega
    rw [List.foldl_cons, feed_sequence (opening_two (by omega) (by omega)), List.foldl_cons,
      feed_continuation (by omega), if_pos (Nat.le_refl 1), hbits, hchar, List.foldl_nil]
  next htwo =>
  split
  next hthree =>
    -- The narrow bounds hold because the form is not overlong and encodes no surrogate.
    have hlow : (if v / 4096 % 16 = 0 then 0xA0 else 0x80 : UInt8).toNat ≤ v / 64 % 64 + 128 := by
      split
      · show 160 ≤ v / 64 % 64 + 128
        omega
      · exact Nat.le_add_left 128 _
    have hhigh : v / 64 % 64 + 128 ≤ (if v / 4096 % 16 = 13 then 0x9F else 0xBF : UInt8).toNat := by
      split
      · show v / 64 % 64 + 128 ≤ 159
        omega
      · show v / 64 % 64 + 128 ≤ 191
        omega
    have hbits : (v / 4096 % 16 * 64 + v / 64 % 64) * 64 + v % 64 = v := by omega
    rw [List.foldl_cons, feed_sequence (opening_three (by omega)), List.foldl_cons,
      feed_within (by omega) hlow hhigh, if_neg (by omega), List.foldl_cons,
      feed_continuation (by omega), if_pos (by omega), hbits, hchar, List.foldl_nil]
  next hthree =>
    have hlow : (if v / 262144 % 8 = 0 then 0x90 else 0x80 : UInt8).toNat ≤
        v / 4096 % 64 + 128 := by
      split
      · show 144 ≤ v / 4096 % 64 + 128
        omega
      · exact Nat.le_add_left 128 _
    have hhigh : v / 4096 % 64 + 128 ≤
        (if v / 262144 % 8 = 4 then 0x8F else 0xBF : UInt8).toNat := by
      split
      · show v / 4096 % 64 + 128 ≤ 143
        omega
      · show v / 4096 % 64 + 128 ≤ 191
        omega
    have hbits : ((v / 262144 % 8 * 64 + v / 4096 % 64) * 64 + v / 64 % 64) * 64 + v % 64 = v := by
      omega
    rw [List.foldl_cons, feed_sequence (opening_four (by omega)), List.foldl_cons,
      feed_within (by omega) hlow hhigh, if_neg (by omega), List.foldl_cons,
      feed_continuation (by omega), if_neg (by omega), List.foldl_cons,
      feed_continuation (by omega), if_pos (by omega), hbits, hchar, List.foldl_nil]

theorem foldl_feed_encode (r : List (Option Char)) (cs : List Char) :
    (encode cs).foldl feed ⟨r, none⟩ = ⟨(cs.map some).reverse ++ r, none⟩ := by
  induction cs generalizing r with
  | nil => rfl
  | cons c cs ih =>
      rw [encode, List.flatMap_cons, List.foldl_append, foldl_feed_encodeChar]
      exact (ih (some c :: r)).trans (by simp)

end Reader

/-! ## Whole texts -/

theorem scan_encode (cs : List Char) : scan (encode cs) = cs.map some := by
  rw [scan, Reader.start, Reader.foldl_feed_encode]
  simp [Reader.finish]

/-- Text written as UTF-8 is read back as it was. -/
@[simp] theorem decodeLossy_encode (cs : List Char) : decodeLossy (encode cs) = cs := by
  simp [decodeLossy, scan_encode, Function.comp_def]

/-- A byte that begins no character is malformed each time it stands there. -/
theorem decodeLossy_replicate {b : UInt8} (hb : opening b = .stray) (n : Nat) :
    decodeLossy (List.replicate n b) = List.replicate n '\uFFFD' := by
  have hread : ∀ r, (List.replicate n b).foldl Reader.feed ⟨r, none⟩ =
      ⟨List.replicate n none ++ r, none⟩ := by
    induction n with
    | zero => exact fun r => rfl
    | succ n ih =>
        intro r
        rw [List.replicate_succ, List.foldl_cons, Reader.feed_stray hb, ih,
          List.replicate_succ', List.append_assoc, List.singleton_append]
  simp [decodeLossy, scan, Reader.start, hread, Reader.finish]

/-! ## The end of a text -/

theorem byte_ne_zero {n : Nat} (hpos : 0 < n) (hn : n < 256) : UInt8.ofNat n ≠ 0 := by
  intro heq
  have hzero := congrArg UInt8.toNat heq
  rw [toNat_byte hn] at hzero
  exact Nat.ne_of_gt hpos hzero

/-- No byte of a character is zero, but for the one byte of NUL. -/
theorem ne_zero_of_mem_encodeChar {c : Char} (hc : c ≠ '\x00') :
    ∀ b ∈ String.utf8EncodeChar c, b ≠ 0 := by
  have hpos : 0 < c.toNat := by
    refine Nat.pos_of_ne_zero fun hzero => hc ?_
    rw [← Char.ofNat_toNat c, hzero]
  simp only [String.utf8EncodeChar, Char.toNat_val]
  generalize c.toNat = v at hpos
  have hnil : ∀ b ∈ ([] : List UInt8), b ≠ 0 := List.forall_mem_nil _
  split
  · exact List.forall_mem_cons.mpr ⟨byte_ne_zero hpos (by omega), hnil⟩
  split
  · simp only [List.forall_mem_cons]
    exact ⟨byte_ne_zero (by omega) (by omega), byte_ne_zero (by omega) (by omega), hnil⟩
  split
  · simp only [List.forall_mem_cons]
    exact ⟨byte_ne_zero (by omega) (by omega), byte_ne_zero (by omega) (by omega),
      byte_ne_zero (by omega) (by omega), hnil⟩
  · simp only [List.forall_mem_cons]
    exact ⟨byte_ne_zero (by omega) (by omega), byte_ne_zero (by omega) (by omega),
      byte_ne_zero (by omega) (by omega), byte_ne_zero (by omega) (by omega), hnil⟩

/-- The bytes in front of the first byte zero are those of the characters in front of the first
NUL. -/
theorem takeWhile_encode (cs : List Char) :
    (encode cs).takeWhile (· ≠ 0) = encode (cs.takeWhile (· ≠ '\x00')) := by
  induction cs with
  | nil => rfl
  | cons c cs ih =>
      by_cases hc : c = '\x00'
      · subst hc
        rfl
      · rw [List.takeWhile_cons_of_pos (by simpa using hc), encode, List.flatMap_cons,
          List.takeWhile_append_of_pos fun b hb =>
            decide_eq_true (ne_zero_of_mem_encodeChar hc b hb)]
        exact congrArg _ ih

end HostFlash.Text.Utf8
