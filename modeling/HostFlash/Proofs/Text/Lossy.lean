import Mathlib.Algebra.Group.Nat.Defs
import HostFlash.Proofs.Text.Utf8

/-!
# Reading any bytes as text

What the lossy reading gives for bytes that need not be UTF-8. The bounds on the next byte of an
open sequence are there to keep its code point out of the ASCII range, out of the surrogates and
below `110000`. So an ASCII character in the text always stands for one byte of the same value,
and the first character tells whether the first byte was one.
-/

namespace HostFlash.Text.Utf8

/-! ## Open sequences -/

namespace Open

/-- The least code point that the sequence can still come to. -/
def least (o : Open) : Nat :=
  (o.bits * 64 + (o.low.toNat - 0x80)) * 64 ^ (o.missing - 1)

/-- The first code point that is too large for the sequence. -/
def limit (o : Open) : Nat :=
  (o.bits * 64 + (o.high.toNat - 0x80) + 1) * 64 ^ (o.missing - 1)

/-- The sequence can come to nothing but characters above the ASCII range. -/
structure Sound (o : Open) : Prop where
  due : 1 ≤ o.missing
  low : 0x80 ≤ o.low.toNat
  above : 0x80 ≤ o.least
  scalar : o.limit ≤ 0xD800 ∨ 0xE000 ≤ o.least ∧ o.limit ≤ 0x110000

/-- The sequence with the bits of one byte more. -/
def next (o : Open) (b : UInt8) : Open :=
  ⟨o.bits * 64 + (b.toNat - 0x80), o.missing - 1, 0x80, 0xBF⟩

variable {o : Open} {b : UInt8}

theorem pow_missing (hdue : 1 < o.missing) :
    64 ^ (o.missing - 1) = 64 * 64 ^ ((o.next b).missing - 1) := by
  have hnext : (o.next b).missing + 1 = o.missing := Nat.sub_add_cancel (Nat.le_of_lt hdue)
  rw [← Nat.pow_succ', Nat.succ_eq_add_one, Nat.sub_add_cancel (by omega), ← hnext,
    Nat.add_sub_cancel]

theorem least_next (hdue : 1 < o.missing) :
    (o.next b).least = (o.next b).bits * 64 ^ (o.missing - 1) := by
  have hlow : (o.next b).low.toNat = 0x80 := rfl
  rw [least, hlow, pow_missing hdue, Nat.sub_self, Nat.add_zero, Nat.mul_assoc]

theorem limit_next (hdue : 1 < o.missing) :
    (o.next b).limit = ((o.next b).bits + 1) * 64 ^ (o.missing - 1) := by
  have hhigh : (o.next b).high.toNat = 0xBF := rfl
  rw [limit, hhigh, pow_missing hdue, ← Nat.mul_assoc, Nat.add_mul (o.next b).bits 1 64]

theorem bits_le_next (hlow : o.low ≤ b) :
    o.bits * 64 + (o.low.toNat - 0x80) ≤ (o.next b).bits := by
  have hbytes : o.low.toNat ≤ b.toNat := UInt8.le_iff_toNat_le.mp hlow
  show _ ≤ o.bits * 64 + (b.toNat - 0x80)
  omega

theorem next_bits_le (hhigh : b ≤ o.high) :
    (o.next b).bits ≤ o.bits * 64 + (o.high.toNat - 0x80) := by
  have hbytes : b.toNat ≤ o.high.toNat := UInt8.le_iff_toNat_le.mp hhigh
  show o.bits * 64 + (b.toNat - 0x80) ≤ _
  omega

theorem Sound.of_bounds (least high : Nat) {bits missing : Nat} {first last : UInt8}
    (hdue : 1 ≤ missing) (hlow : first.toNat = 0x80 + least) (hhigh : last.toNat = 0x80 + high)
    (habove : 0x80 ≤ (bits * 64 + least) * 64 ^ (missing - 1))
    (hscalar : (bits * 64 + high + 1) * 64 ^ (missing - 1) ≤ 0xD800 ∨
      0xE000 ≤ (bits * 64 + least) * 64 ^ (missing - 1) ∧
        (bits * 64 + high + 1) * 64 ^ (missing - 1) ≤ 0x110000) :
    Sound ⟨bits, missing, first, last⟩ := by
  refine ⟨hdue, hlow ▸ Nat.le_add_right _ _, ?_, ?_⟩
  · rwa [Open.least, hlow, Nat.add_sub_cancel_left]
  · rwa [Open.limit, Open.least, hlow, hhigh, Nat.add_sub_cancel_left, Nat.add_sub_cancel_left]

/-- A byte within the bounds narrows what the sequence can come to. -/
theorem Sound.next (h : o.Sound) (hdue : 1 < o.missing) (hlow : o.low ≤ b) (hhigh : b ≤ o.high) :
    (o.next b).Sound := by
  have hleast : o.least ≤ (o.next b).least := by
    rw [least_next hdue]
    exact Nat.mul_le_mul_right _ (bits_le_next hlow)
  have hlimit : (o.next b).limit ≤ o.limit := by
    rw [limit_next hdue]
    exact Nat.mul_le_mul_right _ (Nat.succ_le_succ (next_bits_le hhigh))
  refine ⟨Nat.le_sub_of_add_le hdue, Nat.le_refl _, Nat.le_trans h.above hleast, ?_⟩
  rcases h.scalar with hbelow | ⟨habove, hbelow⟩
  · exact Or.inl (Nat.le_trans hlimit hbelow)
  · exact Or.inr ⟨Nat.le_trans habove hleast, Nat.le_trans hlimit hbelow⟩

/-- The last byte closes the sequence with a character above the ASCII range. -/
theorem Sound.close (h : o.Sound) (hdue : o.missing ≤ 1) (hlow : o.low ≤ b) (hhigh : b ≤ o.high) :
    0x80 ≤ (Char.ofNat (o.next b).bits).toNat := by
  have hpower : 64 ^ (o.missing - 1) = 1 := by rw [Nat.sub_eq_zero_of_le hdue, Nat.pow_zero]
  have hleast : o.least ≤ (o.next b).bits := by
    rw [least, hpower, Nat.mul_one]
    exact bits_le_next hlow
  have hlimit : (o.next b).bits < o.limit := by
    rw [limit, hpower, Nat.mul_one]
    exact Nat.lt_succ_of_le (next_bits_le hhigh)
  have hvalid : (o.next b).bits.isValidChar := by
    rcases h.scalar with hbelow | ⟨habove, hbelow⟩
    · exact Or.inl (Nat.lt_of_lt_of_le hlimit hbelow)
    · exact Or.inr ⟨Nat.lt_of_lt_of_le (by omega) hleast, Nat.lt_of_lt_of_le hlimit hbelow⟩
  have hchar : (Char.ofNat (o.next b).bits).toNat = (o.next b).bits := by
    rw [Char.ofNat, dif_pos hvalid]
    rfl
  rw [hchar]
  exact Nat.le_trans h.above hleast

end Open

/-- A byte that begins a sequence bounds the next byte so that the sequence is sound. -/
theorem sound_of_opening {b : UInt8} {o : Open} (hb : opening b = .sequence o) : o.Sound := by
  unfold opening at hb
  dsimp only at hb
  split at hb
  next => cases hb
  split at hb
  next => cases hb
  next hstray =>
  split at hb
  next htwo =>
    rw [← Opening.sequence.inj hb]
    exact .of_bounds 0 63 (by decide) rfl rfl (by omega) (by omega)
  next htwo =>
  split at hb
  next hthree =>
    rw [← Opening.sequence.inj hb]
    -- The narrow bounds keep `E0` from overlong forms and `ED` from surrogates.
    split
    next hoverlong =>
      rw [if_neg (by omega)]
      exact .of_bounds 32 63 (by decide) rfl rfl (by omega) (by omega)
    next hoverlong =>
    split
    next hsurrogate => exact .of_bounds 0 31 (by decide) rfl rfl (by omega) (by omega)
    next hsurrogate => exact .of_bounds 0 63 (by decide) rfl rfl (by omega) (by omega)
  next hthree =>
  split at hb
  next hfour =>
    rw [← Opening.sequence.inj hb]
    split
    next hoverlong =>
      rw [if_neg (by omega)]
      exact .of_bounds 16 63 (by decide) rfl rfl (by omega) (by omega)
    next hoverlong =>
    split
    next hbeyond => exact .of_bounds 0 15 (by decide) rfl rfl (by omega) (by omega)
    next hbeyond => exact .of_bounds 0 63 (by decide) rfl rfl (by omega) (by omega)
  next => cases hb

/-- A byte is a whole character if it is in the ASCII range, and has the value of it. -/
theorem toNat_of_opening {b : UInt8} {c : Char} (hb : opening b = .whole c) :
    b.toNat < 0x80 ∧ c.toNat = b.toNat := by
  unfold opening at hb
  dsimp only at hb
  split at hb
  next hascii =>
    have hvalid : b.toNat.isValidChar := Or.inl (by omega)
    refine ⟨hascii, ?_⟩
    rw [← Opening.whole.inj hb, Char.ofNat, dif_pos hvalid]
    rfl
  next =>
  split at hb
  next => cases hb
  split at hb
  next => cases hb
  split at hb
  next => cases hb
  split at hb
  next => cases hb
  next => cases hb

theorem opening_ascii {b : UInt8} (hb : b.toNat < 0x80) :
    opening b = .whole (Char.ofNat b.toNat) :=
  if_pos hb

/-- A byte that is no character of its own is outside of the ASCII range. -/
theorem not_ascii_of_opening {b : UInt8} (hb : ∀ c, opening b ≠ .whole c) : ¬ b.toNat < 0x80 :=
  fun hascii => hb _ (opening_ascii hascii)

/-! ## The characters of a text -/

/-- The character lies above the ASCII range, or is a byte with the property `P`. -/
def Stems (P : UInt8 → Prop) (c : Char) : Prop :=
  0x80 ≤ c.toNat ∨ ∃ b, P b ∧ b.toNat = c.toNat

namespace Reader

/-- Each character that was read stems from a byte with the property, and the open sequence comes
to none that does not. -/
structure Sound (P : UInt8 → Prop) (r : Reader) : Prop where
  read : ∀ c, some c ∈ r.read → Stems P c
  opened : ∀ o, r.opened = some o → o.Sound

variable {P : UInt8 → Prop} {r : Reader} {b : UInt8}

theorem sound_of_whole {read : List (Option Char)} {x : Option Char}
    (hread : ∀ c, some c ∈ read → Stems P c) (hx : ∀ c, x = some c → Stems P c) :
    Sound P ⟨x :: read, none⟩ := by
  refine ⟨fun c hc => ?_, fun o ho => nomatch ho⟩
  rcases List.mem_cons.mp hc with heq | hc
  · exact hx c heq.symm
  · exact hread c hc

theorem sound_beginWith {read : List (Option Char)} (hread : ∀ c, some c ∈ read → Stems P c)
    (hb : P b) : Sound P (beginWith read b) := by
  unfold beginWith
  split
  next c hopening =>
    refine sound_of_whole hread fun c' hc => Or.inr ⟨b, hb, ?_⟩
    rw [← Option.some.inj hc]
    exact (toNat_of_opening hopening).2.symm
  next o hopening =>
    refine ⟨hread, fun o' ho => ?_⟩
    rw [← Option.some.inj ho]
    exact sound_of_opening hopening
  next => exact sound_of_whole hread fun c hc => nomatch hc

/-- A byte behind an open sequence goes on with it or leaves it as a malformed part. -/
theorem feed_open (read : List (Option Char)) (o : Open) (b : UInt8) :
    feed ⟨read, some o⟩ b =
      if o.low ≤ b ∧ b ≤ o.high then
        if o.missing ≤ 1 then ⟨some (Char.ofNat (o.next b).bits) :: read, none⟩
        else ⟨read, some (o.next b)⟩
      else beginWith (none :: read) b := by
  cases o
  rfl

theorem Sound.feed (h : r.Sound P) (hb : P b) : (feed r b).Sound P := by
  obtain ⟨read, opened⟩ := r
  cases opened with
  | none => exact sound_beginWith h.read hb
  | some o =>
  have ho := h.opened o rfl
  rw [feed_open]
  split
  next hwithin =>
    split
    next hlast =>
      refine sound_of_whole h.read fun c hc => Or.inl ?_
      rw [← Option.some.inj hc]
      exact ho.close hlast hwithin.1 hwithin.2
    next hlast =>
      refine ⟨h.read, fun o' ho' => ?_⟩
      rw [← Option.some.inj ho']
      exact ho.next (Nat.lt_of_not_le hlast) hwithin.1 hwithin.2
  next =>
    refine sound_beginWith (fun c hc => ?_) hb
    rcases List.mem_cons.mp hc with heq | hc
    · exact nomatch heq
    · exact h.read c hc

theorem Sound.foldl_feed {bytes : List UInt8} (hbytes : ∀ b ∈ bytes, P b) (h : r.Sound P) :
    (bytes.foldl Reader.feed r).Sound P := by
  induction bytes generalizing r with
  | nil => exact h
  | cons b bytes ih =>
      rw [List.forall_mem_cons] at hbytes
      exact ih hbytes.2 (h.feed hbytes.1)

theorem mem_finish {x : Option Char} (hx : x ∈ r.finish) : x ∈ r.read ∨ x = none := by
  unfold finish at hx
  rw [List.mem_reverse] at hx
  split at hx
  next => exact Or.inl hx
  next => exact (List.mem_cons.mp hx).symm

end Reader

/-- An ASCII character in the text is a byte of the same value in the data. -/
theorem stems_of_mem_decodeLossy {bytes : List UInt8} {c : Char} (hc : c ∈ decodeLossy bytes) :
    Stems (· ∈ bytes) c := by
  have hsound : (bytes.foldl Reader.feed Reader.start).Sound (· ∈ bytes) :=
    Reader.Sound.foldl_feed (fun b hb => hb)
      ⟨fun c hc => absurd hc List.not_mem_nil, fun o ho => nomatch ho⟩
  obtain ⟨x, hx, rfl⟩ := List.mem_map.mp hc
  rcases Reader.mem_finish hx with hread | rfl
  · cases x with
    | none => exact Or.inl (by decide)
    | some c => exact hsound.read c hread
  · exact Or.inl (by decide)

/-- Data without a byte zero has a text without NUL. -/
theorem nul_not_mem_decodeLossy {bytes : List UInt8} (hbytes : 0 ∉ bytes) :
    '\x00' ∉ decodeLossy bytes := by
  intro hc
  rcases stems_of_mem_decodeLossy hc with habove | ⟨b, hb, hvalue⟩
  · exact absurd habove (by decide)
  · exact hbytes (UInt8.toNat_inj.mp (show b.toNat = (0 : UInt8).toNat from hvalue) ▸ hb)

/-! ## The first character -/

namespace Reader

theorem suffix_beginWith (read : List (Option Char)) (b : UInt8) :
    read <:+ (beginWith read b).read := by
  unfold beginWith
  split
  · exact List.suffix_cons _ _
  · exact List.suffix_refl _
  · exact List.suffix_cons _ _

/-- A byte leaves what was read before it. -/
theorem suffix_feed (r : Reader) (b : UInt8) : r.read <:+ (feed r b).read := by
  obtain ⟨read, opened⟩ := r
  cases opened with
  | none => exact suffix_beginWith read b
  | some o =>
  rw [feed_open]
  split
  · split
    · exact List.suffix_cons _ _
    · exact List.suffix_refl _
  · exact (List.suffix_cons _ _).trans (suffix_beginWith _ b)

theorem prefix_finish (r : Reader) (bytes : List UInt8) :
    r.read.reverse <+: (bytes.foldl feed r).finish := by
  induction bytes generalizing r with
  | nil =>
      unfold finish
      rw [List.foldl_nil, List.reverse_prefix]
      split
      · exact List.suffix_refl _
      · exact List.suffix_cons _ _
  | cons b bytes ih => exact (List.reverse_prefix.mpr (suffix_feed r b)).trans (ih (feed r b))

/-- What was read first stays in front. -/
theorem finish_of_singleton {r : Reader} {x : Option Char} (hr : r.read = [x])
    (bytes : List UInt8) : ∃ rest, (bytes.foldl feed r).finish = x :: rest := by
  obtain ⟨rest, hrest⟩ := prefix_finish r bytes
  rw [hr] at hrest
  exact ⟨rest, hrest.symm⟩

/-- The character of an open sequence comes first, and a malformed part if it comes to none. -/
theorem finish_of_open {o : Open} (ho : o.Sound) (bytes : List UInt8) :
    ∃ x rest, (bytes.foldl feed ⟨[], some o⟩).finish = x :: rest ∧
      ∀ c, x = some c → 0x80 ≤ c.toNat := by
  induction bytes generalizing o with
  | nil => exact ⟨none, [], rfl, fun c hc => nomatch hc⟩
  | cons b bytes ih =>
      rw [List.foldl_cons, feed_open]
      split
      next hwithin =>
        split
        next hlast =>
          obtain ⟨rest, hrest⟩ := finish_of_singleton (x := some (Char.ofNat (o.next b).bits))
            (r := ⟨[_], none⟩) rfl bytes
          refine ⟨_, rest, hrest, fun c hc => ?_⟩
          rw [← Option.some.inj hc]
          exact ho.close hlast hwithin.1 hwithin.2
        next hlast => exact ih (ho.next (Nat.lt_of_not_le hlast) hwithin.1 hwithin.2)
      next =>
        -- The byte may begin a character of its own, but behind the malformed part.
        obtain ⟨rest, hrest⟩ := prefix_finish (beginWith [none] b) bytes
        obtain ⟨more, hmore⟩ := suffix_beginWith [none] b
        rw [← hmore, List.reverse_append] at hrest
        exact ⟨none, more.reverse ++ rest, hrest.symm, fun c hc => nomatch hc⟩

end Reader

/-- The character that a text begins with is the first byte of the data if that is in the ASCII
range, and above that range otherwise. -/
def BeginsAs (c : Char) (b : UInt8) : Prop :=
  if b.toNat < 0x80 then c.toNat = b.toNat else 0x80 ≤ c.toNat

/-- A text begins with an ASCII character exactly if the data begins with the byte of it. -/
theorem BeginsAs.toNat_eq_iff {c : Char} {b : UInt8} (h : BeginsAs c b) {n : Nat} (hn : n < 0x80) :
    c.toNat = n ↔ b.toNat = n := by
  unfold BeginsAs at h
  split at h <;> omega

/-- Data that is not empty has a text that is not empty. -/
theorem decodeLossy_cons (b : UInt8) (bytes : List UInt8) :
    ∃ c cs, decodeLossy (b :: bytes) = c :: cs ∧ BeginsAs c b := by
  unfold decodeLossy scan
  rw [List.foldl_cons]
  cases hopening : opening b with
  | whole c =>
      obtain ⟨hascii, hvalue⟩ := toNat_of_opening hopening
      rw [Reader.start, Reader.feed_whole hopening]
      obtain ⟨rest, hrest⟩ := Reader.finish_of_singleton (x := some c) (r := ⟨[_], none⟩) rfl bytes
      rw [hrest]
      exact ⟨c, _, rfl, by rwa [BeginsAs, if_pos hascii]⟩
  | sequence o =>
      have habove : ¬ b.toNat < 0x80 := not_ascii_of_opening fun c => by rw [hopening]; simp
      rw [Reader.start, Reader.feed_sequence hopening]
      obtain ⟨x, rest, hrest, hx⟩ := Reader.finish_of_open (sound_of_opening hopening) bytes
      rw [hrest]
      refine ⟨_, _, rfl, ?_⟩
      rw [BeginsAs, if_neg habove]
      cases x with
      | none => decide
      | some c => exact hx c rfl
  | stray =>
      have habove : ¬ b.toNat < 0x80 := not_ascii_of_opening fun c => by rw [hopening]; simp
      rw [Reader.start, Reader.feed_stray hopening]
      obtain ⟨rest, hrest⟩ := Reader.finish_of_singleton (x := none) (r := ⟨[_], none⟩) rfl bytes
      rw [hrest]
      refine ⟨_, _, rfl, ?_⟩
      rw [BeginsAs, if_neg habove]
      decide

end HostFlash.Text.Utf8
