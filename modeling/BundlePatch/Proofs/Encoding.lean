import BundlePatch.File.Utf8
import Mathlib.Algebra.Group.Nat.Defs

/-!
# Proofs/Encoding — reading bytes and writing them again

A reader takes a character off the bytes by its first byte, which announces how many follow, and
those, which are digits to the base 64.  The character that it gives **is written with the same
bytes** (`Utf8.encode_of_decode`): the bounds for the second byte shut out every other way to spell
a code point, and all that are none.
-/

namespace BundlePatch.Utf8

variable {bits taken more k n : Nat} {low high b : UInt8} {bytes : List UInt8} {c : Char} {s : Text}

/-! ## Bytes that continue a character -/

/-- The continuation bytes of a code point: its **last digits to the base 64**, the highest
first. -/
def trailing (n : Nat) : (more : Nat) → List UInt8
  | 0 => []
  | more + 1 => UInt8.ofNat (n / 64 ^ more % 64 + 0x80) :: trailing n more

/-- Continuation bytes that are read **are those of the code point**, and what was known of it
before are its digits in front. -/
theorem continued_eq_ok (hlow : 0x80 ≤ low.toNat) (hhigh : high.toNat ≤ 0xBF)
    (h : continued bits taken more low high bytes = .ok n) :
    bytes.take more = trailing n more ∧ n / 64 ^ more = bits := by
  induction more generalizing bits taken low high bytes with
  | zero =>
    obtain rfl : bits = n := by simpa [continued] using h
    simp [trailing]
  | succ more ih =>
    cases bytes with
    | nil => simp [continued] at h
    | cons b bytes =>
      rw [continued] at h
      split at h
      next hb =>
        simp only [Bool.and_eq_true, decide_eq_true_eq, UInt8.le_iff_toNat_le] at hb
        obtain ⟨htail, hbits⟩ := ih (by decide) (by decide) h
        have hdigit : n / 64 ^ more % 64 + 0x80 = b.toNat := by omega
        refine ⟨?_, ?_⟩
        · rw [List.take_succ_cons, htail, trailing, hdigit, UInt8.ofNat_toNat]
        · rw [Nat.pow_succ, ← Nat.div_div_eq_div_mul, hbits]
          omega
      next => cases h

/-- The first continuation byte keeps the code point **within its bounds**. -/
theorem continued_bounds (h : continued bits taken (more + 1) low high bytes = .ok n) :
    bits * 64 + (low.toNat - 0x80) ≤ n / 64 ^ more ∧
      n / 64 ^ more ≤ bits * 64 + (high.toNat - 0x80) := by
  cases bytes with
  | nil => simp [continued] at h
  | cons b bytes =>
    rw [continued] at h
    split at h
    next hb =>
      simp only [Bool.and_eq_true, decide_eq_true_eq, UInt8.le_iff_toNat_le] at hb
      obtain ⟨-, hbits⟩ := continued_eq_ok (by decide) (by decide) h
      omega
    next => cases h

theorem utf8EncodeChar_ofNat (h : n.isValidChar) : String.utf8EncodeChar (Char.ofNat n) =
    if n ≤ 0x7F then [UInt8.ofNat n]
    else if n ≤ 0x7FF then UInt8.ofNat (n / 64 % 32 + 0xC0) :: trailing n 1
    else if n ≤ 0xFFFF then UInt8.ofNat (n / 4096 % 16 + 0xE0) :: trailing n 2
    else UInt8.ofNat (n / 262144 % 8 + 0xF0) :: trailing n 3 := by
  have hval : (Char.ofNat n).val.toNat = n := by
    rw [Char.ofNat, dif_pos h]
    rfl
  simp only [String.utf8EncodeChar, hval, trailing, Nat.reducePow, Nat.div_one]

/-! ## First bytes -/

/-- What a first byte **announces**: its own bits, and bounds for the byte after it.  The bounds are
narrower where a shorter form, a surrogate or a code point beyond the last begins. -/
inductive Lead.Announces (b : UInt8) : Lead → Prop
  | one (hb : b.toNat < 0x80) : Announces b ⟨b.toNat, 0, 0x80, 0xBF⟩
  | two (hb : 0xC2 ≤ b.toNat ∧ b.toNat < 0xE0) : Announces b ⟨b.toNat - 0xC0, 1, 0x80, 0xBF⟩
  | three {low high : UInt8} (hb : 0xE0 ≤ b.toNat ∧ b.toNat < 0xF0) (hlow : 0x80 ≤ low.toNat)
      (hhigh : high.toNat ≤ 0xBF) (hover : b.toNat = 0xE0 → low.toNat = 0xA0)
      (hsurrogate : b.toNat = 0xED → high.toNat = 0x9F) :
      Announces b ⟨b.toNat - 0xE0, 2, low, high⟩
  | four {low high : UInt8} (hb : 0xF0 ≤ b.toNat ∧ b.toNat < 0xF5) (hlow : 0x80 ≤ low.toNat)
      (hhigh : high.toNat ≤ 0xBF) (hover : b.toNat = 0xF0 → low.toNat = 0x90)
      (hlast : b.toNat = 0xF4 → high.toNat = 0x8F) :
      Announces b ⟨b.toNat - 0xF0, 3, low, high⟩

theorem Lead.Announces.bounds {lead : Lead} (h : lead.Announces b) :
    0x80 ≤ lead.low.toNat ∧ lead.high.toNat ≤ 0xBF := by
  cases h with
  | one | two => exact ⟨Nat.le_refl _, Nat.le_refl _⟩
  | three _ hlow hhigh | four _ hlow hhigh => exact ⟨hlow, hhigh⟩

theorem announces_of_lead? {lead : Lead} (h : lead? b = some lead) : lead.Announces b := by
  rw [lead?] at h
  simp only [UInt8.lt_iff_toNat_lt, UInt8.reduceToNat] at h
  split at h
  next h1 =>
    obtain rfl := Option.some.inj h
    exact .one h1
  split at h
  next => cases h
  next h2 =>
  split at h
  next h3 =>
    obtain rfl := Option.some.inj h
    exact .two ⟨Nat.not_lt.1 h2, h3⟩
  split at h
  next h3 h4 =>
    obtain rfl := Option.some.inj h
    refine .three ⟨Nat.not_lt.1 h3, h4⟩ (by split <;> decide) (by split <;> decide) ?_ ?_
    · exact fun hb => by rw [if_pos (UInt8.toNat_inj.1 hb)]; rfl
    · exact fun hb => by rw [if_pos (UInt8.toNat_inj.1 hb)]; rfl
  split at h
  next h4 h5 =>
    obtain rfl := Option.some.inj h
    refine .four ⟨Nat.not_lt.1 h4, h5⟩ (by split <;> decide) (by split <;> decide) ?_ ?_
    · exact fun hb => by rw [if_pos (UInt8.toNat_inj.1 hb)]; rfl
    · exact fun hb => by rw [if_pos (UInt8.toNat_inj.1 hb)]; rfl
  next => cases h

/-! ## Characters and texts -/

/-- A character that is read has **the bytes** that it was read from. -/
theorem utf8EncodeChar_of_scalar (h : scalar b bytes = .ok (c, k)) :
    String.utf8EncodeChar c = b :: bytes.take k := by
  rw [scalar] at h
  split at h
  next => cases h
  next lead hlead =>
    have hlead := announces_of_lead? hlead
    cases hn : continued lead.bits 1 lead.more lead.low lead.high bytes with
    | error e =>
      rw [hn] at h
      cases h
    | ok n =>
      rw [hn] at h
      obtain ⟨rfl, rfl⟩ := Prod.mk.inj (Except.ok.inj h)
      obtain ⟨htail, htop⟩ := continued_eq_ok hlead.bounds.1 hlead.bounds.2 hn
      rw [htail]
      have hbyte (m : Nat) (hm : b.toNat = m) : UInt8.ofNat m = b := by rw [← hm, UInt8.ofNat_toNat]
      cases hlead with
      | one hb =>
        simp only [Nat.reducePow, Nat.div_one] at htop
        rw [utf8EncodeChar_ofNat (Or.inl (by omega)), if_pos (by omega), hbyte _ htop.symm,
          trailing]
      | two hb =>
        simp only [Nat.reducePow] at htop
        rw [utf8EncodeChar_ofNat (Or.inl (by omega)), if_neg (by omega), if_pos (by omega),
          hbyte _ (by omega)]
      | three hb _ _ hover hsurrogate =>
        have hbounds := continued_bounds hn
        simp only [Nat.reducePow] at htop hbounds
        have hvalid : n.isValidChar := by
          rw [Nat.isValidChar]
          omega
        rw [utf8EncodeChar_ofNat hvalid, if_neg (by omega), if_neg (by omega), if_pos (by omega),
          hbyte _ (by omega)]
      | four hb _ _ hover hlast =>
        have hbounds := continued_bounds hn
        simp only [Nat.reducePow] at htop hbounds
        have hvalid : n.isValidChar := by
          rw [Nat.isValidChar]
          omega
        rw [utf8EncodeChar_ofNat hvalid, if_neg (by omega), if_neg (by omega), if_neg (by omega),
          hbyte _ (by omega)]

theorem encode_of_decodeFrom {position : Nat} {read : Text}
    (h : decodeFrom position read bytes = .ok s) : encode s = encode read.reverse ++ bytes := by
  fun_induction decodeFrom position read bytes with
  | case1 position read =>
    obtain rfl := Except.ok.inj h
    rw [List.append_nil]
  | case2 position read b bytes n reason hb => cases h
  | case3 position read b bytes c n hb ih =>
    rw [ih h, List.reverse_cons, encode, encode, List.flatMap_append, List.append_assoc,
      List.flatMap_singleton, utf8EncodeChar_of_scalar hb, List.cons_append, List.take_append_drop]

/-- A text that is read from bytes **has these bytes**. -/
theorem encode_of_decode (h : decode bytes = .ok s) : encode s = bytes := encode_of_decodeFrom h

end BundlePatch.Utf8
