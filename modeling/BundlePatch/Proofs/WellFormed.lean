import BundlePatch.Proofs.Encoding

/-!
# Proofs/WellFormed — the bytes that are a text

Bytes are **well formed** when they are spellings of characters one after the other: one to four
bytes each, in the shortest form, and of code points that are characters (`Utf8.WellFormed`).
Reading accepts exactly these (`Utf8.exists_decode_iff`), and it undoes writing and is undone by it
(`Utf8.decode_eq_ok_iff`).
-/

namespace BundlePatch.Utf8

variable {bits taken more : Nat} {low high b : UInt8} {first bytes : List UInt8} {s : Text}

/-! ## Spellings -/

/-- A byte that may **continue** a character. -/
def Continues (b : UInt8) : Prop := 0x80 ≤ b ∧ b ≤ 0xBF

/-- The bytes of **one character**.  The last two conditions on three and on four bytes shut out the
longer forms of what has a shorter one, the surrogates, and code points beyond the last. -/
inductive Spelling : List UInt8 → Prop
  | one {a : UInt8} (ha : a ≤ 0x7F) : Spelling [a]
  | two {a b : UInt8} (ha : 0xC2 ≤ a) (ha' : a ≤ 0xDF) (hb : Continues b) : Spelling [a, b]
  | three {a b c : UInt8} (ha : 0xE0 ≤ a) (ha' : a ≤ 0xEF) (hb : Continues b) (hc : Continues c)
      (hshort : a = 0xE0 → 0xA0 ≤ b) (hsurrogate : a = 0xED → b ≤ 0x9F) : Spelling [a, b, c]
  | four {a b c d : UInt8} (ha : 0xF0 ≤ a) (ha' : a ≤ 0xF4) (hb : Continues b) (hc : Continues c)
      (hd : Continues d) (hshort : a = 0xF0 → 0x90 ≤ b) (hlast : a = 0xF4 → b ≤ 0x8F) :
      Spelling [a, b, c, d]

/-- **Well-formed bytes**: spellings one after the other. -/
inductive WellFormed : List UInt8 → Prop
  | nil : WellFormed []
  | cons {first rest : List UInt8} : Spelling first → WellFormed rest → WellFormed (first ++ rest)

theorem continues_digit (n : Nat) : Continues (UInt8.ofNat (n % 64 + 0x80)) := by
  simp only [Continues, UInt8.le_iff_toNat_le, UInt8.toNat_ofNat', UInt8.reduceToNat]
  omega

/-- A character is written as **a spelling**. -/
theorem spelling_utf8EncodeChar (c : Char) : Spelling (String.utf8EncodeChar c) := by
  have hvalid : c.val.toNat < 0xD800 ∨ 0xDFFF < c.val.toNat ∧ c.val.toNat < 0x110000 := c.valid
  rw [String.utf8EncodeChar]
  generalize c.val.toNat = n at hvalid ⊢
  split
  next h1 =>
    refine .one ?_
    simp only [UInt8.le_iff_toNat_le, UInt8.toNat_ofNat', UInt8.reduceToNat]
    omega
  next h1 =>
  split
  next h2 =>
    refine .two ?_ ?_ (continues_digit n) <;>
      simp only [UInt8.le_iff_toNat_le, UInt8.toNat_ofNat', UInt8.reduceToNat] <;> omega
  next h2 =>
  split
  next h3 =>
    refine .three ?_ ?_ (continues_digit _) (continues_digit n) ?_ ?_ <;>
      simp only [UInt8.le_iff_toNat_le, UInt8.toNat_ofNat', UInt8.reduceToNat,
        ← UInt8.toNat_inj] <;> omega
  next h3 =>
    refine .four ?_ ?_ (continues_digit _) (continues_digit _) (continues_digit n) ?_ ?_ <;>
      simp only [UInt8.le_iff_toNat_le, UInt8.toNat_ofNat', UInt8.reduceToNat,
        ← UInt8.toNat_inj] <;> omega

theorem wellFormed_encode (s : Text) : WellFormed (encode s) := by
  induction s with
  | nil => exact .nil
  | cons c s ih =>
    rw [encode, List.flatMap_cons]
    exact .cons (spelling_utf8EncodeChar c) ih

/-! ## Reading well-formed bytes -/

/-- A continuation byte within its bounds **is taken**. -/
theorem continued_cons (hlow : low ≤ b) (hhigh : b ≤ high) :
    continued bits taken (more + 1) low high (b :: bytes) =
      continued (bits * 64 + (b.toNat - 0x80)) (taken + 1) more 0x80 0xBF bytes := by
  rw [continued, if_pos (by simp [hlow, hhigh])]

/-- The first byte of a spelling **announces the others**, and they are as announced. -/
theorem Spelling.exists_lead (h : Spelling first) (bytes : List UInt8) :
    ∃ a rest lead n, first = a :: rest ∧ lead? a = some lead ∧ lead.more = rest.length ∧
      continued lead.bits 1 lead.more lead.low lead.high (rest ++ bytes) = .ok n := by
  cases h with
  | @one a ha =>
    simp only [UInt8.le_iff_toNat_le, UInt8.reduceToNat] at ha
    refine ⟨a, [], ⟨a.toNat, 0, 0x80, 0xBF⟩, _, rfl, ?_, rfl, rfl⟩
    rw [lead?, if_pos (UInt8.lt_iff_toNat_lt.2 (Nat.lt_succ_of_le ha))]
  | @two a b ha ha' hb =>
    simp only [UInt8.le_iff_toNat_le, UInt8.reduceToNat] at ha ha'
    refine ⟨a, [b], ⟨a.toNat - 0xC0, 1, 0x80, 0xBF⟩, _, rfl, ?_, rfl, continued_cons hb.1 hb.2⟩
    simp only [lead?, UInt8.lt_iff_toNat_lt, UInt8.reduceToNat]
    rw [if_neg (by omega), if_neg (by omega), if_pos (by omega)]
  | @three a b c ha ha' hb hc hshort hsurrogate =>
    have hlow : (if a = 0xE0 then 0xA0 else 0x80) ≤ b :=
      iteInduction (motive := (· ≤ b)) hshort fun _ => hb.1
    have hhigh : b ≤ if a = 0xED then 0x9F else 0xBF :=
      iteInduction (motive := (b ≤ ·)) hsurrogate fun _ => hb.2
    simp only [UInt8.le_iff_toNat_le, UInt8.reduceToNat] at ha ha'
    refine ⟨a, [b, c], ⟨a.toNat - 0xE0, 2, if a = 0xE0 then 0xA0 else 0x80,
      if a = 0xED then 0x9F else 0xBF⟩, _, rfl, ?_, rfl,
      (continued_cons hlow hhigh).trans (continued_cons hc.1 hc.2)⟩
    simp only [lead?, UInt8.lt_iff_toNat_lt, UInt8.reduceToNat]
    rw [if_neg (by omega), if_neg (by omega), if_neg (by omega), if_pos (by omega)]
  | @four a b c d ha ha' hb hc hd hshort hlast =>
    have hlow : (if a = 0xF0 then 0x90 else 0x80) ≤ b :=
      iteInduction (motive := (· ≤ b)) hshort fun _ => hb.1
    have hhigh : b ≤ if a = 0xF4 then 0x8F else 0xBF :=
      iteInduction (motive := (b ≤ ·)) hlast fun _ => hb.2
    simp only [UInt8.le_iff_toNat_le, UInt8.reduceToNat] at ha ha'
    refine ⟨a, [b, c, d], ⟨a.toNat - 0xF0, 3, if a = 0xF0 then 0x90 else 0x80,
      if a = 0xF4 then 0x8F else 0xBF⟩, _, rfl, ?_, rfl,
      (continued_cons hlow hhigh).trans
        ((continued_cons hc.1 hc.2).trans (continued_cons hd.1 hd.2))⟩
    simp only [lead?, UInt8.lt_iff_toNat_lt, UInt8.reduceToNat]
    rw [if_neg (by omega), if_neg (by omega), if_neg (by omega), if_neg (by omega),
      if_pos (by omega)]

theorem WellFormed.exists_decodeFrom (h : WellFormed bytes) (position : Nat) (read : Text) :
    ∃ s, decodeFrom position read bytes = .ok s := by
  induction h generalizing position read with
  | nil => exact ⟨read.reverse, by rw [decodeFrom]⟩
  | @cons first rest hfirst _ ih =>
    obtain ⟨a, others, lead, n, rfl, hlead, hmore, hn⟩ := hfirst.exists_lead rest
    have hscalar : scalar a (others ++ rest) = .ok (Char.ofNat n, others.length) := by
      rw [scalar, hlead, ← hmore]
      dsimp only
      rw [hn]
      rfl
    obtain ⟨s, hs⟩ := ih (position + 1 + others.length) (Char.ofNat n :: read)
    refine ⟨s, ?_⟩
    rw [List.cons_append, decodeFrom, hscalar]
    dsimp only
    rwa [List.drop_left]

/-- Texts with the same bytes **are the same**. -/
theorem encode_injective : Function.Injective encode := by
  intro s t h
  have hbytes : (String.ofList s).toByteArray = (String.ofList t).toByteArray := by
    rw [String.toByteArray_ofList, String.toByteArray_ofList, List.utf8Encode, List.utf8Encode]
    exact congrArg _ h
  exact String.ofList_injective (String.toByteArray_inj.1 hbytes)

/-- **Reading undoes writing, and only it**: the text of the bytes is the one that has them. -/
theorem decode_eq_ok_iff : decode bytes = .ok s ↔ encode s = bytes := by
  refine ⟨encode_of_decode, ?_⟩
  rintro rfl
  obtain ⟨t, ht⟩ := (wellFormed_encode s).exists_decodeFrom 0 []
  obtain rfl := encode_injective (encode_of_decode ht)
  exact ht

/-- **The well-formed bytes** are read, no others. -/
theorem exists_decode_iff : (∃ s, decode bytes = .ok s) ↔ WellFormed bytes := by
  constructor
  · rintro ⟨s, hs⟩
    exact encode_of_decode hs ▸ wellFormed_encode s
  · exact fun h => h.exists_decodeFrom 0 []

/-- A surrogate, the long form of a slash, and a character that is cut off. -/
example : (decode [0xED, 0xA0, 0x80]).toOption = none ∧ (decode [0xC0, 0xAF]).toOption = none ∧
    (decode [0xE2, 0x82]).toOption = none := by decide +kernel

end BundlePatch.Utf8
