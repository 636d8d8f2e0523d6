import BundlePatch.Proofs.Nesting

/-!
# Proofs/Delimiters — the two searches for a delimiter are inverse to each other

Delimiters are texts, and the searches compare them with single characters: one that is longer, or
empty, stands nowhere.  Marking where each of the two stands (`marked`) turns a text into one with a
pair of braces, and the searches for any two delimiters into the search for these
(`unmatched_map`).  So either search finds **the other end of a well nested stretch**
(`Scanner.findClosing_delimiters`, `Scanner.findOpening_delimiters`), and each leads back to where
the other started (`Scanner.inverse`).
-/

namespace BundlePatch

variable {opening closing source s : Text}

/-! ## Delimiters in a text -/

/-- A delimiter **stands at** a position of a text. -/
def StandsAt (delimiter s : Text) (i : Nat) : Prop := ∃ x, delimiter = [x] ∧ s[i]? = some x

/-- **Well nested** delimiters: no beginning closes more of them than it opens, and the whole closes
what it opens. -/
def Paired (opening closing s : Text) : Prop :=
  (∀ w, w <+: s → w.countP ([·] = closing) ≤ w.countP ([·] = opening)) ∧
    s.countP ([·] = opening) = s.countP ([·] = closing)

/-- A closing delimiter, told apart from the opening one, stands at `k` **behind a well nested
stretch** that starts at `i`. -/
structure Scanner.Closes (opening closing source : Text) (i k : Nat) : Prop where
  le : i ≤ k
  ne : opening ≠ closing
  standsAt : StandsAt closing source k
  paired : Paired opening closing (source.slice i k)

/-- An opening delimiter stands at `k` **in front of a well nested stretch** that ends at `c`. -/
structure Scanner.Opens (opening closing source : Text) (k c : Nat) : Prop where
  lt : k < c
  ne : opening ≠ closing
  standsAt : StandsAt opening source k
  paired : Paired opening closing (source.slice (k + 1 : Nat) c)

/-- The brace that **marks** a character which is one of the delimiters. -/
def marked (opening closing : Text) (x : Char) : Char :=
  if [x] = opening then '{' else if [x] = closing then '}' else ' '

theorem marked_eq_opening_iff {x : Char} : marked opening closing x = '{' ↔ [x] = opening := by
  unfold marked
  split_ifs <;> simp_all

theorem marked_eq_closing_iff (hne : opening ≠ closing) {x : Char} :
    marked opening closing x = '}' ↔ [x] = closing := by
  unfold marked
  split_ifs with hopening <;> simp_all

/-- A search depends only on **where its delimiters stand**. -/
theorem unmatched_map {nest target : Text} {a b : Char} {f : Char → Char}
    (ha : ∀ x, f x = a ↔ [x] = nest) (hb : ∀ x, f x = b ↔ [x] = target) (d offset : Nat) :
    unmatched nest target d offset s = unmatched [a] [b] d offset (s.map f) := by
  induction s generalizing d offset with
  | nil => rfl
  | cons x s ih =>
    simp only [unmatched, List.map_cons, List.cons.injEq, and_true, ha, hb, ih]

/-- Delimiters that are alike **only open**. -/
theorem unmatched_self (delimiter : Text) (d offset : Nat) :
    unmatched delimiter delimiter d offset s = none := by
  induction s generalizing d offset with
  | nil => rfl
  | cons x s ih =>
    simp only [unmatched, ih]
    split_ifs <;> rfl

theorem count_map {d : Text} {a : Char} {f : Char → Char} (ha : ∀ x, f x = a ↔ [x] = d)
    (s : Text) : (s.map f).count a = s.countP ([·] = d) := by
  rw [List.count, List.countP_map]
  exact List.countP_congr fun x _ => by simp [ha]

theorem paired_iff_nested (hne : opening ≠ closing) :
    Paired opening closing s ↔ Nested '{' '}' (s.map (marked opening closing)) := by
  have hopening := count_map (fun x => @marked_eq_opening_iff opening closing x)
  have hclosing := count_map (fun x => @marked_eq_closing_iff opening closing hne x)
  simp only [Paired, Nested, List.prefix_map_iff, hopening, hclosing]
  constructor
  · rintro ⟨h, htotal⟩
    refine ⟨?_, htotal⟩
    rintro w ⟨u, hu, rfl⟩
    rw [hopening, hclosing]
    exact h u hu
  · rintro ⟨h, htotal⟩
    refine ⟨fun w hw => ?_, htotal⟩
    have := h (w.map (marked opening closing)) ⟨w, hw, rfl⟩
    rwa [hopening, hclosing] at this

/-! ## What the searches find -/

/-- A text is cut at a character **by the position** of the character. -/
theorem exists_cut_iff {P : Text → Text → Prop} {d : Char} {n : Nat} :
    (∃ u v, s = u ++ d :: v ∧ P u v ∧ n = u.length) ↔
      s[n]? = some d ∧ P (s.take n) (s.drop (n + 1)) := by
  constructor
  · rintro ⟨u, v, rfl, hP, rfl⟩
    simpa using hP
  · rintro ⟨hd, hP⟩
    obtain ⟨hn, rfl⟩ := List.getElem?_eq_some_iff.1 hd
    exact ⟨_, _, by simp, hP, (List.length_take_of_le (Nat.le_of_lt hn)).symm⟩

/-- A marked position is one where **the delimiter stands**. -/
theorem getElem?_map_eq_some_iff {delimiter : Text} {a : Char} {f : Char → Char} {i : Nat}
    (ha : ∀ x, f x = a ↔ [x] = delimiter) : (s.map f)[i]? = some a ↔ StandsAt delimiter s i := by
  simp only [List.getElem?_map, Option.map_eq_some_iff, ha, StandsAt]
  grind

theorem StandsAt.lt_length {delimiter : Text} {i : Nat} (h : StandsAt delimiter s i) :
    i < s.length := by
  obtain ⟨x, -, hx⟩ := h
  exact (List.getElem?_eq_some_iff.1 hx).1

/-- Marked, the text from a position on is cut at a closing brace **where a stretch is closed**. -/
theorem cut_closes_iff (hne : opening ≠ closing) {i k : Nat} :
    (∃ w v, (source.drop i).map (marked opening closing) = w ++ '}' :: v ∧ Nested '{' '}' w ∧
      k = w.length) ↔ Scanner.Closes opening closing source i (i + k) := by
  have hstands : StandsAt closing (source.drop i) k ↔ StandsAt closing source (i + k) := by
    simp only [StandsAt, List.getElem?_drop]
  have hslice : i + k ≤ source.length →
      source.slice i (i + k : Nat) = (source.drop i).take k := fun h => by
    rw [Text.slice_of_le (Nat.le_add_right i k) h, Nat.add_sub_cancel_left]
  rw [exists_cut_iff (P := fun w _ => Nested '{' '}' w),
    getElem?_map_eq_some_iff (fun _ => marked_eq_closing_iff hne), hstands, ← List.map_take,
    ← paired_iff_nested hne]
  constructor
  · rintro ⟨hc, hpaired⟩
    exact ⟨Nat.le_add_right i k, hne, hc, hslice hc.lt_length.le ▸ hpaired⟩
  · rintro ⟨-, -, hc, hpaired⟩
    exact ⟨hc, hslice hc.lt_length.le ▸ hpaired⟩

/-- Marked, the text up to a position is cut at an opening brace **where a stretch is opened**. -/
theorem cut_opens_iff (hne : opening ≠ closing) {c k : Nat} (hc : c ≤ source.length) :
    (∃ u w, (source.take c).map (marked opening closing) = u ++ '{' :: w ∧ Nested '{' '}' w ∧
      k = u.length) ↔ Scanner.Opens opening closing source k c := by
  have hstands (hk : k < c) : StandsAt opening (source.take c) k ↔ StandsAt opening source k := by
    simp only [StandsAt, List.getElem?_take_of_lt hk]
  have hslice (hk : k < c) : source.slice (k + 1 : Nat) c = (source.take c).drop (k + 1) := by
    rw [Text.slice_of_le hk hc, List.drop_take]
  rw [exists_cut_iff (P := fun _ w => Nested '{' '}' w),
    getElem?_map_eq_some_iff (fun _ => marked_eq_opening_iff), ← List.map_drop,
    ← paired_iff_nested hne]
  constructor
  · rintro ⟨hk, hpaired⟩
    have hlt := hk.lt_length.trans_le (List.length_take_le c source)
    exact ⟨hlt, hne, (hstands hlt).1 hk, hslice hlt ▸ hpaired⟩
  · rintro ⟨hlt, -, hk, hpaired⟩
    exact ⟨(hstands hlt).2 hk, hslice hlt ▸ hpaired⟩

/-- Forwards, a search finds what **closes** a stretch. -/
theorem unmatched_drop_iff {i k : Nat} :
    unmatched opening closing 0 0 (source.drop i) = some k ↔
      Scanner.Closes opening closing source i (i + k) := by
  by_cases hne : opening = closing
  · subst hne
    rw [unmatched_self]
    exact ⟨nofun, fun h => absurd rfl h.ne⟩
  rw [unmatched_map (fun _ => marked_eq_opening_iff) (fun _ => marked_eq_closing_iff hne),
    unmatched_eq_some_iff (by decide), cut_closes_iff hne]

/-- Backwards, a search finds what **opens** one. -/
theorem unmatched_take_iff {c j : Nat} (hc : c ≤ source.length) :
    unmatched closing opening 0 0 (source.take c).reverse = some j ↔
      ∃ k, k + 1 + j = c ∧ Scanner.Opens opening closing source k c := by
  by_cases hne : opening = closing
  · subst hne
    rw [unmatched_self]
    exact ⟨nofun, fun ⟨k, _, h⟩ => absurd rfl h.ne⟩
  have hlength {u w : Text} (hs : (source.take c).map (marked opening closing) = u ++ '{' :: w) :
      c = u.length + 1 + w.length := by
    have hlen := congrArg List.length hs
    rw [List.length_map, List.length_take_of_le hc, List.length_append, List.length_cons] at hlen
    omega
  rw [unmatched_map (fun _ => marked_eq_closing_iff hne) (fun _ => marked_eq_opening_iff),
    List.map_reverse, unmatched_reverse_eq_some_iff (by decide)]
  constructor
  · rintro ⟨u, w, hs, hw, rfl⟩
    exact ⟨u.length, (hlength hs).symm, (cut_opens_iff hne hc).1 ⟨u, w, hs, hw, rfl⟩⟩
  · rintro ⟨k, hk, hopens⟩
    obtain ⟨u, w, hs, hw, rfl⟩ := (cut_opens_iff hne hc).2 hopens
    have := hlength hs
    exact ⟨u, w, hs, hw, by omega⟩

namespace Scanner

theorem findClosing_eq (opening closing source : Text) (i : Nat) :
    ({ opening := opening, closing := closing } : Scanner).findClosing source i =
      match unmatched opening closing 0 0 (source.drop i) with
      | none => .error .closingMissing
      | some j => .ok (i + j : Nat) := by
  rw [findClosing, if_neg (by omega)]
  dsimp only
  rw [if_neg (by omega), Int.toNat_natCast]
  split <;> simp_all

/-- The closing delimiter that is found **closes the stretch** from the position on. -/
theorem findClosing_delimiters {i : Nat} {c : Int} :
    ({ opening := opening, closing := closing } : Scanner).findClosing source i = .ok c ↔
      ∃ k : Nat, c = k ∧ Closes opening closing source i k := by
  rw [findClosing_eq]
  constructor
  · intro h
    split at h
    · cases h
    · next j hfound =>
      obtain rfl := Except.ok.inj h
      exact ⟨i + j, rfl, unmatched_drop_iff.1 hfound⟩
  · rintro ⟨k, rfl, hk⟩
    obtain ⟨j, rfl⟩ := Nat.exists_eq_add_of_le hk.le
    rw [unmatched_drop_iff.2 hk]

/-- A search that does not find one **says so**. -/
theorem findClosing_delimiters_error {i : Nat} :
    ({ opening := opening, closing := closing } : Scanner).findClosing source i =
        .error .closingMissing ↔ ¬ ∃ k, Closes opening closing source i k := by
  constructor
  · rintro h ⟨k, hk⟩
    cases h.symm.trans (findClosing_delimiters.2 ⟨k, rfl, hk⟩)
  · intro hnone
    rw [findClosing_eq]
    split
    · rfl
    · next j hfound => exact absurd ⟨_, unmatched_drop_iff.1 hfound⟩ hnone

/-- The opening delimiter that is found **opens the stretch** up to the position. -/
theorem findOpening_delimiters {c : Nat} (hc : c ≤ source.length) {o : Int} :
    ({ opening := opening, closing := closing } : Scanner).findOpening source c = .ok o ↔
      ∃ k : Nat, o = k ∧ Opens opening closing source k c := by
  rw [findOpening, if_neg (by omega)]
  dsimp only
  rw [Int.toNat_natCast]
  constructor
  · intro h
    split at h
    · cases h
    · next j hfound =>
      obtain ⟨k, hk, hopens⟩ := (unmatched_take_iff hc).1 hfound
      obtain rfl := Except.ok.inj h
      exact ⟨k, by omega, hopens⟩
  · rintro ⟨k, rfl, hopens⟩
    have hlt := hopens.lt
    rw [(unmatched_take_iff (j := c - 1 - k) hc).2 ⟨k, by omega, hopens⟩]
    exact congrArg Except.ok (by omega)

/-! ## There and back -/

/-- What closes the stretch behind an opening delimiter is **opened by it**, and the other way
round. -/
theorem closes_succ_iff {o c : Nat} (ho : StandsAt opening source o)
    (hc : StandsAt closing source c) :
    Closes opening closing source (o + 1) c ↔ Opens opening closing source o c :=
  ⟨fun h => ⟨h.le, h.ne, ho, h.paired⟩, fun h => ⟨h.lt, h.ne, hc, h.paired⟩⟩

/-- **The two searches are inverse to each other**, for any two delimiters.  Forwards, what is found
is the closing delimiter behind a well nested stretch, and nothing is found exactly if there is
none.  From a closing delimiter, the search backwards leads to the opening one from which the search
forwards leads back to it, and from an opening delimiter the same. -/
theorem inverse (opening closing source : Text) :
    let scanner : Scanner := { opening := opening, closing := closing }
    (∀ (i : Nat) (c : Int), scanner.findClosing source i = .ok c ↔
      ∃ k : Nat, c = k ∧ Closes opening closing source i k) ∧
    (∀ i : Nat, scanner.findClosing source i = .error .closingMissing ↔
      ¬ ∃ k, Closes opening closing source i k) ∧
    (∀ (c : Nat) (o : Int), StandsAt closing source c → scanner.findOpening source c = .ok o →
      ∃ k : Nat, o = k ∧ StandsAt opening source k ∧
        scanner.findClosing source (k + 1 : Nat) = .ok c) ∧
    ∀ (o : Nat) (c : Int), StandsAt opening source o →
      scanner.findClosing source (o + 1 : Nat) = .ok c → scanner.findOpening source c = .ok o := by
  refine ⟨fun i c => findClosing_delimiters, fun i => findClosing_delimiters_error,
    fun c o hc h => ?_, fun o c ho h => ?_⟩
  · obtain ⟨k, rfl, hk⟩ := (findOpening_delimiters hc.lt_length.le).1 h
    exact ⟨k, rfl, hk.standsAt,
      findClosing_delimiters.2 ⟨c, rfl, (closes_succ_iff hk.standsAt hc).2 hk⟩⟩
  · obtain ⟨k, rfl, hk⟩ := findClosing_delimiters.1 h
    exact (findOpening_delimiters hk.standsAt.lt_length.le).2
      ⟨o, rfl, (closes_succ_iff ho hk.standsAt).1 hk⟩

/-- The parentheses of a call, and **one that is left open** behind it. -/
theorem inverse_call :
    Closes ['('] [')'] "f(a(b)c)(".toList 2 7 ∧
    ({ opening := ['('], closing := [')'] } : Scanner).findOpening "f(a(b)c)(".toList 7 = .ok 1 ∧
    (¬ ∃ k, Closes ['('] [')'] "f(a(b)c)(".toList 9 k) := by
  obtain ⟨hfound, hnone, -, hback⟩ := inverse ['('] [')'] "f(a(b)c)(".toList
  obtain ⟨k, hk, hcloses⟩ := (hfound 2 7).1 (by decide +kernel)
  obtain rfl : k = 7 := by omega
  exact ⟨hcloses, hback 1 7 ⟨'(', rfl, rfl⟩ (by decide +kernel), (hnone 9).1 (by decide +kernel)⟩

end Scanner

end BundlePatch
