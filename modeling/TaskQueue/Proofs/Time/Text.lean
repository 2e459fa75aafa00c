import TaskQueue.Time.Rfc3339
import TaskQueue.Proofs.Instant
import TaskQueue.Proofs.Time.Civil

/-!
# RFC 3339 texts read back

An instant's text is read back as the instant: `parseLenient t.toText = some t` for every
valid instant, leap seconds and years of any sign included (`Instant.parseLenient_toText`),
and `parseStrict t.toOffsetText = some t` for those of the years 0 to 9999, the ones whose
year has four digits (`Instant.parseStrict_toOffsetText`); the text of any other year starts
with its sign, and RFC 3339 does not read it (`Instant.parseStrict_toOffsetText_of_year`).

The texts are read a field at a time.  A field is written by `padded`, digits with zeros in
front, and read back by `readNumber` up to the next character that is not a digit
(`readNumber_padded`); the fraction has 3, 6 or 9 digits (`fractionText_cases`) and reads
back as nanoseconds (`readFraction_padded`).  `parseLenient_text` and `parseStrict_text` step
through the readers over a text made of any fields in range, and give the stamp of those
fields; `Stamp.toInstant?_parts` takes the stamp an instant is written from back to the
instant, a leap second through its second 60.
-/

namespace TaskQueue.Time

/-! ### Digits -/

theorem isBlank_of_isDigit {c : Char} (h : c.isDigit = true) :
  Text.isBlank c = false
  := by
  simp only [Char.isDigit, Bool.and_eq_true, decide_eq_true_eq] at h
  have h1 : 48 ≤ c.toNat := h.1
  have h2 : c.toNat ≤ 57 := h.2
  simp only [Text.isBlank, Bool.or_eq_false_iff, Bool.and_eq_false_iff, decide_eq_false_iff_not, beq_eq_false_iff_ne]
  omega

theorem digitsValue_eq (ds : List Char) :
  digitsValue ds = Nat.ofDigitChars 10 ds 0
  := by
  unfold digitsValue Nat.ofDigitChars
  congr
  funext acc c
  rw [Nat.mul_comm]
  rfl

theorem toList_padded (w n : Nat) :
  (padded w n).toList = List.replicate (w - (Nat.toDigits 10 n).length) '0' ++ Nat.toDigits 10 n
  := by
  simp only [padded, String.toList_append, String.toList_ofList, Nat.toString_eq_repr,
    Nat.toList_repr, ← String.length_toList]

theorem isDigit_of_mem_padded {w n : Nat} {c : Char} (h : c ∈ (padded w n).toList) :
  c.isDigit = true
  := by
  rw [toList_padded, List.mem_append, List.mem_replicate] at h
  rcases h with ⟨-, rfl⟩ | h
  · rfl
  · exact Nat.isDigit_of_mem_toDigits (by decide) (by decide) h

theorem digitsValue_padded (w n : Nat) :
  digitsValue (padded w n).toList = n
  := by
  rw [digitsValue_eq, toList_padded, Nat.ofDigitChars_append, Nat.ofDigitChars_replicate_zero,
    Nat.mul_zero, Nat.ofDigitChars_ten_toDigits]

theorem length_padded {w n : Nat} (hw : 0 < w) (hn : n < 10 ^ w) :
  (padded w n).toList.length = w
  := by
  have hlen := (Nat.length_toDigits_le_iff (by decide) hw).2 hn
  rw [toList_padded, List.length_append, List.length_replicate]
  omega

/-! ### Reading fields -/

/-- Digits up to a character that is not one, or the end. -/
theorem takeWhile_take_digits {ds rest : List Char} {hi : Nat}
    (hd : ∀ d ∈ ds, d.isDigit = true) (hr : ∀ c ∈ rest.head?, c.isDigit = false)
    (hhi : ds.length ≤ hi) :
  ((ds ++ rest).take hi).takeWhile Char.isDigit = ds
  := by
  rw [List.take_append, List.take_of_length_le hhi, List.takeWhile_append_of_pos hd]
  cases rest with
  | nil => simp
  | cons c rest =>
    cases hi - ds.length with
    | zero => simp
    | succ k => simp [hr c rfl]

theorem readNumber_digits {ds rest : List Char} {lo hi : Nat}
    (hd : ∀ d ∈ ds, d.isDigit = true) (hr : ∀ c ∈ rest.head?, c.isDigit = false)
    (hlo : lo ≤ ds.length) (hhi : ds.length ≤ hi) :
  readNumber (ds ++ rest) lo hi = some (digitsValue ds, rest)
  := by
  unfold readNumber
  simp only [takeWhile_take_digits hd hr hhi]
  rw [if_neg (by omega), List.drop_left]

/-- A number cannot be read from text that starts with anything but a digit. -/
theorem readNumber_of_not_digit {c : Char} (hc : c.isDigit = false) (rest : List Char)
    {lo : Nat} (hi : Nat) (hlo : 0 < lo) :
  readNumber (c :: rest) lo hi = none
  := by
  unfold readNumber
  cases hi with
  | zero => simp [hlo]
  | succ n => simp [hc, hlo]

theorem readNumber_padded {w n lo hi : Nat} {c : Char} {rest : List Char} (hw : 0 < w)
    (hn : n < 10 ^ w) (hc : c.isDigit = false) (hlo : lo ≤ w) (hhi : w ≤ hi) :
  readNumber ((padded w n).toList ++ c :: rest) lo hi = some (n, c :: rest)
  := by
  rw [readNumber_digits (fun _ => isDigit_of_mem_padded) (by simp [hc])
    (by rw [length_padded hw hn]; exact hlo) (by rw [length_padded hw hn]; exact hhi),
    digitsValue_padded]

theorem dropBlank_cons {c : Char} (hc : Text.isBlank c = false) (rest : List Char) :
  dropBlank (c :: rest) = c :: rest
  := by
  simp [dropBlank, hc]

theorem dropBlank_nil :
  dropBlank [] = []
  := rfl

theorem dropBlank_padded (w n : Nat) (rest : List Char) :
  dropBlank ((padded w n).toList ++ rest) = (padded w n).toList ++ rest
  := by
  obtain ⟨d, ds, hds⟩ := List.exists_cons_of_ne_nil (by simp [toList_padded] : (padded w n).toList ≠ [])
  have hd : d.isDigit = true := isDigit_of_mem_padded (hds ▸ List.mem_cons_self)
  rw [hds, List.cons_append, dropBlank_cons (isBlank_of_isDigit hd)]

theorem readLenientNumber_padded {w n hi : Nat} {c : Char} {rest : List Char} (hw : 0 < w)
    (hn : n < 10 ^ w) (hc : c.isDigit = false) (hhi : w ≤ hi) :
  readLenientNumber ((padded w n).toList ++ c :: rest) hi = some (n, c :: rest)
  := by
  rw [readLenientNumber, dropBlank_padded, readNumber_padded hw hn hc hw hhi]

theorem expectChar_cons (c : Char) (rest : List Char) :
  expectChar c (c :: rest) = some rest
  := by
  simp [expectChar]

theorem expectLenient_cons {c : Char} (hc : Text.isBlank c = false) (rest : List Char) :
  expectLenient c (c :: rest) = some rest
  := by
  simp [expectLenient, dropBlank_cons hc, expectChar]

theorem readDateTimeSeparator_T (rest : List Char) :
  readDateTimeSeparator ('T' :: rest) = some rest
  := by
  simp [readDateTimeSeparator]

theorem dropWhile_digit {rest : List Char} (hr : ∀ c ∈ rest.head?, c.isDigit = false) :
  rest.dropWhile Char.isDigit = rest
  := by
  cases rest with
  | nil => rfl
  | cons c rest => simp [hr c rfl]

theorem readFraction_padded {k v : Nat} {c : Char} {rest : List Char} (hk : 0 < k) (hk9 : k ≤ 9)
    (hv : v < 10 ^ k) (hc : c.isDigit = false) :
  readFraction ((padded k v).toList ++ c :: rest) = some (v * 10 ^ (9 - k), c :: rest)
  := by
  have hr : ∀ d ∈ (c :: rest).head?, d.isDigit = false := by simp [hc]
  have hlen := length_padded hk hv
  have htake : (((padded k v).toList ++ c :: rest).take 9).takeWhile Char.isDigit =
      (padded k v).toList :=
    takeWhile_take_digits (fun _ => isDigit_of_mem_padded) hr (by omega)
  unfold readFraction
  rw [htake]
  simp only [hlen, digitsValue_padded, List.drop_left' hlen, dropWhile_digit hr, Nat.pow_eq]
  rw [if_neg (by omega)]

theorem fractionText_cases {n : Nat} (hn : n < nanosPerSecond) :
  (n = 0 ∧ fractionText n = "") ∨
    ∃ k v, 0 < k ∧ k ≤ 9 ∧ v < 10 ^ k ∧ v * 10 ^ (9 - k) = n ∧
      fractionText n = "." ++ padded k v
  := by
  unfold fractionText
  simp only [nanosPerSecond] at hn
  split_ifs with h0 h3 h6
  · exact Or.inl ⟨h0, rfl⟩
  · exact Or.inr ⟨3, n / 1000000, by decide, by decide, by simp; omega, by simp; omega, rfl⟩
  · exact Or.inr ⟨6, n / 1000, by decide, by decide, by simp; omega, by simp; omega, rfl⟩
  · exact Or.inr ⟨9, n, by decide, by decide, by simp; omega, by simp, rfl⟩

/-- A year outside 0 to 9999 is written from its sign. -/
theorem yearText_signed {y : Int} (hy : ¬(0 ≤ y ∧ y ≤ 9999)) :
  ∃ c rest, (yearText y).toList = c :: rest ∧ c.isDigit = false
  := by
  unfold yearText
  rw [if_neg hy]
  by_cases hneg : y < 0
  · exact ⟨'-', (padded 4 y.natAbs).toList, by simp [hneg], by decide⟩
  · exact ⟨'+', (padded 4 y.natAbs).toList, by simp [hneg], by decide⟩

theorem readLenientYear_yearText (y : Int) {c : Char} {rest : List Char}
    (hc : c.isDigit = false) :
  readLenientYear ((yearText y).toList ++ c :: rest) = some (y, c :: rest)
  := by
  have hr : ∀ d ∈ (c :: rest).head?, d.isDigit = false := by simp [hc]
  unfold yearText
  split_ifs with hy hneg
  · -- four digits and no sign
    obtain ⟨d, ds, hds⟩ := List.exists_cons_of_ne_nil
      (by simp [toList_padded] : (padded 4 y.toNat).toList ≠ [])
    have hd : d.isDigit = true := isDigit_of_mem_padded (hds ▸ List.mem_cons_self)
    rw [readLenientYear, dropBlank_padded, hds, List.cons_append]
    split
    · next h =>
      cases h
      exact absurd hd (by decide)
    · next h =>
      cases h
      exact absurd hd (by decide)
    · have hlt : y.toNat < 10 ^ 4 := by
        simp only [Nat.reducePow]
        omega
      rw [← List.cons_append, ← hds, readNumber_padded (by decide) hlt hc (by decide) (by decide)]
      simp only [Option.map_some, Int.toNat_of_nonneg hy.1]
  all_goals
    have hne : (padded 4 y.natAbs).toList ≠ [] := by simp [toList_padded]
    have hnum : readNumber ((padded 4 y.natAbs).toList ++ c :: rest) 1
        ((padded 4 y.natAbs).toList ++ c :: rest).length = some (y.natAbs, c :: rest) := by
      rw [readNumber_digits (fun _ => isDigit_of_mem_padded) hr (List.length_pos_iff.2 hne)
        (by rw [List.length_append]; omega), digitsValue_padded]
  · -- a negative year and its minus sign
    have hsign : ("-" : String).toList = ['-'] := rfl
    rw [String.toList_append, hsign, List.singleton_append, List.cons_append, readLenientYear,
      dropBlank_cons (by decide)]
    simp only [hnum, Option.map_some, Option.some.injEq, Prod.mk.injEq, and_true]
    omega
  · -- a year past 9999 and its plus sign
    have hsign : ("+" : String).toList = ['+'] := rfl
    rw [String.toList_append, hsign, List.singleton_append, List.cons_append, readLenientYear,
      dropBlank_cons (by decide)]
    simp only [hnum, Option.map_some, Option.some.injEq, Prod.mk.injEq, and_true]
    omega

/-- After the seconds comes the fraction, if any, then the offset: a character that does not
continue a number. -/
theorem fractionText_append_cons {n : Nat} (hn : n < nanosPerSecond) {c : Char} (rest : List Char)
    (hc : c.isDigit = false) :
  ∃ d tail, (fractionText n).toList ++ c :: rest = d :: tail ∧ d.isDigit = false
  := by
  rcases fractionText_cases hn with ⟨-, hft⟩ | ⟨k, v, -, -, -, -, hft⟩
  · exact ⟨c, rest, by simp [hft], hc⟩
  · exact ⟨'.', (padded k v).toList ++ c :: rest, by simp [hft], rfl⟩

/-! ### Whole texts -/

/-- A text made of fields in range, a `Z` last, reads as the stamp of the fields. -/
theorem parseLenient_text {y : Int} {m d h mi s n : Nat} (hm : m < 100) (hd : d < 100)
    (hh : h < 100) (hmi : mi < 100) (hs : s < 100) (hn : n < nanosPerSecond)
    (hy : -2147483648 ≤ y ∧ y ≤ 2147483647) :
  parseLenient (yearText y ++ "-" ++ padded 2 m ++ "-" ++ padded 2 d ++ "T" ++ padded 2 h ++ ":" ++
      padded 2 mi ++ ":" ++ padded 2 s ++ fractionText n ++ "Z") =
    Stamp.toInstant? ⟨y, m, d, h, mi, s, n, 0⟩
  := by
  have h2 : (0 : Nat) < 2 := by decide
  have hZd : Char.isDigit 'Z' = false := rfl
  have hbZ : Text.isBlank 'Z' = false := by decide
  obtain ⟨c, tail, htail, hc⟩ := fractionText_append_cons hn [] hZd
  have hlist : (yearText y ++ "-" ++ padded 2 m ++ "-" ++ padded 2 d ++ "T" ++ padded 2 h ++ ":" ++
      padded 2 mi ++ ":" ++ padded 2 s ++ fractionText n ++ "Z").toList = (yearText y).toList ++
        '-' :: ((padded 2 m).toList ++ '-' :: ((padded 2 d).toList ++ 'T' :: ((padded 2 h).toList ++
          ':' :: ((padded 2 mi).toList ++ ':' :: ((padded 2 s).toList ++ c :: tail))))) := by
    have hminus : ("-" : String).toList = ['-'] := rfl
    have hcolon : (":" : String).toList = [':'] := rfl
    have hT : ("T" : String).toList = ['T'] := rfl
    have hZ : ("Z" : String).toList = ['Z'] := rfl
    rw [← htail]
    simp only [String.toList_append, List.append_assoc, List.cons_append, List.nil_append, hminus,
      hcolon, hT, hZ]
  -- each field in turn, each bind then taking the value read
  unfold parseLenient
  rw [hlist, readLenientYear_yearText _ rfl]
  dsimp only [Option.bind_eq_bind, Option.bind_some]
  rw [expectLenient_cons (by decide)]
  dsimp only [Option.bind_some]
  rw [readLenientNumber_padded h2 hm rfl (Nat.le_refl 2)]
  dsimp only [Option.bind_some]
  rw [expectLenient_cons (by decide)]
  dsimp only [Option.bind_some]
  rw [readLenientNumber_padded h2 hd rfl (Nat.le_refl 2)]
  dsimp only [Option.bind_some]
  rw [readDateTimeSeparator_T]
  dsimp only [Option.bind_some]
  rw [readLenientNumber_padded h2 hh rfl (Nat.le_refl 2)]
  dsimp only [Option.bind_some]
  rw [expectLenient_cons (by decide)]
  dsimp only [Option.bind_some]
  rw [readLenientNumber_padded h2 hmi rfl (Nat.le_refl 2)]
  dsimp only [Option.bind_some]
  rw [expectLenient_cons (by decide)]
  dsimp only [Option.bind_some]
  rw [readLenientNumber_padded h2 hs hc (Nat.le_refl 2)]
  dsimp only [Option.bind_some]
  -- the fraction, if any, and the offset
  rw [← htail]
  rcases fractionText_cases hn with ⟨rfl, hft⟩ | ⟨k, v, hk, hk9, hv, rfl, hft⟩
  · -- no fraction: the offset follows the seconds
    rw [hft]
    simp only [String.toList_empty, List.nil_append, dropBlank_cons hbZ, dropBlank_nil,
      startsWithUtc, readOffset, Option.bind_some, List.isEmpty_nil, hy.1, hy.2, and_self, if_true,
      Bool.false_eq_true, if_false]
    rfl
  · have hdot : ("." : String).toList = ['.'] := rfl
    rw [hft, String.toList_append, hdot, List.singleton_append, List.cons_append]
    simp only [readFraction_padded hk hk9 hv hZd, dropBlank_cons hbZ, dropBlank_nil,
      startsWithUtc, readOffset, Option.bind_some, List.isEmpty_nil, hy.1, hy.2, and_self, if_true,
      Bool.false_eq_true, if_false]

/-- A text made of fields in range with a four-digit year, `+00:00` last, reads as the stamp
of the fields. -/
theorem parseStrict_text {y : Int} {m d h mi s n : Nat} (hm : m < 100) (hd : d < 100)
    (hh : h < 100) (hmi : mi < 100) (hs : s < 100) (hn : n < nanosPerSecond)
    (hy : 0 ≤ y ∧ y ≤ 9999) :
  parseStrict (yearText y ++ "-" ++ padded 2 m ++ "-" ++ padded 2 d ++ "T" ++ padded 2 h ++ ":" ++
      padded 2 mi ++ ":" ++ padded 2 s ++ fractionText n ++ "+00:00") =
    Stamp.toInstant? ⟨y, m, d, h, mi, s, n, 0⟩
  := by
  have h2 : (0 : Nat) < 2 := by decide
  have hy4 : y.toNat < 10 ^ 4 := by
    simp only [Nat.reducePow]
    omega
  have hutc : ("+00:00" : String).toList = ['+', '0', '0', ':', '0', '0'] := rfl
  obtain ⟨c, tail, htail, hc⟩ := fractionText_append_cons hn (c := '+') ['0', '0', ':', '0', '0'] rfl
  have hlist : (yearText y ++ "-" ++ padded 2 m ++ "-" ++ padded 2 d ++ "T" ++ padded 2 h ++ ":" ++
      padded 2 mi ++ ":" ++ padded 2 s ++ fractionText n ++ "+00:00").toList =
        (padded 4 y.toNat).toList ++ '-' :: ((padded 2 m).toList ++ '-' :: ((padded 2 d).toList ++
          'T' :: ((padded 2 h).toList ++ ':' :: ((padded 2 mi).toList ++ ':' ::
            ((padded 2 s).toList ++ c :: tail))))) := by
    have hminus : ("-" : String).toList = ['-'] := rfl
    have hcolon : (":" : String).toList = [':'] := rfl
    have hT : ("T" : String).toList = ['T'] := rfl
    rw [← htail, show yearText y = padded 4 y.toNat by simp [yearText, hy]]
    simp only [String.toList_append, List.append_assoc, List.cons_append, List.nil_append, hminus,
      hcolon, hT, hutc]
  -- each field in turn, each bind then taking the value read
  unfold parseStrict
  rw [hlist]
  dsimp only
  rw [readNumber_padded (by decide) hy4 rfl (Nat.le_refl 4) (Nat.le_refl 4)]
  dsimp only [Option.bind_eq_bind, Option.bind_some]
  rw [expectChar_cons]
  dsimp only [Option.bind_some]
  rw [readNumber_padded h2 hm rfl (Nat.le_refl 2) (Nat.le_refl 2)]
  dsimp only [Option.bind_some]
  rw [expectChar_cons]
  dsimp only [Option.bind_some]
  rw [readNumber_padded h2 hd rfl (Nat.le_refl 2) (Nat.le_refl 2)]
  dsimp only [Option.bind_some]
  rw [readDateTimeSeparator_T]
  dsimp only [Option.bind_some]
  rw [readNumber_padded h2 hh rfl (Nat.le_refl 2) (Nat.le_refl 2)]
  dsimp only [Option.bind_some]
  rw [expectChar_cons]
  dsimp only [Option.bind_some]
  rw [readNumber_padded h2 hmi rfl (Nat.le_refl 2) (Nat.le_refl 2)]
  dsimp only [Option.bind_some]
  rw [expectChar_cons]
  dsimp only [Option.bind_some]
  rw [readNumber_padded h2 hs hc (Nat.le_refl 2) (Nat.le_refl 2)]
  dsimp only [Option.bind_some]
  -- the fraction, if any, and the offset
  have hoffset : readOffset (expectChar ':') ['+', '0', '0', ':', '0', '0'] = some (0, []) := rfl
  rw [← htail, Int.toNat_of_nonneg hy.1]
  rcases fractionText_cases hn with ⟨rfl, hft⟩ | ⟨k, v, hk, hk9, hv, rfl, hft⟩
  · rw [hft]
    simp only [String.toList_empty, List.nil_append, hoffset, Option.bind_some, List.isEmpty_nil]
    rfl
  · have hdot : ("." : String).toList = ['.'] := rfl
    rw [hft, String.toList_append, hdot, List.singleton_append, List.cons_append]
    simp only [readFraction_padded (c := '+') hk hk9 hv rfl, hoffset, Option.bind_some,
      List.isEmpty_nil]
    rfl

/-! ### Instants -/

/-- The date of an instant is a valid date, on the instant's day. -/
theorem Instant.date_spec {t : Instant} {y : Int} {m d : Nat} (hdate : t.date = (y, m, d)) :
  isValidDate y m d = true ∧ daysFromCivil y m d = t.day
  := by
  have h := civilFromDays_spec t.day
  rw [← Instant.date, hdate] at h
  exact h

/-- The parts an instant's text is written from give the instant back. -/
theorem Stamp.toInstant?_parts {t : Instant} (ht : t.Valid) {y : Int} {m d : Nat}
    (hdate : t.date = (y, m, d)) :
  Stamp.toInstant? ⟨y, m, d, t.second / 3600, t.second / 60 % 60,
    t.second % 60 + (if t.nano ≥ nanosPerSecond then 1 else 0),
    (if t.nano ≥ nanosPerSecond then t.nano - nanosPerSecond else t.nano), 0⟩ = some t
  := by
  obtain ⟨hvalid, hdays⟩ := Instant.date_spec hdate
  have hs := ht.second_lt
  have hn := ht.nano_lt
  have hl := ht.leap
  have hcal := ht.inCalendar
  simp only [Instant.inCalendar, Bool.and_eq_true, decide_eq_true_eq] at hcal
  unfold Stamp.toInstant?
  dsimp only
  simp only [nanosPerSecond, ge_iff_le] at *
  rw [if_pos ⟨by omega, by omega, by split <;> omega, hvalid, by decide, by decide⟩]
  simp only [hdays]
  -- the time of day read back is the instant's, a leap second read as 59 plus a second
  have hsecs : ∀ sec : Nat, sec = t.second % 60 →
      ((t.second / 3600 : Nat) : Int) * 3600 + ((t.second / 60 % 60 : Nat) : Int) * 60 + (sec : Int) - 0
        = t.second := by
    intro sec hsec
    omega
  have hday : (t.second : Int) / 86400 = 0 := by omega
  have hsec : ((t.second : Int) % 86400).toNat = t.second := by omega
  by_cases hleap : 1000000000 ≤ t.nano
  · have h60 : t.second % 60 + 1 = 60 := by have := hl hleap; omega
    simp only [hleap, if_true, h60, hsecs 59 (by have := hl hleap; omega), hday, hsec,
      Nat.sub_add_cancel hleap, Int.add_zero]
    simp [Instant.inCalendar, hcal]
  · have h60 : ¬ t.second % 60 = 60 := by omega
    simp only [hleap, if_false, Nat.add_zero, h60, hsecs (t.second % 60) rfl, hday, hsec,
      Int.add_zero]
    simp [Instant.inCalendar, hcal]

namespace Instant

/-- The Unix epoch is an instant a clock can read. -/
theorem epoch_valid :
  epoch.Valid
  := ⟨by decide, by decide, by decide, by decide⟩

/-- The year of a valid instant fits 32 bits. -/
theorem year_bounds {t : Instant} (ht : t.Valid) :
  -2147483648 ≤ t.date.1 ∧ t.date.1 ≤ 2147483647
  := by
  have hcal := ht.inCalendar
  simp only [Instant.inCalendar, Bool.and_eq_true, decide_eq_true_eq] at hcal
  have hmin : Instant.minDay = -96465292 := by decide
  have hmax : Instant.maxDay = 95026236 := by decide
  have hera := civilFromDays_year_bounds t.day
  simp only [Instant.date]
  omega

/-- The fields of an instant's text are in range: two digits for each of them, and a
fraction of less than a second. -/
theorem text_fields {t : Instant} (ht : t.Valid) {y : Int} {m d : Nat}
    (hdate : t.date = (y, m, d)) :
  m < 100 ∧ d < 100 ∧ t.second / 3600 < 100 ∧ t.second / 60 % 60 < 100 ∧
    t.second % 60 + (if t.nano ≥ nanosPerSecond then 1 else 0) < 100 ∧
    (if t.nano ≥ nanosPerSecond then t.nano - nanosPerSecond else t.nano) < nanosPerSecond
  := by
  obtain ⟨-, hm, -, hd⟩ := isValidDate_bounds (date_spec hdate).1
  have hs := ht.second_lt
  have hn := ht.nano_lt
  refine ⟨by omega, by omega, by omega, by omega, ?_, ?_⟩ <;> split_ifs <;>
    simp only [nanosPerSecond] at * <;> omega

theorem parseLenient_toText {t : Instant} (ht : t.Valid) :
  parseLenient t.toText = some t
  := by
  rcases hdate : t.date with ⟨y, m, d⟩
  obtain ⟨hm, hd, hh, hmi, hs, hn⟩ := text_fields ht hdate
  have hy := year_bounds ht
  rw [hdate] at hy
  simp only [Instant.toText, Instant.localText, Instant.dateTimeText, hdate]
  rw [parseLenient_text hm hd hh hmi hs hn hy]
  exact Stamp.toInstant?_parts ht hdate

theorem parseStrict_toOffsetText {t : Instant} (ht : t.Valid) 
    (hy : 0 ≤ t.date.1 ∧ t.date.1 ≤ 9999) :
  parseStrict t.toOffsetText = some t
  := by
  rcases hdate : t.date with ⟨y, m, d⟩
  obtain ⟨hm, hd, hh, hmi, hs, hn⟩ := text_fields ht hdate
  rw [hdate] at hy
  simp only [Instant.toOffsetText, Instant.localText, Instant.dateTimeText, hdate]
  rw [parseStrict_text hm hd hh hmi hs hn hy]
  exact Stamp.toInstant?_parts ht hdate

/-- The text of an instant whose year does not have four digits is no RFC 3339 text: it
starts with the year's sign where the reader wants a digit. -/
theorem parseStrict_toOffsetText_of_year {t : Instant}
    (hy : ¬(0 ≤ t.date.1 ∧ t.date.1 ≤ 9999)) :
  parseStrict t.toOffsetText = none
  := by
  rcases hdate : t.date with ⟨y, m, d⟩
  rw [hdate] at hy
  obtain ⟨c, rest, hyt, hc⟩ := yearText_signed hy
  have htext : ∃ rest', t.toOffsetText.toList = c :: rest' := by
    simp only [Instant.toOffsetText, Instant.localText, Instant.dateTimeText, hdate,
      String.toList_append, hyt]
    exact ⟨_, rfl⟩
  obtain ⟨rest', hrest⟩ := htext
  unfold parseStrict
  dsimp only
  rw [hrest, readNumber_of_not_digit hc _ 4 (by decide)]
  rfl

end Instant

end TaskQueue.Time
