import TaskQueue.Queue.Codec
import Mathlib.Tactic.SplitIfs
import Mathlib.Data.List.Nodup
import Mathlib.Data.String.Basic

/-!
# Message texts read back

A message's text is the base64 of the UTF-8 bytes of a record's compact JSON form, and
reading it back gives the record (`PendingHint.decode_encode`).  Each layer is read back on
its own: base64 (`Base64.decode_encode`, and trimming blanks changes nothing since the
alphabet has none), UTF-8 through the bytes of a string (`bytes_toList`), a JSON string
literal whatever its characters (`Json.readString_escaped`), a number written without
fraction or exponent (`Json.readNumber_numeral`), the members of a flat object
(`Json.parse_render_obj`), the fields of a record (`Json.fields?_obj`), and the 26
characters of a ULID (`Ulid.ofText?_toText`).
-/

namespace TaskQueue

/-! ### Base64 -/

namespace Base64

theorem value?_digit {v : Nat} (h : v < 64) :
  value? (digit v) = some v
  := by
  have key : ∀ v < 64, value? (digit v) = some v := by decide
  exact key v h

theorem digit_ne_pad (v : Nat) :
  digit v ≠ '='
  := by
  by_cases h : v < 64
  · have key : ∀ v < 64, digit v ≠ '=' := by decide
    exact key v h
  · -- past the alphabet every value is the last character
    have : digit v = '/' := by
      unfold digit
      rw [if_neg (by omega), if_neg (by omega), if_neg (by omega), if_neg (by omega)]
    rw [this]
    decide

/-- A byte is the byte of its own value. -/
theorem byte_of_eq {k : Nat} {a : UInt8} (h : k = a.toNat) :
  UInt8.ofNat k = a
  := h ▸ UInt8.ofNat_toNat

/-- Base64 reads back the bytes it wrote, a group of three at a time. -/
theorem decode_encode (bs : List UInt8) :
  decode (encode bs) = some bs
  := by
  fun_induction encode bs with
  | case1 => rfl
  | case2 a x =>
    have ha := a.toNat_lt
    have hx : (x / 4 * 64 + x % 4 * 16) / 16 = a.toNat := by omega
    simp only [decode, value?_digit (show x / 4 < 64 by omega),
      value?_digit (show x % 4 * 16 < 64 by omega), Option.bind_eq_bind, Option.bind_some]
    rw [if_pos (by omega)]
    exact congrArg (some [·]) (byte_of_eq hx)
  | case3 a b x =>
    have ha := a.toNat_lt
    have hb := b.toNat_lt
    simp [decode, digit_ne_pad, value?_digit (show x / 1024 < 64 by omega),
      value?_digit (show x / 16 % 64 < 64 by omega), value?_digit (show x % 16 * 4 < 64 by omega)]
    exact ⟨by omega, byte_of_eq (by omega), byte_of_eq (by omega)⟩
  | case4 a b c rest x ih =>
    have ha := a.toNat_lt
    have hb := b.toNat_lt
    have hc := c.toNat_lt
    -- the four digits spell the group's 24 bits again
    have hx : ((x / 262144 * 64 + x / 4096 % 64) * 64 + x / 64 % 64) * 64 + x % 64 = x := by
      omega
    simp [decode, digit_ne_pad, ih, value?_digit (show x / 262144 < 64 by omega),
      value?_digit (show x / 4096 % 64 < 64 by omega), value?_digit (show x / 64 % 64 < 64 by omega),
      value?_digit (show x % 64 < 64 by omega), hx]
    exact ⟨byte_of_eq (by omega), byte_of_eq (by omega), byte_of_eq (by omega)⟩

theorem isBlank_digit (v : Nat) :
  Text.isBlank (digit v) = false
  := by
  by_cases h : v < 64
  · have key : ∀ v < 64, Text.isBlank (digit v) = false := by decide
    exact key v h
  · have : digit v = '/' := by
      unfold digit
      rw [if_neg (by omega), if_neg (by omega), if_neg (by omega), if_neg (by omega)]
    rw [this]
    decide

/-- Base64 text has no blank character. -/
theorem isBlank_of_mem_encode {bs : List UInt8} {c : Char} (h : c ∈ encode bs) :
  Text.isBlank c = false
  := by
  fun_induction encode bs with
  | case1 => cases h
  | case2 =>
    simp only [List.mem_cons, List.not_mem_nil, or_false] at h
    rcases h with rfl | rfl | rfl | rfl <;> first | exact isBlank_digit _ | decide
  | case3 =>
    simp only [List.mem_cons, List.not_mem_nil, or_false] at h
    rcases h with rfl | rfl | rfl | rfl <;> first | exact isBlank_digit _ | decide
  | case4 a b c rest x ih =>
    rcases List.mem_append.1 h with h | h
    · simp only [List.mem_cons, List.not_mem_nil, or_false] at h
      rcases h with rfl | rfl | rfl | rfl <;> exact isBlank_digit _
    · exact ih h

end Base64

/-- Trimming a text without blank characters leaves it as it is. -/
theorem Text.trimList_of_forall {cs : List Char} (h : ∀ c ∈ cs, Text.isBlank c = false) :
  Text.trimList cs = cs
  := by
  have hdrop : ∀ l : List Char, (∀ c ∈ l, Text.isBlank c = false) → l.dropWhile Text.isBlank = l := by
    intro l hl
    cases l with
    | nil => rfl
    | cons c l => exact List.dropWhile_cons_of_neg (by simp [hl c List.mem_cons_self])
  unfold Text.trimList
  rw [hdrop cs h, hdrop cs.reverse (fun c hc => h c (List.mem_reverse.1 hc)), List.reverse_reverse]

/-! ### UTF-8 -/

/-- The UTF-8 bytes of a text as a list: each character's bytes in turn. -/
def textBytes (s : String) : List UInt8 :=
  s.toList.flatMap String.utf8EncodeChar

@[simp]
theorem textBytes_append (a b : String) :
  textBytes (a ++ b) = textBytes a ++ textBytes b
  := by
  simp [textBytes]

/-- The list of a byte array's bytes, in order. -/
theorem ByteArray.toList_eq_data (b : ByteArray) :
  b.toList = b.data.toList
  := by
  -- the loop has reversed the bytes before `i` onto `r`
  have loop : ∀ i r, ByteArray.toList.loop b i r = r.reverse ++ b.data.toList.drop i := by
    intro i r
    fun_induction ByteArray.toList.loop b i r with
    | case1 i r hi ih =>
      rw [ih, List.reverse_cons, List.append_assoc, List.singleton_append]
      congr 1
      have hi' : i < b.data.toList.length := by simpa using hi
      rw [List.drop_eq_getElem_cons hi']
      congr 1
      simp [ByteArray.get!, hi]
    | case2 i r hi =>
      rw [List.drop_eq_nil_of_le (by simpa using hi), List.append_nil]
  unfold ByteArray.toList
  simpa using loop 0 []

/-- The UTF-8 bytes of a string are those of its characters in turn. -/
theorem bytes_toList (s : String) :
  s.toUTF8.toList = textBytes s
  := by
  unfold textBytes
  rw [ByteArray.toList_eq_data, String.toUTF8_eq_toByteArray, ← String.ofList_toList (s := s),
    String.toByteArray_ofList, String.toList_ofList]
  exact List.toList_data_toByteArray

/-- The bytes of a character below 128 are its code. -/
theorem utf8EncodeChar_of_lt {c : Char} (h : c.toNat < 128) :
  String.utf8EncodeChar c = [UInt8.ofNat c.toNat]
  := by
  unfold String.utf8EncodeChar
  rw [if_pos (by simp only [Char.toNat] at h; omega)]
  rfl

/-- Every byte of a character from 128 on is at least 128. -/
theorem le_of_mem_utf8EncodeChar {c : Char} (h : 128 ≤ c.toNat) {b : UInt8}
    (hb : b ∈ String.utf8EncodeChar c) :
  128 ≤ b.toNat
  := by
  have hc : c.val.toNat = c.toNat := rfl
  unfold String.utf8EncodeChar at hb
  simp only [hc] at hb
  -- each byte is a small remainder plus its marker, below 256
  split_ifs at hb <;> simp only [List.mem_cons, List.not_mem_nil, or_false] at hb <;>
    rcases hb with rfl | rfl | rfl | rfl <;> simp [UInt8.toNat_ofNat] <;> omega

/-- A string as UTF-8 bytes reads back as itself. -/
theorem fromUTF8?_textBytes (s : String) :
  String.fromUTF8? (ByteArray.mk (textBytes s).toArray) = some s
  := by
  have hbytes : ByteArray.mk (textBytes s).toArray = s.toByteArray := by
    apply ByteArray.ext
    unfold textBytes
    rw [← String.ofList_toList (s := s), String.toByteArray_ofList, String.toList_ofList]
    apply Array.toList_inj.1
    simp [List.utf8Encode]
  rw [hbytes]
  simp [String.fromUTF8?, s.isValidUTF8]
  rfl

/-! ### JSON strings -/

namespace Json

/-- The pieces a string reader takes from the escaped form of a character: a `\u` escape
for a control character without a short escape, and otherwise its UTF-8 bytes. -/
def charPieces (c : Char) : List Piece :=
  if c.toNat < 32 ∧ c.toNat ≠ 8 ∧ c.toNat ≠ 9 ∧ c.toNat ≠ 10 ∧ c.toNat ≠ 12 ∧ c.toNat ≠ 13 then
    [.unit c.toNat]
  else (String.utf8EncodeChar c).map .byte

/-- Raw bytes that are neither control bytes, quotes nor backslashes are read one by one. -/
theorem readPieces_plain {bs : List UInt8} (h : ∀ b ∈ bs, 32 ≤ b.toNat ∧ b ≠ 34 ∧ b ≠ 92)
    (rest : List UInt8) (acc : List Piece) :
  readPieces (bs ++ rest) acc = readPieces rest ((bs.map .byte).reverse ++ acc)
  := by
  induction bs generalizing acc with
  | nil => rfl
  | cons b bs ih =>
    obtain ⟨hlo, h34, h92⟩ := h b List.mem_cons_self
    have hb : ¬ b < 32 := by
      rw [UInt8.lt_iff_toNat_lt]
      simpa using hlo
    rw [List.cons_append, List.map_cons, List.reverse_cons, List.append_assoc,
      List.singleton_append, ← ih (fun b hb => h b (List.mem_cons_of_mem _ hb))]
    cases bs ++ rest with
    | nil => simp [readPieces, hb]
    | cons e rest' => simp [readPieces, h92, hb]

theorem hexDigit_bytes {n : Nat} (h : n < 16) :
  String.utf8EncodeChar (hexDigit n) = [UInt8.ofNat (hexDigit n).toNat]
  := by
  have key : ∀ n < 16, String.utf8EncodeChar (hexDigit n) = [UInt8.ofNat (hexDigit n).toNat] := by
    decide
  exact key n h

theorem hexValue?_hexDigit {n : Nat} (h : n < 16) :
  hexValue? (UInt8.ofNat (hexDigit n).toNat) = some n
  := by
  have key : ∀ n < 16, hexValue? (UInt8.ofNat (hexDigit n).toNat) = some n := by decide
  exact key n h

/-- A backslash and a letter other than `u` are read as a short escape. -/
theorem readPieces_backslash (e : UInt8) (rest : List UInt8) (acc : List Piece)
    (he : (e == 117) = false) :
  readPieces (92 :: e :: rest) acc =
    if (e == 34 || e == 92 || e == 47) = true then readPieces rest (.byte e :: acc)
    else if (e == 98) = true then readPieces rest (.byte 8 :: acc)
    else if (e == 102) = true then readPieces rest (.byte 12 :: acc)
    else if (e == 110) = true then readPieces rest (.byte 10 :: acc)
    else if (e == 114) = true then readPieces rest (.byte 13 :: acc)
    else if (e == 116) = true then readPieces rest (.byte 9 :: acc)
    else none
  := by
  -- the reader's equations split on whether four more bytes follow, for the `u` escape
  match rest with
  | a :: b :: c :: d :: rest' => simp only [readPieces.eq_3, he, Bool.false_eq_true, if_false]
  | [] => simp only [readPieces.eq_4 _ _ [] (by simp), he, Bool.false_eq_true, if_false]
  | [a] => simp only [readPieces.eq_4 _ _ [a] (by simp), he, Bool.false_eq_true, if_false]
  | [a, b] => simp only [readPieces.eq_4 _ _ [a, b] (by simp), he, Bool.false_eq_true, if_false]
  | [a, b, c] =>
    simp only [readPieces.eq_4 _ _ [a, b, c] (by simp), he, Bool.false_eq_true, if_false]

/-- A character is the character of its code. -/
theorem eq_ofNat_of_toNat {c : Char} {n : Nat} (h : c.toNat = n) :
  c = Char.ofNat n
  := by
  rw [← h, Char.ofNat_toNat]

/-- The escaped form of a character is read as its pieces. -/
theorem readPieces_escapeChar (c : Char) (rest : List UInt8) (acc : List Piece) :
  readPieces ((escapeChar c).flatMap String.utf8EncodeChar ++ rest) acc =
    readPieces rest ((charPieces c).reverse ++ acc)
  := by
  -- the quote, the backslash and the five short escapes
  by_cases hq : c = '"'
  · subst hq
    rw [show (escapeChar '"').flatMap String.utf8EncodeChar = [92, 34] by decide]
    simp [readPieces_backslash, charPieces, utf8EncodeChar_of_lt]
  by_cases hb : c = '\\'
  · subst hb
    rw [show (escapeChar '\\').flatMap String.utf8EncodeChar = [92, 92] by decide]
    simp [readPieces_backslash, charPieces, utf8EncodeChar_of_lt]
  by_cases h8 : c.toNat = 8
  · obtain rfl := eq_ofNat_of_toNat h8
    rw [show (escapeChar (Char.ofNat 8)).flatMap String.utf8EncodeChar = [92, 98] by decide]
    simp [readPieces_backslash, charPieces, utf8EncodeChar_of_lt]
  by_cases h12 : c.toNat = 12
  · obtain rfl := eq_ofNat_of_toNat h12
    rw [show (escapeChar (Char.ofNat 12)).flatMap String.utf8EncodeChar = [92, 102] by decide]
    simp [readPieces_backslash, charPieces, utf8EncodeChar_of_lt]
  by_cases hn : c = '\n'
  · subst hn
    rw [show (escapeChar '\n').flatMap String.utf8EncodeChar = [92, 110] by decide]
    simp [readPieces_backslash, charPieces, utf8EncodeChar_of_lt]
  by_cases hr : c = '\r'
  · subst hr
    rw [show (escapeChar '\r').flatMap String.utf8EncodeChar = [92, 114] by decide]
    simp [readPieces_backslash, charPieces, utf8EncodeChar_of_lt]
  by_cases ht : c = '\t'
  · subst ht
    rw [show (escapeChar '\t').flatMap String.utf8EncodeChar = [92, 116] by decide]
    simp [readPieces_backslash, charPieces, utf8EncodeChar_of_lt]
  have h10 : c.toNat ≠ 10 := fun h => hn (eq_ofNat_of_toNat h)
  have h13 : c.toNat ≠ 13 := fun h => hr (eq_ofNat_of_toNat h)
  have h9 : c.toNat ≠ 9 := fun h => ht (eq_ofNat_of_toNat h)
  by_cases hc : c.toNat < 32
  · -- another control character: a `\u00XY` escape
    have hpieces : charPieces c = [.unit c.toNat] := by
      unfold charPieces
      rw [if_pos ⟨hc, h8, h9, h10, h12, h13⟩]
    have hesc : escapeChar c =
        ['\\', 'u', '0', '0', hexDigit (c.toNat / 16), hexDigit (c.toNat % 16)] := by
      unfold escapeChar
      rw [if_neg hq, if_neg hb, if_neg h8, if_neg h12, if_neg hn, if_neg hr, if_neg ht, if_pos hc]
    rw [hpieces, hesc]
    simp only [List.flatMap_cons, List.flatMap_nil, List.append_nil, List.cons_append,
      List.nil_append, hexDigit_bytes (show c.toNat / 16 < 16 by omega),
      hexDigit_bytes (show c.toNat % 16 < 16 by omega),
      show String.utf8EncodeChar '\\' = [92] by decide,
      show String.utf8EncodeChar 'u' = [117] by decide,
      show String.utf8EncodeChar '0' = [48] by decide]
    rw [readPieces.eq_3]
    simp only [hexValue?_hexDigit (show c.toNat / 16 < 16 by omega),
      hexValue?_hexDigit (show c.toNat % 16 < 16 by omega), show hexValue? 48 = some 0 by decide]
    have hunit : c.toNat / 16 * 16 + c.toNat % 16 = c.toNat := Nat.div_add_mod' _ _
    simp [hunit]
  · -- any other character stands for itself
    have hpieces : charPieces c = (String.utf8EncodeChar c).map .byte := by
      unfold charPieces
      rw [if_neg (fun h => hc h.1)]
    have hesc : escapeChar c = [c] := by
      unfold escapeChar
      rw [if_neg hq, if_neg hb, if_neg h8, if_neg h12, if_neg hn, if_neg hr, if_neg ht, if_neg hc]
    rw [hpieces, hesc, List.flatMap_singleton]
    apply readPieces_plain
    intro b hmem
    by_cases hbig : 128 ≤ c.toNat
    · have := le_of_mem_utf8EncodeChar hbig hmem
      refine ⟨by omega, fun h => ?_, fun h => ?_⟩ <;> (subst h; simp at this)
    · rw [utf8EncodeChar_of_lt (by omega), List.mem_singleton] at hmem
      subst hmem
      have h34 : c.toNat ≠ 34 := fun h => hq (eq_ofNat_of_toNat h)
      have h92 : c.toNat ≠ 92 := fun h => hb (eq_ofNat_of_toNat h)
      refine ⟨by simp; omega, fun h => ?_, fun h => ?_⟩
      · have := congrArg UInt8.toNat h
        simp at this
        omega
      · have := congrArg UInt8.toNat h
        simp at this
        omega

/-- The escaped form of a text is read as the pieces of its characters in turn. -/
theorem readPieces_escaped (cs : List Char) (rest : List UInt8) (acc : List Piece) :
  readPieces (((cs.flatMap escapeChar).flatMap String.utf8EncodeChar) ++ rest) acc =
    readPieces rest ((cs.flatMap charPieces).reverse ++ acc)
  := by
  induction cs generalizing acc with
  | nil => rfl
  | cons c cs ih =>
    rw [List.flatMap_cons, List.flatMap_append, List.append_assoc, readPieces_escapeChar, ih,
      List.flatMap_cons, List.reverse_append, List.append_assoc]

/-- A code unit below the surrogates stands for its own code point. -/
theorem pieceBytes_unit {u : Nat} (hu : u < 0xD800) (ps : List Piece) :
  pieceBytes (.unit u :: ps) = (pieceBytes ps).map (utf8Bytes u ++ ·)
  := by
  -- the reader's equations split on whether another code unit follows
  match ps with
  | [] => rw [pieceBytes.eq_4 _ _ (by simp), if_neg (by omega), if_neg (by omega)]
  | .byte b :: ps => rw [pieceBytes.eq_4 _ _ (by simp), if_neg (by omega), if_neg (by omega)]
  | .unit l :: ps => rw [pieceBytes.eq_3, if_neg (by omega), if_neg (by omega)]

/-- The bytes of a character's pieces are its UTF-8 bytes, none of them half of a
surrogate pair. -/
theorem pieceBytes_charPieces (c : Char) (ps : List Piece) :
  pieceBytes (charPieces c ++ ps) = (pieceBytes ps).map (String.utf8EncodeChar c ++ ·)
  := by
  unfold charPieces
  split_ifs with hc
  · -- a control character's escape is a single code unit below 32
    have hu : utf8Bytes c.toNat = [UInt8.ofNat c.toNat] := by
      unfold utf8Bytes
      rw [if_pos (by omega)]
    rw [List.singleton_append, pieceBytes_unit (by omega), utf8EncodeChar_of_lt (by omega), hu]
  · -- raw bytes are taken as they are
    have hbytes : ∀ bs : List UInt8,
        pieceBytes (bs.map .byte ++ ps) = (pieceBytes ps).map (bs ++ ·) := by
      intro bs
      induction bs with
      | nil => simp
      | cons b bs ih =>
        rw [List.map_cons, List.cons_append, pieceBytes, ih, Option.map_map]
        rfl
    exact hbytes _

/-- The pieces of a text are its UTF-8 bytes. -/
theorem pieceBytes_flatMap (cs : List Char) :
  pieceBytes (cs.flatMap charPieces) = some (cs.flatMap String.utf8EncodeChar)
  := by
  induction cs with
  | nil => rfl
  | cons c cs ih =>
    rw [List.flatMap_cons, pieceBytes_charPieces, ih, List.flatMap_cons]
    rfl

/-- A string literal, read after its opening quote, gives the string back. -/
theorem readString_escaped (s : String) (rest : List UInt8) :
  readString (((s.toList.flatMap escapeChar).flatMap String.utf8EncodeChar) ++ 34 :: rest) =
    some (some s, rest)
  := by
  unfold readString
  rw [readPieces_escaped, readPieces.eq_2, List.append_nil]
  simp only [Option.map_some, List.reverse_reverse, piecesText?, pieceBytes_flatMap,
    Option.bind_some, show s.toList.flatMap String.utf8EncodeChar = textBytes s from rfl,
    fromUTF8?_textBytes]

/-- The bytes of a string literal: a quote, the escaped characters, a quote. -/
theorem textBytes_quote (s : String) :
  textBytes (quote s) =
    34 :: ((s.toList.flatMap escapeChar).flatMap String.utf8EncodeChar) ++ [34]
  := by
  simp only [quote, textBytes, String.toList_append, String.toList_ofList, List.flatMap_append]
  rfl

/-! ### JSON numbers -/

/-- A decimal digit is a character from `0` to `9`. -/
theorem toNat_of_isDigit {c : Char} (h : c.isDigit = true) :
  48 ≤ c.toNat ∧ c.toNat ≤ 57
  := by
  simp only [Char.isDigit, Bool.and_eq_true, decide_eq_true_eq] at h
  exact ⟨h.1, h.2⟩

/-- The bytes of a numeral are the codes of its digits. -/
theorem textBytes_toString (n : Nat) :
  textBytes (toString n) = (Nat.toDigits 10 n).map fun c => UInt8.ofNat c.toNat
  := by
  rw [textBytes, Nat.toString_eq_repr, Nat.toList_repr]
  have hdig : ∀ c ∈ Nat.toDigits 10 n, c.isDigit = true :=
    fun c hc => Nat.isDigit_of_mem_toDigits (by decide) (by decide) hc
  generalize Nat.toDigits 10 n = cs at hdig ⊢
  induction cs with
  | nil => rfl
  | cons c cs ih =>
    have hc := toNat_of_isDigit (hdig c List.mem_cons_self)
    rw [List.flatMap_cons, utf8EncodeChar_of_lt (by omega),
      ih (fun c hc => hdig c (List.mem_cons_of_mem _ hc))]
    rfl

/-- The first digit of a positive number is not zero. -/
theorem head?_toDigits_ne_zero {n : Nat} (hn : 0 < n) :
  (Nat.toDigits 10 n).head? ≠ some '0'
  := by
  induction n using Nat.strongRecOn with
  | ind n ih =>
    by_cases hlt : n < 10
    · rw [Nat.toDigits_of_lt_base hlt]
      have key : ∀ n < 10, 0 < n → [Nat.digitChar n].head? ≠ some '0' := by decide
      exact key n hlt hn
    · -- the first digit is that of `n / 10`, itself positive
      have hrest := ih (n / 10) (by omega) (by omega)
      obtain ⟨c, cs, hcs⟩ := List.exists_cons_of_ne_nil (Nat.toDigits_ne_nil (n := n / 10) (b := 10))
      rw [hcs, List.head?_cons] at hrest
      rw [Nat.toDigits_of_base_le (by decide) (by omega), hcs, List.cons_append, List.head?_cons]
      exact hrest

theorem byte_digit {c : Char} (h : c.isDigit = true) :
  (UInt8.ofNat c.toNat).toNat = c.toNat
  := by
  have hc := toNat_of_isDigit h
  exact UInt8.toNat_ofNat_of_lt' (by simp only [UInt8.size]; omega)

theorem foldl_digitBytes {cs : List Char} (h : ∀ c ∈ cs, c.isDigit = true) (init : Nat) :
  (cs.map fun c => UInt8.ofNat c.toNat).foldl (fun acc d => acc * 10 + (d.toNat - 48)) init =
    Nat.ofDigitChars 10 cs init
  := by
  induction cs generalizing init with
  | nil => rfl
  | cons c cs ih =>
    rw [List.map_cons, List.foldl_cons, ih (fun c hc => h c (List.mem_cons_of_mem _ hc)),
      byte_digit (h c List.mem_cons_self), Nat.mul_comm]
    rfl

theorem digitBytesValue_numeral (n : Nat) :
  digitBytesValue ((Nat.toDigits 10 n).map fun c => UInt8.ofNat c.toNat) = n
  := by
  unfold digitBytesValue
  rw [foldl_digitBytes (fun c hc => Nat.isDigit_of_mem_toDigits (by decide) (by decide) hc),
    Nat.ofDigitChars_toDigits (by decide) (by decide)]

/-- What may follow a number without continuing it: the end, or a byte that is not a digit,
a point or an exponent mark. -/
def EndsNumber (rest : List UInt8) : Prop :=
  ∀ b ∈ rest.head?, isDigitByte b = false ∧ b ≠ 46 ∧ b ≠ 101 ∧ b ≠ 69

/-- A comma or a closing brace ends a number. -/
theorem endsNumber_sep {b : UInt8} (hb : b = 44 ∨ b = 125) (rest : List UInt8) :
  EndsNumber (b :: rest)
  := by
  intro c hc
  rw [List.head?_cons, Option.mem_some_iff] at hc
  subst hc
  rcases hb with rfl | rfl <;> decide

theorem readNumber_digits {ds : List UInt8} (rest : List UInt8)
    (hd : ∀ b ∈ ds, isDigitByte b = true) (hne : ds ≠ [])
    (hlead : 1 < ds.length → ds.head? ≠ some 48)
    (hrest : EndsNumber rest) :
  readNumber (ds ++ rest) = some (⟨false, digitBytesValue ds, 0, true⟩, rest)
  := by
  have htake : (ds ++ rest).takeWhile isDigitByte = ds := by
    rw [List.takeWhile_append_of_pos hd]
    cases rest with
    | nil => simp
    | cons b rest => simp [(hrest b rfl).1]
  have hdrop : (ds ++ rest).drop ds.length = rest := List.drop_left
  -- a number starting with a digit has no sign
  have h45 : ∀ r, ds ++ rest = 45 :: r → False := by
    intro r h
    obtain ⟨d, ds', rfl⟩ := List.exists_cons_of_ne_nil hne
    have hdig := hd d List.mem_cons_self
    rw [List.cons_append, List.cons.injEq] at h
    rw [h.1] at hdig
    exact absurd hdig (by decide)
  rw [readNumber.eq_2 _ h45]
  have hempty : ds.isEmpty = false := List.isEmpty_eq_false_iff.2 hne
  simp only [htake, hdrop, hempty]
  -- neither a fraction nor an exponent follows
  cases rest with
  | nil => simpa using hlead
  | cons b rest =>
    obtain ⟨-, h46, h101, h69⟩ := hrest b rfl
    simpa [h46, h101, h69] using hlead

/-- Every byte of a numeral is a digit. -/
theorem isDigitByte_of_mem_numeral {n : Nat} {b : UInt8} (hb : b ∈ textBytes (toString n)) :
  isDigitByte b = true
  := by
  rw [textBytes_toString] at hb
  obtain ⟨c, hc, rfl⟩ := List.mem_map.1 hb
  have hdig := Nat.isDigit_of_mem_toDigits (by decide) (by decide) hc
  have := toNat_of_isDigit hdig
  simp only [isDigitByte, UInt8.le_iff_toNat_le, byte_digit hdig, Bool.and_eq_true,
    decide_eq_true_eq]
  exact ⟨this.1, this.2⟩

theorem textBytes_numeral_ne_nil (n : Nat) :
  textBytes (toString n) ≠ []
  := by
  rw [textBytes_toString]
  simp [Nat.toDigits_ne_nil]

/-- A numeral is read back as its number, written without fraction or exponent. -/
theorem readNumber_numeral (n : Nat) (rest : List UInt8)
    (hrest : EndsNumber rest) :
  readNumber (textBytes (toString n) ++ rest) = some (⟨false, n, 0, true⟩, rest)
  := by
  have hdig : ∀ c ∈ Nat.toDigits 10 n, c.isDigit = true :=
    fun c hc => Nat.isDigit_of_mem_toDigits (by decide) (by decide) hc
  rw [readNumber_digits rest (fun b hb => isDigitByte_of_mem_numeral hb)
    (textBytes_numeral_ne_nil n) _ hrest, textBytes_toString, digitBytesValue_numeral]
  -- only zero is written with a leading zero, and it has one digit
  intro hlen hhead
  rw [textBytes_toString] at hlen hhead
  have hn : 0 < n := by
    rcases Nat.eq_zero_or_pos n with rfl | hn
    · simp at hlen
    · exact hn
  obtain ⟨c, hc, hcd⟩ : ∃ c, (Nat.toDigits 10 n).head? = some c ∧ UInt8.ofNat c.toNat = 48 := by
    simpa [List.head?_map] using hhead
  have hc0 : c = '0' := by
    have := byte_digit (hdig c (List.mem_of_head? hc))
    rw [hcd] at this
    exact (eq_ofNat_of_toNat this.symm).trans rfl
  exact head?_toDigits_ne_zero hn (hc0 ▸ hc)

/-! ### Flat objects -/

/-- The values the fields of a record are written as: strings and non-negative integers. -/
inductive Scalar : Json → Prop
  | str (s : String) : Scalar (.str s)
  | nat (n : Nat) : Scalar (.nat n)

theorem isSpace_of_isDigitByte {d : UInt8} (hd : isDigitByte d = true) :
  isSpace d = false
  := by
  simp only [isDigitByte, Bool.and_eq_true, decide_eq_true_eq] at hd
  simp only [isSpace, Bool.or_eq_false_iff, beq_eq_false_iff_ne]
  refine ⟨⟨⟨?_, ?_⟩, ?_⟩, ?_⟩ <;> (intro h; subst h; simp at hd)

/-- A value that starts with a digit is read as a number. -/
theorem readValue_digit {d : UInt8} (hd : isDigitByte d = true) (bs : List UInt8) (fuel : Nat) :
  readValue (fuel + 1) (d :: bs) = (readNumber (d :: bs)).map fun (n, rest) => (.num n, rest)
  := by
  have hsp : skipSpace (d :: bs) = d :: bs :=
    List.dropWhile_cons_of_neg (by simp [isSpace_of_isDigitByte hd])
  rw [readValue.eq_2, hsp]
  -- a digit starts none of the other forms
  split
  case h_7 => rfl
  all_goals
    rename_i h
    rw [List.cons.injEq] at h
    rw [h.1] at hd
    exact absurd hd (by decide)

theorem textBytes_render_ne_nil {v : Json} (hv : Scalar v) :
  textBytes v.render ≠ []
  := by
  cases hv with
  | str s => simp [render, textBytes_quote]
  | nat n => simpa [Json.nat, render, JsonNumber.render] using textBytes_numeral_ne_nil n

/-- A string or an integer is read back from its text, whatever follows that does not
continue a number. -/
theorem readValue_scalar {v : Json} (hv : Scalar v) (fuel : Nat) (rest : List UInt8)
    (hrest : EndsNumber rest) :
  readValue (fuel + 1) (textBytes v.render ++ rest) = some (v, rest)
  := by
  cases hv with
  | str s =>
    rw [render, textBytes_quote]
    simp only [List.cons_append, List.append_assoc]
    simp [readValue, skipSpace, isSpace, readString_escaped]
  | nat n =>
    have hbytes : textBytes (Json.nat n).render = textBytes (toString n) := by
      simp [Json.nat, render, JsonNumber.render]
    obtain ⟨d, ds, hds⟩ := List.exists_cons_of_ne_nil (textBytes_numeral_ne_nil n)
    have hd : isDigitByte d = true := isDigitByte_of_mem_numeral (hds ▸ List.mem_cons_self)
    rw [hbytes, hds, List.cons_append, readValue_digit hd, ← List.cons_append, ← hds,
      readNumber_numeral n rest hrest]
    rfl

/-- The members of a flat object are read back, one after another, up to its closing
brace; the reader needs less fuel than the members have bytes. -/
theorem readMembers_render {ms : List (String × Json)} (hms : ∀ m ∈ ms, Scalar m.2)
    (hne : ms ≠ []) {fuel : Nat} (hfuel : (textBytes (renderMembers ms)).length < fuel)
    (acc : List (String × Json)) (rest : List UInt8) :
  readMembers fuel (textBytes (renderMembers ms) ++ 125 :: rest) acc true =
    some (.obj (acc.reverse ++ ms), rest)
  := by
  induction ms generalizing acc fuel with
  | nil => contradiction
  | cons m ms ih =>
    obtain ⟨k, v⟩ := m
    have hv : Scalar v := hms (k, v) List.mem_cons_self
    have hvlen := List.length_pos_iff.2 (textBytes_render_ne_nil hv)
    have hcolon : textBytes ":" = [58] := rfl
    cases ms with
    | nil =>
      rw [renderMembers.eq_2] at hfuel ⊢
      obtain ⟨f, rfl⟩ : ∃ f, fuel = f + 2 := ⟨fuel - 2, by simp [textBytes_quote] at hfuel; omega⟩
      rw [readMembers.eq_2]
      simp [textBytes_quote, hcolon, skipSpace, isSpace, readString_escaped,
        readValue_scalar hv f (125 :: rest) (endsNumber_sep (.inr rfl) rest)]
    | cons m ms =>
      rw [renderMembers.eq_3 _ _ _ (by simp)] at hfuel ⊢
      obtain ⟨f, rfl⟩ : ∃ f, fuel = f + 2 := ⟨fuel - 2, by simp [textBytes_quote] at hfuel; omega⟩
      have htail : (textBytes (renderMembers (m :: ms))).length < f + 1 := by
        simp [textBytes_quote] at hfuel
        omega
      have hnext := ih (fun m hm => hms m (List.mem_cons_of_mem _ hm)) (by simp) htail
        ((k, v) :: acc)
      have hcomma : textBytes "," = [44] := rfl
      rw [readMembers.eq_2]
      simp [textBytes_quote, hcolon, hcomma, skipSpace, isSpace, readString_escaped,
        readValue_scalar hv f (44 :: _) (endsNumber_sep (.inl rfl) _), hnext]

/-- The members of an object start with the quote of the first key. -/
theorem textBytes_renderMembers_cons {ms : List (String × Json)} (hne : ms ≠ []) :
  ∃ bs, textBytes (renderMembers ms) = 34 :: bs
  := by
  match ms, hne with
  | [(k, v)], _ => simp [renderMembers.eq_2, textBytes_quote]
  | (k, v) :: m :: ms, _ => simp [renderMembers.eq_3 k v (m :: ms) (by simp), textBytes_quote]

/-- A flat object with members is read back from its text. -/
theorem readValue_obj {ms : List (String × Json)} (hms : ∀ m ∈ ms, Scalar m.2)
    (hne : ms ≠ []) {fuel : Nat} (hfuel : (textBytes (renderMembers ms)).length < fuel)
    (rest : List UInt8) :
  readValue (fuel + 1) (textBytes (Json.obj ms).render ++ rest) = some (.obj ms, rest)
  := by
  obtain ⟨bs, hbs⟩ := textBytes_renderMembers_cons hne
  have hbrace : textBytes "\x7b" = [123] := rfl
  have hclose : textBytes "\x7d" = [125] := rfl
  rw [render.eq_6, textBytes_append, textBytes_append, hbrace, hclose]
  have hread := readMembers_render hms hne hfuel [] rest
  rw [hbs] at hread
  rw [hbs]
  simpa [readValue.eq_2, skipSpace, isSpace] using hread

/-- A flat object is read back from its text. -/
theorem parse_render_obj {ms : List (String × Json)} (hms : ∀ m ∈ ms, Scalar m.2) :
  parse (textBytes (Json.obj ms).render) = some (.obj ms)
  := by
  by_cases hnil : ms = []
  · subst hnil
    rfl
  · have hlen : (textBytes (renderMembers ms)).length < 2 * (textBytes (Json.obj ms).render).length + 1 := by
      rw [render.eq_6, textBytes_append, textBytes_append]
      simp
      omega
    have hread := readValue_obj hms hnil hlen []
    rw [List.append_nil] at hread
    simp [parse, hread, skipSpace]

/-! ### Records -/

/-- With keys that do not repeat, no key is carried by two members. -/
theorem keyCount_le_one {ms : List (String × Json)} (hnd : (ms.map (·.1)).Nodup) (key : String) :
  keyCount ms key ≤ 1
  := by
  have hcount : keyCount ms key = (ms.map (·.1)).count key := by
    rw [keyCount, ← List.countP_eq_length_filter, List.count, List.countP_map]
    rfl
  rw [hcount]
  exact List.nodup_iff_count_le_one.1 hnd key

/-- With keys that do not repeat, each member is found by its key. -/
theorem lookup_of_mem {ms : List (String × Json)} (hnd : (ms.map (·.1)).Nodup)
    {m : String × Json} (hm : m ∈ ms) :
  lookup ms m.1 = some m.2
  := by
  have hsome : (ms.find? (·.1 == m.1)).isSome := List.find?_isSome.2 ⟨m, hm, by simp⟩
  obtain ⟨x, hx⟩ := Option.isSome_iff_exists.1 hsome
  -- the member found carries the same key, so it is `m` itself
  have hkey : x.1 = m.1 := by
    have hp := List.find?_some hx
    simpa only [beq_iff_eq] using hp
  have hxm : x = m := List.inj_on_of_nodup_map hnd (List.mem_of_find?_eq_some hx) hm hkey
  rw [lookup, hx, hxm]
  rfl

/-- The fields of an object whose keys do not repeat, asked for in the order of its
members, are its values. -/
theorem fields?_obj {names : List String} {ms : List (String × Json)}
    (hnames : ms.map (·.1) = names) (hnd : names.Nodup) :
  fields? names (.obj ms) = some (ms.map (·.2))
  := by
  subst hnames
  have hany : (ms.map (·.1)).any (fun n => keyCount ms n > 1) = false := by
    rw [List.any_eq_false]
    intro n _
    have := keyCount_le_one hnd n
    simp only [decide_eq_true_eq]
    omega
  -- every member is found by its key, those before it included
  have hmap : ∀ l : List (String × Json), (∀ m ∈ l, m ∈ ms) →
      (l.map (·.1)).mapM (lookup ms) = some (l.map (·.2)) := by
    intro l hl
    induction l with
    | nil => rfl
    | cons m l ih =>
      rw [List.map_cons, List.mapM_cons, lookup_of_mem hnd (hl m List.mem_cons_self),
        ih (fun x hx => hl x (List.mem_cons_of_mem _ hx))]
      rfl
  rw [fields?, if_neg (by simp only [hany, Bool.false_eq_true, not_false_eq_true]),
    hmap ms (fun _ h => h)]

end Json

/-! ### Message texts -/

namespace Codec

/-- Reading a message text gives the JSON reading of the bytes it was written from. -/
theorem decodeJson_encode (j : Json) :
  decodeJson (encode j) = .ok (Json.parse (textBytes j.render))
  := by
  unfold decodeJson encode
  rw [String.toList_ofList, Text.trimList_of_forall (fun _ hc => Base64.isBlank_of_mem_encode hc),
    Base64.decode_encode, bytes_toList]

/-- The text of a flat object reads back as whatever the reader makes of the object. -/
theorem decode_encode_obj {α : Type} (read : Json → Option α) {ms : List (String × Json)}
    (hms : ∀ m ∈ ms, Json.Scalar m.2) {a : α} (h : read (.obj ms) = some a) :
  decode read (encode (.obj ms)) = .ok a
  := by
  unfold decode
  rw [decodeJson_encode, Json.parse_render_obj hms]
  simp only [bind, Except.bind, h]

end Codec

/-! ### ULIDs -/

namespace Ulid

theorem digitValue?_getD {d : Nat} (h : d < 32) :
  digitValue? (alphabet.getD d '0') = some d
  := by
  have key : ∀ d < 32, digitValue? (alphabet.getD d '0') = some d := by decide
  exact key d h

/-- Every character a ULID is written with is one byte long. -/
theorem utf8Size_getD (d : Nat) :
  (alphabet.getD d '0').utf8Size = 1
  := by
  by_cases h : d < 32
  · have key : ∀ d < 32, (alphabet.getD d '0').utf8Size = 1 := by decide +kernel
    exact key d h
  · have hlen : alphabet.length = 32 := by decide
    rw [List.getD_eq_getElem?_getD, List.getElem?_eq_none (by omega)]
    rfl

theorem utf8ByteSize_toText (u : Ulid) :
  u.toText.utf8ByteSize = 26
  := by
  have hlen : ∀ (f : Nat → Nat) (l : List Nat),
      String.utf8Len (l.map fun i => alphabet.getD (f i) '0') = l.length := by
    intro f l
    induction l with
    | nil => rfl
    | cons d l ih => rw [List.map_cons, String.utf8Len_cons, ih, utf8Size_getD, List.length_cons]
  rw [toText, String.utf8ByteSize_ofList, hlen, List.length_range]

/-- Reading the characters of digits gives the digits, folded in. -/
theorem foldlM_getD (f : Nat → Nat) (hf : ∀ i, f i < 32) (l : List Nat) (init : Nat) :
  (l.map fun i => alphabet.getD (f i) '0').foldlM
      (fun acc c => (digitValue? c).map fun v => (acc * 32 + v) % Nat.pow 2 128) init =
    some (l.foldl (fun acc i => (acc * 32 + f i) % Nat.pow 2 128) init)
  := by
  induction l generalizing init with
  | nil => rfl
  | cons i l ih =>
    rw [List.map_cons, List.foldlM_cons, digitValue?_getD (hf i), Option.map_some]
    exact ih _

/-- The first `k` digits of a 128-bit number, most significant first, spell the number
shifted right by the bits still to come. -/
theorem foldl_digits (v : Nat) (hv : v < Nat.pow 2 128) {k : Nat} (hk : k ≤ 26) :
  (List.range k).foldl
      (fun acc i => (acc * 32 + v / Nat.pow 2 (125 - 5 * i) % 32) % Nat.pow 2 128) 0 =
    v / Nat.pow 2 (130 - 5 * k) % Nat.pow 2 128
  := by
  induction k with
  | zero =>
    have : v / Nat.pow 2 130 = 0 := Nat.div_eq_of_lt (by simp only [Nat.pow_eq] at hv ⊢; omega)
    simp [this]
  | succ k ih =>
    rw [List.range_succ, List.foldl_append, ih (by omega), List.foldl_cons, List.foldl_nil]
    -- the next digit is the low five bits of the number shifted five places less
    have hp : Nat.pow 2 (130 - 5 * k) = Nat.pow 2 (125 - 5 * k) * 32 := by
      rw [show 130 - 5 * k = (125 - 5 * k) + 5 by omega, Nat.pow_eq, Nat.pow_eq, Nat.pow_add]
    rw [hp, ← Nat.div_div_eq_div_mul, show 130 - 5 * (k + 1) = 125 - 5 * k by omega]
    generalize v / Nat.pow 2 (125 - 5 * k) = q
    simp only [Nat.pow_eq]
    omega

/-- A 128-bit ULID is read back from its 26 characters. -/
theorem ofText?_toText (u : Ulid) (hu : u.val < Nat.pow 2 128) :
  ofText? u.toText = some u
  := by
  unfold ofText?
  rw [if_pos (utf8ByteSize_toText u), toText, String.toList_ofList,
    foldlM_getD _ (fun _ => Nat.mod_lt _ (by decide)), foldl_digits u.val hu (Nat.le_refl 26)]
  -- all 26 digits in, nothing is left to shift
  rw [show Nat.pow 2 (130 - 5 * 26) = 1 from rfl, Nat.div_one, Nat.mod_eq_of_lt hu]
  rfl

end Ulid

/-! ### Records read back -/

/-- A 32-bit number written as an integer is read back. -/
theorem Json.u32?_nat (r : UInt32) :
  Json.u32? (.nat r.toNat) = some r
  := by
  have hr := r.toNat_lt
  simp only [Json.u32?, Json.nat, Bool.not_false, Bool.true_and, Nat.pow_eq]
  rw [if_pos (by simpa using hr)]
  exact congrArg some UInt32.ofNat_toNat

namespace PendingHint

/-- A hint is read back from its JSON form. -/
theorem ofJson?_toJson (m : PendingHint) (hu : m.hintId.val < Nat.pow 2 128) :
  ofJson? m.toJson = some m
  := by
  have hfields : Json.fields? ["taskId", "runId", "hintId"] m.toJson =
      some [.str m.taskId.val, .nat m.runId.toNat, .str m.hintId.toText] :=
    Json.fields?_obj rfl (by decide)
  simp [ofJson?, hfields, Json.string?, Json.u32?_nat, Ulid.ofText?_toText _ hu]

/-- The text of a hint is read back as the hint. -/
theorem decode_encode (m : PendingHint) (hu : m.hintId.val < Nat.pow 2 128) :
  Codec.decode ofJson? (Codec.encode m.toJson) = .ok m
  := by
  apply Codec.decode_encode_obj
  · intro x hx
    simp only [List.mem_cons, List.not_mem_nil, or_false] at hx
    rcases hx with rfl | rfl | rfl <;> constructor
  · exact ofJson?_toJson m hu

end PendingHint

end TaskQueue
