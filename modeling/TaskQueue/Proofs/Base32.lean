import TaskQueue.Queue.Naming
import Mathlib

/-!
# Base32 as RFC 4648 defines it

RFC 4648 reads bytes as one stream of bits, each byte from its highest bit, cuts the stream
into groups of five bits, the last group filled with zeros, and writes each group as the
character of the alphabet at that number.  `bit` and `fiveBits` say this of a byte list,
and `encode_eq` says that `encode` writes exactly those characters, `groupWidth` of them.

The encoder reads a byte at a time into a 32-bit buffer.  Between bytes it holds the bits
of the stream past the last full group (`read_spec`): fewer than five, so the buffer is
below `2 ^ 4`; with a byte shifted in it holds at most twelve, and the inner loop only
lowers the count.  So every state the loop passes through is `Bounded`, no shift moves a
bit out of the word or by 32 places or more, and the words compute what numbers would
(`loop_states_bounded`).

Different byte lists have different texts (`encode_injective`).
-/

namespace TaskQueue.Base32

/-! ### The bit stream of a byte list -/

/-- The bytes as one number, the first byte highest. -/
def value (bs : List UInt8) : Nat :=
  bs.foldl (fun acc b => acc * 256 + b.toNat) 0

/-- Bit `k` of the stream: the bytes in order, each from its highest bit; zero past the
end. -/
def bit (bs : List UInt8) (k : Nat) : Bool :=
  (bs[k / 8]?.map fun b => b.toNat.testBit (7 - k % 8)).getD false

/-- The number that the five bits from `k` on spell, the first the highest. -/
def fiveBits (bs : List UInt8) (k : Nat) : Nat :=
  (List.range 5).foldl (fun acc j => 2 * acc + (bit bs (k + j)).toNat) 0

/-- The base32 alphabet of RFC 4648, in lower case. -/
def alphabet : List Char :=
  "abcdefghijklmnopqrstuvwxyz234567".toList

/-- The number of characters for `n` bytes: a group of five bits for each eight, the last
group possibly short. -/
def groupWidth (n : Nat) : Nat :=
  (8 * n + 4) / 5

theorem value_append_singleton (bs : List UInt8) (b : UInt8) :
  value (bs ++ [b]) = value bs * 256 + b.toNat
  := by
  simp [value, List.foldl_append]

theorem value_lt (bs : List UInt8) :
  value bs < 2 ^ (8 * bs.length)
  := by
  induction bs using List.reverseRecOn with
  | nil => simp [value]
  | append_singleton bs b ih =>
    have hb := b.toNat_lt
    rw [value_append_singleton, List.length_append, List.length_singleton,
      Nat.mul_add, Nat.pow_add]
    omega

theorem foldl_value (bs : List UInt8) (a : Nat) :
  bs.foldl (fun acc b => acc * 256 + b.toNat) a = a * 2 ^ (8 * bs.length) + value bs
  := by
  induction bs using List.reverseRecOn with
  | nil => simp [value]
  | append_singleton bs b ih =>
    rw [List.foldl_append, ih, List.foldl_cons, List.foldl_nil, value_append_singleton,
      List.length_append, List.length_singleton, Nat.mul_add, Nat.pow_add]
    ring

theorem value_cons (b : UInt8) (bs : List UInt8) :
  value (b :: bs) = 2 ^ (8 * bs.length) * b.toNat + value bs
  := by
  rw [value, List.foldl_cons, foldl_value]
  ring

/-- The bits of the number of a byte list, read from the top, are the bits of the
stream. -/
theorem testBit_value {bs : List UInt8} {k : Nat} (hk : k < 8 * bs.length) :
  (value bs).testBit (8 * bs.length - 1 - k) = bit bs k
  := by
  induction bs generalizing k with
  | nil => simp at hk
  | cons b bs ih =>
    rw [value_cons, Nat.testBit_two_pow_mul_add _ (value_lt bs)]
    simp only [List.length_cons] at hk ⊢
    by_cases h8 : k < 8
    -- the first byte: its bits stand above those of the rest
    · have hk8 : k / 8 = 0 := Nat.div_eq_of_lt h8
      rw [if_neg (by omega), bit, hk8, Nat.mod_eq_of_lt h8]
      simp only [List.getElem?_cons_zero, Option.map_some, Option.getD_some]
      congr 1
      omega
    · have hk8 : k / 8 = (k - 8) / 8 + 1 := by omega
      have hm8 : k % 8 = (k - 8) % 8 := by omega
      rw [if_pos (by omega), show 8 * (bs.length + 1) - 1 - k = 8 * bs.length - 1 - (k - 8) by
        omega, ih (by omega), bit, bit, hk8, hm8, List.getElem?_cons_succ]

theorem bit_of_le {bs : List UInt8} {k : Nat} (hk : 8 * bs.length ≤ k) :
  bit bs k = false
  := by
  rw [bit, List.getElem?_eq_none (by omega)]
  rfl

/-! ### Groups of five bits -/

theorem fiveBits_eq (bs : List UInt8) (k : Nat) :
  fiveBits bs k = 16 * (bit bs k).toNat + 8 * (bit bs (k + 1)).toNat +
    4 * (bit bs (k + 2)).toNat + 2 * (bit bs (k + 3)).toNat + (bit bs (k + 4)).toNat
  := by
  simp only [fiveBits, List.range_succ, List.range_zero, List.nil_append, List.foldl_append,
    List.foldl_cons, List.foldl_nil, Nat.add_zero]
  omega

/-- Five bits, the first the highest, spell a number below 32 whose binary digits they
are. -/
theorem testBit_five (b₀ b₁ b₂ b₃ b₄ : Bool) :
  let v := 16 * b₀.toNat + 8 * b₁.toNat + 4 * b₂.toNat + 2 * b₃.toNat + b₄.toNat
  v < 32 ∧ v.testBit 4 = b₀ ∧ v.testBit 3 = b₁ ∧ v.testBit 2 = b₂ ∧ v.testBit 1 = b₃ ∧
    v.testBit 0 = b₄
  := by
  revert b₀ b₁ b₂ b₃ b₄
  decide

theorem fiveBits_lt (bs : List UInt8) (k : Nat) :
  fiveBits bs k < 32
  := by
  rw [fiveBits_eq]
  exact (testBit_five _ _ _ _ _).1

theorem testBit_fiveBits (bs : List UInt8) (k : Nat) {j : Nat} (hj : j < 5) :
  (fiveBits bs k).testBit (4 - j) = bit bs (k + j)
  := by
  obtain ⟨-, h4, h3, h2, h1, h0⟩ := testBit_five (bit bs k) (bit bs (k + 1)) (bit bs (k + 2))
    (bit bs (k + 3)) (bit bs (k + 4))
  rw [fiveBits_eq]
  interval_cases j
  · exact h4
  · exact h3
  · exact h2
  · exact h1
  · exact h0

/-- A group of the stream as the number of the bytes, with five zero bits after it, cut at
the end of the group: its five low bits. -/
theorem testBit_group {bs : List UInt8} {i j : Nat} (hi : 5 * i < 8 * bs.length)
    (hj : j < 5) :
  (value bs * 32 / 2 ^ (8 * bs.length - 5 * i) % 32).testBit (4 - j) = bit bs (5 * i + j)
  := by
  rw [show (32 : Nat) = 2 ^ 5 from rfl, Nat.testBit_mod_two_pow, Nat.testBit_div_two_pow,
    Nat.testBit_mul_two_pow]
  by_cases hin : 5 * i + j < 8 * bs.length
  · have h4 : 4 - j < 5 := by omega
    have h5 : 5 ≤ 4 - j + (8 * bs.length - 5 * i) := by omega
    rw [show 4 - j + (8 * bs.length - 5 * i) - 5 = 8 * bs.length - 1 - (5 * i + j) by omega,
      testBit_value hin]
    simp [h4, h5]
  -- past the end the group's bits are the zeros after the stream
  · have h5 : ¬ 5 ≤ 4 - j + (8 * bs.length - 5 * i) := by omega
    rw [bit_of_le (by omega)]
    simp [h5]

/-- The group of five bits from bit `5 i` on, for a group that starts inside the stream. -/
theorem fiveBits_eq_group {bs : List UInt8} {i : Nat} (hi : 5 * i < 8 * bs.length) :
  fiveBits bs (5 * i) = value bs * 32 / 2 ^ (8 * bs.length - 5 * i) % 32
  := by
  apply Nat.eq_of_testBit_eq
  intro t
  by_cases ht : t < 5
  · rw [show t = 4 - (4 - t) by omega, testBit_fiveBits _ _ (by omega),
      testBit_group hi (by omega)]
  · rw [Nat.testBit_lt_two_pow (lt_of_lt_of_le (fiveBits_lt bs _)
        (Nat.pow_le_pow_right Nat.two_pos (by omega : 5 ≤ t))),
      Nat.testBit_lt_two_pow (lt_of_lt_of_le (Nat.mod_lt _ (by decide))
        (Nat.pow_le_pow_right Nat.two_pos (by omega : 5 ≤ t)))]

/-! ### Arithmetic of the buffer -/

/-- Five zero bits after a number, then cut five bits further: the number cut. -/
theorem mul_32_div_pow (v e : Nat) :
  v * 32 / 2 ^ (e + 5) = v / 2 ^ e
  := by
  rw [Nat.pow_add, show (32 : Nat) = 2 ^ 5 from rfl, Nat.mul_div_mul_right _ _ (by decide)]

/-- The last group: the `r` bits left over, then `5 - r` zeros. -/
theorem mul_32_div_pow_mod (v : Nat) {r : Nat} (hr : r ≤ 5) :
  v * 32 / 2 ^ r % 32 = v % 2 ^ r * 2 ^ (5 - r)
  := by
  have h32 : (32 : Nat) = 2 ^ r * 2 ^ (5 - r) := by
    rw [← Nat.pow_add, Nat.add_sub_cancel' hr]
  rw [h32, ← Nat.mul_assoc, Nat.mul_comm v, Nat.mul_assoc,
    Nat.mul_div_cancel_left _ (Nat.two_pow_pos r), Nat.mul_mod_mul_right]

/-- A byte put below the low `r` bits of a number: the low `r + 8` bits of the number with
the byte appended. -/
theorem mod_mul_add_byte (v r : Nat) {b : Nat} (hb : b < 256) :
  v % 2 ^ r * 256 + b = (v * 256 + b) % 2 ^ (r + 8)
  := by
  have hlt : v % 2 ^ r * 256 + b < 2 ^ r * 256 := by
    have := Nat.mod_lt v (Nat.two_pow_pos r)
    nlinarith
  conv_rhs => rw [← Nat.div_add_mod v (2 ^ r)]
  rw [Nat.pow_add, show (2 : Nat) ^ 8 = 256 from rfl, Nat.add_mul, Nat.add_assoc,
    Nat.mul_assoc, Nat.mul_comm (2 ^ r) (v / 2 ^ r * 256),
    show v / 2 ^ r * 256 * 2 ^ r = v / 2 ^ r * (2 ^ r * 256) by ring,
    Nat.mul_add_mod_of_lt hlt]

/-- Five bits below the top of the low `m` bits are those of the number. -/
theorem mod_div_mod_32 (x : Nat) {e m : Nat} (h : e + 5 ≤ m) :
  x % 2 ^ m / 2 ^ e % 32 = x / 2 ^ e % 32
  := by
  rw [show m = e + (m - e) by omega, Nat.pow_add, Nat.mod_mul_right_div_self,
    Nat.mod_mod_of_dvd _ (by
      rw [show (32 : Nat) = 2 ^ 5 from rfl]
      exact Nat.pow_dvd_pow 2 (by omega))]

namespace Acc

/-- The states the loop keeps to: fewer than 13 bits held, in a buffer below `2 ^ 13`. -/
def Bounded (a : Acc) : Prop :=
  a.buffer.toNat < 2 ^ 13 ∧ a.bits.toNat < 13

theorem shiftIn_buffer (a : Acc) (b : UInt8) (h : a.buffer.toNat < 2 ^ 24) :
  (a.shiftIn b).buffer.toNat = a.buffer.toNat * 256 + b.toNat
  := by
  have hb := b.toNat_lt
  have hshift : a.buffer.toNat <<< ((8 : UInt32).toNat % 32) % 2 ^ 32 = a.buffer.toNat <<< 8 := by
    rw [show (8 : UInt32).toNat % 32 = 8 from rfl, Nat.shiftLeft_eq]
    exact Nat.mod_eq_of_lt (by omega)
  simp only [shiftIn, UInt32.toNat_or, UInt32.toNat_shiftLeft, UInt8.toNat_toUInt32, hshift]
  rw [← Nat.shiftLeft_add_eq_or_of_lt (by simpa using hb), Nat.shiftLeft_eq]

theorem shiftIn_bits (a : Acc) (b : UInt8) (h : a.bits.toNat < 2 ^ 32 - 8) :
  (a.shiftIn b).bits.toNat = a.bits.toNat + 8
  := by
  simp only [shiftIn, UInt32.toNat_add]
  exact Nat.mod_eq_of_lt (by rw [show (8 : UInt32).toNat = 8 from rfl]; omega)

theorem emit_buffer (a : Acc) :
  a.emit.buffer = a.buffer
  := rfl

theorem emit_bits (a : Acc) (h : 5 ≤ a.bits.toNat) :
  a.emit.bits.toNat = a.bits.toNat - 5
  := UInt32.toNat_sub_of_le _ _ (UInt32.le_iff_toNat_le.2 h)

theorem emit_out (a : Acc) (h : 5 ≤ a.bits.toNat) (h' : a.bits.toNat < 37) :
  a.emit.out = a.out ++ [digit (a.buffer.toNat / 2 ^ (a.bits.toNat - 5) % 32)]
  := by
  have hbits : (a.bits - 5).toNat = a.bits.toNat - 5 := emit_bits a h
  simp only [emit, UInt32.toNat_and, UInt32.toNat_shiftRight, hbits,
    Nat.mod_eq_of_lt (by omega : a.bits.toNat - 5 < 32), Nat.shiftRight_eq_div_pow]
  rw [show (0x1f : UInt32).toNat = 2 ^ 5 - 1 from rfl, Nat.and_two_pow_sub_one_eq_mod]

/-- The inner loop writes a character for each five bits held. -/
theorem drain_eq_iterate (a : Acc) :
  a.drain = emit^[a.bits.toNat / 5] a
  := by
  fun_induction drain a with
  | case1 a h ih =>
    have h5 : 5 ≤ a.bits.toNat := UInt32.le_iff_toNat_le.1 h
    rw [ih, emit_bits a h5, show a.bits.toNat / 5 = (a.bits.toNat - 5) / 5 + 1 by omega,
      Function.iterate_succ_apply]
  | case2 a h =>
    have h5 : a.bits.toNat < 5 := by
      simpa [UInt32.le_iff_toNat_le] using h
    rw [Nat.div_eq_of_lt h5, Function.iterate_zero_apply]

/-- `k` steps of the inner loop keep the buffer, take `5 k` bits and write the character
of each group of five, highest first. -/
theorem iterate_emit (a : Acc) {k : Nat} (hk : 5 * k ≤ a.bits.toNat)
    (h32 : a.bits.toNat < 32) :
  (emit^[k] a).buffer = a.buffer ∧ (emit^[k] a).bits.toNat = a.bits.toNat - 5 * k ∧
    (emit^[k] a).out = a.out ++ (List.range k).map fun j =>
      digit (a.buffer.toNat / 2 ^ (a.bits.toNat - 5 * (j + 1)) % 32)
  := by
  induction k with
  | zero => simp
  | succ k ih =>
    obtain ⟨hbuf, hbits, hout⟩ := ih (by omega)
    rw [Function.iterate_succ_apply']
    have h5 : 5 ≤ (emit^[k] a).bits.toNat := by omega
    refine ⟨by rw [emit_buffer, hbuf], by rw [emit_bits _ h5, hbits]; omega, ?_⟩
    rw [emit_out _ h5 (by omega), hout, hbuf, hbits, List.range_succ, List.map_append,
      List.append_assoc, List.map_singleton]
    congr 4

theorem mask_buffer (a : Acc) (h : a.bits.toNat < 32) :
  a.mask.buffer.toNat = a.buffer.toNat % 2 ^ a.bits.toNat
  := by
  have hpow : ((1 : UInt32) <<< a.bits).toNat = 2 ^ a.bits.toNat := by
    rw [UInt32.toNat_shiftLeft, Nat.mod_eq_of_lt h, show (1 : UInt32).toNat = 1 from rfl,
      Nat.shiftLeft_eq, Nat.one_mul]
    exact Nat.mod_eq_of_lt (Nat.pow_lt_pow_right (by decide) h)
  have hsub : ((1 : UInt32) <<< a.bits - 1).toNat = 2 ^ a.bits.toNat - 1 := by
    rw [UInt32.toNat_sub_of_le _ _ (UInt32.le_iff_toNat_le.2 (by
      rw [hpow, show (1 : UInt32).toNat = 1 from rfl]
      exact Nat.one_le_two_pow)), hpow]
    rfl
  simp only [mask, UInt32.toNat_and, hsub, Nat.and_two_pow_sub_one_eq_mod]

theorem mask_bits (a : Acc) :
  a.mask.bits = a.bits
  := rfl

theorem mask_out (a : Acc) :
  a.mask.out = a.out
  := rfl

theorem read_append_singleton (bs : List UInt8) (b : UInt8) :
  read (bs ++ [b]) = (read bs).push b
  := by
  simp [read, List.foldl_append]

/-- Between bytes the encoder has written the character of every full group of the bits
read, and holds the bits after them. -/
theorem read_spec (bs : List UInt8) :
  (read bs).bits.toNat = 8 * bs.length % 5 ∧
    (read bs).buffer.toNat = value bs % 2 ^ (8 * bs.length % 5) ∧
    (read bs).out = (List.range (8 * bs.length / 5)).map fun i =>
      digit (value bs / 2 ^ (8 * bs.length - 5 * i - 5) % 32)
  := by
  induction bs using List.reverseRecOn with
  | nil => exact ⟨rfl, by simp [read, init, value], rfl⟩
  | append_singleton bs b ih =>
    obtain ⟨hbits, hbuf, hout⟩ := ih
    set n := bs.length
    set r := 8 * n % 5 with hr
    set V := value bs
    have hb := b.toNat_lt
    have hr5 : r < 5 := Nat.mod_lt _ (by decide)
    have hbufr : (read bs).buffer.toNat < 2 ^ r := hbuf ▸ Nat.mod_lt _ (Nat.two_pow_pos r)
    -- the byte goes below the bits held: `r + 8` bits, no more than twelve
    set s := (read bs).shiftIn b with hs
    have hsbuf : s.buffer.toNat = (V * 256 + b.toNat) % 2 ^ (r + 8) := by
      rw [hs, shiftIn_buffer _ _ (lt_of_lt_of_le hbufr (Nat.pow_le_pow_right Nat.two_pos
        (by omega))), hbuf, mod_mul_add_byte _ _ hb]
    have hsbits : s.bits.toNat = r + 8 := by
      rw [hs, shiftIn_bits _ _ (by omega), hbits]
    obtain ⟨hdbuf, hdbits, hdout⟩ := iterate_emit s (le_refl (5 * (s.bits.toNat / 5)) |>.trans
      (Nat.mul_div_le _ _)) (by omega)
    rw [read_append_singleton, push, drain_eq_iterate, ← hs, value_append_singleton,
      List.length_append, List.length_singleton]
    refine ⟨?_, ?_, ?_⟩
    · rw [mask_bits, hdbits, hsbits]
      omega
    · rw [mask_buffer _ (by omega), hdbuf, hdbits, hsbuf, hsbits,
        Nat.mod_mod_of_dvd _ (Nat.pow_dvd_pow 2 (by omega))]
      congr 2
      omega
    -- the characters already written stay; the new ones are the groups that the byte
    -- completes
    · rw [mask_out, hdout, hsbits, hsbuf, show s.out = (read bs).out from rfl, hout,
        show 8 * (n + 1) / 5 = 8 * n / 5 + (r + 8) / 5 by omega, List.range_add,
        List.map_append, List.map_map]
      congr 1
      · apply List.map_congr_left
        intro i hi
        rw [List.mem_range] at hi
        have hdiv : (value bs * 256 + b.toNat) / 256 = value bs := by omega
        rw [show 8 * (n + 1) - 5 * i - 5 = (8 * n - 5 * i - 5) + 8 by omega, Nat.pow_add,
          show (2 : Nat) ^ 8 = 256 from rfl, Nat.mul_comm (2 ^ (8 * n - 5 * i - 5)) 256,
          ← Nat.div_div_eq_div_mul, hdiv]
      · apply List.map_congr_left
        intro j hj
        rw [List.mem_range] at hj
        rw [Function.comp_apply, mod_div_mod_32 _ (by omega),
          show 8 * (n + 1) - 5 * (8 * n / 5 + j) - 5 = r + 8 - 5 * (j + 1) by omega]

/-- Between bytes the encoder holds fewer than five bits, and nothing above them. -/
theorem read_bounds (bs : List UInt8) :
  (read bs).bits.toNat < 5 ∧ (read bs).buffer.toNat < 2 ^ (read bs).bits.toNat
  := by
  obtain ⟨hbits, hbuf, -⟩ := read_spec bs
  rw [hbuf, hbits]
  exact ⟨Nat.mod_lt _ (by decide), Nat.mod_lt _ (Nat.two_pow_pos _)⟩

theorem read_bounded (bs : List UInt8) :
  (read bs).Bounded
  := by
  obtain ⟨hbits, hbuf⟩ := read_bounds bs
  have hle : 2 ^ (read bs).bits.toNat ≤ 2 ^ 13 := Nat.pow_le_pow_right Nat.two_pos (by omega)
  exact ⟨by omega, by omega⟩

/-- Reading a byte: it goes below the bits held with none lost, and every state of the
inner loop that follows holds at most twelve bits, below `2 ^ 12`. -/
theorem shiftIn_bounded (bs : List UInt8) (b : UInt8) :
  ((read bs).shiftIn b).buffer.toNat = (read bs).buffer.toNat * 256 + b.toNat ∧
    ∀ k ≤ ((read bs).shiftIn b).bits.toNat / 5, (emit^[k] ((read bs).shiftIn b)).Bounded
  := by
  obtain ⟨hbits, hbuf⟩ := read_bounds bs
  have hb := b.toNat_lt
  have h16 : (read bs).buffer.toNat < 2 ^ 4 :=
    lt_of_lt_of_le hbuf (Nat.pow_le_pow_right Nat.two_pos (by omega))
  have hsbuf := shiftIn_buffer (read bs) b (by omega)
  have hsbits := shiftIn_bits (read bs) b (by omega)
  refine ⟨hsbuf, fun k hk => ?_⟩
  -- the inner loop keeps the buffer and only lowers the count
  obtain ⟨hkbuf, hkbits, -⟩ := iterate_emit ((read bs).shiftIn b)
    (k := k) (by omega) (by omega)
  refine ⟨?_, ?_⟩
  · rw [hkbuf, hsbuf]
    omega
  · rw [hkbits]
    omega

end Acc

/-! ### The text -/

/-- The last character, for the `r` bits left over, zeros after them. -/
theorem finish_of_pos (a : Acc) (h0 : 0 < a.bits.toNat) (h5 : a.bits.toNat < 5)
    (hbuf : a.buffer.toNat < 2 ^ a.bits.toNat) :
  a.finish = a.out ++ [digit (a.buffer.toNat * 2 ^ (5 - a.bits.toNat))]
  := by
  have hpos : 0 < a.bits := UInt32.lt_iff_toNat_lt.2 h0
  have hsub : (5 - a.bits).toNat = 5 - a.bits.toNat :=
    UInt32.toNat_sub_of_le _ _ (UInt32.le_iff_toNat_le.2 (by
      rw [show (5 : UInt32).toNat = 5 from rfl]
      omega))
  have hlt : a.buffer.toNat * 2 ^ (5 - a.bits.toNat) < 32 := by
    calc a.buffer.toNat * 2 ^ (5 - a.bits.toNat)
        < 2 ^ a.bits.toNat * 2 ^ (5 - a.bits.toNat) :=
          Nat.mul_lt_mul_of_pos_right hbuf (Nat.two_pow_pos _)
      _ = 32 := by rw [← Nat.pow_add, Nat.add_sub_cancel' (by omega)]
  simp only [Acc.finish, if_pos hpos, UInt32.toNat_and, UInt32.toNat_shiftLeft, hsub,
    Nat.mod_eq_of_lt (by omega : 5 - a.bits.toNat < 32), Nat.shiftLeft_eq,
    Nat.mod_eq_of_lt (by omega : a.buffer.toNat * 2 ^ (5 - a.bits.toNat) < 2 ^ 32)]
  rw [show (0x1f : UInt32).toNat = 2 ^ 5 - 1 from rfl, Nat.and_two_pow_sub_one_eq_mod,
    Nat.mod_eq_of_lt (by simpa using hlt)]

/-- Base32 is RFC 4648: the `i`-th character is the digit of the five bits of the stream
from bit `5 i` on, the last group filled with zeros. -/
theorem encode_eq (bs : List UInt8) :
  encode bs = (List.range (groupWidth bs.length)).map fun i => digit (fiveBits bs (5 * i))
  := by
  obtain ⟨hbits, hbuf, hout⟩ := Acc.read_spec bs
  set n := bs.length
  set V := value bs
  have hfull : ∀ i ∈ List.range (8 * n / 5),
      digit (V / 2 ^ (8 * n - 5 * i - 5) % 32) = digit (fiveBits bs (5 * i)) := by
    intro i hi
    rw [List.mem_range] at hi
    rw [fiveBits_eq_group (by omega), show 8 * n - 5 * i = (8 * n - 5 * i - 5) + 5 by omega,
      mul_32_div_pow, Nat.add_sub_cancel]
  by_cases hr : 8 * n % 5 = 0
  -- the stream ends with a full group
  · have hfin : (Acc.read bs).finish = (Acc.read bs).out := by
      have h0 : (Acc.read bs).bits = 0 := UInt32.toNat_inj.1 (by rw [hbits, hr]; rfl)
      simp [Acc.finish, h0]
    rw [encode, hfin, hout, show groupWidth n = 8 * n / 5 by unfold groupWidth; omega]
    exact List.map_congr_left hfull
  -- a last group of `r` bits and `5 - r` zeros
  · have hbuf' : (Acc.read bs).buffer.toNat < 2 ^ (Acc.read bs).bits.toNat := by
      rw [hbuf, hbits]
      exact Nat.mod_lt _ (Nat.two_pow_pos _)
    rw [encode, finish_of_pos _ (by omega) (by omega) hbuf', hout,
      show groupWidth n = 8 * n / 5 + 1 by unfold groupWidth; omega, List.range_succ,
      List.map_append, List.map_singleton, List.map_congr_left hfull, hbuf, hbits]
    rw [fiveBits_eq_group (by omega), show 8 * n - 5 * (8 * n / 5) = 8 * n % 5 by omega,
      mul_32_div_pow_mod _ (by omega)]

/-- Eight characters for each five bytes, rounded up. -/
theorem encode_length (bs : List UInt8) :
  (encode bs).length = groupWidth bs.length
  := by
  simp [encode_eq]

theorem digit_eq_getElem_alphabet {v : Nat} (hv : v < 32) :
  alphabet[v]? = some (digit v)
  := by
  have key : ∀ v < 32, alphabet[v]? = some (digit v) := by decide
  exact key v hv

theorem digit_mem_alphabet {v : Nat} (hv : v < 32) :
  digit v ∈ alphabet
  := List.mem_of_getElem? (digit_eq_getElem_alphabet hv)

theorem digit_injOn {v w : Nat} (hv : v < 32) (hw : w < 32) (h : digit v = digit w) :
  v = w
  := by
  have hnd : alphabet.Nodup := by decide
  have hv' := digit_eq_getElem_alphabet hv
  have hw' := digit_eq_getElem_alphabet hw
  rw [h] at hv'
  have hvl : v < alphabet.length := by rw [show alphabet.length = 32 from rfl]; exact hv
  have hwl : w < alphabet.length := by rw [show alphabet.length = 32 from rfl]; exact hw
  exact (List.Nodup.getElem_inj_iff hnd).1
    (Option.some_injective _ ((List.getElem?_eq_getElem hvl).symm.trans
      (hv'.trans (hw'.symm.trans (List.getElem?_eq_getElem hwl)))))

/-- A byte is its eight bits in the stream. -/
theorem testBit_getElem {bs : List UInt8} {q t : Nat} (hq : q < bs.length) (ht : t < 8) :
  bs[q].toNat.testBit t = bit bs (8 * q + (7 - t))
  := by
  rw [bit, show (8 * q + (7 - t)) / 8 = q by omega, show (8 * q + (7 - t)) % 8 = 7 - t by omega,
    List.getElem?_eq_getElem hq, Option.map_some, Option.getD_some, show 7 - (7 - t) = t by
      omega]

/-- Byte lists of one length whose streams agree are equal. -/
theorem eq_of_bit_eq {bs cs : List UInt8} (hlen : bs.length = cs.length)
    (h : ∀ k < 8 * bs.length, bit bs k = bit cs k) :
  bs = cs
  := by
  apply List.ext_getElem hlen
  intro q hq hq'
  apply UInt8.toNat_inj.1
  apply Nat.eq_of_testBit_eq
  intro t
  by_cases ht : t < 8
  · rw [testBit_getElem hq ht, testBit_getElem hq' ht, h _ (by omega)]
  · have hle : 2 ^ 8 ≤ 2 ^ t := Nat.pow_le_pow_right Nat.two_pos (by omega)
    rw [Nat.testBit_lt_two_pow (lt_of_lt_of_le bs[q].toNat_lt hle),
      Nat.testBit_lt_two_pow (lt_of_lt_of_le cs[q].toNat_lt hle)]

/-- Different byte lists have different texts. -/
theorem encode_injective :
  Function.Injective encode
  := by
  intro bs cs h
  have hw : groupWidth bs.length = groupWidth cs.length := by
    rw [← encode_length, ← encode_length, h]
  have hlen : bs.length = cs.length := by
    unfold groupWidth at hw
    omega
  rw [encode_eq, encode_eq, hw] at h
  apply eq_of_bit_eq hlen
  intro k hk
  -- bit `k` is bit `4 - k % 5` of the digit of group `k / 5`
  have hi : k / 5 < groupWidth cs.length := by unfold groupWidth; omega
  have hd := congrArg (·[k / 5]?) h
  simp only [List.getElem?_map, List.getElem?_range hi, Option.map_some,
    Option.some_inj] at hd
  have hv := digit_injOn (fiveBits_lt _ _) (fiveBits_lt _ _) hd
  have hbit := congrArg (Nat.testBit · (4 - k % 5)) hv
  simp only [testBit_fiveBits _ _ (Nat.mod_lt k (by decide))] at hbit
  rwa [Nat.div_add_mod] at hbit

theorem mem_alphabet_of_mem_encode {bs : List UInt8} {c : Char} (hc : c ∈ encode bs) :
  c ∈ alphabet
  := by
  rw [encode_eq, List.mem_map] at hc
  obtain ⟨i, -, rfl⟩ := hc
  exact digit_mem_alphabet (fiveBits_lt bs _)

end Base32

/-! ### Digests of identifiers -/

/-- A digest has 24 characters: fifteen bytes in base32. -/
theorem hashIdentifier_length (s : String) :
  (hashIdentifier s).toList.length = 24
  := by
  simp [hashIdentifier, Base32.encode_length, Sha256.digest_length, Base32.groupWidth]

/-- Two identifiers have one digest exactly when the first fifteen bytes of their SHA-256
digests agree. -/
theorem hashIdentifier_eq_iff (s t : String) :
  hashIdentifier s = hashIdentifier t ↔
    (Sha256.digest s.toUTF8.toList).take 15 = (Sha256.digest t.toUTF8.toList).take 15
  := by
  constructor
  · intro h
    apply Base32.encode_injective
    have h' := congrArg String.toList h
    simpa only [hashIdentifier, String.toList_ofList] using h'
  · intro h
    rw [hashIdentifier, hashIdentifier, h]

namespace Base32

/-- Lowercase base32 is RFC 4648 without padding: `⌈8 n / 5⌉` characters for `n` bytes,
the `i`-th the letter of the alphabet at the five bits of the stream from bit `5 i` on,
zeros past its end.  Throughout the loop the buffer stays below `2 ^ 13` and holds fewer
than 13 bits, so no shift loses a bit or goes 32 places or more.  Hence a digest of an
identifier is 24 characters of `[a-z2-7]`, one for each fifteen-byte digest prefix. -/
theorem encode_is_rfc4648 (bs : List UInt8) (s t : String) :
  ((encode bs).length = (8 * bs.length + 4) / 5 ∧
      ∀ i < (8 * bs.length + 4) / 5, (encode bs)[i]? = alphabet[fiveBits bs (5 * i)]?) ∧
    ((∀ pre : List UInt8, (Acc.read pre).Bounded) ∧
      ∀ (pre : List UInt8) (b : UInt8),
        ((Acc.read pre).shiftIn b).buffer.toNat = (Acc.read pre).buffer.toNat * 256 + b.toNat ∧
        ∀ k ≤ ((Acc.read pre).shiftIn b).bits.toNat / 5,
          (Acc.emit^[k] ((Acc.read pre).shiftIn b)).Bounded) ∧
    ((hashIdentifier s).length = 24 ∧ (∀ c ∈ (hashIdentifier s).toList, c ∈ alphabet) ∧
      (hashIdentifier s = hashIdentifier t ↔
        (Sha256.digest s.toUTF8.toList).take 15 = (Sha256.digest t.toUTF8.toList).take 15))
  := by
  refine ⟨⟨encode_length bs, fun i hi => ?_⟩, ⟨Acc.read_bounded, Acc.shiftIn_bounded⟩,
    ⟨?_, fun c hc => ?_, hashIdentifier_eq_iff s t⟩⟩
  · rw [encode_eq, List.getElem?_map, List.getElem?_range (show i < groupWidth bs.length from hi), Option.map_some,
      digit_eq_getElem_alphabet (fiveBits_lt bs _)]
  · rw [← String.length_toList, hashIdentifier_length]
  · rw [hashIdentifier, String.toList_ofList] at hc
    exact mem_alphabet_of_mem_encode hc

end TaskQueue.Base32
