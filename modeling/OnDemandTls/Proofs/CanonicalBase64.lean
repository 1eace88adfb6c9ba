import Mathlib.Data.List.Basic
import Mathlib.Data.Nat.Bitwise
import OnDemandTls.Proofs.Base64

namespace OnDemandTls

/-!
# The one encoding of bytes

What base64 is, apart from how digits are computed: letters of an alphabet whose
places, written with six bits each, are the bits of the bytes one after another,
filled up with fewer than six zeros (`Base64.Encodes`).  Bytes have exactly one
encoding, the digits that are written for them (`Base64.encodes_iff`), and a strict
reader accepts that encoding and no other text (`Base64.decode?_eq_some_iff`).
-/

namespace Base64

/-! ## Bits -/

/-- The lowest bits of a number, as many as are asked for, the highest of them
first. -/
def bits : Nat → Nat → List Bool
  | 0, _ => []
  | count + 1, value => value.testBit count :: bits count value

theorem length_bits (count value : Nat) : (bits count value).length = count := by
  induction count with
  | zero => rfl
  | succ count inductionHypothesis => rw [bits, List.length_cons, inductionHypothesis]

theorem bits_zero (count : Nat) : bits count 0 = List.replicate count false := by
  induction count with
  | zero => rfl
  | succ count inductionHypothesis =>
      rw [bits, inductionHypothesis, Nat.zero_testBit, List.replicate_succ]

theorem bits_eq_iff
    {count first second : Nat} :
    bits count first = bits count second ↔
      ∀ place < count, first.testBit place = second.testBit place := by
  induction count with
  | zero => simp [bits]
  | succ count inductionHypothesis =>
      rw [bits, bits, List.cons.injEq, inductionHypothesis]
      constructor
      · rintro ⟨top, below⟩ place bounded
        rcases Nat.lt_succ_iff_lt_or_eq.mp bounded with lower | rfl
        · exact below place lower
        · exact top
      · intro same
        exact ⟨same count (Nat.lt_succ_self count),
          fun place lower => same place (Nat.lt_succ_of_lt lower)⟩

/-- A number is told from the others of its size by its bits. -/
theorem eq_of_bits_eq
    {count first second : Nat}
    (firstBound : first < 2 ^ count)
    (secondBound : second < 2 ^ count)
    (same : bits count first = bits count second) :
    first = second := by
  refine Nat.eq_of_testBit_eq fun place => ?_
  by_cases inside : place < count
  · exact bits_eq_iff.mp same place inside
  · have above : 2 ^ count ≤ 2 ^ place := Nat.pow_le_pow_right (by decide) (Nat.not_lt.mp inside)
    rw [Nat.testBit_lt_two_pow (Nat.lt_of_lt_of_le firstBound above),
      Nat.testBit_lt_two_pow (Nat.lt_of_lt_of_le secondBound above)]

/-- The bits of a number fall into those of its two parts. -/
theorem bits_append
    (upper lower value : Nat) :
    bits (upper + lower) value =
      bits upper (value / 2 ^ lower) ++ bits lower (value % 2 ^ lower) := by
  induction upper with
  | zero =>
      rw [Nat.zero_add, bits, List.nil_append, bits_eq_iff]
      intro place bounded
      rw [Nat.testBit_mod_two_pow, decide_eq_true bounded, Bool.true_and]
  | succ upper inductionHypothesis =>
      rw [Nat.succ_add, bits, inductionHypothesis, bits, List.cons_append,
        Nat.testBit_div_two_pow, Nat.add_comm]

/-- Two numbers put together have the bits of both. -/
theorem bits_mul_add
    (upper high : Nat)
    {lower low : Nat}
    (small : low < 2 ^ lower) :
    bits (upper + lower) (high * 2 ^ lower + low) = bits upper high ++ bits lower low := by
  have quotient : (high * 2 ^ lower + low) / 2 ^ lower = high := by
    rw [Nat.mul_comm, Nat.mul_add_div (Nat.two_pow_pos lower), Nat.div_eq_of_lt small, Nat.add_zero]
  have remainder : (high * 2 ^ lower + low) % 2 ^ lower = low := by
    rw [Nat.mul_comm, Nat.mul_add_mod, Nat.mod_eq_of_lt small]
  rw [bits_append, quotient, remainder]

theorem length_flatMap_bits
    (count : Nat)
    (values : List Nat) :
    (values.flatMap (bits count)).length = count * values.length := by
  induction values with
  | nil => rfl
  | cons value values inductionHypothesis =>
      rw [List.flatMap_cons, List.length_append, length_bits, inductionHypothesis,
        List.length_cons, Nat.mul_succ, Nat.add_comm]

/-- Numbers of one size are told from others by their bits one after another. -/
theorem eq_of_flatMap_bits_eq
    {count : Nat}
    (positive : 0 < count)
    {first second : List Nat}
    (firstBound : ∀ value ∈ first, value < 2 ^ count)
    (secondBound : ∀ value ∈ second, value < 2 ^ count)
    (same : first.flatMap (bits count) = second.flatMap (bits count)) :
    first = second := by
  have lengths : first.length = second.length :=
    Nat.eq_of_mul_eq_mul_left positive
      (by rw [← length_flatMap_bits, same, length_flatMap_bits])
  induction first generalizing second with
  | nil => exact (List.length_eq_zero_iff.mp lengths.symm).symm
  | cons value first inductionHypothesis =>
      cases second with
      | nil => cases lengths
      | cons other second =>
          rw [List.flatMap_cons, List.flatMap_cons] at same
          obtain ⟨heads, tails⟩ := List.append_inj same (by rw [length_bits, length_bits])
          obtain ⟨valueBound, firstBound⟩ := List.forall_mem_cons.mp firstBound
          obtain ⟨otherBound, secondBound⟩ := List.forall_mem_cons.mp secondBound
          rw [eq_of_bits_eq valueBound otherBound heads,
            inductionHypothesis firstBound secondBound tails (Nat.succ.inj lengths)]

/-! ## Three bytes and four digits -/

/-- The bits of some bytes. -/
def bitsOf (bytes : Bytes) : List Bool :=
  bytes.flatMap fun byte => bits 8 byte.toNat

theorem bits_firstByte (a : UInt8) :
    bits 8 a.toNat = bits 6 (a.toNat / 4) ++ bits 2 (a.toNat % 4) :=
  bits_append 6 2 _

theorem bits_secondByte (b : UInt8) :
    bits 8 b.toNat = bits 4 (b.toNat / 16) ++ bits 4 (b.toNat % 16) :=
  bits_append 4 4 _

theorem bits_thirdByte (c : UInt8) :
    bits 8 c.toNat = bits 2 (c.toNat / 64) ++ bits 6 (c.toNat % 64) :=
  bits_append 2 6 _

/-- The second digit has two bits of one byte and four bits of the next. -/
theorem bits_secondDigit (a b : UInt8) :
    bits 6 (a.toNat % 4 * 16 + b.toNat / 16) =
      bits 2 (a.toNat % 4) ++ bits 4 (b.toNat / 16) := by
  have below := b.toNat_lt
  exact bits_mul_add 2 _ (show b.toNat / 16 < 2 ^ 4 by omega)

/-- The third digit has four bits of one byte and two bits of the next. -/
theorem bits_thirdDigit (b c : UInt8) :
    bits 6 (b.toNat % 16 * 4 + c.toNat / 64) =
      bits 4 (b.toNat % 16) ++ bits 2 (c.toNat / 64) := by
  have below := c.toNat_lt
  exact bits_mul_add 4 _ (show c.toNat / 64 < 2 ^ 2 by omega)

/-- The digits of some bytes have the bits of the bytes, and zeros that fill the last
digit. -/
theorem flatMap_bits_toValues (bytes : Bytes) :
    ∃ zeros < 6,
      (toValues bytes).flatMap (bits 6) = bitsOf bytes ++ List.replicate zeros false := by
  induction bytes using toValues.induct with
  | case1 => exact ⟨0, by decide, rfl⟩
  | case2 a =>
      -- A byte that is left over ends as if a zero byte followed on it.
      have last : bits 6 (a.toNat % 4 * 16) = bits 2 (a.toNat % 4) ++ bits 4 0 :=
        bits_secondDigit a 0
      refine ⟨4, by decide, ?_⟩
      simp only [toValues, bitsOf, List.flatMap_cons, List.flatMap_nil, List.append_nil,
        bits_firstByte, last, bits_zero, List.append_assoc]
  | case3 a b =>
      have last : bits 6 (b.toNat % 16 * 4) = bits 4 (b.toNat % 16) ++ bits 2 0 :=
        bits_thirdDigit b 0
      refine ⟨2, by decide, ?_⟩
      rw [bitsOf, List.flatMap_cons, List.flatMap_cons, bits_firstByte, bits_secondByte]
      simp only [toValues, List.flatMap_cons, List.flatMap_nil, List.append_nil, bits_secondDigit,
        last, bits_zero, List.append_assoc]
  | case4 a b c rest inductionHypothesis =>
      obtain ⟨zeros, few, others⟩ := inductionHypothesis
      refine ⟨zeros, few, ?_⟩
      rw [bitsOf, List.flatMap_cons, List.flatMap_cons, List.flatMap_cons, bits_firstByte,
        bits_secondByte, bits_thirdByte]
      simp only [toValues, List.flatMap_cons, bits_secondDigit, bits_thirdDigit, others, bitsOf,
        List.append_assoc]

/-! ## Letters -/

/-- The letters of an alphabet in the order of their values. -/
def letters : Alphabet → String
  | .standard => "ABCDEFGHIJKLMNOPQRSTUVWXYZabcdefghijklmnopqrstuvwxyz0123456789+/"
  | .url => "ABCDEFGHIJKLMNOPQRSTUVWXYZabcdefghijklmnopqrstuvwxyz0123456789-_"

/-- The place of a letter in its alphabet. -/
def place
    (alphabet : Alphabet)
    (c : Char) :
    Nat :=
  (letters alphabet).toList.idxOf c

/-- A text is the encoding of some bytes without padding: it is made of letters, and
the bits of their places are those of the bytes, followed by fewer than six zeros. -/
structure Encodes
    (alphabet : Alphabet)
    (bytes : Bytes)
    (cs : List Char) :
    Prop where
  lettered : ∀ c ∈ cs, c ∈ (letters alphabet).toList
  filled :
    ∃ zeros < 6,
      cs.flatMap (fun c => bits 6 (place alphabet c)) =
        bitsOf bytes ++ List.replicate zeros false

variable {alphabet : Alphabet} {bytes : Bytes} {cs : List Char} {values : List Nat}

/-- Digits are letters, the ones at the places of their values. -/
theorem letters_eq (alphabet : Alphabet) :
    (letters alphabet).toList = (List.range 64).map (digit alphabet) := by
  cases alphabet <;> decide +kernel

theorem digit_mem_letters
    {value : Nat}
    (small : value < 64) :
    digit alphabet value ∈ (letters alphabet).toList := by
  rw [letters_eq]
  exact List.mem_map_of_mem (List.mem_range.mpr small)

theorem place_digit
    {value : Nat}
    (small : value < 64) :
    place alphabet (digit alphabet value) = value := by
  have all : ∀ value : Fin 64, place alphabet (digit alphabet value) = value.val := by
    cases alphabet <;> decide +kernel
  exact all ⟨value, small⟩

/-- The digit at the place of a letter is the letter. -/
theorem digit_place
    {c : Char}
    (isLetter : c ∈ (letters alphabet).toList) :
    place alphabet c < 64 ∧ digit alphabet (place alphabet c) = c := by
  rw [letters_eq] at isLetter
  obtain ⟨value, inRange, rfl⟩ := List.mem_map.mp isLetter
  have small := List.mem_range.mp inRange
  rw [place_digit small]
  exact ⟨small, rfl⟩

theorem flatMap_bits_place
    (small : ∀ value ∈ values, value < 64) :
    (values.map (digit alphabet)).flatMap (fun c => bits 6 (place alphabet c)) =
      values.flatMap (bits 6) := by
  rw [List.flatMap_map]
  exact List.flatMap_congr fun value member => by rw [place_digit (small value member)]

theorem encodes_digits (alphabet : Alphabet) (bytes : Bytes) :
    Encodes alphabet bytes (digits alphabet bytes) where
  lettered := by
    intro c member
    obtain ⟨value, isValue, rfl⟩ := List.mem_map.mp member
    exact digit_mem_letters (toValues_lt isValue)
  filled := by
    rw [digits, flatMap_bits_place fun value => toValues_lt]
    exact flatMap_bits_toValues bytes

/-- Bytes have one encoding: the digits that are written for them. -/
theorem encodes_iff : Encodes alphabet bytes cs ↔ cs = digits alphabet bytes := by
  constructor
  · intro encodes
    let values := cs.map (place alphabet)
    have small : ∀ value ∈ values, value < 64 := by
      intro value member
      obtain ⟨c, isIn, rfl⟩ := List.mem_map.mp member
      exact (digit_place (encodes.lettered c isIn)).1
    have written : cs = values.map (digit alphabet) := by
      have kept : cs.map (digit alphabet ∘ place alphabet) = cs.map id :=
        List.map_congr_left fun c isIn => (digit_place (encodes.lettered c isIn)).2
      rw [List.map_map, kept, List.map_id]
    obtain ⟨zeros, few, same⟩ := encodes.filled
    obtain ⟨zerosToo, fewToo, sameToo⟩ := flatMap_bits_toValues bytes
    rw [written, flatMap_bits_place small] at same
    -- Both have six bits a digit, so the zeros behind the bits of the bytes are as many
    -- here as there: there are fewer than six of them.
    have length := congrArg List.length same
    have lengthToo := congrArg List.length sameToo
    rw [length_flatMap_bits, List.length_append, List.length_replicate] at length lengthToo
    have sameZeros : zeros = zerosToo := by omega
    have sameValues : values = toValues bytes :=
      eq_of_flatMap_bits_eq (show 0 < 6 by decide) small (fun value => toValues_lt)
        (by rw [same, sameToo, sameZeros])
    rw [written, sameValues, digits]
  · rintro rfl
    exact encodes_digits alphabet bytes

/-! ## Strict readers -/

/-- A character that has a value is its digit. -/
theorem digit_of_value?
    {c : Char}
    {value : Nat}
    (isRead : value? alphabet c = some value) :
    value < 64 ∧ digit alphabet value = c := by
  unfold value? at isRead
  split at isRead
  case isTrue upper =>
    cases isRead
    have first : 65 ≤ c.toNat := UInt32.le_iff_toNat_le.mp upper.1
    have last : c.toNat ≤ 90 := UInt32.le_iff_toNat_le.mp upper.2
    refine ⟨by omega, ?_⟩
    unfold digit
    rw [if_pos (by omega), Nat.add_sub_cancel' first, Char.ofNat_toNat]
  split at isRead
  case isTrue lower =>
    cases isRead
    have first : 97 ≤ c.toNat := UInt32.le_iff_toNat_le.mp lower.1
    have last : c.toNat ≤ 122 := UInt32.le_iff_toNat_le.mp lower.2
    refine ⟨by omega, ?_⟩
    unfold digit
    rw [if_neg (by omega), if_pos (by omega), Nat.add_sub_cancel' (by omega),
      Char.ofNat_toNat]
  split at isRead
  case isTrue decimal =>
    cases isRead
    have first : 48 ≤ c.toNat := UInt32.le_iff_toNat_le.mp decimal.1
    have last : c.toNat ≤ 57 := UInt32.le_iff_toNat_le.mp decimal.2
    refine ⟨by omega, ?_⟩
    unfold digit
    rw [if_neg (by omega), if_neg (by omega), if_pos (by omega), Nat.add_sub_cancel,
      Char.ofNat_toNat]
  split at isRead
  case isTrue isPenultimate =>
    cases isRead
    exact ⟨by decide, isPenultimate.symm⟩
  split at isRead
  case isTrue isLast =>
    cases isRead
    exact ⟨by decide, isLast.symm⟩
  case isFalse => cases isRead

theorem eq_map_digit_of_mapM
    (isRead : cs.mapM (value? alphabet) = some values) :
    cs = values.map (digit alphabet) ∧ ∀ value ∈ values, value < 64 := by
  induction cs generalizing values with
  | nil =>
      cases isRead
      exact ⟨rfl, fun value member => absurd member List.not_mem_nil⟩
  | cons c cs inductionHypothesis =>
      rw [List.mapM_cons] at isRead
      obtain ⟨value, first, isRead⟩ := Option.bind_eq_some_iff.mp isRead
      obtain ⟨others, isRest, isRead⟩ := Option.bind_eq_some_iff.mp isRead
      cases isRead
      obtain ⟨small, isDigit⟩ := digit_of_value? first
      obtain ⟨written, othersSmall⟩ := inductionHypothesis isRest
      rw [List.map_cons, isDigit, ← written]
      exact ⟨rfl, List.forall_mem_cons.mpr ⟨small, othersSmall⟩⟩

/-- Values that a strict reader makes bytes of are those of the bytes. -/
theorem toValues_of_ofValues?
    (small : ∀ value ∈ values, value < 64)
    (isRead : ofValues? true values = some bytes) :
    toValues bytes = values := by
  fun_induction ofValues? true values generalizing bytes with
  | case1 =>
      cases isRead
      rfl
  | case2 value => cases isRead
  | case3 a b leftover => cases isRead
  | case4 a b clean =>
      -- Strictness counts here: the bits of `b` that no byte takes are zero.
      cases isRead
      simp only [List.forall_mem_cons] at small
      have noRest : b % 16 = 0 := by simpa using clean
      simp only [toValues, UInt8.toNat_ofNat', List.cons.injEq, and_true]
      omega
  | case5 a b c leftover => cases isRead
  | case6 a b c clean =>
      cases isRead
      simp only [List.forall_mem_cons] at small
      have noRest : c % 4 = 0 := by simpa using clean
      simp only [toValues, UInt8.toNat_ofNat', List.cons.injEq, and_true]
      omega
  | case7 a b c d rest inductionHypothesis =>
      obtain ⟨others, isRest, rfl⟩ := Option.map_eq_some_iff.mp isRead
      simp only [List.forall_mem_cons] at small
      obtain ⟨aSmall, bSmall, cSmall, dSmall, restSmall⟩ := small
      simp only [toValues, UInt8.toNat_ofNat', List.cons.injEq,
        inductionHypothesis restSmall isRest, and_true]
      omega

/-- A strict reader accepts the one encoding of some bytes and reads it as these. -/
theorem decode?_eq_some_iff : decode? alphabet cs = some bytes ↔ cs = digits alphabet bytes := by
  constructor
  · intro isRead
    obtain ⟨values, areValues, isRead⟩ := Option.bind_eq_some_iff.mp isRead
    obtain ⟨written, small⟩ := eq_map_digit_of_mapM areValues
    rw [written, digits, toValues_of_ofValues? small isRead]
  · rintro rfl
    rw [decode?, mapM_value?_digits, Option.bind_some, ofValues?_toValues]

end Base64

end OnDemandTls
