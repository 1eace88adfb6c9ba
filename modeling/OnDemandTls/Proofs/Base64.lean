import OnDemandTls.Bytes.Base64

namespace OnDemandTls

/-!
# Reading base64

Digits and padding made from bytes are read as these bytes.
-/

namespace Base64

theorem value?_digit
    (alphabet : Alphabet)
    {value : Nat}
    (small : value < 64) :
    value? alphabet (digit alphabet value) = some value := by
  have all : ∀ value : Fin 64, value? alphabet (digit alphabet value) = some value.val := by
    cases alphabet <;> decide +kernel
  exact all ⟨value, small⟩

theorem toValues_lt
    {bytes : Bytes}
    {value : Nat}
    (member : value ∈ toValues bytes) :
    value < 64 := by
  induction bytes using toValues.induct with
  | case1 => cases member
  | case2 a =>
      have below := a.toNat_lt
      simp only [toValues, List.mem_cons, List.not_mem_nil, or_false] at member
      omega
  | case3 a b =>
      have first := a.toNat_lt
      have second := b.toNat_lt
      simp only [toValues, List.mem_cons, List.not_mem_nil, or_false] at member
      omega
  | case4 a b c rest inductionHypothesis =>
      have first := a.toNat_lt
      have second := b.toNat_lt
      have third := c.toNat_lt
      simp only [toValues, List.mem_cons] at member
      rcases member with rfl | rfl | rfl | rfl | inRest
      · omega
      · omega
      · omega
      · omega
      · exact inductionHypothesis inRest

/-- The digits of a byte are put together to that byte. -/
theorem ofNat_toNat_of_mod
    {byte : UInt8}
    {value : Nat}
    (same : value % 256 = byte.toNat) :
    UInt8.ofNat value = byte := by
  rw [← UInt8.toNat_inj, UInt8.toNat_ofNat']
  exact same

/-- The values of the digits of some bytes are read as these bytes. -/
theorem ofValues?_toValues
    (strict : Bool)
    (bytes : Bytes) :
    ofValues? strict (toValues bytes) = some bytes := by
  induction bytes using toValues.induct with
  | case1 => rfl
  | case2 a =>
      have below := a.toNat_lt
      have noRest : (strict && a.toNat % 4 * 16 % 16 != 0) = false := by
        simp [Nat.mul_mod_left]
      have first : UInt8.ofNat (a.toNat / 4 * 4 + a.toNat % 4 * 16 / 16) = a :=
        ofNat_toNat_of_mod (by omega)
      rw [toValues, ofValues?, noRest, first]
      rfl
  | case3 a b =>
      have firstBelow := a.toNat_lt
      have secondBelow := b.toNat_lt
      have noRest : (strict && b.toNat % 16 * 4 % 4 != 0) = false := by
        simp [Nat.mul_mod_left]
      have first :
          UInt8.ofNat (a.toNat / 4 * 4 + (a.toNat % 4 * 16 + b.toNat / 16) / 16) = a :=
        ofNat_toNat_of_mod (by omega)
      have second :
          UInt8.ofNat ((a.toNat % 4 * 16 + b.toNat / 16) * 16 + b.toNat % 16 * 4 / 4) = b :=
        ofNat_toNat_of_mod (by omega)
      rw [toValues, ofValues?, noRest, first, second]
      rfl
  | case4 a b c rest inductionHypothesis =>
      have firstBelow := a.toNat_lt
      have secondBelow := b.toNat_lt
      have thirdBelow := c.toNat_lt
      have first :
          UInt8.ofNat (a.toNat / 4 * 4 + (a.toNat % 4 * 16 + b.toNat / 16) / 16) = a :=
        ofNat_toNat_of_mod (by omega)
      have second :
          UInt8.ofNat
              ((a.toNat % 4 * 16 + b.toNat / 16) * 16 + (b.toNat % 16 * 4 + c.toNat / 64) / 4) =
            b :=
        ofNat_toNat_of_mod (by omega)
      have third :
          UInt8.ofNat ((b.toNat % 16 * 4 + c.toNat / 64) * 64 + c.toNat % 64) = c :=
        ofNat_toNat_of_mod (by omega)
      rw [toValues, ofValues?, inductionHypothesis, Option.map_some, first, second, third]

theorem mapM_value?_digits
    (alphabet : Alphabet)
    (bytes : Bytes) :
    (digits alphabet bytes).mapM (value? alphabet) = some (toValues bytes) := by
  have small : ∀ value ∈ toValues bytes, value < 64 := fun value => toValues_lt
  unfold digits
  generalize toValues bytes = values at small
  induction values with
  | nil => rfl
  | cons value values inductionHypothesis =>
      have rest := inductionHypothesis fun other member =>
        small other (List.mem_cons_of_mem _ member)
      rw [List.map_cons, List.mapM_cons, value?_digit alphabet (small value List.mem_cons_self),
        rest]
      rfl

/-! ## Loose readers -/

/-- The digits of the standard alphabet stand between the plus sign and the
letters, so they are neither blank nor padding nor dashes. -/
theorem plain_digit
    {value : Nat}
    (small : value < 64) :
    isSpace (digit .standard value) = false ∧
      digit .standard value ≠ '=' ∧ digit .standard value ≠ '-' := by
  have all : ∀ value : Fin 64,
      isSpace (digit .standard value) = false ∧
        digit .standard value ≠ '=' ∧ digit .standard value ≠ '-' := by
    decide +kernel
  exact all ⟨value, small⟩

theorem of_mem_digits
    {bytes : Bytes}
    {c : Char}
    (member : c ∈ digits .standard bytes) :
    isSpace c = false ∧ c ≠ '=' ∧ c ≠ '-' := by
  obtain ⟨value, isValue, rfl⟩ := List.mem_map.mp member
  exact plain_digit (toValues_lt isValue)

theorem of_mem_padding
    {bytes : Bytes}
    {c : Char}
    (member : c ∈ padding bytes) :
    c = '=' := by
  unfold padding at member
  split at member <;> simp at member <;> exact member

/-- What is read and written has no blanks and no dashes. -/
theorem of_mem_padded
    {bytes : Bytes}
    {c : Char}
    (member : c ∈ padded .standard bytes) :
    isSpace c = false ∧ c ≠ '-' := by
  rcases List.mem_append.mp member with isDigit | isPadding
  · exact ⟨(of_mem_digits isDigit).1, (of_mem_digits isDigit).2.2⟩
  · cases of_mem_padding isPadding
    decide

theorem length_toValues (bytes : Bytes) :
    (toValues bytes).length = (bytes.length * 4 + 2) / 3 := by
  induction bytes using toValues.induct with
  | case4 a b c rest inductionHypothesis =>
      simp only [toValues, List.length_cons, inductionHypothesis]
      omega
  | _ => simp [toValues]

theorem mayPad_padding
    (alphabet : Alphabet)
    (bytes : Bytes) :
    mayPad (digits alphabet bytes).length (padding bytes) = true := by
  have count : (digits alphabet bytes).length = (bytes.length * 4 + 2) / 3 := by
    rw [digits, List.length_map, length_toValues]
  rw [count]
  obtain rest | rest | rest :
      bytes.length % 3 = 0 ∨ bytes.length % 3 = 1 ∨ bytes.length % 3 = 2 := by omega
  · simp [padding, mayPad, rest]
  · have whole : ((bytes.length * 4 + 2) / 3 + 2) % 4 = 0 := by omega
    simp [padding, mayPad, rest, whole]
  · have whole : ((bytes.length * 4 + 2) / 3 + 1) % 4 = 0 := by omega
    simp [padding, mayPad, rest, whole]

/-- A loose reader reads what was written with padding. -/
theorem decodeLoose?_padded (bytes : Bytes) :
    decodeLoose? .standard (padded .standard bytes) = some bytes := by
  have noSpace : (padded .standard bytes).filter (!isSpace ·) = padded .standard bytes := by
    refine List.filter_eq_self.mpr fun c member => ?_
    rw [(of_mem_padded member).1]
    rfl
  have isDigit : ∀ c ∈ digits .standard bytes, (c != '=') = true := fun c member =>
    bne_iff_ne.mpr (of_mem_digits member).2.1
  have body : (padded .standard bytes).takeWhile (· != '=') = digits .standard bytes := by
    rw [padded, List.takeWhile_append_of_pos isDigit]
    unfold padding
    split <;> simp
  have rest : (padded .standard bytes).dropWhile (· != '=') = padding bytes := by
    rw [padded, List.dropWhile_append_of_pos isDigit]
    unfold padding
    split <;> rfl
  unfold decodeLoose?
  simp only [noSpace, body, rest]
  rw [if_pos (mayPad_padding .standard bytes), mapM_value?_digits, Option.bind_some,
    ofValues?_toValues]

end Base64

end OnDemandTls
