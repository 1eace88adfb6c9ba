import Mathlib.Tactic.SplitIfs
import OnDemandTls.Catalog

namespace OnDemandTls

/-!
# The order of texts and the order of their bytes

A catalog lists its keys in the order of their code points.  That is the order
of the bytes in which the keys are encoded (`Text.bytes_lt_bytes`): of two
characters the smaller one has the smaller encoding, whatever follows it.
-/

namespace Text

/-- The bytes in which a text is encoded. -/
def bytes (text : String) : List UInt8 :=
  text.toUTF8.data.toList

theorem bytes_eq (text : String) : bytes text = text.toList.flatMap String.utf8EncodeChar := by
  have encoded : text.toUTF8 = (text.toList.flatMap String.utf8EncodeChar).toByteArray := by
    rw [← String.ofList_toList (s := text), String.toUTF8, String.toByteArray_ofList,
      String.toList_ofList]
    rfl
  rw [bytes, encoded, List.data_toByteArray]

/-- A text in ASCII has one byte for each character. -/
theorem bytes_of_ascii
    {text : List Char}
    (ascii : ∀ c ∈ text, c.toNat < 128) :
    bytes (String.ofList text) = text.map fun c => UInt8.ofNat c.toNat := by
  rw [bytes_eq, String.toList_ofList]
  induction text with
  | nil => rfl
  | cons c rest inductionHypothesis =>
      have single : String.utf8EncodeChar c = [UInt8.ofNat c.toNat] :=
        if_pos (Nat.le_of_lt_succ (ascii c List.mem_cons_self))
      rw [List.flatMap_cons, single, List.map_cons,
        inductionHypothesis fun other member => ascii other (List.mem_cons_of_mem _ member)]
      rfl

/-! ## Characters -/

/-- A byte that continues a character carries six bits. -/
theorem continuing_byte (n : Nat) : (n % 64 + 128) % 256 = n % 64 + 128 := by
  omega

/-- The first of four bytes carries three bits. -/
theorem leading_byte (n : Nat) : (n % 8 + 240) % 256 = n % 8 + 240 := by
  omega

theorem utf8EncodeChar_lt
    {c d : Char}
    (before : c < d)
    (xs ys : List UInt8) :
    String.utf8EncodeChar c ++ xs < String.utf8EncodeChar d ++ ys := by
  have smaller : c.val.toNat < d.val.toNat := before
  have bounded : d.val.toNat < 0x110000 := by
    rcases d.valid with low | ⟨-, high⟩ <;> omega
  unfold String.utf8EncodeChar
  generalize c.val.toNat = m at *
  generalize d.val.toNat = n at *
  simp only
  split_ifs <;>
    simp only [List.cons_append, List.cons_lt_cons_iff, UInt8.lt_iff_toNat_lt, ← UInt8.toNat_inj,
      UInt8.toNat_ofNat', Nat.reducePow, continuing_byte, leading_byte]
  any_goals omega
  -- Four bytes each: the first of them in which the characters differ decides.
  rcases Nat.lt_or_ge (m / 262144) (n / 262144) with first | notFirst
  · omega
  rcases Nat.lt_or_ge (m / 4096) (n / 4096) with second | notSecond
  · omega
  rcases Nat.lt_or_ge (m / 64) (n / 64) with third | notThird
  · omega
  · omega

theorem utf8EncodeChar_ne_nil (c : Char) : String.utf8EncodeChar c ≠ [] := by
  unfold String.utf8EncodeChar
  simp only
  split_ifs <;> simp

/-! ## Texts -/

theorem append_lt_append
    {xs ys : List UInt8}
    (before : xs < ys)
    (shared : List UInt8) :
    shared ++ xs < shared ++ ys := by
  induction shared with
  | nil => exact before
  | cons byte shared inductionHypothesis =>
      exact List.cons_lt_cons_iff.mpr (Or.inr ⟨rfl, inductionHypothesis⟩)

theorem flatMap_utf8EncodeChar_lt
    {cs ds : List Char}
    (before : cs < ds) :
    cs.flatMap String.utf8EncodeChar < ds.flatMap String.utf8EncodeChar := by
  induction cs generalizing ds with
  | nil =>
      cases ds with
      | nil => exact absurd before (List.lt_irrefl _)
      | cons d ds =>
          obtain ⟨byte, bytes, encoded⟩ := List.exists_cons_of_ne_nil (utf8EncodeChar_ne_nil d)
          rw [List.flatMap_cons, encoded]
          exact List.nil_lt_cons byte _
  | cons c cs inductionHypothesis =>
      cases ds with
      | nil => exact absurd before (List.not_lt_nil _)
      | cons d ds =>
          rw [List.flatMap_cons, List.flatMap_cons]
          rcases List.cons_lt_cons_iff.mp before with smaller | ⟨rfl, rest⟩
          · exact utf8EncodeChar_lt smaller _ _
          · exact append_lt_append (inductionHypothesis rest) _

/-- Texts are ordered like the bytes in which they are encoded. -/
theorem bytes_lt_bytes {a b : String} : bytes a < bytes b ↔ a < b := by
  have forward : ∀ {a b : String}, a < b → bytes a < bytes b := by
    intro a b before
    rw [bytes_eq, bytes_eq]
    exact flatMap_utf8EncodeChar_lt (String.lt_iff.mp before)
  refine ⟨fun before => ?_, forward⟩
  by_cases same : a = b
  · subst same
    exact absurd before (List.lt_irrefl _)
  · by_cases after : a < b
    · exact after
    · have reversed := forward (Catalog.lt_of_not_lt_of_ne after same)
      exact absurd before (List.lt_asymm reversed)

end Text

end OnDemandTls
