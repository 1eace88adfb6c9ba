import OnDemandTls.Json.Printer
import OnDemandTls.Proofs.Json.Grammar

namespace OnDemandTls

/-!
# Literals of JSON texts

An integer of at most 64 bits and any text are written in characters that spell
them.  The digits of an integer begin with no needless zero, and every character
of a text is written as a piece of its own.
-/

namespace Json

/-! ## Numbers -/

/-- The decimal digits of a positive number begin with no zero. -/
theorem head?_toDigits_ne_zero
    {n : Nat}
    (positive : 0 < n) :
    (Nat.toDigits 10 n).head? ≠ some '0' := by
  induction n using Nat.strongRecOn with
  | ind n inductionHypothesis =>
      rw [Nat.toDigits_eq_if (by decide)]
      split
      · rename_i small
        have digit : ∀ d < 10, 0 < d → Nat.digitChar d ≠ '0' := by decide
        simpa using digit n small positive
      · rename_i large
        have shorter : n / 10 < n := Nat.div_lt_self positive (by decide)
        have positiveFront : 0 < n / 10 := Nat.div_pos (Nat.le_of_not_lt large) (by decide)
        have front := inductionHypothesis (n / 10) shorter positiveFront
        rw [List.head?_append, Option.or_of_isSome]
        · exact front
        · rw [List.isSome_head?]
          exact Nat.toDigits_ne_nil

theorem toDigits_of_head?_zero
    {n : Nat}
    (zero : (Nat.toDigits 10 n).head? = some '0') :
    Nat.toDigits 10 n = ['0'] := by
  by_cases positive : 0 < n
  · exact (head?_toDigits_ne_zero positive zero).elim
  · have isZero : n = 0 := Nat.eq_zero_of_not_pos positive
    rw [isZero]
    rfl

theorem isDigits_toDigits (n : Nat) : IsDigits (Nat.toDigits 10 n) where
  nonempty := Nat.toDigits_ne_nil
  digit _ member := Nat.isDigit_of_mem_toDigits (by decide) (by decide) member

theorem ofDigits_toDigits (n : Nat) : ofDigits (Nat.toDigits 10 n) = n :=
  Nat.ofDigitChars_ten_toDigits

/-- The integers that a JSON text can hold as such. -/
def FitsLiteral (value : Int) : Prop :=
  -0x8000000000000000 ≤ value ∧ value < 0x10000000000000000

theorem printNumber_integer (value : Int) :
    printNumber (.integer value) =
      sign (decide (value < 0)) ++ Nat.toDigits 10 value.natAbs := by
  change (toString value).toList = _
  rw [Int.toString_eq_repr, Int.repr_eq_if, sign]
  by_cases natural : 0 ≤ value
  · have size : value.toNat = value.natAbs := by omega
    simp [natural, Int.not_lt.mpr natural, Nat.repr_eq_ofList_toDigits, size]
  · have size : (-value).toNat = value.natAbs := by omega
    simp [natural, Int.not_le.mp natural, Nat.repr_eq_ofList_toDigits, size]

/-- The literal that an integer is written as. -/
def literalOf (value : Int) : NumberLiteral where
  negative := decide (value < 0)
  whole := Nat.toDigits 10 value.natAbs
  fraction := none
  exponent := none

theorem value?_literalOf
    {value : Int}
    (fits : FitsLiteral value) :
    (literalOf value).value? = some (.integer value) := by
  obtain ⟨low, high⟩ := fits
  unfold NumberLiteral.value? literalOf
  rw [ofDigits_toDigits]
  by_cases negative : value < 0
  · have bounds : 0 < value.natAbs ∧ value.natAbs ≤ 0x8000000000000000 := by omega
    have size : -(value.natAbs : Int) = value := by omega
    simp only [negative, bounds, size, Option.isNone_none, Bool.and_self, decide_true, ↓reduceIte]
  · have bound : value.natAbs < 0x10000000000000000 := by omega
    have size : (value.natAbs : Int) = value := by omega
    simp only [negative, bound, size, Option.isNone_none, Bool.and_self, decide_false,
      Bool.false_eq_true, ↓reduceIte]

theorem spellsNumber_printNumber (value : Int) :
    SpellsNumber (literalOf value) (printNumber (.integer value)) := by
  have parts : SpellsNumber (literalOf value) _ :=
    .parts (isDigits_toDigits value.natAbs) toDigits_of_head?_zero .none .none
  rw [printNumber_integer]
  simpa [literalOf] using parts

/-- An integer is written in characters that spell it. -/
theorem spells_printNumber
    {value : Int}
    (fits : FitsLiteral value) :
    Spells (.integer value) (printNumber (.integer value)) := by
  have spells := Spells.number (spellsNumber_printNumber value)
  rw [value?_literalOf fits] at spells
  exact spells

/-! ## Strings -/

/-- The piece of a literal that a character is written as: a small unit if it is
a control character without a letter of its own. -/
def pieceOf (c : Char) : Piece :=
  if c.toNat < 0x20 ∧ c ∉ ['\x08', '\x0c', '\n', '\r', '\t'] then .unit c.toNat else .char c

theorem hexValue?_hexDigit : ∀ n < 16, hexValue? (hexDigit n) = some n := by
  decide

/-- The digits of a control character are those of its unit. -/
theorem unit?_hexDigits
    {n : Nat}
    (small : n < 0x20) :
    unit? '0' '0' (hexDigit (n / 16)) (hexDigit (n % 16)) = some n := by
  have high : hexValue? (hexDigit (n / 16)) = some (n / 16) := hexValue?_hexDigit _ (by omega)
  have low : hexValue? (hexDigit (n % 16)) = some (n % 16) := hexValue?_hexDigit _ (by omega)
  have zero : hexValue? '0' = some 0 := by decide
  have value : n / 16 * 16 + n % 16 = n := by omega
  simp [unit?, high, low, zero, value]

/-- A character is written as its piece. -/
theorem spellsPiece_escape (c : Char) : SpellsPiece (pieceOf c) (escape c) := by
  unfold escape
  split
  iterate 7 exact .escaped rfl
  rename_i noQuote noBackslash noBackspace noFeed noLine noReturn noTab
  split
  · rename_i control
    have piece : pieceOf c = .unit c.toNat := by
      unfold pieceOf
      rw [if_pos]
      refine ⟨control, ?_⟩
      simp only [List.mem_cons, List.not_mem_nil, or_false]
      rintro (rfl | rfl | rfl | rfl | rfl)
      · exact noBackspace rfl
      · exact noFeed rfl
      · exact noLine rfl
      · exact noReturn rfl
      · exact noTab rfl
    rw [piece]
    exact .unit (unit?_hexDigits control)
  · rename_i printable
    have piece : pieceOf c = .char c := by
      unfold pieceOf
      rw [if_neg fun control => printable control.1]
    rw [piece]
    exact .char (Nat.not_lt.mp printable) noQuote noBackslash

theorem spellsPieces_escapes (cs : List Char) :
    SpellsPieces (cs.map pieceOf) (cs.flatMap escape) := by
  induction cs with
  | nil => exact .nil
  | cons c cs inductionHypothesis => exact .cons (spellsPiece_escape c) inductionHypothesis

/-- A unit that is no half of a pair spells its character. -/
theorem spell?_unit
    {value : Nat}
    (single : value < 0x20)
    (pieces : List Piece) :
    spell? (.unit value :: pieces) = (spell? pieces).map (Char.ofNat value :: ·) := by
  have noLeading : isLeading value = false := by
    simp only [isLeading, Bool.and_eq_false_iff, decide_eq_false_iff_not]
    omega
  have noTrailing : isTrailing value = false := by
    simp only [isTrailing, Bool.and_eq_false_iff, decide_eq_false_iff_not]
    omega
  cases pieces with
  | nil => simp [spell?, noLeading, noTrailing]
  | cons piece pieces => cases piece <;> simp [spell?, noLeading, noTrailing]

theorem spell?_pieces (cs : List Char) : spell? (cs.map pieceOf) = some cs := by
  induction cs with
  | nil => rfl
  | cons c cs inductionHypothesis =>
      rw [List.map_cons]
      by_cases control : c.toNat < 0x20 ∧ c ∉ ['\x08', '\x0c', '\n', '\r', '\t']
      · have piece : pieceOf c = .unit c.toNat := if_pos control
        rw [piece, spell?_unit control.1, inductionHypothesis, Option.map_some,
          Char.ofNat_toNat]
      · have piece : pieceOf c = .char c := if_neg control
        rw [piece, spell?, inductionHypothesis, Option.map_some]

/-- A text is written in characters that spell it. -/
theorem spells_quote (text : String) : Spells (.string text) (quote text) := by
  have spells := Spells.text (spellsPieces_escapes text.toList)
  simpa [textOf, spell?_pieces, Document.string, quote] using spells

end Json

end OnDemandTls
