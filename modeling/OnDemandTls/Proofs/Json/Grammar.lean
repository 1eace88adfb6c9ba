import OnDemandTls.Json.Reader

namespace OnDemandTls

/-!
# The grammar of JSON texts

`Json.Spells` says which documents the characters of a JSON text spell, with any
blanks, any escapes and any notation of numbers.  Whatever a text spells is read
from it (`Json.read_of_spells`), and can at least be passed over
(`Json.Spells.isWhole`).

The end of a number is where it does not go on, and behind a value there may be
blanks that reading leaves where they are; so a value is read in front of
anything that does not continue a number, and what is left is told up to leading
blanks.
-/

namespace Json

/-! ## Numbers -/

/-- Decimal digits, at least one. -/
structure IsDigits (cs : List Char) : Prop where
  nonempty : cs ≠ []
  digit : ∀ c ∈ cs, c.isDigit = true

/-- The characters of a fraction, if there is one. -/
inductive SpellsFraction : Option (List Char) → List Char → Prop where
  | none :
      SpellsFraction none []
  | some {digits : List Char} :
      IsDigits digits →
      SpellsFraction (some digits) ('.' :: digits)

/-- The characters of an exponent, if there is one. -/
inductive SpellsExponent : Option (Bool × List Char) → List Char → Prop where
  | none :
      SpellsExponent none []
  | unsigned {mark : Char} {digits : List Char} :
      mark = 'e' ∨ mark = 'E' →
      IsDigits digits →
      SpellsExponent (some (false, digits)) (mark :: digits)
  | plus {mark : Char} {digits : List Char} :
      mark = 'e' ∨ mark = 'E' →
      IsDigits digits →
      SpellsExponent (some (false, digits)) (mark :: '+' :: digits)
  | minus {mark : Char} {digits : List Char} :
      mark = 'e' ∨ mark = 'E' →
      IsDigits digits →
      SpellsExponent (some (true, digits)) (mark :: '-' :: digits)

/-- The characters of the sign of a number. -/
def sign (negative : Bool) : List Char :=
  if negative then ['-'] else []

/-- The characters of a number, without needless zeros in front. -/
inductive SpellsNumber (literal : NumberLiteral) : List Char → Prop where
  | parts {fraction exponent : List Char} :
      IsDigits literal.whole →
      (literal.whole.head? = some '0' → literal.whole = ['0']) →
      SpellsFraction literal.fraction fraction →
      SpellsExponent literal.exponent exponent →
      SpellsNumber literal (sign literal.negative ++ (literal.whole ++ (fraction ++ exponent)))

/-- What stands behind digits is none. -/
def EndsDigits (rest : List Char) : Prop :=
  ∀ c, rest.head? = some c → c.isDigit = false

/-- What stands behind a number does not continue it. -/
def EndsNumber (rest : List Char) : Prop :=
  ∀ c, rest.head? = some c → c.isDigit = false ∧ c ≠ '.' ∧ c ≠ 'e' ∧ c ≠ 'E'

theorem EndsNumber.endsDigits
    {rest : List Char}
    (ends : EndsNumber rest) :
    EndsDigits rest :=
  fun c isFirst => (ends c isFirst).1

theorem endsNumber_cons
    {c : Char}
    (mark : c.isDigit = false ∧ c ≠ '.' ∧ c ≠ 'e' ∧ c ≠ 'E')
    (rest : List Char) :
    EndsNumber (c :: rest) := by
  intro first isFirst
  cases isFirst
  exact mark

theorem endsNumber_nil : EndsNumber [] := nofun

theorem takeDigits?_append
    {digits rest : List Char}
    (isDigits : IsDigits digits)
    (ends : EndsDigits rest) :
    takeDigits? (digits ++ rest) = some (digits, rest) := by
  have stops : rest.takeWhile Char.isDigit = [] ∧ rest.dropWhile Char.isDigit = rest := by
    cases rest with
    | nil => simp
    | cons c rest =>
        have noDigit := ends c rfl
        simp [noDigit]
  have taken : (digits ++ rest).takeWhile Char.isDigit = digits := by
    rw [List.takeWhile_append_of_pos isDigits.digit, stops.1, List.append_nil]
  have left : (digits ++ rest).dropWhile Char.isDigit = rest := by
    rw [List.dropWhile_append_of_pos isDigits.digit, stops.2]
  unfold takeDigits?
  rw [taken, left]
  cases digits with
  | nil => exact (isDigits.nonempty rfl).elim
  | cons digit digits => rfl

theorem readExponent?_of_spells
    {exponent : Option (Bool × List Char)}
    {cs rest : List Char}
    (spells : SpellsExponent exponent cs)
    (ends : EndsNumber rest) :
    readExponent? (cs ++ rest) = some (exponent, rest) := by
  cases spells with
  | none =>
      cases rest with
      | nil => rfl
      | cons mark rest =>
          have noMark := (ends mark rfl).2.2
          simp [readExponent?, noMark.1, noMark.2]
  | @unsigned mark digits isMark isDigits =>
      have taken := takeDigits?_append isDigits ends.endsDigits
      obtain ⟨digit, digits, rfl⟩ := List.exists_cons_of_ne_nil isDigits.nonempty
      have isDigit := isDigits.digit digit List.mem_cons_self
      have noSign : digit ≠ '-' ∧ digit ≠ '+' := by
        constructor <;> rintro rfl <;> exact absurd isDigit (by decide)
      simp only [readExponent?, List.cons_append] at taken ⊢
      simp [isMark, noSign, taken]
  | plus isMark isDigits =>
      have taken := takeDigits?_append isDigits ends.endsDigits
      simp [readExponent?, isMark, taken]
  | minus isMark isDigits =>
      have taken := takeDigits?_append isDigits ends.endsDigits
      simp [readExponent?, isMark, taken]

/-- An exponent begins with its mark, or is not there. -/
theorem SpellsExponent.head
    {exponent : Option (Bool × List Char)}
    {cs : List Char}
    (spells : SpellsExponent exponent cs) :
    cs = [] ∨ ∃ mark more, cs = mark :: more ∧ (mark = 'e' ∨ mark = 'E') := by
  cases spells with
  | none => exact Or.inl rfl
  | unsigned isMark => exact Or.inr ⟨_, _, rfl, isMark⟩
  | plus isMark => exact Or.inr ⟨_, _, rfl, isMark⟩
  | minus isMark => exact Or.inr ⟨_, _, rfl, isMark⟩

theorem SpellsExponent.endsDigits
    {exponent : Option (Bool × List Char)}
    {cs rest : List Char}
    (spells : SpellsExponent exponent cs)
    (ends : EndsNumber rest) :
    EndsDigits (cs ++ rest) := by
  intro c isFirst
  rcases spells.head with rfl | ⟨mark, more, rfl, isMark⟩
  · exact (ends c isFirst).1
  · cases isFirst
    rcases isMark with rfl | rfl <;> decide

theorem SpellsExponent.noPoint
    {exponent : Option (Bool × List Char)}
    {cs rest : List Char}
    (spells : SpellsExponent exponent cs)
    (ends : EndsNumber rest) :
    (cs ++ rest).head? ≠ some '.' := by
  intro isFirst
  rcases spells.head with rfl | ⟨mark, more, rfl, isMark⟩
  · exact (ends '.' isFirst).2.1 rfl
  · cases isFirst
    simp at isMark

theorem SpellsFraction.endsDigits
    {fraction : Option (List Char)}
    {cs rest : List Char}
    (spells : SpellsFraction fraction cs)
    (ends : EndsDigits rest) :
    EndsDigits (cs ++ rest) := by
  cases spells with
  | none => exact ends
  | some _ =>
      intro c isFirst
      cases isFirst
      decide

theorem readFraction?_of_spells
    {fraction : Option (List Char)}
    {cs rest : List Char}
    (spells : SpellsFraction fraction cs)
    (ends : EndsDigits rest)
    (noPoint : rest.head? ≠ some '.') :
    readFraction? (cs ++ rest) = some (fraction, rest) := by
  cases spells with
  | none =>
      unfold readFraction?
      rw [List.nil_append]
      split
      · exact (noPoint rfl).elim
      · rfl
  | some isDigits => simp [readFraction?, takeDigits?_append isDigits ends]

/-- Read a number literal after its sign. -/
def readMagnitude?
    (negative : Bool)
    (cs : List Char) :
    Option (NumberLiteral × List Char) :=
  (takeDigits? cs).bind fun (whole, cs) =>
    if whole.head? = some '0' ∧ whole ≠ ['0'] then
      none
    else
      (readFraction? cs).bind fun (fraction, cs) =>
        (readExponent? cs).bind fun (exponent, cs) =>
          some (⟨negative, whole, fraction, exponent⟩, cs)

theorem readNumber?_minus (cs : List Char) :
    readNumber? ('-' :: cs) = readMagnitude? true cs :=
  rfl

theorem readNumber?_of_digit
    {c : Char}
    (digit : c.isDigit = true)
    (cs : List Char) :
    readNumber? (c :: cs) = readMagnitude? false (c :: cs) := by
  have noSign : c ≠ '-' := by
    rintro rfl
    exact absurd digit (by decide)
  unfold readNumber?
  split
  rename_i negative rest isRest
  split at isRest
  · rename_i sameHead
    exact (noSign (List.cons.inj sameHead).1).elim
  · cases isRest
    rfl

theorem readMagnitude?_of_spells
    {literal : NumberLiteral}
    {fraction exponent rest : List Char}
    (isDigits : IsDigits literal.whole)
    (noZeros : literal.whole.head? = some '0' → literal.whole = ['0'])
    (spellsFraction : SpellsFraction literal.fraction fraction)
    (spellsExponent : SpellsExponent literal.exponent exponent)
    (ends : EndsNumber rest) :
    readMagnitude? literal.negative (literal.whole ++ (fraction ++ (exponent ++ rest))) =
      some (literal, rest) := by
  have endsFraction := spellsExponent.endsDigits ends
  have taken := takeDigits?_append isDigits (spellsFraction.endsDigits endsFraction)
  have kept : ¬ (literal.whole.head? = some '0' ∧ literal.whole ≠ ['0']) :=
    fun zeros => zeros.2 (noZeros zeros.1)
  simp only [readMagnitude?, taken, Option.bind_some, if_neg kept,
    readFraction?_of_spells spellsFraction endsFraction (spellsExponent.noPoint ends),
    readExponent?_of_spells spellsExponent ends]

theorem readNumber?_of_spells
    {literal : NumberLiteral}
    {cs rest : List Char}
    (spells : SpellsNumber literal cs)
    (ends : EndsNumber rest) :
    readNumber? (cs ++ rest) = some (literal, rest) := by
  obtain ⟨isDigits, noZeros, spellsFraction, spellsExponent⟩ := spells
  have magnitude :=
    readMagnitude?_of_spells isDigits noZeros spellsFraction spellsExponent ends
  simp only [List.append_assoc]
  cases negative : literal.negative with
  | true =>
      rw [negative] at magnitude
      exact (readNumber?_minus _).trans magnitude
  | false =>
      rw [negative] at magnitude
      obtain ⟨digit, digits, shape⟩ := List.exists_cons_of_ne_nil isDigits.nonempty
      have isDigit : digit.isDigit = true := by
        apply isDigits.digit
        simp [shape]
      rw [shape] at magnitude ⊢
      exact (readNumber?_of_digit isDigit _).trans magnitude

/-- A number begins with a sign or a digit. -/
theorem SpellsNumber.head
    {literal : NumberLiteral}
    {cs : List Char}
    (spells : SpellsNumber literal cs) :
    ∃ c more, cs = c :: more ∧ (c = '-' ∨ c.isDigit = true) := by
  obtain ⟨isDigits, -, -, -⟩ := spells
  cases literal.negative with
  | true => exact ⟨_, _, rfl, Or.inl rfl⟩
  | false =>
      obtain ⟨digit, digits, shape⟩ := List.exists_cons_of_ne_nil isDigits.nonempty
      refine ⟨digit, _, by rw [shape]; rfl, Or.inr (isDigits.digit digit ?_)⟩
      simp [shape]

/-! ## Strings -/

/-- The characters of a piece of a string. -/
inductive SpellsPiece : Piece → List Char → Prop where
  | char {c : Char} :
      0x20 ≤ c.toNat →
      c ≠ '"' →
      c ≠ '\\' →
      SpellsPiece (.char c) [c]
  | escaped {c meant : Char} :
      escaped? c = some meant →
      SpellsPiece (.char meant) ['\\', c]
  | unit {a b c d : Char} {value : Nat} :
      unit? a b c d = some value →
      SpellsPiece (.unit value) ['\\', 'u', a, b, c, d]

/-- The characters of the pieces of a string. -/
inductive SpellsPieces : List Piece → List Char → Prop where
  | nil :
      SpellsPieces [] []
  | cons
      {piece : Piece}
      {pieces : List Piece}
      {cs more : List Char} :
      SpellsPiece piece cs →
      SpellsPieces pieces more →
      SpellsPieces (piece :: pieces) (cs ++ more)

theorem readPieces_of_spellsPiece
    {piece : Piece}
    {cs : List Char}
    (spells : SpellsPiece piece cs)
    (rest : List Char) :
    readPieces (cs ++ rest) = pushPiece piece (readPieces rest) := by
  cases spells with
  | @char c printable noQuote noBackslash =>
      have small : ¬ c.toNat < 0x20 := Nat.not_lt.mpr printable
      rw [List.singleton_append, readPieces]
      · simp [small, noBackslash]
      · exact noQuote
      · rintro a b d e more rfl
        exact (noBackslash rfl).elim
      · rintro d more rfl
        exact (noBackslash rfl).elim
  | @escaped c meant isEscape =>
      have noUnit : c ≠ 'u' := by
        rintro rfl
        cases isEscape
      rw [List.cons_append, List.singleton_append, readPieces, isEscape]
      rintro a b d e more same
      exact (noUnit same).elim
  | unit isUnit => simp only [List.cons_append, List.nil_append, readPieces, isUnit]

theorem readPieces_of_spells
    {pieces : List Piece}
    {cs : List Char}
    (spells : SpellsPieces pieces cs)
    (rest : List Char) :
    readPieces (cs ++ '"' :: rest) = some (pieces, rest) := by
  induction spells with
  | nil => simp [readPieces]
  | cons spellsPiece _ inductionHypothesis =>
      rw [List.append_assoc, readPieces_of_spellsPiece spellsPiece, inductionHypothesis]
      rfl

/-- The text that pieces spell, if they spell one. -/
def textOf (pieces : List Piece) : Option String :=
  (spell? pieces).map String.ofList

theorem readString_of_spells
    {pieces : List Piece}
    {cs : List Char}
    (spells : SpellsPieces pieces cs)
    (rest : List Char) :
    readString (cs ++ '"' :: rest) = some (textOf pieces, rest) := by
  simp [readString, readPieces_of_spells spells, textOf]

/-! ## Values -/

/-- Blanks, and nothing else. -/
def IsBlanks (cs : List Char) : Prop :=
  ∀ c ∈ cs, isSpace c = true

/-- An entry of a table, with the characters of its name and of its value. -/
structure SpelledEntry where
  name : Option String
  nameText : List Char
  value : Document
  valueText : List Char

namespace SpelledEntry

def text (entry : SpelledEntry) : List Char :=
  entry.nameText ++ ':' :: entry.valueText

def entry (spelled : SpelledEntry) : Option String × Document :=
  (spelled.name, spelled.value)

end SpelledEntry

/-- Further items of a sequence or entries of a table, each after a comma. -/
def afterCommas
    {α : Type}
    (text : α → List Char)
    (items : List α) :
    List Char :=
  items.flatMap fun item => ',' :: text item

/-- The characters of a document.  There may be blanks around every value and
every name, and in front of what closes a sequence or a table. -/
inductive Spells : Document → List Char → Prop where
  | blanks {document : Document} {front cs back : List Char} :
      IsBlanks front →
      Spells document cs →
      IsBlanks back →
      Spells document (front ++ (cs ++ back))
  | null :
      Spells .null ['n', 'u', 'l', 'l']
  | yes :
      Spells (.boolean true) ['t', 'r', 'u', 'e']
  | no :
      Spells (.boolean false) ['f', 'a', 'l', 's', 'e']
  | number {literal : NumberLiteral} {cs : List Char} :
      SpellsNumber literal cs →
      Spells (.number literal.value?) cs
  | text {pieces : List Piece} {cs : List Char} :
      SpellsPieces pieces cs →
      Spells (.text (textOf pieces)) ('"' :: (cs ++ ['"']))
  | emptySequence {back : List Char} :
      IsBlanks back →
      Spells (.sequence []) ('[' :: (back ++ [']']))
  | sequence
      {first : Document × List Char}
      {others : List (Document × List Char)}
      {back : List Char} :
      (∀ item ∈ first :: others, Spells item.1 item.2) →
      IsBlanks back →
      Spells (.sequence ((first :: others).map Prod.fst))
        ('[' :: (first.2 ++ (afterCommas Prod.snd others ++ (back ++ [']']))))
  | emptyTable {back : List Char} :
      IsBlanks back →
      Spells (.table []) ('{' :: (back ++ ['}']))
  | table
      {first : SpelledEntry}
      {others : List SpelledEntry}
      {back : List Char} :
      (∀ entry ∈ first :: others, Spells (.text entry.name) entry.nameText) →
      (∀ entry ∈ first :: others, Spells entry.value entry.valueText) →
      IsBlanks back →
      Spells (.table ((first :: others).map SpelledEntry.entry))
        ('{' :: (first.text ++ (afterCommas SpelledEntry.text others ++ (back ++ ['}']))))

/-! ## Blanks -/

theorem skipSpace_cons
    {c : Char}
    (noSpace : isSpace c = false)
    (cs : List Char) :
    skipSpace (c :: cs) = c :: cs :=
  List.dropWhile_cons_of_neg (by simp [noSpace])

theorem skipSpace_append
    {front : List Char}
    (isBlanks : IsBlanks front)
    (cs : List Char) :
    skipSpace (front ++ cs) = skipSpace cs :=
  List.dropWhile_append_of_pos isBlanks

theorem isBlanks_nil : IsBlanks [] := nofun

theorem readValue_of_skipSpace_eq
    {first second : List Char}
    (same : skipSpace first = skipSpace second)
    (fuel : Nat) :
    readValue fuel first = readValue fuel second := by
  cases fuel with
  | zero => rfl
  | succ fuel => simp only [readValue, same]

theorem endsNumber_of_isSpace
    {c : Char}
    (isBlank : isSpace c = true)
    (rest : List Char) :
    EndsNumber (c :: rest) := by
  apply endsNumber_cons
  simp only [isSpace, Bool.or_eq_true, beq_iff_eq] at isBlank
  rcases isBlank with ((rfl | rfl) | rfl) | rfl <;> decide

theorem EndsNumber.blanks
    {back rest : List Char}
    (ends : EndsNumber rest)
    (isBlanks : IsBlanks back) :
    EndsNumber (back ++ rest) := by
  cases back with
  | nil => exact ends
  | cons c back => exact endsNumber_of_isSpace (isBlanks c List.mem_cons_self) _

/-- A numeral begins with a sign or a digit, and nothing else does. -/
theorem isSpace_of_numeral
    {c : Char}
    (numeral : c = '-' ∨ c.isDigit = true) :
    isSpace c = false := by
  cases blank : isSpace c with
  | false => rfl
  | true =>
      simp only [isSpace, Bool.or_eq_true, beq_iff_eq] at blank
      rcases blank with ((rfl | rfl) | rfl) | rfl <;> exact absurd numeral (by decide)

/-- A document begins with a character that is neither blank nor a bracket that
closes. -/
theorem Spells.head
    {document : Document}
    {cs : List Char}
    (spells : Spells document cs)
    (rest : List Char) :
    ∃ c more, skipSpace (cs ++ rest) = c :: more ∧ isSpace c = false ∧ c ≠ ']' := by
  induction spells generalizing rest with
  | @blanks document front cs back isFront _ _ inductionHypothesis =>
      rw [List.append_assoc, List.append_assoc, skipSpace_append isFront]
      exact inductionHypothesis (back ++ rest)
  | number spellsNumber =>
      obtain ⟨c, more, rfl, numeral⟩ := spellsNumber.head
      have noSpace := isSpace_of_numeral numeral
      refine ⟨c, more ++ rest, skipSpace_cons noSpace _, noSpace, ?_⟩
      rintro rfl
      exact absurd numeral (by decide)
  | _ => exact ⟨_, _, rfl, by decide, by decide⟩

/-- A name is read up to the blanks behind it. -/
theorem Spells.readName
    {name : Option String}
    {cs : List Char}
    (spells : Spells (.text name) cs)
    (rest : List Char) :
    ∃ literal left,
      skipSpace (cs ++ rest) = '"' :: literal ∧
        readString literal = some (name, left) ∧
        skipSpace left = skipSpace rest := by
  generalize isText : Document.text name = document at spells
  induction spells generalizing rest with
  | @blanks document front cs back isFront _ isBack inductionHypothesis =>
      rw [List.append_assoc, List.append_assoc, skipSpace_append isFront]
      obtain ⟨literal, left, shape, read, same⟩ := inductionHypothesis (back ++ rest) isText
      exact ⟨literal, left, shape, read, same.trans (skipSpace_append isBack rest)⟩
  | @text pieces cs spellsPieces =>
      cases isText
      refine ⟨cs ++ '"' :: rest, rest, ?_, readString_of_spells spellsPieces rest, rfl⟩
      rw [List.cons_append, List.append_assoc]
      exact skipSpace_cons (by decide) _
  | _ => cases isText

/-! ## Reading what is spelled -/

/-- A document is read from its characters, whatever stands behind them. -/
def ReadsAs
    (document : Document)
    (cs : List Char) :
    Prop :=
  ∀ (fuel : Nat) (rest : List Char),
    2 * cs.length ≤ fuel →
    EndsNumber rest →
    ∃ left, readValue fuel (cs ++ rest) = (document, left) ∧ skipSpace left = skipSpace rest

theorem ReadsAs.blanks
    {document : Document}
    {front cs back : List Char}
    (reads : ReadsAs document cs)
    (isFront : IsBlanks front)
    (isBack : IsBlanks back) :
    ReadsAs document (front ++ (cs ++ back)) := by
  intro fuel rest enough ends
  simp only [List.length_append] at enough
  obtain ⟨left, read, same⟩ := reads fuel (back ++ rest) (by omega) (ends.blanks isBack)
  refine ⟨left, ?_, same.trans (skipSpace_append isBack rest)⟩
  rw [List.append_assoc, List.append_assoc,
    readValue_of_skipSpace_eq (skipSpace_append isFront _), read]

theorem readValue_numeral
    {c : Char}
    (numeral : c = '-' ∨ c.isDigit = true)
    (fuel : Nat)
    (cs : List Char) :
    readValue (fuel + 1) (c :: cs) = readNumber (c :: cs) := by
  unfold readValue
  rw [skipSpace_cons (isSpace_of_numeral numeral)]
  split
  iterate 6
    · rename_i same
      cases same
      exact absurd numeral (by decide)
  · rename_i same
    cases same
  · rename_i same
    cases same
    rfl

theorem readsAs_number
    {literal : NumberLiteral}
    {cs : List Char}
    (spells : SpellsNumber literal cs) :
    ReadsAs (.number literal.value?) cs := by
  intro fuel rest enough ends
  have read : readNumber (cs ++ rest) = (.number literal.value?, rest) := by
    simp [readNumber, readNumber?_of_spells spells ends]
  obtain ⟨c, more, rfl, numeral⟩ := spells.head
  cases fuel with
  | zero => simp at enough
  | succ fuel => exact ⟨rest, (readValue_numeral numeral fuel _).trans read, rfl⟩

theorem readsAs_text
    {pieces : List Piece}
    {cs : List Char}
    (spells : SpellsPieces pieces cs) :
    ReadsAs (.text (textOf pieces)) ('"' :: (cs ++ ['"'])) := by
  intro fuel rest enough ends
  cases fuel with
  | zero => simp at enough
  | succ fuel =>
      refine ⟨rest, ?_, rfl⟩
      unfold readValue
      rw [List.cons_append, List.append_assoc, skipSpace_cons (by decide)]
      simp only [List.singleton_append, readString_of_spells spells]

theorem length_afterCommas_cons
    {α : Type}
    (text : α → List Char)
    (item : α)
    (items : List α) :
    (afterCommas text (item :: items)).length =
      1 + (text item).length + (afterCommas text items).length := by
  simp [afterCommas]
  omega

/-- What stands behind an item or an entry is a comma or closes. -/
theorem endsNumber_afterCommas
    {α : Type}
    (text : α → List Char)
    (items : List α)
    {back : List Char}
    (isBack : IsBlanks back)
    {mark : Char}
    (closes : mark = ']' ∨ mark = '}')
    (rest : List Char) :
    EndsNumber (afterCommas text items ++ (back ++ mark :: rest)) := by
  cases items with
  | nil =>
      have ends : EndsNumber (mark :: rest) := by
        apply endsNumber_cons
        rcases closes with rfl | rfl <;> decide
      exact ends.blanks isBack
  | cons item items => exact endsNumber_cons (by decide) _

/-! ### Sequences -/

theorem readMoreItems_of_readsAs
    {items : List (Document × List Char)}
    (reads : ∀ item ∈ items, ReadsAs item.1 item.2)
    {back : List Char}
    (isBack : IsBlanks back)
    (rest : List Char)
    {fuel : Nat}
    (enough : 2 * (afterCommas Prod.snd items).length + 1 ≤ fuel)
    {written : List Char}
    (same :
      skipSpace written = skipSpace (afterCommas Prod.snd items ++ (back ++ ']' :: rest))) :
    readMoreItems fuel written = (items.map Prod.fst, rest) := by
  induction items generalizing fuel written with
  | nil =>
      cases fuel with
      | zero => simp at enough
      | succ fuel =>
          unfold readMoreItems
          rw [same, afterCommas, List.flatMap_nil, List.nil_append, skipSpace_append isBack,
            skipSpace_cons (by decide)]
          rfl
  | cons item items inductionHypothesis =>
      rw [length_afterCommas_cons] at enough
      cases fuel with
      | zero => simp at enough
      | succ fuel =>
          obtain ⟨left, read, sameLeft⟩ :=
            reads item List.mem_cons_self fuel _ (by omega)
              (endsNumber_afterCommas Prod.snd items isBack (Or.inl rfl) rest)
          have others : readMoreItems fuel left = (items.map Prod.fst, rest) :=
            inductionHypothesis (fun other member => reads other (List.mem_cons_of_mem _ member))
              (by omega) sameLeft
          have shape :
              afterCommas Prod.snd (item :: items) ++ (back ++ ']' :: rest) =
                ',' :: (item.2 ++ (afterCommas Prod.snd items ++ (back ++ ']' :: rest))) := by
            simp [afterCommas]
          unfold readMoreItems
          rw [same, shape, skipSpace_cons (by decide)]
          simp only [read, others, List.map_cons]

theorem readsAs_emptySequence
    {back : List Char}
    (isBack : IsBlanks back) :
    ReadsAs (.sequence []) ('[' :: (back ++ [']'])) := by
  intro fuel rest enough ends
  simp only [List.length_cons, List.length_append] at enough
  obtain ⟨spare, rfl⟩ : ∃ spare, fuel = spare + 2 := ⟨fuel - 2, by omega⟩
  refine ⟨rest, ?_, rfl⟩
  unfold readValue
  rw [List.cons_append, List.append_assoc, skipSpace_cons (by decide)]
  simp only
  unfold readFirstItem
  rw [skipSpace_append isBack, List.singleton_append, skipSpace_cons (by decide)]
  rfl

theorem readsAs_sequence
    {first : Document × List Char}
    {others : List (Document × List Char)}
    {back : List Char}
    (spells : Spells first.1 first.2)
    (reads : ∀ item ∈ first :: others, ReadsAs item.1 item.2)
    (isBack : IsBlanks back) :
    ReadsAs (.sequence ((first :: others).map Prod.fst))
      ('[' :: (first.2 ++ (afterCommas Prod.snd others ++ (back ++ [']'])))) := by
  intro fuel rest enough ends
  simp only [List.length_cons, List.length_append, List.length_nil] at enough
  obtain ⟨spare, rfl⟩ : ∃ spare, fuel = spare + 2 := ⟨fuel - 2, by omega⟩
  have shape :
      '[' :: (first.2 ++ (afterCommas Prod.snd others ++ (back ++ [']']))) ++ rest =
        '[' :: (first.2 ++ (afterCommas Prod.snd others ++ (back ++ ']' :: rest))) := by
    simp
  obtain ⟨left, read, same⟩ :=
    reads first List.mem_cons_self spare _ (by omega)
      (endsNumber_afterCommas Prod.snd others isBack (Or.inl rfl) rest)
  have more : readMoreItems spare left = (others.map Prod.fst, rest) :=
    readMoreItems_of_readsAs (fun other member => reads other (List.mem_cons_of_mem _ member))
      isBack rest (by omega) same
  obtain ⟨c, cs, head, noSpace, noBracket⟩ :=
    spells.head (afterCommas Prod.snd others ++ (back ++ ']' :: rest))
  -- The first item is read from where it begins, behind its blanks.
  have readHead : readValue spare (c :: cs) = (first.1, left) := by
    rw [← read]
    exact readValue_of_skipSpace_eq ((skipSpace_cons noSpace cs).trans head.symm) spare
  refine ⟨rest, ?_, rfl⟩
  rw [shape]
  unfold readValue
  rw [skipSpace_cons (by decide)]
  simp only
  unfold readFirstItem
  rw [head]
  split
  · rename_i isBracket
    cases isBracket
    exact (noBracket rfl).elim
  · rw [readHead]
    simp only [more, List.map_cons]

/-! ### Tables -/

/-- The entry that comes next is read, and then those behind it. -/
theorem readEntry_of_readsAs
    {entry : SpelledEntry}
    (spells : Spells (.text entry.name) entry.nameText)
    (reads : ReadsAs entry.value entry.valueText)
    {behind : List Char}
    (ends : EndsNumber behind)
    {fuel : Nat}
    (enough : 2 * entry.valueText.length ≤ fuel)
    {written : List Char}
    (same : skipSpace written = skipSpace (entry.text ++ behind)) :
    ∃ left,
      readEntry (fuel + 1) written =
          (entry.entry :: (readMoreEntries fuel left).1, (readMoreEntries fuel left).2) ∧
        skipSpace left = skipSpace behind := by
  have shape :
      entry.text ++ behind = entry.nameText ++ ':' :: (entry.valueText ++ behind) := by
    simp [SpelledEntry.text]
  obtain ⟨literal, afterName, head, readName, sameName⟩ :=
    spells.readName (':' :: (entry.valueText ++ behind))
  obtain ⟨left, read, sameLeft⟩ := reads fuel behind enough ends
  refine ⟨left, ?_, sameLeft⟩
  unfold readEntry
  rw [same, shape, head]
  simp only [readName]
  rw [sameName, skipSpace_cons (by decide)]
  simp only [read, SpelledEntry.entry]

theorem readMoreEntries_of_readsAs
    {entries : List SpelledEntry}
    (spells : ∀ entry ∈ entries, Spells (.text entry.name) entry.nameText)
    (reads : ∀ entry ∈ entries, ReadsAs entry.value entry.valueText)
    {back : List Char}
    (isBack : IsBlanks back)
    (rest : List Char)
    {fuel : Nat}
    (enough : 2 * (afterCommas SpelledEntry.text entries).length + 1 ≤ fuel)
    {written : List Char}
    (same :
      skipSpace written =
        skipSpace (afterCommas SpelledEntry.text entries ++ (back ++ '}' :: rest))) :
    readMoreEntries fuel written = (entries.map SpelledEntry.entry, rest) := by
  induction entries generalizing fuel written with
  | nil =>
      cases fuel with
      | zero => simp at enough
      | succ fuel =>
          unfold readMoreEntries
          rw [same, afterCommas, List.flatMap_nil, List.nil_append, skipSpace_append isBack,
            skipSpace_cons (by decide)]
          rfl
  | cons entry entries inductionHypothesis =>
      have size : entry.valueText.length + 1 ≤ entry.text.length := by
        simp [SpelledEntry.text]
      rw [length_afterCommas_cons] at enough
      obtain ⟨spare, rfl⟩ : ∃ spare, fuel = spare + 2 := ⟨fuel - 2, by omega⟩
      obtain ⟨left, read, sameLeft⟩ :=
        readEntry_of_readsAs (spells entry List.mem_cons_self) (reads entry List.mem_cons_self)
          (endsNumber_afterCommas SpelledEntry.text entries isBack (Or.inr rfl) rest)
          (show 2 * entry.valueText.length ≤ spare by omega) rfl
      have others : readMoreEntries spare left = (entries.map SpelledEntry.entry, rest) :=
        inductionHypothesis (fun other member => spells other (List.mem_cons_of_mem _ member))
          (fun other member => reads other (List.mem_cons_of_mem _ member)) (by omega) sameLeft
      have shape :
          afterCommas SpelledEntry.text (entry :: entries) ++ (back ++ '}' :: rest) =
            ',' :: (entry.text ++
              (afterCommas SpelledEntry.text entries ++ (back ++ '}' :: rest))) := by
        simp [afterCommas]
      unfold readMoreEntries
      rw [same, shape, skipSpace_cons (by decide)]
      simp only [read, others, List.map_cons]

theorem readsAs_emptyTable
    {back : List Char}
    (isBack : IsBlanks back) :
    ReadsAs (.table []) ('{' :: (back ++ ['}'])) := by
  intro fuel rest enough ends
  simp only [List.length_cons, List.length_append] at enough
  obtain ⟨spare, rfl⟩ : ∃ spare, fuel = spare + 2 := ⟨fuel - 2, by omega⟩
  refine ⟨rest, ?_, rfl⟩
  unfold readValue
  rw [List.cons_append, List.append_assoc, skipSpace_cons (by decide)]
  simp only
  unfold readFirstEntry
  rw [skipSpace_append isBack, List.singleton_append, skipSpace_cons (by decide)]
  rfl

theorem readsAs_table
    {first : SpelledEntry}
    {others : List SpelledEntry}
    {back : List Char}
    (spells : ∀ entry ∈ first :: others, Spells (.text entry.name) entry.nameText)
    (reads : ∀ entry ∈ first :: others, ReadsAs entry.value entry.valueText)
    (isBack : IsBlanks back) :
    ReadsAs (.table ((first :: others).map SpelledEntry.entry))
      ('{' :: (first.text ++ (afterCommas SpelledEntry.text others ++ (back ++ ['}'])))) := by
  intro fuel rest enough ends
  have size : first.valueText.length + 1 ≤ first.text.length := by
    simp [SpelledEntry.text]
  simp only [List.length_cons, List.length_append, List.length_nil] at enough
  obtain ⟨spare, rfl⟩ : ∃ spare, fuel = spare + 3 := ⟨fuel - 3, by omega⟩
  have shape :
      '{' :: (first.text ++ (afterCommas SpelledEntry.text others ++ (back ++ ['}']))) ++ rest =
        '{' :: (first.text ++
          (afterCommas SpelledEntry.text others ++ (back ++ '}' :: rest))) := by
    simp
  obtain ⟨literal, afterName, head, -, -⟩ :=
    (spells first List.mem_cons_self).readName
      (':' :: (first.valueText ++
        (afterCommas SpelledEntry.text others ++ (back ++ '}' :: rest))))
  have opened :
      skipSpace (first.text ++ (afterCommas SpelledEntry.text others ++ (back ++ '}' :: rest))) =
        '"' :: literal := by
    rw [← head]
    simp [SpelledEntry.text]
  obtain ⟨left, read, same⟩ :=
    readEntry_of_readsAs (spells first List.mem_cons_self) (reads first List.mem_cons_self)
      (endsNumber_afterCommas SpelledEntry.text others isBack (Or.inr rfl) rest)
      (show 2 * first.valueText.length ≤ spare by omega)
      ((skipSpace_cons (by decide) literal).trans opened.symm)
  have more : readMoreEntries spare left = (others.map SpelledEntry.entry, rest) :=
    readMoreEntries_of_readsAs (fun other member => spells other (List.mem_cons_of_mem _ member))
      (fun other member => reads other (List.mem_cons_of_mem _ member)) isBack rest (by omega) same
  refine ⟨rest, ?_, rfl⟩
  rw [shape]
  unfold readValue
  rw [skipSpace_cons (by decide)]
  simp only
  unfold readFirstEntry
  rw [opened]
  change
    (Document.table (readEntry (spare + 1) ('"' :: literal)).1,
      (readEntry (spare + 1) ('"' :: literal)).2) = _
  rw [read, more]
  rfl

/-! ### Documents -/

/-- Whatever characters spell is read from them, whatever stands behind. -/
theorem Spells.readsAs
    {document : Document}
    {cs : List Char}
    (spells : Spells document cs) :
    ReadsAs document cs := by
  induction spells with
  | blanks isFront _ isBack reads => exact reads.blanks isFront isBack
  | number spellsNumber => exact readsAs_number spellsNumber
  | text spellsPieces => exact readsAs_text spellsPieces
  | emptySequence isBack => exact readsAs_emptySequence isBack
  | sequence spellsItems isBack reads =>
      exact readsAs_sequence (spellsItems _ List.mem_cons_self) reads isBack
  | emptyTable isBack => exact readsAs_emptyTable isBack
  | table spellsNames _ isBack _ reads => exact readsAs_table spellsNames reads isBack
  | _ =>
      intro fuel rest enough ends
      cases fuel with
      | zero => simp at enough
      | succ fuel => exact ⟨rest, rfl, rfl⟩

/-- A text that spells a document reads as the document and nothing more. -/
theorem read_of_spells
    {document : Document}
    {text : String}
    (spells : Spells document text.toList) :
    read text = ⟨document, false⟩ := by
  obtain ⟨left, whole, isEnd⟩ :=
    spells.readsAs (2 * text.toList.length + 1) [] (by omega) endsNumber_nil
  rw [List.append_nil] at whole
  simp only [read, whole, isEnd]
  rfl

theorem areWhole_iff (items : List Document) :
    Document.areWhole items = true ↔ ∀ item ∈ items, item.isWhole = true := by
  induction items with
  | nil => simp [Document.areWhole]
  | cons item items inductionHypothesis => simp [Document.areWhole, inductionHypothesis]

theorem entriesAreWhole_iff (entries : List (Option String × Document)) :
    Document.entriesAreWhole entries = true ↔ ∀ entry ∈ entries, entry.2.isWhole = true := by
  induction entries with
  | nil => simp [Document.entriesAreWhole]
  | cons entry entries inductionHypothesis =>
      obtain ⟨name, value⟩ := entry
      simp [Document.entriesAreWhole, Document.entryIsWhole, inductionHypothesis]

/-- Whatever a text spells can at least be passed over. -/
theorem Spells.isWhole
    {document : Document}
    {cs : List Char}
    (spells : Spells document cs) :
    document.isWhole = true := by
  induction spells with
  | blanks _ _ _ whole => exact whole
  | @sequence first others back _ _ whole =>
      apply (areWhole_iff _).mpr
      intro item member
      obtain ⟨spelled, isItem, rfl⟩ := List.mem_map.mp member
      exact whole spelled isItem
  | @table first others back _ _ _ _ whole =>
      apply (entriesAreWhole_iff _).mpr
      intro entry member
      obtain ⟨spelled, isEntry, rfl⟩ := List.mem_map.mp member
      exact whole spelled isEntry
  | _ => rfl

end Json

end OnDemandTls
