import OnDemandTls.Proofs.Json.Literals

namespace OnDemandTls

/-!
# Reading what was written

A document without damage, without fractions and with names that spell texts is
written, in either layout, in characters that spell it (`Json.spells_print`).  So
it is read back from its own text (`Json.read_print`, `Json.read_pretty`).
-/

namespace Json

/-- A document that a JSON text holds as it is: nothing in it is damaged, its
numbers are integers of at most 64 bits, and its names spell texts. -/
inductive Plain : Document → Prop where
  | null : Plain .null
  | boolean (value : Bool) : Plain (.boolean value)
  | integer {value : Int} : FitsLiteral value → Plain (.integer value)
  | string (value : String) : Plain (.string value)
  | sequence {items : List Document} :
      (∀ item ∈ items, Plain item) →
      Plain (.sequence items)
  | record {entries : List (String × Document)} :
      (∀ entry ∈ entries, Plain entry.2) →
      Plain (.record entries)

theorem isBlanks_break (layout : Layout) : IsBlanks layout.break_ := by
  intro c member
  cases layout with
  | compact => cases member
  | pretty level =>
      rcases List.mem_cons.mp member with rfl | blank
      · rfl
      · rw [List.eq_of_mem_replicate blank]
        rfl

/-- An item with the characters it is written in, the blanks before it included. -/
def spelledItem
    (layout : Layout)
    (item : Document) :
    Document × List Char :=
  (item, layout.break_ ++ print layout item)

/-- An entry with the characters it is written in, the blanks before it included. -/
def spelledEntry
    (layout : Layout)
    (entry : String × Document) :
    SpelledEntry where
  name := some entry.1
  nameText := layout.break_ ++ quote entry.1
  value := entry.2
  valueText := layout.colon.tail ++ print layout entry.2

theorem printItems_eq
    (layout : Layout)
    (items : List Document) :
    printItems layout items = afterCommas Prod.snd (items.map (spelledItem layout)) := by
  induction items with
  | nil => rfl
  | cons item items inductionHypothesis =>
      simp [printItems, afterCommas, spelledItem, inductionHypothesis]

theorem break_printEntry
    (layout : Layout)
    (entry : String × Document) :
    layout.break_ ++ printEntry layout (some entry.1, entry.2) =
      (spelledEntry layout entry).text := by
  cases layout <;> simp [printEntry, SpelledEntry.text, spelledEntry, Layout.colon]

/-- The entries of a record as a table holds them. -/
def named (entries : List (String × Document)) : List (Option String × Document) :=
  entries.map fun entry => (some entry.1, entry.2)

theorem printEntries_eq
    (layout : Layout)
    (entries : List (String × Document)) :
    printEntries layout (named entries) =
      afterCommas SpelledEntry.text (entries.map (spelledEntry layout)) := by
  induction entries with
  | nil => rfl
  | cons entry entries inductionHypothesis =>
      have shape :
          printEntries layout (named (entry :: entries)) =
            ',' :: (layout.break_ ++ printEntry layout (some entry.1, entry.2) ++
              printEntries layout (named entries)) :=
        rfl
      rw [shape, break_printEntry, inductionHypothesis]
      simp [afterCommas]

theorem spells_spelledItem
    {layout : Layout}
    {item : Document}
    (spells : Spells item (print layout item)) :
    Spells item (spelledItem layout item).2 := by
  have blanks := Spells.blanks (isBlanks_break layout) spells isBlanks_nil
  simpa [spelledItem] using blanks

theorem spells_nameText
    (layout : Layout)
    (entry : String × Document) :
    Spells (.text (spelledEntry layout entry).name) (spelledEntry layout entry).nameText := by
  have blanks := Spells.blanks (isBlanks_break layout) (spells_quote entry.1) isBlanks_nil
  simpa [spelledEntry, Document.string] using blanks

theorem spells_valueText
    {layout : Layout}
    {entry : String × Document}
    (spells : Spells entry.2 (print layout entry.2)) :
    Spells (spelledEntry layout entry).value (spelledEntry layout entry).valueText := by
  have isColon : IsBlanks layout.colon.tail := by
    cases layout <;> simp [Layout.colon, IsBlanks, isSpace]
  have blanks := Spells.blanks isColon spells isBlanks_nil
  simpa [spelledEntry] using blanks

theorem spells_sequence
    {items : List Document}
    (spells : ∀ item ∈ items, ∀ layout, Spells item (print layout item))
    (layout : Layout) :
    Spells (.sequence items) (print layout (.sequence items)) := by
  cases items with
  | nil => exact .emptySequence isBlanks_nil
  | cons first others =>
      have spelled :
          ∀ item ∈ (first :: others).map (spelledItem layout.inner), Spells item.1 item.2 := by
        intro item member
        obtain ⟨written, isItem, rfl⟩ := List.mem_map.mp member
        exact spells_spelledItem (spells written isItem layout.inner)
      have whole := Spells.sequence spelled (isBlanks_break layout)
      simpa [print, spelledItem, printItems_eq, Function.comp_def] using whole

theorem spells_record
    {entries : List (String × Document)}
    (spells : ∀ entry ∈ entries, ∀ layout, Spells entry.2 (print layout entry.2))
    (layout : Layout) :
    Spells (.record entries) (print layout (.record entries)) := by
  cases entries with
  | nil => exact .emptyTable isBlanks_nil
  | cons first others =>
      have names :
          ∀ entry ∈ (first :: others).map (spelledEntry layout.inner),
            Spells (.text entry.name) entry.nameText := by
        intro entry member
        obtain ⟨written, -, rfl⟩ := List.mem_map.mp member
        exact spells_nameText layout.inner written
      have values :
          ∀ entry ∈ (first :: others).map (spelledEntry layout.inner),
            Spells entry.value entry.valueText := by
        intro entry member
        obtain ⟨written, isEntry, rfl⟩ := List.mem_map.mp member
        exact spells_valueText (spells written isEntry layout.inner)
      have whole := Spells.table names values (isBlanks_break layout)
      have shape :
          print layout (.record (first :: others)) =
            '{' :: (layout.inner.break_ ++ printEntry layout.inner (some first.1, first.2) ++
              printEntries layout.inner (named others) ++ layout.break_ ++ ['}']) :=
        rfl
      rw [shape, break_printEntry, printEntries_eq]
      simpa [Document.record, SpelledEntry.entry, spelledEntry, Function.comp_def] using whole

/-- A plain document is written in characters that spell it. -/
theorem spells_print
    {document : Document}
    (plain : Plain document)
    (layout : Layout) :
    Spells document (print layout document) := by
  induction plain generalizing layout with
  | null => exact .null
  | boolean value =>
      cases value with
      | true => exact .yes
      | false => exact .no
  | integer fits => exact spells_printNumber fits
  | string value => exact spells_quote value
  | sequence _ spells => exact spells_sequence spells layout
  | record _ spells => exact spells_record spells layout

/-- The text of a plain document reads as the document and nothing more. -/
theorem read_print
    {document : Document}
    (plain : Plain document)
    (layout : Layout) :
    read (String.ofList (print layout document)) = ⟨document, false⟩ := by
  apply read_of_spells
  rw [String.toList_ofList]
  exact spells_print plain layout

/-- The pretty text of a plain document reads as the document and nothing more. -/
theorem read_pretty
    {document : Document}
    (plain : Plain document) :
    read (pretty document) = ⟨document, false⟩ :=
  read_print plain (.pretty 0)

end Json

end OnDemandTls
