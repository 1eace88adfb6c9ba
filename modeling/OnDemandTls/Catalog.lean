namespace OnDemandTls

/-!
# Catalogs

A catalog files values under texts and lists them in the order of their keys,
which is the order of code points.  The order is part of the type, so two
catalogs with the same answers are equal (`ext_get?`).
-/

/-- Values filed under texts, in strictly increasing order of the texts. -/
structure Catalog (α : Type) where
  entries : List (String × α)
  ordered : entries.Pairwise (fun a b => a.1 < b.1)

namespace Catalog

variable {α : Type}

/-- The catalog that holds nothing. -/
def empty : Catalog α where
  entries := []
  ordered := List.Pairwise.nil

instance : Inhabited (Catalog α) := ⟨empty⟩

instance [DecidableEq α] : DecidableEq (Catalog α) := fun a b =>
  if same : a.entries = b.entries then
    .isTrue (by cases a; cases b; simp_all)
  else
    .isFalse (fun equal => same (equal ▸ rfl))

/-- The filed pairs in the order of their keys. -/
def toList (c : Catalog α) : List (String × α) :=
  c.entries

/-- The keys in their order. -/
def keys (c : Catalog α) : List String :=
  c.entries.map (·.1)

/-- How many values are filed. -/
def size (c : Catalog α) : Nat :=
  c.entries.length

/-- Whether nothing is filed. -/
def isEmpty (c : Catalog α) : Bool :=
  c.entries.isEmpty

/-- The value filed under a key. -/
def get?
    (c : Catalog α)
    (key : String) :
    Option α :=
  c.entries.lookup key

/-- Whether something is filed under a key. -/
def contains
    (c : Catalog α)
    (key : String) :
    Bool :=
  (c.get? key).isSome

/-- A list in key order with one more value, which replaces an older one. -/
def insertEntry
    (key : String)
    (value : α) :
    List (String × α) → List (String × α)
  | [] => [(key, value)]
  | (other, old) :: rest =>
      if key < other then
        (key, value) :: (other, old) :: rest
      else if key = other then
        (key, value) :: rest
      else
        (other, old) :: insertEntry key value rest

/-- What an insertion leaves in the list was there before or is the new pair. -/
theorem mem_insertEntry
    {key : String}
    {value : α}
    {pair : String × α}
    {entries : List (String × α)}
    (member : pair ∈ insertEntry key value entries) :
    pair = (key, value) ∨ pair ∈ entries := by
  induction entries with
  | nil => simpa [insertEntry] using member
  | cons head rest inductionHypothesis =>
      obtain ⟨other, old⟩ := head
      unfold insertEntry at member
      split at member
      · simpa using member
      · split at member
        · rcases List.mem_cons.mp member with same | inRest
          · exact Or.inl same
          · exact Or.inr (List.mem_cons_of_mem _ inRest)
        · rcases List.mem_cons.mp member with same | inRest
          · exact Or.inr (same ▸ List.mem_cons_self)
          · rcases inductionHypothesis inRest with new | kept
            · exact Or.inl new
            · exact Or.inr (List.mem_cons_of_mem _ kept)

/-- Two texts that are neither equal nor in order are in the other order. -/
theorem lt_of_not_lt_of_ne
    {a b : String}
    (notBefore : ¬ a < b)
    (different : a ≠ b) :
    b < a :=
  Std.lt_of_le_of_ne (Std.not_lt.mp notBefore) different.symm

/-- Inserting keeps the list in order. -/
theorem pairwise_insertEntry
    (key : String)
    (value : α)
    {entries : List (String × α)}
    (ordered : entries.Pairwise (fun a b => a.1 < b.1)) :
    (insertEntry key value entries).Pairwise (fun a b => a.1 < b.1) := by
  induction entries with
  | nil => simp [insertEntry]
  | cons head rest inductionHypothesis =>
      obtain ⟨other, old⟩ := head
      obtain ⟨headBefore, restOrdered⟩ := List.pairwise_cons.mp ordered
      unfold insertEntry
      split
      · rename_i before
        refine List.pairwise_cons.mpr ⟨?_, ordered⟩
        intro pair member
        rcases List.mem_cons.mp member with same | inRest
        · exact same ▸ before
        · exact String.lt_trans before (headBefore pair inRest)
      · split
        · rename_i same
          subst same
          exact List.pairwise_cons.mpr ⟨fun pair member => headBefore pair member, restOrdered⟩
        · rename_i notBefore different
          refine List.pairwise_cons.mpr ⟨?_, inductionHypothesis restOrdered⟩
          intro pair member
          rcases mem_insertEntry member with new | kept
          · exact new ▸ lt_of_not_lt_of_ne notBefore different
          · exact headBefore pair kept

/-- File a value under a key, in place of an older one. -/
def insert
    (c : Catalog α)
    (key : String)
    (value : α) :
    Catalog α where
  entries := insertEntry key value c.entries
  ordered := pairwise_insertEntry key value c.ordered

/-- Keep the pairs that satisfy a test. -/
def filter
    (c : Catalog α)
    (test : String → α → Bool) :
    Catalog α where
  entries := c.entries.filter (fun pair => test pair.1 pair.2)
  ordered := c.ordered.sublist List.filter_sublist

/-- Take away what is filed under a key. -/
def erase
    (c : Catalog α)
    (key : String) :
    Catalog α :=
  c.filter (fun other _ => other != key)

/-- File the pairs of a list one after another, so that later ones win. -/
def ofList (pairs : List (String × α)) : Catalog α :=
  pairs.foldl (fun c pair => c.insert pair.1 pair.2) empty

/-- Change every filed value. -/
def map
    {β : Type}
    (c : Catalog α)
    (f : α → β) :
    Catalog β where
  entries := c.entries.map (fun pair => (pair.1, f pair.2))
  ordered := List.pairwise_map.mpr c.ordered

/-! ## What each operation does to the answers -/

@[simp] theorem get?_empty
    (key : String) :
    (empty : Catalog α).get? key = none :=
  rfl

theorem lookup_insertEntry
    (key other : String)
    (value : α)
    (entries : List (String × α)) :
    (insertEntry key value entries).lookup other =
      if other = key then some value else entries.lookup other := by
  induction entries with
  | nil =>
      by_cases same : other = key
      · simp [insertEntry, same]
      · have differs : (other == key) = false := by simpa using same
        simp [insertEntry, List.lookup_cons, same, differs]
  | cons head rest inductionHypothesis =>
      obtain ⟨first, old⟩ := head
      unfold insertEntry
      split
      · by_cases same : other = key
        · simp [same]
        · have differs : (other == key) = false := by simpa using same
          simp [List.lookup_cons, same, differs]
      · split
        · rename_i equal
          subst equal
          by_cases same : other = key
          · simp [same]
          · have differs : (other == key) = false := by simpa using same
            simp [List.lookup_cons, same, differs]
        · rename_i notBefore different
          by_cases atFirst : other = first
          · subst atFirst
            have differs : ¬ other = key := fun equal => different equal.symm
            simp [differs]
          · have differs : (other == first) = false := by simpa using atFirst
            simp [List.lookup_cons, differs, inductionHypothesis]

/-- An insertion is seen under its own key only. -/
@[simp] theorem get?_insert
    (c : Catalog α)
    (key other : String)
    (value : α) :
    (c.insert key value).get? other =
      if other = key then some value else c.get? other :=
  lookup_insertEntry key other value c.entries

/-- Erasing empties its own key only. -/
@[simp] theorem get?_erase
    (c : Catalog α)
    (key other : String) :
    (c.erase key).get? other =
      if other = key then none else c.get? other := by
  unfold erase filter get?
  simp only
  induction c.entries with
  | nil => simp
  | cons head rest inductionHypothesis =>
      obtain ⟨first, old⟩ := head
      by_cases dropped : first = key
      · subst dropped
        have stays : (first != first) = false := by simp
        rw [List.filter_cons_of_neg (by simp)]
        rw [inductionHypothesis]
        by_cases same : other = first
        · simp [same]
        · have differs : (other == first) = false := by simpa using same
          simp [List.lookup_cons, same, differs]
      · rw [List.filter_cons_of_pos (by simpa using dropped)]
        by_cases same : other = first
        · subst same
          simp [dropped]
        · have differs : (other == first) = false := by simpa using same
          simp [List.lookup_cons, differs, inductionHypothesis]

theorem lookup_eq_none_of_lt
    {key : String}
    {entries : List (String × α)}
    (before : ∀ pair ∈ entries, key < pair.1) :
    entries.lookup key = none := by
  refine List.lookup_eq_none_iff.mpr fun pair member => ?_
  have differs : key ≠ pair.1 := fun same => Std.lt_irrefl (same ▸ before pair member)
  simpa using differs

/-- In a list in key order no answer comes before the first key. -/
theorem not_lt_of_lookup
    {key first : String}
    {value found : α}
    {rest : List (String × α)}
    (ordered : ((first, value) :: rest).Pairwise (fun a b => a.1 < b.1))
    (answered : ((first, value) :: rest).lookup key = some found) :
    ¬ key < first := by
  intro before
  have beforeAll : ∀ pair ∈ (first, value) :: rest, key < pair.1 := by
    intro pair member
    rcases List.mem_cons.mp member with rfl | inRest
    · exact before
    · exact String.lt_trans before ((List.pairwise_cons.mp ordered).1 pair inRest)
  rw [lookup_eq_none_of_lt beforeAll] at answered
  cases answered

/-- Two lists in key order with the same answers are equal. -/
theorem eq_of_lookup_eq
    {first second : List (String × α)}
    (firstOrdered : first.Pairwise (fun a b => a.1 < b.1))
    (secondOrdered : second.Pairwise (fun a b => a.1 < b.1))
    (same : ∀ key, first.lookup key = second.lookup key) :
    first = second := by
  induction first generalizing second with
  | nil =>
      cases second with
      | nil => rfl
      | cons head rest =>
          obtain ⟨key, value⟩ := head
          have answered := same key
          simp at answered
  | cons head rest inductionHypothesis =>
      obtain ⟨key, value⟩ := head
      cases second with
      | nil =>
          have answered := same key
          simp at answered
      | cons otherHead otherRest =>
          obtain ⟨otherKey, otherValue⟩ := otherHead
          obtain ⟨headBefore, restOrdered⟩ := List.pairwise_cons.mp firstOrdered
          obtain ⟨otherBefore, otherRestOrdered⟩ := List.pairwise_cons.mp secondOrdered
          have notBefore : ¬ key < otherKey :=
            not_lt_of_lookup secondOrdered ((same key).symm.trans List.lookup_cons_self)
          have notAfter : ¬ otherKey < key :=
            not_lt_of_lookup firstOrdered ((same otherKey).trans List.lookup_cons_self)
          have sameKey : key = otherKey := by
            rcases Decidable.em (key = otherKey) with equal | differs
            · exact equal
            · exact (notAfter (lt_of_not_lt_of_ne notBefore differs)).elim
          subst sameKey
          have sameValue : value = otherValue := by simpa using same key
          subst sameValue
          rw [inductionHypothesis restOrdered otherRestOrdered fun other => ?_]
          rcases Decidable.em (other = key) with rfl | differs
          · rw [lookup_eq_none_of_lt headBefore, lookup_eq_none_of_lt otherBefore]
          · have answered := same other
            have another : (other == key) = false := by simpa using differs
            simpa [List.lookup_cons, another] using answered

/-- Two catalogs with the same answers are equal. -/
theorem ext_get?
    {first second : Catalog α}
    (same : ∀ key, first.get? key = second.get? key) :
    first = second := by
  obtain ⟨firstEntries, firstOrdered⟩ := first
  obtain ⟨secondEntries, secondOrdered⟩ := second
  cases eq_of_lookup_eq firstOrdered secondOrdered same
  rfl

/-- Taking away what is not filed changes nothing. -/
theorem erase_of_get?_eq_none
    {c : Catalog α}
    {key : String}
    (missing : c.get? key = none) :
    c.erase key = c := by
  refine ext_get? fun other => ?_
  rw [get?_erase]
  split
  · rename_i same
    rw [same, missing]
  · rfl

/-- A catalog holds nothing exactly if it has no answers. -/
theorem isEmpty_iff {c : Catalog α} :
    c.isEmpty = true ↔ ∀ key, c.get? key = none := by
  obtain ⟨entries, ordered⟩ := c
  cases entries with
  | nil => exact ⟨fun _ _ => rfl, fun _ => rfl⟩
  | cons head rest =>
      refine ⟨nofun, fun unanswered => ?_⟩
      have answered := unanswered head.1
      simp [get?] at answered

/-! ## Lists of pairs -/

theorem get?_foldl_insert
    (pairs : List (String × α))
    (c : Catalog α)
    (key : String) :
    (pairs.foldl (fun c pair => c.insert pair.1 pair.2) c).get? key =
      (pairs.reverse.lookup key).or (c.get? key) := by
  induction pairs generalizing c with
  | nil => rfl
  | cons pair pairs inductionHypothesis =>
      obtain ⟨other, value⟩ := pair
      rw [List.foldl_cons, inductionHypothesis, get?_insert, List.reverse_cons, List.lookup_append,
        Option.or_assoc]
      congr 1
      by_cases same : key = other
      · simp [same]
      · have differs : (key == other) = false := by simpa using same
        simp [List.lookup_cons, same, differs]

/-- Of the pairs of a list the last one under a key counts. -/
theorem get?_ofList
    (pairs : List (String × α))
    (key : String) :
    (ofList pairs).get? key = pairs.reverse.lookup key := by
  rw [ofList, get?_foldl_insert, get?_empty, Option.or_none]

/-- The keys that are listed before a pair are smaller than its key, and those
behind it are greater. -/
theorem keys_around
    {c : Catalog α}
    {key : String}
    {value : α}
    {before after : List (String × α)}
    (split : c.toList = before ++ (key, value) :: after) :
    (∀ pair ∈ before, pair.1 < key) ∧ ∀ pair ∈ after, key < pair.1 := by
  have ordered := c.ordered
  rw [show c.entries = before ++ (key, value) :: after from split] at ordered
  obtain ⟨-, ordered, across⟩ := List.pairwise_append.mp ordered
  exact ⟨fun pair member => across pair member _ List.mem_cons_self, (List.pairwise_cons.mp ordered).1⟩

theorem get?_eq_some_iff
    {c : Catalog α}
    {key : String}
    {value : α} :
    c.get? key = some value ↔ (key, value) ∈ c.toList := by
  constructor
  · intro answered
    obtain ⟨before, after, split, -⟩ := List.lookup_eq_some_iff.mp answered
    rw [toList, split]
    exact List.mem_append_right _ List.mem_cons_self
  · intro member
    obtain ⟨before, after, split⟩ := List.append_of_mem member
    refine List.lookup_eq_some_iff.mpr ⟨before, after, split, fun pair earlier => ?_⟩
    have smaller : pair.1 < key := (keys_around split).1 pair earlier
    have differs : key ≠ pair.1 := fun same => Std.lt_irrefl (same ▸ smaller)
    simpa using differs

/-- If the values are filed anew under other keys, a key has the value of the
last of all keys that were changed to it. -/
theorem get?_ofList_map
    (c : Catalog α)
    (rename : String → String)
    (key : String)
    (value : α) :
    (ofList (c.toList.map fun pair => (rename pair.1, pair.2))).get? key = some value ↔
      ∃ last, c.get? last = some value ∧ rename last = key ∧
        ∀ other, (c.get? other).isSome → rename other = key → ¬ last < other := by
  rw [get?_ofList]
  constructor
  · intro answered
    obtain ⟨later, earlier, split, unrelated⟩ := List.lookup_eq_some_iff.mp answered
    have listed := congrArg List.reverse split
    rw [List.reverse_reverse, List.reverse_append, List.reverse_cons, List.append_assoc,
      List.singleton_append] at listed
    obtain ⟨before, rest, whole, -, renamed⟩ := List.map_eq_append_iff.mp listed
    obtain ⟨⟨last, kept⟩, after, rfl, same, others⟩ := List.map_eq_cons_iff.mp renamed
    obtain ⟨rfl, rfl⟩ := Prod.mk.inj same
    refine ⟨last, get?_eq_some_iff.mpr (whole ▸ by simp), rfl, ?_⟩
    intro other present sameKey beyond
    obtain ⟨found, answeredOther⟩ := Option.isSome_iff_exists.mp present
    have member := get?_eq_some_iff.mp answeredOther
    rw [whole, List.mem_append, List.mem_cons] at member
    rcases member with first | equal | second
    · exact Std.lt_irrefl (String.lt_trans ((keys_around whole).1 _ first) beyond)
    · cases equal
      exact Std.lt_irrefl beyond
    · have inLater : (rename other, found) ∈ later.reverse :=
        others ▸ List.mem_map_of_mem (f := fun pair : String × α => (rename pair.1, pair.2)) second
      have differs := unrelated _ (List.mem_reverse.mp inLater)
      simp [sameKey] at differs
  · rintro ⟨last, answered, rfl, greatest⟩
    obtain ⟨before, after, split⟩ := List.append_of_mem (get?_eq_some_iff.mp answered)
    refine List.lookup_eq_some_iff.mpr
      ⟨(after.map fun pair => (rename pair.1, pair.2)).reverse,
        (before.map fun pair => (rename pair.1, pair.2)).reverse, by simp [split], ?_⟩
    intro pair member
    obtain ⟨⟨other, found⟩, later, rfl⟩ := List.mem_map.mp (List.mem_reverse.mp member)
    have answeredOther : c.get? other = some found :=
      get?_eq_some_iff.mpr (by rw [split]; simp [later])
    have differs : rename last ≠ rename other := fun same =>
      greatest other (by rw [answeredOther]; rfl) same.symm ((keys_around split).2 _ later)
    simpa using differs

/-- A catalog is made anew from its list. -/
@[simp] theorem ofList_toList (c : Catalog α) : ofList c.toList = c := by
  refine ext_get? fun key => Option.ext fun value => ?_
  have renamed := get?_ofList_map c id key value
  simp only [id_eq, List.map_id_fun'] at renamed
  rw [renamed]
  constructor
  · rintro ⟨last, answered, rfl, -⟩
    exact answered
  · intro answered
    exact ⟨key, answered, rfl, fun other _ same => same ▸ Std.lt_irrefl⟩

end Catalog

end OnDemandTls
