import OnDemandTls.HostName

namespace OnDemandTls

/-!
# Normal forms of host names

Folding and the rule for store keys are normal forms: applied to their own
results they change nothing.  A text is trimmed when neither of its ends is
blank, lower case keeps that, and joining the wildcard of a trimmed text does
too.
-/

namespace Text

/-- Neither end of a text is blank. -/
def Trimmed (cs : List Char) : Prop :=
  (∀ c, cs.head? = some c → isBlank c = false) ∧
    (∀ c, cs.getLast? = some c → isBlank c = false)

theorem head?_dropWhile_eq_false
    {test : Char → Bool}
    {cs : List Char}
    {c : Char}
    (first : (cs.dropWhile test).head? = some c) :
    test c = false := by
  have notDropped := List.head?_dropWhile_not test cs
  rw [first] at notDropped
  simpa using notDropped

theorem getLast?_dropEndWhile_eq_false
    {test : Char → Bool}
    {cs : List Char}
    {c : Char}
    (last : (dropEndWhile test cs).getLast? = some c) :
    test c = false := by
  unfold dropEndWhile at last
  rw [List.getLast?_reverse] at last
  exact head?_dropWhile_eq_false last

theorem dropEndWhile_eq_self
    {test : Char → Bool}
    {cs : List Char}
    (kept : ∀ c, cs.getLast? = some c → test c = false) :
    dropEndWhile test cs = cs := by
  unfold dropEndWhile
  have firstKept :
      ∀ c, cs.reverse.head? = some c → test c = false := by
    intro c first
    rw [List.head?_reverse] at first
    exact kept c first
  cases reversed : cs.reverse with
  | nil =>
      simpa using congrArg List.reverse reversed.symm
  | cons head rest =>
      have headKept : test head = false :=
        firstKept head (by rw [reversed]; rfl)
      rw [List.dropWhile_cons_of_neg (by simp [headKept]), ← reversed,
        List.reverse_reverse]

/-- A dropped end leaves the first character in its place, if any is left. -/
theorem head?_of_head?_dropEndWhile
    {test : Char → Bool}
    {cs : List Char}
    {c : Char}
    (first : (dropEndWhile test cs).head? = some c) :
    cs.head? = some c := by
  unfold dropEndWhile at first
  rw [List.head?_reverse] at first
  obtain ⟨dropped, split⟩ := List.dropWhile_suffix test (l := cs.reverse)
  rw [← List.getLast?_reverse, ← split, List.getLast?_append, first]
  rfl

/-- Trimming leaves a trimmed text. -/
theorem trimmed_trim (cs : List Char) : Trimmed (trim cs) := by
  constructor
  · intro c first
    exact head?_dropWhile_eq_false (head?_of_head?_dropEndWhile first)
  · intro c last
    exact getLast?_dropEndWhile_eq_false last

theorem trim_eq_self
    {cs : List Char}
    (trimmed : Trimmed cs) :
    trim cs = cs := by
  have beginKept : cs.dropWhile isBlank = cs := by
    cases cs with
    | nil => rfl
    | cons head rest =>
        exact List.dropWhile_cons_of_neg (by simp [trimmed.1 head rfl])
  unfold trim
  rw [beginKept]
  exact dropEndWhile_eq_self trimmed.2

/-- What is dropped at the end of a text satisfies the test. -/
theorem exists_dropEndWhile
    (test : Char → Bool)
    (cs : List Char) :
    ∃ dropped, (∀ c ∈ dropped, test c = true) ∧ dropEndWhile test cs ++ dropped = cs := by
  refine ⟨(cs.reverse.takeWhile test).reverse, fun c member => ?_, ?_⟩
  · exact List.all_eq_true.mp List.all_takeWhile c (List.mem_reverse.mp member)
  · rw [dropEndWhile, ← List.reverse_append, List.takeWhile_append_dropWhile, List.reverse_reverse]

theorem dropEndWhile_append_of_all
    {test : Char → Bool}
    {rest : List Char}
    (all : ∀ c ∈ rest, test c = true)
    (cs : List Char) :
    dropEndWhile test (cs ++ rest) = dropEndWhile test cs := by
  rw [dropEndWhile, List.reverse_append,
    List.dropWhile_append_of_pos fun c member => all c (List.mem_reverse.mp member), dropEndWhile]

/-- Trimming takes blanks off the two ends of a text. -/
theorem exists_trim (cs : List Char) :
    ∃ before after,
      (∀ c ∈ before, isBlank c = true) ∧
        (∀ c ∈ after, isBlank c = true) ∧
        before ++ trim cs ++ after = cs := by
  obtain ⟨after, blankAfter, ends⟩ := exists_dropEndWhile isBlank (cs.dropWhile isBlank)
  refine ⟨cs.takeWhile isBlank, after, List.all_eq_true.mp List.all_takeWhile, blankAfter, ?_⟩
  rw [List.append_assoc, trim, ends, List.takeWhile_append_dropWhile]

/-- Blanks around a trimmed text are trimmed. -/
theorem trim_append
    {before core after : List Char}
    (blankBefore : ∀ c ∈ before, isBlank c = true)
    (blankAfter : ∀ c ∈ after, isBlank c = true)
    (trimmed : Trimmed core) :
    trim (before ++ core ++ after) = core := by
  rw [trim, List.append_assoc, List.dropWhile_append_of_pos blankBefore]
  cases core with
  | nil =>
      rw [List.nil_append, ← List.append_nil after, List.dropWhile_append_of_pos blankAfter]
      rfl
  | cons first rest =>
      have beginKept : isBlank first = false := trimmed.1 first rfl
      rw [List.cons_append, List.dropWhile_cons_of_neg (by simp [beginKept]), ← List.cons_append,
        dropEndWhile_append_of_all blankAfter, dropEndWhile_eq_self trimmed.2]

/-- The lower case of a capital letter stands 32 places behind it. -/
theorem toNat_toLower
    {c : Char}
    (capital : 65 ≤ c.toNat ∧ c.toNat ≤ 90) :
    c.toLower.toNat = c.toNat + 32 := by
  have upper : c.val ≥ 'A'.val ∧ c.val ≤ 'Z'.val :=
    ⟨UInt32.le_iff_toNat_le.mpr capital.1, UInt32.le_iff_toNat_le.mpr capital.2⟩
  have lowered : c.toLower.val = c.val + ('a'.val - 'A'.val) := by
    unfold Char.toLower
    rw [dif_pos upper]
  have shift : ('a'.val - 'A'.val).toNat = 32 := by decide
  change c.toLower.val.toNat = c.val.toNat + 32
  have bound : c.val.toNat ≤ 90 := capital.2
  rw [lowered, UInt32.toNat_add, shift]
  exact Nat.mod_eq_of_lt (by omega)

/-- Only capital letters have a lower case of their own. -/
theorem toLower_eq_self
    {c : Char}
    (noCapital : ¬ (65 ≤ c.toNat ∧ c.toNat ≤ 90)) :
    c.toLower = c := by
  unfold Char.toLower
  rw [dif_neg]
  intro upper
  exact noCapital
    ⟨UInt32.le_iff_toNat_le.mp upper.1, UInt32.le_iff_toNat_le.mp upper.2⟩

/-- Letters are no blanks. -/
theorem isBlank_eq_false
    {c : Char}
    (letter : 65 ≤ c.toNat ∧ c.toNat ≤ 122) :
    isBlank c = false := by
  simp only [isBlank, Bool.or_eq_false_iff, Bool.and_eq_false_iff, decide_eq_false_iff_not,
    beq_eq_false_iff_ne]
  omega

/-- Lower case turns nothing into a blank and no blank into anything. -/
theorem isBlank_toLower (c : Char) : isBlank c.toLower = isBlank c := by
  by_cases capital : 65 ≤ c.toNat ∧ c.toNat ≤ 90
  · have place := toNat_toLower capital
    rw [isBlank_eq_false ⟨capital.1, by omega⟩, isBlank_eq_false (by omega)]
  · rw [toLower_eq_self capital]

theorem toLower_toLower (c : Char) : c.toLower.toLower = c.toLower := by
  by_cases capital : 65 ≤ c.toNat ∧ c.toNat ≤ 90
  · have place := toNat_toLower capital
    exact toLower_eq_self (by omega)
  · rw [toLower_eq_self capital, toLower_eq_self capital]

theorem lower_lower (cs : List Char) : lower (lower cs) = lower cs := by
  simp only [lower, List.map_map]
  exact List.map_congr_left fun c _ => toLower_toLower c

theorem trimmed_lower
    {cs : List Char}
    (trimmed : Trimmed cs) :
    Trimmed (lower cs) := by
  constructor
  · intro c first
    simp only [lower, List.head?_map, Option.map_eq_some_iff] at first
    obtain ⟨original, isFirst, rfl⟩ := first
    rw [isBlank_toLower]
    exact trimmed.1 original isFirst
  · intro c last
    simp only [lower, List.getLast?_map, Option.map_eq_some_iff] at last
    obtain ⟨original, isLast, rfl⟩ := last
    rw [isBlank_toLower]
    exact trimmed.2 original isLast

end Text

namespace HostName

open Text

theorem trimmed_joinWildcard
    {cs : List Char}
    (trimmed : Trimmed cs) :
    Trimmed (joinWildcard cs) := by
  unfold joinWildcard
  split
  · rename_i rest
    constructor
    · intro c first
      simp only [List.head?_cons, Option.some.injEq] at first
      subst first
      decide
    · intro c last
      exact trimmed.2 c (by rw [List.getLast?_cons_cons]; exact last)
  · exact trimmed

/-- There is no second wildcard to join. -/
theorem joinWildcard_joinWildcard (cs : List Char) :
    joinWildcard (joinWildcard cs) = joinWildcard cs := by
  rw [joinWildcard.eq_def cs]
  split
  · rfl
  · rename_i noWildcard
    rw [joinWildcard.eq_def cs]
    split
    · exact (noWildcard _ rfl).elim
    · rfl

theorem lower_joinWildcard_lower (cs : List Char) :
    lower (joinWildcard (lower cs)) = joinWildcard (lower cs) := by
  have lowered := lower_lower cs
  generalize lower cs = low at lowered
  unfold joinWildcard
  split
  · rename_i rest
    simp only [lower, List.map_cons, List.cons.injEq] at lowered ⊢
    exact lowered.2
  · exact lowered

/-- A store key is its own store key. -/
@[simp] theorem storeKey_storeKey (name : String) :
    storeKey (storeKey name) = storeKey name := by
  have trimmed : Trimmed (joinWildcard (lower (trim name.toList))) :=
    trimmed_joinWildcard (trimmed_lower (trimmed_trim _))
  simp only [storeKey, String.toList_ofList, trim_eq_self trimmed,
    lower_joinWildcard_lower, joinWildcard_joinWildcard]

@[simp] theorem fold_fold (name : String) : fold (fold name) = fold name := by
  have trimmed : Trimmed (lower (trim name.toList)) := trimmed_lower (trimmed_trim _)
  simp only [fold, String.toList_ofList, trim_eq_self trimmed, lower_lower]

/-- Folding a name does not change where it is filed. -/
@[simp] theorem storeKey_fold (name : String) : storeKey (fold name) = storeKey name := by
  have trimmed : Trimmed (lower (trim name.toList)) := trimmed_lower (trimmed_trim _)
  simp only [storeKey, fold, String.toList_ofList, trim_eq_self trimmed, lower_lower]

/-- A store key is folded. -/
@[simp] theorem fold_storeKey (name : String) : fold (storeKey name) = storeKey name := by
  have trimmed : Trimmed (joinWildcard (lower (trim name.toList))) :=
    trimmed_joinWildcard (trimmed_lower (trimmed_trim _))
  simp only [storeKey, fold, String.toList_ofList, trim_eq_self trimmed,
    lower_joinWildcard_lower]

/-! ## Wildcards -/

/-- A name begins with a wildcard label. -/
def IsWildcard (name : String) : Prop :=
  ['*', '.'] <+: name.toList

instance (name : String) : Decidable (IsWildcard name) :=
  inferInstanceAs (Decidable (['*', '.'] <+: name.toList))

theorem joinWildcard_eq_self_iff
    {cs : List Char} :
    joinWildcard cs = cs ↔ ¬ ['*', '.'] <+: cs := by
  unfold joinWildcard
  split
  · rename_i rest
    simp
  · rename_i noWildcard
    refine iff_of_true rfl fun wildcard => ?_
    obtain ⟨rest, rfl⟩ := wildcard
    exact noWildcard rest rfl

/-- The names that are filed under themselves are the ones without a wildcard. -/
theorem storeKey_eq_fold_iff
    {name : String} :
    storeKey name = fold name ↔ ¬ IsWildcard (fold name) := by
  rw [IsWildcard, ← joinWildcard_eq_self_iff, storeKey, fold, String.ofList_inj,
    String.toList_ofList]

end HostName

end OnDemandTls
