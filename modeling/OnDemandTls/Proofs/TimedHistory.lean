import Mathlib.Data.List.Basic
import Mathlib.Data.List.Induction
import Mathlib.Data.List.Nodup
import OnDemandTls.Proofs.TimedCatalog

namespace OnDemandTls

/-!
# Histories of timed catalogs

A timed catalog drops what has expired only when somebody asks for it or purges
the catalog, so what it holds depends on who has looked when.  What it gives out
does not: a value is found under a key exactly if the last call that wrote there
has filed it, for a time that has not run out
(`TimedCatalog.uses_are_those_of_timed_map`).  A call that is to file something for
longer than the clock goes on panics, and writes nothing.
-/

/-- What is done to a timed catalog. -/
inductive CatalogUse (α : Type) where
  | sets (key : String) (value : α) (lifetime : Nat)
  | gets (key : String)
  | removes (key : String)
  | purges
  deriving DecidableEq, Repr

namespace CatalogUse

variable {α : Type}

/-- A value is filed under a key at some time, or what is filed there is taken away.
The clock has a last instant, and a call for longer than that files nothing. -/
def Writes
    (last now : Nat)
    (key : String) :
    CatalogUse α → Prop
  | sets other _ lifetime => other = key ∧ now + lifetime ≤ last
  | removes other => other = key
  | gets _ | purges => False

/-- What is filed under a key is dropped if it has expired. -/
def Inspects
    (key : String) :
    CatalogUse α → Prop
  | gets other => other = key
  | purges => True
  | sets _ _ _ | removes _ => False

/-- Whether something is filed or taken away at some time. -/
def isWrite (last now : Nat) : CatalogUse α → Bool
  | sets _ _ lifetime => now + lifetime ≤ last
  | removes _ => true
  | gets _ | purges => false

theorem isWrite_of_writes
    {last now : Nat}
    {use : CatalogUse α}
    {key : String}
    (writes : use.Writes last now key) :
    use.isWrite last now = true := by
  cases use with
  | sets other value lifetime => exact decide_eq_true writes.2
  | removes other => rfl
  | gets other => exact writes.elim
  | purges => exact writes.elim

end CatalogUse

/-- If something is filed under a key, erasing it leaves one value less. -/
theorem Catalog.size_erase
    {α : Type}
    {c : Catalog α}
    {key : String}
    {value : α}
    (filed : c.get? key = some value) :
    (c.erase key).size + 1 = c.size := by
  obtain ⟨before, after, split⟩ := List.append_of_mem (get?_eq_some_iff.mp filed)
  obtain ⟨smaller, greater⟩ := keys_around split
  have keepsBefore : before.filter (fun pair => pair.1 != key) = before :=
    List.filter_eq_self.mpr fun pair member =>
      bne_iff_ne.mpr fun same => Std.lt_irrefl (same ▸ smaller pair member)
  have keepsAfter : after.filter (fun pair => pair.1 != key) = after :=
    List.filter_eq_self.mpr fun pair member =>
      bne_iff_ne.mpr fun same => Std.lt_irrefl (same ▸ greater pair member)
  have left : (c.erase key).entries = before ++ after := by
    change c.toList.filter (fun pair => pair.1 != key) = before ++ after
    rw [split, List.filter_append, List.filter_cons_of_neg (by simp), keepsBefore, keepsAfter]
  have all : c.entries = before ++ (key, value) :: after := split
  rw [size, size, left, all, List.length_append, List.length_append, List.length_cons]
  rfl

namespace TimedCatalog

variable {α : Type} {c : TimedCatalog α} {key other : String} {value : α}
variable {last now instant lifetime expiry : Nat} {entry : α × Nat}

/-! ## What is held after a look -/

/-- Asking for a value drops it if it has expired, and nothing else. -/
theorem entry_drop_iff :
    (c.drop key now).entries.get? other = some entry ↔
      c.entries.get? other = some entry ∧ (other = key → now < entry.2) := by
  constructor
  · intro kept
    refine ⟨entry_of_drop kept, fun same => ?_⟩
    subst same
    have filed := entry_of_drop kept
    unfold drop at kept
    rw [filed] at kept
    simp only at kept
    split at kept
    · rename_i unexpired
      exact unexpired
    · exact ((entry_of_remove kept).1 rfl).elim
  · rintro ⟨filed, unexpired⟩
    unfold drop
    split
    · rename_i stored storedExpiry isFiled
      split
      · exact filed
      · rename_i expired
        rw [remove, Catalog.get?_erase, if_neg fun same => ?_]
        · exact filed
        · subst same
          cases filed.symm.trans isFiled
          exact expired (unexpired rfl)
    · exact filed

/-- A purge drops what has expired, and nothing else. -/
theorem entry_purge_iff :
    (c.purge now).2.entries.get? key = some entry ↔
      c.entries.get? key = some entry ∧ now < entry.2 := by
  change (c.entries.filter fun _ entry => decide (now < entry.2)).get? key = some entry ↔ _
  rw [Catalog.get?_filter, Option.filter_eq_some_iff, decide_eq_true_eq]

/-- The keys under which something is held that has expired. -/
def expiredKeys
    (c : TimedCatalog α)
    (now : Nat) :
    List String :=
  (c.entries.toList.filter fun pair => decide (pair.2.2 ≤ now)).map Prod.fst

theorem mem_expiredKeys_iff :
    key ∈ c.expiredKeys now ↔
      ∃ value expiry, c.entries.get? key = some (value, expiry) ∧ expiry ≤ now := by
  simp only [expiredKeys, List.mem_map, List.mem_filter, decide_eq_true_eq,
    Catalog.get?_eq_some_iff]
  constructor
  · rintro ⟨⟨_, value, expiry⟩, ⟨member, expired⟩, rfl⟩
    exact ⟨value, expiry, member, expired⟩
  · rintro ⟨value, expiry, member, expired⟩
    exact ⟨(key, value, expiry), ⟨member, expired⟩, rfl⟩

theorem nodup_expiredKeys (c : TimedCatalog α) (now : Nat) : (c.expiredKeys now).Nodup := by
  have ordered :=
    c.entries.ordered.sublist (List.filter_sublist (p := fun pair => decide (pair.2.2 ≤ now)))
  exact (List.pairwise_map.mpr ordered).nodup

/-- A purge counts what has expired. -/
theorem purge_eq_length (c : TimedCatalog α) (now : Nat) :
    (c.purge now).1 = (c.expiredKeys now).length := by
  have split :=
    c.entries.toList.length_eq_length_filter_add fun pair => decide (now < pair.2.2)
  simp only [← decide_not, Nat.not_lt] at split
  rw [expiredKeys, List.length_map]
  exact Nat.sub_eq_of_eq_add' split

/-- Asking for what is not given out any more takes it away. -/
theorem drop_of_find?_eq_none (missing : c.find? key now = none) :
    (c.drop key now).entries.contains key = false ∧
      (c.drop key now).size + (if c.entries.contains key then 1 else 0) = c.size := by
  unfold find? at missing
  unfold drop Catalog.contains
  cases filed : c.entries.get? key with
  | none =>
      simp only [filed, Option.isSome_none, Bool.false_eq_true, ↓reduceIte, true_and]
      rfl
  | some entry =>
      obtain ⟨value, expiry⟩ := entry
      rw [filed] at missing
      have expired : ¬ now < expiry := fun unexpired => by
        simp only [unexpired, ↓reduceIte] at missing
        cases missing
      simp only [expired, ↓reduceIte, remove, Catalog.get?_erase, Option.isSome_none,
        Option.isSome_some, true_and]
      exact Catalog.size_erase filed

/-! ## Uses one after another -/

/-- The catalog after a use at a time; a call that panics leaves it as it is. -/
def after
    (last : Nat)
    (c : TimedCatalog α)
    (use : Nat × CatalogUse α) :
    TimedCatalog α :=
  match use with
  | (now, .sets key value lifetime) => (c.set? key value lifetime now last).getD c
  | (now, .gets key) => (c.get key now).2
  | (_, .removes key) => c.remove key
  | (now, .purges) => (c.purge now).2

/-- A catalog that was empty, after uses one after another. -/
def afterAll
    (last : Nat)
    (uses : List (Nat × CatalogUse α)) :
    TimedCatalog α :=
  uses.foldl (after last) empty

theorem afterAll_snoc
    (last : Nat)
    (uses : List (Nat × CatalogUse α))
    (use : Nat × CatalogUse α) :
    afterAll last (uses ++ [use]) = (afterAll last uses).after last use := by
  rw [afterAll, List.foldl_append]
  rfl

/-- One of the uses is a filing, and all later ones spare what it has filed. -/
def Remains
    (spares : Nat × CatalogUse α → Prop)
    (uses : List (Nat × CatalogUse α))
    (filing : Nat × CatalogUse α) :
    Prop :=
  ∃ front back, uses = front ++ filing :: back ∧ ∀ later ∈ back, spares later

/-- Of the uses that write under a key, the latest one has filed a value at some time
for some lifetime. -/
def LatestSets
    (last : Nat)
    (uses : List (Nat × CatalogUse α))
    (key : String)
    (value : α)
    (instant lifetime : Nat) :
    Prop :=
  instant + lifetime ≤ last ∧
    Remains (fun later => ¬ later.2.Writes last later.1 key) uses
      (instant, .sets key value lifetime)

/-- The latest use that writes under a key has filed a value, and since its time ran
out nobody has looked. -/
def StillHolds
    (last : Nat)
    (uses : List (Nat × CatalogUse α))
    (key : String)
    (value : α)
    (instant lifetime : Nat) :
    Prop :=
  instant + lifetime ≤ last ∧
    Remains
      (fun later =>
        ¬ later.2.Writes last later.1 key ∧
          (later.2.Inspects key → later.1 < instant + lifetime))
      uses (instant, .sets key value lifetime)

/-- The uses that file something or take it away. -/
def writesOf
    (last : Nat)
    (uses : List (Nat × CatalogUse α)) :
    List (Nat × CatalogUse α) :=
  uses.filter fun use => use.2.isWrite last use.1

variable {uses : List (Nat × CatalogUse α)} {use filing : Nat × CatalogUse α}
variable {spares sparesToo : Nat × CatalogUse α → Prop}

theorem not_remains_nil : ¬ Remains spares [] filing := by
  rintro ⟨front, back, nothing, -⟩
  exact List.append_ne_nil_of_right_ne_nil front (List.cons_ne_nil filing back) nothing.symm

/-- What remains after one use more has just been filed, or has remained so far and
is spared. -/
theorem remains_snoc :
    Remains spares (uses ++ [use]) filing ↔
      use = filing ∨ (spares use ∧ Remains spares uses filing) := by
  constructor
  · rintro ⟨front, back, together, spared⟩
    rcases List.eq_nil_or_concat back with rfl | ⟨rest, last, rfl⟩
    · obtain ⟨-, sameUse⟩ := List.append_inj' together rfl
      exact Or.inl (List.head_eq_of_cons_eq sameUse)
    · rw [List.concat_eq_append, ← List.cons_append, ← List.append_assoc] at together
      obtain ⟨rfl, sameUse⟩ := List.append_inj' together rfl
      obtain rfl := List.head_eq_of_cons_eq sameUse
      rw [List.concat_eq_append] at spared
      exact Or.inr ⟨spared _ (List.mem_append_right _ (List.mem_singleton_self _)),
        front, rest, rfl, fun later member => spared later (List.mem_append_left _ member)⟩
  · rintro (rfl | ⟨spared, front, back, rfl, sparedSoFar⟩)
    · exact ⟨uses, [], rfl, fun later member => (List.not_mem_nil member).elim⟩
    · refine ⟨front, back ++ [use], by rw [List.append_assoc, List.cons_append],
        fun later member => ?_⟩
      rcases List.mem_append.mp member with earlier | atEnd
      · exact sparedSoFar later earlier
      · cases List.mem_singleton.mp atEnd
        exact spared

theorem Remains.imp
    (remains : Remains spares uses filing)
    (weaker : ∀ use ∈ uses, spares use → sparesToo use) :
    Remains sparesToo uses filing := by
  obtain ⟨front, back, rfl, spared⟩ := remains
  refine ⟨front, back, rfl, fun later member => weaker later ?_ (spared later member)⟩
  exact List.mem_append_right front (List.mem_cons_of_mem filing member)

/-- Only one use has written last under a key. -/
theorem LatestSets.unique
    {valueToo : α}
    {instantToo lifetimeToo : Nat}
    (latest : LatestSets last uses key value instant lifetime)
    (latestToo : LatestSets last uses key valueToo instantToo lifetimeToo) :
    value = valueToo ∧ instant = instantToo ∧ lifetime = lifetimeToo := by
  obtain ⟨fits, remains⟩ := latest
  obtain ⟨fitsToo, remainsToo⟩ := latestToo
  induction uses using List.reverseRecOn with
  | nil => exact (not_remains_nil remains).elim
  | append_singleton uses use inductionHypothesis =>
      rcases remains_snoc.mp remains with isFiling | ⟨spared, before⟩
      · subst isFiling
        rcases remains_snoc.mp remainsToo with same | ⟨spared, -⟩
        · cases same
          exact ⟨rfl, rfl, rfl⟩
        · exact (spared ⟨rfl, fits⟩).elim
      · rcases remains_snoc.mp remainsToo with isFiling | ⟨-, beforeToo⟩
        · subst isFiling
          exact (spared ⟨rfl, fitsToo⟩).elim
        · exact inductionHypothesis before beforeToo

theorem writesOf_snoc
    (last : Nat)
    (uses : List (Nat × CatalogUse α))
    (use : Nat × CatalogUse α) :
    writesOf last (uses ++ [use]) =
      if use.2.isWrite last use.1 then writesOf last uses ++ [use] else writesOf last uses := by
  rw [writesOf, List.filter_append]
  cases isWrite : use.2.isWrite last use.1 with
  | true => simp [writesOf, isWrite]
  | false => simp [writesOf, isWrite]

/-- Only the uses that write say which value has been filed last. -/
theorem latestSets_writesOf :
    LatestSets last (writesOf last uses) key value instant lifetime ↔
      LatestSets last uses key value instant lifetime := by
  refine and_congr_right fun fits => ?_
  induction uses using List.reverseRecOn with
  | nil => rfl
  | append_singleton uses use inductionHypothesis =>
      -- A use that is no write is neither the filing nor one that the filing cannot bear.
      rw [writesOf_snoc, remains_snoc]
      cases isWrite : use.2.isWrite last use.1 with
      | true => rw [if_pos rfl, remains_snoc, inductionHypothesis]
      | false =>
          have spared : ¬ use.2.Writes last use.1 key := fun writes =>
            Bool.noConfusion (isWrite.symm.trans (CatalogUse.isWrite_of_writes writes))
          have another : use ≠ (instant, .sets key value lifetime) := by
            rintro rfl
            exact spared ⟨rfl, fits⟩
          rw [if_neg Bool.false_ne_true, inductionHypothesis]
          exact ⟨fun latest => Or.inr ⟨spared, latest⟩,
            fun latest => (latest.resolve_left another).2⟩

/-! ## What a catalog holds and gives out -/

/-- A use files a value, or it spares what has been filed before. -/
theorem entry_after_iff :
    (c.after last use).entries.get? key = some (value, expiry) ↔
      (∃ lifetime,
        use.2 = .sets key value lifetime ∧ use.1 + lifetime = expiry ∧ expiry ≤ last) ∨
        (¬ use.2.Writes last use.1 key ∧ (use.2.Inspects key → use.1 < expiry)) ∧
          c.entries.get? key = some (value, expiry) := by
  obtain ⟨now, use⟩ := use
  cases use with
  | sets other stored lifetime =>
      change ((c.set? other stored lifetime now last).getD c).entries.get? key = _ ↔ _
      by_cases fits : now + lifetime ≤ last
      · rw [set?, if_pos fits, Option.getD_some, file, Catalog.get?_insert]
        by_cases same : key = other
        · subst same
          rw [if_pos rfl]
          constructor
          · rintro ⟨⟩
            exact Or.inl ⟨lifetime, rfl, rfl, fits⟩
          · rintro (⟨_, ⟨⟩, rfl, -⟩ | ⟨⟨spared, -⟩, -⟩)
            · rfl
            · exact (spared ⟨rfl, fits⟩).elim
        · simp [CatalogUse.Writes, CatalogUse.Inspects, same, Ne.symm same]
      · rw [set?, if_neg fits, Option.getD_none]
        constructor
        · exact fun filed => Or.inr ⟨⟨fun writes => fits writes.2, nofun⟩, filed⟩
        · rintro (⟨_, ⟨⟩, rfl, inTime⟩ | ⟨-, filed⟩)
          · exact (fits inTime).elim
          · exact filed
  | gets other =>
      change (c.drop other now).entries.get? key = _ ↔ _
      rw [entry_drop_iff]
      simp [CatalogUse.Writes, CatalogUse.Inspects, and_comm, eq_comm]
  | removes other =>
      change (c.entries.erase other).get? key = _ ↔ _
      rw [Catalog.get?_erase]
      by_cases same : key = other
      · simp [CatalogUse.Writes, same]
      · simp [CatalogUse.Writes, CatalogUse.Inspects, same, Ne.symm same]
  | purges =>
      change (c.purge now).2.entries.get? key = _ ↔ _
      rw [entry_purge_iff]
      simp [CatalogUse.Writes, CatalogUse.Inspects, and_comm]

/-- A catalog holds what has been filed last, until somebody looks after its time
has run out. -/
theorem entry_afterAll_iff :
    (afterAll last uses).entries.get? key = some (value, expiry) ↔
      ∃ instant lifetime,
        StillHolds last uses key value instant lifetime ∧ instant + lifetime = expiry := by
  induction uses using List.reverseRecOn with
  | nil =>
      refine iff_of_false nofun ?_
      rintro ⟨instant, lifetime, ⟨-, remains⟩, -⟩
      exact not_remains_nil remains
  | append_singleton uses use inductionHypothesis =>
      rw [afterAll_snoc, entry_after_iff, inductionHypothesis]
      unfold StillHolds
      constructor
      · rintro (⟨lifetime, isSet, rfl, fits⟩ | ⟨spared, instant, lifetime, ⟨fits, remains⟩, rfl⟩)
        · exact ⟨use.1, lifetime, ⟨fits, remains_snoc.mpr (Or.inl (Prod.ext rfl isSet))⟩, rfl⟩
        · exact ⟨instant, lifetime, ⟨fits, remains_snoc.mpr (Or.inr ⟨spared, remains⟩)⟩, rfl⟩
      · rintro ⟨instant, lifetime, ⟨fits, remains⟩, rfl⟩
        rcases remains_snoc.mp remains with rfl | ⟨spared, before⟩
        · exact Or.inl ⟨lifetime, rfl, rfl, fits⟩
        · exact Or.inr ⟨spared, instant, lifetime, ⟨fits, before⟩, rfl⟩

/-- At the time of the last use or later, a catalog gives out what has been filed
last, if its time has not run out. -/
theorem find?_afterAll_iff (past : ∀ use ∈ uses, use.1 ≤ now) :
    (afterAll last uses).find? key now = some value ↔
      ∃ instant lifetime,
        LatestSets last uses key value instant lifetime ∧ now < instant + lifetime := by
  constructor
  · intro found
    obtain ⟨expiry, filed, unexpired⟩ := entry_of_find? found
    obtain ⟨instant, lifetime, holds, rfl⟩ := entry_afterAll_iff.mp filed
    exact ⟨instant, lifetime, holds.imp_right (·.imp fun _ _ spared => spared.1), unexpired⟩
  · rintro ⟨instant, lifetime, latest, unexpired⟩
    -- All looks were before its time runs out, since they were not after now.
    have holds : StillHolds last uses key value instant lifetime :=
      latest.imp_right fun remains => remains.imp fun use member spared =>
        ⟨spared, fun _ => Nat.lt_of_le_of_lt (past use member) unexpired⟩
    have filed := entry_afterAll_iff.mpr ⟨instant, lifetime, holds, rfl⟩
    unfold find?
    rw [filed]
    exact if_pos unexpired

/-- A timed catalog that was empty is used, up to now.  It gives out a value under a
key exactly if the latest use that wrote there has filed that value and its time has
not run out, so looks, purges and calls for longer than the clock goes on, which panic,
can be left out or put in and change nothing.  A
purge counts the keys under which something is still held whose time has run out,
and takes exactly that away.  Who asks for something whose time has run out takes
it away, so that it does not count any more. -/
theorem uses_are_those_of_timed_map
    (last : Nat)
    (past : ∀ use ∈ uses, use.1 ≤ now) :
    (∀ key value,
      ((afterAll last uses).get key now).1 = some value ↔
        ∃ instant lifetime,
          LatestSets last uses key value instant lifetime ∧ now < instant + lifetime) ∧
      (∀ others : List (Nat × CatalogUse α),
        (∀ use ∈ others, use.1 ≤ now) →
        writesOf last others = writesOf last uses →
        ∀ key, ((afterAll last others).get key now).1 = ((afterAll last uses).get key now).1) ∧
      (∃ expired : List String,
        expired.Nodup ∧
          (∀ key,
            key ∈ expired ↔
              ∃ value instant lifetime,
                StillHolds last uses key value instant lifetime ∧ instant + lifetime ≤ now) ∧
          ((afterAll last uses).purge now).1 = expired.length ∧
          ∀ key entry,
            ((afterAll last uses).purge now).2.entries.get? key = some entry ↔
              (afterAll last uses).entries.get? key = some entry ∧ now < entry.2) ∧
      ∀ key value instant lifetime,
        LatestSets last uses key value instant lifetime →
        instant + lifetime ≤ now →
        ((afterAll last uses).get key now).2.entries.contains key = false ∧
          ((afterAll last uses).get key now).2.size +
              (if (afterAll last uses).entries.contains key then 1 else 0) =
            (afterAll last uses).size := by
  refine ⟨fun key value => find?_afterAll_iff past, ?_, ?_, ?_⟩
  · intro others pastToo sameWrites key
    ext value
    calc
      (afterAll last others).find? key now = some value
        ↔ ∃ instant lifetime,
            LatestSets last (writesOf last others) key value instant lifetime ∧
              now < instant + lifetime := by
          simp only [find?_afterAll_iff pastToo, latestSets_writesOf]
      _ ↔ (afterAll last uses).find? key now = some value := by
          simp only [find?_afterAll_iff past, sameWrites, latestSets_writesOf]
  · refine ⟨(afterAll last uses).expiredKeys now, nodup_expiredKeys _ _, fun key => ?_,
      purge_eq_length _ _, fun key entry => entry_purge_iff⟩
    rw [mem_expiredKeys_iff]
    constructor
    · rintro ⟨value, expiry, filed, expired⟩
      obtain ⟨instant, lifetime, holds, rfl⟩ := entry_afterAll_iff.mp filed
      exact ⟨value, instant, lifetime, holds, expired⟩
    · rintro ⟨value, instant, lifetime, holds, expired⟩
      exact ⟨value, _, entry_afterAll_iff.mpr ⟨instant, lifetime, holds, rfl⟩, expired⟩
  · intro key value instant lifetime latest expired
    apply drop_of_find?_eq_none
    cases found : (afterAll last uses).find? key now with
    | none => rfl
    | some other =>
        obtain ⟨instantToo, lifetimeToo, latestToo, unexpired⟩ :=
          (find?_afterAll_iff past).mp found
        obtain ⟨-, rfl, rfl⟩ := latest.unique latestToo
        exact (Nat.not_lt.mpr expired unexpired).elim

/-- A value for a second and one for longer, somebody who looks for the first one in
time, and a value that is to be there until after the end of the clock. -/
def shortAndLong : List (Nat × CatalogUse Nat) :=
  [ (0, .sets "short" 1 1000)
  , (0, .sets "long" 2 100000)
  , (500, .gets "short")
  , (700, .sets "long" 3 lastInstant) ]

/-- When the second is over, one value is gone and the one for longer is not, which
the last call has not replaced; a purge counts one, and so does the one who asks
first. -/
theorem short_value_expires :
    (∀ use ∈ shortAndLong, use.1 ≤ 1000) ∧
      ((afterAll lastInstant shortAndLong).get "long" 1000).1 = some 2 ∧
      ((afterAll lastInstant shortAndLong).get "short" 1000).1 = none ∧
      ((afterAll lastInstant shortAndLong).purge 1000).1 = 1 ∧
      ((afterAll lastInstant shortAndLong).get "short" 1000).2.entries.contains "short" =
        false := by
  have past : ∀ use ∈ shortAndLong, use.1 ≤ 1000 := by decide
  obtain ⟨finds, -, -, drops⟩ := uses_are_those_of_timed_map lastInstant past
  have long : LatestSets lastInstant shortAndLong "long" 2 0 100000 :=
    ⟨by decide, [(0, .sets "short" 1 1000)], _, rfl,
      by simp [CatalogUse.Writes, lastInstant]⟩
  have short : LatestSets lastInstant shortAndLong "short" 1 0 1000 :=
    ⟨by decide, [], _, rfl, by simp [CatalogUse.Writes]⟩
  exact ⟨past, (finds "long" 2).mpr ⟨0, 100000, long, by decide⟩, by decide +kernel,
    by decide +kernel, (drops "short" 1 0 1000 short (by decide)).1⟩

end TimedCatalog

end OnDemandTls
