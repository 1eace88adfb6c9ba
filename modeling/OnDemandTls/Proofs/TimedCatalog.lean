import OnDemandTls.TimedCatalog

namespace OnDemandTls

/-!
# What timed catalogs give out

Each operation of a timed catalog by what is found afterwards, at the time of the
operation or later.  Dropping and purging take away only what nobody finds any
more.
-/

/-- A filtered catalog answers with what has passed the test. -/
theorem Catalog.get?_filter
    {α : Type}
    (c : Catalog α)
    (test : String → α → Bool)
    (key : String) :
    (c.filter test).get? key = (c.get? key).filter (test key) := by
  ext value
  rw [Catalog.get?_eq_some_iff, Option.filter_eq_some_iff, Catalog.get?_eq_some_iff]
  exact List.mem_filter

theorem Catalog.get?_of_filter
    {α : Type}
    {c : Catalog α}
    {test : String → α → Bool}
    {key : String}
    {value : α}
    (kept : (c.filter test).get? key = some value) :
    c.get? key = some value := by
  rw [Catalog.get?_filter, Option.filter_eq_some_iff] at kept
  exact kept.1

namespace TimedCatalog

variable {α : Type}

@[simp] theorem find?_empty
    (key : String)
    (now : Nat) :
    (empty : TimedCatalog α).find? key now = none :=
  rfl

theorem find?_file
    (c : TimedCatalog α)
    (key other : String)
    (value : α)
    (expiry later : Nat) :
    (c.file key value expiry).find? other later =
      if other = key then
        if later < expiry then some value else none
      else
        c.find? other later := by
  unfold file find?
  rw [Catalog.get?_insert]
  by_cases same : other = key
  · rw [if_pos same, if_pos same]
  · rw [if_neg same, if_neg same]

theorem find?_remove
    (c : TimedCatalog α)
    (key other : String)
    (later : Nat) :
    (c.remove key).find? other later = if other = key then none else c.find? other later := by
  unfold remove find?
  rw [Catalog.get?_erase]
  by_cases same : other = key
  · rw [if_pos same, if_pos same]
  · rw [if_neg same, if_neg same]

/-- What has expired is not found any more. -/
theorem find?_of_expired
    {c : TimedCatalog α}
    {key : String}
    {value : α}
    {expiry now : Nat}
    (filed : c.entries.get? key = some (value, expiry))
    (expired : expiry ≤ now) :
    c.find? key now = none := by
  unfold find?
  rw [filed]
  exact if_neg (Nat.not_lt.mpr expired)

/-- Asking for a value does not change what is found from then on. -/
theorem find?_drop
    (c : TimedCatalog α)
    (key other : String)
    {now later : Nat}
    (notBefore : now ≤ later) :
    (c.drop key now).find? other later = c.find? other later := by
  unfold drop
  split
  · rename_i value expiry filed
    split
    · rfl
    · rename_i expired
      rw [find?_remove]
      split
      · rename_i same
        rw [same, find?_of_expired filed (Nat.le_trans (Nat.le_of_not_lt expired) notBefore)]
      · rfl
  · rfl

/-- Purging does not change what is found from then on. -/
theorem find?_purge
    (c : TimedCatalog α)
    (key : String)
    {now later : Nat}
    (notBefore : now ≤ later) :
    (c.purge now).2.find? key later = c.find? key later := by
  cases filed : c.entries.get? key with
  | none =>
      unfold purge find?
      rw [Catalog.get?_filter, filed]
      rfl
  | some entry =>
      obtain ⟨value, expiry⟩ := entry
      by_cases unexpired : now < expiry
      · unfold purge find?
        rw [Catalog.get?_filter, filed, Option.filter_some, if_pos (decide_eq_true unexpired)]
      · have expired := Nat.le_trans (Nat.le_of_not_lt unexpired) notBefore
        rw [find?_of_expired filed expired]
        unfold purge find?
        rw [Catalog.get?_filter, filed, Option.filter_some, if_neg (by simpa using unexpired)]

/-! ## Entries -/

section Entries

variable {c : TimedCatalog α} {key other : String} {now : Nat} {entry : α × Nat}

theorem entry_of_remove
    (filed : (c.remove key).entries.get? other = some entry) :
    other ≠ key ∧ c.entries.get? other = some entry := by
  rw [remove, Catalog.get?_erase] at filed
  split at filed
  · cases filed
  · rename_i another
    exact ⟨another, filed⟩

theorem entry_of_drop
    (filed : (c.drop key now).entries.get? other = some entry) :
    c.entries.get? other = some entry := by
  unfold drop at filed
  split at filed
  · split at filed
    · exact filed
    · exact (entry_of_remove filed).2
  · exact filed

theorem entry_of_find?
    {value : α}
    (found : c.find? key now = some value) :
    ∃ expiry, c.entries.get? key = some (value, expiry) ∧ now < expiry := by
  unfold find? at found
  split at found
  · rename_i stored expiry filed
    split at found
    · rename_i unexpired
      cases found
      exact ⟨expiry, filed, unexpired⟩
    · cases found
  · cases found

end Entries

end TimedCatalog

end OnDemandTls
