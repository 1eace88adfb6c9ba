import Mathlib.Algebra.Order.Floor.Div
import OnDemandTls.Proofs.ByteOrder
import OnDemandTls.Store.Opened

namespace OnDemandTls

/-!
# Pages of records

The pages of a store follow one another in the list of all its records.  How many
records come before a page is counted in one machine word, so whoever asks for a
page that is far enough behind the last one gets no answer
(`Records.page_eq_none_iff`).  Whoever asks for page after page until one is empty
has come to the end long before that, with every record once
(`CertificateStore.pages_partition_records`).
-/

namespace Records

/-- How many records come before a page, be it as many as they may; page zero is the
first one. -/
def offset (page pageSize : Nat) : Nat :=
  (max page 1 - 1) * pageSize

/-- The part of a list that a page stands for. -/
def slice
    (listed : List (String × CertificateResource))
    (page pageSize : Nat) :
    List (String × CertificateResource) :=
  (listed.drop (offset page pageSize)).take pageSize

/-- How many pages some records fill, the last one perhaps in part. -/
def pageCount (size pageSize : Nat) : Nat :=
  size ⌈/⌉ pageSize

variable {records : Records} {listed : List (String × CertificateResource)}
variable {size page pageSize : Nat}

theorem offset_succ (index pageSize : Nat) : offset (index + 1) pageSize = index * pageSize := by
  rw [offset, Nat.max_eq_left (Nat.le_add_left 1 index), Nat.add_sub_cancel]

theorem skipped?_eq (page pageSize : Nat) :
    skipped? page pageSize =
      if offset page pageSize < wordRange then some (offset page pageSize) else none := by
  have same : page - 1 = max page 1 - 1 := by omega
  rw [skipped?, offset, same]

/-- A page is the slice that it stands for, if the number of records before it fits
a machine word. -/
theorem page_of_pos (positive : 0 < pageSize) :
    records.page page pageSize =
      if offset page pageSize < wordRange then some (slice records.toList page pageSize)
      else none := by
  rw [Records.page, if_neg (Nat.ne_of_gt positive), skipped?_eq]
  split <;> rfl

theorem page_eq_none_iff (positive : 0 < pageSize) :
    records.page page pageSize = none ↔ wordRange ≤ offset page pageSize := by
  rw [page_of_pos positive, ite_eq_right_iff, ← Nat.not_lt]
  simp

theorem length_slice_le
    (listed : List (String × CertificateResource))
    (page pageSize : Nat) :
    (slice listed page pageSize).length ≤ pageSize :=
  List.length_take_le _ _

theorem slice_eq_nil_iff (positive : 0 < pageSize) :
    slice listed page pageSize = [] ↔ listed.length ≤ offset page pageSize := by
  rw [slice, List.take_eq_nil_iff, List.drop_eq_nil_iff]
  exact or_iff_right (Nat.ne_of_gt positive)

/-! ## All pages together -/

theorem lt_pageCount_iff
    {index : Nat}
    (positive : 0 < pageSize) :
    index < pageCount size pageSize ↔ index * pageSize < size := by
  rw [pageCount, ← Nat.not_le, ceilDiv_le_iff_le_mul positive, Nat.not_le, Nat.mul_comm]

/-- The slices of some pages from the first one on are what comes before the next. -/
theorem flatten_slices (listed : List (String × CertificateResource)) (pageSize count : Nat) :
    ((List.range count).map fun index => slice listed (index + 1) pageSize).flatten =
      listed.take (count * pageSize) := by
  induction count with
  | zero => simp
  | succ count inductionHypothesis =>
      rw [List.range_succ, List.map_append, List.flatten_append, inductionHypothesis, Nat.succ_mul,
        List.take_add]
      simp [slice, offset_succ]

/-- Before the first page behind all records there are not many more than these. -/
theorem offset_pageCount_lt
    (positive : 0 < pageSize)
    (sizeFits : size ≤ wordRange / 2)
    (isWord : pageSize < wordRange) :
    offset (pageCount size pageSize + 1) pageSize < wordRange := by
  rw [offset_succ]
  cases counted : pageCount size pageSize with
  | zero =>
      rw [Nat.zero_mul]
      decide
  | succ last =>
      have lastStarts : last * pageSize < size :=
        (lt_pageCount_iff positive).mp (counted ▸ Nat.lt_succ_self last)
      rw [Nat.succ_mul]
      cases last with
      | zero => rwa [Nat.zero_mul, Nat.zero_add]
      | succ before =>
          rw [Nat.succ_mul] at lastStarts ⊢
          omega

end Records

namespace CertificateStore

open Records

variable {store : CertificateStore} {all : List (String × CertificateResource)} {pageSize : Nat}

/-- What somebody gets who asks a store for page after page, until one is empty. -/
structure ListsPages
    (store : CertificateStore)
    (pageSize : Nat)
    (pages : List (List (String × CertificateResource))) :
    Prop where
  filled :
    ∀ {index : Nat} {page : List (String × CertificateResource)},
      pages[index]? = some page →
      store.items (index + 1) pageSize = .ok (some page) ∧ page ≠ []
  ends : store.items (pages.length + 1) pageSize = .ok (some [])

/-- A store that lists all its records shows every page of them. -/
theorem items_of_readable (readable : store.items 0 0 = .ok (some all)) :
    all = store.records.toList ∧
      ∀ page pageSize, store.items page pageSize = .ok (store.records.page page pageSize) := by
  cases store with
  | memory store =>
      cases readable
      exact ⟨rfl, fun _ _ => rfl⟩
  | file path store =>
      simp only [items, FileStore.items] at readable ⊢
      split at readable
      · cases readable
      · rename_i isOpen
        cases readable
        exact ⟨rfl, fun _ _ => if_neg isOpen⟩

/-- A store that can be read lists all its records in the order of the bytes of their
keys.  A page of it is its slice of the list, and has no more records than it may, as
long as the number of records before it fits a machine word; otherwise the call
panics.

Asking for page after page until one is empty gives the whole list, if the store has
no more records than half of all words, as many as fit into a memory; and all pages
behind are empty whose number of records before them fits a word. -/
theorem pages_partition_records
    (readable : store.items 0 0 = .ok (some all))
    (positive : 0 < pageSize)
    (isWord : pageSize < wordRange) :
    (all.Pairwise fun a b => Text.bytes a.1 < Text.bytes b.1) ∧
      (∀ key resource, (key, resource) ∈ all ↔ store.records.get? key = some resource) ∧
      (∀ page,
        (slice all page pageSize).length ≤ pageSize ∧
          (offset page pageSize < wordRange →
            store.items page pageSize = .ok (some (slice all page pageSize))) ∧
          (wordRange ≤ offset page pageSize → store.items page pageSize = .ok none)) ∧
      (all.length ≤ wordRange / 2 →
        ∃ pages,
          store.ListsPages pageSize pages ∧
            pages.flatten = all ∧
            ∀ page,
              pages.length < page →
              offset page pageSize < wordRange →
              store.items page pageSize = .ok (some [])) := by
  obtain ⟨rfl, shown⟩ := items_of_readable readable
  have shownSlice (page : Nat) (fits : offset page pageSize < wordRange) :
      store.items page pageSize = .ok (some (slice store.records.toList page pageSize)) := by
    rw [shown, page_of_pos positive, if_pos fits]
  refine ⟨?ordered, ?members, ?pages, ?listing⟩
  case ordered => exact store.records.ordered.imp Text.bytes_lt_bytes.mpr
  case members => exact fun key resource => Catalog.get?_eq_some_iff.symm
  case pages =>
    refine fun page => ⟨length_slice_le _ _ _, shownSlice page, fun overflows => ?_⟩
    rw [shown, (page_eq_none_iff positive).mpr overflows]
  case listing =>
    intro sizeFits
    let count := pageCount store.records.toList.length pageSize
    have endFits : offset (count + 1) pageSize < wordRange :=
      offset_pageCount_lt positive sizeFits isWord
    have behind : store.records.toList.length ≤ count * pageSize :=
      Nat.not_lt.mp fun more => Nat.lt_irrefl _ ((lt_pageCount_iff positive).mpr more)
    have emptyFrom (page : Nat) (later : count < page) :
        slice store.records.toList page pageSize = [] := by
      rw [slice_eq_nil_iff positive]
      obtain ⟨index, rfl⟩ := Nat.exists_eq_succ_of_ne_zero (Nat.ne_zero_of_lt later)
      rw [offset_succ]
      exact Nat.le_trans behind (Nat.mul_le_mul_right _ (Nat.le_of_lt_succ later))
    refine ⟨(List.range count).map fun index => slice store.records.toList (index + 1) pageSize,
      ⟨?_, ?_⟩, ?_, ?_⟩
    · intro index page isPage
      rw [List.getElem?_map, Option.map_eq_some_iff] at isPage
      obtain ⟨same, inRange, rfl⟩ := isPage
      obtain ⟨isCounted, rfl⟩ := List.getElem?_eq_some_iff.mp inRange
      rw [List.length_range] at isCounted
      rw [List.getElem_range]
      have starts := (lt_pageCount_iff positive).mp isCounted
      rw [← offset_succ] at starts
      refine ⟨shownSlice _ ?_, fun empty => ?_⟩
      · exact Nat.lt_of_lt_of_le starts (Nat.le_trans sizeFits (Nat.div_le_self _ _))
      · exact Nat.not_le.mpr starts ((slice_eq_nil_iff positive).mp empty)
    · rw [List.length_map, List.length_range, shownSlice _ endFits,
        emptyFrom _ (Nat.lt_succ_self count)]
    · rw [flatten_slices, List.take_of_length_le behind]
    · intro page later fits
      rw [List.length_map, List.length_range] at later
      rw [shownSlice page fits, emptyFrom page later]

/-- A store in memory with five records. -/
def fiveRecords : CertificateStore :=
  .memory <| (["e.test", "b.test", "a.test", "d.test", "c.test"].foldl
    (fun store name => store.put name .blank) .empty)

/-- The five records are listed by pages of two, the third of which has the last one. -/
theorem five_records_fill_pages :
    ∃ all pages,
      fiveRecords.items 0 0 = .ok (some all) ∧
        all.map (·.1) = ["a.test", "b.test", "c.test", "d.test", "e.test"] ∧
        0 < 2 ∧
        2 < wordRange ∧
        all.length ≤ wordRange / 2 ∧
        fiveRecords.ListsPages 2 pages ∧
        pages.flatten = all ∧
        fiveRecords.items 3 2 = .ok (some (slice all 3 2)) ∧
        (slice all 3 2).map (·.1) = ["e.test"] := by
  obtain ⟨all, readable, named, lastNamed⟩ :
      ∃ all,
        fiveRecords.items 0 0 = .ok (some all) ∧
          all.map (·.1) = ["a.test", "b.test", "c.test", "d.test", "e.test"] ∧
          (slice all 3 2).map (·.1) = ["e.test"] :=
    ⟨_, rfl, by decide +kernel, by decide +kernel⟩
  have five : all.length = 5 := by
    have counted := congrArg List.length named
    rwa [List.length_map] at counted
  have sizeFits : all.length ≤ wordRange / 2 := five ▸ by decide
  obtain ⟨-, -, shown, listing⟩ :=
    pages_partition_records readable (show 0 < 2 by decide) (by decide)
  obtain ⟨pages, lists, whole, -⟩ := listing sizeFits
  obtain ⟨-, isShown, -⟩ := shown 3
  exact ⟨all, pages, readable, named, by decide, by decide, sizeFits, lists, whole,
    isShown (by decide), lastNamed⟩

/-- Far behind its last page a store shows no empty page: the call panics. -/
theorem far_page_panics :
    ∃ store : CertificateStore, ∃ all page pageSize,
      store.items 0 0 = .ok (some all) ∧
        0 < pageSize ∧
        pageSize < wordRange ∧
        page < wordRange ∧
        slice all page pageSize = [] ∧
        store.items page pageSize = .ok none := by
  refine ⟨.memory (MemoryStore.empty.put "a.test" .blank), _, 0x8000000000000001, 2, rfl, ?_, ?_,
    ?_, ?_, ?_⟩
  · decide
  · decide
  · decide
  · decide +kernel
  · rfl

end CertificateStore

end OnDemandTls
