import OnDemandTls.Proofs.PrimaryNames

namespace OnDemandTls

/-!
# Settled main domains

Validation takes blanks, wildcards and dots off a main domain in this order, each
kind once, so a blank or a wildcard that stood behind another kind is left at the
beginning.  Whoever normalizes the result again takes it off: a second
validation, and the manager that makes the key of the primary certificate, but
not the suffix that a gateway looks up when it starts.
-/

namespace Text

/-- Trimming a text only takes characters off it. -/
theorem trim_sublist (cs : List Char) : (trim cs).Sublist cs :=
  (dropEndWhile_isPrefix _ _).sublist.trans (List.dropWhile_suffix _).sublist

end Text

namespace HostName

open Text

/-- Normalizing takes nothing off a main domain: there is no blank around it, and
no dot and no wildcard at its beginning. -/
structure IsSettled (main : String) : Prop where
  trimmed : Trimmed main.toList
  noDotFirst : main.toList.head? ≠ some '.'
  noWildcard : ¬ IsWildcard main

theorem dropWildcards_eq_self_iff
    {cs : List Char} :
    dropWildcards cs = cs ↔ ¬ ['*', '.'] <+: cs := by
  constructor
  · rintro kept ⟨rest, rfl⟩
    have shorter := (dropWildcards_suffix_self rest).length_le
    have same := congrArg List.length kept
    change (dropWildcards rest).length = rest.length + 2 at same
    omega
  · intro noWildcard
    unfold dropWildcards
    split
    · rename_i rest
      exact absurd ⟨rest, rfl⟩ noWildcard
    · rfl

theorem dropLeadingDots_eq_self
    {cs : List Char}
    (noDot : cs.head? ≠ some '.') :
    dropLeadingDots cs = cs := by
  cases cs with
  | nil => rfl
  | cons c cs => exact List.dropWhile_cons_of_neg (by simpa using noDot)

section Main

variable {main : String} (isMain : IsMain main)

include isMain

theorem lower_trim_main : lower (trim main.toList) = trim main.toList :=
  lower_of_sublist (trim_sublist _) isMain.lowered

theorem toList_mainDomain_suffix :
    (mainDomain main).toList <:+ dropWildcards (trim main.toList) := by
  rw [mainDomain, String.toList_ofList, lower_trim_main isMain]
  exact dropLeadingDots_suffix_self _

/-- A main domain that normalizing does not shorten is settled. -/
theorem isSettled_of_length
    (long : main.length ≤ (mainDomain main).length) :
    IsSettled main := by
  rw [← String.length_toList, ← String.length_toList] at long
  have suffix := toList_mainDomain_suffix isMain
  have noLonger := suffix.length_le
  have trimmed : trim main.toList = main.toList := by
    refine (trim_sublist _).eq_of_length_le (Nat.le_trans long ?_)
    exact (suffix.trans (dropWildcards_suffix_self _)).length_le
  rw [trimmed] at noLonger
  refine ⟨trimmed ▸ trimmed_trim _, isMain.noDotFirst, dropWildcards_eq_self_iff.mp ?_⟩
  exact (dropWildcards_suffix_self _).eq_of_length_le (Nat.le_trans long noLonger)

/-- The main domains that normalizing leaves alone. -/
theorem mainDomain_eq_self_iff : mainDomain main = main ↔ IsSettled main := by
  constructor
  · intro same
    exact isSettled_of_length isMain (Nat.le_of_eq (congrArg String.length same.symm))
  · intro isSettled
    rw [mainDomain, trim_eq_self isSettled.trimmed, isMain.lowered,
      dropWildcards_eq_self_iff.mpr isSettled.noWildcard,
      dropLeadingDots_eq_self isSettled.noDotFirst, String.ofList_toList]

/-- A main domain is settled unless a blank or a wildcard is left at its
beginning. -/
theorem isSettled_iff :
    IsSettled main ↔
      (∀ c, main.toList.head? = some c → isBlank c = false) ∧ ¬ IsWildcard main :=
  ⟨fun isSettled => ⟨isSettled.trimmed.1, isSettled.noWildcard⟩,
    fun ⟨noBlankFirst, noWildcard⟩ =>
      ⟨⟨noBlankFirst, isMain.noBlankLast⟩, isMain.noDotFirst, noWildcard⟩⟩

/-- The apex made from a main domain is its normal form. -/
theorem apex_ofSuffix : (PrimaryDomain.ofSuffix main).apex = mainDomain main := by
  have suffix : dropLeadingDots (dropWildcards (trim main.toList)) <:+ trim main.toList :=
    (dropLeadingDots_suffix_self _).trans (dropWildcards_suffix_self _)
  rw [PrimaryDomain.ofSuffix, mainDomain, lower_trim_main isMain,
    lower_of_sublist suffix.sublist (lower_trim_main isMain)]

end Main

end HostName

namespace Config

open HostName

variable {config settled : Config}

/-- A configuration with another main domain. -/
def withMainDomain
    (config : Config)
    (main : String) :
    Config :=
  { config with server := { config.server with mainDomain := main } }

theorem validate_eq_ok_iff :
    config.validate = .ok settled ↔
      mainDomain config.server.mainDomain ≠ "" ∧
        settled = config.withMainDomain (mainDomain config.server.mainDomain) ∧
        settled.check = .ok () := by
  unfold validate normalize
  by_cases named : mainDomain config.server.mainDomain = ""
  · simp [named, bind, Except.bind]
  · simp only [if_neg named, bind, Except.bind]
    split
    · rename_i error refused
      refine iff_of_false (by simp) ?_
      rintro ⟨-, rfl, checked⟩
      rw [withMainDomain, refused] at checked
      cases checked
    · rename_i checked
      constructor
      · intro accepted
        cases accepted
        exact ⟨named, rfl, checked⟩
      · rintro ⟨-, rfl, -⟩
        rfl

/-- Checking does not look at the main domain. -/
theorem check_withMainDomain
    (config : Config)
    (main : String) :
    (config.withMainDomain main).check = config.check :=
  rfl

/-- A second validation normalizes the main domain once more. -/
theorem validate_of_validate
    (accepted : config.validate = .ok settled) :
    settled.validate =
      if mainDomain settled.server.mainDomain = "" then
        .error .noMainDomain
      else
        .ok (settled.withMainDomain (mainDomain settled.server.mainDomain)) := by
  obtain ⟨-, -, checked⟩ := validate_eq_ok_iff.mp accepted
  split
  · rename_i unnamed
    simp [validate, normalize, unnamed, bind, Except.bind]
  · rename_i named
    exact validate_eq_ok_iff.mpr ⟨named, rfl, (check_withMainDomain _ _).trans checked⟩

/-- A second validation changes nothing exactly if the main domain is settled. -/
theorem validate_eq_self_iff
    (accepted : config.validate = .ok settled) :
    settled.validate = .ok settled ↔ IsSettled settled.server.mainDomain := by
  obtain ⟨-, isMain⟩ := isMain_of_validate accepted
  rw [← mainDomain_eq_self_iff isMain, validate_of_validate accepted]
  constructor
  · intro again
    split at again
    · cases again
    · exact congrArg (fun config => config.server.mainDomain) (Except.ok.inj again)
  · intro same
    rw [same, if_neg isMain.named]
    rfl

/-- The suffix of a configuration is the key of the primary certificate exactly
if the main domain is settled. -/
theorem primarySuffix_eq_key_iff
    (accepted : config.validate = .ok settled) :
    settled.primarySuffix = (PrimaryDomain.ofSuffix settled.server.mainDomain).key ↔
      IsSettled settled.server.mainDomain := by
  obtain ⟨-, isMain⟩ := isMain_of_validate accepted
  rw [← mainDomain_eq_self_iff isMain, primarySuffix,
    dropLeadingDots_eq_self isMain.noDotFirst, String.ofList_toList, PrimaryDomain.key,
    apex_ofSuffix isMain, String.append_right_inj]
  exact eq_comm

/-- When validation settles the main domain: exactly if neither a blank nor a
wildcard follows on the wildcards and dots that it takes off.  Then a second
validation changes nothing, nothing is left to be taken off, and the suffix that
a gateway looks up is the key that it keeps its primary certificate under; else
none of the three is so, and a second validation refuses the configuration or
makes the main domain shorter. -/
theorem validation_settles_main_domain_iff
    (accepted : config.validate = .ok settled) :
    let main := mainDomain config.server.mainDomain
    let clean :=
      (∀ c, main.toList.head? = some c → Text.isBlank c = false) ∧ ¬ IsWildcard main
    settled = config.withMainDomain main ∧
      (settled.validate = .ok settled ↔ clean) ∧
      (IsSettled settled.server.mainDomain ↔ clean) ∧
      (∀ gateway : Gateway,
        gateway.Serves settled →
        (settled.primarySuffix = gateway.primaryDomain.key ↔ clean)) ∧
      (¬ clean →
        settled.validate = .error .noMainDomain ∨
          ∃ again,
            settled.validate = .ok again ∧
              again.server.mainDomain.length < settled.server.mainDomain.length) := by
  obtain ⟨normal, isMain⟩ := isMain_of_validate accepted
  intro main clean
  have isClean : IsSettled settled.server.mainDomain ↔ clean := by
    rw [isSettled_iff isMain, normal]
  refine ⟨(validate_eq_ok_iff.mp accepted).2.1, ?again, isClean, ?suffix, ?unclean⟩
  case again => rw [validate_eq_self_iff accepted, isClean]
  case suffix =>
    intro gateway serves
    rw [serves.primaryDomain, primarySuffix_eq_key_iff accepted, isClean]
  case unclean =>
    intro unclean
    rw [validate_of_validate accepted]
    split
    · exact Or.inl rfl
    · refine Or.inr ⟨_, rfl, Nat.lt_of_not_le fun long => unclean ?_⟩
      exact isClean.mp (isSettled_of_length isMain long)

/-- A main domain written with a blank and a wildcard in front is settled. -/
theorem plain_pages_are_settled :
    ∃ settled,
      plainPages.validate = .ok settled ∧
        settled.validate = .ok settled ∧
        IsSettled settled.server.mainDomain ∧
        ∀ gateway : Gateway,
          gateway.Serves settled → settled.primarySuffix = gateway.primaryDomain.key := by
  have accepted :
      plainPages.validate =
        .ok { plainPages with server := { mainDomain := "pages.example.org" } } := rfl
  have normal : mainDomain plainPages.server.mainDomain = "pages.example.org" := by decide +kernel
  obtain ⟨-, again, isSettled, suffix, -⟩ := validation_settles_main_domain_iff accepted
  rw [normal] at again isSettled suffix
  have begins : "pages.example.org".toList.head? = some 'p' := by decide +kernel
  have clean :
      (∀ c, "pages.example.org".toList.head? = some c → Text.isBlank c = false) ∧
        ¬ IsWildcard "pages.example.org" := by
    refine ⟨fun c first => ?_, by decide +kernel⟩
    cases begins.symm.trans first
    decide
  exact ⟨_, accepted, again.mpr clean, isSettled.mpr clean,
    fun gateway serves => (suffix gateway serves).mpr clean⟩

/-- A main domain with a blank behind its wildcard. -/
def spacedPages : Config where
  server := { mainDomain := "*. pages.example.org" }
  acme := { apiEndpoint := AcmeDirectory.mock }

/-- The wildcard is taken off and the blank is left: a second validation changes
the main domain, and the gateway keeps its primary certificate under another key
than the one it looks up. -/
theorem spaced_pages_change_again :
    ∃ settled again,
      spacedPages.validate = .ok settled ∧
        settled.server.mainDomain = " pages.example.org" ∧
        settled.validate = .ok again ∧
        again.server.mainDomain = "pages.example.org" ∧
        settled.primarySuffix = ". pages.example.org" ∧
        ∀ gateway : Gateway,
          gateway.Serves settled → gateway.primaryDomain.key = ".pages.example.org" := by
  refine ⟨spacedPages.withMainDomain " pages.example.org",
    spacedPages.withMainDomain "pages.example.org", rfl, rfl, rfl, rfl, by decide +kernel,
    fun gateway serves => ?_⟩
  rw [serves.primaryDomain]
  decide +kernel

/-- A second validation can refuse what the first one accepted: the first leaves
a blank and a dot. -/
example :
    (spacedPages.withMainDomain "*. .").validate = .ok (spacedPages.withMainDomain " .") ∧
      (spacedPages.withMainDomain " .").validate = .error .noMainDomain :=
  ⟨rfl, rfl⟩

end Config

end OnDemandTls
