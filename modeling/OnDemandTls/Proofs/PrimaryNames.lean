import OnDemandTls.CommandLine.Service
import OnDemandTls.Config.Validation
import OnDemandTls.Gateway.Resolution
import OnDemandTls.Proofs.NormalForms

namespace OnDemandTls

/-!
# The names of the primary domain

Four normal forms meet where a name is classified: that of the main domain, that
of the primary domain made from it, that of the name a client asks for, and that
of the names that tenants claim.  They agree if the main domain is trimmed and
has no trailing dot, and the name has no blank before its own; this module says
exactly when they do not, and what a claim gets then.
-/

namespace Text

theorem getLast?_of_suffix
    {xs ys : List Char}
    (suffix : xs <:+ ys)
    (nonempty : xs ≠ []) :
    ys.getLast? = xs.getLast? := by
  obtain ⟨front, rfl⟩ := suffix
  rw [List.getLast?_append, List.getLast?_eq_some_getLast nonempty, Option.some_or]

theorem lower_eq_self_iff
    {cs : List Char} :
    lower cs = cs ↔ ∀ c ∈ cs, c.toLower = c := by
  induction cs with
  | nil => simp [lower]
  | cons c cs inductionHypothesis =>
      rw [List.forall_mem_cons, ← inductionHypothesis]
      simp [lower]

theorem lower_of_sublist
    {xs ys : List Char}
    (sublist : xs.Sublist ys)
    (lowered : lower ys = ys) :
    lower xs = xs :=
  lower_eq_self_iff.mpr fun c member => lower_eq_self_iff.mp lowered c (sublist.mem member)

theorem dropEndWhile_isPrefix
    (test : Char → Bool)
    (cs : List Char) :
    dropEndWhile test cs <+: cs := by
  have dropped := List.dropWhile_suffix test (l := cs.reverse)
  rwa [← List.reverse_prefix, List.reverse_reverse] at dropped

theorem dropEndWhile_append
    {test : Char → Bool}
    {ys : List Char}
    (kept : dropEndWhile test ys ≠ [])
    (xs : List Char) :
    dropEndWhile test (xs ++ ys) = xs ++ dropEndWhile test ys := by
  unfold dropEndWhile at kept ⊢
  have notAll : (ys.reverse.dropWhile test).isEmpty = false := by
    simpa using kept
  rw [List.reverse_append, List.dropWhile_append, notAll]
  simp

/-- A beginning that does not end in what is dropped is kept. -/
theorem isPrefix_dropEndWhile
    {test : Char → Bool}
    {start cs : List Char}
    (kept : ∀ c, start.getLast? = some c → test c = false)
    (begins : start <+: cs) :
    start <+: dropEndWhile test cs := by
  obtain ⟨rest, rfl⟩ := begins
  have whole := dropEndWhile_eq_self kept
  unfold dropEndWhile at whole ⊢
  rw [List.reverse_append, List.dropWhile_append]
  split
  · exact whole.symm ▸ List.prefix_rfl
  · rw [List.reverse_append, List.reverse_reverse]
    exact List.prefix_append _ _

/-- Trimming a text that has no blank at its end takes blanks off its beginning. -/
theorem trim_suffix
    {cs : List Char}
    (closed : ∀ c, cs.getLast? = some c → isBlank c = false) :
    trim cs <:+ cs := by
  have dropped := List.dropWhile_suffix isBlank (l := cs)
  have kept : trim cs = cs.dropWhile isBlank := by
    refine dropEndWhile_eq_self fun c last => closed c ?_
    by_cases blank : cs.dropWhile isBlank = []
    · rw [blank] at last
      cases last
    · rw [getLast?_of_suffix dropped blank, last]
  rw [kept]
  exact dropped

end Text

namespace HostName

open Text

/-- A name is another one or lies under it. -/
def IsUnder (main name : String) : Prop :=
  name = main ∨ '.' :: main.toList <:+ name.toList

theorem dropWildcards_suffix (cs : List Char) : '.' :: dropWildcards cs <:+ '.' :: cs := by
  induction cs using dropWildcards.induct with
  | case1 rest inductionHypothesis =>
      rw [dropWildcards]
      exact inductionHypothesis.trans ⟨['.', '*'], rfl⟩
  | case2 cs noWildcard =>
      have kept : dropWildcards cs = cs := by
        rw [dropWildcards]
        exact noWildcard
      exact ⟨[], congrArg (List.cons '.') kept⟩

theorem dropLeadingDots_suffix (cs : List Char) : '.' :: dropLeadingDots cs <:+ '.' :: cs := by
  induction cs with
  | nil => exact List.suffix_rfl
  | cons c cs inductionHypothesis =>
      by_cases dot : c = '.'
      · subst dot
        exact inductionHypothesis.trans (List.suffix_cons _ _)
      · have kept : dropLeadingDots (c :: cs) = c :: cs :=
          List.dropWhile_cons_of_neg (by simpa using dot)
        exact ⟨[], congrArg (List.cons '.') kept⟩

theorem suffix_of_cons_suffix_cons
    {c : Char}
    {xs ys : List Char}
    (suffix : c :: xs <:+ c :: ys) :
    xs <:+ ys := by
  rcases List.suffix_cons_iff.mp suffix with same | further
  · exact (List.cons.inj same).2 ▸ List.suffix_rfl
  · exact (List.suffix_cons c xs).trans further

theorem getLast?_dropTrailingDots_ne
    (cs : List Char) :
    (dropTrailingDots cs).getLast? ≠ some '.' := by
  intro last
  have notDot := getLast?_dropEndWhile_eq_false last
  cases notDot

/-! ## Names that are asked for -/

theorem toList_asked (name : String) :
    (asked name).toList = lower (dropTrailingDots (trim name.toList)) :=
  String.toList_ofList

theorem lower_asked (name : String) : lower (asked name).toList = (asked name).toList := by
  rw [toList_asked, lower_lower]

theorem head?_asked
    {name : String}
    {c : Char}
    (first : (asked name).toList.head? = some c) :
    isBlank c = false := by
  rw [toList_asked, lower, List.head?_map] at first
  obtain ⟨upper, isFirst, rfl⟩ := Option.map_eq_some_iff.mp first
  rw [isBlank_toLower]
  exact (trimmed_trim _).1 upper (head?_of_head?_dropEndWhile isFirst)

/-- Folding the name that a client asks for does not touch its beginning. -/
theorem isWildcard_fold_asked (serverName : String) :
    IsWildcard (fold (asked serverName)) ↔ IsWildcard (asked serverName) := by
  have beginKept : (asked serverName).toList.dropWhile isBlank = (asked serverName).toList := by
    cases shape : (asked serverName).toList with
    | nil => rfl
    | cons c rest =>
        have noBlank := head?_asked (show (asked serverName).toList.head? = some c by rw [shape]; rfl)
        exact List.dropWhile_cons_of_neg (by simp [noBlank])
  have isPrefix := dropEndWhile_isPrefix isBlank (asked serverName).toList
  have folded : (fold (asked serverName)).toList = dropEndWhile isBlank (asked serverName).toList := by
    rw [fold, String.toList_ofList, trim, beginKept]
    exact lower_of_sublist isPrefix.sublist (lower_asked serverName)
  rw [IsWildcard, folded]
  constructor
  · exact fun begins => begins.trans isPrefix
  · refine isPrefix_dropEndWhile fun c last => ?_
    cases last
    decide

/-! ## Main domains -/

theorem dropWildcards_suffix_self (cs : List Char) : dropWildcards cs <:+ cs :=
  suffix_of_cons_suffix_cons (dropWildcards_suffix cs)

theorem dropLeadingDots_suffix_self (cs : List Char) : dropLeadingDots cs <:+ cs :=
  List.dropWhile_suffix _

/-- The normal form of a main domain: it is in lower case, and begins with no
dot and ends in no blank. -/
structure IsMain (main : String) : Prop where
  named : main ≠ ""
  lowered : lower main.toList = main.toList
  noDotFirst : main.toList.head? ≠ some '.'
  noBlankLast : ∀ c, main.toList.getLast? = some c → isBlank c = false

theorem isMain_mainDomain
    {name : String}
    (named : mainDomain name ≠ "") :
    IsMain (mainDomain name) := by
  have suffix : (mainDomain name).toList <:+ lower (trim name.toList) := by
    rw [mainDomain, String.toList_ofList]
    exact (dropLeadingDots_suffix_self _).trans (dropWildcards_suffix_self _)
  refine ⟨named, lower_of_sublist suffix.sublist (lower_lower _), ?_, ?_⟩
  · intro first
    rw [mainDomain, String.toList_ofList, dropLeadingDots] at first
    have notDot := head?_dropWhile_eq_false first
    cases notDot
  · intro c last
    rw [← getLast?_of_suffix suffix (by simpa using named)] at last
    exact (trimmed_lower (trimmed_trim _)).2 c last

/-- A name without its trailing dots. -/
def withoutRoot (name : String) : String :=
  String.ofList (dropTrailingDots name.toList)

theorem toList_withoutRoot (name : String) :
    (withoutRoot name).toList = dropTrailingDots name.toList :=
  String.toList_ofList

theorem withoutRoot_eq_self
    {name : String}
    (noDot : name.toList.getLast? ≠ some '.') :
    withoutRoot name = name := by
  have kept : dropTrailingDots name.toList = name.toList := by
    refine dropEndWhile_eq_self fun c last => ?_
    have differs : c ≠ '.' := fun same => noDot (same ▸ last)
    simpa using differs
  rw [withoutRoot, kept, String.ofList_toList]

section Main

variable {main : String} (isMain : IsMain main)

include isMain

theorem dropTrailingDots_main_ne_nil : dropTrailingDots main.toList ≠ [] := by
  intro nothing
  have begins := isMain.noDotFirst
  have nonempty : main.toList ≠ [] := by simpa using isMain.named
  obtain ⟨c, cs, shape⟩ := List.exists_cons_of_ne_nil nonempty
  rw [dropTrailingDots, dropEndWhile, List.reverse_eq_nil_iff] at nothing
  have dropped := List.any_dropWhile (l := main.toList.reverse) (p := fun c => c == '.')
  rw [nothing, shape] at dropped
  rw [shape] at begins
  simp at dropped begins
  exact begins dropped.2

/-- A name under a main domain with dots at its end is asked for without them. -/
theorem asked_under_main :
    (asked ("x." ++ main)).toList = 'x' :: '.' :: (withoutRoot main).toList := by
  have nonempty : main.toList ≠ [] := by simpa using isMain.named
  have trimmed : Trimmed ('x' :: '.' :: main.toList) := by
    constructor
    · intro c first
      cases first
      decide
    · intro c last
      have ends : ('x' :: '.' :: main.toList).getLast? = main.toList.getLast? :=
        getLast?_of_suffix ⟨['x', '.'], rfl⟩ nonempty
      exact isMain.noBlankLast c (ends ▸ last)
  have kept := dropEndWhile_append (dropTrailingDots_main_ne_nil isMain) ['x', '.']
  have lowered : lower (dropTrailingDots main.toList) = dropTrailingDots main.toList :=
    lower_of_sublist (dropEndWhile_isPrefix _ _).sublist isMain.lowered
  rw [toList_asked, toList_withoutRoot]
  simp only [String.toList_append]
  change lower (dropTrailingDots (trim ('x' :: '.' :: main.toList))) = _
  rw [trim_eq_self trimmed]
  change lower (dropEndWhile _ (['x', '.'] ++ main.toList)) = _
  rw [kept]
  change 'x'.toLower :: '.'.toLower :: lower (dropTrailingDots main.toList) = _
  rw [lowered]
  rfl

end Main

end HostName

namespace PrimaryDomain

open Text HostName

variable {primary : PrimaryDomain}

@[simp] theorem toList_key (primary : PrimaryDomain) :
    primary.key.toList = '.' :: primary.apex.toList := by
  simp [key]

theorem covers_iff
    {name : String} :
    primary.covers name = true ↔ primary.key.toList <:+ '.' :: name.toList := by
  rw [covers, Bool.or_eq_true, List.isSuffixOf_iff_suffix, beq_iff_eq, List.suffix_cons_iff,
    toList_key, List.cons.injEq, String.toList_inj]
  constructor
  · rintro (suffix | same)
    · exact Or.inr suffix
    · exact Or.inl ⟨rfl, same.symm⟩
  · rintro (⟨-, same⟩ | suffix)
    · exact Or.inr same.symm
    · exact Or.inl suffix

/-- A primary domain covers what lies under a name that it covers. -/
theorem covers_of_isUnder
    {main name : String}
    (covered : primary.covers main = true)
    (under : IsUnder main name) :
    primary.covers name = true := by
  rcases under with rfl | under
  · exact covered
  · exact covers_iff.mpr ((covers_iff.mp covered).trans (under.trans (List.suffix_cons _ _)))

section Main

variable {main : String} (isMain : IsMain main)

include isMain

/-- The apex made from a main domain is the end of the main domain. -/
theorem apex_suffix : (ofSuffix main).apex.toList <:+ main.toList := by
  have suffix :
      dropLeadingDots (dropWildcards (trim main.toList)) <:+ main.toList :=
    ((dropLeadingDots_suffix_self _).trans (dropWildcards_suffix_self _)).trans
      (trim_suffix isMain.noBlankLast)
  rw [ofSuffix, String.toList_ofList, lower_of_sublist suffix.sublist isMain.lowered]
  exact suffix

/-- The key of a primary domain ends in a dot or as the main domain does. -/
theorem getLast?_key :
    (ofSuffix main).key.toList.getLast? = some '.' ∨
      (ofSuffix main).key.toList.getLast? = main.toList.getLast? := by
  rw [toList_key]
  by_cases blank : (ofSuffix main).apex.toList = []
  · rw [blank]
    exact Or.inl rfl
  · rw [getLast?_of_suffix (List.suffix_cons _ _) blank,
      getLast?_of_suffix (apex_suffix isMain) blank]
    exact Or.inr rfl

/-- If a main domain ends in a dot, its own name is not covered. -/
theorem covers_of_trailing_dot
    (dot : main.toList.getLast? = some '.') :
    (ofSuffix main).covers (withoutRoot main) = false := by
  refine Bool.eq_false_iff.mpr fun covered => ?_
  have suffix := covers_iff.mp covered
  have nonempty : (withoutRoot main).toList ≠ [] := by
    rw [toList_withoutRoot]
    exact dropTrailingDots_main_ne_nil isMain
  have ends := getLast?_of_suffix suffix (by simp)
  rw [getLast?_of_suffix (List.suffix_cons _ _) nonempty, toList_withoutRoot] at ends
  have keyEnds : (ofSuffix main).key.toList.getLast? = some '.' := by
    rcases getLast?_key isMain with own | same
    · exact own
    · exact same.trans dot
  exact getLast?_dropTrailingDots_ne _ (ends.trans keyEnds)

/-- If what lies under a main domain is covered, so is its own name. -/
theorem covers_of_covers_under
    (covered : (ofSuffix main).covers (asked ("x." ++ main)) = true) :
    (ofSuffix main).covers (withoutRoot main) = true := by
  have suffix := covers_iff.mp covered
  rw [asked_under_main isMain, toList_key] at suffix
  rcases List.suffix_cons_iff.mp suffix with whole | suffix
  · -- The apex is no longer than the main domain, so it cannot be a name under it,
    -- unless dots at the end of the main domain make up for that.
    exfalso
    have apex := (List.cons.inj whole).2
    by_cases dot : main.toList.getLast? = some '.'
    · have ends : (ofSuffix main).apex.toList.getLast? = some '.' := by
        rw [← getLast?_of_suffix (apex_suffix isMain) (by simp [apex]), dot]
      have same : ('x' :: '.' :: dropTrailingDots main.toList).getLast? =
          (dropTrailingDots main.toList).getLast? :=
        getLast?_of_suffix ⟨['x', '.'], rfl⟩ (dropTrailingDots_main_ne_nil isMain)
      rw [apex, toList_withoutRoot, same] at ends
      exact getLast?_dropTrailingDots_ne _ ends
    · have shorter := (apex_suffix isMain).length_le
      rw [apex, withoutRoot_eq_self dot] at shorter
      simp only [List.length_cons] at shorter
      omega
  · rcases List.suffix_cons_iff.mp suffix with whole | suffix
    · exact absurd (List.cons.inj whole).1 (by decide)
    · rw [covers_iff, toList_key]
      exact suffix

/-- A trimmed main domain without a dot at its end is covered. -/
theorem covers_of_trimmed
    (trimmed : Trimmed main.toList)
    (noDot : main.toList.getLast? ≠ some '.') :
    (ofSuffix main).covers (withoutRoot main) = true := by
  have suffix :=
    (dropLeadingDots_suffix (dropWildcards main.toList)).trans (dropWildcards_suffix main.toList)
  have inMain : dropLeadingDots (dropWildcards main.toList) <:+ main.toList :=
    (dropLeadingDots_suffix_self _).trans (dropWildcards_suffix_self _)
  have apex : (ofSuffix main).apex.toList = dropLeadingDots (dropWildcards main.toList) := by
    rw [ofSuffix, String.toList_ofList, trim_eq_self trimmed,
      lower_of_sublist inMain.sublist isMain.lowered]
  rw [withoutRoot_eq_self noDot, covers_iff, toList_key, apex]
  exact suffix

/-! ## Store keys -/

/-- A name that is covered ends in no blank. -/
theorem trimmed_of_covers
    {name : String}
    (covered : (ofSuffix main).covers (asked name) = true) :
    Trimmed (asked name).toList := by
  refine ⟨fun c first => head?_asked first, fun c last => ?_⟩
  have nonempty : (asked name).toList ≠ [] := by
    intro nothing
    rw [nothing] at last
    cases last
  have ends := getLast?_of_suffix (covers_iff.mp covered) (by simp)
  rw [getLast?_of_suffix (List.suffix_cons _ _) nonempty, last] at ends
  rcases getLast?_key isMain with dot | same
  · rw [dot] at ends
    cases ends
    decide
  · exact isMain.noBlankLast c (same ▸ ends.symm)

end Main

/-- A trimmed name with the key of the primary certificate is covered. -/
theorem covers_of_storeKey_eq
    {name : String}
    (trimmed : Trimmed (asked name).toList)
    (same : storeKey (asked name) = primary.key) :
    primary.covers (asked name) = true := by
  have joined : joinWildcard (asked name).toList = primary.key.toList := by
    rw [← same, storeKey, String.toList_ofList, trim_eq_self trimmed, lower_asked]
  rw [covers_iff, ← joined]
  unfold joinWildcard
  split
  · rename_i rest shape
    rw [shape]
    exact ⟨['.', '*'], rfl⟩
  · exact List.suffix_cons _ _

/-- The key of a primary domain is trimmed and in lower case, whatever suffix the
domain is made from. -/
theorem normal_key_ofSuffix (suffix : String) :
    Trimmed (ofSuffix suffix).key.toList ∧
      lower (ofSuffix suffix).key.toList = (ofSuffix suffix).key.toList := by
  have shape :
      (ofSuffix suffix).key.toList =
        lower ('.' :: dropLeadingDots (dropWildcards (trim suffix.toList))) := by
    rw [toList_key, ofSuffix, String.toList_ofList]
    rfl
  have inSuffix := (dropLeadingDots_suffix _).trans (dropWildcards_suffix (trim suffix.toList))
  have trimmed : Trimmed ('.' :: dropLeadingDots (dropWildcards (trim suffix.toList))) := by
    constructor
    · intro c first
      cases first
      decide
    · intro c last
      rw [← getLast?_of_suffix inSuffix (List.cons_ne_nil _ _)] at last
      by_cases blank : trim suffix.toList = []
      · rw [blank] at last
        cases last
        decide
      · rw [getLast?_of_suffix (List.suffix_cons _ _) blank] at last
        exact (trimmed_trim _).2 c last
  rw [shape]
  exact ⟨trimmed_lower trimmed, lower_lower _⟩

/-- The key of a primary domain is a store key. -/
theorem storeKey_key_ofSuffix (suffix : String) :
    storeKey (ofSuffix suffix).key = (ofSuffix suffix).key := by
  obtain ⟨trimmed, lowered⟩ := normal_key_ofSuffix suffix
  rw [storeKey, trim_eq_self trimmed, lowered, ← String.toList_inj, String.toList_ofList]
  simp [joinWildcard]

/-- The first name that the primary certificate is requested for has the key of
the primary domain. -/
theorem storeKey_wildcard_ofSuffix (suffix : String) :
    storeKey ("*" ++ (ofSuffix suffix).key) = (ofSuffix suffix).key := by
  obtain ⟨trimmed, lowered⟩ := normal_key_ofSuffix suffix
  have name : ("*" ++ (ofSuffix suffix).key).toList = '*' :: (ofSuffix suffix).key.toList := by
    simp
  have nameTrimmed : Trimmed ('*' :: (ofSuffix suffix).key.toList) := by
    constructor
    · intro c first
      cases first
      decide
    · intro c last
      rw [getLast?_of_suffix (List.suffix_cons _ _) (by simp)] at last
      exact trimmed.2 c last
  have nameLowered :
      lower ('*' :: (ofSuffix suffix).key.toList) = '*' :: (ofSuffix suffix).key.toList :=
    congrArg (List.cons '*') lowered
  rw [storeKey, name, trim_eq_self nameTrimmed, nameLowered, ← String.toList_inj,
    String.toList_ofList]
  simp [joinWildcard]

end PrimaryDomain

/-! ## Gateways -/

namespace Gateway

open HostName

/-- A gateway has the main domain and the claims of a checked configuration. -/
structure Serves (gateway : Gateway) (config : Config) : Prop where
  primaryDomain : gateway.primaryDomain = PrimaryDomain.ofSuffix config.server.mainDomain
  authority : gateway.authority = (ClaimRegister.ofDomains config.customDomains).lookup

theorem classify_of_covers
    {gateway : Gateway}
    {name : String}
    (covered : gateway.primaryDomain.covers name = true) :
    gateway.classify name = gateway.primaryTarget := by
  rw [classify, covered]
  rfl

/-- Only names that are not covered have targets of their own. -/
theorem of_classify_not_primary
    {gateway : Gateway}
    {name : String}
    (own : (gateway.classify name).primary = false) :
    gateway.primaryDomain.covers name = false ∧ (gateway.classify name).key = storeKey name := by
  unfold classify at own ⊢
  split at own
  · cases own
  · rename_i uncovered
    cases claimed : gateway.authority name with
    | none =>
        rw [claimed] at own
        cases own
    | some claim =>
        simp only [claimed] at own
        by_cases authorized : claim.authorized = true
        · simp [uncovered, authorized]
        · simp only [authorized] at own
          cases own

/-- A custom domain whose claim is confirmed. -/
def confirmed (name : String) : CustomDomain :=
  { domain := name, owner := "tenant" }

/-- The gateway of a main domain with one custom domain. -/
def withClaim (main name : String) : Gateway where
  primaryDomain := PrimaryDomain.ofSuffix main
  general := none
  primary := none
  authority := (ClaimRegister.ofDomains [confirmed name]).lookup

theorem serves_withClaim
    (config : Config)
    (name : String) :
    Serves (withClaim config.server.mainDomain name)
      { config with customDomains := [confirmed name] } where
  primaryDomain := by simp only [withClaim]
  authority := by simp only [withClaim]

theorem classify_withClaim
    {main name : String}
    (uncovered : (PrimaryDomain.ofSuffix main).covers (asked name) = false) :
    (withClaim main name).classify (asked name) =
      { key := storeKey (asked name)
        primary := false
        issuanceAllowed := true
        user := some "tenant" } := by
  have claimed :
      (withClaim main name).authority (asked name) =
        some { owner := "tenant", repo := "pages", branch := "pages", authorized := true } := by
    simp [withClaim, confirmed, ClaimRegister.lookup, ClaimRegister.ofDomains,
      ClaimRegister.claimOf, Catalog.ofList]
  have notPrimary : (withClaim main name).primaryDomain.covers (asked name) = false := uncovered
  simp [classify, notPrimary, claimed]

end Gateway

namespace Config

open HostName Gateway

variable {config settled : Config}

/-- What is left of the main domain when it is accepted. -/
theorem isMain_of_validate
    (accepted : config.validate = .ok settled) :
    settled.server.mainDomain = mainDomain config.server.mainDomain ∧
      IsMain settled.server.mainDomain := by
  unfold validate normalize at accepted
  by_cases named : mainDomain config.server.mainDomain = ""
  · simp [named, bind, Except.bind] at accepted
  · simp only [if_neg named, bind, Except.bind] at accepted
    split at accepted
    · cases accepted
    · cases accepted
      exact ⟨rfl, isMain_mainDomain named⟩

/-- What is not covered goes to whoever claims it, so if all names under a main
domain are kept, its own name is covered. -/
theorem covers_of_keeps
    (isMain : IsMain settled.server.mainDomain)
    (keeps :
      ∀ domains gateway name,
        Serves gateway { settled with customDomains := domains } →
        IsUnder (withoutRoot settled.server.mainDomain) (asked name) →
        gateway.classify (asked name) = gateway.primaryTarget) :
    (PrimaryDomain.ofSuffix settled.server.mainDomain).covers
      (withoutRoot settled.server.mainDomain) = true := by
  refine Classical.byContradiction fun uncovered => ?_
  have free :
      (PrimaryDomain.ofSuffix settled.server.mainDomain).covers
        (asked ("x." ++ settled.server.mainDomain)) = false := by
    refine Bool.eq_false_iff.mpr fun covered => uncovered ?_
    exact PrimaryDomain.covers_of_covers_under isMain covered
  have under :
      IsUnder (withoutRoot settled.server.mainDomain)
        (asked ("x." ++ settled.server.mainDomain)) := by
    refine Or.inr ?_
    rw [asked_under_main isMain]
    exact List.suffix_cons _ _
  have kept := keeps _ _ _ (serves_withClaim settled ("x." ++ settled.server.mainDomain)) under
  have notPrimary := congrArg ServingTarget.primary ((classify_withClaim free).symm.trans kept)
  cases notPrimary

/-- A name that has a blank at its end and the key of the primary certificate is
not covered, and a claim for it gets that key. -/
theorem trimmed_of_apart
    {name : String}
    (isMain : IsMain settled.server.mainDomain)
    (apart :
      ∀ domains gateway,
        Serves gateway { settled with customDomains := domains } →
        (gateway.classify (asked name)).primary = false →
        (gateway.classify (asked name)).key ≠ gateway.primaryDomain.key)
    (same :
      storeKey (asked name) = (PrimaryDomain.ofSuffix settled.server.mainDomain).key) :
    Text.Trimmed (asked name).toList := by
  refine Classical.byContradiction fun blank => ?_
  have free :
      (PrimaryDomain.ofSuffix settled.server.mainDomain).covers (asked name) = false :=
    Bool.eq_false_iff.mpr fun covered => blank (PrimaryDomain.trimmed_of_covers isMain covered)
  have own := classify_withClaim free
  refine apart _ _ (serves_withClaim settled name) (by rw [own]) ?_
  rw [own]
  exact same

/-- When a main domain keeps its names, in whatever way custom domains are
claimed.  All names at or under it, without the dots at its end, are primary
exactly if its own name is; that is so if it is trimmed and ends in no dot, and
not so if it ends in a dot.  And a name cannot be filed under the key of the
primary certificate exactly if it has no blank before the dots at its own end,
or would not be filed there anyway. -/
theorem main_domain_keeps_names
    (accepted : config.validate = .ok settled) :
    let main := mainDomain config.server.mainDomain
    let primary := PrimaryDomain.ofSuffix settled.server.mainDomain
    ((∀ domains gateway name,
        Serves gateway { settled with customDomains := domains } →
        IsUnder (withoutRoot main) (asked name) →
        gateway.classify (asked name) = gateway.primaryTarget) ↔
      primary.covers (withoutRoot main) = true) ∧
    (main.toList.getLast? = some '.' → primary.covers (withoutRoot main) = false) ∧
    (Text.Trimmed main.toList → main.toList.getLast? ≠ some '.' →
      primary.covers (withoutRoot main) = true) ∧
    ∀ name,
      (∀ domains gateway,
        Serves gateway { settled with customDomains := domains } →
        (gateway.classify (asked name)).primary = false →
        (gateway.classify (asked name)).key ≠ gateway.primaryDomain.key) ↔
      (storeKey (asked name) = primary.key → Text.Trimmed (asked name).toList) := by
  obtain ⟨normal, isMain⟩ := isMain_of_validate accepted
  simp only [← normal]
  refine ⟨⟨?owns, ?covered⟩, PrimaryDomain.covers_of_trailing_dot isMain,
    PrimaryDomain.covers_of_trimmed isMain, fun name => ⟨?trimmed, ?differs⟩⟩
  case owns => exact covers_of_keeps isMain
  case covered =>
    intro covered domains gateway name serves under
    refine classify_of_covers ?_
    rw [serves.primaryDomain]
    exact PrimaryDomain.covers_of_isUnder covered under
  case trimmed => exact trimmed_of_apart isMain
  case differs =>
    intro trimmed domains gateway serves own same
    obtain ⟨uncovered, key⟩ := of_classify_not_primary own
    rw [key, serves.primaryDomain] at same
    rw [serves.primaryDomain] at uncovered
    have covered := PrimaryDomain.covers_of_storeKey_eq (trimmed same) same
    rw [covered] at uncovered
    cases uncovered

/-- The main domain of some pages, as an operator may write it. -/
def plainPages : Config where
  server := { mainDomain := " *.Pages.example.org" }
  acme := { apiEndpoint := AcmeDirectory.mock }

/-- A main domain without a dot at its end keeps its names. -/
theorem plain_pages_keep_names :
    ∃ settled,
      plainPages.validate = .ok settled ∧
      ∀ domains gateway name,
        Serves gateway { settled with customDomains := domains } →
        IsUnder "pages.example.org" (asked name) →
        gateway.classify (asked name) = gateway.primaryTarget := by
  have accepted :
      plainPages.validate =
        .ok { plainPages with server := { mainDomain := "pages.example.org" } } := rfl
  have normal : mainDomain plainPages.server.mainDomain = "pages.example.org" := by decide +kernel
  obtain ⟨keeps, -, covered, -⟩ := main_domain_keeps_names accepted
  have trimmed : Text.Trimmed "pages.example.org".toList := by
    have begins : "pages.example.org".toList.head? = some 'p' := by decide +kernel
    have ends : "pages.example.org".toList.getLast? = some 'g' := by decide +kernel
    constructor
    · intro c first
      cases begins.symm.trans first
      decide
    · intro c last
      cases ends.symm.trans last
      decide
  rw [normal, withoutRoot_eq_self (by decide)] at keeps covered
  exact ⟨_, accepted, keeps.mpr (covered trimmed (by decide))⟩

/-- The same main domain with a dot at its end, whose name a tenant claims. -/
def rootedPages : Config where
  server := { mainDomain := "pages.example.org." }
  acme := { apiEndpoint := AcmeDirectory.mock }
  customDomains := [{ domain := "pages.example.org", owner := "mallory" }]

/-- The main domain is accepted with the dot at its end, but its name is asked
for and claimed without: the tenant gets it. -/
theorem rooted_pages_lose_name :
    rootedPages.validate = .ok rootedPages ∧
      IsUnder (withoutRoot (mainDomain rootedPages.server.mainDomain))
        (asked "pages.example.org") ∧
      ∀ gateway,
        Serves gateway rootedPages →
        gateway.classify (asked "pages.example.org") =
          { key := "pages.example.org"
            primary := false
            issuanceAllowed := true
            user := some "mallory" } := by
  refine ⟨rfl, Or.inl (by decide +kernel), fun gateway serves => ?_⟩
  have uncovered : gateway.primaryDomain.covers (asked "pages.example.org") = false := by
    rw [serves.primaryDomain]
    decide +kernel
  have claimed :
      gateway.authority (asked "pages.example.org") =
        some { owner := "mallory", repo := "pages", branch := "pages", authorized := true } := by
    rw [serves.authority]
    decide +kernel
  have key : storeKey (asked "pages.example.org") = "pages.example.org" := by decide +kernel
  simp [classify, uncovered, claimed, key]

end Config

/-! ## Gateways that run -/

theorem CommandStep.of_bind_ok
    {α β : Type}
    {step : CommandStep α}
    {next : α → CommandStep β}
    {tree left : FileTree}
    {value : β}
    (ended : (step >>= next) tree = .ok value left) :
    ∃ found between, step tree = .ok found between ∧ next found between = .ok value left := by
  change EStateM.bind step next tree = _ at ended
  unfold EStateM.bind at ended
  cases first : step tree with
  | ok found between =>
      rw [first] at ended
      exact ⟨found, between, rfl, ended⟩
  | error failure between =>
      rw [first] at ended
      cases ended

theorem CommandStep.of_pure_ok
    {α : Type}
    {value found : α}
    {tree left : FileTree}
    (ended : (pure value : CommandStep α) tree = .ok found left) :
    found = value := by
  cases ended
  rfl

/-- A gateway that has started has the main domain and the claims of its
configuration, which is the one that was checked. -/
theorem RunningGateway.serves_of_start
    {machine : Machine}
    {config : Config}
    {running : RunningGateway}
    {tree left : FileTree}
    (started : start machine config tree = .ok running left) :
    running.gateway.Serves config := by
  unfold start at started
  obtain ⟨store, _, -, started⟩ := CommandStep.of_bind_ok started
  obtain ⟨clients, _, -, started⟩ := CommandStep.of_bind_ok started
  obtain ⟨⟨primary, kept⟩, _, -, started⟩ := CommandStep.of_bind_ok started
  cases primary with
  | error reason => cases started
  | ok resource =>
      simp only at started
      split at started <;>
        obtain ⟨taken, _, -, started⟩ := CommandStep.of_bind_ok started <;>
        obtain ⟨listeners, _, -, started⟩ := CommandStep.of_bind_ok started <;>
        obtain rfl := CommandStep.of_pure_ok started <;>
        constructor <;>
        simp only

end OnDemandTls
