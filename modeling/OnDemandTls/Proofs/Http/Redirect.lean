import OnDemandTls.Proofs.Http.RequestHost

namespace OnDemandTls

/-!
# Redirects

A redirect is written by joining texts, and read by whoever follows it by
splitting one text.  What is split off are the parts that were joined: the scheme,
the place of the encrypted listener, and the path and query of the request, unless
the request is for `*`, which runs into the place
(`PlainAnswer.redirect_keeps_authority_and_target`).
-/

/-- The parts of a URI. -/
structure UriParts where
  scheme : Option (List Char)
  authority : Option (List Char)
  path : List Char
  query : Option (List Char)
  fragment : Option (List Char)
  deriving DecidableEq, Repr

namespace UriParts

/-- Characters that end a scheme. -/
def endsScheme (c : Char) : Bool :=
  c == ':' || RequestTarget.endsAuthority c

/-- Characters that end a path. -/
def endsPath (c : Char) : Bool :=
  c == '?' || c == '#'

/-- The scheme of a URI, and what follows its colon. -/
def splitScheme (cs : List Char) : Option (List Char) × List Char :=
  match cs.takeWhile (!endsScheme ·), cs.dropWhile (!endsScheme ·) with
  | c :: name, ':' :: rest => (some (c :: name), rest)
  | _, _ => (none, cs)

/-- An authority behind two slashes, and what follows it. -/
def splitAuthority : List Char → Option (List Char) × List Char
  | '/' :: '/' :: rest =>
      (some (rest.takeWhile (!RequestTarget.endsAuthority ·)),
        rest.dropWhile (!RequestTarget.endsAuthority ·))
  | cs => (none, cs)

/-- A query behind a question mark, and what follows it. -/
def splitQuery : List Char → Option (List Char) × List Char
  | '?' :: rest => (some (rest.takeWhile (· != '#')), rest.dropWhile (· != '#'))
  | cs => (none, cs)

/-- A fragment behind a number sign. -/
def fragment? : List Char → Option (List Char)
  | '#' :: rest => some rest
  | _ => none

/-- Split a URI into its parts. -/
def ofText (text : String) : UriParts :=
  let (scheme, rest) := splitScheme text.toList
  let (authority, rest) := splitAuthority rest
  let (query, back) := splitQuery (rest.dropWhile (!endsPath ·))
  { scheme := scheme
    authority := authority
    path := rest.takeWhile (!endsPath ·)
    query := query
    fragment := fragment? back }

/-- A query as it is written behind a path. -/
def queryText : Option (List Char) → List Char
  | some query => '?' :: query
  | none => []

variable {authority path : List Char} {query : Option (List Char)}

theorem endsAuthority_of_endsPath
    {c : Char}
    (ends : endsPath c = true) :
    RequestTarget.endsAuthority c = true := by
  unfold endsPath at ends
  unfold RequestTarget.endsAuthority
  rw [Bool.or_assoc, ends, Bool.or_true]

theorem endsPath_of_head?_queryText
    {c : Char}
    (first : (queryText query).head? = some c) :
    endsPath c = true := by
  cases query with
  | none => cases first
  | some query =>
      cases first
      rfl

/-- A character that ends a text is where reading it stops. -/
theorem span_of_head?
    {test : Char → Bool}
    {cs : List Char}
    (stops : ∀ c, cs.head? = some c → test c = false) :
    cs.takeWhile test = [] ∧ cs.dropWhile test = cs := by
  cases cs with
  | nil => exact ⟨rfl, rfl⟩
  | cons c rest =>
      have stopsHere : ¬ test c = true := Bool.eq_false_iff.mp (stops c rfl)
      exact ⟨List.takeWhile_cons_of_neg stopsHere, List.dropWhile_cons_of_neg stopsHere⟩

/-- Texts that are joined to a URI are its parts if each ends where it should. -/
theorem ofText_join
    (authorityPlain : ∀ c ∈ authority, RequestTarget.endsAuthority c = false)
    (rooted : ∀ c, path.head? = some c → c = '/')
    (pathPlain : ∀ c ∈ path, endsPath c = false)
    (queryPlain : ∀ text, query = some text → '#' ∉ text) :
    ofText (String.ofList ("https://".toList ++ authority ++ (path ++ queryText query))) =
      { scheme := some "https".toList
        authority := some authority
        path := path
        query := query
        fragment := none } := by
  -- Reading a part stops at the first character of the next one, whichever that is.
  have afterAuthority :
      ∀ c, (path ++ queryText query).head? = some c →
        (!RequestTarget.endsAuthority c) = false := by
    intro c first
    cases path with
    | nil =>
        rw [endsAuthority_of_endsPath (endsPath_of_head?_queryText first)]
        rfl
    | cons head rest =>
        cases first
        rw [rooted c rfl]
        rfl
  have afterPath : ∀ c, (queryText query).head? = some c → (!endsPath c) = false := by
    intro c first
    rw [endsPath_of_head?_queryText first]
    rfl
  have authorityKept : ∀ c ∈ authority, (!RequestTarget.endsAuthority c) = true := by
    intro c member
    rw [authorityPlain c member]
    rfl
  have pathKept : ∀ c ∈ path, (!endsPath c) = true := by
    intro c member
    rw [pathPlain c member]
    rfl
  obtain ⟨noAuthority, allPath⟩ := span_of_head? afterAuthority
  obtain ⟨noPath, allQuery⟩ := span_of_head? afterPath
  have scheme :
      splitScheme ("https://".toList ++ authority ++ (path ++ queryText query)) =
        (some "https".toList, '/' :: '/' :: (authority ++ (path ++ queryText query))) := by
    rw [List.append_assoc]
    rfl
  have isAuthority :
      splitAuthority ('/' :: '/' :: (authority ++ (path ++ queryText query))) =
        (some authority, path ++ queryText query) := by
    rw [splitAuthority, List.takeWhile_append_of_pos authorityKept,
      List.dropWhile_append_of_pos authorityKept, noAuthority, allPath, List.append_nil]
  have isQuery : splitQuery (queryText query) = (query, []) := by
    cases query with
    | none => rfl
    | some text =>
        have kept : ∀ c ∈ text, (c != '#') = true := fun c member =>
          bne_iff_ne.mpr fun isSign => queryPlain text rfl (isSign ▸ member)
        rw [queryText, splitQuery, List.takeWhile_eq_self_iff.mpr kept,
          List.dropWhile_eq_nil_iff.mpr kept]
  unfold ofText
  simp only [String.toList_ofList, scheme, isAuthority,
    List.takeWhile_append_of_pos pathKept, List.dropWhile_append_of_pos pathKept, noPath, allQuery,
    isQuery, List.append_nil, fragment?]

example :
    ofText "http://user@host:80/a/b?c?d#e" =
      { scheme := some "http".toList
        authority := some "user@host:80".toList
        path := "/a/b".toList
        query := some "c?d".toList
        fragment := some "e".toList } := by
  decide

end UriParts

/-! ## Targets -/

/-- A path and a query as they stand in a target that can be read. -/
structure PathAndQuery.IsProper (target : PathAndQuery) : Prop where
  rooted : ∀ c, target.path.toList.head? = some c → c = '/'
  path : ∀ c ∈ target.path.toList, RequestTarget.isPathChar c = true
  query :
    ∀ query, target.query = some query → ∀ c ∈ query.toList, RequestTarget.isQueryChar c = true

namespace RequestTarget

/-- The query of a target. -/
def query? : RequestTarget → Option String
  | origin target | absolute _ target => target.query
  | asterisk | authorityOnly _ => none

/-- The path and query of a target are as they can be read. -/
def IsProper : RequestTarget → Prop
  | origin target | absolute _ target => target.IsProper
  | asterisk | authorityOnly _ => True

theorem isProper_of_pathAndQuery
    {cs : List Char}
    {target : PathAndQuery}
    (isRead : pathAndQuery cs = some target)
    (begins : ∀ c, cs.head? = some c → endsAuthority c = true) :
    target.IsProper := by
  have rooted :
      ∀ c, (cs.takeWhile fun c => c != '?' && c != '#').head? = some c → c = '/' := by
    intro c first
    cases cs with
    | nil => cases first
    | cons head rest =>
        have ends := begins head rfl
        rw [List.takeWhile_cons] at first
        split at first
        · rename_i noEnd
          cases first
          simp only [endsAuthority, Bool.or_eq_true, beq_iff_eq] at ends
          simp only [Bool.and_eq_true, bne_iff_ne] at noEnd
          rcases ends with (isSlash | isMark) | isSign
          · exact isSlash
          · exact (noEnd.1 isMark).elim
          · exact (noEnd.2 isSign).elim
        · cases first
  unfold pathAndQuery at isRead
  simp only at isRead
  split at isRead
  · rename_i pathChars
    rw [List.all_eq_true] at pathChars
    split at isRead
    · split at isRead
      · rename_i queryChars
        rw [List.all_eq_true] at queryChars
        cases isRead
        refine ⟨by simpa using rooted, by simpa using pathChars, ?_⟩
        rintro query ⟨⟩
        simpa using queryChars
      · cases isRead
    · cases isRead
      exact ⟨by simpa using rooted, by simpa using pathChars, nofun⟩
  · cases isRead

/-- A target that can be read is as it should be. -/
theorem isProper_of_parse?
    {text : String}
    {target : RequestTarget}
    (isRead : parse? text = some target) :
    target.IsProper := by
  unfold parse? at isRead
  split at isRead
  · cases isRead
  split at isRead
  · cases isRead
    trivial
  split at isRead
  · rename_i slash
    obtain ⟨target, isTarget, rfl⟩ := Option.map_eq_some_iff.mp isRead
    refine isProper_of_pathAndQuery isTarget fun c first => ?_
    cases slash.symm.trans first
    rfl
  · unfold parseFull at isRead
    split at isRead
    · simp only at isRead
      split at isRead
      · cases isRead
      split at isRead
      · obtain ⟨target, isTarget, rfl⟩ := Option.map_eq_some_iff.mp isRead
        refine isProper_of_pathAndQuery isTarget fun c first => ?_
        have ends := Text.head?_dropWhile_eq_false first
        simpa using ends
      · cases isRead
    · split at isRead
      · cases isRead
        trivial
      · cases isRead

theorem endsPath_of_isPathChar
    {c : Char}
    (isPathChar : isPathChar c = true) :
    UriParts.endsPath c = false := by
  rw [UriParts.endsPath, Bool.or_eq_false_iff, beq_eq_false_iff_ne, beq_eq_false_iff_ne]
  constructor <;> rintro rfl <;> cases isPathChar

/-- A character that is no blank and no control character of ASCII. -/
def IsGraphic (c : Char) : Prop :=
  0x21 ≤ c.toNat ∧ c ≠ '\x7F'

theorem isGraphic_of_isPathChar
    {c : Char}
    (isPathChar : isPathChar c = true) :
    IsGraphic c := by
  refine ⟨?_, fun isDelete => ?_⟩
  · simp only [RequestTarget.isPathChar, Bool.or_eq_true, Bool.and_eq_true, beq_iff_eq,
      decide_eq_true_eq] at isPathChar
    omega
  · subst isDelete
    cases isPathChar

theorem isGraphic_of_isQueryChar
    {c : Char}
    (isQueryChar : isQueryChar c = true) :
    IsGraphic c := by
  refine ⟨?_, fun isDelete => ?_⟩
  · simp only [RequestTarget.isQueryChar, Bool.or_eq_true, Bool.and_eq_true, beq_iff_eq,
      decide_eq_true_eq] at isQueryChar
    omega
  · subst isDelete
    cases isQueryChar

/-- A path, where an empty one counts as `/`. -/
def shown (path : List Char) : List Char :=
  if path = [] then ['/'] else path

/-- What a redirect keeps of a target: a path and the query, where the path is that
of the target if an empty one counts as `/`. -/
structure Keeps
    (target : RequestTarget)
    (path : List Char) :
    Prop where
  text :
    (target.pathAndQuery?.getD "/").toList =
      path ++ UriParts.queryText (target.query?.map String.toList)
  rooted : ∀ c, path.head? = some c → c = '/'
  pathChars : ∀ c ∈ path, isPathChar c = true
  queryChars :
    ∀ query, target.query? = some query → ∀ c ∈ query.toList, isQueryChar c = true
  path : shown path = shown target.path.toList

theorem shown_ne_nil (path : List Char) : shown path ≠ [] := by
  unfold shown
  split
  · exact List.cons_ne_nil _ _
  · assumption

theorem shown_shown (path : List Char) : shown (shown path) = shown path :=
  if_neg (shown_ne_nil path)

theorem toList_shownPath (target : PathAndQuery) :
    target.shownPath.toList = shown target.path.toList := by
  unfold PathAndQuery.shownPath shown
  by_cases empty : target.path = ""
  · rw [if_pos empty, if_pos (String.toList_eq_nil_iff.mpr empty)]
    rfl
  · rw [if_neg empty, if_neg fun nothing => empty (String.toList_eq_nil_iff.mp nothing)]

theorem rooted_shown
    {path : List Char}
    (rooted : ∀ c, path.head? = some c → c = '/') :
    ∀ c, (shown path).head? = some c → c = '/' := by
  unfold shown
  split
  · rintro c ⟨⟩
    rfl
  · exact rooted

theorem isPathChar_shown
    {path : List Char}
    (pathChars : ∀ c ∈ path, isPathChar c = true) :
    ∀ c ∈ shown path, isPathChar c = true := by
  unfold shown
  split
  · intro c member
    cases List.mem_singleton.mp member
    rfl
  · exact pathChars

/-- A path and query are kept as they are; without a query an empty path is written
as `/`. -/
theorem keeps_of_text
    {target : RequestTarget}
    {written : PathAndQuery}
    (proper : written.IsProper)
    (isText : target.pathAndQuery? = some written.text)
    (isQuery : target.query? = written.query)
    (isPath : target.path = written.shownPath) :
    ∃ path, target.Keeps path := by
  have pathIs : shown target.path.toList = shown written.path.toList := by
    rw [isPath, toList_shownPath, shown_shown]
  cases query : written.query with
  | none =>
      refine ⟨shown written.path.toList, ?_, rooted_shown proper.rooted,
        isPathChar_shown proper.path, isQuery ▸ proper.query, by rw [pathIs, shown_shown]⟩
      rw [isText, isQuery, query, Option.getD_some, PathAndQuery.text, query]
      simp only [toList_shownPath, Option.map_none, UriParts.queryText, List.append_nil]
  | some text =>
      refine ⟨written.path.toList, ?_, proper.rooted, proper.path, isQuery ▸ proper.query,
        pathIs.symm⟩
      rw [isText, isQuery, query, Option.getD_some, PathAndQuery.text, query]
      simp [UriParts.queryText]

/-- Every target but `*` has a path and a query that a redirect can keep. -/
theorem exists_keeps
    {target : RequestTarget}
    (proper : target.IsProper)
    (noAsterisk : target ≠ .asterisk) :
    ∃ path, target.Keeps path := by
  -- An asterisk would be kept as a path that does not begin with a slash.
  cases target with
  | asterisk => exact (noAsterisk rfl).elim
  | origin written => exact keeps_of_text proper rfl rfl rfl
  | absolute _ written => exact keeps_of_text proper rfl rfl rfl
  | authorityOnly _ =>
      refine ⟨['/'], ?_, ?_, ?_, nofun, rfl⟩
      · change "/".toList = ['/']
        decide
      · rintro c ⟨⟩
        rfl
      · intro c member
        cases List.mem_singleton.mp member
        rfl

end RequestTarget

/-! ## Answers -/

namespace PlainAnswer

open PlainRequest (IsVisible)

/-- Text that can stand in an authority, as names and addresses in brackets can:
it can be seen, and the authority does not end there. -/
def FitsAuthority (text : List Char) : Prop :=
  ∀ c ∈ text, IsVisible c ∧ RequestTarget.endsAuthority c = false

theorem toList_location
    (host : String)
    (httpsPort : UInt16)
    (target : RequestTarget) :
    (location host httpsPort target).toList =
      "https://".toList ++ (authority host httpsPort).toList ++
        (target.pathAndQuery?.getD "/").toList := by
  rw [location_eq, String.toList_append, String.toList_append]

/-- A host with a port can stand where the host can. -/
theorem FitsAuthority.authority
    {host : String}
    (fits : FitsAuthority host.toList)
    (httpsPort : UInt16) :
    FitsAuthority (authority host httpsPort).toList := by
  unfold PlainAnswer.authority
  split
  · exact fits
  · intro c member
    have digits : (toString httpsPort.toNat).toList = Nat.toDigits 10 httpsPort.toNat := by
      rw [Nat.toString_eq_repr, Nat.repr_eq_ofList_toDigits, String.toList_ofList]
    rw [String.toList_append, String.toList_append, digits] at member
    rcases List.mem_append.mp member with inFront | inPort
    · rcases List.mem_append.mp inFront with inHost | atColon
      · exact fits c inHost
      · cases List.mem_singleton.mp atColon
        decide
    · have digit := Nat.isDigit_of_mem_toDigits (by decide) (by decide) inPort
      refine ⟨PlainRequest.isVisible_of_isDigit digit, ?_⟩
      rw [RequestTarget.endsAuthority, Bool.or_eq_false_iff, Bool.or_eq_false_iff,
        beq_eq_false_iff_ne, beq_eq_false_iff_ne, beq_eq_false_iff_ne]
      refine ⟨⟨?_, ?_⟩, ?_⟩ <;> rintro rfl <;> cases digit

theorem isHeaderText_of_isGraphic
    {text : String}
    (graphic : ∀ c ∈ text.toList, RequestTarget.IsGraphic c) :
    isHeaderText text = true := by
  unfold isHeaderText
  rw [List.all_eq_true]
  intro c member
  obtain ⟨above, noDelete⟩ := graphic c member
  have low : ' ' ≤ c := Nat.le_of_lt above
  rw [decide_eq_true low, bne_iff_ne.mpr noDelete]
  exact Bool.or_true _

/-- A location that leads to a target at a place: split where a URI is split, it is
encrypted, at this place, and has the path and the query of the target, where an
empty path counts as `/`. -/
structure LeadsTo
    (location place : String)
    (target : RequestTarget) :
    Prop where
  scheme : (UriParts.ofText location).scheme = some "https".toList
  authority : (UriParts.ofText location).authority = some place.toList
  path :
    RequestTarget.shown (UriParts.ofText location).path = RequestTarget.shown target.path.toList
  query : (UriParts.ofText location).query = target.query?.map String.toList
  fragment : (UriParts.ofText location).fragment = none
  behind :
    ∃ rest, location.toList = "https://".toList ++ place.toList ++ rest ∧
      ∀ c, rest.head? = some c → c = '/' ∨ c = '?'

/-- The location of a target that a redirect can keep leads to it. -/
theorem leadsTo_location
    {host : String}
    {target : RequestTarget}
    {path : List Char}
    (fits : FitsAuthority host.toList)
    (keeps : target.Keeps path)
    (httpsPort : UInt16) :
    LeadsTo (location host httpsPort target) (authority host httpsPort) target := by
  have joined := toList_location host httpsPort target
  rw [keeps.text] at joined
  have noSign : ∀ text, target.query?.map String.toList = some text → '#' ∉ text := by
    intro text isText member
    obtain ⟨query, isQuery, rfl⟩ := Option.map_eq_some_iff.mp isText
    cases keeps.queryChars query isQuery '#' member
  have parts :=
    UriParts.ofText_join (fun c member => (fits.authority httpsPort c member).2)
      keeps.rooted (fun c member => RequestTarget.endsPath_of_isPathChar (keeps.pathChars c member))
      noSign
  rw [← joined, String.ofList_toList] at parts
  have behind :
      ∀ c, (path ++ UriParts.queryText (target.query?.map String.toList)).head? = some c →
        c = '/' ∨ c = '?' := by
    intro c first
    cases path with
    | cons head rest =>
        cases first
        exact Or.inl (keeps.rooted _ rfl)
    | nil =>
        cases isQuery : target.query? with
        | none =>
            rw [isQuery] at first
            cases first
        | some query =>
            rw [isQuery] at first
            cases first
            exact Or.inr rfl
  exact
    { scheme := by rw [parts]
      authority := by rw [parts]
      path := by rw [parts, keeps.path]
      query := by rw [parts]
      fragment := by rw [parts]
      behind := ⟨_, joined, behind⟩ }

/-- What a redirect writes of a target that can be read has no blank and no control
character. -/
theorem isGraphic_of_isProper
    {target : RequestTarget}
    (proper : target.IsProper) :
    ∀ c ∈ (target.pathAndQuery?.getD "/").toList, RequestTarget.IsGraphic c := by
  cases target with
  | asterisk =>
      intro c member
      cases List.mem_singleton.mp (show c ∈ ['*'] from member)
      exact RequestTarget.isGraphic_of_isPathChar rfl
  | _ =>
      obtain ⟨path, keeps⟩ := RequestTarget.exists_keeps proper nofun
      rw [keeps.text]
      intro c member
      rcases List.mem_append.mp member with inPath | inQuery
      · exact RequestTarget.isGraphic_of_isPathChar (keeps.pathChars c inPath)
      · unfold UriParts.queryText at inQuery
        split at inQuery
        · rename_i isQuery
          obtain ⟨query, isText, rfl⟩ := Option.map_eq_some_iff.mp isQuery
          rcases List.mem_cons.mp inQuery with rfl | inText
          · exact RequestTarget.isGraphic_of_isQueryChar rfl
          · exact RequestTarget.isGraphic_of_isQueryChar (keeps.queryChars query isText c inText)
        · cases inQuery

/-- A header can hold the location of a target that can be read. -/
theorem isHeaderText_location
    {host : String}
    {target : RequestTarget}
    (fits : FitsAuthority host.toList)
    (proper : target.IsProper)
    (httpsPort : UInt16) :
    isHeaderText (location host httpsPort target) = true := by
  have graphic_of_visible {c : Char} (visible : IsVisible c) : RequestTarget.IsGraphic c := by
    refine ⟨visible.1, fun isDelete => ?_⟩
    subst isDelete
    exact absurd visible.2 (by decide)
  have visibleScheme : ∀ c ∈ "https://".toList, IsVisible c :=
    List.all_iff_forall_prop.mp (by decide)
  refine isHeaderText_of_isGraphic fun c member => ?_
  rw [toList_location] at member
  rcases List.mem_append.mp member with inFront | inBack
  · rcases List.mem_append.mp inFront with inScheme | inAuthority
    · exact graphic_of_visible (visibleScheme c inScheme)
    · exact graphic_of_visible (fits.authority httpsPort c inAuthority).1
  · exact isGraphic_of_isProper proper c inBack

/-- The target `*` runs into the place in front of it. -/
theorem not_leadsTo_asterisk
    {host : String}
    (fits : FitsAuthority host.toList)
    (httpsPort : UInt16) :
    ¬ LeadsTo (location host httpsPort .asterisk) (authority host httpsPort) .asterisk := by
  intro leads
  have joined :
      (location host httpsPort .asterisk).toList =
        "https://".toList ++ ((authority host httpsPort).toList ++ ['*']) ++
          ([] ++ UriParts.queryText none) := by
    rw [toList_location, UriParts.queryText, List.append_nil, List.append_nil,
      List.append_assoc]
    rfl
  have plain :
      ∀ c ∈ (authority host httpsPort).toList ++ ['*'], RequestTarget.endsAuthority c = false := by
    intro c member
    rcases List.mem_append.mp member with inAuthority | atEnd
    · exact (fits.authority httpsPort c inAuthority).2
    · cases List.mem_singleton.mp atEnd
      rfl
  have parts := @UriParts.ofText_join _ [] none plain nofun nofun nofun
  rw [← joined, String.ofList_toList] at parts
  have place := leads.authority
  rw [parts, Option.some.injEq, List.append_right_eq_self] at place
  cases place

/-- A request outside of the challenge path, for a host that can stand in a URI, is
sent elsewhere, in whichever form its target was written.  It is sent to the
encrypted listener of its host, and keeps its path and query, unless its target is
`*`: that is no path, and is written behind the host like one. -/
theorem redirect_keeps_authority_and_target
    {request : PlainRequest}
    {text host : String}
    (isRead : RequestTarget.parse? text = some request.target)
    (isHost : request.host? = some host)
    (fits : FitsAuthority host.toList)
    (noToken : token? request.target.path = none)
    (httpsPort : UInt16)
    (challenges : TimedCatalog String)
    (now : Nat) :
    ∃ location,
      respond request httpsPort challenges now = (.redirect location, challenges) ∧
        (redirect location).status = 301 ∧
        (LeadsTo location (authority host httpsPort) request.target ↔
          request.target ≠ .asterisk) := by
  have proper := RequestTarget.isProper_of_parse? isRead
  rw [respond_elsewhere isHost noToken, if_pos (isHeaderText_location fits proper httpsPort)]
  refine ⟨_, rfl, rfl, fun leads isAsterisk => ?_, fun noAsterisk => ?_⟩
  · rw [isAsterisk] at leads
    exact not_leadsTo_asterisk fits httpsPort leads
  · obtain ⟨path, keeps⟩ := RequestTarget.exists_keeps proper noAsterisk
    exact leadsTo_location fits keeps httpsPort

/-- A request for an address, with a whole URI that has a query and no path. -/
def draftRequest : PlainRequest where
  target := .absolute "proxy.example.com" ⟨"", some "draft=1"⟩
  hostHeader := some (Text.bytes "[2001:DB8::1]:8080")

/-- The place ends where the query begins. -/
theorem draftRequest_is_redirected :
    RequestTarget.parse? "http://proxy.example.com?draft=1" = some draftRequest.target ∧
      draftRequest.host? = some "[2001:db8::1]" ∧
      token? draftRequest.target.path = none ∧
      ∃ location,
        respond draftRequest 8443 .empty 0 = (.redirect location, .empty) ∧
          LeadsTo location "[2001:db8::1]:8443" draftRequest.target := by
  have isRead :
      RequestTarget.parse? "http://proxy.example.com?draft=1" = some draftRequest.target := by
    decide
  have isHost : draftRequest.host? = some "[2001:db8::1]" := by decide
  have noToken : token? draftRequest.target.path = none := by decide
  have place : authority "[2001:db8::1]" 8443 = "[2001:db8::1]:8443" := by decide
  have fits : FitsAuthority "[2001:db8::1]".toList := List.all_iff_forall_prop.mp (by decide)
  obtain ⟨location, answered, -, leads⟩ :=
    redirect_keeps_authority_and_target isRead isHost fits noToken 8443 .empty 0
  rw [place] at leads
  exact ⟨isRead, isHost, noToken, location, answered, leads.mpr nofun⟩

/-- A request for all of a host. -/
def asteriskRequest : PlainRequest where
  target := .asterisk
  hostHeader := some (Text.bytes "blog.example.com")

/-- With the target `*` the place is no longer the host. -/
theorem asterisk_runs_into_host :
    RequestTarget.parse? "*" = some asteriskRequest.target ∧
      asteriskRequest.host? = some "blog.example.com" ∧
      token? asteriskRequest.target.path = none ∧
      (respond asteriskRequest 443 .empty 0).1 = .redirect "https://blog.example.com*" ∧
      (UriParts.ofText "https://blog.example.com*").authority =
        some "blog.example.com*".toList := by
  decide

end PlainAnswer

end OnDemandTls
