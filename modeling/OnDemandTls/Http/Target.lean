import OnDemandTls.Text.Blank

namespace OnDemandTls

/-!
# Request targets

What a request line asks for, in one of four forms: `*`, a path, a whole URI,
or an authority alone.  `RequestTarget.parse?` accepts exactly the targets whose
characters stand where they are allowed; a fragment is dropped.
-/

/-- A path and a query; a path that is not written is empty. -/
structure PathAndQuery where
  path : String
  query : Option String
  deriving DecidableEq, Repr

namespace PathAndQuery

/-- The path, where an empty one counts as `/`. -/
def shownPath (target : PathAndQuery) : String :=
  if target.path = "" then "/" else target.path

/-- The path and the query as they are written, where nothing at all counts as `/`. -/
def text (target : PathAndQuery) : String :=
  match target.query with
  | some query => target.path ++ "?" ++ query
  | none => target.shownPath

end PathAndQuery

/-- What a request line asks for. -/
inductive RequestTarget where
  | asterisk
  | origin (target : PathAndQuery)
  | absolute (authority : String) (target : PathAndQuery)
  | authorityOnly (authority : String)
  deriving DecidableEq, Repr

namespace RequestTarget

/-- The host of an authority: what follows the user, without the port. -/
def hostOf (authority : String) : String :=
  let afterUser := (authority.toList.reverse.takeWhile (· != '@')).reverse
  if afterUser.head? = some '[' then
    String.ofList (afterUser.takeWhile (· != ']') ++ [']'])
  else
    String.ofList (afterUser.takeWhile (· != ':'))

/-- The host that a target names. -/
def host? : RequestTarget → Option String
  | asterisk => none
  | origin _ => none
  | absolute authority _ => some (hostOf authority)
  | authorityOnly authority => some (hostOf authority)

/-- The path of a target. -/
def path : RequestTarget → String
  | asterisk => "*"
  | origin target => target.shownPath
  | absolute _ target => target.shownPath
  | authorityOnly _ => ""

/-- The path and query of a target; an authority alone has none. -/
def pathAndQuery? : RequestTarget → Option String
  | asterisk => some "*"
  | origin target => some target.text
  | absolute _ target => some target.text
  | authorityOnly _ => none

/-! ## Reading targets -/

/-- Characters of a path; all characters beyond ASCII are among them. -/
def isPathChar (c : Char) : Bool :=
  let n := c.toNat
  n == 0x21 || n == 0x22 || (0x24 ≤ n && n ≤ 0x3B) || n == 0x3D || (0x40 ≤ n && n ≤ 0x5F) ||
    (0x61 ≤ n && n ≤ 0x7E) || 0x80 ≤ n

/-- Characters of a query; all characters beyond ASCII are among them. -/
def isQueryChar (c : Char) : Bool :=
  let n := c.toNat
  n == 0x21 || (0x24 ≤ n && n ≤ 0x3B) || n == 0x3D || (0x3F ≤ n && n ≤ 0x7E) || 0x80 ≤ n

/-- Characters of the name of a scheme. -/
def isSchemeChar (c : Char) : Bool :=
  c.isAlphanum || "+-.".toList.contains c

/-- Characters that end an authority. -/
def endsAuthority (c : Char) : Bool :=
  c == '/' || c == '?' || c == '#'

/-- Characters of an authority that have no meaning of their own there. -/
def isAuthorityChar (c : Char) : Bool :=
  c.isAlphanum || "!$&'()*+,-.;=_~".toList.contains c

/-- What has been seen of an authority so far. -/
structure AuthorityScan where
  /-- Colons since the last user or bracket. -/
  colons : Nat
  opened : Bool
  closed : Bool
  /-- Whether a percent sign stands where only a user may have one. -/
  percent : Bool
  afterUser : Bool

/-- Go on by one character of an authority. -/
def AuthorityScan.step
    (scan : AuthorityScan)
    (c : Char) :
    Option AuthorityScan :=
  let scan := { scan with afterUser := false }
  if c = ':' then
    if 8 ≤ scan.colons then none else some { scan with colons := scan.colons + 1 }
  else if c = '[' then
    if scan.percent || scan.opened then none else some { scan with opened := true }
  else if c = ']' then
    if !scan.opened || scan.closed then
      none
    else
      some { scan with closed := true, colons := 0, percent := false }
  else if c = '@' then
    some { scan with afterUser := true, colons := 0, percent := false }
  else if c = '%' then
    some { scan with percent := true }
  else if isAuthorityChar c then
    some scan
  else
    none

/-- Whether an authority may end here. -/
def AuthorityScan.isComplete (scan : AuthorityScan) : Bool :=
  scan.opened == scan.closed && scan.colons ≤ 1 && !scan.afterUser && !scan.percent

/-- Whether the characters of an authority stand where they may. -/
def isAuthority (cs : List Char) : Bool :=
  match cs.foldlM AuthorityScan.step ⟨0, false, false, false, false⟩ with
  | some scan => scan.isComplete
  | none => false

/-- Read a path and a query; a fragment is dropped. -/
def pathAndQuery
    (cs : List Char) :
    Option PathAndQuery :=
  let path := cs.takeWhile (fun c => c != '?' && c != '#')
  let rest := cs.dropWhile (fun c => c != '?' && c != '#')
  if path.all isPathChar then
    match rest with
    | '?' :: rest =>
        let query := rest.takeWhile (· != '#')
        if query.all isQueryChar then
          some ⟨String.ofList path, some (String.ofList query)⟩
        else
          none
    | _ => some ⟨String.ofList path, none⟩
  else
    none

/-- Longest name of a scheme. -/
def longestScheme : Nat := 64

/-- Most bytes that a target may have. -/
def longestTarget : Nat := 65534

/-- What follows the scheme of a whole URI, if a text begins with one. -/
def afterScheme?
    (cs : List Char) :
    Option (List Char) :=
  Text.stripStart? "://".toList (cs.dropWhile isSchemeChar)

/-- Read a target that does not begin with a slash. -/
def parseFull
    (cs : List Char) :
    Option RequestTarget :=
  match afterScheme? cs with
  | some rest =>
      let authority := rest.takeWhile (!endsAuthority ·)
      if longestScheme < (cs.takeWhile isSchemeChar).length ∨ authority = [] then
        none
      else if isAuthority authority then
        (pathAndQuery (rest.dropWhile (!endsAuthority ·))).map
          (.absolute (String.ofList authority))
      else
        none
  | none =>
      if cs.all (!endsAuthority ·) && isAuthority cs then
        some (.authorityOnly (String.ofList cs))
      else
        none

/-- Read a request target. -/
def parse? (text : String) : Option RequestTarget :=
  if text = "" ∨ longestTarget < text.utf8ByteSize then
    none
  else if text = "*" then
    some .asterisk
  else if text.toList.head? = some '/' then
    (pathAndQuery text.toList).map .origin
  else
    parseFull text.toList

end RequestTarget

end OnDemandTls
