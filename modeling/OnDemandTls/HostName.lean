import OnDemandTls.Text.Blank

namespace OnDemandTls

/-!
# Host names

The spellings under which host names are filed, compared and published.  A
wildcard name `*.example.org` and the dotted name `.example.org` share one
store key.
-/

namespace HostName

open Text

/-- A name without any number of leading `*.` labels. -/
def dropWildcards : List Char → List Char
  | '*' :: '.' :: rest => dropWildcards rest
  | cs => cs

/-- A name without its leading dots. -/
def dropLeadingDots (cs : List Char) : List Char :=
  cs.dropWhile (· == '.')

/-- A name without its trailing dots. -/
def dropTrailingDots (cs : List Char) : List Char :=
  dropEndWhile (· == '.') cs

/-- A name trimmed and in lower case. -/
def fold (name : String) : String :=
  String.ofList (lower (trim name.toList))

/-- The characters of a store key: one leading `*.` becomes a dot. -/
def joinWildcard : List Char → List Char
  | '*' :: '.' :: rest => '.' :: rest
  | cs => cs

/-- The key under which a name is filed: folded, with `*.` written as a dot. -/
def storeKey (name : String) : String :=
  String.ofList (joinWildcard (lower (trim name.toList)))

/-- The name that a client asks for, or that a tenant claims: trimmed, without
trailing dots, in lower case. -/
def asked (name : String) : String :=
  String.ofList (lower (dropTrailingDots (trim name.toList)))

/-- The main domain in normal form: folded, without leading wildcards and then
without leading dots. -/
def mainDomain (name : String) : String :=
  String.ofList (dropLeadingDots (dropWildcards (lower (trim name.toList))))

/-- The name of the `TXT` record that answers a DNS challenge. -/
def challengeRecord (name : String) : String :=
  "_acme-challenge." ++ String.ofList (dropTrailingDots (dropWildcards name.toList)) ++ "."

/-- The challenge-cache key of an HTTP challenge. -/
def httpChallengeKey
    (name token : String) :
    String :=
  name ++ "/" ++ token

/-- A name without leading wildcards, as an authority validates it. -/
def withoutWildcards (name : String) : String :=
  String.ofList (dropWildcards name.toList)

end HostName

end OnDemandTls
