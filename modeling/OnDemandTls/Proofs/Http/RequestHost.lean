import Mathlib.Data.Bool.AllAny
import Mathlib.Data.List.TakeWhile
import OnDemandTls.Proofs.ByteOrder
import OnDemandTls.Proofs.NormalForms
import OnDemandTls.Proofs.Staging.Answers

namespace OnDemandTls

/-!
# Hosts of requests

A client writes the host that it wants with a port or without one, in letters of
any case, and an address of many colons in brackets.  Whichever way the host is
written, the same one is read, in lower case and without the port
(`PlainRequest.host_is_read_without_port`).
-/

namespace PlainRequest

/-- Characters that can be seen: those of ASCII that are neither blank nor for
control. -/
def IsVisible (c : Char) : Prop :=
  0x21 ≤ c.toNat ∧ c.toNat ≤ 0x7E

instance (c : Char) : Decidable (IsVisible c) :=
  inferInstanceAs (Decidable (0x21 ≤ c.toNat ∧ c.toNat ≤ 0x7E))

/-- Characters of an address in brackets. -/
def IsAddressChar (c : Char) : Prop :=
  c.isDigit = true ∨ (0x41 ≤ c.toNat ∧ c.toNat ≤ 0x46) ∨ (0x61 ≤ c.toNat ∧ c.toNat ≤ 0x66) ∨
    c = '.' ∨ c = ':'

instance (c : Char) : Decidable (IsAddressChar c) :=
  inferInstanceAs (Decidable (_ ∨ _))

/-- A host as it is written without a port. -/
inductive IsBareHost : List Char → Prop where
  | name
      {name : List Char} :
      name ≠ [] →
      (∀ c ∈ name, IsVisible c ∧ c ≠ ':') →
      IsBareHost name
  | literal
      {address : List Char} :
      (∀ c ∈ address, IsAddressChar c) →
      IsBareHost ('[' :: address ++ [']'])

/-- What may follow a host: nothing, or a colon and the digits of a port, which may
be missing. -/
inductive IsPortSuffix : List Char → Prop where
  | nothing : IsPortSuffix []
  | port
      {digits : List Char} :
      (∀ c ∈ digits, c.isDigit = true) →
      IsPortSuffix (':' :: digits)

/-- A request names a host in its header, with or without a port, or it has no
header that can be read, and its target names the host. -/
inductive Names
    (request : PlainRequest)
    (host : List Char) :
    Prop where
  | header
      {suffix : List Char} :
      IsPortSuffix suffix →
      request.hostHeader = some (Text.bytes (String.ofList (host ++ suffix))) →
      Names request host
  | target :
      request.hostHeader.bind headerText? = none →
      request.target.host? = some (String.ofList host) →
      Names request host

/-! ## Visible characters -/

theorem IsVisible.isBlank_eq_false
    {c : Char}
    (visible : IsVisible c) :
    Text.isBlank c = false := by
  obtain ⟨low, high⟩ := visible
  simp only [Text.isBlank, Bool.or_eq_false_iff, Bool.and_eq_false_iff, decide_eq_false_iff_not,
    beq_eq_false_iff_ne]
  omega

theorem isVisible_of_isDigit
    {c : Char}
    (digit : c.isDigit = true) :
    IsVisible c := by
  simp only [Char.isDigit, Bool.and_eq_true, decide_eq_true_eq] at digit
  have low : 48 ≤ c.toNat := UInt32.le_iff_toNat_le.mp digit.1
  have high : c.toNat ≤ 57 := UInt32.le_iff_toNat_le.mp digit.2
  constructor <;> omega

theorem IsAddressChar.isVisible
    {c : Char}
    (isAddressChar : IsAddressChar c) :
    IsVisible c := by
  rcases isAddressChar with digit | capital | small | rfl | rfl
  · exact isVisible_of_isDigit digit
  · constructor <;> omega
  · constructor <;> omega
  · decide
  · decide

theorem IsBareHost.isVisible
    {host : List Char}
    (bare : IsBareHost host) :
    ∀ c ∈ host, IsVisible c := by
  cases bare with
  | name _ visible => exact fun c member => (visible c member).1
  | @literal address isAddress =>
      intro c member
      rcases List.mem_append.mp member with inFront | atEnd
      · rcases List.mem_cons.mp inFront with rfl | inAddress
        · decide
        · exact (isAddress c inAddress).isVisible
      · cases List.mem_singleton.mp atEnd
        decide

theorem IsBareHost.ne_nil
    {host : List Char}
    (bare : IsBareHost host) :
    host ≠ [] := by
  cases bare with
  | name notEmpty _ => exact notEmpty
  | literal _ => exact List.cons_ne_nil _ _

theorem IsPortSuffix.isVisible
    {suffix : List Char}
    (isSuffix : IsPortSuffix suffix) :
    ∀ c ∈ suffix, IsVisible c := by
  cases isSuffix with
  | nothing => exact fun c member => (List.not_mem_nil member).elim
  | port digits =>
      intro c member
      rcases List.mem_cons.mp member with rfl | inDigits
      · decide
      · exact isVisible_of_isDigit (digits c inDigits)

/-- A header of visible characters is read as it was written. -/
theorem headerText?_bytes
    {text : List Char}
    (visible : ∀ c ∈ text, IsVisible c) :
    headerText? (Text.bytes (String.ofList text)) = some text := by
  have toNat_byte : ∀ c ∈ text, (UInt8.ofNat c.toNat).toNat = c.toNat := by
    intro c member
    exact UInt8.toNat_ofNat_of_lt' (Nat.lt_of_le_of_lt (visible c member).2 (by decide))
  have readable :
      ∀ byte ∈ text.map fun c => UInt8.ofNat c.toNat,
        (byte == 9 || (32 ≤ byte && byte < 127)) = true := by
    intro byte member
    obtain ⟨c, inText, rfl⟩ := List.mem_map.mp member
    obtain ⟨low, high⟩ := visible c inText
    simp only [Bool.or_eq_true, Bool.and_eq_true, decide_eq_true_eq, UInt8.le_iff_toNat_le,
      UInt8.lt_iff_toNat_lt, toNat_byte c inText]
    exact Or.inr ⟨Nat.le_of_lt low, Nat.lt_of_le_of_lt high (by decide)⟩
  have same : (text.map fun c => UInt8.ofNat c.toNat).map (fun b => Char.ofNat b.toNat) = text := by
    rw [List.map_map]
    refine (List.map_congr_left fun c member => ?_).trans (List.map_id text)
    rw [Function.comp_apply, toNat_byte c member, Char.ofNat_toNat, id]
  unfold headerText?
  rw [Text.bytes_of_ascii fun c member => Nat.lt_of_le_of_lt (visible c member).2 (by decide),
    if_pos (List.all_eq_true.mpr readable), same]

/-! ## Ports -/

/-- A colon with digits behind it is dropped from a host that does not end with a
colon itself. -/
theorem dropPort_port
    {name digits : List Char}
    (last : ∀ c, name.getLast? = some c → c ≠ ':')
    (areDigits : ∀ c ∈ digits, c.isDigit = true) :
    dropPort (name ++ ':' :: digits) = name := by
  have reversed : (name ++ ':' :: digits).reverse = digits.reverse ++ ':' :: name.reverse := by
    simp
  have noColon : ∀ c ∈ digits.reverse, (c != ':') = true := by
    intro c member
    have digit := areDigits c (List.mem_reverse.mp member)
    exact bne_iff_ne.mpr fun isColon => by
      subst isColon
      cases digit
  have port : (name ++ ':' :: digits).reverse.takeWhile (· != ':') = digits.reverse := by
    rw [reversed, List.takeWhile_append_of_pos noColon]
    simp
  have rest : (name ++ ':' :: digits).reverse.dropWhile (· != ':') = ':' :: name.reverse := by
    rw [reversed, List.dropWhile_append_of_pos noColon]
    simp
  have kept : name.reverse.head? ≠ some ':' := by
    rw [List.head?_reverse]
    exact fun isColon => last ':' isColon rfl
  unfold dropPort
  rw [port, rest, List.reverse_reverse]
  simp only [List.reverse_reverse]
  rw [if_pos]
  rw [Bool.and_eq_true, bne_iff_ne, List.all_eq_true]
  exact ⟨kept, areDigits⟩

theorem dropPort_of_no_colon
    {host : List Char}
    (noColon : ':' ∉ host) :
    dropPort host = host := by
  have nothingLeft : host.reverse.dropWhile (· != ':') = [] := by
    refine List.dropWhile_eq_nil_iff.mpr fun c member => ?_
    exact bne_iff_ne.mpr fun isColon => noColon (isColon ▸ List.mem_reverse.mp member)
  unfold dropPort
  rw [nothingLeft]

/-- The colons of an address in brackets do not make a port of its end. -/
theorem dropPort_of_bracket (front : List Char) : dropPort (front ++ [']']) = front ++ [']'] := by
  have reversed : (front ++ [']']).reverse = ']' :: front.reverse := by simp
  have noPort :
      (((front ++ [']']).reverse.takeWhile (· != ':')).reverse.all Char.isDigit) = false := by
    rw [reversed, List.takeWhile_cons_of_pos (by decide), List.all_reverse, List.all_cons]
    rfl
  unfold dropPort
  split
  · rfl
  · simp only [noPort, Bool.and_false, Bool.false_eq_true, ↓reduceIte]

/-- A host with a port or without one is left without it. -/
theorem IsBareHost.dropPort_append
    {host suffix : List Char}
    (bare : IsBareHost host)
    (isSuffix : IsPortSuffix suffix) :
    dropPort (host ++ suffix) = host := by
  cases isSuffix with
  | nothing =>
      rw [List.append_nil]
      cases bare with
      | name _ visible => exact dropPort_of_no_colon fun member => (visible ':' member).2 rfl
      | literal _ => exact dropPort_of_bracket _
  | port digits =>
      refine dropPort_port (fun c last => ?_) digits
      cases bare with
      | name _ visible => exact (visible c (List.mem_of_getLast? last)).2
      | literal _ =>
          rw [List.getLast?_concat] at last
          cases last
          decide

/-! ## Reading the host -/

/-- Visible characters are not trimmed. -/
theorem trim_of_isVisible
    {text : List Char}
    (visible : ∀ c ∈ text, IsVisible c) :
    Text.trim text = text :=
  Text.trim_eq_self
    ⟨fun c first => (visible c (List.mem_of_head? first)).isBlank_eq_false,
      fun c last => (visible c (List.mem_of_getLast? last)).isBlank_eq_false⟩

/-- What is written in a header that can be read counts, and otherwise what the
target names. -/
theorem host?_of_written
    {request : PlainRequest}
    {written : List Char}
    (isWritten :
      request.hostHeader.bind headerText? = some written ∨
        request.hostHeader.bind headerText? = none ∧
          request.target.host? = some (String.ofList written))
    (notEmpty : Text.lower (Text.trim (dropPort written)) ≠ []) :
    request.host? = some (String.ofList (Text.lower (Text.trim (dropPort written)))) := by
  unfold host?
  rcases isWritten with isRead | ⟨unreadable, isTarget⟩
  · simp only [isRead]
    exact if_neg notEmpty
  · simp only [unreadable, isTarget, Option.map_some, String.toList_ofList]
    exact if_neg notEmpty

/-- The host that a request names is read in lower case and without its port. -/
theorem Names.host?_eq
    {request : PlainRequest}
    {host : List Char}
    (names : request.Names host)
    (bare : IsBareHost host) :
    request.host? = some (String.ofList (Text.lower host)) := by
  have lowered : Text.lower (Text.trim host) = Text.lower host := by
    rw [trim_of_isVisible bare.isVisible]
  have notEmpty : Text.lower host ≠ [] := fun empty => bare.ne_nil (List.map_eq_nil_iff.mp empty)
  cases names with
  | @header suffix isSuffix isHeader =>
      have visible : ∀ c ∈ host ++ suffix, IsVisible c := fun c member =>
        (List.mem_append.mp member).elim (bare.isVisible c) (isSuffix.isVisible c)
      have isRead : request.hostHeader.bind headerText? = some (host ++ suffix) := by
        rw [isHeader, Option.bind_some, headerText?_bytes visible]
      have bareLeft := bare.dropPort_append isSuffix
      have read := host?_of_written (Or.inl isRead) (by rwa [bareLeft, lowered])
      rwa [bareLeft, lowered] at read
  | target unreadable isTarget =>
      have bareLeft := bare.dropPort_append .nothing
      rw [List.append_nil] at bareLeft
      have read := host?_of_written (Or.inr ⟨unreadable, isTarget⟩) (by rwa [bareLeft, lowered])
      rwa [bareLeft, lowered] at read

end PlainRequest

/-! ## Answers -/

namespace PlainAnswer

/-- The place that a request is sent to: the host, and the port of the encrypted
listener unless it is the usual one. -/
def authority
    (host : String)
    (httpsPort : UInt16) :
    String :=
  if httpsPort = 443 then host else host ++ ":" ++ toString httpsPort.toNat

theorem location_eq
    (host : String)
    (httpsPort : UInt16)
    (target : RequestTarget) :
    location host httpsPort target =
      "https://" ++ authority host httpsPort ++ target.pathAndQuery?.getD "/" :=
  rfl

variable {request other : PlainRequest} {host : String}

/-- Outside of the challenge path a request is redirected, if the place can be
written in a header. -/
theorem respond_elsewhere
    (isHost : request.host? = some host)
    (noToken : token? request.target.path = none)
    (httpsPort : UInt16)
    (challenges : TimedCatalog String)
    (now : Nat) :
    respond request httpsPort challenges now =
      (if isHeaderText (location host httpsPort request.target) then
        .redirect (location host httpsPort request.target)
      else
        .text 400 "Invalid redirect target", challenges) := by
  unfold respond
  simp only [isHost, noToken]
  split <;> rfl

/-- A request counts by its host, its path and its query. -/
theorem respond_congr
    (sameHost : other.host? = request.host?)
    (samePath : other.target.path = request.target.path)
    (sameTarget : other.target.pathAndQuery? = request.target.pathAndQuery?)
    (httpsPort : UInt16)
    (challenges : TimedCatalog String)
    (now : Nat) :
    respond other httpsPort challenges now = respond request httpsPort challenges now := by
  cases isHost : request.host? with
  | none =>
      unfold respond
      simp only [sameHost, isHost]
  | some host =>
      cases isToken : token? request.target.path with
      | some token =>
          unfold respond
          simp only [sameHost, isHost, samePath, isToken]
      | none =>
          have noToken : token? other.target.path = none := by rw [samePath, isToken]
          rw [respond_elsewhere (sameHost.trans isHost) noToken, respond_elsewhere isHost isToken,
            location_eq, location_eq, sameTarget]

end PlainAnswer

namespace PlainRequest

/-- Whichever way a client writes the host that it wants, with a port or without
one, in letters of any case, in the header or only in the target, the host is read
in lower case and without the port.  So no redirect has the port of the client, the
answers to challenges are found by the host in lower case, and requests for the
same path and query of the same host are answered alike. -/
theorem host_is_read_without_port
    {request : PlainRequest}
    {host : List Char}
    (bare : IsBareHost host)
    (names : request.Names host) :
    request.host? = some (String.ofList (Text.lower host)) ∧
      (∀ httpsPort challenges now location,
        (PlainAnswer.respond request httpsPort challenges now).1 = .redirect location →
        location =
          "https://" ++ PlainAnswer.authority (String.ofList (Text.lower host)) httpsPort ++
            request.target.pathAndQuery?.getD "/") ∧
      (∀ httpsPort challenges now token,
        PlainAnswer.token? request.target.path = some token →
        (PlainAnswer.respond request httpsPort challenges now).1 =
          match
            challenges.find?
              (HostName.httpChallengeKey (String.ofList (Text.lower host)) token) now with
          | some answer => .text 200 answer
          | none => .text 404 "No challenge for this token") ∧
      ∀ (other : PlainRequest) (hostToo : List Char),
        IsBareHost hostToo →
        other.Names hostToo →
        Text.lower hostToo = Text.lower host →
        other.target.path = request.target.path →
        other.target.pathAndQuery? = request.target.pathAndQuery? →
        ∀ httpsPort challenges now,
          PlainAnswer.respond other httpsPort challenges now =
            PlainAnswer.respond request httpsPort challenges now := by
  have isHost := names.host?_eq bare
  refine ⟨isHost, ?_, ?_, ?_⟩
  · intro httpsPort challenges now location answered
    cases isToken : PlainAnswer.token? request.target.path with
    | some token =>
        rw [PlainAnswer.respond_challenge isHost isToken] at answered
        split at answered <;> cases answered
    | none =>
        rw [PlainAnswer.respond_elsewhere isHost isToken] at answered
        simp only at answered
        split at answered <;> cases answered
        rfl
  · intro httpsPort challenges now token isToken
    exact PlainAnswer.respond_challenge isHost isToken httpsPort challenges now
  · intro other hostToo bareToo namesToo sameHost samePath sameTarget
    refine PlainAnswer.respond_congr ?_ samePath sameTarget
    rw [isHost, namesToo.host?_eq bareToo, sameHost]

/-- An authority that asks at an address of many colons, with a port. -/
def addressRequest : PlainRequest where
  target := .origin ⟨"/.well-known/acme-challenge/token", none⟩
  hostHeader := some (Text.bytes "[2001:DB8::1]:8080")

/-- The address is read as it is filed, and the answer is found. -/
theorem address_with_port_is_answered :
    IsBareHost "[2001:DB8::1]".toList ∧
      addressRequest.Names "[2001:DB8::1]".toList ∧
      addressRequest.host? = some "[2001:db8::1]" ∧
      (PlainAnswer.respond addressRequest 443
        (TimedCatalog.empty.file "[2001:db8::1]/token" "token.thumb" 3600000) 0).1 =
        .text 200 "token.thumb" := by
  have isAddress : ∀ c ∈ "2001:DB8::1".toList, IsAddressChar c :=
    List.all_iff_forall_prop.mp (by decide)
  have digits : ∀ c ∈ "8080".toList, c.isDigit = true := List.all_eq_true.mp (by decide)
  have bare : IsBareHost "[2001:DB8::1]".toList := .literal isAddress
  have names : addressRequest.Names "[2001:DB8::1]".toList := .header (.port digits) rfl
  have lowered : String.ofList (Text.lower "[2001:DB8::1]".toList) = "[2001:db8::1]" := by decide
  obtain ⟨isHost, -, answers, -⟩ := host_is_read_without_port bare names
  rw [lowered] at isHost answers
  refine ⟨bare, names, isHost, ?_⟩
  rw [answers 443 _ 0 "token" (by decide), TimedCatalog.find?_file]
  rfl

end PlainRequest

end OnDemandTls
