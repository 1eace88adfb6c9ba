import OnDemandTls.Account
import OnDemandTls.Proofs.CanonicalBase64
import OnDemandTls.Proofs.NormalForms

namespace OnDemandTls

/-!
# Keys of account bindings

The key that binds an account to another one is handed out as a text: the base64
encoding of the key for addresses, often with padding and with blanks around it.
Such texts are read as the key that they write and no other text is read at all, so a
misspelt key ends the registration before an authority hears of it
(`AcmeAccount.binding_key_is_read_iff`).
-/

namespace AcmeAccount

/-- A text writes a key: the encoding of the key for addresses, any padding behind it
and any blanks around both. -/
inductive Writes (key : Bytes) : List Char → Prop
  | intro
    {before encoding after : List Char}
    (count : Nat)
    (blankBefore : ∀ c ∈ before, Text.isBlank c = true)
    (blankAfter : ∀ c ∈ after, Text.isBlank c = true)
    (encodes : Base64.Encodes .url key encoding) :
    Writes key (before ++ (encoding ++ List.replicate count '=') ++ after)

/-- What is left of a text without the blanks around it and then without the padding
at its end. -/
def bare (cs : List Char) : List Char :=
  Text.dropEndWhile (· == '=') (Text.trim cs)

variable {key : Bytes} {cs : List Char} {text keyId : String} {settings : AcmeSettings}

theorem plain_digit
    {value : Nat}
    (small : value < 64) :
    Text.isBlank (Base64.digit .url value) = false ∧ (Base64.digit .url value == '=') = false := by
  have all : ∀ value : Fin 64,
      Text.isBlank (Base64.digit .url value) = false ∧
        (Base64.digit .url value == '=') = false := by
    decide +kernel
  exact all ⟨value, small⟩

/-- Digits are neither blanks nor padding. -/
theorem plain_of_mem_digits
    {c : Char}
    (member : c ∈ Base64.digits .url key) :
    Text.isBlank c = false ∧ (c == '=') = false := by
  obtain ⟨value, isValue, rfl⟩ := List.mem_map.mp member
  exact plain_digit (Base64.toValues_lt isValue)

/-- There is no blank in digits with padding. -/
theorem trimmed_digits_padding
    (key : Bytes)
    (count : Nat) :
    Text.Trimmed (Base64.digits .url key ++ List.replicate count '=') := by
  have noBlank :
      ∀ c ∈ Base64.digits .url key ++ List.replicate count '=', Text.isBlank c = false := by
    intro c member
    rcases List.mem_append.mp member with isDigit | isPadding
    · exact (plain_of_mem_digits isDigit).1
    · cases List.eq_of_mem_replicate isPadding
      decide
  exact ⟨fun c first => noBlank c (List.mem_of_head? first),
    fun c last => noBlank c (List.mem_of_getLast? last)⟩

theorem Writes.bare_eq (writes : Writes key cs) : bare cs = Base64.digits .url key := by
  cases writes with
  | intro count blankBefore blankAfter encodes =>
      cases Base64.encodes_iff.mp encodes
      have isPadding : ∀ c ∈ List.replicate count '=', (c == '=') = true := fun c member =>
        beq_iff_eq.mpr (List.eq_of_mem_replicate member)
      rw [bare, Text.trim_append blankBefore blankAfter (trimmed_digits_padding key count),
        Text.dropEndWhile_append_of_all isPadding]
      exact Text.dropEndWhile_eq_self fun c last =>
        (plain_of_mem_digits (List.mem_of_getLast? last)).2

/-- A text writes a key exactly if its bare rest is the digits of the key. -/
theorem writes_iff : Writes key cs ↔ bare cs = Base64.digits .url key := by
  refine ⟨Writes.bare_eq, fun isBare => ?_⟩
  obtain ⟨before, after, blankBefore, blankAfter, whole⟩ := Text.exists_trim cs
  obtain ⟨padding, isPadding, core⟩ := Text.exists_dropEndWhile (· == '=') (Text.trim cs)
  have filled : padding = List.replicate padding.length '=' :=
    List.eq_replicate_of_mem fun c member => eq_of_beq (isPadding c member)
  rw [← whole, ← core, show Text.dropEndWhile (· == '=') (Text.trim cs) = _ from isBare, filled]
  exact .intro _ blankBefore blankAfter (Base64.encodes_digits .url key)

theorem bindingKey?_eq_some_iff : bindingKey? text = some key ↔ Writes key text.toList := by
  rw [writes_iff]
  exact Base64.decode?_eq_some_iff

theorem bindingKey?_eq_none_iff : bindingKey? text = none ↔ ∀ key, ¬ Writes key text.toList := by
  simp only [← bindingKey?_eq_some_iff, Option.eq_none_iff_forall_ne_some, ne_eq]

/-- A registration with a binding has the key of the text, if there is one. -/
theorem registration_of_key
    (isBinding : settings.eab = some (keyId, text))
    (isKey : bindingKey? text = some key) :
    ∃ request,
      registration settings = .ok request ∧ request.binding = some ⟨keyId, key⟩ := by
  unfold registration
  simp only [isBinding, isKey]
  exact ⟨_, rfl, rfl⟩

theorem registration_of_no_key
    (isBinding : settings.eab = some (keyId, text))
    (noKey : bindingKey? text = none) :
    registration settings = .error .invalidBinding := by
  unfold registration
  simp only [isBinding, noKey]

theorem register_of_error
    {error : AccountError}
    (refused : registration settings = .error error)
    (service : AccountService)
    (now : Int)
    (tree : FileTree) :
    register service settings now tree = (.failed error, tree) := by
  unfold register
  rw [refused]

/-- The texts that are read as keys of account bindings.  A text is read as a key
exactly if it writes that key, which is to say that without the blanks around it and
then without the padding at its end the encoding of the key is left; every key has one
encoding, and that is the digits that are written for it.  The binding of a registration
has the key that was read.  If the text writes no key, the registration fails for this
reason, whatever the authority would say to it, and no file changes. -/
theorem binding_key_is_read_iff (text : String) :
    (∀ key, bindingKey? text = some key ↔ Writes key text.toList) ∧
      (∀ key, Writes key text.toList ↔ Base64.Encodes .url key (bare text.toList)) ∧
      (∀ key encoding,
        Base64.Encodes .url key encoding ↔ encoding = Base64.digits .url key) ∧
      ∀ settings keyId,
        settings.eab = some (keyId, text) →
        (∀ key,
          Writes key text.toList →
          ∃ request,
            registration settings = .ok request ∧ request.binding = some ⟨keyId, key⟩) ∧
          ((∀ key, ¬ Writes key text.toList) →
            registration settings = .error .invalidBinding ∧
              ∀ service now tree,
                register service settings now tree = (.failed .invalidBinding, tree)) := by
  refine ⟨fun key => bindingKey?_eq_some_iff, ?bare, fun key encoding => Base64.encodes_iff,
    ?registers⟩
  case bare =>
    intro key
    rw [writes_iff, Base64.encodes_iff]
  case registers =>
    intro settings keyId isBinding
    refine ⟨fun key writes => ?_, fun noKey => ?_⟩
    · exact registration_of_key isBinding (bindingKey?_eq_some_iff.mpr writes)
    · have refused := registration_of_no_key isBinding (bindingKey?_eq_none_iff.mpr noKey)
      exact ⟨refused, register_of_error refused⟩

/-- Bits that are left over, a digit that is left over, the letters of the other
alphabet, and a blank between two paddings: none of these texts is a key. -/
example :
    ["aG1hYy1rZXl", "aG1hYy1rZ", "aG1hYy1r+/", "aG1hYy1rZXk= ="].map bindingKey? =
      [none, none, none, none] := by
  decide +kernel

/-- A key of eight bytes, whose encoding leaves two bits over. -/
def eightBytes : Bytes := [0x68, 0x6D, 0x61, 0x63, 0x2D, 0x6B, 0x65, 0x79]

/-- Settings with the text of a binding key. -/
def boundSettings (text : String) : AcmeSettings where
  eabKid := some "kid-1"
  eabHmac := some text

/-- The key is read from between blanks and in front of padding, and it is not read
from a text with another last digit, with which nothing is registered. -/
theorem dressed_key_is_read :
    Writes eightBytes "\u2003aG1hYy1rZXk==\n".toList ∧
      bindingKey? "\u2003aG1hYy1rZXk==\n" = some eightBytes ∧
      (∃ request,
        registration (boundSettings "\u2003aG1hYy1rZXk==\n") = .ok request ∧
          request.binding = some ⟨"kid-1", eightBytes⟩) ∧
      (∀ key, ¬ Writes key "aG1hYy1rZXl".toList) ∧
      register .unreachable (boundSettings "aG1hYy1rZXl") 0 .empty =
        (.failed .invalidBinding, .empty) := by
  have encodes : Base64.Encodes .url eightBytes "aG1hYy1rZXk".toList :=
    Base64.encodes_iff.mpr (by decide +kernel)
  have writes : Writes eightBytes "\u2003aG1hYy1rZXk==\n".toList := by
    have text :
        "\u2003aG1hYy1rZXk==\n".toList =
          ['\u2003'] ++ ("aG1hYy1rZXk".toList ++ List.replicate 2 '=') ++ ['\n'] := by
      decide +kernel
    have blankBefore : ∀ c ∈ ['\u2003'], Text.isBlank c = true := List.all_eq_true.mp (by decide)
    have blankAfter : ∀ c ∈ ['\n'], Text.isBlank c = true := List.all_eq_true.mp (by decide)
    rw [text]
    exact .intro 2 blankBefore blankAfter encodes
  obtain ⟨isRead, -, -, registers⟩ := binding_key_is_read_iff "\u2003aG1hYy1rZXk==\n"
  obtain ⟨isReadToo, -, -, registersToo⟩ := binding_key_is_read_iff "aG1hYy1rZXl"
  have refused : bindingKey? "aG1hYy1rZXl" = none := by decide +kernel
  have noKey : ∀ key, ¬ Writes key "aG1hYy1rZXl".toList := by
    intro key writesKey
    cases refused.symm.trans ((isReadToo key).mpr writesKey)
  refine ⟨writes, (isRead _).mpr writes, ?_, noKey, ?_⟩
  · exact (registers (boundSettings _) "kid-1" (by decide)).1 _ writes
  · exact ((registersToo (boundSettings _) "kid-1" (by decide)).2 noKey).2 _ _ _

end AcmeAccount

end OnDemandTls
