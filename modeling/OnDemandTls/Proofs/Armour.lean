import OnDemandTls.Certificate.Mock
import OnDemandTls.Proofs.Base64

namespace OnDemandTls

/-!
# Reading armoured sections

The text of a section is read as that section, whatever bytes it holds.  So the
chain and the key of a mock are read again, and every mock can be served.
-/

namespace Pem

/-- A text holds no end of a line. -/
def OneLine (cs : List Char) : Prop :=
  ∀ c ∈ cs, c ≠ '\n' ∧ c ≠ '\r'

theorem oneLine_of_all
    {cs : List Char}
    (passes : (cs.all fun c => c != '\n' && c != '\r') = true) :
    OneLine cs := by
  intro c member
  have apart := List.all_eq_true.mp passes c member
  simpa using apart

theorem lines_append
    {line : List Char}
    (one : OneLine line)
    (rest : List Char) :
    lines (line ++ '\n' :: rest) = line :: lines rest := by
  induction line with
  | nil => rfl
  | cons c line inductionHypothesis =>
      have noEnd : ¬ (c = '\n' ∨ c = '\r') := by
        have notEnd := one c List.mem_cons_self
        rintro (same | same)
        · exact notEnd.1 same
        · exact notEnd.2 same
      rw [List.cons_append, lines, if_neg noEnd,
        inductionHypothesis fun other member => one other (List.mem_cons_of_mem c member)]

theorem lines_flatMap
    {pieces : List (List Char)}
    (one : ∀ piece ∈ pieces, OneLine piece)
    (rest : List Char) :
    lines (pieces.flatMap (fun piece => piece ++ ['\n']) ++ rest) = pieces ++ lines rest := by
  induction pieces with
  | nil => rfl
  | cons piece pieces inductionHypothesis =>
      have others := inductionHypothesis fun other member =>
        one other (List.mem_cons_of_mem piece member)
      rw [List.flatMap_cons, List.append_assoc, List.append_assoc, List.singleton_append,
        lines_append (one piece List.mem_cons_self), others, List.cons_append]

/-! ## Pieces of a text -/

theorem flatten_chunks_go
    {length bound : Nat}
    {cs : List Char}
    (positive : 0 < length)
    (enough : cs.length ≤ bound) :
    (chunks.go length bound cs).flatten = cs := by
  induction bound generalizing cs with
  | zero =>
      cases List.length_eq_zero_iff.mp (Nat.le_zero.mp enough)
      rfl
  | succ bound inductionHypothesis =>
      cases cs with
      | nil => rfl
      | cons c cs =>
          have shorter : ((c :: cs).drop length).length ≤ bound := by
            rw [List.length_drop]
            simp only [List.length_cons] at enough ⊢
            omega
          rw [chunks.go, List.flatten_cons, inductionHypothesis shorter, List.take_append_drop]
          exact List.cons_ne_nil c cs

/-- The pieces of a text are the text again. -/
theorem flatten_chunks
    {length : Nat}
    (positive : 0 < length)
    (cs : List Char) :
    (chunks length cs).flatten = cs :=
  flatten_chunks_go positive (Nat.le_refl _)

theorem mem_of_mem_chunks
    {length : Nat}
    (positive : 0 < length)
    {cs piece : List Char}
    (isPiece : piece ∈ chunks length cs)
    {c : Char}
    (member : c ∈ piece) :
    c ∈ cs := by
  rw [← flatten_chunks positive cs]
  exact List.mem_flatten.mpr ⟨piece, isPiece, member⟩

/-! ## Lines -/

/-- A line of digits neither begins nor ends a section. -/
theorem not_mark_of_digits
    {line : List Char}
    (noDash : ∀ c ∈ line, c ≠ '-')
    (mark : List Char) :
    ('-' :: mark).isPrefixOf line = false := by
  cases line with
  | nil => rfl
  | cons c line =>
      have differs : ('-' == c) = false :=
        beq_false_of_ne fun same => noDash c List.mem_cons_self same.symm
      rw [List.isPrefixOf_cons_cons, differs, Bool.false_and]

/-- Lines of digits add to what has been read of a section. -/
theorem readLines_digits
    {pieces rest : List (List Char)}
    (label digits : List Char)
    (noDash : ∀ piece ∈ pieces, ∀ c ∈ piece, c ≠ '-') :
    readLines (pieces ++ rest) (some label) digits =
      readLines rest (some label) (digits ++ pieces.flatten) := by
  induction pieces generalizing digits with
  | nil => rw [List.nil_append, List.flatten_nil, List.append_nil]
  | cons piece pieces inductionHypothesis =>
      have plain := noDash piece List.mem_cons_self
      have noBegin : beginMark.isPrefixOf piece = false := not_mark_of_digits plain _
      have noEnd : (endLine label).isPrefixOf piece = false := not_mark_of_digits plain _
      rw [List.cons_append, readLines, noBegin, noEnd, List.flatten_cons, ← List.append_assoc]
      exact inductionHypothesis _ fun other member => noDash other (List.mem_cons_of_mem _ member)

/-- The first line of a section of a kind. -/
def firstLine (kind : Kind) : List Char :=
  beginMark ++ kind.label.toList ++ "-----".toList

theorem readLines_firstLine
    (kind : Kind)
    (rest : List (List Char)) :
    readLines (firstLine kind :: rest) none [] =
      readLines rest (some kind.label.toList) [] := by
  have begins : beginMark.isPrefixOf (firstLine kind) = true := by cases kind <;> rfl
  have labelled : label? (firstLine kind) = some kind.label.toList := by
    cases kind <;> decide +kernel
  rw [readLines, if_pos begins, labelled]

theorem readLines_endLine
    (kind : Kind)
    (content : Bytes)
    (rest : List (List Char)) :
    readLines (endLine kind.label.toList :: rest) (some kind.label.toList)
        (Base64.padded .standard content) =
      { readLines rest none [] with
        sections := ⟨kind, content⟩ :: (readLines rest none []).sections } := by
  have noBegin : beginMark.isPrefixOf (endLine kind.label.toList) = false := by
    cases kind <;> decide +kernel
  have ends : (endLine kind.label.toList).isPrefixOf (endLine kind.label.toList) = true :=
    List.isPrefixOf_iff_prefix.mpr (List.prefix_refl _)
  have known : Kind.ofLabel? kind.label.toList = some kind := by cases kind <;> decide +kernel
  rw [readLines, noBegin, ends, known, Base64.decodeLoose?_padded]
  rfl

/-! ## Sections -/

theorem lines_write
    (s : Section)
    (rest : List Char) :
    lines ((write s).toList ++ rest) =
      firstLine s.kind ::
        (chunks lineLength (Base64.padded .standard s.content) ++
          endLine s.kind.label.toList :: lines rest) := by
  have first : OneLine (firstLine s.kind) :=
    oneLine_of_all (by cases s.kind <;> decide +kernel)
  have last : OneLine (endLine s.kind.label.toList) :=
    oneLine_of_all (by cases s.kind <;> decide +kernel)
  have pieces : ∀ piece ∈ chunks lineLength (Base64.padded .standard s.content),
      OneLine piece := by
    intro piece isPiece c member
    have isPlain := Base64.of_mem_padded (mem_of_mem_chunks (by decide) isPiece member)
    constructor <;> rintro rfl <;> cases isPlain.1
  have text : (write s).toList ++ rest =
      firstLine s.kind ++ '\n' ::
        ((chunks lineLength (Base64.padded .standard s.content)).flatMap (fun line => line ++ ['\n']) ++
          (endLine s.kind.label.toList ++ '\n' :: rest)) := by
    have dashes : "-----\n".toList = "-----".toList ++ ['\n'] := by decide
    unfold write firstLine endLine beginMark
    simp only [String.toList_append, String.toList_ofList, dashes, List.append_assoc,
      List.cons_append, List.nil_append]
  rw [text, lines_append first, lines_flatMap pieces, lines_append last]

/-- The text of a section, with a text behind it, is read as that section with the
sections of the other text behind it. -/
theorem read_write_append
    (s : Section)
    (text : String) :
    read (write s ++ text) = { read text with sections := s :: (read text).sections } := by
  have noDash : ∀ piece ∈ chunks lineLength (Base64.padded .standard s.content),
      ∀ c ∈ piece, c ≠ '-' :=
    fun piece isPiece c member =>
      (Base64.of_mem_padded (mem_of_mem_chunks (by decide) isPiece member)).2
  rw [read, String.toList_append, lines_write, readLines_firstLine, readLines_digits _ _ noDash,
    List.nil_append, flatten_chunks (by decide), readLines_endLine]
  rfl

/-- The text of a section is read as that section. -/
theorem read_write (s : Section) : read (write s) = ⟨[s], none⟩ := by
  rw [← String.append_empty (s := write s), read_write_append]
  rfl

/-- The text of a certificate holds that certificate and no other. -/
theorem certificates_writeCertificate (content : Bytes) :
    certificates (writeCertificate content) = .ok [content] := by
  rw [certificates, writeCertificate, read_write]
  rfl

/-- The text of a private key holds that key. -/
theorem privateKey?_write
    {s : Section}
    (isKey : s.kind.isPrivateKey = true) :
    privateKey? (write s) = .ok (some s) := by
  rw [privateKey?, read_write]
  simp [isKey]

end Pem

/-! ## Mocks -/

namespace CertificateResource

/-- The text of a certificate is a chain of that certificate alone. -/
theorem chainOf_text
    (certificate : Certificate)
    (key : KeyPair) :
    chainOf (certificate.text key) = .ok (certificate.write key, []) := by
  rw [chainOf, Certificate.text, Pem.certificates_writeCertificate]

/-- The host names of a leaf that can be read and has any. -/
theorem leafDomains_of_parts
    {resource : CertificateResource}
    {leaf : Bytes}
    {rest : List Bytes}
    {certificate : Certificate}
    (chain : chainOf resource.certificateChain = .ok (leaf, rest))
    (isRead : Certificate.read? leaf = some certificate)
    (named : certificate.hostNames ≠ []) :
    resource.leafDomains = .ok certificate.hostNames := by
  simp only [leafDomains, chain, bind, Except.bind, isRead]
  rfl

end CertificateResource

/-- A resource whose chain and key can be read can be served. -/
theorem CertificateResource.certifiedKey_of_parts
    {resource : CertificateResource}
    {leaf : Bytes}
    {rest : List Bytes}
    {key : Pem.Section}
    {algorithm : KeyAlgorithm}
    (chain : chainOf resource.certificateChain = .ok (leaf, rest))
    (holdsKey : Pem.privateKey? resource.privateKey = .ok (some key))
    (usable : PrivateKey.algorithm? key = some algorithm) :
    resource.certifiedKey = .ok ⟨leaf :: rest, algorithm⟩ := by
  simp only [certifiedKey, chain, holdsKey, usable]
  rfl

/-- The key that stands for every key is usable. -/
theorem KeyPair.algorithm?_sample :
    PrivateKey.algorithm? ⟨.privateKey, KeyPair.sample.wrap⟩ = some .ecdsa := by
  decide +kernel

namespace Mock

/-- A mock can be made for every name of ASCII characters. -/
theorem exists_make
    {domain : String}
    (ascii : domain.toList.all (fun c => c.toNat < 128) = true)
    (reason : String)
    (now : Int) :
    ∃ mock, make domain reason now = .ok mock := by
  have named : ∃ name, SubjectName.ofText? domain = some name := by
    unfold SubjectName.ofText?
    cases SubjectName.address? domain with
    | some bytes => exact ⟨_, rfl⟩
    | none => exact ⟨_, if_pos ascii⟩
  obtain ⟨name, isName⟩ := named
  exact ⟨_, by rw [make, isName]⟩

/-- Every mock can be served. -/
theorem exists_certifiedKey
    {domain reason : String}
    {now : Int}
    {mock : CertificateResource}
    (made : make domain reason now = .ok mock) :
    ∃ certified, mock.certifiedKey = .ok certified := by
  unfold make at made
  cases named : SubjectName.ofText? domain with
  | none =>
      rw [named] at made
      cases made
  | some name =>
      rw [named] at made
      cases made
      have chain :=
        CertificateResource.chainOf_text (certificate domain reason name now) .sample
      have key : Pem.privateKey? KeyPair.sample.text =
          .ok (some ⟨.privateKey, KeyPair.sample.wrap⟩) := by
        rw [KeyPair.text]
        exact Pem.privateKey?_write rfl
      exact ⟨_, CertificateResource.certifiedKey_of_parts chain key KeyPair.algorithm?_sample⟩

end Mock

end OnDemandTls
