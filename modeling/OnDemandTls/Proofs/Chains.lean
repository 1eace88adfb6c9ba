import OnDemandTls.Proofs.Armour

namespace OnDemandTls

/-!
# Chains of certificates

A chain is a text of armoured certificates one after another, the leaf first.
Whichever bytes the certificates are, they are read from the chain in their order.
A resource keeps one of them once more in a text of its own, the one above the leaf,
or the leaf if there is none above it, and that text is read as this certificate and
no other (`CertificateResource.issuer_is_read_back`).
-/

namespace Pem

/-- A text of sections one after another is read as these sections. -/
theorem read_join (sections : List Section) :
    read (String.join (sections.map write)) = ⟨sections, none⟩ := by
  induction sections with
  | nil => rfl
  | cons s sections inductionHypothesis =>
      rw [List.map_cons, String.join_cons, read_write_append, inductionHypothesis]

/-- A text of certificates one after another holds these certificates. -/
theorem certificates_join (contents : List Bytes) :
    certificates (String.join (contents.map writeCertificate)) = .ok contents := by
  have text : contents.map writeCertificate =
      (contents.map (Section.mk .certificate)).map write := by
    rw [List.map_map]
    rfl
  have kept : (contents.map (Section.mk .certificate)).filter (fun s => s.kind == .certificate) =
      contents.map (Section.mk .certificate) := by
    refine List.filter_eq_self.mpr fun s member => ?_
    obtain ⟨content, -, rfl⟩ := List.mem_map.mp member
    rfl
  rw [certificates, text, read_join]
  simp [kept, Function.comp_def]

end Pem

namespace CertificateResource

variable {domain chain key text : String} {origin : CertificateOrigin}
variable {resource : CertificateResource} {leaf : Bytes} {above : List Bytes}

theorem chainOf_eq_ok_iff :
    chainOf text = .ok (leaf, above) ↔ Pem.certificates text = .ok (leaf :: above) := by
  unfold chainOf
  cases Pem.certificates text with
  | error damage => simp
  | ok contents => cases contents <;> simp

/-- A chain makes a resource exactly if its leaf can be read; the key is not looked
at. -/
theorem ofPem_eq_ok_iff :
    ofPem domain chain key origin = .ok resource ↔
      ∃ leaf above certificate,
        chainOf chain = .ok (leaf, above) ∧
          Certificate.read? leaf = some certificate ∧
          resource =
            { domain := domain
              certificateChain := chain
              privateKey := key
              issuerCertificate := Pem.writeCertificate (above.headD leaf)
              retryAfter := none
              validTill := certificate.notAfter
              origin := origin } := by
  unfold ofPem
  constructor
  · intro accepted
    cases isChain : chainOf chain with
    | error error => simp [isChain, bind, Except.bind] at accepted
    | ok certificates =>
        cases isRead : Certificate.read? certificates.1 with
        | none => simp [isChain, bind, Except.bind, isRead] at accepted
        | some certificate =>
            simp only [isChain, bind, Except.bind, isRead, pure, Except.pure] at accepted
            exact ⟨_, _, certificate, rfl, isRead, (Except.ok.inj accepted).symm⟩
  · rintro ⟨leaf, above, certificate, isChain, isRead, rfl⟩
    simp only [isChain, bind, Except.bind, isRead]
    rfl

/-- Nothing is lost when a certificate is written: whatever its bytes, its text is a
chain of that certificate alone.  So the issuer that a resource keeps is read as the
certificate above the leaf of its chain, or as the leaf if it stands alone. -/
theorem issuer_is_read_back :
    (∀ content : Bytes, chainOf (Pem.writeCertificate content) = .ok (content, [])) ∧
      ∀ {domain chain key : String} {origin : CertificateOrigin} {resource : CertificateResource},
        ofPem domain chain key origin = .ok resource →
        ∃ leaf above,
          Pem.certificates chain = .ok (leaf :: above) ∧
            chainOf resource.issuerCertificate = .ok (above.headD leaf, []) := by
  have readBack (content : Bytes) :
      chainOf (Pem.writeCertificate content) = .ok (content, []) :=
    chainOf_eq_ok_iff.mpr (Pem.certificates_writeCertificate content)
  refine ⟨readBack, fun accepted => ?_⟩
  obtain ⟨leaf, above, certificate, isChain, -, rfl⟩ := ofPem_eq_ok_iff.mp accepted
  exact ⟨leaf, above, chainOf_eq_ok_iff.mp isChain, readBack _⟩

/-- The text of no bytes at all has no line between its first and its last. -/
example :
    Pem.writeCertificate [] = "-----BEGIN CERTIFICATE-----\n-----END CERTIFICATE-----\n" := by
  decide +kernel

/-- A leaf that says no more than until when it is valid. -/
def plainLeaf : Certificate where
  issuer := []
  subject := []
  notBefore := 1692000000
  notAfter := 1700086400
  extensions := []

/-- As many bytes as fill a line of digits, and one more. -/
def wideIssuer : Bytes := List.replicate 49 0xFF

/-- The issuer of a leaf takes two lines, the second one with padding, and is read
back. -/
theorem wide_issuer_is_read_back :
    ∃ chain resource,
      Pem.certificates chain = .ok [plainLeaf.write .sample, wideIssuer] ∧
        ofPem "blog.example.com" chain KeyPair.sample.text .acme = .ok resource ∧
        chainOf resource.issuerCertificate = .ok (wideIssuer, []) := by
  let chain := String.join ([plainLeaf.write .sample, wideIssuer].map Pem.writeCertificate)
  have isRead : Certificate.read? (plainLeaf.write .sample) = some plainLeaf := by decide +kernel
  have holds : Pem.certificates chain = .ok [plainLeaf.write .sample, wideIssuer] :=
    Pem.certificates_join _
  obtain ⟨resource, accepted⟩ :
      ∃ resource, ofPem "blog.example.com" chain KeyPair.sample.text .acme = .ok resource :=
    ⟨_, ofPem_eq_ok_iff.mpr ⟨_, _, _, chainOf_eq_ok_iff.mpr holds, isRead, rfl⟩⟩
  obtain ⟨leaf, above, holdsToo, isIssuer⟩ := issuer_is_read_back.2 accepted
  cases holds.symm.trans holdsToo
  exact ⟨chain, resource, holds, accepted, isIssuer⟩

end CertificateResource

end OnDemandTls
