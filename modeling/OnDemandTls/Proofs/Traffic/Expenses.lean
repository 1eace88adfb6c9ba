import OnDemandTls.Proofs.Traffic.FailedIssuance
import OnDemandTls.Proofs.Traffic.Transcripts

namespace OnDemandTls

/-!
# What an issuance spends

The expenses of an issuance are the tokens that it spends and the calls of
authorities for which it spends them.  Each stage has its own books
(`IssuanceStage.Books`), so the expenses of an issuance that has come to its end
are one of a few lists (`Settlement`), whatever it was answered.
-/

namespace Exchange

/-- A token is spent, or asked for, or an authority is called. -/
def isExpense : Exchange → Bool
  | ⟨.spend _, _⟩ | ⟨.askUser _, _⟩ | ⟨.renew _ _, _⟩ | ⟨.order _ _, _⟩ => true
  | _ => false

/-- What becomes of a claim. -/
def claim? : Exchange → Option LockClaim
  | ⟨.claim _, claimed⟩ => some claimed
  | _ => none

/-- A token of a budget. -/
def token (budget : Budget) : Exchange :=
  ⟨.spend budget, ()⟩

/-- A token of a budget is spent. -/
def spends
    (budget : Budget) :
    Exchange → Bool
  | ⟨.spend other, _⟩ => other = budget
  | _ => false

/-- The certificate that an authority is asked to renew. -/
def renewal? : Exchange → Option CertificateResource
  | ⟨.renew _ previous, _⟩ => some previous
  | _ => none

/-- An authority fails to renew a certificate. -/
def failsToRenew : Exchange → Bool
  | ⟨.renew _ _, .error _⟩ => true
  | _ => false

/-- An authority is asked for a fresh certificate. -/
def isOrder : Exchange → Bool
  | ⟨.order _ _, _⟩ => true
  | _ => false

end Exchange

/-- The expenses of a program so far. -/
def expensesIn (transcript : List Exchange) : List Exchange :=
  transcript.filter Exchange.isExpense

/-- What became of the claims of a program so far. -/
def claimsIn (transcript : List Exchange) : List LockClaim :=
  transcript.filterMap Exchange.claim?

theorem expensesIn_snoc_of_true
    {transcript : List Exchange}
    {exchange : Exchange}
    (costs : exchange.isExpense = true) :
    expensesIn (transcript ++ [exchange]) = expensesIn transcript ++ [exchange] := by
  simp [expensesIn, costs]

theorem expensesIn_snoc_of_false
    {transcript : List Exchange}
    {exchange : Exchange}
    (free : exchange.isExpense = false) :
    expensesIn (transcript ++ [exchange]) = expensesIn transcript := by
  simp [expensesIn, free]

theorem claimsIn_snoc
    (transcript : List Exchange)
    (exchange : Exchange) :
    claimsIn (transcript ++ [exchange]) = claimsIn transcript ++ exchange.claim?.toList := by
  cases claimed : exchange.claim? <;> simp [claimsIn, claimed]

theorem claimsIn_snoc_of_none
    {transcript : List Exchange}
    {exchange : Exchange}
    (noClaim : exchange.claim? = none) :
    claimsIn (transcript ++ [exchange]) = claimsIn transcript := by
  simp [claimsIn_snoc, noClaim]

/-! ## Books -/

namespace IssuanceJob

/-- Nobody can be asked for a certificate, or for none of its names. -/
def IsHopeless (job : IssuanceJob) : Prop :=
  job.client = none ∨ job.issuance.domains = []

/-- What is spent before a fresh order comes into question: nothing if there is
no certificate to renew, and otherwise a renewal that failed and its failure. -/
inductive Attempt (job : IssuanceJob) : List Exchange → Prop where
  | nothing :
      job.previous = none →
      Attempt job []
  | failed
      {previous : CertificateResource}
      (reason : AuthorityError) :
      job.previous = some previous →
      Attempt job
        [.token .request, ⟨.renew job.request.role previous, .error reason⟩, .token .failure]

/-- The consent of the user who pays for a fresh order, if there is one. -/
def consent (job : IssuanceJob) : List Exchange :=
  match job.request.user with
  | none => []
  | some user => [⟨.askUser user, true⟩]

/-- The expenses of an owner who has somebody to ask and names to ask for, with
the result where they determine it. -/
inductive Settlement (job : IssuanceJob) :
    List Exchange → Except ObtainError CertificateResource → Prop where
  | renewed
      {previous : CertificateResource}
      {result : Except ObtainError CertificateResource}
      (issued : CertificateResource) :
      job.previous = some previous →
      Settlement job [.token .request, ⟨.renew job.request.role previous, .ok issued⟩] result
  | denied
      {attempt : List Exchange}
      {user : String} :
      job.Attempt attempt →
      job.request.user = some user →
      Settlement job (attempt ++ [⟨.askUser user, false⟩]) (.error (.userBudgetSpent user))
  | ordered
      {attempt : List Exchange}
      {result : Except ObtainError CertificateResource}
      (answer : Except AuthorityError CertificateResource) :
      job.Attempt attempt →
      Settlement job
        (attempt ++ job.consent ++
          [.token .order, .token .request,
            ⟨.order job.request.role job.issuance.domains, answer⟩])
        result

/-- Tokens and calls of authorities match: a token for every call, another one for
every fresh order, and one for every renewal that failed. -/
structure Balanced (expenses : List Exchange) : Prop where
  requests :
    expenses.countP (Exchange.spends .request) =
      (expenses.filterMap Exchange.renewal?).length + expenses.countP Exchange.isOrder
  orders : expenses.countP (Exchange.spends .order) = expenses.countP Exchange.isOrder
  failures : expenses.countP (Exchange.spends .failure) = expenses.countP Exchange.failsToRenew

namespace Settlement

variable {job : IssuanceJob} {expenses : List Exchange}
variable {result : Except ObtainError CertificateResource}

/-- What is renewed is the certificate that an authority issued before, and it is
renewed once; a mock never is. -/
theorem renewals (settlement : job.Settlement expenses result) :
    expenses.filterMap Exchange.renewal? = job.previous.toList := by
  cases settlement with
  | renewed issued isPrevious =>
      rw [isPrevious]
      rfl
  | denied attempted payer =>
      cases attempted with
      | nothing nobody =>
          rw [nobody]
          rfl
      | failed reason isPrevious =>
          rw [isPrevious]
          rfl
  | ordered answer attempted =>
      unfold consent
      cases attempted with
      | nothing nobody =>
          rw [nobody]
          cases job.request.user <;> rfl
      | failed reason isPrevious =>
          rw [isPrevious]
          cases job.request.user <;> rfl

theorem balanced (settlement : job.Settlement expenses result) : Balanced expenses := by
  cases settlement with
  | renewed issued isPrevious => exact ⟨rfl, rfl, rfl⟩
  | denied attempted payer => cases attempted <;> exact ⟨rfl, rfl, rfl⟩
  | ordered answer attempted =>
      unfold consent
      cases attempted <;> cases job.request.user <;> exact ⟨rfl, rfl, rfl⟩

end Settlement

/-- The expenses of an owner; without anybody or anything to ask there are none. -/
def Settles
    (job : IssuanceJob)
    (expenses : List Exchange)
    (result : Except ObtainError CertificateResource) :
    Prop :=
  (job.IsHopeless ∧ expenses = []) ∨ (¬ job.IsHopeless ∧ job.Settlement expenses result)

end IssuanceJob

namespace IssuanceStage

/-- The expenses of an issuance when it is in a stage. -/
def Books
    (job : IssuanceJob)
    (expenses : List Exchange) :
    IssuanceStage → Prop
  | claiming | waiting _ | taking => expenses = []
  | payingRenewal previous =>
      ¬ job.IsHopeless ∧ job.previous = some previous ∧ expenses = []
  | renewing previous =>
      ¬ job.IsHopeless ∧ job.previous = some previous ∧ expenses = [.token .request]
  | payingFailure =>
      ¬ job.IsHopeless ∧
        ∃ previous reason,
          job.previous = some previous ∧
            expenses =
              [.token .request, ⟨.renew job.request.role previous, .error reason⟩]
  | charging user =>
      ¬ job.IsHopeless ∧ job.request.user = some user ∧ job.Attempt expenses
  | payingOrder =>
      ¬ job.IsHopeless ∧ ∃ attempt, job.Attempt attempt ∧ expenses = attempt ++ job.consent
  | payingRequest =>
      ¬ job.IsHopeless ∧
        ∃ attempt, job.Attempt attempt ∧ expenses = attempt ++ job.consent ++ [.token .order]
  | ordering =>
      ¬ job.IsHopeless ∧
        ∃ attempt,
          job.Attempt attempt ∧
            expenses = attempt ++ job.consent ++ [.token .order, .token .request]
  | releasing result => job.Settles expenses result
  | _ => ∀ result, job.Settles expenses result

/-- What became of the claim of an issuance when it is in a stage. -/
def Claimed
    (claims : List LockClaim) :
    IssuanceStage → Prop
  | claiming => claims = []
  | waiting _ | taking => ∃ guardNumber, claims = [.busy guardNumber]
  | _ => ∃ guardNumber, claims = [.owner guardNumber]

variable {job : IssuanceJob} {expenses : List Exchange} {claims : List LockClaim}

theorem books_freshStage
    (hopeful : ¬ job.IsHopeless)
    (attempted : job.Attempt expenses) :
    job.freshStage.Books job expenses := by
  unfold IssuanceJob.freshStage
  cases payer : job.request.user with
  | none => exact ⟨hopeful, expenses, attempted, by simp [IssuanceJob.consent, payer]⟩
  | some user => exact ⟨hopeful, payer, attempted⟩

theorem books_firstStage (job : IssuanceJob) : job.firstStage.Books job [] := by
  unfold IssuanceJob.firstStage
  by_cases noClient : job.client = none
  · simp only [noClient, Option.isNone_none, if_true]
    exact fun result => Or.inl ⟨Or.inl noClient, rfl⟩
  · by_cases noName : job.issuance.domains = []
    · simp only [noName, noClient, List.isEmpty_nil, Option.isNone_iff_eq_none, if_true, if_false]
      exact fun result => Or.inl ⟨Or.inr noName, rfl⟩
    · have hopeful : ¬ job.IsHopeless := fun hopeless => hopeless.elim noClient noName
      simp only [noName, noClient, List.isEmpty_iff, Option.isNone_iff_eq_none, if_false]
      cases isPrevious : job.previous with
      | some previous => exact ⟨hopeful, isPrevious, rfl⟩
      | none => exact books_freshStage hopeful (.nothing isPrevious)

theorem books_verdict
    (settled : ∀ result, job.Settles expenses result)
    (reason : AuthorityError)
    (second : Int) :
    (job.verdict reason second).Books job expenses := by
  unfold IssuanceJob.verdict
  cases job.previous.filter (fun resource => !resource.isExpired second) <;> exact settled

theorem claimed_freshStage
    (owned : ∃ guardNumber, claims = [.owner guardNumber]) :
    job.freshStage.Claimed claims := by
  unfold IssuanceJob.freshStage
  cases job.request.user <;> exact owned

theorem claimed_firstStage
    (owned : ∃ guardNumber, claims = [.owner guardNumber]) :
    job.firstStage.Claimed claims := by
  unfold IssuanceJob.firstStage
  split
  · exact owned
  · split
    · exact owned
    · cases job.previous with
      | some previous => exact owned
      | none => exact claimed_freshStage owned

theorem claimed_verdict
    (owned : ∃ guardNumber, claims = [.owner guardNumber])
    (reason : AuthorityError)
    (second : Int) :
    (job.verdict reason second).Claimed claims := by
  unfold IssuanceJob.verdict
  cases job.previous.filter (fun resource => !resource.isExpired second) <;> exact owned

variable {transcript : List Exchange} {stage later : IssuanceStage}
variable {call : GatewayCall} {answer : call.Answer}

/-- Every call of an issuance is entered in its books. -/
theorem books_moves
    (books : stage.Books job (expensesIn transcript))
    (moves : Moves job stage call answer (.on later)) :
    later.Books job (expensesIn (transcript ++ [⟨call, answer⟩])) := by
  cases moves with
  | busy guardNumber | awaited guardNumber =>
      rw [expensesIn_snoc_of_false rfl]
      exact books
  | owner guardNumber =>
      have nothing : expensesIn transcript = [] := books
      rw [expensesIn_snoc_of_false rfl, nothing]
      exact books_firstStage job
  | paidRenewal previous =>
      obtain ⟨hopeful, isPrevious, nothing⟩ := books
      rw [expensesIn_snoc_of_true rfl, nothing]
      exact ⟨hopeful, isPrevious, rfl⟩
  | renewed previous issued =>
      obtain ⟨hopeful, isPrevious, paid⟩ := books
      rw [expensesIn_snoc_of_true rfl, paid]
      exact fun result => Or.inr ⟨hopeful, .renewed issued isPrevious⟩
  | notRenewed previous reason =>
      obtain ⟨hopeful, isPrevious, paid⟩ := books
      rw [expensesIn_snoc_of_true rfl, paid]
      exact ⟨hopeful, previous, reason, isPrevious, rfl⟩
  | paidFailure =>
      obtain ⟨hopeful, previous, reason, isPrevious, paid⟩ := books
      rw [expensesIn_snoc_of_true rfl, paid]
      exact books_freshStage hopeful (.failed reason isPrevious)
  | granted user =>
      obtain ⟨hopeful, payer, attempted⟩ := books
      rw [expensesIn_snoc_of_true rfl]
      exact ⟨hopeful, _, attempted, by simp [IssuanceJob.consent, payer]⟩
  | denied user =>
      obtain ⟨hopeful, payer, attempted⟩ := books
      rw [expensesIn_snoc_of_true rfl]
      exact Or.inr ⟨hopeful, .denied attempted payer⟩
  | paidOrder =>
      obtain ⟨hopeful, attempt, attempted, paid⟩ := books
      rw [expensesIn_snoc_of_true rfl, paid]
      exact ⟨hopeful, attempt, attempted, rfl⟩
  | paidRequest =>
      obtain ⟨hopeful, attempt, attempted, paid⟩ := books
      rw [expensesIn_snoc_of_true rfl, paid, List.append_assoc]
      exact ⟨hopeful, attempt, attempted, rfl⟩
  | ordered issued =>
      obtain ⟨hopeful, attempt, attempted, paid⟩ := books
      rw [expensesIn_snoc_of_true rfl, paid, List.append_assoc]
      exact fun result => Or.inr ⟨hopeful, .ordered (.ok issued) attempted⟩
  | refused reason =>
      obtain ⟨hopeful, attempt, attempted, paid⟩ := books
      rw [expensesIn_snoc_of_true rfl, paid, List.append_assoc]
      exact fun result => Or.inr ⟨hopeful, .ordered (.error reason) attempted⟩
  | judged reason second =>
      rw [expensesIn_snoc_of_false rfl]
      exact books_verdict books reason second
  | notMarked previous second error | mockMade made =>
      rw [expensesIn_snoc_of_false rfl]
      exact books
  | stored issued | notStored issued error | marked previous second | noMock made
  | mockStored cause mock answer =>
      rw [expensesIn_snoc_of_false rfl]
      exact books _

/-- A name is claimed once. -/
theorem claimed_moves
    (claimed : stage.Claimed (claimsIn transcript))
    (moves : Moves job stage call answer (.on later)) :
    later.Claimed (claimsIn (transcript ++ [⟨call, answer⟩])) := by
  cases moves with
  | busy guardNumber =>
      have first : claimsIn transcript = [] := claimed
      exact ⟨guardNumber, by rw [claimsIn_snoc, first]; rfl⟩
  | owner guardNumber =>
      have first : claimsIn transcript = [] := claimed
      exact claimed_firstStage ⟨guardNumber, by rw [claimsIn_snoc, first]; rfl⟩
  | paidFailure =>
      rw [claimsIn_snoc_of_none rfl]
      exact claimed_freshStage claimed
  | judged reason second =>
      rw [claimsIn_snoc_of_none rfl]
      exact claimed_verdict claimed reason second
  | _ =>
      rw [claimsIn_snoc_of_none rfl]
      exact claimed

end IssuanceStage

namespace IssuanceProgress

/-- The expenses and the claim of an issuance on its way and at its end. -/
def Books
    (job : IssuanceJob)
    (transcript : List Exchange) :
    IssuanceProgress → Prop
  | on stage => stage.Books job (expensesIn transcript) ∧ stage.Claimed (claimsIn transcript)
  | ended result =>
      (∃ guardNumber,
          claimsIn transcript = [.busy guardNumber] ∧ expensesIn transcript = []) ∨
        ∃ guardNumber,
          claimsIn transcript = [.owner guardNumber] ∧
            job.Settles (expensesIn transcript) result

theorem books_moves
    {job : IssuanceJob}
    {transcript : List Exchange}
    {progress later : IssuanceProgress}
    {call : GatewayCall}
    {answer : call.Answer}
    (books : progress.Books job transcript)
    (moves : Moves job progress call answer later) :
    later.Books job (transcript ++ [⟨call, answer⟩]) := by
  cases progress with
  | ended result => exact moves.elim
  | on stage =>
      obtain ⟨inBooks, claimed⟩ := books
      cases later with
      | on later =>
          exact ⟨IssuanceStage.books_moves inBooks moves,
            IssuanceStage.claimed_moves claimed moves⟩
      | ended result =>
          -- An issuance ends with what was found after waiting, or with the release.
          cases moves with
          | unreadable | missing | taken =>
              obtain ⟨guardNumber, waited⟩ := claimed
              refine Or.inl ⟨guardNumber, ?_, ?_⟩
              · rw [claimsIn_snoc_of_none rfl, waited]
              · rw [expensesIn_snoc_of_false rfl]
                exact inBooks
          | released =>
              obtain ⟨guardNumber, owned⟩ := claimed
              refine Or.inr ⟨guardNumber, ?_, ?_⟩
              · rw [claimsIn_snoc_of_none rfl, owned]
              · rw [expensesIn_snoc_of_false rfl]
                exact inBooks

end IssuanceProgress

namespace Gateway

variable {gateway : Gateway} {request : ObtainRequest} {transcript : List Exchange}

/-- A request stands where its books say, whatever its calls were answered. -/
theorem books_of_leads
    {job : IssuanceJob}
    {rest : GatewayProgram (Except ObtainError CertificateResource)}
    (isJob : gateway.job? request = some job)
    (leads : (gateway.obtain request).Leads transcript rest) :
    ∃ progress : IssuanceProgress,
      rest = progress.program job ∧ progress.Books job transcript := by
  have begins : gateway.obtain request = (IssuanceProgress.on .claiming).program job := by
    rw [Gateway.obtain_eq, isJob]
    rfl
  rw [begins] at leads
  exact leads.invariant (fun transcript progress => progress.Books job transcript)
    (IssuanceProgress.follows job) IssuanceProgress.books_moves ⟨rfl, rfl⟩

end Gateway

end OnDemandTls
