import MarketBridge.Relational.Threads
import MarketBridge.Transport.CommitmentSteps

/-!
# The negotiation of a transport quote

A bid is selected, countered, accepted, rejected, released or taken back. Every route reads
the quote and checks its request before the transaction that writes, so requests are kept
between the two.
-/

namespace MarketBridge

open Relational

/-! ## Routes -/

def turnError : ApiError :=
  httpError 409 "It is the other party’s turn to respond to this negotiation"

def paymentLock : ApiError :=
  httpError 409 "Transport negotiation is locked because a transport payment has already started"

def takesSelections (db : Db) (jobId : Id) : Bool :=
  (db.transportJobs.findUnique jobId).any fun job =>
    job.status ∈ [TransportStatus.requested, .quoted]

/-- The reads and the checks of `PATCH /transport/:id/quotes/:quoteId/select`. -/
def checkSelect (env : Env) (r : QuoteRequest) (db : Db) : Except ApiError LoadedQuote := do
  let loaded ← loadTransportQuoteForNegotiation r db
  if loaded.actorRole ≠ .requester then
    .error (httpError 403 "Only the arranging party can select a transport bid")
  else if takesSelections db r.jobId = false then
    .error (httpError 400 "This transport request is no longer accepting bids")
  else if loaded.quote.status ≠ .pending then
    .error (httpError 400 ("Only a pending bid can be selected (current: " ++
      loaded.quote.status.text ++ ")"))
  else if loaded.quote.isExpired env.now then
    .error (httpError 409 "This quote has expired")
  else
    .ok loaded

def isAcceptedElsewhere (db : Db) (jobId exceptQuoteId : Id) : Bool :=
  db.transportQuotes.any fun i quote =>
    quote.transportJobId = jobId && i ≠ exceptQuoteId && quote.status = .accepted &&
      !hasChildQuote db i

/-- The transaction of the selection. -/
def selectQuote (env : Env) (r : LoadedQuote) : Tx := fun db =>
  if hasTransportPayment db r.jobId lockingStatuses then
    .error (httpError 409 ("Transporter selection is locked because a transport payment has " ++
      "already started. Wait for that payment to fail/cancel before selecting another quote."))
  else if takesSelections db r.jobId = false then
    .error (httpError 409 "This transport request is no longer accepting bids")
  else
    match (findLeafQuote db r.quoteId).filter (·.status = .pending) with
    | none => .error (httpError 409 "This bid is no longer available")
    | some fresh =>
        if fresh.isExpired env.now then
          .error (httpError 409 "This quote has expired")
        else if hasCompetingLiveQuote db r.jobId r.quoteId then
          .error (httpError 409 ("Another transporter bid is already in active negotiation. " ++
            "Release or reject that thread before selecting a different bid."))
        else if isAcceptedElsewhere db r.jobId r.quoteId then
          .error (httpError 409 ("A transporter agreement is already provisionally accepted. " ++
            "Release that transporter first to select a different bid."))
        else
          .ok { db with transportQuotes := db.transportQuotes.update r.quoteId ({ · with
            status := .selected
            expiresAt := none }) }

/-- The reads and the checks of `PATCH /transport/:id/quotes/:quoteId/reject`. -/
def checkReject (r : QuoteRequest) (db : Db) : Except ApiError LoadedQuote := do
  let loaded ← loadTransportQuoteForNegotiation r db
  if loaded.quote.status = .pending then
    .error (httpError 409 ("Waiting bids cannot be rejected. Select the bid you want to " ++
      "negotiate with; the others will keep waiting."))
  else if loaded.quote.status ∉ [TransportQuoteStatus.selected, .countered] then
    .error (httpError 400 ("This quote is already " ++ loaded.quote.status.lowerText))
  else if loaded.quote.turn ≠ some loaded.actorRole ∧ r.caller.isAdmin = false then
    .error turnError
  else
    .ok loaded

/-- The transaction of the rejection: the quotes that it answers are rejected with it. -/
def rejectQuote (r : LoadedQuote) : Tx := fun db =>
  if hasTransportPayment db r.jobId lockingStatuses then
    .error paymentLock
  else
    match (findLeafQuote db r.quoteId).filter (·.status ∈ [.selected, .countered]) with
    | none => .error (httpError 409 "This quote is no longer available for rejection")
    | some fresh =>
        if hasCompetingLiveQuote db r.jobId r.quoteId then
          .error (httpError 409 "This quote is not the sole active negotiation thread")
        else
          .ok { db with
            transportQuotes := (db.transportQuotes.update r.quoteId
                ({ · with status := .rejected })).updateMany
              (fun i quote => i ∈ quoteAncestors db fresh 20 &&
                quote.status ∈ [TransportQuoteStatus.pending, .selected, .countered])
              ({ · with status := .rejected }) }

/-- The reads and the checks of `POST /transport/:id/quotes/:quoteId/counter`. -/
def checkCounter (env : Env) (r : QuoteRequest) (db : Db) : Except ApiError LoadedQuote := do
  let loaded ← loadTransportQuoteForNegotiation r db
  if loaded.quote.status ∉ [TransportQuoteStatus.selected, .countered] then
    .error (httpError 400 ("Quote cannot be countered because it is " ++
      loaded.quote.status.text))
  else if loaded.quote.isExpired env.now then
    .error (httpError 409 "This quote has expired")
  else if loaded.quote.turn ≠ some loaded.actorRole then
    .error turnError
  else
    .ok loaded

/-- `MAX_COUNTER_ROUNDS`. -/
def maxCounterRounds : Nat :=
  4

/-- `countCounterDepth`. -/
def countCounterDepth (db : Db) (leafQuoteId : Id) : Nat :=
  db.transportQuotes.countParents (·.parentQuoteId) leafQuoteId 50

/-- The transaction of a counter-offer. -/
def counterQuote (env : Env) (r : LoadedQuote) (counterAmount : ℚ) (message : Option String) :
    Tx := fun db =>
  if hasTransportPayment db r.jobId lockingStatuses then
    .error paymentLock
  else
    match findLeafQuote db r.quoteId with
    | none => .error (httpError 409 "This negotiation has moved on. Refresh and try again.")
    | some fresh =>
        if fresh.status ∉ [TransportQuoteStatus.selected, .countered] then
          .error (httpError 409 ("Quote cannot be countered because it is " ++
            fresh.status.text))
        else if hasCompetingLiveQuote db r.jobId r.quoteId then
          .error (httpError 409 ("Another transporter bid is already in active negotiation. " ++
            "Refresh and select only after that negotiation is released."))
        else if fresh.turn ≠ some r.actorRole then
          .error turnError
        else if maxCounterRounds ≤ countCounterDepth db r.quoteId then
          .error (httpError 409 ("This negotiation has reached the maximum of 4 " ++
            "counter-offers. Accept the current price or reject the negotiation."))
        else
          .ok { db with
            transportQuotes := (db.transportQuotes.update r.quoteId
                ({ · with status := .countered })).create
              { transportJobId := fresh.transportJobId
                truckOwnerId := fresh.truckOwnerId
                truckId := fresh.truckId
                amount := counterAmount
                parentQuoteId := some r.quoteId
                status := .countered
                counteredBy := some r.actorRole
                message := if message.any (· ≠ "") then message else fresh.message
                expiresAt := some (env.now + 12 * 60 * 60 * 1000) } }

/-- The reads and the checks of `POST /transport/:id/quotes/:quoteId/withdraw-bid`. -/
def checkWithdrawBid (r : QuoteRequest) (db : Db) : Except ApiError LoadedQuote := do
  let loaded ← loadTransportQuoteForNegotiation r db
  if loaded.actorRole ≠ .provider then
    .error (httpError 403 "Only the truck owner who submitted the bid can withdraw it")
  else if loaded.quote.status ≠ .pending then
    .error (httpError 409 ("Only a waiting bid can be withdrawn (current: " ++
      loaded.quote.status.text ++ ")"))
  else
    .ok loaded

/-- What its transaction, which locks no job, reads before it writes. -/
def findsWaitingBid (r : LoadedQuote) (db : Db) : Bool :=
  (findLeafQuote db r.quoteId).any fun fresh => fresh.status = .pending

/-- The bid that the checks of a submission have admitted on `found`. -/
def placeBid (canBid : Except ApiError Unit) (s : QuoteSubmission) (found : Db) (db : Db) : Db :=
  match submitQuote canBid s found with
  | .error _ => db
  | .ok submitted =>
      match submitted.transportQuotes.findUnique found.transportQuotes.size with
      | none => db
      | some bid =>
          { db with
            transportQuotes := db.transportQuotes.create bid
            transportJobs :=
              if (found.transportJobs.findUnique s.jobId).any (·.status = .requested) then
                db.transportJobs.update s.jobId ({ · with status := .quoted })
              else
                db.transportJobs }

/-! ## Steps -/

inductive QuoteAction where
  | select
  | accept
  | reject
  | counter (counterAmount : ℚ) (message : Option String)
  | release (reason note : Option String) (updatedAt : Nat) (reads : ReleaseReads)
  | withdrawBid

inductive QuoteTask where
  | checked (r : LoadedQuote) (action : QuoteAction)
  /-- The withdrawal has found the bid waiting and writes it next. -/
  | withdrawing (quoteId : Id)
  | answered

structure QuoteDesk where
  db : Db := {}
  tasks : List QuoteTask := []

inductive QuoteStep where
  | submit (canBid : Except ApiError Unit) (s : QuoteSubmission) (found : Db)
  | read (r : QuoteRequest) (action : QuoteAction)
  | advance (k : Nat)
  /--
  The rest of the program: it ends some quotes, which it deletes where their job starts
  again, and dates some.
  -/
  | elsewhere (other : Db) (p : Id -> TransportQuote -> Bool)
      (ending : Option TransportQuoteStatus) (expiresAt : Option Nat)
      (ends : ending.any (·.isLive) = false)

def QuoteAction.check (env : Env) (r : QuoteRequest) (db : Db) :
    QuoteAction -> Except ApiError LoadedQuote
  | select => checkSelect env r db
  | accept => checkAccept env r db
  | reject => checkReject r db
  | counter _ _ => checkCounter env r db
  | release reason note updatedAt _ =>
      checkRelease env { r with reason, note } updatedAt db
  | withdrawBid => checkWithdrawBid r db

/-- The next transaction of the task, with what is left of it. -/
def QuoteTask.next (env : Env) (db : Db) : QuoteTask -> Db × QuoteTask
  | checked r .select => (commit (selectQuote env r db) db, .answered)
  | checked r .accept => (commit (acceptQuote env r db) db, .answered)
  | checked r .reject => (commit (rejectQuote r db) db, .answered)
  | checked r (.counter counterAmount message) =>
      (commit (counterQuote env r counterAmount message db) db, .answered)
  | checked r (.release _ _ _ reads) => (commit (releaseQuote env r reads db) db, .answered)
  | checked r .withdrawBid =>
      (db, if findsWaitingBid r db then .withdrawing r.quoteId else .answered)
  | withdrawing quoteId =>
      ({ db with
          transportQuotes := db.transportQuotes.update quoteId
            ({ · with status := .withdrawn }) }, .answered)
  | answered => (db, .answered)

def QuoteDesk.step (s : QuoteDesk) (a : Env × QuoteStep) : QuoteDesk :=
  match a.2 with
  | .submit canBid submission found => { s with db := placeBid canBid submission found s.db }
  | .read r action =>
      match action.check a.1 r s.db with
      | .error _ => s
      | .ok loaded => { s with tasks := s.tasks ++ [.checked loaded action] }
  | .advance k =>
      match s.tasks[k]? with
      | none => s
      | some task =>
          { db := (task.next a.1 s.db).1
            tasks := s.tasks.set k (task.next a.1 s.db).2 }
  | .elsewhere other p ending expiresAt _ =>
      { s with db := { other with
          transportQuotes := s.db.transportQuotes.updateMany p fun quote => { quote with
            status := ending.getD quote.status
            expiresAt := expiresAt } } }

/-! ## Threads of quotes -/

/-- Who makes number `n` of a thread; number 0 is the bid. -/
def partyOf : Nat -> Option QuoteCounterParty
  | 0 => none
  | n + 1 => if n % 2 = 0 then some .requester else some .provider

def TransportQuoteStatus.isBid (status : TransportQuoteStatus) : Bool :=
  status ∈ [TransportQuoteStatus.pending, .selected]

def TransportQuoteStatus.isEngaged (status : TransportQuoteStatus) : Bool :=
  status ∈ [TransportQuoteStatus.selected, .countered, .accepted]

/-- The quote may be number `n` of its thread: only a bid waits or is selected. -/
structure Offered (n : Nat) (quote : TransportQuote) : Prop where
  rounds : n ≤ maxCounterRounds
  party : quote.counteredBy = partyOf n
  bid : quote.status.isBid = true -> n = 0

/-- The quote is the last word of a negotiation or of an agreement about the job. -/
def Leads (quotes : Table TransportQuote) (jobId i : Id) : Prop :=
  (exists quote, quotes.findUnique i = some quote ∧ quote.transportJobId = jobId ∧
    quote.status.isEngaged = true) ∧ ¬ quotes.Answered (·.parentQuoteId) i

/--
A thread is a bid and at most four counter-offers, which the requester and the provider
make in turn, a quote has at most one answer, and at most one quote of a job leads.
-/
structure Negotiated (quotes : Table TransportQuote) : Prop where
  threads : quotes.Threaded (·.parentQuoteId) Offered
  single : forall jobId i j, Leads quotes jobId i -> Leads quotes jobId j -> i = j

/-- The row stays in its place, and does not become a bid. -/
structure InPlace (quote quote' : TransportQuote) : Prop where
  parent : quote'.parentQuoteId = quote.parentQuoteId
  job : quote'.transportJobId = quote.transportJobId
  party : quote'.counteredBy = quote.counteredBy
  bid : quote'.status.isBid = true -> quote.status.isBid = true

/-- The negotiations stay in order, and no quote changes its job. -/
structure GoesOn (quotes quotes' : Table TransportQuote) : Prop where
  negotiated : Negotiated quotes'
  jobs : forall i q, quotes.findUnique i = some q ->
    exists q', quotes'.findUnique i = some q' ∧ q'.transportJobId = q.transportJobId

section Quotes

variable {quotes quotes' : Table TransportQuote} {i j jobId : Id} {quote answer : TransportQuote}
  {p : Id -> TransportQuote -> Bool}

theorem InPlace.refl (quote : TransportQuote) : InPlace quote quote :=
  ⟨rfl, rfl, rfl, id⟩

/-- A counter-offer is made by the party whose turn it is. -/
theorem Offered.turn {n : Nat} (h : Offered n quote)
    (hstatus : quote.status ∈ [TransportQuoteStatus.selected, .countered]) :
    quote.turn = partyOf (n + 1) := by
  unfold TransportQuote.turn
  rcases List.mem_cons.1 hstatus with hselected | hcountered
  · obtain rfl := h.bid (by rw [hselected]; rfl)
    rw [hselected]
    rfl
  · rw [List.mem_singleton.1 hcountered, h.party]
    cases n with
    | zero => rfl
    | succ n =>
        rcases Nat.mod_two_eq_zero_or_one n with hn | hn <;> simp [partyOf, hn, Nat.add_mod]

section Related

variable (hrel : quotes.Rel (fun _ => InPlace) quotes')

include hrel

theorem answered_iff_of_rel :
    quotes'.Answered (·.parentQuoteId) i ↔ quotes.Answered (·.parentQuoteId) i := by
  constructor
  · rintro ⟨k, q', hq', hp⟩
    obtain ⟨q, hq, hsame⟩ := hrel.of_right hq'
    exact ⟨k, q, hq, hsame.parent.symm.trans hp⟩
  · rintro ⟨k, q, hq, hp⟩
    obtain ⟨q', hq', hsame⟩ := hrel.of_left hq
    exact ⟨k, q', hq', hsame.parent.trans hp⟩

theorem threads_of_rel (h : quotes.Threaded (·.parentQuoteId) Offered) :
    quotes'.Threaded (·.parentQuoteId) Offered := by
  refine h.rel (hrel.mono fun _ q q' hq => ⟨hq.parent, fun n hn => ?_⟩)
  exact ⟨hn.rounds, hq.party.trans hn.party, fun hs => hn.bid (hq.bid hs)⟩

theorem Negotiated.rel (h : Negotiated quotes)
    (hsingle : forall jobId i j, Leads quotes' jobId i -> Leads quotes' jobId j -> i = j) :
    GoesOn quotes quotes' := by
  refine ⟨⟨threads_of_rel hrel h.threads, hsingle⟩, fun i q hq => ?_⟩
  obtain ⟨q', hq', hsame⟩ := hrel.of_left hq
  exact ⟨q', hq', hsame.job⟩

/-- Nobody is engaged anew. -/
theorem Negotiated.rewritten (h : Negotiated quotes)
    (hengaged : forall i q q', quotes.findUnique i = some q -> quotes'.findUnique i = some q' ->
      q'.status.isEngaged = true -> q.status.isEngaged = true) :
    GoesOn quotes quotes' := by
  have hlead : forall jobId k, Leads quotes' jobId k -> Leads quotes jobId k := by
    rintro jobId k ⟨⟨q', hq', hjob, hs⟩, hlast⟩
    obtain ⟨q, hq, hsame⟩ := hrel.of_right hq'
    exact ⟨⟨q, hq, hsame.job.symm.trans hjob, hengaged k q q' hq hq' hs⟩,
      fun hans => hlast ((answered_iff_of_rel hrel).2 hans)⟩
  exact h.rel hrel fun jobId k l hk hl => h.single jobId k l (hlead jobId k hk) (hlead jobId l hl)

end Related

/-- Quotes end. -/
theorem Negotiated.ended {f : TransportQuote -> TransportQuote} (h : Negotiated quotes)
    (hplace : forall q, InPlace q (f q))
    (hends : forall q, (f q).status = q.status ∨ (f q).status.isEngaged = false) :
    GoesOn quotes (quotes.updateMany p f) := by
  refine h.rewritten (Table.rel_updateMany (fun _ => .refl) fun _ q _ _ => hplace q) ?_
  intro i q q' hq hq' hs
  rw [Table.findUnique_updateMany, hq, Option.map_some] at hq'
  obtain rfl := Option.some.inj hq'
  split at hs
  · rcases hends q with hsame | hended
    · exact hsame ▸ hs
    · exact absurd (hended.symm.trans hs) Bool.false_ne_true
  · exact hs

namespace Negotiated

variable (h : Negotiated quotes)

include h

theorem goesOn : GoesOn quotes quotes :=
  ⟨h, fun _ q hq => ⟨q, hq, rfl⟩⟩

/-- Where one quote comes to lead a job, nobody else leads it. -/
theorem single_of_leads (i jobId : Id)
    (hlead : forall job k, Leads quotes' job k ->
      k = i ∧ job = jobId ∨ job ≠ jobId ∧ Leads quotes job k) (job k l : Id)
    (hk : Leads quotes' job k) (hl : Leads quotes' job l) :
    k = l := by
  rcases hlead job k hk with ⟨rfl, rfl⟩ | ⟨hne, hk⟩ <;>
    rcases hlead job l hl with ⟨rfl, heq⟩ | ⟨hne', hl⟩
  · rfl
  · exact absurd rfl hne'
  · exact absurd heq hne
  · exact h.single job k l hk hl

theorem bid (hparent : answer.parentQuoteId = none) (hparty : answer.counteredBy = none)
    (hpending : answer.status = .pending) :
    GoesOn quotes (quotes.create answer) := by
  refine ⟨⟨h.threads.opening hparent ⟨Nat.zero_le _, hparty, fun _ => rfl⟩, ?_⟩,
    fun _ q hq => ⟨q, Table.findUnique_create_of_some hq, rfl⟩⟩
  have hold : forall job k, Leads (quotes.create answer) job k -> Leads quotes job k := by
    rintro job k ⟨⟨q, hrow, hjob, hs⟩, hlast⟩
    rcases Table.of_findUnique_create hrow with ⟨-, rfl⟩ | ⟨-, hq⟩
    · rw [hpending] at hs
      cases hs
    · refine ⟨⟨q, hq, hjob, hs⟩, ?_⟩
      rintro ⟨l, r, hr, hp⟩
      exact hlast ⟨l, r, Table.findUnique_create_of_some hr, hp⟩
  exact fun job k l hk hl => h.single job k l (hold job k hk) (hold job l hl)

/-- A quote of a job that nobody else leads is selected. -/
theorem select {f : TransportQuote -> TransportQuote} (hrow : quotes.findUnique i = some quote)
    (hplace : InPlace quote (f quote))
    (halone : forall k, Leads quotes quote.transportJobId k -> k = i) :
    GoesOn quotes (quotes.update i f) := by
  have hrel : quotes.Rel (fun _ => InPlace) (quotes.update i f) := by
    refine Table.rel_update (fun _ => .refl) fun q hq => ?_
    obtain rfl := Option.some.inj (hrow.symm.trans hq)
    exact hplace
  refine h.rel hrel (h.single_of_leads i quote.transportJobId ?_)
  rintro job k ⟨⟨q', hq', hjob, hs⟩, hlast⟩
  rcases Table.of_findUnique_update_some hrow hq' with ⟨rfl, rfl⟩ | ⟨hki, hq⟩
  · exact Or.inl ⟨rfl, hjob.symm.trans hplace.job⟩
  · have hk : Leads quotes job k :=
      ⟨⟨q', hq, hjob, hs⟩, fun hans => hlast ((answered_iff_of_rel hrel).2 hans)⟩
    exact Or.inr ⟨fun heq => hki (halone k (heq ▸ hk)), hk⟩

/-- The last word of a negotiation is answered by the party whose turn it is. -/
theorem counter (hrow : quotes.findUnique j = some quote)
    (hstatus : quote.status ∈ [TransportQuoteStatus.selected, .countered])
    (hlast : ¬ quotes.Answered (·.parentQuoteId) j)
    (hrounds : forall n, quotes.Depth (·.parentQuoteId) j n -> n < maxCounterRounds)
    (hparent : answer.parentQuoteId = some j)
    (hjob : answer.transportJobId = quote.transportJobId)
    (hcountered : answer.status = .countered) (hturn : quote.turn = answer.counteredBy) :
    GoesOn quotes ((quotes.update j ({ · with status := .countered })).create answer) := by
  have hengaged : quote.status.isEngaged = true := by
    simp only [List.mem_cons, List.not_mem_nil, or_false] at hstatus
    rcases hstatus with hs | hs <;> rw [hs] <;> rfl
  have hrel : quotes.Rel (fun _ => InPlace)
      (quotes.update j ({ · with status := .countered })) :=
    Table.rel_update (fun _ => .refl) fun q hq => ⟨rfl, rfl, rfl, fun hs => by cases hs⟩
  generalize hmid : quotes.update j ({ · with status := .countered }) = mid at hrel ⊢
  have hmidrow : mid.findUnique j = some { quote with status := .countered } := by
    rw [← hmid, Table.findUnique_update_self, hrow, Option.map_some]
  have hopen : ¬ mid.Answered (·.parentQuoteId) j :=
    fun hans => hlast ((answered_iff_of_rel hrel).1 hans)
  refine ⟨⟨(threads_of_rel hrel h.threads).answer hmidrow hopen hparent fun n hd _ => ?_,
    h.single_of_leads mid.size quote.transportJobId ?_⟩, fun k q hq => ?_⟩
  · obtain ⟨m, hdepth, hoffered⟩ := h.threads.depth j quote hrow
    have hm : m = n := (hdepth.mono fun k q hq => by
      obtain ⟨q', hq', hsame⟩ := hrel.of_left hq
      exact ⟨q', hq', hsame.parent⟩).unique hd
    subst hm
    refine ⟨hrounds m hdepth, hturn.symm.trans (hoffered.turn hstatus), fun hs => ?_⟩
    rw [hcountered] at hs
    cases hs
  · rintro job k ⟨⟨q', hq', hqjob, hs⟩, hlast'⟩
    rcases Table.of_findUnique_create hq' with ⟨hnew, rfl⟩ | ⟨-, hq'⟩
    · exact Or.inl ⟨hnew, hqjob.symm.trans hjob⟩
    · -- the quote that is answered leads no longer, and no other has led its job
      have hkj : k ≠ j := by
        rintro rfl
        exact hlast' ⟨_, answer, Table.findUnique_create_self _ _, hparent⟩
      rw [← hmid, Table.findUnique_update_ne hkj] at hq'
      have hk : Leads quotes job k := by
        refine ⟨⟨q', hq', hqjob, hs⟩, fun hans => hlast' ?_⟩
        obtain ⟨l, r, hr, hp⟩ := (answered_iff_of_rel hrel).2 hans
        exact ⟨l, r, Table.findUnique_create_of_some hr, hp⟩
      refine Or.inr ⟨?_, hk⟩
      rintro rfl
      exact hkj (h.single _ k j hk ⟨⟨quote, hrow, rfl, hengaged⟩, hlast⟩)
  · obtain ⟨q', hq', hsame⟩ := hrel.of_left hq
    exact ⟨q', Table.findUnique_create_of_some hq', hsame.job⟩

end Negotiated

end Quotes

/-! ## Runs -/

theorem GoesOn.trans {quotes quotes' quotes'' : Table TransportQuote} (h : GoesOn quotes quotes')
    (h' : Negotiated quotes' -> GoesOn quotes' quotes'') :
    GoesOn quotes quotes'' := by
  refine ⟨(h' h.negotiated).negotiated, fun i q hq => ?_⟩
  obtain ⟨q', hq', hjob⟩ := h.jobs i q hq
  obtain ⟨q'', hq'', hjob'⟩ := (h' h.negotiated).jobs i q' hq'
  exact ⟨q'', hq'', hjob'.trans hjob⟩

theorem Negotiated.closed {quotes : Table TransportQuote} {p : Id -> TransportQuote -> Bool}
    (status : TransportQuoteStatus) (h : Negotiated quotes) (hs : status.isLive = false) :
    GoesOn quotes (quotes.updateMany p ({ · with status := status })) := by
  refine h.ended (fun q => ⟨rfl, rfl, rfl, fun hbid => ?_⟩) fun q => Or.inr ?_
  · cases status <;> cases hs <;> cases hbid
  · cases status <;> cases hs <;> rfl

section Transactions

variable {env : Env} {db db' : Db} {r : LoadedQuote} {quoteId : Id} {fresh : TransportQuote}

theorem hasChildQuote_iff :
    hasChildQuote db quoteId = true ↔ db.transportQuotes.Answered (·.parentQuoteId) quoteId := by
  unfold hasChildQuote Table.Answered
  rw [Table.any_eq_true_iff]
  simp

theorem findLeafQuote_last (h : findLeafQuote db quoteId = some fresh) :
    db.transportQuotes.findUnique quoteId = some fresh ∧
      ¬ db.transportQuotes.Answered (·.parentQuoteId) quoteId := by
  unfold findLeafQuote at h
  split at h
  · cases h
  · next hlast => exact ⟨h, fun hans => hlast (hasChildQuote_iff.2 hans)⟩

/-- Where no quote competes and none is accepted, nobody else leads the job. -/
theorem eq_of_leads {jobId k : Id} (hcompeting : hasCompetingLiveQuote db jobId quoteId = false)
    (haccepted : isAcceptedElsewhere db jobId quoteId = false)
    (h : Leads db.transportQuotes jobId k) :
    k = quoteId := by
  obtain ⟨⟨q, hq, rfl, hs⟩, hlast⟩ := h
  by_contra hne
  have hlive := Table.any_eq_false_iff.1 hcompeting k q hq
  have hagreed := Table.any_eq_false_iff.1 haccepted k q hq
  have hleaf : hasChildQuote db k = false := by
    rw [← Bool.not_eq_true, hasChildQuote_iff]
    exact hlast
  dsimp only at hlive hagreed
  revert hlive hagreed hs
  cases q.status <;> simp [TransportQuoteStatus.isEngaged, hleaf, hne]

theorem selectQuote_goesOn (h : Negotiated db.transportQuotes)
    (hread : exists q, db.transportQuotes.findUnique r.quoteId = some q ∧
      q.transportJobId = r.jobId)
    (hok : selectQuote env r db = .ok db') :
    GoesOn db.transportQuotes db'.transportQuotes := by
  unfold selectQuote at hok
  simp only [guard_eq_ok] at hok
  obtain ⟨-, -, hok⟩ := hok
  split at hok
  · cases hok
  · next fresh hfresh =>
      simp only [guard_eq_ok] at hok
      obtain ⟨-, hcompeting, haccepted, hok⟩ := hok
      obtain rfl := Except.ok.inj hok
      obtain ⟨hleaf, hpending⟩ := Option.filter_eq_some_iff.1 hfresh
      obtain ⟨hrow, -⟩ := findLeafQuote_last hleaf
      obtain ⟨q, hq, hjob⟩ := hread
      obtain rfl := Option.some.inj (hrow.symm.trans hq)
      have hwaits := of_decide_eq_true hpending
      refine h.select hrow ⟨rfl, rfl, rfl, fun _ => by rw [hwaits]; rfl⟩ fun k hk => ?_
      exact eq_of_leads (Bool.not_eq_true _ ▸ hcompeting) (Bool.not_eq_true _ ▸ haccepted)
        (hjob ▸ hk)

theorem acceptQuote_goesOn (h : Negotiated db.transportQuotes)
    (hok : acceptQuote env r db = .ok db') :
    GoesOn db.transportQuotes db'.transportQuotes := by
  obtain ⟨fresh, job, -, hleaf, hstatus, -, -, rfl⟩ := acceptQuote_eq_ok hok
  rw [(syncOrderPaymentObligations_sameTransport job.orderId _).transportQuotes]
  obtain ⟨hrow, -⟩ := findLeafQuote_last hleaf
  suffices haccepted : GoesOn db.transportQuotes (db.transportQuotes.update r.quoteId ({ · with
      status := .accepted
      amount := r.quote.finalAmount
      expiresAt := none })) from
    haccepted.trans fun h' => h'.closed .rejected rfl
  refine h.rewritten (Table.rel_update (fun _ => .refl) fun q _ =>
    ⟨rfl, rfl, rfl, fun hs => by cases hs⟩) fun i q q' hq hq' hs => ?_
  rcases Table.of_findUnique_update_some hrow hq' with ⟨rfl, rfl⟩ | ⟨-, hsame⟩
  · obtain rfl := Option.some.inj (hrow.symm.trans hq)
    simp only [List.mem_cons, List.not_mem_nil, or_false] at hstatus
    rcases hstatus with hs | hs <;> rw [hs] <;> rfl
  · obtain rfl := Option.some.inj (hq.symm.trans hsame)
    exact hs

theorem rejectQuote_goesOn (h : Negotiated db.transportQuotes)
    (hok : rejectQuote r db = .ok db') :
    GoesOn db.transportQuotes db'.transportQuotes := by
  unfold rejectQuote at hok
  obtain ⟨-, hok⟩ := guard_eq_ok.1 hok
  split at hok
  · cases hok
  · next fresh _ =>
      obtain ⟨-, hok⟩ := guard_eq_ok.1 hok
      obtain rfl := Except.ok.inj hok
      exact (h.closed (p := fun i _ => i == r.quoteId) .rejected rfl).trans fun h' =>
        h'.closed .rejected rfl

theorem counterQuote_goesOn {counterAmount : ℚ} {message : Option String}
    (h : Negotiated db.transportQuotes)
    (hok : counterQuote env r counterAmount message db = .ok db') :
    GoesOn db.transportQuotes db'.transportQuotes := by
  unfold counterQuote at hok
  obtain ⟨-, hok⟩ := guard_eq_ok.1 hok
  split at hok
  · cases hok
  · next fresh hfresh =>
      simp only [guard_eq_ok] at hok
      obtain ⟨hstatus, -, hturn, hfull, hok⟩ := hok
      obtain rfl := Except.ok.inj hok
      obtain ⟨hrow, hlast⟩ := findLeafQuote_last hfresh
      refine h.counter hrow (not_not.1 hstatus) hlast (fun n hn => ?_) rfl rfl rfl
        (not_not.1 hturn)
      obtain ⟨m, hm, hoffered⟩ := h.threads.depth r.quoteId fresh hrow
      obtain rfl := hn.unique hm
      have hcount := hn.countParents_eq 50 (hoffered.rounds.trans (by decide))
      rw [countCounterDepth, hcount] at hfull
      exact not_le.1 hfull

theorem releaseQuote_goesOn {reads : ReleaseReads} (h : Negotiated db.transportQuotes)
    (hok : releaseQuote env r reads db = .ok db') :
    GoesOn db.transportQuotes db'.transportQuotes := by
  rcases releaseQuote_eq_ok hok with rfl | ⟨fresh, -, -, -, rfl⟩
  · exact h.goesOn
  · have hquotes : (releaseAgreement env r fresh db).transportQuotes =
        (withdrawThread r.quoteId fresh db).transportQuotes := by
      unfold releaseAgreement
      dsimp only
      rw [(recordOrderEvent_sameTransport env _ _ _).transportQuotes]
      split
      · rw [(recordOrderEvent_sameTransport env _ _ _).transportQuotes]
      · rfl
    rw [hquotes]
    exact (h.closed (p := fun i _ => i == r.quoteId) .withdrawn rfl).trans fun h' =>
      h'.closed .withdrawn rfl

theorem submitQuote_bid {canBid : Except ApiError Unit} {s : QuoteSubmission}
    {found submitted : Db} {bid : TransportQuote}
    (h : submitQuote canBid s found = .ok submitted)
    (hbid : submitted.transportQuotes.findUnique found.transportQuotes.size = some bid) :
    bid.parentQuoteId = none ∧ bid.counteredBy = none ∧ bid.status = .pending := by
  unfold submitQuote at h
  split at h
  · cases h
  · simp only [bind_eq_ok] at h
    obtain ⟨_, -, _, -, _, -, _, -, h⟩ := h
    obtain rfl := Except.ok.inj h
    rw [Table.findUnique_create_self] at hbid
    obtain rfl := Option.some.inj hbid
    exact ⟨rfl, rfl, rfl⟩

theorem placeBid_goesOn {canBid : Except ApiError Unit} {s : QuoteSubmission} {found : Db}
    (h : Negotiated db.transportQuotes) :
    GoesOn db.transportQuotes (placeBid canBid s found db).transportQuotes := by
  unfold placeBid
  split
  · exact h.goesOn
  · next submitted hsubmitted =>
      split
      · exact h.goesOn
      · next bid hbid =>
          obtain ⟨hparent, hparty, hpending⟩ := submitQuote_bid hsubmitted hbid
          exact h.bid hparent hparty hpending

theorem QuoteAction.check_eq_ok {q : QuoteRequest} {action : QuoteAction}
    (h : action.check env q db = .ok r) :
    exists quote, db.transportQuotes.findUnique r.quoteId = some quote ∧
      quote.transportJobId = r.jobId := by
  have hload : loadTransportQuoteForNegotiation q db = .ok r := by
    cases action with
    | accept => exact checkAccept_eq_ok h
    | release => exact checkRelease_eq_ok h
    | _ =>
        obtain ⟨loaded, hload, h⟩ := bind_eq_ok.1 h
        simp only [guard_eq_ok, Except.ok.injEq] at h
        simp_all
  obtain ⟨hrow, hjob, rfl⟩ := loadTransportQuoteForNegotiation_eq_ok hload
  exact ⟨r.quote, hrow, hjob⟩

end Transactions

def QuoteTask.IsRead (quotes : Table TransportQuote) : QuoteTask -> Prop
  | checked r _ => exists q, quotes.findUnique r.quoteId = some q ∧ q.transportJobId = r.jobId
  | _ => True

theorem QuoteTask.IsRead.goesOn {quotes quotes' : Table TransportQuote} {task : QuoteTask}
    (h : task.IsRead quotes) (hgo : GoesOn quotes quotes') : task.IsRead quotes' := by
  cases task with
  | checked r action =>
      obtain ⟨q, hq, hjob⟩ := h
      obtain ⟨q', hq', hsame⟩ := hgo.jobs r.quoteId q hq
      exact ⟨q', hq', hsame.trans hjob⟩
  | _ => trivial

theorem QuoteTask.next_goesOn (env : Env) {db : Db} {task : QuoteTask}
    (h : Negotiated db.transportQuotes) (hread : task.IsRead db.transportQuotes) :
    GoesOn db.transportQuotes (task.next env db).1.transportQuotes ∧
      forall quotes, (task.next env db).2.IsRead quotes := by
  have hcommit : forall tx : Except ApiError Db,
      (forall db', tx = .ok db' -> GoesOn db.transportQuotes db'.transportQuotes) ->
        GoesOn db.transportQuotes (commit tx db).transportQuotes := by
    rintro (_ | db') hok
    · exact h.goesOn
    · exact hok db' rfl
  cases task with
  | checked r action =>
      cases action with
      | select => exact ⟨hcommit _ fun _ => selectQuote_goesOn h hread, fun _ => trivial⟩
      | accept => exact ⟨hcommit _ fun _ => acceptQuote_goesOn h, fun _ => trivial⟩
      | reject => exact ⟨hcommit _ fun _ => rejectQuote_goesOn h, fun _ => trivial⟩
      | counter => exact ⟨hcommit _ fun _ => counterQuote_goesOn h, fun _ => trivial⟩
      | release => exact ⟨hcommit _ fun _ => releaseQuote_goesOn h, fun _ => trivial⟩
      | withdrawBid =>
          refine ⟨h.goesOn, fun quotes => ?_⟩
          unfold next
          dsimp only
          split <;> exact trivial
  | withdrawing quoteId =>
      exact ⟨h.closed (p := fun i _ => i == quoteId) .withdrawn rfl, fun _ => trivial⟩
  | answered => exact ⟨h.goesOn, fun _ => trivial⟩

namespace QuoteDesk

structure Inv (s : QuoteDesk) : Prop where
  negotiated : Negotiated s.db.transportQuotes
  tasks : forall task, task ∈ s.tasks -> task.IsRead s.db.transportQuotes

theorem Inv.goesOn {s s' : QuoteDesk} (h : Inv s)
    (hgo : GoesOn s.db.transportQuotes s'.db.transportQuotes)
    (htasks : forall task, task ∈ s'.tasks ->
      task ∈ s.tasks ∨ task.IsRead s'.db.transportQuotes) :
    Inv s' :=
  ⟨hgo.negotiated, fun task htask =>
    (htasks task htask).elim (fun hold => (h.tasks task hold).goesOn hgo) id⟩

theorem step_inv (s : QuoteDesk) (a : Env × QuoteStep) (h : Inv s) : Inv (s.step a) := by
  obtain ⟨env, step⟩ := a
  cases step with
  | submit canBid submission found =>
      exact h.goesOn (placeBid_goesOn h.negotiated) fun _ => Or.inl
  | read r action =>
      unfold QuoteDesk.step
      dsimp only
      split
      · exact h
      · next loaded hloaded =>
          refine h.goesOn h.negotiated.goesOn fun task htask => ?_
          rcases List.mem_append.1 htask with hold | hnew
          · exact Or.inl hold
          · obtain rfl := List.mem_singleton.1 hnew
            exact Or.inr (QuoteAction.check_eq_ok hloaded)
  | advance k =>
      unfold QuoteDesk.step
      dsimp only
      split
      · exact h
      · next task htask =>
          obtain ⟨hgo, hread⟩ := QuoteTask.next_goesOn env h.negotiated
            (h.tasks task (List.mem_of_getElem? htask))
          refine h.goesOn hgo fun task' htask' => ?_
          rcases List.mem_or_eq_of_mem_set htask' with hold | rfl
          · exact Or.inl hold
          · exact Or.inr (hread _)
  | elsewhere other p ending expiresAt ends =>
      refine h.goesOn (h.negotiated.ended (fun q => ⟨rfl, rfl, rfl, fun hbid => ?_⟩)
        fun q => ?_) fun _ => Or.inl
      all_goals
        cases ending with
        | none => first | exact hbid | exact Or.inl rfl
        | some status => cases status <;> cases ends <;> first | cases hbid | exact Or.inr rfl

/--
Whoever negotiates, and however the requests interleave with each other and with the rest
of the program: the negotiations that start from no quote stay in order.
-/
theorem quotes_negotiated (db : Db) (steps : List (Env × QuoteStep)) :
    Negotiated (run QuoteDesk.step { db := { db with transportQuotes := .empty } }
      steps).db.transportQuotes := by
  refine (run_preserves step_inv ⟨⟨.empty, ?_⟩, fun _ htask => by cases htask⟩ steps).negotiated
  rintro jobId i j ⟨⟨q, hq, -⟩, -⟩
  simp at hq

end QuoteDesk

end MarketBridge
