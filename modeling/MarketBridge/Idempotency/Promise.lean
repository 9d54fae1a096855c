import MarketBridge.Idempotency.Runs

/-!
# The promise of the idempotency middleware

The promise follows from the invariant before and after a step.  Without the condition a
handler can be taken over while it is at work, and a text is replayed as something else.
-/

namespace MarketBridge

open JsonText Relational

theorem IdempotencyRecord.receive_of_completed {r : IdempotencyRecord} (h : r.status = .completed)
    (requestHash : String) (now : Nat) :
    exists response, r.receive requestHash now = .answered response := by
  unfold IdempotencyRecord.receive
  rw [if_pos h]
  split
  · exact ⟨_, rfl⟩
  · exact ⟨_, rfl⟩

namespace IdempotencyServer

variable {sha256 : String -> String} {ttlMs : Nat} {s : IdempotencyServer}

/-! ## From the invariant -/

theorem Inv.not_isRunning (h : Inv sha256 s) (hstored : s.stored ≠ []) (k : Nat) :
    ¬ s.IsRunning k := by
  rintro ⟨q, hq, hrunning⟩
  exact KeyedPhase.owns_ne_none hrunning (h.owns_eq_none hstored hq)

theorem stored_ne_nil_step (hstored : s.stored ≠ []) (a : IdempotencyStep) :
    (s.step sha256 ttlMs a).stored ≠ [] := by
  cases a with
  | arrive http => exact hstored
  | tick duration => exact hstored
  | answer k answer =>
      simp only [IdempotencyServer.step, IdempotencyServer.answer]
      repeat' split
      all_goals exact hstored
  | advance k =>
      simp only [IdempotencyServer.step, IdempotencyServer.advance]
      split
      · exact hstored
      · exact List.append_ne_nil_of_left_ne_nil hstored _

variable {run : StoredRun} {q : KeyedRequest}

theorem Inv.told (h : Inv sha256 s) {k : Nat} {response : Response} (hlater : s.IsLater run k q)
    (hresponse : q.phase.response = some response) :
    (q.http.Same run.http -> response = run.response) ∧
      (¬ q.http.Same run.http -> response.statusCode = 409) := by
  have htold := h.later run k q hlater
  cases hphase : q.phase with
  | answered response' =>
      rw [hphase] at htold hresponse
      obtain rfl := Option.some.inj hresponse
      exact htold
  | storing recordId answer =>
      rw [hphase] at htold
      exact htold.elim
  | _ =>
      rw [hphase] at hresponse
      cases hresponse

theorem Inv.reads (h : Inv sha256 s) {k : Nat} {now : Nat} (hlater : s.IsLater run k q)
    (hphase : q.phase = .creating now) :
    (s.advance sha256 ttlMs k).requests[k]? = some { q with phase := .reading now } := by
  obtain ⟨r, hrecord, -⟩ := (h.stored run hlater.1).record
  have hadvances : Advances s (s.advance sha256 ttlMs k) k q (some r) (.reading now) :=
    advances_of_statement hlater.2.2 (by simp only [statement, hphase, hrecord])
  exact hadvances.moved.self

theorem Inv.answers (h : Inv sha256 s) {k : Nat} {now : Nat} (hlater : s.IsLater run k q)
    (hphase : q.phase = .reading now) :
    exists response, (s.advance sha256 ttlMs k).requests[k]? =
      some { q with phase := .answered response } := by
  obtain ⟨r, hrecord, hcompleted, -⟩ := (h.stored run hlater.1).record
  obtain ⟨response, hreceive⟩ :=
    IdempotencyRecord.receive_of_completed hcompleted (requestFingerprint sha256 q.http) now
  have hadvances : Advances s (s.advance sha256 ttlMs k) k q (some r) (.answered response) :=
    advances_of_statement hlater.2.2 (by simp only [statement, hphase, hrecord, hreceive])
  exact ⟨response, hadvances.moved.self⟩

theorem Inv.promise (h : Inv sha256 s) (a : IdempotencyStep)
    (hok : s.isUndisturbed sha256 a = true) :
    Promise sha256 ttlMs s a := by
  have hafter : Inv sha256 (s.step sha256 ttlMs a) := h.step a hok
  refine ⟨hafter.oneRun, ?_, ?_, ?_, ?_, ?_⟩
  · exact fun hstored k hrunning =>
      absurd hrunning (hafter.not_isRunning (stored_ne_nil_step hstored a) k)
  · exact fun run k q response hlater hresponse => (hafter.told hlater hresponse).1
  · exact fun run k q response hlater hresponse => (hafter.told hlater hresponse).2
  · rintro run k q now hlater rfl hphase
    exact h.reads hlater hphase
  · rintro run k q now hlater rfl hphase
    exact h.answers hlater hphase

/-- In a run of undisturbed steps the middleware keeps its promise at every step. -/
theorem promise_of_run (sha256 : String -> String) (ttlMs : Nat) {s : IdempotencyServer}
    (hfresh : s.IsFresh) {as : List IdempotencyStep}
    (hrun : RunMeets (step sha256 ttlMs) (fun s a => s.isUndisturbed sha256 a = true) s as) :
    RunMeets (step sha256 ttlMs) (Promise sha256 ttlMs) s as :=
  RunMeets.imp_of_invariant (Inv sha256) (fun _ a h hok => h.step a hok)
    (fun _ a h hok => h.promise a hok) (Inv.of_fresh hfresh) hrun

/-! ## Two orders, one key -/

def confirmReceipt (orderId : String) : HttpRequest :=
  { method := .patch
    baseUrl := "/api/orders"
    path := "/" ++ orderId ++ "/confirm-receipt" }

def receiptSha256 (text : String) : String :=
  if text = "PATCH:/api/orders/7/confirm-receipt:\x7b\x7d" then
    "2fe089bd8187b0a541a0090e5bc7b32095ddd3e571fc21fe58287faf2edcb81c"
  else if text = "PATCH:/api/orders/8/confirm-receipt:\x7b\x7d" then
    "7694ae0abb49c9bef1a457cc44623146bc21228dd6e82e0a05b977b1fc96d48d"
  else
    text

def receiptConfirmed : HandlerAnswer :=
  { statusCode := 200
    answer := .json (some (.object [("message", .string "Receipt confirmed")])) }

/-- The first order is confirmed and stored, then comes a retry and the other order. -/
def confirmedThenRetried : List IdempotencyStep :=
  [.arrive (confirmReceipt "7"), .advance 0, .answer 0 receiptConfirmed, .advance 0,
    .tick 1000, .arrive (confirmReceipt "7"), .arrive (confirmReceipt "8"), .advance 1, .advance 2,
    .advance 1, .advance 2]

theorem confirmedThenRetried_promise :
    RunMeets (step receiptSha256 600000) (Promise receiptSha256 600000) {} confirmedThenRetried :=
  promise_of_run receiptSha256 600000 ⟨rfl, rfl, rfl⟩ (by decide +kernel)

/-! ## Two handlers at once -/

/-- `Prompt`, of one phase at the time `now`. -/
def isPrompt (ttlMs now : Nat) : KeyedPhase -> Bool
  | .running _ since => now ≤ since + ttlMs
  | _ => true

theorem isPrompt_eq_true_iff {ttlMs now : Nat} {phase : KeyedPhase} :
    isPrompt ttlMs now phase = true ↔
      forall recordId since, phase = .running recordId since -> now ≤ since + ttlMs := by
  cases phase <;> simp [isPrompt]

instance (sha256 : String -> String) (ttlMs : Nat) (s : IdempotencyServer) (a : IdempotencyStep) :
    Decidable (Prompt sha256 ttlMs s a) :=
  decidable_of_iff
    (forall q, q ∈ (s.step sha256 ttlMs a).requests ->
      isPrompt ttlMs (s.step sha256 ttlMs a).now q.phase = true)
    (forall₂_congr fun _ _ => isPrompt_eq_true_iff)

/--
The first request reads the clock five milliseconds before it creates the record.  The record
expires while its handler is still at work, and the second request takes it over.
-/
def takenOverAtWork : List IdempotencyStep :=
  [.arrive (confirmReceipt "7"), .tick 5, .advance 0, .tick 595, .arrive (confirmReceipt "7"),
    .advance 1, .advance 1, .advance 1]

/-- A handler answers with `res.send`, and the client repeats the request. -/
def sentThenRetried : List IdempotencyStep :=
  [.arrive (confirmReceipt "7"), .advance 0,
    .answer 0
      { statusCode := 200
        answer := .send (some "Receipt confirmed") },
    .advance 0, .arrive (confirmReceipt "7"), .advance 1, .advance 1]

theorem promise_broken_by_prompt_handlers :
    (RunMeets (step receiptSha256 600) (Prompt receiptSha256 600) {} takenOverAtWork ∧
      ¬ RunMeets (step receiptSha256 600) (Promise receiptSha256 600) {} takenOverAtWork) ∧
    (RunMeets (step receiptSha256 600) (Prompt receiptSha256 600) {} sentThenRetried ∧
      ¬ RunMeets (step receiptSha256 600) (Promise receiptSha256 600) {} sentThenRetried) := by
  refine ⟨⟨by decide +kernel, fun hrun => ?_⟩, ⟨by decide +kernel, fun hrun => ?_⟩⟩
  · have hlast := hrun.2.2.2.2.2.2.2.1
    exact absurd (hlast.oneRun 0 1 ⟨_, rfl, rfl⟩ ⟨_, rfl, rfl⟩) (by decide)
  · have hlast := hrun.2.2.2.2.2.2.1
    have hreplayed := hlast.replayed _ 1 _ _ ⟨List.mem_cons_self .., by decide, rfl⟩ rfl
      (HttpRequest.Same.refl _)
    cases congrArg Response.body hreplayed

end IdempotencyServer

end MarketBridge
