import Mathlib.Data.List.Nodup
import MarketBridge.Auth.OneTime

/-!
# Runs of one-time credentials

What each statement does to the tables, and from it, by induction over the run, that one-time
credentials are one-time in every orderly run.
-/

namespace MarketBridge

open Relational

namespace CredentialServer

variable {s s' : CredentialServer} {crypto : Cryptography}

/-! ## Writes -/

theorem Keeps.of_users {users : Table CredentialUser} {nextSalt : Nat} (hsalt : s.nextSalt ≤ nextSalt)
    (hcodes : forall userId user' h, users.findUnique userId = some user' ->
      h ∈ user'.mfaBackupCodes -> s.nextSalt ≤ h.salt ∨
        exists user, s.users.findUnique userId = some user ∧ h ∈ user.mfaBackupCodes) :
    Keeps s { s with users := users, nextSalt := nextSalt } :=
  { Keeps.refl s with
    nextSalt := hsalt
    codes := hcodes }

theorem Keeps.updateUser {nextSalt : Nat} {userId : Id} {f : CredentialUser -> CredentialUser}
    (hsalt : s.nextSalt ≤ nextSalt)
    (hcodes : forall user h, s.users.findUnique userId = some user ->
      h ∈ (f user).mfaBackupCodes -> s.nextSalt ≤ h.salt ∨ h ∈ user.mfaBackupCodes) :
    Keeps s { s with users := s.users.update userId f, nextSalt := nextSalt } := by
  refine .of_users hsalt fun i user' h huser' hh => ?_
  rw [Table.findUnique_update] at huser'
  split at huser'
  · rename_i hi
    subst hi
    obtain ⟨user, huser, rfl⟩ := Option.map_eq_some_iff.1 huser'
    exact (hcodes user h huser hh).imp_right fun hold => ⟨user, huser, hold⟩
  · exact Or.inr ⟨user', huser', hh⟩

theorem CodesSound.updateUser {nextSalt : Nat} {userId : Id} {f : CredentialUser -> CredentialUser}
    (h : s.CodesSound) (hsalt : s.nextSalt ≤ nextSalt)
    (hcodes : forall user, s.users.findUnique userId = some user ->
      ((f user).mfaBackupCodes.map (·.salt)).Nodup ∧
        forall h, h ∈ (f user).mfaBackupCodes -> h.salt < nextSalt) :
    CodesSound { s with users := s.users.update userId f, nextSalt := nextSalt } :=
  Table.All.update
    (h.mono fun _ _ hrow => ⟨hrow.1, fun c hc => Nat.lt_of_lt_of_le (hrow.2 c hc) hsalt⟩) hcodes

theorem Keeps.of_sessions {sessions : RefreshSessions}
    (hsize : s.sessions.size ≤ sessions.size)
    (hrows : forall i r', sessions.findUnique i = some r' ->
      (exists r, s.sessions.findUnique i = some r ∧ r.userId = r'.userId ∧
        (r.revokedAt.isSome = true -> r'.revokedAt.isSome = true)) ∨
      s.sessions.size ≤ i ∧ s.hasRevoked r'.userId = false) :
    Keeps s { s with sessions := sessions } :=
  { Keeps.refl s with sessions := ⟨hsize, hrows⟩ }

theorem Keeps.updateSessions {p : Nat -> RefreshSession -> Bool}
    {f : RefreshSession -> RefreshSession}
    (hf : forall r, (f r).userId = r.userId ∧
      (r.revokedAt.isSome = true -> (f r).revokedAt.isSome = true)) :
    Keeps s { s with sessions := s.sessions.updateMany p f } := by
  refine .of_sessions (Nat.le_of_eq (Table.size_updateMany _ _ _).symm) fun i r' hr' => ?_
  rw [Table.findUnique_updateMany] at hr'
  obtain ⟨r, hr, rfl⟩ := Option.map_eq_some_iff.1 hr'
  refine Or.inl ⟨r, hr, ?_⟩
  split
  · exact ⟨(hf r).1.symm, (hf r).2⟩
  · exact ⟨rfl, id⟩

variable {nextSalt : Nat} {userId : Id} {sessions : RefreshSessions} {p : CredentialPhase}

theorem openSession_eq_some {session : RefreshSession} (h : s.openSession session = some sessions)
    : sessions = s.sessions.create session := by
  unfold openSession at h
  split at h
  · cases h
  · exact (Option.some.inj h).symm

theorem Keeps.openSession {session : RefreshSession} (hfree : s.hasRevoked session.userId = false)
    (h : s.openSession session = some sessions) :
    Keeps s { s with sessions := sessions } := by
  obtain rfl := openSession_eq_some h
  refine .of_sessions (by rw [Table.size_create]; omega) fun i r' hr' => ?_
  rcases Table.of_findUnique_create hr' with ⟨hi, rfl⟩ | ⟨-, hr'⟩
  · exact Or.inr ⟨Nat.le_of_eq hi.symm, hfree⟩
  · exact Or.inl ⟨r', hr', rfl, id⟩

theorem Keeps.of_tokens {tokens : Table PasswordResetToken}
    (hsize : s.tokens.size ≤ tokens.size)
    (hrows : forall i t', tokens.findUnique i = some t' ->
      (exists t, s.tokens.findUnique i = some t ∧ t.userId = t'.userId ∧
        (t.usedAt.isSome = true -> t'.usedAt.isSome = true) ∧ t.expiresAt = t'.expiresAt) ∨
      s.tokens.size ≤ i ∧ s.isResetting t'.userId = false) :
    Keeps s { s with tokens := tokens } :=
  { Keeps.refl s with tokens := ⟨hsize, hrows⟩ }

theorem Keeps.issueToken {token : PasswordResetToken}
    (hfree : s.isResetting token.userId = false) :
    Keeps s { s with tokens := s.tokens.create token } := by
  refine .of_tokens (by rw [Table.size_create]; omega) fun i t' ht' => ?_
  rcases Table.of_findUnique_create ht' with ⟨hi, rfl⟩ | ⟨-, ht'⟩
  · exact Or.inr ⟨Nat.le_of_eq hi.symm, hfree⟩
  · exact Or.inl ⟨t', ht', rfl, id, rfl⟩

/-! ## Codes -/

theorem salts_hashBackupCodes (crypto : Cryptography) (salt : Nat) (codes : List String) :
    (hashBackupCodes crypto salt codes).map (·.salt) = List.range' salt codes.length := by
  refine List.ext_getElem (by simp [hashBackupCodes]) fun i hi hi' => ?_
  simp [hashBackupCodes]

theorem mem_hashBackupCodes {salt : Nat} {codes : List String} {h : BackupCodeHash}
    (hh : h ∈ hashBackupCodes crypto salt codes) : salt ≤ h.salt ∧ h.salt < salt + codes.length := by
  have hmem := List.mem_map_of_mem (f := (·.salt)) hh
  rw [salts_hashBackupCodes, List.mem_range'_1] at hmem
  exact hmem

theorem nodup_hashBackupCodes (crypto : Cryptography) (salt : Nat) (codes : List String) :
    ((hashBackupCodes crypto salt codes).map (·.salt)).Nodup :=
  salts_hashBackupCodes crypto salt codes ▸ List.nodup_range'

/-- Without the code at `index`, its salt is not among those that remain. -/
theorem salt_ne_of_mem_eraseIdx {codes : List BackupCodeHash} {index : Nat} {h c : BackupCodeHash}
    (hnodup : (codes.map (·.salt)).Nodup) (hget : codes[index]? = some h)
    (hc : c ∈ codes.eraseIdx index) : c.salt ≠ h.salt := by
  obtain ⟨j, hne, hj⟩ := List.mem_eraseIdx_iff_getElem?.1 hc
  intro hsalt
  have hmap : forall {k : Nat} {x : BackupCodeHash}, codes[k]? = some x ->
      (codes.map (·.salt))[k]? = some x.salt := by
    intro k x hx
    rw [List.getElem?_map, hx]
    rfl
  have hjlt : j < (codes.map (·.salt)).length := by
    rw [List.length_map]
    exact (List.getElem?_eq_some_iff.1 hj).1
  exact hne ((List.getElem?_inj hjlt hnodup).1 (by rw [hmap hj, hmap hget, hsalt]))

/-! ## Statements -/

/-- What a statement does: the tables are kept, and what it says of them holds. -/
structure Lawful (s : CredentialServer) (o : Outcome) : Prop where
  keeps : Keeps s o.server
  codes : o.server.CodesSound
  phase : o.server.PhaseSound o.phase
  event : forall e, o.event = some e -> o.server.EventSound e
  follows : forall e e', o.event = some e -> s.EventSound e' -> e'.Allows e

theorem Lawful.silent {o : Outcome} (hkeeps : Keeps s o.server) (hcodes : o.server.CodesSound)
    (hphase : o.server.PhaseSound o.phase) (hevent : o.event = none) : Lawful s o where
  keeps := hkeeps
  codes := hcodes
  phase := hphase
  event := fun e he => by
    rw [hevent] at he
    cases he
  follows := fun e _ he => by
    rw [hevent] at he
    cases he

theorem Lawful.read (hcodes : s.CodesSound) (hphase : s.PhaseSound p) :
    Lawful s { server := s, phase := p } :=
  .silent (Keeps.refl s) hcodes hphase rfl

def isPlain : CredentialPhase -> Bool
  | .regenerated _ _ _ => false
  | .changing _ _ _ => false
  | .revoking _ => false
  | .revoked _ => false
  | _ => true

theorem PhaseSound.of_isPlain (h : isPlain p = true) : s.PhaseSound p := by
  cases p with
  | regenerated => cases h
  | changing => cases h
  | revoking => cases h
  | revoked => cases h
  | _ => exact trivial

theorem isPlain_verifyLogin (userId : Id) (code : String) (session : SignInCall) :
    isPlain (s.verifyLogin crypto userId code session) = true := by
  unfold verifyLogin
  repeat' split
  all_goals rfl

theorem isPlain_authenticate (sessionId : Id) (call : MfaCall) :
    isPlain (s.authenticate sessionId call) = true := by
  unfold authenticate
  repeat' split
  all_goals rfl

theorem isPlain_setup (user : CredentialUser) (userId : Id) (secret : String) :
    isPlain (setup user userId secret) = true := by
  unfold setup
  split <;> rfl

theorem isPlain_verifySetup (now : Nat) (user : CredentialUser) (userId : Id)
    (code password : String) (backupCodes : List String) :
    isPlain (verifySetup crypto now user userId code password backupCodes) = true := by
  unfold verifySetup
  repeat' split
  all_goals rfl

theorem isPlain_disable (now : Nat) (user : CredentialUser) (userId : Id)
    (password code : String) :
    isPlain (disable crypto now user userId password code) = true := by
  unfold disable
  repeat' split
  all_goals rfl

theorem isPlain_regenerate (now : Nat) (user : CredentialUser) (userId : Id)
    (password code : String) (backupCodes : List String) :
    isPlain (regenerate crypto now user userId password code backupCodes) = true := by
  unfold regenerate
  repeat' split
  all_goals rfl

theorem isPlain_handle (now : Nat) (user : CredentialUser) (userId : Id) (call : MfaCall) :
    isPlain (handle crypto now user userId call) = true := by
  cases call with
  | setup secret => exact isPlain_setup _ _ _
  | verifySetup code password backupCodes => exact isPlain_verifySetup _ _ _ _ _ _
  | disable password code => exact isPlain_disable _ _ _ _ _
  | regenerate password code backupCodes => exact isPlain_regenerate _ _ _ _ _ _

theorem isPlain_load (userId : Id) (call : MfaCall) :
    isPlain (s.load crypto userId call) = true := by
  unfold load
  split
  · rfl
  · split
    · rfl
    · split
      · exact isPlain_handle _ _ _ _
      · rfl

theorem isPlain_requestReset (email rawToken : String) (requestedIp : Option String) :
    isPlain (s.requestReset email rawToken requestedIp) = true := by
  unfold requestReset
  repeat' split
  all_goals rfl

theorem isPlain_start (request : CredentialRequest) : isPlain request.start = true := by
  cases request with
  | verifyLogin challenge code session =>
      dsimp only [CredentialRequest.start]
      split
      · cases challenge <;> rfl
      · rfl
  | mfa sessionId call => rfl
  | forgotPassword email rawToken requestedIp => rfl
  | resetPassword rawToken password =>
      dsimp only [CredentialRequest.start]
      split <;> rfl

theorem consumeResetToken_sound (rawToken password : String) :
    s.PhaseSound (s.consumeResetToken crypto rawToken password) := by
  unfold consumeResetToken
  split
  · exact trivial
  · rename_i token record hfound
    obtain ⟨hrecord, -⟩ := Table.findFirst_eq_some hfound
    split
    · refine ⟨Table.lt_size_of_findUnique hrecord, fun t ht => ?_⟩
      rw [hrecord] at ht
      exact congrArg PasswordResetToken.userId (Option.some.inj ht).symm
    · exact trivial

theorem lawful_spending {seen : List BackupCodeHash} {index : Nat} {session : SignInCall}
    (hcodes : s.CodesSound) (hfinds : s.findsAsRead (.spending userId seen index session) = true) :
    Lawful s (s.perform crypto (.spending userId seen index session)) := by
  obtain ⟨user, huser, hseen⟩ := Option.map_eq_some_iff.1 (of_decide_eq_true hfinds)
  subst hseen
  obtain ⟨hnodup, hbelow⟩ := hcodes userId user huser
  have hsub : forall c, c ∈ user.mfaBackupCodes.eraseIdx index -> c ∈ user.mfaBackupCodes :=
    fun c hc => List.mem_of_mem_eraseIdx hc
  have hstored : forall h, user.mfaBackupCodes[index]? = some h -> h ∈ user.mfaBackupCodes :=
    fun h hget => List.mem_of_getElem? hget
  refine ⟨?_, ?_, trivial, ?_, ?_⟩
  · refine Keeps.updateUser (Nat.le_refl _) fun user' h huser' hh => Or.inr ?_
    rw [huser] at huser'
    obtain rfl := Option.some.inj huser'
    exact hsub h hh
  · refine CodesSound.updateUser hcodes (Nat.le_refl _) fun user' _ => ⟨?_, fun c hc => ?_⟩
    · exact hnodup.sublist ((List.eraseIdx_sublist _ _).map _)
    · exact hbelow c (hsub c hc)
  · intro e he
    obtain ⟨h, hget, rfl⟩ := Option.map_eq_some_iff.1 he
    refine ⟨hbelow h (hstored h hget), fun user' c huser' hc => ?_⟩
    have hrow := Table.findUnique_update_self s.users userId
      fun u => { u with mfaBackupCodes := user.mfaBackupCodes.eraseIdx index }
    rw [huser, Option.map_some] at hrow
    obtain rfl := Option.some.inj (hrow.symm.trans huser')
    exact salt_ne_of_mem_eraseIdx hnodup hget hc
  · intro e e' he hsound
    obtain ⟨h, hget, rfl⟩ := Option.map_eq_some_iff.1 he
    cases e' with
    | accepted userId' salt =>
        rintro rfl rfl
        exact hsound.2 user h huser (hstored h hget) rfl
    | regenerated userId' first =>
        rintro rfl
        exact hsound.2 user h huser (hstored h hget)
    | enabled => exact trivial
    | changed => exact trivial
    | reset => exact trivial

theorem lawful_storing (crypto : Cryptography) (userId : Id)
    (f : CredentialUser -> CredentialUser) (codes : List String) (hcodes : s.CodesSound)
    (hf : forall user, (f user).mfaBackupCodes = hashBackupCodes crypto s.nextSalt codes) :
    Keeps s
        { s with
          users := s.users.update userId f
          nextSalt := s.nextSalt + codes.length } ∧
      CodesSound
        { s with
          users := s.users.update userId f
          nextSalt := s.nextSalt + codes.length } := by
  constructor
  · refine Keeps.updateUser (Nat.le_add_right _ _) fun user h _ hh => Or.inl ?_
    rw [hf] at hh
    exact (mem_hashBackupCodes hh).1
  · refine CodesSound.updateUser hcodes (Nat.le_add_right _ _) fun user _ => ?_
    rw [hf]
    exact ⟨nodup_hashBackupCodes crypto _ _, fun h hh => (mem_hashBackupCodes hh).2⟩

theorem lawful_regenerating {codes : List String} (hcodes : s.CodesSound) :
    Lawful s (s.perform crypto (.regenerating userId codes)) := by
  obtain ⟨hkeeps, hsound⟩ := lawful_storing crypto userId
    (fun user => { user with mfaBackupCodes := hashBackupCodes crypto s.nextSalt codes }) codes
    hcodes fun _ => rfl
  refine .silent hkeeps hsound ⟨Nat.le_add_right _ _, fun user h huser hh => ?_⟩ rfl
  have hrow : (s.users.findUnique userId).map
      (fun user => { user with mfaBackupCodes := hashBackupCodes crypto s.nextSalt codes }) =
        some user :=
    (Table.findUnique_update_self _ _ _).symm.trans huser
  obtain ⟨_, -, rfl⟩ := Option.map_eq_some_iff.1 hrow
  exact (mem_hashBackupCodes hh).1

theorem lawful_changing {token : Nat} {password : String} (hcodes : s.CodesSound)
    (hphase : s.PhaseSound (.changing token userId password))
    (hfinds : s.findsAsRead (.changing token userId password) = true) :
    Lawful s (s.perform crypto (.changing token userId password)) := by
  simp only [findsAsRead, Bool.and_eq_true, Bool.not_eq_true'] at hfinds
  obtain ⟨husable, hothers⟩ := hfinds
  obtain ⟨t, ht, husable⟩ := (Option.any_eq_true _ _).1 husable
  rw [Table.any_eq_false_iff] at hothers
  have hunused : t.usedAt.isSome = false := by
    unfold PasswordResetToken.isUsable at husable
    rw [Bool.and_eq_true, Option.isNone_iff_eq_none] at husable
    rw [husable.1]
    rfl
  have hwritten : forall i t', (s.tokens.update token ({ · with usedAt := some s.now })).findUnique i =
      some t' -> exists t, s.tokens.findUnique i = some t ∧ t.userId = t'.userId ∧
        (i = token ∧ t'.usedAt.isSome = true ∨ i ≠ token ∧ t' = t) ∧ t.expiresAt = t'.expiresAt := by
    intro i t' ht'
    rcases Table.of_findUnique_update ht' with ⟨hi, t, ht, rfl⟩ | ⟨hi, ht'⟩
    · exact ⟨t, ht, rfl, Or.inl ⟨hi, rfl⟩, rfl⟩
    · exact ⟨t', ht', rfl, Or.inr ⟨hi, rfl⟩, rfl⟩
  have hsize : (s.tokens.update token ({ · with usedAt := some s.now })).size = s.tokens.size :=
    Table.size_update _ _ _
  refine ⟨?_, ?_, ?_, ?_, ?_⟩
  · have husers : Keeps s
        { s with
          users := s.users.update userId
            ({ · with passwordHash := crypto.hashPassword password }) } :=
      Keeps.updateUser (Nat.le_refl _) fun _ _ _ hh => Or.inr hh
    refine { husers with tokens := ⟨Nat.le_of_eq hsize.symm, fun i t' ht' => Or.inl ?_⟩ }
    obtain ⟨t, ht, hsame, hcase, hexpires⟩ := hwritten i t' ht'
    refine ⟨t, ht, hsame, fun hused => ?_, hexpires⟩
    rcases hcase with ⟨-, hmarked⟩ | ⟨-, rfl⟩
    · exact hmarked
    · exact hused
  · exact CodesSound.updateUser hcodes (Nat.le_refl _) fun user huser => hcodes userId user huser
  · refine ⟨Nat.le_refl _, fun i t' _ ht' huser => ?_⟩
    obtain ⟨t, ht, hsame, hcase, -⟩ := hwritten i t' ht'
    rcases hcase with ⟨-, hmarked⟩ | ⟨hi, rfl⟩
    · simp [PasswordResetToken.isUsable, Option.isNone_eq_false_iff.2 hmarked]
    · have hother := hothers i t' ht
      simp only [hi, huser, ne_eq, not_false_eq_true, decide_true, Bool.true_and] at hother
      exact hother
  · intro e he
    obtain rfl := Option.some.inj he
    refine ⟨hsize.symm ▸ hphase.1, fun t' ht' => ?_⟩
    obtain ⟨_, _, _, hcase, _⟩ := hwritten token t' ht'
    rcases hcase with ⟨-, hmarked⟩ | ⟨hi, -⟩
    · exact hmarked
    · exact absurd rfl hi
  · intro e e' he hsound
    obtain rfl := Option.some.inj he
    cases e' with
    | changed token' userId' =>
        rintro rfl
        rw [hsound.2 t ht] at hunused
        cases hunused
    | reset userId' tokens sessions =>
        rintro rfl
        by_contra hlt
        rw [hsound.1.2 token t (Nat.not_le.1 hlt) ht (hphase.2 t ht)] at husable
        cases husable
    | accepted => exact trivial
    | regenerated => exact trivial
    | enabled => exact trivial

theorem perform_lawful (hcodes : s.CodesSound) (hphase : s.PhaseSound p)
    (hfinds : s.findsAsRead p = true) : Lawful s (s.perform crypto p) := by
  cases p with
  | verifyingLogin userId code session =>
      exact .read hcodes (.of_isPlain (isPlain_verifyLogin userId code session))
  | spending userId seen index session => exact lawful_spending hcodes hfinds
  | openingSession session usedBackupCode =>
      have hfree : s.hasRevoked session.userId = false := by
        simpa only [findsAsRead, Bool.not_eq_true'] using hfinds
      dsimp only [perform]
      split
      · exact .read hcodes trivial
      · rename_i sessions hopened
        exact .silent (.openSession hfree hopened) hcodes trivial rfl
  | authenticating sessionId call =>
      exact .read hcodes (.of_isPlain (isPlain_authenticate sessionId call))
  | loading userId call => exact .read hcodes (.of_isPlain (isPlain_load userId call))
  | settingUp userId secret =>
      exact .silent (.updateUser (Nat.le_refl _) fun _ _ _ hh => Or.inr hh)
        (hcodes.updateUser (Nat.le_refl _) fun user huser => hcodes userId user huser) trivial rfl
  | enabling userId verified backupCodes =>
      obtain ⟨hkeeps, hsound⟩ := lawful_storing crypto userId
        (fun user =>
          { user with
            mfaEnabled := true
            mfaBackupCodes := hashBackupCodes crypto s.nextSalt backupCodes })
        backupCodes hcodes fun _ => rfl
      refine ⟨hkeeps, hsound, trivial, ?_, ?_⟩
      · intro e he
        obtain rfl := Option.some.inj he
        have hstored : (s.users.findUnique userId).bind (·.mfaSecret) = verified :=
          of_decide_eq_true hfinds
        exact hstored
      · intro e e' he _
        obtain rfl := Option.some.inj he
        cases e' <;> exact trivial
  | disabling userId =>
      exact .silent (.updateUser (Nat.le_refl _) fun _ _ _ hh => nomatch hh)
        (hcodes.updateUser (Nat.le_refl _) fun _ _ => ⟨List.nodup_nil, nofun⟩) trivial rfl
  | regenerating userId backupCodes => exact lawful_regenerating hcodes
  | regenerated userId first backupCodes =>
      refine ⟨Keeps.refl s, hcodes, trivial, ?_, ?_⟩
      · intro e he
        obtain rfl := Option.some.inj he
        exact hphase
      · intro e e' he _
        obtain rfl := Option.some.inj he
        cases e' <;> exact trivial
  | requestingReset email rawToken requestedIp =>
      exact .read hcodes (.of_isPlain (isPlain_requestReset email rawToken requestedIp))
  | issuingToken userId rawToken requestedIp =>
      have hfree : s.isResetting userId = false := by
        simpa only [findsAsRead, Bool.not_eq_true'] using hfinds
      dsimp only [perform]
      split
      · exact .read hcodes trivial
      · exact .silent (.issueToken hfree) hcodes trivial rfl
  | consuming rawToken password => exact .read hcodes (consumeResetToken_sound rawToken password)
  | changing token userId password => exact lawful_changing hcodes hphase hfinds
  | revoking userId =>
      refine .silent (.updateSessions fun r => ⟨rfl, fun _ => rfl⟩) hcodes
        ⟨hphase, Nat.le_refl _, fun i r' _ hr' huser => ?_⟩ rfl
      have hrow := (Table.findUnique_updateMany _ _ _ _).symm.trans hr'
      obtain ⟨r, -, rfl⟩ := Option.map_eq_some_iff.1 hrow
      by_cases hcond : (r.userId = userId && r.revokedAt.isNone) = true
      · rw [if_pos hcond]
        rfl
      · rw [if_neg hcond] at huser ⊢
        rw [Bool.and_eq_true, decide_eq_true_eq, Option.isNone_iff_eq_none] at hcond
        exact Option.isSome_iff_ne_none.2 fun hnone => hcond ⟨huser, hnone⟩
  | revoked userId =>
      refine ⟨Keeps.refl s, hcodes, trivial, ?_, ?_⟩
      · intro e he
        obtain rfl := Option.some.inj he
        exact hphase
      · intro e e' he _
        obtain rfl := Option.some.inj he
        cases e' <;> exact trivial
  | answered answer => exact .read hcodes trivial

/-! ## Steps -/

theorem Inv.of_fresh (h : s.IsFresh) : s.Inv where
  codes := h.codes
  ordered := h.journal ▸ List.Pairwise.nil
  events := fun e he => by
    rw [h.journal] at he
    cases he
  phases := fun p hp => by
    rw [h.requests] at hp
    cases hp

theorem Inv.keep (h : s.Inv) (hkeeps : Keeps s s') (hcodes : s'.CodesSound)
    (hrequests : s'.requests = s.requests) (hjournal : s'.journal = s.journal) : s'.Inv where
  codes := hcodes
  ordered := hjournal ▸ h.ordered
  events := fun e he => (h.events e (hjournal ▸ he)).keep hkeeps
  phases := fun p hp => (h.phases p (hrequests ▸ hp)).keep hkeeps (hrequests ▸ hp)

theorem Keeps.relabel (h : Keeps s s') (requests : List CredentialPhase)
    (journal : List CredentialEvent) :
    Keeps s { s' with requests := requests, journal := journal } :=
  ⟨h.now, h.nextSalt, h.codes, h.tokens, h.sessions⟩

theorem PhaseSound.relabel (h : s.PhaseSound p) (requests : List CredentialPhase)
    (journal : List CredentialEvent) :
    PhaseSound { s with requests := requests, journal := journal } p := by
  cases p <;> exact h

theorem Inv.submit (h : s.Inv) (request : CredentialRequest) : (s.submit request).Inv := by
  have hkeeps : Keeps s (s.submit request) := (Keeps.refl s).relabel _ _
  refine ⟨h.codes, h.ordered, fun e he => (h.events e he).keep hkeeps, fun p hp => ?_⟩
  rcases List.mem_append.1 hp with hold | hnew
  · exact (h.phases p hold).keep hkeeps hold
  · rw [List.mem_singleton.1 hnew]
    exact .of_isPlain (isPlain_start request)

theorem Inv.advance (h : s.Inv) {k : Nat}
    (hfinds : s.requests[k]?.all s.findsAsRead = true) : (s.advance crypto k).Inv := by
  unfold CredentialServer.advance
  split
  · exact h
  · rename_i p hp
    have hmem := List.mem_of_getElem? hp
    rw [hp, Option.all_some] at hfinds
    have hlawful : Lawful s (s.perform crypto p) :=
      perform_lawful h.codes (h.phases p hmem) hfinds
    refine ⟨hlawful.codes, ?_, fun e he => ?_, fun q hq => ?_⟩
    · refine List.pairwise_append.2 ⟨h.ordered, ?_, fun e' he' e he => ?_⟩
      · cases (s.perform crypto p).event <;> simp
      · exact hlawful.follows e e' (Option.mem_toList.1 he) (h.events e' he')
    · rcases List.mem_append.1 he with hold | hnew
      · exact (h.events e hold).keep (hlawful.keeps.relabel _ _)
      · exact (hlawful.event e (Option.mem_toList.1 hnew)).keep ((Keeps.refl _).relabel _ _)
    · rcases List.mem_or_eq_of_mem_set hq with hold | rfl
      · exact (h.phases q hold).keep (hlawful.keeps.relabel _ _) hold
      · exact hlawful.phase.relabel _ _

theorem Keeps.tick (duration : Nat) : Keeps s { s with now := s.now + duration } :=
  { Keeps.refl s with now := Nat.le_add_right _ _ }

theorem Keeps.changeSessions {change : SessionChange}
    (horderly : s.isOrderly (.session change) = true) :
    Keeps s { s with sessions := s.changeSessions change } := by
  cases change with
  | openOther session =>
      have hfree : s.hasRevoked session.userId = false := by
        simpa only [isOrderly, Bool.not_eq_true'] using horderly
      dsimp only [CredentialServer.changeSessions]
      cases hopened : s.openSession session with
      | none => exact Keeps.refl s
      | some sessions => exact .openSession hfree hopened
  | claim sessionId => exact .updateSessions fun r => ⟨rfl, id⟩
  | revoke sessionId => exact .updateSessions fun r => ⟨rfl, fun _ => rfl⟩
  | revokeFamily familyId => exact .updateSessions fun r => ⟨rfl, fun _ => rfl⟩
  | revokeAll userId => exact .updateSessions fun r => ⟨rfl, fun _ => rfl⟩

theorem Inv.step (h : s.Inv) {a : CredentialStep} (horderly : s.isOrderly a = true) :
    (s.step crypto a).Inv := by
  cases a with
  | submit request => exact h.submit request
  | advance k => exact h.advance horderly
  | register email passwordHash =>
      refine h.keep (.of_users (Nat.le_refl _) fun i user' c huser' hc => ?_)
        (h.codes.create ⟨List.nodup_nil, nofun⟩) rfl rfl
      rcases Table.of_findUnique_create huser' with ⟨-, rfl⟩ | ⟨-, huser'⟩
      · cases hc
      · exact Or.inr ⟨user', huser', hc⟩
  | rehash userId passwordHash =>
      exact h.keep (.updateUser (Nat.le_refl _) fun _ _ _ hh => Or.inr hh)
        (h.codes.updateUser (Nat.le_refl _) fun user huser => h.codes userId user huser) rfl rfl
  | setSuspended userId isSuspended =>
      exact h.keep (.updateUser (Nat.le_refl _) fun _ _ _ hh => Or.inr hh)
        (h.codes.updateUser (Nat.le_refl _) fun user huser => h.codes userId user huser) rfl rfl
  | session change => exact h.keep (.changeSessions horderly) h.codes rfl rfl
  | tick duration => exact h.keep (.tick duration) h.codes rfl rfl

theorem Inv.oneTime (h : s.Inv) : s.OneTime where
  ordered := h.ordered
  usedUp := fun _ _ user c he huser hc => (h.events _ he).2 user c huser hc
  ended := fun _ _ _ i r he hr huser hi => (h.events _ he).2.2 i r hi hr huser
  verified := fun _ _ _ he => h.events _ he

/-- In an orderly run one-time credentials are one-time, whatever the order of the statements. -/
theorem oneTime_of_run (hfresh : s.IsFresh) {as : List CredentialStep}
    (horderly : RunMeets (step crypto) (fun s a => s.isOrderly a = true) s as) :
    (run (step crypto) s as).OneTime :=
  (run_invariant (fun _ _ h ha => h.step ha) (Inv.of_fresh hfresh) horderly).oneTime

/-! ## An account -/

def plainCrypto : Cryptography where
  check := fun _ secret code => code = "t" ++ secret
  digest := fun salt text => String.ofList (List.replicate salt '.') ++ text
  hashPassword := fun password => "h" ++ password
  comparePassword := fun password hash => hash = "h" ++ password
  hashToken := fun token => "s" ++ token
  toUpperCase := fun text => String.ofList (upper text)

def signIn (sessionId : Id) (refreshToken : String) : SignInCall :=
  { userId := 0, sessionId := sessionId, refreshToken := refreshToken, expiresAt := 604800000 }

def settingUpAccount : List CredentialStep :=
  [.register "sara@example.et" "hsesame", .session (.openOther (sessionOf plainCrypto (signIn 7 "r7"))),
    .submit (.mfa 7 (.setup "JBSW")), .advance 0, .advance 0, .advance 0,
    .submit (.mfa 7 (.verifySetup "tJBSW" "sesame" ["ABCDE-FGHJK", "LMNPQ-RSTUV"])),
    .advance 1, .advance 1]

def enrolling : List CredentialStep :=
  settingUpAccount ++ [.advance 1]

def usingEach : List CredentialStep :=
  [.submit (.verifyLogin (some 0) "abcde-fghjk" (signIn 8 "r8")), .advance 2, .advance 2, .advance 2,
    .submit (.mfa 8 (.regenerate "sesame" "tJBSW" ["VWXYZ-23456"])), .advance 3, .advance 3,
    .advance 3, .advance 3,
    .submit (.forgotPassword "sara@example.et" "k1" none), .advance 4, .advance 4,
    .submit (.resetPassword "k1" "open sesame"), .advance 5, .advance 5, .advance 5, .advance 5]

theorem usingEach_oneTime :
    (run (step plainCrypto) {} (enrolling ++ usingEach)).journal =
        [.enabled 0 (some "JBSW") (some "JBSW"), .accepted 0 0, .regenerated 0 2, .changed 0 0,
          .reset 0 1 2] ∧
      (run (step plainCrypto) {} (enrolling ++ usingEach)).OneTime :=
  ⟨by decide +kernel,
    oneTime_of_run ⟨rfl, rfl, Table.all_empty _⟩ (by decide +kernel)⟩

/-! ## Overlapping requests -/

def oneCodeTwice : List CredentialStep :=
  [.submit (.verifyLogin (some 0) "ABCDE-FGHJK" (signIn 8 "r8")),
    .submit (.verifyLogin (some 0) "ABCDE-FGHJK" (signIn 9 "r9")), .advance 2, .advance 3,
    .advance 2, .advance 3, .advance 2, .advance 3]

def oldCodeLater : List CredentialStep :=
  [.submit (.verifyLogin (some 0) "ABCDE-FGHJK" (signIn 8 "r8")), .advance 2,
    .submit (.mfa 7 (.regenerate "sesame" "tJBSW" ["VWXYZ-23456"])), .advance 3, .advance 3,
    .advance 3, .advance 3, .advance 2, .advance 2]

/-- Another setup writes its secret between the check of a code and the enabling. -/
def otherSecret : List CredentialStep :=
  [.submit (.mfa 7 (.setup "KRUG")), .advance 2, .advance 2, .advance 2, .advance 1]

def oneTokenTwice : List CredentialStep :=
  [.submit (.forgotPassword "sara@example.et" "k1" none), .advance 2, .advance 2,
    .submit (.resetPassword "k1" "open sesame"), .submit (.resetPassword "k1" "close sesame"),
    .advance 3, .advance 4, .advance 3, .advance 4]

def secondToken : List CredentialStep :=
  [.submit (.forgotPassword "sara@example.et" "k1" none), .advance 2, .advance 2,
    .submit (.forgotPassword "sara@example.et" "k2" none), .advance 3, .advance 3,
    .submit (.resetPassword "k1" "open sesame"), .advance 4, .advance 4, .advance 4, .advance 4,
    .submit (.resetPassword "k2" "close sesame"), .advance 5, .advance 5]

theorem credentials_reused :
    ¬ (run (step plainCrypto) {} (enrolling ++ oneCodeTwice)).OneTime ∧
      (run (step plainCrypto) {} (enrolling ++ oneCodeTwice)).sessions.size = 3 ∧
      ¬ (run (step plainCrypto) {} (enrolling ++ oldCodeLater)).OneTime ∧
      ¬ (run (step plainCrypto) {} (settingUpAccount ++ otherSecret)).OneTime ∧
      ¬ (run (step plainCrypto) {} (enrolling ++ oneTokenTwice)).OneTime ∧
      ¬ (run (step plainCrypto) {} (enrolling ++ secondToken)).OneTime := by
  refine ⟨fun h => absurd h.ordered ?_, ?_, fun h => absurd h.ordered ?_,
    fun h => absurd (h.verified 0 (some "KRUG") (some "JBSW") ?_) ?_,
    fun h => absurd h.ordered ?_, fun h => absurd h.ordered ?_⟩
  all_goals decide +kernel

end CredentialServer

end MarketBridge
