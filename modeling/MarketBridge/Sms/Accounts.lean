import MarketBridge.Relational.Transaction
import MarketBridge.Sms.Inbound

/-!
# The account of a sender

A number leads to one account as long as nobody stores a number that normalizes to that of
somebody else, and a code to one draft as long as the drafts of a seller have codes of their
own.  The database may give the users in another order at any time.
-/

namespace MarketBridge

open Relational

/-! ## Steps -/

inductive SmsStep where
  | register (phone : Option String) (roles : List Role)
  | updatePreferences (userId : Id) (body : Preferences)
  | inbound (sender text newId : String)
  /-- The app creates a listing, or edits one. -/
  | edit (listingId : String) (row : ProduceListing)
  | reorder (users : List SmsUser)
  | tick (duration : Nat)

def SmsStep.actor : SmsStep -> Option Id
  | .updatePreferences userId _ => some userId
  | _ => none

/-- A listing that is edited stays with its seller and in its category. -/
def editListing (listings : List (String × ProduceListing)) (id : String) (row : ProduceListing) :
    List (String × ProduceListing) :=
  match listings.find? fun e => e.1 = id with
  | none => (id, row) :: listings
  | some e =>
      setListing listings id
        { row with
          sellerId := e.2.sellerId
          category := e.2.category }

namespace SmsServer

section

variable (toUpperCase : String -> String) (pickupWindowMs : Nat)

def step (s : SmsServer) : SmsStep -> SmsServer
  | .register phone roles => commit (register s phone roles) s
  | .updatePreferences userId body => commit (MarketBridge.updatePreferences s userId body) s
  | .inbound sender text newId =>
      commit ((handleInboundSms toUpperCase pickupWindowMs s sender text newId).map Prod.snd) s
  | .edit listingId row => { s with listings := editListing s.listings listingId row }
  | .reorder users => if users.isPerm s.users then { s with users := users } else s
  | .tick duration => { s with now := s.now + duration }

def account (s : SmsServer) (sender : String) : Option SmsUser :=
  (normalizeEthiopianPhone sender).bind (findUserByPhone s.users)

/-! ## What is promised -/

/-- The message is `ACTIVATE code`. -/
def IsActivation (text code : String) : Prop :=
  toUpperCase ((words text).headD "") = "ACTIVATE" ∧
    toUpperCase ((words text).tail.headD "") = code ∧ code ≠ ""

/--
What a step does for the accounts: a message writes listings of the account with its number,
nobody else's step moves the account of a number, and `ACTIVATE` publishes the draft whose
confirmation had the code and nothing else.
-/
structure OwnAccount (s : SmsServer) (a : SmsStep) : Prop where
  own : forall sender text newId, a = .inbound sender text newId ->
    forall e, e ∈ (s.step toUpperCase pickupWindowMs a).listings -> e ∉ s.listings ->
      exists u, u ∈ s.users ∧ u.id = e.2.sellerId ∧ u.mobile.isSome = true ∧
        u.mobile = normalizeEthiopianPhone sender
  kept : forall sender u, s.account sender = some u -> a.actor ≠ some u.id ->
    exists u', (s.step toUpperCase pickupWindowMs a).account sender = some u' ∧ u'.id = u.id
  published : forall sender text newId code u k row, a = .inbound sender text newId ->
    IsActivation toUpperCase text code -> s.account sender = some u -> k ∈ s.confirmations ->
      k.code = code -> (k.listingId, row) ∈ s.listings -> row.isDraftOf u.id = true ->
        (s.step toUpperCase pickupWindowMs a).listings =
          setListing s.listings k.listingId (row.activated pickupWindowMs s.now)
  named : forall sender text newId code, a = .inbound sender text newId ->
    IsActivation toUpperCase text code ->
      forall e, e ∈ (s.step toUpperCase pickupWindowMs a).listings -> e ∉ s.listings ->
        shortCode toUpperCase e.1 = code

/-! ## Unambiguous steps -/

/--
The number that a user stores is nobody else's, and at most 10000 users have a phone number
with it.
-/
def storesFresh (s : SmsServer) (self : Id) (phone : Option String) : Bool :=
  phone.isNone ||
    ((phone.bind normalizeEthiopianPhone).all fun mobile =>
      s.users.all fun w => w.id = self || w.mobile ≠ some mobile) &&
    (s.users.countP fun w => w.id ≠ self && w.phone.isSome) < 10000

/-- A draft of this seller can have this id: its code is no other draft's, and it is found. -/
def isFreshDraft (s : SmsServer) (id : String) (userId : Id) : Bool :=
  (s.listings.all fun e => e.1 = id || !e.2.isDraftOf userId ||
      shortCode toUpperCase e.1 ≠ shortCode toUpperCase id) &&
    (s.listings.countP fun e => e.1 ≠ id && e.2.isDraftOf userId) < 200

/-- Numbers and codes stay without ambiguity. -/
def isUnambiguous (s : SmsServer) : SmsStep -> Bool
  | .register phone _ =>
      match registeredPhone phone with
      | .ok phone => s.storesFresh s.nextUserId phone
      | .error _ => true
  | .updatePreferences userId body =>
      body.phone.all fun phone => s.storesFresh userId (storedPhone phone)
  | .inbound sender text newId =>
      (s.account sender).all fun u =>
        toUpperCase ((words text).headD "") ≠ "LIST" || s.isFreshDraft toUpperCase newId u.id
  | .edit listingId row =>
      match s.listings.find? fun e => e.1 = listingId with
      | none => row.status ≠ .draft || s.isFreshDraft toUpperCase listingId row.sellerId
      | some e => row.status ≠ .draft || s.isFreshDraft toUpperCase listingId e.2.sellerId
  | _ => true

end

/-! ## Users -/

/-- Users have ids of their own, and their numbers lead to one of them each. -/
structure UsersSound (s : SmsServer) : Prop where
  ids : (s.users.map SmsUser.id).Nodup
  below : forall u, u ∈ s.users -> u.id < s.nextUserId
  single : forall u w mobile, u ∈ s.users -> w ∈ s.users -> u.mobile = some mobile ->
    w.mobile = some mobile -> u.id = w.id
  scanned : (s.users.countP fun w => w.phone.isSome) ≤ 10000

theorem mobile_phone {u : SmsUser} {mobile : String} (h : u.mobile = some mobile) :
    u.phone.isSome = true := by
  obtain ⟨phone, hphone, -⟩ := Option.bind_eq_some_iff.1 h
  rw [hphone]
  rfl

theorem findUserByPhone_eq_some {users : List SmsUser} {phone : String} {u : SmsUser}
    (h : findUserByPhone users phone = some u) :
    u ∈ users ∧ u.mobile = some phone := by
  have hmem := List.mem_of_find?_eq_some h
  have hmobile := List.find?_some h
  exact ⟨List.mem_of_mem_filter (List.mem_of_mem_take hmem), of_decide_eq_true hmobile⟩

namespace UsersSound

variable {s s' : SmsServer}

theorem eq_of_id (h : s.UsersSound) {u w : SmsUser} (hu : u ∈ s.users) (hw : w ∈ s.users)
    (hid : u.id = w.id) : u = w :=
  List.inj_on_of_nodup_map h.ids hu hw hid

theorem findUserByPhone_iff (h : s.UsersSound) {phone : String} {u : SmsUser} :
    findUserByPhone s.users phone = some u ↔ u ∈ s.users ∧ u.mobile = some phone := by
  constructor
  · exact findUserByPhone_eq_some
  · rintro ⟨hu, hmobile⟩
    have hall : (s.users.filter fun w => w.phone.isSome).take 10000 =
        s.users.filter fun w => w.phone.isSome :=
      List.take_of_length_le (List.countP_eq_length_filter ▸ h.scanned)
    have hfound : (findUserByPhone s.users phone).isSome = true := by
      rw [findUserByPhone, hall, List.find?_isSome]
      exact ⟨u, List.mem_filter.2 ⟨hu, mobile_phone hmobile⟩, decide_eq_true hmobile⟩
    obtain ⟨w, hw⟩ := Option.isSome_iff_exists.1 hfound
    obtain ⟨hmem, hsame⟩ := findUserByPhone_eq_some hw
    rw [hw, h.eq_of_id hmem hu (h.single w u phone hmem hu hsame hmobile)]

theorem account_iff (h : s.UsersSound) {sender : String} {u : SmsUser} :
    s.account sender = some u ↔
      u ∈ s.users ∧ u.mobile.isSome = true ∧ u.mobile = normalizeEthiopianPhone sender := by
  unfold account
  cases hsender : normalizeEthiopianPhone sender with
  | none =>
      refine ⟨nofun, ?_⟩
      rintro ⟨-, hsome, hmobile⟩
      rw [hmobile] at hsome
      cases hsome
  | some phone =>
      rw [Option.bind_some, h.findUserByPhone_iff]
      constructor
      · rintro ⟨hu, hmobile⟩
        exact ⟨hu, by rw [hmobile]; rfl, hmobile⟩
      · rintro ⟨hu, -, hmobile⟩
        exact ⟨hu, hmobile⟩

theorem account_kept (h : s.UsersSound) (h' : s'.UsersSound) {sender : String} {u : SmsUser}
    (haccount : s.account sender = some u)
    (hkept : u ∈ s.users -> u ∈ s'.users) :
    s'.account sender = some u := by
  obtain ⟨hu, hmobile⟩ := h.account_iff.1 haccount
  exact h'.account_iff.2 ⟨hkept hu, hmobile⟩

theorem of_users (h : s.UsersSound) (husers : s'.users = s.users)
    (hnext : s'.nextUserId = s.nextUserId) : s'.UsersSound := by
  refine ⟨?_, ?_, ?_, ?_⟩
  · rw [husers]
    exact h.ids
  · rw [husers, hnext]
    exact h.below
  · rw [husers]
    exact h.single
  · rw [husers]
    exact h.scanned

theorem of_perm (h : s.UsersSound) {users : List SmsUser} (hperm : users.Perm s.users) :
    ({ s with users := users } : SmsServer).UsersSound :=
  ⟨(hperm.map SmsUser.id).nodup_iff.2 h.ids, fun u hu => h.below u (hperm.mem_iff.1 hu),
    fun u w mobile hu hw => h.single u w mobile (hperm.mem_iff.1 hu) (hperm.mem_iff.1 hw),
    hperm.countP_eq _ ▸ h.scanned⟩

theorem register (h : s.UsersSound) {phone : Option String} {roles : List Role}
    (hfresh : s.storesFresh s.nextUserId phone = true) :
    ({ s with
        nextUserId := s.nextUserId + 1
        users := s.users ++
          [{ id := s.nextUserId
             phone := phone
             roles := roles }] } : SmsServer).UsersSound := by
  have hnew : forall w, w ∈ s.users -> w.id ≠ s.nextUserId :=
    fun w hw => Nat.ne_of_lt (h.below w hw)
  have hnobody : forall w mobile, w ∈ s.users -> phone.bind normalizeEthiopianPhone = some mobile ->
      w.mobile ≠ some mobile := by
    intro w mobile hw hmobile
    cases phone with
    | none => cases hmobile
    | some phone =>
        simp only [storesFresh, Option.isNone_some, Bool.false_or, Bool.and_eq_true] at hfresh
        have hall := hfresh.1
        rw [hmobile, Option.all_some, List.all_eq_true] at hall
        simpa [hnew w hw] using hall w hw
  refine ⟨?_, ?_, ?_, ?_⟩
  · rw [List.map_append, List.nodup_append]
    refine ⟨h.ids, List.nodup_singleton _, ?_⟩
    rintro id hid id' hid' rfl
    obtain ⟨w, hw, rfl⟩ := List.mem_map.1 hid
    exact hnew w hw (List.mem_singleton.1 hid')
  · intro w hw
    rcases List.mem_append.1 hw with hw | hw
    · exact Nat.lt_succ_of_lt (h.below w hw)
    · rw [List.mem_singleton.1 hw]
      exact Nat.lt_succ_self _
  · intro u w mobile hu hw hu_mobile hw_mobile
    rcases List.mem_append.1 hu with hu | hu
    · rcases List.mem_append.1 hw with hw | hw
      · exact h.single u w mobile hu hw hu_mobile hw_mobile
      · rw [List.mem_singleton.1 hw] at hw_mobile
        exact absurd hu_mobile (hnobody u mobile hu hw_mobile)
    · rw [List.mem_singleton.1 hu] at hu_mobile ⊢
      rcases List.mem_append.1 hw with hw | hw
      · exact absurd hw_mobile (hnobody w mobile hw hu_mobile)
      · rw [List.mem_singleton.1 hw]
  · rw [List.countP_append, List.countP_singleton]
    cases phone with
    | none => exact h.scanned
    | some phone =>
        simp only [storesFresh, Option.isNone_some, Bool.false_or, Bool.and_eq_true,
          decide_eq_true_eq] at hfresh
        have hothers : (s.users.countP fun w => w.phone.isSome) =
            s.users.countP fun w => w.id ≠ s.nextUserId && w.phone.isSome := by
          refine List.countP_congr fun w hw => ?_
          simp [hnew w hw]
        rw [hothers]
        simp only [Option.isSome_some, if_true]
        exact hfresh.2

theorem updatePreferences (h : s.UsersSound) {userId : Id} {body : Preferences}
    (hfresh : (body.phone.all fun phone => s.storesFresh userId (storedPhone phone)) = true) :
    ({ s with users := updateKey SmsUser.id userId (·.updated body) s.users } :
      SmsServer).UsersSound := by
  -- whoever has a number afterwards has it as before, or has just stored it
  have hcases : forall u mobile, u ∈ updateKey SmsUser.id userId (·.updated body) s.users ->
      u.mobile = some mobile ->
      (exists w, w ∈ s.users ∧ w.id = u.id ∧ w.mobile = some mobile) ∨
        u.id = userId ∧ forall w, w ∈ s.users -> w.id ≠ userId -> w.mobile ≠ some mobile := by
    intro u mobile hu hmobile
    rcases mem_updateKey.1 hu with ⟨hu, -⟩ | ⟨w, hw, hid, rfl⟩
    · exact Or.inl ⟨u, hu, rfl, hmobile⟩
    · cases hphone : body.phone with
      | none =>
          refine Or.inl ⟨w, hw, rfl, ?_⟩
          simpa [SmsUser.mobile, SmsUser.updated, hphone] using hmobile
      | some phone =>
          refine Or.inr ⟨hid, fun v hv hother => ?_⟩
          have hstored : (storedPhone phone).bind normalizeEthiopianPhone = some mobile := by
            simpa [SmsUser.mobile, SmsUser.updated, hphone] using hmobile
          rw [hphone, Option.all_some] at hfresh
          have hsome : (storedPhone phone).isNone = false := by
            obtain ⟨p, hp, -⟩ := Option.bind_eq_some_iff.1 hstored
            rw [hp]
            rfl
          simp only [storesFresh, hsome, Bool.false_or, Bool.and_eq_true] at hfresh
          have hall := hfresh.1
          rw [hstored, Option.all_some, List.all_eq_true] at hall
          simpa [hother] using hall v hv
  refine ⟨?_, ?_, ?_, ?_⟩
  · have hids := map_updateKey SmsUser.id userId (·.updated body) (fun _ hu => hu) s.users
    exact hids.symm ▸ h.ids
  · intro u hu
    rcases mem_updateKey.1 hu with ⟨hu, -⟩ | ⟨w, hw, -, rfl⟩
    · exact h.below u hu
    · exact h.below w hw
  · intro u w mobile hu hw hu_mobile hw_mobile
    rcases hcases u mobile hu hu_mobile with ⟨u₀, hu₀, hid, hmobile⟩ | ⟨hself, hnobody⟩
    · rcases hcases w mobile hw hw_mobile with ⟨w₀, hw₀, hid', hmobile'⟩ | ⟨hself', hnobody'⟩
      · exact hid.symm.trans ((h.single u₀ w₀ mobile hu₀ hw₀ hmobile hmobile').trans hid')
      · by_contra hne
        exact hnobody' u₀ hu₀ (by rw [hid, ← hself']; exact hne) hmobile
    · rcases hcases w mobile hw hw_mobile with ⟨w₀, hw₀, hid', hmobile'⟩ | ⟨hself', -⟩
      · by_contra hne
        exact hnobody w₀ hw₀ (by rw [hid', ← hself]; exact Ne.symm hne) hmobile'
      · exact hself.trans hself'.symm
  · by_cases hstores : (body.phone.any fun phone => (storedPhone phone).isSome) = true
    · obtain ⟨phone, hphone, hsome⟩ := (Option.any_eq_true _ _).1 hstores
      rw [hphone, Option.all_some] at hfresh
      simp only [storesFresh, Option.isNone_eq_false_iff.2 hsome, Bool.false_or, Bool.and_eq_true,
        decide_eq_true_eq] at hfresh
      exact (countP_updateKey_le h.ids).trans hfresh.2
    · refine (countP_updateKey_le_of s.users fun u _ _ hu => ?_).trans h.scanned
      cases hphone : body.phone with
      | none => simpa [SmsUser.updated, hphone] using hu
      | some phone =>
          have hstored : (storedPhone phone).isSome = true := by
            simpa [SmsUser.updated, hphone] using hu
          rw [hphone, Option.any_some] at hstores
          exact absurd hstored hstores

end UsersSound

/-! ## Drafts -/

/-- The drafts of a seller have codes of their own, and all of them are looked at. -/
structure DraftsSound (toUpperCase : String -> String) (s : SmsServer) : Prop where
  ids : (s.listings.map Prod.fst).Nodup
  codes : forall userId e f, e ∈ s.listings -> f ∈ s.listings -> e.2.isDraftOf userId = true ->
    f.2.isDraftOf userId = true -> shortCode toUpperCase e.1 = shortCode toUpperCase f.1 -> e.1 = f.1
  found : forall userId, (s.listings.countP fun e => e.2.isDraftOf userId) ≤ 200
  confirmed : forall k, k ∈ s.confirmations -> k.code = shortCode toUpperCase k.listingId

namespace DraftsSound

variable {toUpperCase : String -> String} {s s' : SmsServer}

variable {id : String} {userId : Id} {row : ProduceListing}

theorem isFreshDraft_code (hfresh : s.isFreshDraft toUpperCase id userId = true)
    {e : String × ProduceListing} (he : e ∈ s.listings) (hother : e.1 ≠ id)
    (hdraft : e.2.isDraftOf userId = true) :
    shortCode toUpperCase e.1 ≠ shortCode toUpperCase id := by
  have hall := List.all_eq_true.1 (Bool.and_eq_true_iff.1 hfresh).1 e he
  simpa [hother, hdraft] using hall

theorem isFreshDraft_found (hfresh : s.isFreshDraft toUpperCase id userId = true) :
    (s.listings.countP fun e => e.1 ≠ id && e.2.isDraftOf userId) < 200 :=
  of_decide_eq_true (Bool.and_eq_true_iff.1 hfresh).2

theorem of_listings (h : DraftsSound toUpperCase s) (hlistings : s'.listings = s.listings)
    (hconfirmations : s'.confirmations = s.confirmations) : DraftsSound toUpperCase s' := by
  refine ⟨?_, ?_, ?_, ?_⟩
  · rw [hlistings]
    exact h.ids
  · rw [hlistings]
    exact h.codes
  · rw [hlistings]
    exact h.found
  · rw [hconfirmations]
    exact h.confirmed

/-- A new listing comes first. -/
theorem cons (h : DraftsSound toUpperCase s) {id : String} {row : ProduceListing}
    (hnew : id ∉ s.listings.map Prod.fst)
    (hfresh : forall userId, row.isDraftOf userId = true ->
      s.isFreshDraft toUpperCase id userId = true)
    (hlistings : s'.listings = (id, row) :: s.listings)
    (hconfirmed : forall k, k ∈ s'.confirmations -> k.code = shortCode toUpperCase k.listingId) :
    DraftsSound toUpperCase s' := by
  have hother : forall e, e ∈ s.listings -> e.1 ≠ id := by
    rintro e he rfl
    exact hnew (List.mem_map_of_mem he)
  refine ⟨?_, ?_, ?_, hconfirmed⟩
  · rw [hlistings, List.map_cons, List.nodup_cons]
    exact ⟨hnew, h.ids⟩
  · intro userId e f he hf hdraft hdraft' hcode
    rw [hlistings] at he hf
    rcases List.mem_cons.1 he with rfl | he
    · rcases List.mem_cons.1 hf with rfl | hf
      · rfl
      · exact absurd hcode.symm
          (isFreshDraft_code (hfresh userId hdraft) hf (hother f hf) hdraft')
    · rcases List.mem_cons.1 hf with rfl | hf
      · exact absurd hcode (isFreshDraft_code (hfresh userId hdraft') he (hother e he) hdraft)
      · exact h.codes userId e f he hf hdraft hdraft' hcode
  · intro userId
    rw [hlistings, List.countP_cons]
    split
    · rename_i hdraft
      have hothers : (s.listings.countP fun e => e.2.isDraftOf userId) =
          s.listings.countP fun e => e.1 ≠ id && e.2.isDraftOf userId := by
        refine List.countP_congr fun e he => ?_
        simp [hother e he]
      rw [hothers]
      exact isFreshDraft_found (hfresh userId hdraft)
    · exact h.found userId

theorem set (h : DraftsSound toUpperCase s) {id : String} {row : ProduceListing}
    (hfresh : forall userId, row.isDraftOf userId = true ->
      s.isFreshDraft toUpperCase id userId = true)
    (hlistings : s'.listings = setListing s.listings id row)
    (hconfirmations : s'.confirmations = s.confirmations) :
    DraftsSound toUpperCase s' := by
  have hcases : forall e, e ∈ s'.listings -> e ∈ s.listings ∧ e.1 ≠ id ∨ e = (id, row) := by
    intro e he
    rw [hlistings] at he
    rcases mem_updateKey.1 he with ⟨he, hother⟩ | ⟨_, _, _, hrow⟩
    · exact Or.inl ⟨he, hother⟩
    · exact Or.inr hrow.symm
  refine ⟨?_, ?_, ?_, ?_⟩
  · have hids := map_updateKey Prod.fst id (fun _ => (id, row)) (fun _ _ => rfl) s.listings
    rw [hlistings]
    exact hids.symm ▸ h.ids
  · intro userId e f he hf hdraft hdraft' hcode
    rcases hcases e he with ⟨he, hother⟩ | rfl
    · rcases hcases f hf with ⟨hf, -⟩ | rfl
      · exact h.codes userId e f he hf hdraft hdraft' hcode
      · exact absurd hcode (isFreshDraft_code (hfresh userId hdraft') he hother hdraft)
    · rcases hcases f hf with ⟨hf, hother⟩ | rfl
      · exact absurd hcode.symm (isFreshDraft_code (hfresh userId hdraft) hf hother hdraft')
      · rfl
  · intro userId
    rw [hlistings]
    by_cases hdraft : row.isDraftOf userId = true
    · exact (countP_updateKey_le h.ids).trans (isFreshDraft_found (hfresh userId hdraft))
    · exact (countP_updateKey_le_of s.listings fun _ _ _ hp => absurd hp hdraft).trans
        (h.found userId)
  · rw [hconfirmations]
    exact h.confirmed

/-- The draft of a code is the one that `ACTIVATE` finds. -/
theorem find?_draftsOf (h : DraftsSound toUpperCase s) (hrow : (id, row) ∈ s.listings)
    (hdraft : row.isDraftOf userId = true) :
    (draftsOf s.listings userId).find? (fun e =>
      shortCode toUpperCase e.1 = shortCode toUpperCase id) = some (id, row) := by
  have hall : draftsOf s.listings userId = s.listings.filter fun e => e.2.isDraftOf userId :=
    List.take_of_length_le (List.countP_eq_length_filter ▸ h.found userId)
  have hmem : (id, row) ∈ draftsOf s.listings userId := by
    rw [hall]
    exact List.mem_filter.2 ⟨hrow, hdraft⟩
  have hfound : ((draftsOf s.listings userId).find? fun e =>
      shortCode toUpperCase e.1 = shortCode toUpperCase id).isSome = true :=
    List.find?_isSome.2 ⟨_, hmem, decide_eq_true rfl⟩
  obtain ⟨e, he⟩ := Option.isSome_iff_exists.1 hfound
  have he_mem := List.mem_of_find?_eq_some he
  have hmatches := List.find?_some he
  have hcode : shortCode toUpperCase e.1 = shortCode toUpperCase id := of_decide_eq_true hmatches
  rw [hall] at he_mem
  obtain ⟨he_row, he_draft⟩ := List.mem_filter.1 he_mem
  have hid : e.1 = id := h.codes userId e (id, row) he_row hrow he_draft hdraft hcode
  rw [he]
  exact congrArg some (List.inj_on_of_nodup_map h.ids he_row hrow hid)

end DraftsSound

/-! ## What a message does -/

section

variable {toUpperCase : String -> String} {pickupWindowMs : Nat} {s : SmsServer}

/-- `LIST` saves a draft of the account. -/
def Saves (toUpperCase : String -> String) (pickupWindowMs : Nat) (s : SmsServer) (user : SmsUser)
    (newId : String) (s' : SmsServer) : Prop :=
  exists command : ListCommand, newId ∉ s.listings.map Prod.fst ∧
    s' = { s with
      listings := (newId, command.draft pickupWindowMs user.id s.now) :: s.listings
      confirmations := s.confirmations ++
        [{ userId := user.id
           listingId := newId
           code := shortCode toUpperCase newId }] }

/-- `ACTIVATE` publishes a draft of the account that has the code. -/
def Publishes (toUpperCase : String -> String) (pickupWindowMs : Nat) (s : SmsServer)
    (user : SmsUser) (code : String) (s' : SmsServer) : Prop :=
  exists id row, (id, row) ∈ s.listings ∧ row.isDraftOf user.id = true ∧
    shortCode toUpperCase id = code ∧
    s' = { s with listings := setListing s.listings id (row.activated pickupWindowMs s.now) }

theorem handleListCommand_eq_ok {user : SmsUser} {tokens : List String} {newId : String}
    {r : SmsReply × SmsServer}
    (h : handleListCommand toUpperCase pickupWindowMs s user tokens newId = .ok r) :
    r.2 = s ∨ Saves toUpperCase pickupWindowMs s user newId r.2 := by
  unfold handleListCommand at h
  split at h
  · exact Or.inl (congrArg Prod.snd (Except.ok.inj h)).symm
  · split at h
    · exact Or.inl (congrArg Prod.snd (Except.ok.inj h)).symm
    · rename_i command _
      simp only [guard_eq_ok] at h
      obtain ⟨hnew, -, h⟩ := h
      exact Or.inr ⟨command, hnew, (congrArg Prod.snd (Except.ok.inj h)).symm⟩

theorem handleActivateCommand_cases (user : SmsUser) (tokens : List String) :
    (handleActivateCommand toUpperCase pickupWindowMs s user tokens).2 = s ∨
      Publishes toUpperCase pickupWindowMs s user (toUpperCase (tokens.headD ""))
        (handleActivateCommand toUpperCase pickupWindowMs s user tokens).2 := by
  unfold handleActivateCommand
  simp only
  split
  · exact Or.inl rfl
  · split
    · exact Or.inl rfl
    · rename_i id row hfound
      have hmem := List.mem_of_mem_take (List.mem_of_find?_eq_some hfound)
      have hcode := List.find?_some hfound
      obtain ⟨hrow, hdraft⟩ := List.mem_filter.1 hmem
      exact Or.inr ⟨id, row, hrow, hdraft, of_decide_eq_true hcode, rfl⟩

/-- A message changes nothing, or it is a command of the account of its sender. -/
theorem handleInboundSms_eq_ok {sender text newId : String} {r : InboundResult × SmsServer}
    (h : handleInboundSms toUpperCase pickupWindowMs s sender text newId = .ok r) :
    r.2 = s ∨ exists u, s.account sender = some u ∧
      (toUpperCase ((words text).headD "") = "LIST" ∧
          Saves toUpperCase pickupWindowMs s u newId r.2 ∨
        toUpperCase ((words text).headD "") = "ACTIVATE" ∧
          Publishes toUpperCase pickupWindowMs s u (toUpperCase ((words text).tail.headD "")) r.2) := by
  unfold handleInboundSms at h
  split at h
  · exact Or.inl (congrArg Prod.snd (Except.ok.inj h)).symm
  · rename_i phone hphone
    simp only at h
    split at h
    · exact Or.inl (congrArg Prod.snd (Except.ok.inj h)).symm
    · rename_i user huser
      have haccount : s.account sender = some user := by
        rw [account, hphone]
        exact huser
      split at h
      · rename_i hlist
        obtain ⟨result, hresult, hr⟩ := bind_eq_ok.1 h
        obtain rfl := Except.ok.inj hr
        rcases handleListCommand_eq_ok hresult with hsame | hsaves
        · exact Or.inl hsame
        · exact Or.inr ⟨user, haccount, Or.inl ⟨hlist, hsaves⟩⟩
      · split at h
        · rename_i hactivate
          obtain rfl := Except.ok.inj h
          rcases handleActivateCommand_cases user (words text).tail with hsame | hpublishes
          · exact Or.inl hsame
          · exact Or.inr ⟨user, haccount, Or.inr ⟨hactivate, hpublishes⟩⟩
        · exact Or.inl (congrArg Prod.snd (Except.ok.inj h)).symm

/-- The step of a message. -/
theorem inbound_cases (sender text newId : String) :
    s.step toUpperCase pickupWindowMs (.inbound sender text newId) = s ∨
      exists u, s.account sender = some u ∧
        (toUpperCase ((words text).headD "") = "LIST" ∧
            Saves toUpperCase pickupWindowMs s u newId
              (s.step toUpperCase pickupWindowMs (.inbound sender text newId)) ∨
          toUpperCase ((words text).headD "") = "ACTIVATE" ∧
            Publishes toUpperCase pickupWindowMs s u (toUpperCase ((words text).tail.headD ""))
              (s.step toUpperCase pickupWindowMs (.inbound sender text newId))) := by
  simp only [step]
  cases hresult : handleInboundSms toUpperCase pickupWindowMs s sender text newId with
  | error e => exact Or.inl rfl
  | ok r => exact handleInboundSms_eq_ok hresult

/-- `ACTIVATE` of a code that one draft has. -/
theorem inbound_activate {sender text newId code id : String} {u : SmsUser} {row : ProduceListing}
    (hactivation : IsActivation toUpperCase text code) (haccount : s.account sender = some u)
    (hfound : (draftsOf s.listings u.id).find? (fun e => shortCode toUpperCase e.1 = code) =
      some (id, row)) :
    s.step toUpperCase pickupWindowMs (.inbound sender text newId) =
      { s with listings := setListing s.listings id (row.activated pickupWindowMs s.now) } := by
  obtain ⟨hcommand, hcode, hne⟩ := hactivation
  obtain ⟨phone, hphone, huser⟩ := Option.bind_eq_some_iff.1 haccount
  have hlist : toUpperCase ((words text).headD "") ≠ "LIST" := by
    rw [hcommand]
    decide
  have hhandled : handleActivateCommand toUpperCase pickupWindowMs s u (words text).tail =
      (.live code (if row.cropType.getD "" = "" then "produce" else row.cropType.getD "")
          (if row.pickupWindowEnd.getD 0 ≤ s.now then some (s.now + pickupWindowMs) else none),
        { s with listings := setListing s.listings id (row.activated pickupWindowMs s.now) }) := by
    unfold handleActivateCommand
    simp only [hcode, if_neg hne, hfound]
  unfold step handleInboundSms
  simp only [hphone, huser, if_neg hlist, if_pos hcommand, hhandled]
  rfl

end

/-! ## Runs -/

structure AccountsSound (toUpperCase : String -> String) (s : SmsServer) : Prop where
  users : s.UsersSound
  drafts : s.DraftsSound toUpperCase

section

variable {toUpperCase : String -> String} {pickupWindowMs : Nat} {s : SmsServer}

theorem isDraftOf_sellerId {row : ProduceListing} {userId : Id} (h : row.isDraftOf userId = true) :
    row.sellerId = userId ∧ row.status = .draft := by
  simp only [ProduceListing.isDraftOf, Bool.and_eq_true, decide_eq_true_eq] at h
  exact h.1

theorem activated_isDraftOf (row : ProduceListing) (now : Nat) (userId : Id) :
    (row.activated pickupWindowMs now).isDraftOf userId = false := by
  have hstatus : (row.activated pickupWindowMs now).status = .active := by
    unfold ProduceListing.activated
    split <;> rfl
  unfold ProduceListing.isDraftOf
  simp [hstatus]

theorem activated_sellerId (row : ProduceListing) (now : Nat) :
    (row.activated pickupWindowMs now).sellerId = row.sellerId := by
  unfold ProduceListing.activated
  split <;> rfl

theorem draft_isDraftOf (command : ListCommand) {sellerId now userId : Nat}
    (h : (command.draft pickupWindowMs sellerId now).isDraftOf userId = true) :
    userId = sellerId :=
  (isDraftOf_sellerId h).1.symm

namespace AccountsSound

theorem edit (h : s.AccountsSound toUpperCase) {listingId : String} {row : ProduceListing}
    (hok : s.isUnambiguous toUpperCase (.edit listingId row) = true) :
    (s.step toUpperCase pickupWindowMs (.edit listingId row)).AccountsSound toUpperCase := by
  refine ⟨h.users.of_users rfl rfl, ?_⟩
  cases hfound : s.listings.find? fun e => e.1 = listingId with
  | none =>
      have hnew : listingId ∉ s.listings.map Prod.fst := by
        intro hmem
        obtain ⟨e, he, hid⟩ := List.mem_map.1 hmem
        exact absurd (decide_eq_true hid) (List.find?_eq_none.1 hfound e he)
      have hlistings : (s.step toUpperCase pickupWindowMs (.edit listingId row)).listings =
          (listingId, row) :: s.listings := by
        simp only [step, editListing, hfound]
      refine h.drafts.cons hnew (fun userId hdraft => ?_) hlistings h.drafts.confirmed
      obtain ⟨hseller, hstatus⟩ := isDraftOf_sellerId hdraft
      simp only [isUnambiguous, hfound, hstatus, ne_eq, not_true_eq_false, decide_false,
        Bool.false_or] at hok
      exact hseller ▸ hok
  | some e =>
      have hlistings : (s.step toUpperCase pickupWindowMs (.edit listingId row)).listings =
          setListing s.listings listingId
            { row with
              sellerId := e.2.sellerId
              category := e.2.category } := by
        simp only [step, editListing, hfound]
      refine h.drafts.set (fun userId hdraft => ?_) hlistings rfl
      obtain ⟨hseller, hstatus⟩ := isDraftOf_sellerId hdraft
      simp only at hseller hstatus
      simp only [isUnambiguous, hfound, hstatus, ne_eq, not_true_eq_false, decide_false,
        Bool.false_or] at hok
      exact hseller ▸ hok

theorem inbound (h : s.AccountsSound toUpperCase) {sender text newId : String}
    (hok : s.isUnambiguous toUpperCase (.inbound sender text newId) = true) :
    (s.step toUpperCase pickupWindowMs (.inbound sender text newId)).AccountsSound toUpperCase := by
  rcases inbound_cases sender text newId with hsame | ⟨u, haccount, hcommand⟩
  · exact hsame.symm ▸ h
  · rcases hcommand with ⟨hlist, command, hnew, hafter⟩ | ⟨-, id, row, hrow, hdraft, -, hafter⟩
    · have hfresh : s.isFreshDraft toUpperCase newId u.id = true := by
        simpa only [isUnambiguous, haccount, Option.all_some, hlist, ne_eq, not_true_eq_false,
          decide_false, Bool.false_or] using hok
      refine ⟨h.users.of_users (by rw [hafter]) (by rw [hafter]), ?_⟩
      refine h.drafts.cons hnew (fun userId hdraft => ?_) (by rw [hafter]) ?_
      · exact (draft_isDraftOf command hdraft) ▸ hfresh
      · intro k hk
        rw [hafter] at hk
        rcases List.mem_append.1 hk with hk | hk
        · exact h.drafts.confirmed k hk
        · rw [List.mem_singleton.1 hk]
    · refine ⟨h.users.of_users (by rw [hafter]) (by rw [hafter]), ?_⟩
      refine h.drafts.set (fun userId hactive => ?_) (by rw [hafter]) (by rw [hafter])
      rw [activated_isDraftOf] at hactive
      cases hactive

theorem step (h : s.AccountsSound toUpperCase) (a : SmsStep)
    (hok : s.isUnambiguous toUpperCase a = true) :
    (s.step toUpperCase pickupWindowMs a).AccountsSound toUpperCase := by
  cases a with
  | register phone roles =>
      simp only [SmsServer.step]
      cases hresult : register s phone roles with
      | error e => exact h
      | ok s' =>
          obtain ⟨stored, hphone, hrest⟩ := bind_eq_ok.1 hresult
          obtain ⟨names, -, hs'⟩ := bind_eq_ok.1 hrest
          obtain rfl := Except.ok.inj hs'
          simp only [isUnambiguous, hphone] at hok
          exact ⟨h.users.register hok, h.drafts.of_listings rfl rfl⟩
  | updatePreferences userId body =>
      simp only [SmsServer.step]
      cases hresult : MarketBridge.updatePreferences s userId body with
      | error e => exact h
      | ok s' =>
          unfold MarketBridge.updatePreferences at hresult
          split at hresult
          · cases hresult
          · split at hresult
            · cases hresult
            · obtain rfl := Except.ok.inj hresult
              exact ⟨h.users.updatePreferences hok, h.drafts.of_listings rfl rfl⟩
  | inbound sender text newId => exact h.inbound hok
  | edit listingId row => exact h.edit hok
  | reorder users =>
      simp only [SmsServer.step]
      split
      · rename_i hperm
        exact ⟨h.users.of_perm (List.isPerm_iff.1 hperm), h.drafts.of_listings rfl rfl⟩
      · exact h
  | tick duration => exact ⟨h.users.of_users rfl rfl, h.drafts.of_listings rfl rfl⟩

end AccountsSound

theorem mem_users_step {u : SmsUser} (hu : u ∈ s.users) {a : SmsStep}
    (hactor : a.actor ≠ some u.id) :
    u ∈ (s.step toUpperCase pickupWindowMs a).users := by
  cases a with
  | register phone roles =>
      simp only [SmsServer.step]
      cases hresult : register s phone roles with
      | error e => exact hu
      | ok s' =>
          obtain ⟨stored, -, hrest⟩ := bind_eq_ok.1 hresult
          obtain ⟨names, -, hs'⟩ := bind_eq_ok.1 hrest
          obtain rfl := Except.ok.inj hs'
          exact List.mem_append_left _ hu
  | updatePreferences userId body =>
      simp only [SmsServer.step]
      cases hresult : MarketBridge.updatePreferences s userId body with
      | error e => exact hu
      | ok s' =>
          unfold MarketBridge.updatePreferences at hresult
          split at hresult
          · cases hresult
          · split at hresult
            · cases hresult
            · obtain rfl := Except.ok.inj hresult
              refine mem_updateKey.2 (Or.inl ⟨hu, fun hid => hactor ?_⟩)
              rw [SmsStep.actor, hid]
  | inbound sender text newId =>
      rcases inbound_cases sender text newId with hsame | ⟨_, _, ⟨_, _, _, hafter⟩ | ⟨_, _, _, _, _, _, hafter⟩⟩
      · rw [hsame]
        exact hu
      · rw [hafter]
        exact hu
      · rw [hafter]
        exact hu
  | edit listingId row => exact hu
  | reorder users =>
      simp only [SmsServer.step]
      split
      · rename_i hperm
        exact (List.isPerm_iff.1 hperm).mem_iff.2 hu
      · exact hu
  | tick duration => exact hu

theorem eq_of_mem_setListing {listings : List (String × ProduceListing)} {id : String}
    {row : ProduceListing} {e : String × ProduceListing} (he : e ∈ setListing listings id row)
    (hnew : e ∉ listings) :
    e = (id, row) := by
  rcases mem_updateKey.1 he with ⟨hold, -⟩ | ⟨_, _, _, hrow⟩
  · exact absurd hold hnew
  · exact hrow.symm

theorem AccountsSound.ownAccount (h : s.AccountsSound toUpperCase) (a : SmsStep)
    (hok : s.isUnambiguous toUpperCase a = true) :
    s.OwnAccount toUpperCase pickupWindowMs a := by
  have hafter : (s.step toUpperCase pickupWindowMs a).AccountsSound toUpperCase := h.step a hok
  refine ⟨?_, ?_, ?_, ?_⟩
  · rintro sender text newId rfl e he hnew
    rcases inbound_cases sender text newId with hsame | ⟨u, haccount, hcommand⟩
    · rw [hsame] at he
      exact absurd he hnew
    · obtain ⟨hu, hmobile, hsender⟩ := h.users.account_iff.1 haccount
      refine ⟨u, hu, ?_, hmobile, hsender⟩
      rcases hcommand with ⟨-, command, -, hstep⟩ | ⟨-, id, row, -, hdraft, -, hstep⟩
      · rw [hstep] at he
        rcases List.mem_cons.1 he with rfl | he
        · rfl
        · exact absurd he hnew
      · rw [hstep] at he
        rw [eq_of_mem_setListing he hnew, activated_sellerId]
        exact (isDraftOf_sellerId hdraft).1.symm
  · intro sender u haccount hactor
    exact ⟨u, h.users.account_kept hafter.users haccount fun hu => mem_users_step hu hactor, rfl⟩
  · rintro sender text newId code u k row rfl hactivation haccount hk hcode hrow hdraft
    have hfound := h.drafts.find?_draftsOf hrow hdraft
    rw [← h.drafts.confirmed k hk, hcode] at hfound
    rw [inbound_activate hactivation haccount hfound]
  · rintro sender text newId code rfl hactivation e he hnew
    rcases inbound_cases sender text newId with hsame | ⟨u, haccount, hcommand⟩
    · rw [hsame] at he
      exact absurd he hnew
    · rcases hcommand with ⟨hlist, -⟩ | ⟨-, id, row, -, -, hcode, hstep⟩
      · rw [hactivation.1] at hlist
        exact absurd hlist (by decide)
      · rw [hstep] at he
        rw [eq_of_mem_setListing he hnew]
        exact hcode.trans hactivation.2.1

end

theorem accountsSound_empty (toUpperCase : String -> String) (now : Nat) :
    AccountsSound toUpperCase { now := now } := by
  refine ⟨⟨List.nodup_nil, ?_, ?_, ?_⟩, List.nodup_nil, ?_, ?_, ?_⟩
  · exact fun u hu => absurd hu List.not_mem_nil
  · exact fun u _ _ hu => absurd hu List.not_mem_nil
  · rw [List.countP_nil]
    exact Nat.zero_le 10000
  · exact fun _ e _ he => absurd he List.not_mem_nil
  · intro userId
    rw [List.countP_nil]
    exact Nat.zero_le 200
  · exact fun k hk => absurd hk List.not_mem_nil

/-- In a run without ambiguous numbers and codes every message acts on its own account. -/
theorem ownAccount_of_run (toUpperCase : String -> String) (pickupWindowMs now : Nat)
    {as : List SmsStep}
    (hrun : RunMeets (step toUpperCase pickupWindowMs)
      (fun s a => s.isUnambiguous toUpperCase a = true) { now := now } as) :
    RunMeets (step toUpperCase pickupWindowMs) (OwnAccount toUpperCase pickupWindowMs)
      { now := now } as :=
  RunMeets.imp_of_invariant (AccountsSound toUpperCase) (fun _ a h hok => h.step a hok)
    (fun _ a h hok => h.ownAccount a hok) (accountsSound_empty toUpperCase now) hrun

/-! ## Two farmers -/

def toUpperLetters (text : String) : String :=
  String.ofList (upper text)

def wheatPublished : List SmsStep :=
  [.register none [], .register (some "0911 22 33 44") [],
    .inbound "+251911223344" "list wheat 500 kg 25 Debre Zeit" "7d1e0c52-58f4-4f4b-9c7e-0b6a523f9a21",
    .tick 60000, .inbound "+251911223344" "activate 3f9a21" ""]

theorem wheatPublished_ownAccount :
    RunMeets (step toUpperLetters 2592000000) (OwnAccount toUpperLetters 2592000000)
      { now := 1000 } wheatPublished :=
  ownAccount_of_run toUpperLetters 2592000000 1000 (by decide +kernel)

def numberTaken : List SmsStep :=
  [.register none [], .register (some "0911 22 33 44") [],
    .updatePreferences 0 { phone := some (some "+251-911-223344") }]

def codeRepeated : List SmsStep :=
  [.register (some "0911 22 33 44") [],
    .inbound "+251911223344" "list wheat 500 kg 25 Debre Zeit" "7d1e0c52-58f4-4f4b-9c7e-0b6a523f9a21",
    .inbound "+251911223344" "list teff 80 kg 90 Debre Zeit" "a3c9d9b1-11a0-4d0e-8a6f-93c47e3f9a21",
    .inbound "+251911223344" "activate 3f9a21" ""]

def wheatDraft : ProduceListing :=
  ListCommand.draft 2592000000
    { cropType := "WHEAT"
      quantity := 500
      unit := "KG"
      askingPrice := 25
      location := "Debre Zeit" } 0 1000

theorem account_taken_and_draft_mistaken :
    ¬ RunMeets (step toUpperLetters 2592000000) (OwnAccount toUpperLetters 2592000000)
        { now := 1000 } numberTaken ∧
      ¬ RunMeets (step toUpperLetters 2592000000) (OwnAccount toUpperLetters 2592000000)
        { now := 1000 } codeRepeated := by
  refine ⟨fun hrun => ?_, fun hrun => ?_⟩
  · have hlast := hrun.2.2.1
    have haccount : (run (step toUpperLetters 2592000000) { now := 1000 }
        (numberTaken.take 2)).account "+251911223344" =
        some { id := 1, phone := some "0911 22 33 44" } := by decide +kernel
    obtain ⟨u', hafter, hid⟩ := hlast.kept _ _ haccount (by decide)
    have hmoved : (run (step toUpperLetters 2592000000) { now := 1000 } numberTaken).account
        "+251911223344" = some { id := 0, phone := some "+251-911-223344" } := by decide +kernel
    rw [← Option.some.inj (hmoved.symm.trans hafter)] at hid
    cases hid
  · have hlast := hrun.2.2.2.1
    have hpublished := hlast.published "+251911223344" "activate 3f9a21" "" "3F9A21"
      { id := 0, phone := some "0911 22 33 44" }
      { userId := 0, listingId := "7d1e0c52-58f4-4f4b-9c7e-0b6a523f9a21", code := "3F9A21" }
      wheatDraft rfl ⟨by decide +kernel, by decide +kernel, by decide⟩ (by decide +kernel)
      (by decide +kernel) rfl (by decide +kernel) (by decide +kernel)
    revert hpublished
    decide +kernel

end SmsServer

end MarketBridge
