import MarketBridge.Auth.RefreshSession

/-!
# Families of refresh sessions

What the table of sessions keeps: at most one live session in each family.  What a
transaction makes visible is described by the rows it has locked, which is all that
the other transactions need to know about it.
-/

namespace MarketBridge

open Relational

def RefreshSession.identity (r : RefreshSession) : Id × Id × Id × String :=
  (r.id, r.userId, r.familyId, r.tokenHash)

/-- The same session, no less rotated or revoked than before. -/
structure RefreshSession.Evolves (r r' : RefreshSession) : Prop where
  identity : r'.identity = r.identity
  rotated : r.rotatedAt.isSome = true -> r'.rotatedAt.isSome = true
  revoked : r.revokedAt.isSome = true -> r'.revokedAt.isSome = true

namespace RefreshSession

variable {r r' r'' : RefreshSession}

theorem id_of_identity (h : r'.identity = r.identity) : r'.id = r.id :=
  congrArg (fun x : Id × Id × Id × String => x.1) h

theorem family_of_identity (h : r'.identity = r.identity) : r'.familyId = r.familyId :=
  congrArg (fun x : Id × Id × Id × String => x.2.2.1) h

theorem hash_of_identity (h : r'.identity = r.identity) : r'.tokenHash = r.tokenHash :=
  congrArg (fun x : Id × Id × Id × String => x.2.2.2) h

theorem Evolves.refl (r : RefreshSession) : r.Evolves r :=
  ⟨rfl, fun h => h, fun h => h⟩

theorem revoke_evolves (now : Nat) (reason : String) (r : RefreshSession) :
    r.Evolves (r.revoke now reason) :=
  ⟨rfl, fun h => h, fun _ => rfl⟩

theorem claim_evolves (now : Nat) (r : RefreshSession) : r.Evolves (r.claim now) :=
  ⟨rfl, fun _ => rfl, fun h => h⟩

theorem live_iff : r.live = true ↔ r.rotatedAt = none ∧ r.revokedAt = none := by
  simp [live]

theorem Usable.live {now : Nat} (h : r.Usable now) : r.live = true :=
  live_iff.2 ⟨h.1, h.2.1⟩

theorem Evolves.live (h : r.Evolves r') (hlive : r'.live = true) : r.live = true := by
  obtain ⟨hrotated, hrevoked⟩ := live_iff.1 hlive
  refine live_iff.2 ⟨?_, ?_⟩
  · rw [← Option.not_isSome_iff_eq_none]
    intro hr
    exact Option.isSome_iff_ne_none.1 (h.rotated hr) hrotated
  · rw [← Option.not_isSome_iff_eq_none]
    intro hr
    exact Option.isSome_iff_ne_none.1 (h.revoked hr) hrevoked

theorem Evolves.inFamily {familyId : Id} (h : r.Evolves r') (hr' : inFamily familyId r' = true) :
    inFamily familyId r = true := by
  unfold MarketBridge.inFamily at hr' ⊢
  obtain ⟨hfamily, hrevoked⟩ := Bool.and_eq_true_iff.1 hr'
  refine Bool.and_eq_true_iff.2 ⟨?_, ?_⟩
  · rw [← family_of_identity h.identity]
    exact hfamily
  · rw [Option.isNone_iff_eq_none, ← Option.not_isSome_iff_eq_none]
    intro hr
    rw [Option.isNone_iff_eq_none] at hrevoked
    exact Option.isSome_iff_ne_none.1 (h.revoked hr) hrevoked

end RefreshSession

/-! ## What the table keeps -/

structure Families (t : RefreshSessions) : Prop where
  ids : t.Keyed RefreshSession.id
  hashes : t.Keyed RefreshSession.tokenHash
  one : forall i j r q, t.findUnique i = some r -> t.findUnique j = some q ->
    r.familyId = q.familyId -> r.live = true -> q.live = true -> i = j
  founded : t.All fun _ r => exists j q, t.findUnique j = some q ∧ q.id = r.familyId

theorem families_empty : Families Table.empty where
  ids := Table.keyed_empty
  hashes := Table.keyed_empty
  one := by
    intro i j r q hr
    simp at hr
  founded := by
    intro i r hr
    simp at hr

namespace Families

variable {t : RefreshSessions}

theorem updateMany (h : Families t) (p : Nat -> RefreshSession -> Bool)
    {f : RefreshSession -> RefreshSession} (hf : forall r : RefreshSession, r.Evolves (f r)) :
    Families (t.updateMany p f) := by
  have hread : forall i r', (t.updateMany p f).findUnique i = some r' ->
      exists r, t.findUnique i = some r ∧ r.Evolves r' := by
    intro i r' hr'
    rw [Table.findUnique_updateMany] at hr'
    obtain ⟨r, hr, rfl⟩ := Option.map_eq_some_iff.1 hr'
    refine ⟨r, hr, ?_⟩
    split
    · exact hf r
    · exact .refl r
  constructor
  · intro i j r' q' hr' hq' hid
    obtain ⟨r, hr, hevolves⟩ := hread i r' hr'
    obtain ⟨q, hq, hevolves'⟩ := hread j q' hq'
    rw [RefreshSession.id_of_identity hevolves.identity,
      RefreshSession.id_of_identity hevolves'.identity] at hid
    exact h.ids i j r q hr hq hid
  · intro i j r' q' hr' hq' hhash
    obtain ⟨r, hr, hevolves⟩ := hread i r' hr'
    obtain ⟨q, hq, hevolves'⟩ := hread j q' hq'
    rw [RefreshSession.hash_of_identity hevolves.identity,
      RefreshSession.hash_of_identity hevolves'.identity] at hhash
    exact h.hashes i j r q hr hq hhash
  · intro i j r' q' hr' hq' hfamily hlive hlive'
    obtain ⟨r, hr, hevolves⟩ := hread i r' hr'
    obtain ⟨q, hq, hevolves'⟩ := hread j q' hq'
    rw [RefreshSession.family_of_identity hevolves.identity,
      RefreshSession.family_of_identity hevolves'.identity] at hfamily
    exact h.one i j r q hr hq hfamily (hevolves.live hlive) (hevolves'.live hlive')
  · intro i r' hr'
    obtain ⟨r, hr, hevolves⟩ := hread i r' hr'
    obtain ⟨j, q, hq, hid⟩ := h.founded i r hr
    have hwritten : (t.updateMany p f).findUnique j = some (if p j q then f q else q) := by
      rw [Table.findUnique_updateMany, hq]
      rfl
    refine ⟨j, _, hwritten, ?_⟩
    rw [RefreshSession.family_of_identity hevolves.identity, ← hid]
    split
    · exact RefreshSession.id_of_identity (hf q).identity
    · rfl

theorem create (h : Families t) {r : RefreshSession}
    (hfresh : t.All fun _ q => q.id ≠ r.id ∧ q.tokenHash ≠ r.tokenHash)
    (hfounder : r.id = r.familyId ∨ exists j q, t.findUnique j = some q ∧ q.id = r.familyId)
    (hdead : t.All fun _ q => q.familyId = r.familyId -> q.live = false) :
    Families (t.create r) := by
  have hcase : forall i q, (t.create r).findUnique i = some q ->
      t.findUnique i = some q ∨ i = t.size ∧ q = r := by
    intro i q hq
    rw [Table.findUnique_create] at hq
    split at hq
    · rename_i hi
      exact Or.inr ⟨hi, (Option.some.inj hq).symm⟩
    · exact Or.inl hq
  constructor
  · intro i j p q hp hq hid
    rcases hcase i p hp with hp' | ⟨rfl, rfl⟩
    · rcases hcase j q hq with hq' | ⟨rfl, rfl⟩
      · exact h.ids i j p q hp' hq' hid
      · exact absurd hid (hfresh i p hp').1
    · rcases hcase j q hq with hq' | ⟨rfl, rfl⟩
      · exact absurd hid.symm (hfresh j q hq').1
      · rfl
  · intro i j p q hp hq hhash
    rcases hcase i p hp with hp' | ⟨rfl, rfl⟩
    · rcases hcase j q hq with hq' | ⟨rfl, rfl⟩
      · exact h.hashes i j p q hp' hq' hhash
      · exact absurd hhash (hfresh i p hp').2
    · rcases hcase j q hq with hq' | ⟨rfl, rfl⟩
      · exact absurd hhash.symm (hfresh j q hq').2
      · rfl
  · intro i j p q hp hq hfamily hlive hlive'
    rcases hcase i p hp with hp' | ⟨rfl, rfl⟩
    · rcases hcase j q hq with hq' | ⟨rfl, rfl⟩
      · exact h.one i j p q hp' hq' hfamily hlive hlive'
      · rw [hdead i p hp' hfamily] at hlive
        cases hlive
    · rcases hcase j q hq with hq' | ⟨rfl, rfl⟩
      · rw [hdead j q hq' hfamily.symm] at hlive'
        cases hlive'
      · rfl
  · intro i q hq
    have hfound : (exists j p, t.findUnique j = some p ∧ p.id = q.familyId) ∨
        q = r ∧ r.id = r.familyId := by
      rcases hcase i q hq with hq | ⟨rfl, rfl⟩
      · exact Or.inl (h.founded i q hq)
      · rcases hfounder with hself | hold
        · exact Or.inr ⟨rfl, hself⟩
        · exact Or.inl hold
    rcases hfound with ⟨j, p, hp, hid⟩ | ⟨rfl, hself⟩
    · exact ⟨j, p, Table.findUnique_create_of_some hp, hid⟩
    · exact ⟨t.size, q, Table.findUnique_create_self t q, hself⟩

end Families

/-! ## What a transaction makes visible -/

def Founded (held : List SessionKey) (t : RefreshSessions) (familyId : Id) : Prop :=
  (exists i r, t.findUnique i = some r ∧ r.familyId = familyId ∧ r.live = true ∧
      SessionKey.session r.id ∈ held) ∨
    t.All fun _ r => r.familyId ≠ familyId

/-- The step from `t` to `t'` of a transaction that has locked `held`. -/
structure Publishes (held : List SessionKey) (t t' : RefreshSessions) : Prop where
  kept : forall i r, t.findUnique i = some r ->
    exists r', t'.findUnique i = some r' ∧ r.Evolves r' ∧
      (SessionKey.session r.id ∈ held ∨ r' = r)
  created : forall i r', t'.findUnique i = some r' ->
    (exists r, t.findUnique i = some r) ∨
      SessionKey.session r'.id ∈ held ∧ SessionKey.token r'.tokenHash ∈ held ∧
        Founded held t r'.familyId

/-- Some row is the session `r`, whatever has become of it. -/
def Knows (t : RefreshSessions) (r : RefreshSession) : Prop :=
  exists i q, t.findUnique i = some q ∧ q.identity = r.identity

def Covers (t : RefreshSessions) (familyId : Id) (kept : List SessionKey) : Prop :=
  t.All fun _ r => inFamily familyId r = true -> SessionKey.session r.id ∈ kept

/-- No row has the id or the token hash of `r`. -/
def Fresh (t : RefreshSessions) (r : RefreshSession) : Prop :=
  t.All fun _ q => q.id ≠ r.id ∧ q.tokenHash ≠ r.tokenHash

section

variable {held mine : List SessionKey} {t t' : RefreshSessions} {r : RefreshSession}

namespace Publishes

theorem refl (held : List SessionKey) (t : RefreshSessions) : Publishes held t t where
  kept := fun _ r hr => ⟨r, hr, .refl r, Or.inr rfl⟩
  created := fun _ r hr => Or.inl ⟨r, hr⟩

theorem writeSessions {f : RefreshSession -> RefreshSession} (hf : forall r : RefreshSession, r.Evolves (f r))
    {kept : List SessionKey} (hkept : forall x, x ∈ kept -> x ∈ held) :
    Publishes held t (writeSessions f kept t) where
  kept := by
    intro i r hr
    unfold MarketBridge.writeSessions
    rw [Table.findUnique_updateMany, hr]
    by_cases hmem : SessionKey.session r.id ∈ kept
    · exact ⟨f r, by simp [hmem], hf r, Or.inl (hkept _ hmem)⟩
    · exact ⟨r, by simp [hmem], .refl r, Or.inr rfl⟩
  created := by
    intro i r' hr'
    unfold MarketBridge.writeSessions at hr'
    rw [Table.findUnique_updateMany] at hr'
    obtain ⟨r, hr, -⟩ := Option.map_eq_some_iff.1 hr'
    exact Or.inl ⟨r, hr⟩

theorem create (h : Publishes held t t') (hid : SessionKey.session r.id ∈ held)
    (hhash : SessionKey.token r.tokenHash ∈ held) (hfounded : Founded held t r.familyId) :
    Publishes held t (t'.create r) where
  kept := by
    intro i q hq
    obtain ⟨q', hq', hevolves, hcase⟩ := h.kept i q hq
    exact ⟨q', Table.findUnique_create_of_some hq', hevolves, hcase⟩
  created := by
    intro i q hq
    rcases Table.of_findUnique_create hq with ⟨-, rfl⟩ | ⟨-, hq⟩
    · exact Or.inr ⟨hid, hhash, hfounded⟩
    · exact h.created i q hq

end Publishes

/-! ## What the others rely on -/

theorem Knows.publish (h : Knows t r) (hstep : Publishes held t t') : Knows t' r := by
  obtain ⟨i, q, hq, hidentity⟩ := h
  obtain ⟨q', hq', hevolves, -⟩ := hstep.kept i q hq
  exact ⟨i, q', hq', hevolves.identity.trans hidentity⟩

theorem Covers.publish {familyId : Id} (h : Covers t familyId mine)
    (hknown : exists i q, t.findUnique i = some q ∧ q.familyId = familyId)
    (hstep : Publishes held t t') (hdisjoint : forall x, x ∈ held -> x ∉ mine) :
    Covers t' familyId mine := by
  intro i r' hr' hfamily
  rcases hstep.created i r' hr' with ⟨r, hr⟩ | ⟨-, -, hfounded⟩
  · obtain ⟨q, hq, hevolves, -⟩ := hstep.kept i r hr
    obtain rfl : q = r' := Option.some.inj (hq.symm.trans hr')
    rw [RefreshSession.id_of_identity hevolves.identity]
    exact h i r hr (hevolves.inFamily hfamily)
  · have hsame : r'.familyId = familyId := of_decide_eq_true (Bool.and_eq_true_iff.1 hfamily).1
    rcases hfounded with ⟨j, q, hq, hqfamily, hlive, hheld⟩ | hnone
    · -- The new session follows a live one, which would have to be locked twice.
      have hlocked : SessionKey.session q.id ∈ mine := by
        refine h j q hq ?_
        unfold inFamily
        rw [hqfamily, hsame, (RefreshSession.live_iff.1 hlive).2]
        simp
      exact absurd hlocked (hdisjoint _ hheld)
    · obtain ⟨j, q, hq, hqfamily⟩ := hknown
      exact absurd (hqfamily.trans hsame.symm) (hnone j q hq)

theorem Fresh.publish (h : Fresh t r) (hstep : Publishes held t t')
    (hid : SessionKey.session r.id ∉ held) (hhash : SessionKey.token r.tokenHash ∉ held) :
    Fresh t' r := by
  intro i q hq
  rcases hstep.created i q hq with ⟨p, hp⟩ | ⟨hqid, hqhash, -⟩
  · obtain ⟨q', hq', hevolves, -⟩ := hstep.kept i p hp
    obtain rfl : q' = q := Option.some.inj (hq'.symm.trans hq)
    rw [RefreshSession.id_of_identity hevolves.identity,
      RefreshSession.hash_of_identity hevolves.identity]
    exact h i p hp
  · constructor
    · intro heq
      rw [heq] at hqid
      exact hid hqid
    · intro heq
      rw [heq] at hqhash
      exact hhash hqhash

end

end MarketBridge
