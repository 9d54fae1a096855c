import MarketBridge.Idempotency.Fingerprint
import MarketBridge.JsonText.Equality

/-!
# Which requests a fingerprint tells apart

A number that is too large for JavaScript is written like `null`, so values that differ in
nothing else have one text.  All other objects and arrays are told apart, and so are the
requests with them.
-/

namespace MarketBridge

open JsonText

/-! ## Ordered fields -/

def charUnits (c : Char) : List Nat :=
  if c.toNat < 0x10000 then
    [c.toNat]
  else
    [0xD800 + (c.toNat - 0x10000) / 0x400, 0xDC00 + (c.toNat - 0x10000) % 0x400]

theorem charUnits_append_inj {c d : Char} {r r' : List Nat}
    (h : charUnits c ++ r = charUnits d ++ r') :
    c = d ∧ r = r' := by
  have hc := c.valid
  have hd := d.valid
  have hsame : c.toNat = d.toNat -> c = d := Char.toNat_inj.1
  unfold charUnits at h
  simp only [UInt32.isValidChar, Nat.isValidChar] at hc hd
  have hcnat : c.val.toNat = c.toNat := rfl
  have hdnat : d.val.toNat = d.toNat := rfl
  split at h <;> split at h <;> simp only [List.cons_append, List.nil_append, List.cons.injEq] at h
  · exact ⟨hsame h.1, h.2⟩
  · omega
  · omega
  · exact ⟨hsame (by omega), h.2.2⟩

theorem flatMap_charUnits_injective : forall cs ds : List Char,
    cs.flatMap charUnits = ds.flatMap charUnits -> cs = ds
  | [], [], _ => rfl
  | [], d :: ds, h => by
      have hnil := List.append_eq_nil_iff.1 (List.flatMap_cons.symm.trans h.symm)
      unfold charUnits at hnil
      split at hnil <;> cases hnil.1
  | c :: cs, [], h => by
      have hnil := List.append_eq_nil_iff.1 (List.flatMap_cons.symm.trans h)
      unfold charUnits at hnil
      split at hnil <;> cases hnil.1
  | c :: cs, d :: ds, h => by
      rw [List.flatMap_cons, List.flatMap_cons] at h
      obtain ⟨rfl, htail⟩ := charUnits_append_inj h
      rw [flatMap_charUnits_injective cs ds htail]

theorem codeUnits_injective : Function.Injective codeUnits := fun s t h =>
  String.toList_injective (flatMap_charUnits_injective s.toList t.toList h)

theorem sortKeys_perm {α : Type} (fields : List (String × α)) :
    (sortKeys fields).Perm fields :=
  List.perm_insertionSort _ fields

theorem sortKeys_pairwise {α : Type} (fields : List (String × α)) :
    (sortKeys fields).Pairwise fun e f => codeUnits e.1 ≤ codeUnits f.1 := by
  have htotal : Std.Total fun e f : String × α => codeUnits e.1 ≤ codeUnits f.1 :=
    ⟨fun e f => le_total (codeUnits e.1) (codeUnits f.1)⟩
  have htrans : IsTrans (String × α) fun e f => codeUnits e.1 ≤ codeUnits f.1 :=
    ⟨fun _ _ _ => le_trans⟩
  exact List.pairwise_insertionSort _ fields

theorem sortKeys_eq_iff {α : Type} {fields fields' : List (String × α)}
    (hkeys : (fields.map (·.1)).Nodup) :
    sortKeys fields = sortKeys fields' ↔ fields.Perm fields' := by
  constructor
  · intro h
    exact (sortKeys_perm fields).symm.trans (h ▸ sortKeys_perm fields')
  · intro h
    refine List.Perm.eq_of_pairwise ?_ (sortKeys_pairwise fields) (sortKeys_pairwise fields')
      ((sortKeys_perm fields).trans (h.trans (sortKeys_perm fields').symm))
    intro e f he hf hle hge
    have hkey : e.1 = f.1 := codeUnits_injective (le_antisymm hle hge)
    have he' : e ∈ fields := mem_sortKeys.1 he
    have hf' : f ∈ fields := h.mem_iff.2 (mem_sortKeys.1 hf)
    exact List.inj_on_of_nodup_map hkeys he' hf' hkey

theorem keys_map_snd {α β : Type} (f : α -> β) (fields : List (String × α)) :
    (fields.map fun e => (e.1, f e.2)).map (·.1) = fields.map (·.1) := by
  rw [List.map_map]
  rfl

/-! ## Ordered values -/

theorem perm_iff_lookup {fields fields' : List (String × Json)} (f : Json -> Json)
    (hkeys : (fields.map (·.1)).Nodup) (hkeys' : (fields'.map (·.1)).Nodup) :
    (fields.map fun e => (e.1, f e.2)).Perm (fields'.map fun e => (e.1, f e.2)) ↔
      fields.length = fields'.length ∧
        forall e, e ∈ fields -> exists y, fields'.lookup e.1 = some y ∧ f e.2 = f y := by
  have hnodup : (fields.map fun e => (e.1, f e.2)).Nodup := by
    refine List.Nodup.of_map (·.1) ?_
    rw [keys_map_snd]
    exact hkeys
  constructor
  · intro h
    refine ⟨by simpa using h.length_eq, fun e he => ?_⟩
    obtain ⟨e', he', heq⟩ := List.mem_map.1 (h.subset (List.mem_map_of_mem he))
    obtain ⟨hkey, hvalue⟩ := Prod.mk.inj heq
    refine ⟨e'.2, (lookup_eq_some_iff hkeys').2 ?_, hvalue.symm⟩
    rw [← hkey]
    exact he'
  · rintro ⟨hlength, hfields⟩
    refine (List.subperm_of_subset hnodup ?_).perm_of_length_le (by simp [hlength])
    intro read hread
    obtain ⟨e, he, rfl⟩ := List.mem_map.1 hread
    obtain ⟨y, hlookup, hvalue⟩ := hfields e he
    rw [hvalue]
    exact List.mem_map_of_mem (f := fun e => (e.1, f e.2)) ((lookup_eq_some_iff hkeys').1 hlookup)

/-- Values with distinct keys are the same if their ordered forms are equal. -/
theorem sameJson_iff_ordered_eq : (a b : Json) -> hasDistinctKeys a = true ->
    hasDistinctKeys b = true -> (sameJson a b = true ↔ ordered a = ordered b)
  | .array items, b, ha, hb => by
      cases b with
      | array items' =>
          rw [hasDistinctKeys, itemsHaveDistinctKeys_eq, List.all_eq_true] at ha hb
          have hitems : List.Forall₂ (fun x y => sameJson x y = true) items items' ↔
              List.Forall₂ (fun x y => ordered x = ordered y) items items' :=
            forall₂_iff_of_mem fun x hx y hy => sameJson_iff_ordered_eq x y (ha x hx) (hb y hy)
          rw [sameJson, sameItems_eq_true_iff, hitems, ordered, ordered, orderedItems_eq,
            orderedItems_eq, Json.array.injEq, ← List.forall₂_eq_eq_eq, List.forall₂_map_left_iff,
            List.forall₂_map_right_iff]
      | _ =>
          simp [sameJson, ordered]
  | .object fields, b, ha, hb => by
      cases b with
      | object fields' =>
          rw [hasDistinctKeys, fieldsHaveDistinctKeys_eq, Bool.and_eq_true, decide_eq_true_eq,
            List.all_eq_true] at ha hb
          have hkeys : ((fields.map fun e => (e.1, ordered e.2)).map (·.1)).Nodup := by
            rw [keys_map_snd]
            exact ha.1
          rw [sameJson, Bool.and_eq_true, decide_eq_true_eq, sameFields_eq, List.all_eq_true,
            ordered, ordered, orderedFields_eq, orderedFields_eq, Json.object.injEq,
            sortKeys_eq_iff hkeys, perm_iff_lookup ordered ha.1 hb.1]
          refine and_congr_right fun _ => forall₂_congr fun e he => ?_
          rw [Option.any_eq_true]
          refine exists_congr fun y => and_congr_right fun hlookup => ?_
          have hy := (lookup_eq_some_iff hb.1).1 hlookup
          exact sameJson_iff_ordered_eq e.2 y (ha.2 e he) (hb.2 _ hy)
      | _ =>
          simp [sameJson, ordered]
  | .null, b, _, _ => by cases b <;> simp [sameJson, ordered]
  | .bool _, b, _, _ => by cases b <;> simp [sameJson, ordered]
  | .number _, b, _, _ => by cases b <;> simp [sameJson, ordered]
  | .infinite _, b, _, _ => by cases b <;> simp [sameJson, ordered]
  | .string _, b, _, _ => by cases b <;> simp [sameJson, ordered]
termination_by a => sizeOf a
decreasing_by
  · exact sizeOf_lt_array hx
  · exact sizeOf_lt_object he

theorem expressible_ordered : (a : Json) -> expressible (ordered a) = ordered (expressible a)
  | .array items => by
      have hitems : items.map (fun x => expressible (ordered x)) =
          items.map fun x => ordered (expressible x) :=
        List.map_congr_left fun x hx => expressible_ordered x
      rw [ordered, expressible, expressible, ordered, orderedItems_eq, orderedItems_eq,
        expressibleItems_eq, expressibleItems_eq, List.map_map, List.map_map]
      exact congrArg Json.array hitems
  | .object fields => by
      have hfields : (fields.map fun e => (e.1, expressible (ordered e.2))) =
          fields.map fun e => (e.1, ordered (expressible e.2)) :=
        List.map_congr_left fun e he => by rw [expressible_ordered e.2]
      rw [ordered, expressible, expressible, ordered, orderedFields_eq, orderedFields_eq,
        expressibleFields_eq, expressibleFields_eq, map_sortKeys, List.map_map, List.map_map]
      exact congrArg (Json.object <| sortKeys ·) hfields
  | .null => rfl
  | .bool _ => rfl
  | .number _ => rfl
  | .infinite _ => rfl
  | .string _ => rfl
termination_by a => sizeOf a
decreasing_by
  · exact sizeOf_lt_array hx
  · exact sizeOf_lt_object he

theorem hasDistinctKeys_expressible : (a : Json) ->
    hasDistinctKeys (expressible a) = hasDistinctKeys a
  | .array items => by
      have hitems : (items.map expressible).all hasDistinctKeys = items.all hasDistinctKeys := by
        rw [List.all_map, Bool.eq_iff_iff, List.all_eq_true, List.all_eq_true]
        exact forall₂_congr fun x hx => by
          rw [Function.comp_apply, hasDistinctKeys_expressible x]
      rw [expressible, hasDistinctKeys, hasDistinctKeys, itemsHaveDistinctKeys_eq,
        itemsHaveDistinctKeys_eq, expressibleItems_eq, hitems]
  | .object fields => by
      have hfields : (fields.map fun e => (e.1, expressible e.2)).all
          (fun e => hasDistinctKeys e.2) = fields.all fun e => hasDistinctKeys e.2 := by
        rw [List.all_map, Bool.eq_iff_iff, List.all_eq_true, List.all_eq_true]
        exact forall₂_congr fun e he => by
          rw [Function.comp_apply, hasDistinctKeys_expressible e.2]
      rw [expressible, hasDistinctKeys, hasDistinctKeys, fieldsHaveDistinctKeys_eq,
        fieldsHaveDistinctKeys_eq, expressibleFields_eq, hfields, keys_map_snd]
  | .null => rfl
  | .bool _ => rfl
  | .number _ => rfl
  | .infinite _ => rfl
  | .string _ => rfl
termination_by a => sizeOf a
decreasing_by
  · exact sizeOf_lt_array hx
  · exact sizeOf_lt_object he

/-! ## Bodies -/

/-- An object or an array, with every key of an object once. -/
structure JsonBody where
  value : Json
  composite : value.isComposite = true := by rfl
  distinctKeys : hasDistinctKeys value = true := by rfl

namespace JsonBody

def isSame (a b : JsonBody) : Bool :=
  sameJson a.value b.value

/-- The bodies differ, but only in numbers that are too large, which stand for `null`. -/
def differsByOverflow (a b : JsonBody) : Bool :=
  !a.isSame b && sameJson (expressible a.value) (expressible b.value)

theorem stableStringify_eq_iff (a b : JsonBody) :
    stableStringify a.value = stableStringify b.value ↔
      sameJson (expressible a.value) (expressible b.value) = true := by
  rw [stableStringify_eq, stableStringify_eq, text_eq_iff, expressible_ordered,
    expressible_ordered, sameJson_iff_ordered_eq]
  · rw [hasDistinctKeys_expressible, a.distinctKeys]
  · rw [hasDistinctKeys_expressible, b.distinctKeys]

theorem stableStringify_eq_of_isSame {a b : JsonBody} (h : a.isSame b = true) :
    stableStringify a.value = stableStringify b.value := by
  rw [stableStringify_eq, stableStringify_eq,
    (sameJson_iff_ordered_eq _ _ a.distinctKeys b.distinctKeys).1 h]

theorem separates_iff (a b : JsonBody) :
    (stableStringify a.value = stableStringify b.value ↔ a.isSame b = true) ↔
      a.differsByOverflow b = false := by
  have hsame : a.isSame b = true -> stableStringify a.value = stableStringify b.value :=
    stableStringify_eq_of_isSame
  unfold differsByOverflow
  rw [stableStringify_eq_iff] at hsame ⊢
  cases hab : a.isSame b with
  | true => simp [hsame hab]
  | false => simp

end JsonBody

/-! ## Requests -/

theorem append_cons_inj {c : Char} {xs ys r r' : List Char} (hxs : c ∉ xs) (hys : c ∉ ys)
    (h : xs ++ c :: r = ys ++ c :: r') :
    xs = ys ∧ r = r' := by
  induction xs generalizing ys with
  | nil =>
      cases ys with
      | nil => exact ⟨rfl, (List.cons.inj h).2⟩
      | cons y ys => exact absurd ((List.cons.inj h).1 ▸ List.mem_cons_self ..) hys
  | cons x xs ih =>
      cases ys with
      | nil => exact absurd ((List.cons.inj h).1 ▸ List.mem_cons_self ..) hxs
      | cons y ys =>
          obtain ⟨rfl, htail⟩ := List.cons.inj h
          obtain ⟨rfl, hr⟩ := ih (fun hmem => hxs (List.mem_cons_of_mem x hmem))
            (fun hmem => hys (List.mem_cons_of_mem x hmem)) htail
          exact ⟨rfl, hr⟩

/-- What is read of a request; its method is a token, and its path begins with a slash. -/
structure ReceivedRequest where
  method : String
  baseUrl : String := ""
  path : String
  originalUrl : String := ""
  body : JsonBody
  token : ':' ∉ method.toList
  hasPath : path ≠ ""

namespace ReceivedRequest

/-- `req.baseUrl || ''` and `req.path || req.originalUrl || ''`. -/
def target (r : ReceivedRequest) : String :=
  r.baseUrl ++ (if r.path = "" then r.originalUrl else r.path)

def fingerprintText (r : ReceivedRequest) : String :=
  r.method ++ ":" ++ r.target ++ ":" ++ String.ofList (stableStringify r.body.value)

/-- `requestFingerprint`, under a hash function. -/
def requestFingerprint (sha256 : String -> String) (r : ReceivedRequest) : String :=
  sha256 r.fingerprintText

/-- The requests have the same method, and the same base URL followed by the path. -/
def isAlike (r r' : ReceivedRequest) : Bool :=
  r.method = r'.method && r.baseUrl ++ r.path = r'.baseUrl ++ r'.path

theorem target_eq (r : ReceivedRequest) : r.target = r.baseUrl ++ r.path := by
  unfold target
  rw [if_neg r.hasPath]

theorem fingerprintText_toList (r : ReceivedRequest) :
    r.fingerprintText.toList =
      r.method.toList ++ ':' :: ((r.baseUrl ++ r.path).toList ++
        ':' :: stableStringify r.body.value) := by
  unfold fingerprintText
  rw [target_eq]
  simp [String.toList_append]

theorem fingerprintText_eq_iff (r r' : ReceivedRequest) :
    r.fingerprintText = r'.fingerprintText ↔
      r.isAlike r' = true ∧ stableStringify r.body.value = stableStringify r'.body.value := by
  unfold isAlike
  rw [Bool.and_eq_true, decide_eq_true_eq, decide_eq_true_eq, ← String.toList_inj,
    fingerprintText_toList, fingerprintText_toList]
  constructor
  · intro h
    obtain ⟨hmethod, hrest⟩ := append_cons_inj r.token r'.token h
    rw [stableStringify_eq, stableStringify_eq] at hrest
    obtain ⟨htarget, hbody⟩ := target_append_inj
      ((isComposite_ordered _).trans r.body.composite)
      ((isComposite_ordered _).trans r'.body.composite) hrest
    rw [← stableStringify_eq, ← stableStringify_eq] at hbody
    exact ⟨⟨String.toList_injective hmethod, String.toList_injective htarget⟩, hbody⟩
  · rintro ⟨⟨hmethod, htarget⟩, hbody⟩
    rw [hmethod, htarget, hbody]

/-- A request of one of the methods of the routes. -/
def of (r : HttpRequest) (hpath : r.path ≠ "") (hkeys : hasDistinctKeys r.body = true) :
    ReceivedRequest where
  method := r.method.text
  baseUrl := r.baseUrl
  path := r.path
  originalUrl := r.originalUrl
  body := ⟨r.body, r.composite, hkeys⟩
  token := by cases r.method <;> decide
  hasPath := hpath

theorem requestFingerprint_of (sha256 : String -> String) (r : HttpRequest) (hpath : r.path ≠ "")
    (hkeys : hasDistinctKeys r.body = true) :
    (of r hpath hkeys).requestFingerprint sha256 = MarketBridge.requestFingerprint sha256 r := by
  have htext : (of r hpath hkeys).fingerprintText = String.ofList r.fingerprintText := by
    rw [← String.toList_inj, fingerprintText_toList, String.toList_ofList,
      HttpRequest.fingerprintText, HttpRequest.target, if_neg hpath]
    rfl
  exact congrArg sha256 htext

end ReceivedRequest

/-! ## Separation -/

def FingerprintSeparates (sha256 : String -> String) (r r' : ReceivedRequest) : Prop :=
  r.requestFingerprint sha256 = r'.requestFingerprint sha256 ↔
    r.isAlike r' = true ∧ r.body.isSame r'.body = true

theorem ReceivedRequest.separates_iff {sha256 : String -> String} {occurring : Set String}
    (hsha : Set.InjOn sha256 occurring) {r r' : ReceivedRequest}
    (hr : r.fingerprintText ∈ occurring) (hr' : r'.fingerprintText ∈ occurring) :
    FingerprintSeparates sha256 r r' ↔
      (r.isAlike r' && r.body.differsByOverflow r'.body) = false := by
  have htext : r.requestFingerprint sha256 = r'.requestFingerprint sha256 ↔
      r.fingerprintText = r'.fingerprintText := hsha.eq_iff hr hr'
  unfold FingerprintSeparates
  rw [htext, fingerprintText_eq_iff]
  cases halike : r.isAlike r' with
  | false => simp
  | true =>
      rw [Bool.true_and, ← JsonBody.separates_iff]
      simp

/--
The texts of bodies and the fingerprints of requests separate, unless the bodies differ
only by an overflow.
-/
theorem fingerprints_separate_iff {sha256 : String -> String} {occurring : Set String}
    (hsha : Set.InjOn sha256 occurring) :
    (forall a b : JsonBody,
      (stableStringify a.value = stableStringify b.value ↔ a.isSame b = true) ↔
        a.differsByOverflow b = false) ∧
    (forall r r' : ReceivedRequest, r.fingerprintText ∈ occurring ->
      r'.fingerprintText ∈ occurring ->
      (FingerprintSeparates sha256 r r' ↔
        (r.isAlike r' && r.body.differsByOverflow r'.body) = false)) :=
  ⟨JsonBody.separates_iff, fun _ _ hr hr' => ReceivedRequest.separates_iff hsha hr hr'⟩

/-! ## An overflow -/

def offerBody (amount : Json) (h : hasDistinctKeys amount = true) : JsonBody where
  value := .object [("amount", amount)]
  distinctKeys := by simp [hasDistinctKeys, fieldsHaveDistinctKeys, h]

def offerRequest (amount : Json) (h : hasDistinctKeys amount = true) : ReceivedRequest where
  method := "POST"
  baseUrl := "/api/offers"
  path := "/"
  body := offerBody amount h
  token := by decide
  hasPath := by decide

def amountOf (text : List Char) (h : text ≠ [])
    (hnumeric : forall c, c ∈ text -> isNumeric c = true) : Json :=
  .number ⟨text, h, hnumeric⟩

theorem isNumeric_of_mem_singleton {d : Char} (h : isNumeric d = true) :
    forall c, c ∈ [d] -> isNumeric c = true := by
  intro c hc
  rw [List.mem_singleton.1 hc]
  exact h

/-- Offers of different amounts have different fingerprints. -/
theorem offers_separate :
    FingerprintSeparates id
      (offerRequest (amountOf ['5'] (List.cons_ne_nil _ _) (isNumeric_of_mem_singleton rfl)) rfl)
      (offerRequest (amountOf ['6'] (List.cons_ne_nil _ _) (isNumeric_of_mem_singleton rfl)) rfl) :=
  ((fingerprints_separate_iff (Set.injOn_id Set.univ)).2
    (offerRequest (amountOf ['5'] (List.cons_ne_nil _ _) (isNumeric_of_mem_singleton rfl)) rfl)
    (offerRequest (amountOf ['6'] (List.cons_ne_nil _ _) (isNumeric_of_mem_singleton rfl)) rfl)
    (Set.mem_univ _) (Set.mem_univ _)).2 (by decide)

/-- An offer of `1e400` has the text and the fingerprint of an offer of `null`. -/
theorem overflow_not_separated :
    ¬ ((forall a b : JsonBody,
          (stableStringify a.value = stableStringify b.value ↔ a.isSame b = true)) ∧
        forall r r' : ReceivedRequest, FingerprintSeparates id r r') := by
  rintro ⟨-, hrequests⟩
  have hseparates := hrequests (offerRequest (.infinite false) rfl) (offerRequest .null rfl)
  exact absurd (hseparates.1 (by decide)).2 (by decide)

end MarketBridge
