import Mathlib.Data.List.Lex
import Mathlib.Data.List.Sort
import MarketBridge.JsonText.Balanced

/-!
# Fingerprints of requests

The middleware recognizes a request by a hash of its method, its path and its body, where
the fields of objects are put in order.  Bodies are objects or arrays.  Two requests have
one fingerprint only if they are the same, as long as their numbers are finite.
-/

namespace MarketBridge

open JsonText

/-! ## Ordered fields -/

/-- The code units that `sort` compares. -/
def codeUnits (s : String) : List Nat :=
  s.toList.flatMap fun c =>
    if c.toNat < 0x10000 then
      [c.toNat]
    else
      [0xD800 + (c.toNat - 0x10000) / 0x400, 0xDC00 + (c.toNat - 0x10000) % 0x400]

/-- `Object.keys(value).sort()`, with the values. -/
def sortKeys {α : Type} (fields : List (String × α)) : List (String × α) :=
  fields.insertionSort fun e f => codeUnits e.1 ≤ codeUnits f.1

theorem map_sortKeys {α β : Type} (f : α -> β) (fields : List (String × α)) :
    (sortKeys fields).map (fun e => (e.1, f e.2)) = sortKeys (fields.map fun e => (e.1, f e.2)) :=
  List.map_insertionSort _ _ _ _ fun _ _ _ _ => Iff.rfl

theorem mem_sortKeys {α : Type} {fields : List (String × α)} {e : String × α} :
    e ∈ sortKeys fields ↔ e ∈ fields :=
  List.mem_insertionSort _

mutual

def stableStringify : Json -> List Char
  | .array items => bracketed (stableItems items)
  | .object fields =>
      braced ((sortKeys (stableFields fields)).map fun e => fieldText e.1 e.2)
  | x => text x

def stableItems : List Json -> List (List Char)
  | [] => []
  | x :: items => stableStringify x :: stableItems items

def stableFields : List (String × Json) -> List (String × List Char)
  | [] => []
  | (key, x) :: fields => (key, stableStringify x) :: stableFields fields

end

mutual

def ordered : Json -> Json
  | .array items => .array (orderedItems items)
  | .object fields => .object (sortKeys (orderedFields fields))
  | x => x

def orderedItems : List Json -> List Json
  | [] => []
  | x :: items => ordered x :: orderedItems items

def orderedFields : List (String × Json) -> List (String × Json)
  | [] => []
  | (key, x) :: fields => (key, ordered x) :: orderedFields fields

end

theorem stableItems_eq (items : List Json) : stableItems items = items.map stableStringify := by
  induction items with
  | nil => rfl
  | cons x items ih => exact congrArg (stableStringify x :: ·) ih

theorem stableFields_eq (fields : List (String × Json)) :
    stableFields fields = fields.map fun e => (e.1, stableStringify e.2) := by
  induction fields with
  | nil => rfl
  | cons e fields ih => exact congrArg ((e.1, stableStringify e.2) :: ·) ih

theorem orderedItems_eq (items : List Json) : orderedItems items = items.map ordered := by
  induction items with
  | nil => rfl
  | cons x items ih => exact congrArg (ordered x :: ·) ih

theorem orderedFields_eq (fields : List (String × Json)) :
    orderedFields fields = fields.map fun e => (e.1, ordered e.2) := by
  induction fields with
  | nil => rfl
  | cons e fields ih => exact congrArg ((e.1, ordered e.2) :: ·) ih

theorem stableStringify_eq : (a : Json) -> stableStringify a = text (ordered a)
  | .array items => by
      have hitems : items.map stableStringify = items.map fun x => text (ordered x) :=
        List.map_congr_left fun x hx => stableStringify_eq x
      rw [stableStringify, ordered, text, stableItems_eq, orderedItems_eq, itemTexts_eq,
        List.map_map, hitems]
      rfl
  | .object fields => by
      have hfields : (fields.map fun e => (e.1, stableStringify e.2)) =
          fields.map fun e => (e.1, text (ordered e.2)) :=
        List.map_congr_left fun e he => by rw [stableStringify_eq e.2]
      have hmap : (fields.map fun e => (e.1, text (ordered e.2))) =
          (fields.map fun e => (e.1, ordered e.2)).map fun e => (e.1, text e.2) := by
        rw [List.map_map]
        rfl
      rw [stableStringify, ordered, text, stableFields_eq, orderedFields_eq, fieldTexts_eq,
        hfields, hmap, ← map_sortKeys, List.map_map]
      rfl
  | .null => rfl
  | .bool _ => rfl
  | .number _ => rfl
  | .infinite _ => rfl
  | .string _ => rfl
termination_by a => sizeOf a
decreasing_by
  · exact sizeOf_lt_array hx
  · exact sizeOf_lt_object he

theorem isFinite_ordered : (a : Json) -> isFinite (ordered a) = isFinite a
  | .array items => by
      have hitems : (items.map ordered).all isFinite = items.all isFinite := by
        rw [List.all_map, Bool.eq_iff_iff, List.all_eq_true, List.all_eq_true]
        exact forall₂_congr fun x hx => by rw [Function.comp_apply, isFinite_ordered x]
      rw [ordered, isFinite, isFinite, areItemsFinite_eq, areItemsFinite_eq, orderedItems_eq, hitems]
  | .object fields => by
      have hfields : ((sortKeys (fields.map fun e => (e.1, ordered e.2))).all fun e => isFinite e.2) =
          fields.all fun e => isFinite e.2 := by
        rw [Bool.eq_iff_iff, List.all_eq_true, List.all_eq_true]
        simp only [mem_sortKeys, List.forall_mem_map]
        exact forall₂_congr fun e he => by rw [isFinite_ordered e.2]
      rw [ordered, isFinite, isFinite, areFieldsFinite_eq, areFieldsFinite_eq, orderedFields_eq,
        hfields]
  | .null => rfl
  | .bool _ => rfl
  | .number _ => rfl
  | .infinite _ => rfl
  | .string _ => rfl
termination_by a => sizeOf a
decreasing_by
  · exact sizeOf_lt_array hx
  · exact sizeOf_lt_object he

theorem isComposite_ordered (a : Json) : (ordered a).isComposite = a.isComposite := by
  cases a <;> rfl

/-! ## Requests -/

inductive Method where
  | get
  | post
  | put
  | patch
  | delete
deriving DecidableEq, Repr

def Method.text : Method -> String
  | .get => "GET"
  | .post => "POST"
  | .put => "PUT"
  | .patch => "PATCH"
  | .delete => "DELETE"

/-- What the middleware reads of a request; the parser makes a body an object or an array. -/
structure HttpRequest where
  method : Method
  baseUrl : String := ""
  path : String
  originalUrl : String := ""
  body : Json := .object []
  composite : body.isComposite = true := by rfl

/-- `req.baseUrl || ''` and `req.path || req.originalUrl || ''`. -/
def HttpRequest.target (r : HttpRequest) : String :=
  r.baseUrl ++ (if r.path = "" then r.originalUrl else r.path)

def HttpRequest.fingerprintText (r : HttpRequest) : List Char :=
  r.method.text.toList ++ ':' :: (r.target.toList ++ ':' :: stableStringify r.body)

/-- `requestFingerprint`, under a hash function. -/
def requestFingerprint (sha256 : String -> String) (r : HttpRequest) : String :=
  sha256 (String.ofList r.fingerprintText)

/-- The requests have the same method, path and body. -/
structure HttpRequest.Same (r r' : HttpRequest) : Prop where
  method : r.method = r'.method
  target : r.target = r'.target
  body : ordered r.body = ordered r'.body

variable {r r' : HttpRequest}

theorem requestFingerprint_of_same (sha256 : String -> String) (h : r.Same r') :
    requestFingerprint sha256 r = requestFingerprint sha256 r' := by
  unfold requestFingerprint HttpRequest.fingerprintText
  rw [h.method, h.target, stableStringify_eq, stableStringify_eq, h.body]

/-! ## Different requests -/

theorem method_append_inj {m m' : Method} {r r' : List Char}
    (h : m.text.toList ++ ':' :: r = m'.text.toList ++ ':' :: r') :
    m = m' ∧ r = r' := by
  cases m <;> cases m' <;> simp [Method.text] at h ⊢ <;> exact h

theorem target_append_inj {xs ys : List Char} {a b : Json} (ha : a.isComposite = true)
    (hb : b.isComposite = true) (h : xs ++ ':' :: text a = ys ++ ':' :: text b) :
    xs = ys ∧ text a = text b := by
  induction xs generalizing ys with
  | nil =>
      cases ys with
      | nil => exact ⟨rfl, (List.cons.inj h).2⟩
      | cons y ys => exact absurd (List.cons.inj h).2 (text_ne_append ha (by decide) ys)
  | cons x xs ih =>
      cases ys with
      | nil => exact absurd (List.cons.inj h).2.symm (text_ne_append hb (by decide) xs)
      | cons y ys =>
          obtain ⟨rfl, htail⟩ := List.cons.inj h
          obtain ⟨rfl, htext⟩ := ih htail
          exact ⟨rfl, htext⟩

theorem same_of_fingerprintText (hr : isFinite r.body = true) (hr' : isFinite r'.body = true)
    (h : r.fingerprintText = r'.fingerprintText) :
    r.Same r' := by
  unfold HttpRequest.fingerprintText at h
  obtain ⟨hmethod, hrest⟩ := method_append_inj h
  rw [stableStringify_eq, stableStringify_eq] at hrest
  obtain ⟨htarget, hbody⟩ := target_append_inj ((isComposite_ordered _).trans r.composite)
    ((isComposite_ordered _).trans r'.composite) hrest
  have htold := expressible_eq_of_text_eq hbody
  rw [expressible_of_isFinite _ ((isFinite_ordered _).trans hr),
    expressible_of_isFinite _ ((isFinite_ordered _).trans hr')] at htold
  exact ⟨hmethod, String.toList_injective htarget, htold⟩

end MarketBridge
