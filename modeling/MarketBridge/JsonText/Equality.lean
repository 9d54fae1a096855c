import MarketBridge.JsonText.Readable

/-!
# Equality of values

Two values are the same if they have the same items, and the same fields in any order.
Their texts, with the fields as they stand, are the same if they say the same.
-/

namespace JsonText

mutual

def hasDistinctKeys : Json -> Bool
  | .array items => itemsHaveDistinctKeys items
  | .object fields => decide (fields.map (·.1)).Nodup && fieldsHaveDistinctKeys fields
  | _ => true

def itemsHaveDistinctKeys : List Json -> Bool
  | [] => true
  | x :: items => hasDistinctKeys x && itemsHaveDistinctKeys items

def fieldsHaveDistinctKeys : List (String × Json) -> Bool
  | [] => true
  | (_, x) :: fields => hasDistinctKeys x && fieldsHaveDistinctKeys fields

end

mutual

/-- Equality of values, up to the order of the fields of every object. -/
def sameJson : Json -> Json -> Bool
  | .null, .null => true
  | .bool b, .bool c => b = c
  | .number n, .number m => n = m
  | .infinite b, .infinite c => b = c
  | .string s, .string t => s = t
  | .array items, .array items' => sameItems items items'
  | .object fields, .object fields' =>
      fields.length = fields'.length && sameFields fields fields'
  | _, _ => false

def sameItems : List Json -> List Json -> Bool
  | [], [] => true
  | x :: items, y :: items' => sameJson x y && sameItems items items'
  | _, _ => false

def sameFields : List (String × Json) -> List (String × Json) -> Bool
  | [], _ => true
  | (key, x) :: fields, fields' =>
      (fields'.lookup key).any (fun y => sameJson x y) && sameFields fields fields'

end

theorem itemsHaveDistinctKeys_eq (items : List Json) :
    itemsHaveDistinctKeys items = items.all hasDistinctKeys := by
  induction items with
  | nil => rfl
  | cons x items ih => exact congrArg (hasDistinctKeys x && ·) ih

theorem fieldsHaveDistinctKeys_eq (fields : List (String × Json)) :
    fieldsHaveDistinctKeys fields = fields.all fun e => hasDistinctKeys e.2 := by
  induction fields with
  | nil => rfl
  | cons e fields ih => exact congrArg (hasDistinctKeys e.2 && ·) ih

theorem sameFields_eq (fields fields' : List (String × Json)) :
    sameFields fields fields' =
      fields.all fun e => (fields'.lookup e.1).any fun y => sameJson e.2 y := by
  induction fields with
  | nil => rfl
  | cons e fields ih =>
      exact congrArg (((fields'.lookup e.1).any fun y => sameJson e.2 y) && ·) ih

theorem sameItems_eq_true_iff {items items' : List Json} :
    sameItems items items' = true ↔ List.Forall₂ (fun x y => sameJson x y = true) items items' := by
  induction items generalizing items' with
  | nil =>
      cases items' with
      | nil => exact ⟨fun _ => .nil, fun _ => rfl⟩
      | cons y items' => exact ⟨nofun, nofun⟩
  | cons x items ih =>
      cases items' with
      | nil => exact ⟨nofun, nofun⟩
      | cons y items' =>
          rw [sameItems, Bool.and_eq_true, List.forall₂_cons, ih]

theorem forall₂_iff_of_mem {α β : Type} {p q : α -> β -> Prop} {xs : List α} {ys : List β}
    (h : forall x, x ∈ xs -> forall y, y ∈ ys -> (p x y ↔ q x y)) :
    List.Forall₂ p xs ys ↔ List.Forall₂ q xs ys := by
  induction xs generalizing ys with
  | nil => exact ⟨fun h => by cases h; exact .nil, fun h => by cases h; exact .nil⟩
  | cons x xs ih =>
      cases ys with
      | nil => exact ⟨nofun, nofun⟩
      | cons y ys =>
          rw [List.forall₂_cons, List.forall₂_cons, h x (List.mem_cons_self ..) y
            (List.mem_cons_self ..), ih fun x' hx y' hy =>
            h x' (List.mem_cons_of_mem x hx) y' (List.mem_cons_of_mem y hy)]

theorem lookup_eq_some_iff {α : Type} {fields : List (String × α)}
    (hkeys : (fields.map (·.1)).Nodup) {key : String} {x : α} :
    fields.lookup key = some x ↔ (key, x) ∈ fields := by
  induction fields with
  | nil => simp
  | cons e fields ih =>
      obtain ⟨key', y⟩ := e
      rw [List.map_cons, List.nodup_cons] at hkeys
      rw [List.lookup_cons, List.mem_cons]
      by_cases hkey : key = key'
      · subst hkey
        have hother : (key, x) ∉ fields := fun hmem =>
          hkeys.1 (List.mem_map_of_mem (f := (·.1)) hmem)
        simp [hother, eq_comm]
      · have hbeq : (key == key') = false := beq_false_of_ne hkey
        rw [hbeq, ih hkeys.2]
        simp [hkey]

theorem text_expressible : (a : Json) -> text (expressible a) = text a
  | .array items => by
      have hitems : items.map (fun x => text (expressible x)) = items.map text :=
        List.map_congr_left fun x hx => text_expressible x
      rw [expressible, text, text, expressibleItems_eq, itemTexts_eq, itemTexts_eq, List.map_map]
      exact congrArg bracketed hitems
  | .object fields => by
      have hfields : fields.map (fun e => fieldText e.1 (text (expressible e.2))) =
          fields.map fun e => fieldText e.1 (text e.2) :=
        List.map_congr_left fun e he => by rw [text_expressible e.2]
      rw [expressible, text, text, expressibleFields_eq, fieldTexts_eq, fieldTexts_eq,
        List.map_map]
      exact congrArg braced hfields
  | .null => rfl
  | .bool _ => rfl
  | .number _ => rfl
  | .infinite _ => rfl
  | .string _ => rfl
termination_by a => sizeOf a
decreasing_by
  · exact sizeOf_lt_array hx
  · exact sizeOf_lt_object he

theorem text_eq_iff {a b : Json} : text a = text b ↔ expressible a = expressible b := by
  refine ⟨expressible_eq_of_text_eq, fun h => ?_⟩
  rw [← text_expressible a, h, text_expressible b]

end JsonText
