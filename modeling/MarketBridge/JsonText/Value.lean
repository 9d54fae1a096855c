import Mathlib.Data.List.Basic

/-!
# JSON values and their text

Compact JSON text as a list of characters.  Numbers are kept as the text that they have;
a number that is not finite has the text of `null`.
-/

namespace JsonText

def isNumeric (c : Char) : Bool :=
  c.isDigit || c ∈ ['+', '-', '.', 'e']

/-- The text of a finite number. -/
structure NumberText where
  text : List Char
  nonempty : text ≠ []
  numeric : forall c, c ∈ text -> isNumeric c = true
deriving DecidableEq, Repr

inductive Json where
  | null
  | bool (b : Bool)
  | number (n : NumberText)
  /-- A literal that is too large for a number. -/
  | infinite (negative : Bool)
  | string (s : String)
  | array (items : List Json)
  | object (fields : List (String × Json))
deriving Repr

theorem sizeOf_lt_array {x : Json} {items : List Json} (hx : x ∈ items) :
    sizeOf x < sizeOf (Json.array items) := by
  have hsize := List.sizeOf_lt_of_mem hx
  simp only [Json.array.sizeOf_spec]
  omega

theorem sizeOf_lt_object {e : String × Json} {fields : List (String × Json)} (he : e ∈ fields) :
    sizeOf e.2 < sizeOf (Json.object fields) := by
  have hsize := List.sizeOf_lt_of_mem he
  obtain ⟨key, x⟩ := e
  simp only [Json.object.sizeOf_spec, Prod.mk.sizeOf_spec] at hsize ⊢
  omega

/-! ## Strings -/

def quotation : Char := '\x22'

def backslash : Char := '\x5c'

def hexDigit (n : Nat) : Char :=
  if n < 10 then Char.ofNat (48 + n) else Char.ofNat (87 + n)

def shortEscapes : List (Char × Char) :=
  [(quotation, quotation), (backslash, backslash), ('\n', 'n'), ('\r', 'r'), ('\t', 't'),
    ('\x08', 'b'), ('\x0c', 'f')]

def escape (c : Char) : List Char :=
  match shortEscapes.lookup c with
  | some letter => [backslash, letter]
  | none =>
      if c.toNat < 32 then
        [backslash, 'u', '0', '0', hexDigit (c.toNat / 16), hexDigit (c.toNat % 16)]
      else
        [c]

def quoted (s : List Char) : List Char :=
  quotation :: (s.flatMap escape ++ [quotation])

def quote (s : String) : List Char :=
  quoted s.toList

/-! ## Values -/

def joined (texts : List (List Char)) : List Char :=
  [','].intercalate texts

def bracketed (texts : List (List Char)) : List Char :=
  '[' :: (joined texts ++ [']'])

def braced (texts : List (List Char)) : List Char :=
  '\x7b' :: (joined texts ++ ['\x7d'])

def fieldText (key : String) (value : List Char) : List Char :=
  quote key ++ ':' :: value

mutual

/-- `JSON.stringify`, with the fields in the order that they have. -/
def text : Json -> List Char
  | .null => "null".toList
  | .bool true => "true".toList
  | .bool false => "false".toList
  | .number n => n.text
  | .infinite _ => "null".toList
  | .string s => quote s
  | .array items => bracketed (itemTexts items)
  | .object fields => braced (fieldTexts fields)

def itemTexts : List Json -> List (List Char)
  | [] => []
  | x :: items => text x :: itemTexts items

def fieldTexts : List (String × Json) -> List (List Char)
  | [] => []
  | (key, x) :: fields => fieldText key (text x) :: fieldTexts fields

end

mutual

def expressible : Json -> Json
  | .infinite _ => .null
  | .array items => .array (expressibleItems items)
  | .object fields => .object (expressibleFields fields)
  | x => x

def expressibleItems : List Json -> List Json
  | [] => []
  | x :: items => expressible x :: expressibleItems items

def expressibleFields : List (String × Json) -> List (String × Json)
  | [] => []
  | (key, x) :: fields => (key, expressible x) :: expressibleFields fields

end

mutual

def isFinite : Json -> Bool
  | .infinite _ => false
  | .array items => areItemsFinite items
  | .object fields => areFieldsFinite fields
  | _ => true

def areItemsFinite : List Json -> Bool
  | [] => true
  | x :: items => isFinite x && areItemsFinite items

def areFieldsFinite : List (String × Json) -> Bool
  | [] => true
  | (_, x) :: fields => isFinite x && areFieldsFinite fields

end

theorem itemTexts_eq (items : List Json) : itemTexts items = items.map text := by
  induction items with
  | nil => rfl
  | cons x items ih => exact congrArg (text x :: ·) ih

theorem fieldTexts_eq (fields : List (String × Json)) :
    fieldTexts fields = fields.map fun e => fieldText e.1 (text e.2) := by
  induction fields with
  | nil => rfl
  | cons e fields ih => exact congrArg (fieldText e.1 (text e.2) :: ·) ih

theorem expressibleItems_eq (items : List Json) :
    expressibleItems items = items.map expressible := by
  induction items with
  | nil => rfl
  | cons x items ih => exact congrArg (expressible x :: ·) ih

theorem expressibleFields_eq (fields : List (String × Json)) :
    expressibleFields fields = fields.map fun e => (e.1, expressible e.2) := by
  induction fields with
  | nil => rfl
  | cons e fields ih => exact congrArg ((e.1, expressible e.2) :: ·) ih

theorem areItemsFinite_eq (items : List Json) : areItemsFinite items = items.all isFinite := by
  induction items with
  | nil => rfl
  | cons x items ih => exact congrArg (isFinite x && ·) ih

theorem areFieldsFinite_eq (fields : List (String × Json)) :
    areFieldsFinite fields = fields.all fun e => isFinite e.2 := by
  induction fields with
  | nil => rfl
  | cons e fields ih => exact congrArg (isFinite e.2 && ·) ih

/-- A finite value is what its text says. -/
theorem expressible_of_isFinite : (a : Json) -> isFinite a = true -> expressible a = a
  | .infinite _, h => by cases h
  | .array items, h => by
      rw [isFinite, areItemsFinite_eq, List.all_eq_true] at h
      rw [expressible, expressibleItems_eq]
      exact congrArg Json.array
        (List.map_congr_left (fun x hx => expressible_of_isFinite x (h x hx)) |>.trans
          (List.map_id items))
  | .object fields, h => by
      rw [isFinite, areFieldsFinite_eq, List.all_eq_true] at h
      rw [expressible, expressibleFields_eq]
      exact congrArg Json.object
        (List.map_congr_left (fun e he => by rw [expressible_of_isFinite e.2 (h e he)]; rfl) |>.trans
          (List.map_id fields))
  | .null, _ => rfl
  | .bool _, _ => rfl
  | .number _, _ => rfl
  | .string _, _ => rfl
termination_by a => sizeOf a
decreasing_by
  · exact sizeOf_lt_array hx
  · exact sizeOf_lt_object he

/-! ## Reading a string -/

def hexValue (c : Char) : Nat :=
  if c.toNat < 58 then c.toNat - 48 else c.toNat - 87

/-- The first character of the inside of a string. -/
def unescape : List Char -> Option (Char × List Char)
  | [] => none
  | c :: rest =>
      if c = backslash then
        match rest with
        | 'u' :: _ :: _ :: high :: low :: rest =>
            some (Char.ofNat (16 * hexValue high + hexValue low), rest)
        | letter :: rest =>
            (shortEscapes.find? fun e => e.2 = letter).map fun e => (e.1, rest)
        | [] => none
      else
        some (c, rest)

theorem hexValue_hexDigit : forall n, n < 16 -> hexValue (hexDigit n) = n := by
  decide

theorem mem_of_lookup {c letter : Char} {table : List (Char × Char)}
    (h : table.lookup c = some letter) :
    (c, letter) ∈ table := by
  induction table with
  | nil => cases h
  | cons e table ih =>
      rw [List.lookup_cons] at h
      split at h
      · rename_i hc
        obtain rfl := Option.some.inj h
        rw [eq_of_beq hc]
        exact List.mem_cons_self ..
      · exact List.mem_cons_of_mem e (ih h)

theorem unescape_shortEscape (rest : List Char) :
    forall e, e ∈ shortEscapes -> unescape (backslash :: e.2 :: rest) = some (e.1, rest) := by
  intro e he
  simp only [shortEscapes, List.mem_cons, List.not_mem_nil, or_false] at he
  rcases he with rfl | rfl | rfl | rfl | rfl | rfl | rfl <;> rfl

theorem ne_of_lookup_eq_none {c : Char} (h : shortEscapes.lookup c = none) :
    c ≠ quotation ∧ c ≠ backslash := by
  constructor
  · rintro rfl
    cases h
  · rintro rfl
    cases h

theorem unescape_escape (c : Char) (rest : List Char) :
    unescape (escape c ++ rest) = some (c, rest) := by
  unfold escape
  split
  · rename_i letter hletter
    exact unescape_shortEscape rest (c, letter) (mem_of_lookup hletter)
  · rename_i hnone
    split
    · rename_i hcontrol
      have hhigh := hexValue_hexDigit (c.toNat / 16) (by omega)
      have hlow := hexValue_hexDigit (c.toNat % 16) (by omega)
      have hread : 16 * (c.toNat / 16) + c.toNat % 16 = c.toNat := by omega
      show some (Char.ofNat (16 * hexValue (hexDigit (c.toNat / 16)) +
        hexValue (hexDigit (c.toNat % 16))), rest) = some (c, rest)
      rw [hhigh, hlow, hread, Char.ofNat_toNat]
    · exact if_neg (ne_of_lookup_eq_none hnone).2

theorem escape_cases (c : Char) :
    (exists rest, escape c = backslash :: rest) ∨
      escape c = [c] ∧ c ≠ quotation ∧ c ≠ backslash := by
  unfold escape
  split
  · exact Or.inl ⟨_, rfl⟩
  · rename_i hnone
    split
    · exact Or.inl ⟨_, rfl⟩
    · exact Or.inr ⟨rfl, ne_of_lookup_eq_none hnone⟩

end JsonText
