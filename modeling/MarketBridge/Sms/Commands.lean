import MarketBridge.Schema.Enums

/-!
# Text messages

`smsService.js` and `smsListingService.js`: phone numbers, words and numbers as they are
typed.  `toUpperCase` is a parameter, since nothing here depends on the table of letters.
-/

namespace MarketBridge

/-! ## Phone numbers -/

/-- `/(7|9)\d\x7b8\x7d/`. -/
def isSubscriber : List Char -> Bool
  | [] => false
  | c :: digits => (c = '7' || c = '9') && digits.length = 8 && digits.all Char.isDigit

/-- The digits are those of a mobile number after `lead`. -/
def isMobile (lead : String) (digits : List Char) : Bool :=
  lead.toList.isPrefixOf digits && isSubscriber (digits.drop lead.length)

/-- Normalize a number as it is typed in Ethiopia; `none` when it is not a mobile number. -/
def normalizeEthiopianPhone (raw : String) : Option String :=
  let digits := raw.toList.filter fun c => c.isDigit || c = '+'
  if isMobile "+251" digits then
    some (String.ofList digits)
  else if isMobile "251" digits then
    some (String.ofList ('+' :: digits))
  else if isMobile "0" digits then
    some (String.ofList ("+251".toList ++ digits.drop 1))
  else if isMobile "" digits then
    some (String.ofList ("+251".toList ++ digits))
  else
    none

theorem isMobile_eq_true {lead : String} {digits : List Char} (h : isMobile lead digits = true) :
    exists subscriber, digits = lead.toList ++ subscriber ∧ isSubscriber subscriber = true := by
  obtain ⟨hlead, hsubscriber⟩ := Bool.and_eq_true_iff.1 h
  have hsplit := List.prefix_iff_eq_append.1 (List.isPrefixOf_iff_prefix.1 hlead)
  rw [String.length_toList] at hsplit
  exact ⟨_, hsplit.symm, hsubscriber⟩

theorem normalizeEthiopianPhone_eq_some {raw phone : String}
    (h : normalizeEthiopianPhone raw = some phone) :
    exists lead subscriber, lead ∈ ["+251", "251", "0", ""] ∧ isSubscriber subscriber = true ∧
      (raw.toList.filter fun c => c.isDigit || c = '+') = lead.toList ++ subscriber ∧
      phone.toList = "+251".toList ++ subscriber := by
  unfold normalizeEthiopianPhone at h
  simp only at h
  split at h
  · rename_i hmobile
    obtain ⟨subscriber, hdigits, hsubscriber⟩ := isMobile_eq_true hmobile
    rw [← Option.some.inj h, String.toList_ofList]
    exact ⟨_, subscriber, by decide, hsubscriber, hdigits, hdigits⟩
  · split at h
    · rename_i hmobile
      obtain ⟨subscriber, hdigits, hsubscriber⟩ := isMobile_eq_true hmobile
      rw [← Option.some.inj h, String.toList_ofList, hdigits]
      exact ⟨"251", subscriber, by decide, hsubscriber, rfl, rfl⟩
    · split at h
      · rename_i hmobile
        obtain ⟨subscriber, hdigits, hsubscriber⟩ := isMobile_eq_true hmobile
        rw [← Option.some.inj h, String.toList_ofList, hdigits]
        exact ⟨"0", subscriber, by decide, hsubscriber, rfl, rfl⟩
      · split at h
        · rename_i hmobile
          obtain ⟨subscriber, hdigits, hsubscriber⟩ := isMobile_eq_true hmobile
          rw [← Option.some.inj h, String.toList_ofList, hdigits]
          exact ⟨"", subscriber, by decide, hsubscriber, rfl, rfl⟩
        · cases h

theorem normalizeEthiopianPhone_self {raw phone : String}
    (h : normalizeEthiopianPhone raw = some phone) :
    normalizeEthiopianPhone phone = some phone := by
  obtain ⟨_, subscriber, -, hsubscriber, -, hphone⟩ := normalizeEthiopianPhone_eq_some h
  have hdigits : subscriber.all Char.isDigit = true := by
    cases subscriber with
    | nil => rfl
    | cons c digits =>
        simp only [isSubscriber, Bool.and_eq_true, Bool.or_eq_true, decide_eq_true_eq] at hsubscriber
        obtain ⟨⟨hfirst, -⟩, hall⟩ := hsubscriber
        rw [List.all_cons, hall, Bool.and_true]
        rcases hfirst with rfl | rfl <;> rfl
  have hcountry : forall c, c ∈ "+251".toList -> (c.isDigit || c = '+') = true :=
    List.all_eq_true.1 (by decide)
  have hkept : (phone.toList.filter fun c => c.isDigit || c = '+') = phone.toList := by
    rw [List.filter_eq_self, hphone]
    intro c hc
    rcases List.mem_append.1 hc with hc | hc
    · exact hcountry c hc
    · rw [List.all_eq_true.1 hdigits c hc, Bool.true_or]
  have hmobile : isMobile "+251" phone.toList = true := by
    rw [hphone]
    exact hsubscriber
  unfold normalizeEthiopianPhone
  rw [hkept, if_pos hmobile, String.ofList_toList]

/-- A subscriber is dialled with the country code, with `0` or alone. -/
theorem normalizeEthiopianPhone_of_dialled {raw lead : String} {subscriber : List Char}
    (hlead : lead ∈ ["+251", "251", "0", ""]) (hsubscriber : isSubscriber subscriber = true)
    (hdialled : (raw.toList.filter fun c => c.isDigit || c = '+') = lead.toList ++ subscriber) :
    normalizeEthiopianPhone raw = some (String.ofList ("+251".toList ++ subscriber)) := by
  obtain ⟨c, digits, rfl, hfirst⟩ : exists c digits, subscriber = c :: digits ∧
      (c = '7' ∨ c = '9') := by
    cases subscriber with
    | nil => cases hsubscriber
    | cons c digits =>
        simp only [isSubscriber, Bool.and_eq_true, Bool.or_eq_true, decide_eq_true_eq] at hsubscriber
        exact ⟨c, digits, rfl, hsubscriber.1.1⟩
  have hmobile : isMobile lead (lead.toList ++ c :: digits) = true := by
    rw [isMobile, List.isPrefixOf_iff_prefix.2 (List.prefix_append _ _), Bool.true_and,
      ← String.length_toList, List.drop_left]
    exact hsubscriber
  -- The first character tells the four ways of dialling apart.
  have hother : forall l : String, forall d rest, l.toList = d :: rest ->
      (lead.toList ++ c :: digits).head? ≠ some d ->
      isMobile l (lead.toList ++ c :: digits) = false := by
    intro l d rest hl hhead
    cases hdigits : lead.toList ++ c :: digits with
    | nil => simp [isMobile, hl]
    | cons e tail =>
        rw [hdigits] at hhead
        have hne : d ≠ e := fun h => hhead (by rw [h]; rfl)
        simp [isMobile, hl, hne]
  unfold normalizeEthiopianPhone
  rw [hdialled]
  dsimp only
  simp only [List.mem_cons, List.not_mem_nil, or_false] at hlead
  have hseven : c ≠ '+' ∧ c ≠ '2' ∧ c ≠ '0' := by
    rcases hfirst with rfl | rfl <;> decide
  rcases hlead with rfl | rfl | rfl | rfl
  · rw [if_pos hmobile]
  · rw [hother "+251" '+' _ rfl (by simp), if_neg Bool.false_ne_true, if_pos hmobile]
    rfl
  · rw [hother "+251" '+' _ rfl (by simp), hother "251" '2' _ rfl (by simp),
      if_neg Bool.false_ne_true, if_neg Bool.false_ne_true, if_pos hmobile]
    rfl
  · have hhead : forall d, c ≠ d -> ("".toList ++ c :: digits).head? ≠ some d :=
      fun d hd h => hd (Option.some.inj h)
    rw [hother "+251" '+' _ rfl (hhead _ hseven.1), hother "251" '2' _ rfl (hhead _ hseven.2.1),
      hother "0" '0' _ rfl (hhead _ hseven.2.2), if_neg Bool.false_ne_true,
      if_neg Bool.false_ne_true, if_neg Bool.false_ne_true, if_pos hmobile]
    rfl

/--
A number is normalized exactly when it is one of the four ways of dialling a subscriber, the
result is the way with the country code, and normalizing it again changes nothing.
-/
theorem normalizeEthiopianPhone_normal (raw : String) :
    (normalizeEthiopianPhone raw).bind normalizeEthiopianPhone = normalizeEthiopianPhone raw ∧
      forall phone, normalizeEthiopianPhone raw = some phone ↔
        exists lead subscriber, lead ∈ ["+251", "251", "0", ""] ∧ isSubscriber subscriber = true ∧
          (raw.toList.filter fun c => c.isDigit || c = '+') = lead.toList ++ subscriber ∧
          phone.toList = "+251".toList ++ subscriber := by
  refine ⟨?_, fun phone => ⟨normalizeEthiopianPhone_eq_some, ?_⟩⟩
  · cases hphone : normalizeEthiopianPhone raw with
    | none => rfl
    | some phone => exact normalizeEthiopianPhone_self hphone
  · rintro ⟨lead, subscriber, hlead, hsubscriber, hdialled, hphone⟩
    rw [normalizeEthiopianPhone_of_dialled hlead hsubscriber hdialled, ← hphone,
      String.ofList_toList]

example : normalizeEthiopianPhone "0911 22-33-44" = some "+251911223344" := by decide +kernel

/-! ## Words -/

/-- `split(/\s+/).filter(Boolean)`, with the letters of the word at hand. -/
def wordsFrom : List Char -> List Char -> List String
  | [], word => if word = [] then [] else [String.ofList word]
  | c :: rest, word =>
      if isSpace c then
        if word = [] then wordsFrom rest [] else String.ofList word :: wordsFrom rest []
      else
        wordsFrom rest (word ++ [c])

def words (text : String) : List String :=
  wordsFrom (trimText text).toList []

/-! ## Numbers -/

/-- The value of a digit, letters included. -/
def digitValue (c : Char) : Option Nat :=
  if c.isDigit then
    some (c.toNat - '0'.toNat)
  else if c.isLower then
    some (c.toNat - 'a'.toNat + 10)
  else if c.isUpper then
    some (c.toNat - 'A'.toNat + 10)
  else
    none

/-- Read digits of a base, after the value `n`. -/
def digitsFrom (base : Nat) : List Char -> Nat -> Option Nat
  | [], n => some n
  | c :: digits, n =>
      match digitValue c with
      | some d => if d < base then digitsFrom base digits (n * base + d) else none
      | none => none

def natural (base : Nat) : List Char -> Option Nat
  | [] => none
  | digits => digitsFrom base digits 0

/-- Digits, a point and digits, one of which has to be there. -/
def mantissa (text : List Char) : Option ℚ :=
  match text.span (· ≠ '.') with
  | (whole, []) => (natural 10 whole).map fun n => (n : ℚ)
  | (whole, _ :: fraction) =>
      if whole = [] && fraction = [] then
        none
      else
        match digitsFrom 10 whole 0, digitsFrom 10 fraction 0 with
        | some n, some m => some (n + m / 10 ^ fraction.length)
        | _, _ => none

def exponent : List Char -> Option ℤ
  | '-' :: digits => (natural 10 digits).map fun n => -(n : ℤ)
  | '+' :: digits => (natural 10 digits).map fun n => (n : ℤ)
  | digits => (natural 10 digits).map fun n => (n : ℤ)

def decimal (text : List Char) : Option ℚ :=
  match text.span fun c => c ≠ 'e' && c ≠ 'E' with
  | (digits, []) => mantissa digits
  | (digits, _ :: power) =>
      match mantissa digits, exponent power with
      | some m, some e => some (m * (10 : ℚ) ^ e)
      | _, _ => none

/-- The number of a literal: too large ones are infinite, too small ones zero. -/
def JsNumber.ofRational (value : ℚ) : JsNumber :=
  if 2 ^ 1024 - 2 ^ 970 ≤ |value| then
    .notFinite
  else if |value| * 2 ^ 1075 ≤ 1 then
    .finite 0
  else
    .finite value

def JsNumber.ofOption : Option ℚ -> JsNumber
  | none => .notFinite
  | some value => .ofRational value

/-- `Number(text)`, without the rounding to 53 bits. -/
def toNumber (text : String) : JsNumber :=
  match (trimText text).toList with
  | [] => .finite 0
  | '0' :: 'x' :: digits => .ofOption ((natural 16 digits).map fun n => (n : ℚ))
  | '0' :: 'X' :: digits => .ofOption ((natural 16 digits).map fun n => (n : ℚ))
  | '0' :: 'o' :: digits => .ofOption ((natural 8 digits).map fun n => (n : ℚ))
  | '0' :: 'O' :: digits => .ofOption ((natural 8 digits).map fun n => (n : ℚ))
  | '0' :: 'b' :: digits => .ofOption ((natural 2 digits).map fun n => (n : ℚ))
  | '0' :: 'B' :: digits => .ofOption ((natural 2 digits).map fun n => (n : ℚ))
  | '+' :: digits => .ofOption (decimal digits)
  | '-' :: digits => .ofOption ((decimal digits).map fun n => -n)
  | digits => .ofOption (decimal digits)

example : toNumber "25.50" = .finite (51 / 2) := by decide +kernel

/-! ## `LIST` -/

structure ListCommand where
  cropType : String
  quantity : ℚ
  unit : String
  askingPrice : ℚ
  location : String
deriving DecidableEq, Repr

section

variable (toUpperCase : String -> String)

/-- `parseListCommand`. -/
def parseListCommand : List String -> Except String ListCommand
  | cropType :: quantityRaw :: unit :: priceRaw :: place :: places =>
      match toNumber quantityRaw with
      | .notFinite => .error ("\x22" ++ quantityRaw ++ "\x22 is not a valid quantity")
      | .finite quantity =>
          if quantity ≤ 0 then
            .error ("\x22" ++ quantityRaw ++ "\x22 is not a valid quantity")
          else
            match toNumber priceRaw with
            | .notFinite => .error ("\x22" ++ priceRaw ++ "\x22 is not a valid price")
            | .finite askingPrice =>
                if askingPrice ≤ 0 then
                  .error ("\x22" ++ priceRaw ++ "\x22 is not a valid price")
                else if trimText (" ".intercalate (place :: places)) = "" then
                  .error "A location is required, e.g. LIST WHEAT 500 KG 25 Debre Zeit"
                else
                  .ok
                    { cropType := toUpperCase cropType
                      quantity := quantity
                      unit := toUpperCase unit
                      askingPrice := askingPrice
                      location := trimText (" ".intercalate (place :: places)) }
  | _ => .error ("LIST needs: crop, quantity, unit, price per unit, and a location. " ++
      "Example: LIST WHEAT 500 KG 25 Debre Zeit")

end

end MarketBridge
