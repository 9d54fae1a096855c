import MarketBridge.JsonText.Readable

/-!
# Where the text of an object or an array may begin

A scanner keeps the number of open brackets and whether it is inside of a string.  It stops
for good when the first bracket is closed.  A value that is scanned from outside of a string
leaves the scanner as it was, and one that is scanned from inside leaves it inside, or
fails.  So no text of an object or an array ends with another one after a character that
does not begin an escape.
-/

namespace JsonText

inductive Scan where
  | done
  /-- So many brackets are open besides the first. -/
  | outside (depth : Nat)
  | inside (depth : Nat)
  | escaped (depth : Nat)
deriving DecidableEq, Repr

def opens (c : Char) : Bool :=
  c ∈ ['[', '\x7b']

def closes (c : Char) : Bool :=
  c ∈ [']', '\x7d']

namespace Scan

def next : Scan -> Char -> Option Scan
  | .done, _ => none
  | .outside depth, c =>
      if c = quotation then some (.inside depth)
      else if c = backslash then none
      else if opens c then some (.outside (depth + 1))
      else if closes c then some (if depth = 0 then .done else .outside (depth - 1))
      else some (.outside depth)
  | .inside depth, c =>
      if c = quotation then some (.outside depth)
      else if c = backslash then some (.escaped depth)
      else some (.inside depth)
  | .escaped depth, _ => some (.inside depth)

def through : Scan -> List Char -> Option Scan
  | s, [] => some s
  | s, c :: rest => (s.next c).bind fun t => t.through rest

theorem through_append (s : Scan) (xs ys : List Char) :
    s.through (xs ++ ys) = (s.through xs).bind fun t => t.through ys := by
  induction xs generalizing s with
  | nil => rfl
  | cons c xs ih =>
      rw [List.cons_append, through, through]
      cases s.next c with
      | none => rfl
      | some t => exact ih t

/-! ## From outside of a string -/

def Neutral (xs : List Char) : Prop :=
  forall depth, (outside depth).through xs = some (.outside depth)

theorem Neutral.nil : Neutral [] :=
  fun _ => rfl

variable {xs : List Char}

theorem Neutral.append {ys : List Char} (hx : Neutral xs) (hy : Neutral ys) :
    Neutral (xs ++ ys) := by
  intro depth
  rw [through_append, hx depth]
  exact hy depth

def isPlain (c : Char) : Bool :=
  c ≠ quotation && c ≠ backslash && !opens c && !closes c

theorem next_plain {c : Char} (hc : isPlain c = true) (depth : Nat) :
    (outside depth).next c = some (.outside depth) := by
  simp only [isPlain, Bool.and_eq_true, decide_eq_true_eq, Bool.not_eq_true'] at hc
  obtain ⟨⟨⟨hquotation, hbackslash⟩, hopens⟩, hcloses⟩ := hc
  simp [next, hquotation, hbackslash, hopens, hcloses]

theorem Neutral.cons {c : Char} (hc : isPlain c = true) (hx : Neutral xs) :
    Neutral (c :: xs) := by
  intro depth
  rw [through, next_plain hc]
  exact hx depth

theorem inside_through_escape (c : Char) (depth : Nat) :
    (inside depth).through (escape c) = some (.inside depth) := by
  have hplain : forall d, d ≠ quotation -> d ≠ backslash ->
      (inside depth).next d = some (.inside depth) := by
    intro d hquotation hbackslash
    simp [next, hquotation, hbackslash]
  unfold escape
  split
  · rfl
  · rename_i hnone
    split
    · rename_i hcontrol
      have hdigit : forall n, n < 16 -> hexDigit n ≠ quotation ∧ hexDigit n ≠ backslash := by
        decide
      have hhigh := hdigit (c.toNat / 16) (by omega)
      have hlow := hdigit (c.toNat % 16) (by omega)
      show ((inside depth).through [hexDigit (c.toNat / 16), hexDigit (c.toNat % 16)]) = _
      rw [through, hplain _ hhigh.1 hhigh.2, Option.bind_some, through, hplain _ hlow.1 hlow.2]
      rfl
    · have hc := ne_of_lookup_eq_none hnone
      rw [through, hplain c hc.1 hc.2]
      rfl

theorem inside_through_escapes (s : List Char) (depth : Nat) :
    (inside depth).through (s.flatMap escape) = some (.inside depth) := by
  induction s with
  | nil => rfl
  | cons c s ih =>
      rw [List.flatMap_cons, through_append, inside_through_escape, Option.bind_some]
      exact ih

theorem Neutral.quoted (s : List Char) : Neutral (quoted s) := by
  intro depth
  show (inside depth).through (s.flatMap escape ++ [quotation]) = _
  rw [through_append, inside_through_escapes]
  rfl

theorem Neutral.enclosed {opening closing : Char} (hopening : opens opening = true)
    (hclosing : closes closing = true) (h : Neutral xs) :
    Neutral (opening :: (xs ++ [closing])) := by
  intro depth
  have hopen : (outside depth).next opening = some (.outside (depth + 1)) := by
    simp only [opens, List.mem_cons, List.not_mem_nil, or_false, decide_eq_true_eq] at hopening
    rcases hopening with rfl | rfl <;> rfl
  have hclose : (outside (depth + 1)).next closing = some (.outside depth) := by
    simp only [closes, List.mem_cons, List.not_mem_nil, or_false, decide_eq_true_eq] at hclosing
    rcases hclosing with rfl | rfl <;> rfl
  rw [through, hopen, Option.bind_some, through_append, h, Option.bind_some, through, hclose]
  rfl

/-! ## From inside of a string -/

def StaysInside (xs : List Char) : Prop :=
  forall depth, (inside depth).through xs = none ∨
    exists depth', (inside depth).through xs = some (.inside depth')

theorem StaysInside.nil : StaysInside [] :=
  fun depth => Or.inr ⟨depth, rfl⟩

theorem StaysInside.append {ys : List Char} (hx : StaysInside xs) (hy : StaysInside ys) :
    StaysInside (xs ++ ys) := by
  intro depth
  rw [through_append]
  rcases hx depth with hfail | ⟨depth', hend⟩
  · rw [hfail]
    exact Or.inl rfl
  · rw [hend]
    exact hy depth'

theorem StaysInside.cons {c : Char} (hquotation : c ≠ quotation) (hbackslash : c ≠ backslash)
    (hx : StaysInside xs) :
    StaysInside (c :: xs) := by
  intro depth
  have hnext : (inside depth).next c = some (.inside depth) := by
    simp [next, hquotation, hbackslash]
  rw [through, hnext]
  exact hx depth

theorem outside_through_escapes (s : List Char) (depth : Nat) :
    (outside depth).through (s.flatMap escape) = none ∨
      (outside depth).through (s.flatMap escape) = some .done ∨
      exists depth', (outside depth).through (s.flatMap escape) = some (.outside depth') := by
  induction s generalizing depth with
  | nil => exact Or.inr (Or.inr ⟨depth, rfl⟩)
  | cons c s ih =>
      rw [List.flatMap_cons]
      rcases escape_cases c with ⟨rest, hescape⟩ | ⟨hescape, hquotation, hbackslash⟩
      · rw [hescape]
        exact Or.inl rfl
      · rw [hescape, List.singleton_append, through]
        have hnext : (outside depth).next c = some .done ∨
            exists depth', (outside depth).next c = some (.outside depth') := by
          simp only [next, if_neg hquotation, if_neg hbackslash]
          split
          · exact Or.inr ⟨_, rfl⟩
          · split
            · split
              · exact Or.inl rfl
              · exact Or.inr ⟨_, rfl⟩
            · exact Or.inr ⟨_, rfl⟩
        rcases hnext with hdone | ⟨depth', houtside⟩
        · rw [hdone, Option.bind_some]
          cases s.flatMap escape with
          | nil => exact Or.inr (Or.inl rfl)
          | cons d rest => exact Or.inl rfl
        · rw [houtside]
          exact ih depth'

theorem StaysInside.quoted (s : List Char) : StaysInside (quoted s) := by
  intro depth
  have hopen : (inside depth).through (JsonText.quoted s) =
      (outside depth).through (s.flatMap escape ++ [quotation]) := rfl
  rw [hopen, through_append]
  rcases outside_through_escapes s depth with hfail | hdone | ⟨depth', houtside⟩
  · rw [hfail]
    exact Or.inl rfl
  · rw [hdone]
    exact Or.inl rfl
  · rw [houtside]
    exact Or.inr ⟨depth', rfl⟩

end Scan

/-! ## Values -/

open Scan

/-- The text is neutral, and from inside of a string it stays there. -/
structure Balanced (xs : List Char) : Prop where
  neutral : Neutral xs
  stays : StaysInside xs

namespace Balanced

theorem nil : Balanced [] :=
  ⟨.nil, .nil⟩

variable {xs : List Char} {texts : List (List Char)}

theorem append {ys : List Char} (hx : Balanced xs) (hy : Balanced ys) : Balanced (xs ++ ys) :=
  ⟨hx.neutral.append hy.neutral, hx.stays.append hy.stays⟩

theorem cons {c : Char} (hc : isPlain c = true) (hx : Balanced xs) :
    Balanced (c :: xs) := by
  have hplain := hc
  simp only [isPlain, Bool.and_eq_true, decide_eq_true_eq] at hplain
  exact ⟨.cons hc hx.neutral, .cons hplain.1.1.1 hplain.1.1.2 hx.stays⟩

theorem plain (h : forall c, c ∈ xs -> isPlain c = true) : Balanced xs := by
  induction xs with
  | nil => exact .nil
  | cons c xs ih =>
      exact .cons (h c (List.mem_cons_self ..)) (ih fun d hd => h d (List.mem_cons_of_mem c hd))

theorem quoted (s : List Char) : Balanced (quoted s) :=
  ⟨.quoted s, .quoted s⟩

theorem joined (h : forall xs, xs ∈ texts -> Balanced xs) :
    Balanced (joined texts) := by
  induction texts with
  | nil => exact .nil
  | cons xs texts ih =>
      have hfirst := h xs (List.mem_cons_self ..)
      have hrest := ih fun ys hys => h ys (List.mem_cons_of_mem xs hys)
      cases texts with
      | nil => simpa [JsonText.joined] using hfirst
      | cons ys texts =>
          have hjoined : JsonText.joined (xs :: ys :: texts) =
              xs ++ ',' :: JsonText.joined (ys :: texts) := by
            simp [JsonText.joined, List.intercalate]
          rw [hjoined]
          exact hfirst.append (.cons (by decide) hrest)

theorem fieldText (key : String) {value : List Char} (h : Balanced value) :
    Balanced (fieldText key value) :=
  (quoted key.toList).append (.cons (by decide) h)

theorem bracketed (h : forall xs, xs ∈ texts -> Balanced xs) :
    Balanced (bracketed texts) :=
  ⟨.enclosed rfl rfl (joined h).neutral,
    .cons (by decide) (by decide) ((joined h).stays.append (.cons (by decide) (by decide) .nil))⟩

theorem braced (h : forall xs, xs ∈ texts -> Balanced xs) :
    Balanced (braced texts) :=
  ⟨.enclosed rfl rfl (joined h).neutral,
    .cons (by decide) (by decide) ((joined h).stays.append (.cons (by decide) (by decide) .nil))⟩

theorem numeric (n : NumberText) : Balanced n.text := by
  refine plain fun c hc => ?_
  have hne : forall d, isNumeric d = false -> c ≠ d := by
    rintro d hd rfl
    rw [n.numeric c hc] at hd
    cases hd
  simp [isPlain, opens, closes, hne quotation (by decide), hne backslash (by decide),
    hne '[' (by decide), hne ']' (by decide), hne '\x7b' (by decide), hne '\x7d' (by decide)]

end Balanced

theorem balanced_text : (a : Json) -> Balanced (text a)
  | .null => .plain (List.all_eq_true.1 (by decide))
  | .infinite _ => show Balanced "null".toList from .plain (List.all_eq_true.1 (by decide))
  | .bool true => .plain (List.all_eq_true.1 (by decide))
  | .bool false => .plain (List.all_eq_true.1 (by decide))
  | .number n => .numeric n
  | .string s => .quoted s.toList
  | .array items => by
      rw [text, itemTexts_eq]
      refine .bracketed fun xs hxs => ?_
      obtain ⟨x, hx, rfl⟩ := List.mem_map.1 hxs
      exact balanced_text x
  | .object fields => by
      rw [text, fieldTexts_eq]
      refine .braced fun xs hxs => ?_
      obtain ⟨e, he, rfl⟩ := List.mem_map.1 hxs
      exact .fieldText e.1 (balanced_text e.2)
termination_by a => sizeOf a
decreasing_by
  · exact sizeOf_lt_array hx
  · exact sizeOf_lt_object he

/-! ## Objects and arrays -/

def Json.isComposite : Json -> Bool
  | .array _ => true
  | .object _ => true
  | _ => false

theorem text_scan {a : Json} (ha : a.isComposite = true) :
    exists c rest, text a = c :: rest ∧ (Scan.outside 0).through rest = some .done := by
  have hscan : forall {texts : List (List Char)} {closing : Char},
      (Scan.outside 0).next closing = some .done -> Neutral (joined texts) ->
      (Scan.outside 0).through (joined texts ++ [closing]) = some .done := by
    intro texts closing hclose hneutral
    rw [through_append, hneutral 0, Option.bind_some, through, hclose]
    rfl
  cases a with
  | array items =>
      refine ⟨'[', joined (itemTexts items) ++ [']'], rfl, hscan rfl ?_⟩
      rw [itemTexts_eq]
      refine (Balanced.joined fun xs hxs => ?_).neutral
      obtain ⟨x, -, rfl⟩ := List.mem_map.1 hxs
      exact balanced_text x
  | object fields =>
      refine ⟨'\x7b', joined (fieldTexts fields) ++ ['\x7d'], rfl, hscan rfl ?_⟩
      rw [fieldTexts_eq]
      refine (Balanced.joined fun xs hxs => ?_).neutral
      obtain ⟨e, -, rfl⟩ := List.mem_map.1 hxs
      exact .fieldText e.1 (balanced_text e.2)
  | _ => cases ha

theorem text_ne_append {a b : Json} (ha : a.isComposite = true) {c : Char}
    (hc : isPlain c = true) (xs : List Char) :
    text a ≠ xs ++ c :: text b := by
  intro h
  obtain ⟨first, rest, htext, hscan⟩ := text_scan ha
  rw [htext] at h
  have hb := balanced_text b
  have hplain : c ≠ quotation ∧ c ≠ backslash := by
    simp only [isPlain, Bool.and_eq_true, decide_eq_true_eq] at hc
    exact hc.1.1
  -- the scanner cannot be done before the second text, nor become so in it
  have hend : forall s : Scan, s ≠ .done ->
      ((s.next c).bind fun t => t.through (text b)) ≠ some .done := by
    intro s hs
    cases s with
    | done => exact absurd rfl hs
    | outside depth =>
        rw [next_plain hc, Option.bind_some, hb.neutral depth]
        nofun
    | inside depth =>
        have hnext : (Scan.inside depth).next c = some (.inside depth) := by
          simp [Scan.next, hplain]
        rw [hnext, Option.bind_some]
        rcases hb.stays depth with hfail | ⟨depth', hinside⟩
        · rw [hfail]
          nofun
        · rw [hinside]
          nofun
    | escaped depth =>
        rw [show (Scan.escaped depth).next c = some (.inside depth) from rfl, Option.bind_some]
        rcases hb.stays depth with hfail | ⟨depth', hinside⟩
        · rw [hfail]
          nofun
        · rw [hinside]
          nofun
  cases xs with
  | nil =>
      obtain ⟨rfl, hrest⟩ := List.cons.inj h
      rw [hrest, hb.neutral 0] at hscan
      cases hscan
  | cons x xs =>
      have hrest : rest = xs ++ c :: text b := (List.cons.inj h).2
      rw [hrest, through_append] at hscan
      cases hs : (Scan.outside 0).through xs with
      | none =>
          rw [hs] at hscan
          cases hscan
      | some s =>
          rw [hs, Option.bind_some, through] at hscan
          refine hend s ?_ hscan
          rintro rfl
          cases hscan

end JsonText
