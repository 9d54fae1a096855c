import MarketBridge.JsonText.Value

/-!
# The text of a value can be read in one way only

Two values whose texts begin the same characters, where neither text is followed by more
of a number, say the same.  The proof looks at the first character, which tells what kind
of value it is, and then goes down into the parts.
-/

namespace JsonText

/-! ## Numbers -/

def Stops (rest : List Char) : Prop :=
  forall c, rest.head? = some c -> isNumeric c = false

theorem Stops.cons {c : Char} (hc : isNumeric c = false) (rest : List Char) :
    Stops (c :: rest) := by
  intro d hd
  rw [← Option.some.inj hd]
  exact hc

variable {r r' : List Char}

theorem numeric_append_inj {s s' : List Char} (hs : forall c, c ∈ s -> isNumeric c = true)
    (hs' : forall c, c ∈ s' -> isNumeric c = true) (hr : Stops r) (hr' : Stops r')
    (h : s ++ r = s' ++ r') :
    s = s' ∧ r = r' := by
  induction s generalizing s' with
  | nil =>
      cases s' with
      | nil => exact ⟨rfl, h⟩
      | cons c s' =>
          have hstop := hr c (by rw [show r = c :: (s' ++ r') from h]; rfl)
          rw [hs' c (List.mem_cons_self ..)] at hstop
          cases hstop
  | cons c s ih =>
      cases s' with
      | nil =>
          have hstop := hr' c (by rw [show r' = c :: (s ++ r) from h.symm]; rfl)
          rw [hs c (List.mem_cons_self ..)] at hstop
          cases hstop
      | cons c' s' =>
          obtain ⟨hc, htail⟩ := List.cons.inj h
          obtain ⟨hs, hr⟩ := ih (fun d hd => hs d (List.mem_cons_of_mem c hd))
            (fun d hd => hs' d (List.mem_cons_of_mem c' hd)) htail
          exact ⟨by rw [hc, hs], hr⟩

/-! ## Strings -/

theorem escape_append_inj {c d : Char} (h : escape c ++ r = escape d ++ r') :
    c = d ∧ r = r' := by
  have hread := unescape_escape c r
  rw [h, unescape_escape] at hread
  have hpair := Option.some.inj hread
  exact ⟨(Prod.mk.inj hpair).1.symm, (Prod.mk.inj hpair).2.symm⟩

theorem escape_append_ne (c : Char) (rest rest' : List Char) :
    escape c ++ rest ≠ quotation :: rest' := by
  intro h
  rcases escape_cases c with ⟨more, hescape⟩ | ⟨hescape, hne, -⟩
  · rw [hescape] at h
    exact absurd (List.cons.inj h).1 (by decide)
  · rw [hescape] at h
    exact hne (List.cons.inj h).1

theorem quoted_append_inj {s s' : List Char} (h : quoted s ++ r = quoted s' ++ r') :
    s = s' ∧ r = r' := by
  have hinside : s.flatMap escape ++ quotation :: r = s'.flatMap escape ++ quotation :: r' := by
    simpa [quoted] using h
  clear h
  induction s generalizing s' with
  | nil =>
      cases s' with
      | nil => exact ⟨rfl, (List.cons.inj hinside).2⟩
      | cons d s' =>
          rw [List.flatMap_cons, List.append_assoc] at hinside
          exact absurd hinside.symm (escape_append_ne d _ r)
  | cons c s ih =>
      cases s' with
      | nil =>
          rw [List.flatMap_cons, List.append_assoc] at hinside
          exact absurd hinside (escape_append_ne c _ r')
      | cons d s' =>
          rw [List.flatMap_cons, List.flatMap_cons, List.append_assoc, List.append_assoc] at hinside
          obtain ⟨rfl, hrest⟩ := escape_append_inj hinside
          obtain ⟨rfl, hr⟩ := ih hrest
          exact ⟨rfl, hr⟩

theorem quote_append_inj {s s' : String} (h : quote s ++ r = quote s' ++ r') :
    s = s' ∧ r = r' := by
  obtain ⟨hs, hr⟩ := quoted_append_inj h
  exact ⟨String.toList_injective hs, hr⟩

/-! ## Lists of texts -/

section Lists

variable {α β : Type} {enc : α -> List Char} {meaning : α -> β} {close : Char}

def following (close : Char) (r : List Char) : List (List Char) -> List Char
  | [] => close :: r
  | x :: texts => ',' :: (x ++ following close r texts)

theorem joined_append_close (x : List Char) (texts : List (List Char)) (r : List Char) :
    joined (x :: texts) ++ close :: r = x ++ following close r texts := by
  induction texts generalizing x with
  | nil => simp [joined, following]
  | cons y texts ih =>
      have hjoined : joined (x :: y :: texts) = x ++ ',' :: joined (y :: texts) := by
        simp [joined, List.intercalate]
      rw [hjoined, List.append_assoc, List.cons_append, ih]
      rfl

theorem following_stops (hclose : isNumeric close = false) (r : List Char)
    (texts : List (List Char)) :
    Stops (following close r texts) := by
  cases texts with
  | nil => exact .cons hclose r
  | cons x texts => exact .cons (by decide) _

theorem following_inj (hclose : isNumeric close = false) (hcomma : close ≠ ',')
    {xs ys : List α}
    (hread : forall x, x ∈ xs -> forall y r r', Stops r -> Stops r' -> enc x ++ r = enc y ++ r' ->
      meaning x = meaning y ∧ r = r') {r r' : List Char}
    (h : following close r (xs.map enc) = following close r' (ys.map enc)) :
    xs.map meaning = ys.map meaning ∧ r = r' := by
  induction xs generalizing ys with
  | nil =>
      cases ys with
      | nil => exact ⟨rfl, (List.cons.inj h).2⟩
      | cons y ys => exact absurd (List.cons.inj h).1 hcomma
  | cons x xs ih =>
      cases ys with
      | nil => exact absurd (List.cons.inj h).1.symm hcomma
      | cons y ys =>
          obtain ⟨hxy, hrest⟩ := hread x (List.mem_cons_self ..) y _ _
            (following_stops hclose r _) (following_stops hclose r' _) (List.cons.inj h).2
          obtain ⟨hxs, hr⟩ := ih (fun z hz => hread z (List.mem_cons_of_mem x hz)) hrest
          exact ⟨by rw [List.map_cons, List.map_cons, hxy, hxs], hr⟩

theorem joined_inj (hclose : isNumeric close = false) (hcomma : close ≠ ',')
    (hhead : forall x r r', enc x ++ r ≠ close :: r') {xs ys : List α}
    (hread : forall x, x ∈ xs -> forall y r r', Stops r -> Stops r' -> enc x ++ r = enc y ++ r' ->
      meaning x = meaning y ∧ r = r') {r r' : List Char}
    (h : joined (xs.map enc) ++ close :: r = joined (ys.map enc) ++ close :: r') :
    xs.map meaning = ys.map meaning ∧ r = r' := by
  cases xs with
  | nil =>
      cases ys with
      | nil => exact ⟨rfl, (List.cons.inj h).2⟩
      | cons y ys =>
          rw [List.map_cons, joined_append_close] at h
          exact absurd h.symm (hhead y _ r)
  | cons x xs =>
      cases ys with
      | nil =>
          rw [List.map_cons, joined_append_close] at h
          exact absurd h (hhead x _ r')
      | cons y ys =>
          rw [List.map_cons, List.map_cons, joined_append_close, joined_append_close] at h
          obtain ⟨hxy, hrest⟩ := hread x (List.mem_cons_self ..) y _ _
            (following_stops hclose r _) (following_stops hclose r' _) h
          obtain ⟨hxs, hr⟩ := following_inj hclose hcomma
            (fun z hz => hread z (List.mem_cons_of_mem x hz)) hrest
          exact ⟨by rw [List.map_cons, List.map_cons, hxy, hxs], hr⟩

end Lists

/-! ## Kinds of values -/

def kindOf (c : Char) : Nat :=
  if c = 'n' then 0
  else if c = 't' then 1
  else if c = 'f' then 2
  else if c = quotation then 3
  else if c = '[' then 4
  else if c = '\x7b' then 5
  else 6

def Json.kind : Json -> Nat
  | .null => 0
  | .infinite _ => 0
  | .bool true => 1
  | .bool false => 2
  | .string _ => 3
  | .array _ => 4
  | .object _ => 5
  | .number _ => 6

theorem kindOf_numeric {c : Char} (hc : isNumeric c = true) : kindOf c = 6 := by
  have hne : forall d, isNumeric d = false -> c ≠ d := by
    rintro d hd rfl
    rw [hc] at hd
    cases hd
  unfold kindOf
  rw [if_neg (hne 'n' (by decide)), if_neg (hne 't' (by decide)), if_neg (hne 'f' (by decide)),
    if_neg (hne quotation (by decide)), if_neg (hne '[' (by decide)),
    if_neg (hne '\x7b' (by decide))]

theorem text_head (a : Json) : exists c rest, text a = c :: rest ∧ kindOf c = a.kind := by
  cases a with
  | number n =>
      cases htext : n.text with
      | nil => exact absurd htext n.nonempty
      | cons c rest =>
          exact ⟨c, rest, htext, kindOf_numeric (n.numeric c (htext ▸ List.mem_cons_self ..))⟩
  | bool b => cases b <;> exact ⟨_, _, rfl, rfl⟩
  | _ => exact ⟨_, _, rfl, rfl⟩

theorem kind_eq {a b : Json} (h : text a ++ r = text b ++ r') :
    a.kind = b.kind := by
  obtain ⟨c, rest, ha, hc⟩ := text_head a
  obtain ⟨d, rest', hb, hd⟩ := text_head b
  rw [ha, hb] at h
  rw [← hc, ← hd, (List.cons.inj h).1]

theorem text_append_ne {close : Char} (hclose : isNumeric close = false) (hkind : kindOf close = 6)
    (a : Json) (r r' : List Char) :
    text a ++ r ≠ close :: r' := by
  intro h
  obtain ⟨c, rest, ha, hc⟩ := text_head a
  rw [ha] at h
  rw [(List.cons.inj h).1, hkind] at hc
  cases a with
  | number n =>
      have hnumeric := n.numeric c (by rw [show n.text = c :: rest from ha]; exact List.mem_cons_self ..)
      rw [(List.cons.inj h).1, hclose] at hnumeric
      cases hnumeric
  | bool b => cases b <;> cases hc
  | _ => cases hc

section OfKind

variable {b : Json}

theorem null_of_kind (h : b.kind = 0) : text b = "null".toList ∧ expressible b = .null := by
  rcases b with _ | (_ | _) | _ | _ | _ | _ | _ <;> first | exact ⟨rfl, rfl⟩ | cases h

theorem true_of_kind (h : b.kind = 1) : b = .bool true := by
  rcases b with _ | (_ | _) | _ | _ | _ | _ | _ <;> first | rfl | cases h

theorem false_of_kind (h : b.kind = 2) : b = .bool false := by
  rcases b with _ | (_ | _) | _ | _ | _ | _ | _ <;> first | rfl | cases h

theorem string_of_kind (h : b.kind = 3) : exists s, b = .string s := by
  rcases b with _ | (_ | _) | _ | _ | _ | _ | _ <;> first | exact ⟨_, rfl⟩ | cases h

theorem array_of_kind (h : b.kind = 4) : exists items, b = .array items := by
  rcases b with _ | (_ | _) | _ | _ | _ | _ | _ <;> first | exact ⟨_, rfl⟩ | cases h

theorem object_of_kind (h : b.kind = 5) : exists fields, b = .object fields := by
  rcases b with _ | (_ | _) | _ | _ | _ | _ | _ <;> first | exact ⟨_, rfl⟩ | cases h

theorem number_of_kind (h : b.kind = 6) : exists n, b = .number n := by
  rcases b with _ | (_ | _) | _ | _ | _ | _ | _ <;> first | exact ⟨_, rfl⟩ | cases h

end OfKind

/-! ## Values -/

theorem fieldText_append_inj {key key' : String} {x y : Json}
    (hread : text x ++ r = text y ++ r' -> expressible x = expressible y ∧ r = r')
    (h : fieldText key (text x) ++ r = fieldText key' (text y) ++ r') :
    (key, expressible x) = (key', expressible y) ∧ r = r' := by
  unfold fieldText at h
  rw [List.append_assoc, List.append_assoc] at h
  obtain ⟨rfl, hvalue⟩ := quote_append_inj h
  obtain ⟨hxy, hr⟩ := hread (List.cons.inj hvalue).2
  exact ⟨by rw [hxy], hr⟩

theorem fieldText_append_ne {close : Char} (hclose : quotation ≠ close) (key : String)
    (value r r' : List Char) :
    fieldText key value ++ r ≠ close :: r' := by
  intro h
  unfold fieldText quote quoted at h
  rw [List.cons_append, List.cons_append] at h
  exact hclose (List.cons.inj h).1

theorem array_append_inj {items items' : List Json} {r r' : List Char}
    (hread : forall x, x ∈ items -> forall y r r', Stops r -> Stops r' ->
      text x ++ r = text y ++ r' -> expressible x = expressible y ∧ r = r')
    (h : text (.array items) ++ r = text (.array items') ++ r') :
    expressible (.array items) = expressible (.array items') ∧ r = r' := by
  have hinside : joined (items.map text) ++ ']' :: r = joined (items'.map text) ++ ']' :: r' := by
    simpa [text, bracketed, itemTexts_eq] using h
  obtain ⟨hitems, hrest⟩ :=
    joined_inj (by decide) (by decide) (text_append_ne (by decide) (by decide)) hread hinside
  refine ⟨?_, hrest⟩
  simp only [expressible, expressibleItems_eq, hitems]

theorem object_append_inj {fields fields' : List (String × Json)} {r r' : List Char}
    (hread : forall e, e ∈ fields -> forall y r r', Stops r -> Stops r' ->
      text e.2 ++ r = text y ++ r' -> expressible e.2 = expressible y ∧ r = r')
    (h : text (.object fields) ++ r = text (.object fields') ++ r') :
    expressible (.object fields) = expressible (.object fields') ∧ r = r' := by
  have hinside : joined (fields.map fun e => fieldText e.1 (text e.2)) ++ '\x7d' :: r =
      joined (fields'.map fun e => fieldText e.1 (text e.2)) ++ '\x7d' :: r' := by
    simpa [text, braced, fieldTexts_eq] using h
  have hfield : forall e, e ∈ fields -> forall (e' : String × Json) r r', Stops r -> Stops r' ->
      fieldText e.1 (text e.2) ++ r = fieldText e'.1 (text e'.2) ++ r' ->
      (e.1, expressible e.2) = (e'.1, expressible e'.2) ∧ r = r' :=
    fun e he e' r r' hr hr' h => fieldText_append_inj (hread e he e'.2 r r' hr hr') h
  have hhead : forall (e : String × Json) r r', fieldText e.1 (text e.2) ++ r ≠ '\x7d' :: r' :=
    fun e => fieldText_append_ne (by decide) e.1 (text e.2)
  obtain ⟨hfields, hrest⟩ := joined_inj (by decide) (by decide) hhead hfield hinside
  refine ⟨?_, hrest⟩
  simp only [expressible, expressibleFields_eq, hfields]

theorem text_append_inj : (a b : Json) -> (r r' : List Char) -> Stops r -> Stops r' ->
    text a ++ r = text b ++ r' -> expressible a = expressible b ∧ r = r'
  | .null, b, _, _, _, _, h => by
      obtain ⟨htext, htold⟩ := null_of_kind (kind_eq h).symm
      rw [htext] at h
      exact ⟨htold.symm, List.append_cancel_left h⟩
  | .infinite _, b, _, _, _, _, h => by
      obtain ⟨htext, htold⟩ := null_of_kind (kind_eq h).symm
      rw [htext] at h
      exact ⟨htold.symm, List.append_cancel_left h⟩
  | .bool true, b, _, _, _, _, h => by
      obtain rfl := true_of_kind (kind_eq h).symm
      exact ⟨rfl, List.append_cancel_left h⟩
  | .bool false, b, _, _, _, _, h => by
      obtain rfl := false_of_kind (kind_eq h).symm
      exact ⟨rfl, List.append_cancel_left h⟩
  | .number n, b, _, _, hr, hr', h => by
      obtain ⟨n', rfl⟩ := number_of_kind (kind_eq h).symm
      obtain ⟨htext, hrest⟩ := numeric_append_inj n.numeric n'.numeric hr hr' h
      obtain ⟨t, _, _⟩ := n
      obtain ⟨t', _, _⟩ := n'
      obtain rfl : t = t' := htext
      exact ⟨rfl, hrest⟩
  | .string s, b, _, _, _, _, h => by
      obtain ⟨s', rfl⟩ := string_of_kind (kind_eq h).symm
      obtain ⟨rfl, hrest⟩ := quote_append_inj h
      exact ⟨rfl, hrest⟩
  | .array items, b, _, _, _, _, h => by
      obtain ⟨items', rfl⟩ := array_of_kind (kind_eq h).symm
      exact array_append_inj (fun x hx y r r' => text_append_inj x y r r') h
  | .object fields, b, _, _, _, _, h => by
      obtain ⟨fields', rfl⟩ := object_of_kind (kind_eq h).symm
      exact object_append_inj (fun e he y r r' => text_append_inj e.2 y r r') h
termination_by a => sizeOf a
decreasing_by
  · exact sizeOf_lt_array hx
  · exact sizeOf_lt_object he

theorem expressible_eq_of_text_eq {a b : Json} (h : text a = text b) :
    expressible a = expressible b := by
  have hstop : Stops [] := nofun
  exact (text_append_inj a b [] [] hstop hstop (by rw [h])).1

end JsonText
