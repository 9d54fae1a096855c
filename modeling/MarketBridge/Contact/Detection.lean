import Mathlib.Data.List.TakeWhile
import MarketBridge.Contact.Guard
import MarketBridge.Sms.Commands

/-!
# What the contact guard detects

Nine digits in a row are found in whatever script they are written, with up to two separators
between them; a text without digits, Latin letters, `@` and the listed words is clean.
-/

namespace MarketBridge

open Text Text.Regex

/-! ## Statement -/

/-- Digits of a class, with up to two separators between one and the next. -/
inductive Spread (p : Char -> Bool) : Nat -> List Char -> Prop where
  | one {d : Char} (hd : p d = true) : Spread p 1 [d]
  | more {d : Char} {separators digits : List Char} {n : Nat} (hd : p d = true)
      (hlength : separators.length ≤ 2) (hall : forall c, c ∈ separators -> isSeparator c = true)
      (hrest : Spread p n digits) : Spread p (n + 1) (d :: (separators ++ digits))

def SameDigit (c c' : Char) : Prop :=
  isKnownDigit c = true ∧ digitOf c = digitOf c'

/--
The second text is the first one with some digits written in other scripts, and with up to
two separators added between digits.
-/
inductive Disguised : List Char -> List Char -> Prop where
  | nil : Disguised [] []
  | same (c : Char) {text text' : List Char} (h : Disguised text text') :
      Disguised (c :: text) (c :: text')
  | digit {c c' : Char} {text text' : List Char} (hc : SameDigit c c')
      (h : Disguised text text') : Disguised (c :: text) (c' :: text')
  | spread {c c' d : Char} {separators text text' : List Char} (hc : SameDigit c c')
      (hd : isKnownDigit d = true) (hlength : separators.length ≤ 2)
      (hall : forall x, x ∈ separators -> isSeparator x = true)
      (h : Disguised (d :: text) text') : Disguised (c :: d :: text) (c' :: (separators ++ text'))

def HasDigitRun (text : List Char) : Prop :=
  exists front digits rest, text = front ++ (digits ++ rest) ∧ 9 ≤ digits.length ∧
    forall c, c ∈ digits -> isKnownDigit c = true

/-- Neighbouring digits of the text have at most two separators between them. -/
def WellSpaced (text : List Char) : Prop :=
  exists front digits rest n, text = front ++ (digits ++ rest) ∧ Spread Char.isDigit n digits ∧
    (forall c, c ∈ front -> c.isDigit = false) ∧ forall c, c ∈ rest -> c.isDigit = false

/-- What the guard keeps out, and what it lets through. -/
structure GuardsContacts (normalize : List Char -> List Char) : Prop where
  disguised : forall text text' : String, Disguised text.toList text'.toList ->
    HasDigitRun text.toList -> findContactInfo normalize (some text') ≠ none
  spelled : forall number phone before after : String,
    normalizeEthiopianPhone number = some phone -> WellSpaced number.toList ->
      findContactInfo normalize (some (before ++ number ++ after)) ≠ none
  clean : forall text : String,
    (forall c, c ∈ normalize text.toList ->
      isKnownDigit c = false ∧ c.isAlpha = false ∧ c ≠ '@') ->
    (forall word, word ∈ ethiopicWords -> ¬word.toList <:+: normalize text.toList) ->
      findContactInfo normalize (some text) = none

/-! ## Spread digits -/

namespace Spread

variable {p q : Char -> Bool} {n : Nat} {digits : List Char}

theorem mem (h : Spread p n digits) {c : Char} (hc : c ∈ digits) :
    p c = true ∨ isSeparator c = true := by
  induction h with
  | one hd =>
      rw [List.mem_singleton.1 hc]
      exact Or.inl hd
  | more hd _ hall _ ih =>
      rcases List.mem_cons.1 hc with rfl | hc
      · exact Or.inl hd
      · rcases List.mem_append.1 hc with hc | hc
        · exact Or.inr (hall c hc)
        · exact ih hc

theorem map {f : Char -> Char} (h : Spread p n digits)
    (hdigit : forall c, p c = true -> q (f c) = true)
    (hseparator : forall c, isSeparator c = true -> isSeparator (f c) = true) :
    Spread q n (digits.map f) := by
  induction h with
  | one hd => exact .one (hdigit _ hd)
  | more hd hlength hall _ ih =>
      rw [List.map_cons, List.map_append]
      refine .more (hdigit _ hd) (by rwa [List.length_map]) (fun c hc => ?_) ih
      obtain ⟨x, hx, rfl⟩ := List.mem_map.1 hc
      exact hseparator x (hall x hx)

theorem imp (h : Spread p n digits) (hpq : forall c, p c = true -> q c = true) :
    Spread q n digits := by
  have hmap := @Spread.map p q n digits id h hpq fun _ hc => hc
  rwa [List.map_id] at hmap

theorem exists_digit (h : Spread p n digits) : exists c, c ∈ digits ∧ p c = true := by
  cases h with
  | one hd => exact ⟨_, List.mem_cons_self .., hd⟩
  | more hd => exact ⟨_, List.mem_cons_self .., hd⟩

theorem countP_isDigit (h : Spread Char.isDigit n digits) : digits.countP Char.isDigit = n := by
  induction h with
  | one hd => simp [hd]
  | @more d separators digits n hd _ hall _ ih =>
      have hnone : separators.countP Char.isDigit = 0 := by
        rw [List.countP_eq_zero]
        intro c hc hdigit
        have hknown := isKnownDigit_of_isDigit hdigit
        unfold isKnownDigit at hknown
        rw [digitOf_of_isSeparator (hall c hc)] at hknown
        cases hknown
      rw [List.countP_cons_of_pos hd, List.countP_append, hnone, ih]
      omega

theorem moves_times (h : Spread Char.isDigit n digits) {k : Nat} (hk : k ≤ n)
    (before : Option Char) (rest : List Char) :
    exists c, Moves (times (seq (char Char.isDigit) (upTo (char isSeparator) 2)) k)
      ⟨before, digits ++ rest⟩ c := by
  induction h generalizing k before with
  | @one d hd =>
      cases k with
      | zero => exact ⟨_, rfl⟩
      | succ k =>
          obtain rfl : k = 0 := by omega
          exact ⟨_, _, ⟨_, moves_char hd, @moves_upTo isSeparator 2 _ [] rest (by simp)
            fun _ hx => by cases hx⟩, rfl⟩
  | @more d separators digits n hd hlength hall _ ih =>
      cases k with
      | zero => exact ⟨_, rfl⟩
      | succ k =>
          obtain ⟨c, hc⟩ := ih (Nat.le_of_succ_le_succ hk) (lastOf (some d) separators)
          refine ⟨c, _, ⟨_, moves_char hd, ?_⟩, hc⟩
          have hmoves := @moves_upTo isSeparator 2 (some d) separators (digits ++ rest) hlength hall
          rwa [← List.append_assoc] at hmoves

end Spread

/-! ## Detection -/

theorem IsNfkc.normalize_append {normalize : List Char -> List Char} {compat : Char -> Char}
    (h : IsNfkc normalize compat) {middle : List Char}
    (hmiddle : forall c, c ∈ middle -> (isKnownDigit c || isSeparator c) = true)
    (hne : middle ≠ []) (front rest : List Char) :
    normalize (front ++ (middle ++ rest)) =
      normalize front ++ (middle.map compat ++ normalize rest) := by
  induction middle generalizing front with
  | nil => exact absurd rfl hne
  | cons c middle ih =>
      rw [List.cons_append, h.split _ _ _ (hmiddle c (List.mem_cons_self ..)), List.map_cons,
        List.cons_append]
      congr 2
      cases middle with
      | nil => rfl
      | cons d middle =>
          have hrest := ih (fun x hx => hmiddle x (List.mem_cons_of_mem c hx)) (by simp) []
          rwa [h.nil, List.nil_append, List.nil_append] at hrest

theorem trimText_ne_empty {text : String} {c : Char} (hc : c ∈ text.toList)
    (hspace : isSpace c = false) : trimText text ≠ "" := by
  intro hblank
  unfold trimText at hblank
  have hnil := congrArg String.toList hblank
  rw [String.toList_ofList] at hnil
  have hdrop : ((text.toList.dropWhile isSpace).reverse.dropWhile isSpace) = [] :=
    List.reverse_eq_nil_iff.1 hnil
  rw [List.dropWhile_eq_nil_iff] at hdrop
  have hall : forall x, x ∈ text.toList.dropWhile isSpace -> isSpace x = true := fun x hx =>
    hdrop x (List.mem_reverse.2 hx)
  rw [← @List.takeWhile_append_dropWhile _ isSpace text.toList] at hc
  rcases List.mem_append.1 hc with hc | hc
  · rw [List.mem_takeWhile_imp hc] at hspace
    cases hspace
  · rw [hall c hc] at hspace
    cases hspace

theorem findContactInfo_of_spread {normalize : List Char -> List Char} {compat : Char -> Char}
    (h : IsNfkc normalize compat) {text : String} {front digits rest : List Char} {n : Nat}
    (htext : text.toList = front ++ (digits ++ rest)) (hspread : Spread isKnownDigit n digits)
    (hn : 9 ≤ n) : findContactInfo normalize (some text) ≠ none := by
  obtain ⟨d, hd, hdigit⟩ := hspread.exists_digit
  have hvisible : trimText text ≠ "" := by
    refine trimText_ne_empty (c := d) (by rw [htext]; simp [hd]) ?_
    by_contra hspace
    rw [Bool.not_eq_false] at hspace
    unfold isKnownDigit at hdigit
    rw [digitOf_of_isSpace hspace] at hdigit
    cases hdigit
  have hinert : forall c, c ∈ digits -> (isKnownDigit c || isSeparator c) = true := fun c hc =>
    Bool.or_eq_true_iff.2 (hspread.mem hc)
  have hplain : Spread Char.isDigit n (digits.map fun c => toAsciiDigit (compat c)) :=
    hspread.map (fun _ => h.plain_digit) fun _ => h.kept_separator
  have hascii : toAsciiDigits normalize text.toList =
      (normalize front).map toAsciiDigit ++
        (digits.map (fun c => toAsciiDigit (compat c)) ++
          (normalize rest).map toAsciiDigit) := by
    unfold toAsciiDigits
    rw [htext, h.normalize_append hinert (List.ne_nil_of_mem hd), List.map_append,
      List.map_append, List.map_map]
    rfl
  obtain ⟨c, hmoves⟩ := hplain.moves_times hn
    (lastOf none ((normalize front).map toAsciiDigit)) ((normalize rest).map toAsciiDigit)
  have hfound : digitRun.test (toAsciiDigits normalize text.toList) = true :=
    test_of_moves hascii ⟨c, hmoves, .refl⟩
  unfold findContactInfo
  dsimp only
  rw [if_neg hvisible, if_pos hfound]
  simp

/-! ## Disguised digits -/

theorem Disguised.cons {c : Char} {text text' : List Char} (h : Disguised (c :: text) text') :
    exists c' separators rest, text' = c' :: (separators ++ rest) ∧ Disguised text rest ∧
      (isKnownDigit c = true -> isKnownDigit c' = true) ∧ separators.length ≤ 2 ∧
      forall x, x ∈ separators -> isSeparator x = true := by
  have hvalue : forall {c c' : Char}, SameDigit c c' -> isKnownDigit c' = true := by
    intro c c' hsame
    unfold isKnownDigit
    rw [← hsame.2]
    exact hsame.1
  cases h with
  | same _ h => exact ⟨c, [], _, rfl, h, fun hc => hc, Nat.zero_le _, fun _ hx => by cases hx⟩
  | digit hc h =>
      exact ⟨_, [], _, rfl, h, fun _ => hvalue hc, Nat.zero_le _, fun _ hx => by cases hx⟩
  | spread hc _ hlength hall h => exact ⟨_, _, _, rfl, h, fun _ => hvalue hc, hlength, hall⟩

theorem Disguised.digits {digits rest text' : List Char} (h : Disguised (digits ++ rest) text')
    (hne : digits ≠ []) (hall : forall c, c ∈ digits -> isKnownDigit c = true) :
    exists spread rest', text' = spread ++ rest' ∧ Spread isKnownDigit digits.length spread := by
  induction digits generalizing text' with
  | nil => exact absurd rfl hne
  | cons c digits ih =>
      obtain ⟨c', separators, more, rfl, hmore, hknown, hlength, hseparators⟩ := h.cons
      have hdigit := hknown (hall c (List.mem_cons_self ..))
      cases digits with
      | nil => exact ⟨[c'], separators ++ more, rfl, .one hdigit⟩
      | cons d digits =>
          obtain ⟨spread, rest', rfl, hspread⟩ := ih hmore (by simp) fun x hx =>
            hall x (List.mem_cons_of_mem c hx)
          refine ⟨c' :: (separators ++ spread), rest', by simp, ?_⟩
          exact .more hdigit hlength hseparators hspread

theorem Disguised.run {front digits rest text' : List Char}
    (h : Disguised (front ++ (digits ++ rest)) text') (hne : digits ≠ [])
    (hall : forall c, c ∈ digits -> isKnownDigit c = true) :
    exists front' spread rest', text' = front' ++ (spread ++ rest') ∧
      Spread isKnownDigit digits.length spread := by
  induction front generalizing text' with
  | nil =>
      have hhead : Disguised (digits ++ rest) text' := h
      obtain ⟨spread, rest', rfl, hspread⟩ := hhead.digits hne hall
      exact ⟨[], spread, rest', rfl, hspread⟩
  | cons c front ih =>
      obtain ⟨c', separators, more, rfl, hmore, -⟩ := h.cons
      obtain ⟨front', spread, rest', rfl, hspread⟩ := ih hmore
      exact ⟨c' :: (separators ++ front'), spread, rest', by simp, hspread⟩

/-! ## Spelled numbers -/

theorem nine_le_of_isMobile {lead : String} {digits : List Char}
    (h : isMobile lead digits = true) : 9 ≤ digits.countP Char.isDigit := by
  obtain ⟨subscriber, rfl, hsubscriber⟩ := isMobile_eq_true h
  rw [List.countP_append]
  cases subscriber with
  | nil => cases hsubscriber
  | cons c digits =>
      simp only [isSubscriber, Bool.and_eq_true, Bool.or_eq_true, decide_eq_true_eq] at hsubscriber
      obtain ⟨⟨hfirst, hlength⟩, hall⟩ := hsubscriber
      have hdigit : c.isDigit = true := by
        rcases hfirst with rfl | rfl <;> rfl
      rw [List.countP_cons_of_pos hdigit, List.countP_eq_length.2 (List.all_eq_true.1 hall)]
      omega

theorem nine_le_of_normalizeEthiopianPhone {number phone : String}
    (h : normalizeEthiopianPhone number = some phone) :
    9 ≤ number.toList.countP Char.isDigit := by
  have hdigits : (number.toList.filter fun c => c.isDigit || c = '+').countP Char.isDigit ≤
      number.toList.countP Char.isDigit :=
    List.filter_sublist.countP_le
  refine le_trans ?_ hdigits
  unfold normalizeEthiopianPhone at h
  dsimp only at h
  split_ifs at h with hplus hcountry hzero hbare
  · exact nine_le_of_isMobile hplus
  · exact nine_le_of_isMobile hcountry
  · exact nine_le_of_isMobile hzero
  · exact nine_le_of_isMobile hbare

/-! ## Clean texts -/

/-- A letter, or `@`. -/
def isLatinMark (c : Char) : Bool :=
  c.isAlpha || c = '@'

theorem needs_lit {text : String} (h : text.toList.any Char.isAlpha = true) :
    Needs isLatinMark (lit text) := by
  obtain ⟨l, hl, halpha⟩ := List.any_eq_true.1 h
  refine Needs.seqs ⟨_, List.mem_map_of_mem hl, needs_char fun x hx => ?_⟩
  unfold isLatinMark
  rw [isAlpha_of_toLower (of_decide_eq_true hx) halpha, Bool.true_or]

theorem digitRun_needs : Needs Char.isDigit digitRun :=
  (needs_char fun _ hx => hx).seq_left.atLeast (by decide)

theorem spelledRun_needs : Needs isLatinMark spelledRun := by
  refine Needs.atLeast (by decide) (Needs.seqs ⟨digitWords, by simp, Needs.alts ?_⟩)
  simp only [List.forall_mem_cons]
  exact ⟨needs_lit (by decide), needs_lit (by decide), needs_lit (by decide),
    needs_lit (by decide), needs_lit (by decide), needs_lit (by decide), needs_lit (by decide),
    needs_lit (by decide), needs_lit (by decide), needs_lit (by decide), fun _ ht => by cases ht⟩

theorem needs_at : Needs isLatinMark (char (· = '@')) := by
  refine needs_char fun x hx => ?_
  unfold isLatinMark
  rw [hx, Bool.or_true]

theorem email_needs : Needs isLatinMark email := by
  refine Needs.seqs ⟨alts (char (· = '@')) [lit "(at)", lit "[at]"], by simp, Needs.alts ?_⟩
  simp only [List.forall_mem_cons]
  exact ⟨needs_at, needs_lit (by decide), needs_lit (by decide), fun _ ht => by cases ht⟩

theorem link_needs : Needs isLatinMark link := by
  refine Needs.alts ?_
  simp only [List.forall_mem_cons]
  refine ⟨(needs_lit (by decide)).seq_left, needs_lit (by decide), ?_, ?_, fun _ ht => by cases ht⟩
  · refine Needs.seqs ⟨alts (lit "t.me") [lit "wa.me", lit "bit.ly", lit "tinyurl.com"], by simp,
      Needs.alts ?_⟩
    simp only [List.forall_mem_cons]
    exact ⟨needs_lit (by decide), needs_lit (by decide), needs_lit (by decide),
      needs_lit (by decide), fun _ ht => by cases ht⟩
  · refine Needs.seqs ⟨_, List.mem_cons_of_mem _ (List.mem_cons_of_mem _ (List.mem_cons_of_mem _
      (List.mem_cons_self ..))), Needs.alts ?_⟩
    simp only [List.forall_mem_cons]
    exact ⟨needs_lit (by decide), needs_lit (by decide), needs_lit (by decide),
      needs_lit (by decide), needs_lit (by decide), needs_lit (by decide), needs_lit (by decide),
      needs_lit (by decide), needs_lit (by decide), needs_lit (by decide), needs_lit (by decide),
      needs_lit (by decide), needs_lit (by decide), fun _ ht => by cases ht⟩

theorem handle_needs : Needs isLatinMark handle :=
  Needs.seqs ⟨char (· = '@'), by simp, needs_at⟩

theorem appNames_needs : Needs isLatinMark appNames := by
  refine Needs.seqs ⟨_, List.mem_cons_of_mem _ (List.mem_cons_self ..), Needs.alts ?_⟩
  simp only [List.forall_mem_cons]
  exact ⟨needs_lit (by decide), needs_lit (by decide), (needs_lit (by decide)).seq_left,
    needs_lit (by decide), needs_lit (by decide), needs_lit (by decide), needs_lit (by decide),
    needs_lit (by decide), needs_lit (by decide), fun _ ht => by cases ht⟩

theorem latinPhrases_needs : Needs isLatinMark latinPhrases := by
  have hword : forall {text : String} {rs : List Regex},
      text.toList.any Char.isAlpha = true -> Needs isLatinMark (seqs (boundary :: lit text :: rs)) :=
    fun h => Needs.seqs ⟨_, List.mem_cons_of_mem _ (List.mem_cons_self ..), needs_lit h⟩
  refine Needs.alts ?_
  simp only [List.forall_mem_cons]
  refine ⟨?_, hword (by decide), hword (by decide), hword (by decide), hword (by decide),
    hword (by decide), hword (by decide), hword (by decide), fun _ ht => by cases ht⟩
  refine Needs.seqs ⟨alts (lit "my") [lit "your"], by simp, Needs.alts ?_⟩
  simp only [List.forall_mem_cons]
  exact ⟨needs_lit (by decide), needs_lit (by decide), fun _ ht => by cases ht⟩

/-- Without Latin letters, `@` and the listed words there is no phrase. -/
theorem contactPhrases_test_eq_false {text : List Char}
    (hmarks : forall c, c ∈ text -> isLatinMark c = false)
    (hwords : forall word, word ∈ ethiopicWords -> ¬word.toList <:+: text) :
    contactPhrases.test text = false := by
  rw [← Bool.not_eq_true]
  intro htest
  obtain ⟨c, hc, c', hmoves⟩ := test_eq_true_iff.1 htest
  have hsuffix := suffix_of_mem_cursors hc
  obtain ⟨t, ht, hmoves⟩ := exists_of_moves_alts hmoves
  rcases List.mem_cons.1 ht with rfl | ht
  · obtain ⟨x, hx, hmark⟩ := latinPhrases_needs c c' hmoves
    rw [hmarks x (hsuffix.subset hx)] at hmark
    cases hmark
  · obtain ⟨word, hword, rfl⟩ := List.mem_map.1 ht
    have hscript : forall word, word ∈ ethiopicWords ->
        word.toList.all (fun l => !l.isAlpha) = true := by
      decide
    exact hwords word hword
      ((infix_of_test_lit (hscript word hword) hmoves).trans hsuffix.isInfix)

/-- Without Latin letters, `@` and the listed words only digits are detected. -/
theorem findContactInfo_of_no_marks {normalize : List Char -> List Char} {raw : String}
    (hmarks : forall c, c ∈ toAsciiDigits normalize raw.toList -> isLatinMark c = false)
    (hwords : forall word, word ∈ ethiopicWords ->
      ¬word.toList <:+: toAsciiDigits normalize raw.toList)
    (hdigits : digitRun.test (toAsciiDigits normalize raw.toList) = false) :
    findContactInfo normalize (some raw) = none := by
  unfold findContactInfo
  dsimp only
  split
  · rfl
  · simp only [hdigits, spelledRun_needs.test_eq_false hmarks, email_needs.test_eq_false hmarks,
      link_needs.test_eq_false hmarks, handle_needs.test_eq_false hmarks,
      appNames_needs.test_eq_false hmarks, contactPhrases_test_eq_false hmarks hwords,
      Bool.false_eq_true, if_false]

/-! ## The guard -/

/--
Digits in other scripts and with up to two separators are detected, well-spaced mobile numbers
are, and texts without digits, Latin letters, `@` and the listed words are clean.
-/
theorem guardsContacts_of_isNfkc {normalize : List Char -> List Char} {compat : Char -> Char}
    (h : IsNfkc normalize compat) : GuardsContacts normalize where
  disguised := by
    intro text text' hdisguised hrun
    obtain ⟨front, digits, rest, htext, hlength, hall⟩ := hrun
    rw [htext] at hdisguised
    have hne : digits ≠ [] := by
      rintro rfl
      cases hlength
    obtain ⟨front', spread, rest', htext', hspread⟩ := hdisguised.run hne hall
    exact findContactInfo_of_spread h htext' hspread hlength
  spelled := by
    intro number phone before after hphone hspaced
    obtain ⟨front, digits, rest, n, hnumber, hspread, hfront, hrest⟩ := hspaced
    have hnone : forall {text : List Char}, (forall c, c ∈ text -> c.isDigit = false) ->
        text.countP Char.isDigit = 0 := fun hall =>
      List.countP_eq_zero.2 fun c hc hdigit => by
        rw [hall c hc] at hdigit
        cases hdigit
    have hnine := nine_le_of_normalizeEthiopianPhone hphone
    rw [hnumber, List.countP_append, List.countP_append, hspread.countP_isDigit, hnone hfront,
      hnone hrest] at hnine
    have htext : (before ++ number ++ after).toList =
        (before.toList ++ front) ++ (digits ++ (rest ++ after.toList)) := by
      rw [String.toList_append, String.toList_append, hnumber]
      simp only [List.append_assoc]
    exact findContactInfo_of_spread h htext (hspread.imp fun _ => isKnownDigit_of_isDigit)
      (by omega)
  clean := by
    intro text hall hwords
    have hplain : toAsciiDigits normalize text.toList = normalize text.toList := by
      unfold toAsciiDigits
      refine (List.map_congr_left fun c hc => ?_).trans (List.map_id _)
      have hdigit := (hall c hc).1
      unfold isKnownDigit at hdigit
      exact toAsciiDigit_of_digitOf_eq_none (Option.not_isSome_iff_eq_none.1 (by simp [hdigit]))
    refine findContactInfo_of_no_marks ?_ ?_ ?_
    · rw [hplain]
      intro c hc
      obtain ⟨-, halpha, hat⟩ := hall c hc
      unfold isLatinMark
      rw [halpha, Bool.false_or, decide_eq_false hat]
    · rwa [hplain]
    · rw [hplain]
      refine digitRun_needs.test_eq_false fun c hc => ?_
      rw [← Bool.not_eq_true]
      intro hdigit
      have hknown := isKnownDigit_of_isDigit hdigit
      rw [(hall c hc).1] at hknown
      cases hknown

def foldWidth (c : Char) : Char :=
  if isFullWidth c then Nat.digitChar (c.toNat - 0xFF10) else c

theorem foldWidth_of_isSpace {c : Char} (h : isSpace c = true) : foldWidth c = c := by
  refine if_neg fun hwidth => ?_
  have hrange : 0xFF10 ≤ c.toNat ∧ c.toNat ≤ 0xFF19 := by simpa [isFullWidth] using hwidth
  have hnone := digitOf_of_isSpace h
  unfold digitOf at hnone
  rw [if_neg (by omega), if_pos hrange] at hnone
  cases hnone

theorem foldWidth_isNfkc : IsNfkc (List.map foldWidth) foldWidth where
  nil := rfl
  split front c rest _ := by rw [List.map_append, List.map_cons]
  fullWidth c hc := if_pos hc
  digit c _ hc := if_neg (by rw [hc]; decide)
  space c hc := by rw [foldWidth_of_isSpace hc, hc]
  mark c hc hspace := by
    refine if_neg fun hwidth => ?_
    have hrange : 0xFF10 ≤ c.toNat ∧ c.toNat ≤ 0xFF19 := by simpa [isFullWidth] using hwidth
    have hnone := digitOf_of_isSeparator hc
    unfold digitOf at hnone
    rw [if_neg (by omega), if_pos hrange] at hnone
    cases hnone

theorem foldWidth_guardsContacts : GuardsContacts (List.map foldWidth) :=
  guardsContacts_of_isNfkc foldWidth_isNfkc

/-- A number with three spaces between two digits is a number, and is not detected. -/
theorem three_spaces_not_detected :
    ¬forall number phone before after : String, normalizeEthiopianPhone number = some phone ->
      findContactInfo (List.map foldWidth) (some (before ++ number ++ after)) ≠ none := by
  intro h
  have hnumber : normalizeEthiopianPhone "0911   223344" = some "+251911223344" := by
    decide +kernel
  have hclean : ((toAsciiDigits (List.map foldWidth) ("" ++ "0911   223344" ++ "").toList).all
      fun c => isLatinMark c = false) = true := by
    decide +kernel
  refine h "0911   223344" "+251911223344" "" "" hnumber (findContactInfo_of_no_marks ?_ ?_ ?_)
  · exact fun c hc => of_decide_eq_true (List.all_eq_true.1 hclean c hc)
  · decide +kernel
  · decide +kernel

end MarketBridge
