import MarketBridge.Schema.Enums
import MarketBridge.Text.Decimals
import MarketBridge.Text.Regex

/-!
# The contact guard

What counts as contact information in a text: phone numbers, addresses, links, handles, the
names of chat applications and phrases.  The text is normalized and its digits are made plain
ones before the detectors read it; `normalize` stands for the normal form NFKC.
-/

namespace MarketBridge

open Text Text.Regex

/-! ## Digits -/

/-- `.replace(range, (c) => String(c.charCodeAt(0) - base))`. -/
def replaceDigit (first last base : Nat) (c : Char) : Char :=
  if first ≤ c.toNat ∧ c.toNat ≤ last then Nat.digitChar (c.toNat - base) else c

def toAsciiDigit (c : Char) : Char :=
  replaceDigit 0x1369 0x1371 0x1368
    (replaceDigit 0x06F0 0x06F9 0x06F0 (replaceDigit 0x0660 0x0669 0x0660 c))

def toAsciiDigits (normalize : List Char -> List Char) (text : List Char) : List Char :=
  (normalize text).map toAsciiDigit

/-! ## Detectors -/

/-- What may stand between two digits: `[\s().\-_*/\\|]`. -/
def isSeparator (c : Char) : Bool :=
  isSpace c || c ∈ ['(', ')', '.', '-', '_', '*', '/', '\\', '|']

def digitRun : Regex :=
  atLeast 9 (seq (char Char.isDigit) (upTo (char isSeparator) 2))

def digitWords : Regex :=
  alts (lit "zero")
    [lit "one", lit "two", lit "three", lit "four", lit "five", lit "six", lit "seven",
      lit "eight", lit "nine"]

def spelledRun : Regex :=
  atLeast 7
    (seqs [boundary, digitWords, boundary, star (char fun c => isSpace c || c ∈ [',', '.', '-'])])

/-- `\s*`. -/
def spaces : Regex :=
  star (char isSpace)

/-- `\s+`. -/
def someSpaces : Regex :=
  atLeast 1 (char isSpace)

/-- `[a-z0-9-]+`. -/
def label : Regex :=
  atLeast 1 (char fun c => c.isAlphanum || c = '-')

def email : Regex :=
  seqs
    [atLeast 1 (char fun c => c.isAlphanum || c ∈ ['.', '_', '%', '+', '-']), spaces,
      alts (char (· = '@')) [lit "(at)", lit "[at]"], spaces, label,
      atLeast 1 (seqs [spaces, alts (char (· = '.')) [lit "(dot)", lit "[dot]"], spaces, label])]

def link : Regex :=
  alts (seqs [lit "http", opt (lit "s"), lit "://"])
    [lit "www.",
      seqs [boundary, alts (lit "t.me") [lit "wa.me", lit "bit.ly", lit "tinyurl.com"], lit "/"],
      seqs [boundary, label, lit ".",
        alts (lit "com")
          [lit "net", lit "org", lit "info", lit "biz", lit "et", lit "io", lit "me", lit "co",
            lit "app", lit "link", lit "gl", lit "ly"],
        boundary]]

def handle : Regex :=
  seqs
    [alt start (char fun c => !(isWordChar c || c = '@')), char (· = '@'),
      atLeast 3 (char fun c => c.isAlphanum || c ∈ ['_', '.'])]

def appNames : Regex :=
  seqs
    [boundary,
      alts (lit "telegram")
        [lit "whatsapp", seqs [lit "whats", opt (char isSpace), lit "app"], lit "viber",
          lit "wechat", lit "messenger", lit "instagram", lit "facebook", lit "tiktok"],
      boundary]

/-- `(?:the\s+)?(?:platform|app|site)\b`. -/
def platform : Regex :=
  seqs
    [opt (seqs [lit "the", someSpaces]), alts (lit "platform") [lit "app", lit "site"], boundary]

/-- The phrases in Latin letters. -/
def latinPhrases : Regex :=
  alts
    (seqs [boundary, alts (lit "my") [lit "your"], someSpaces,
      alts (lit "phone") [lit "mobile", lit "cell", lit "number", lit "contact"], boundary])
    [seqs [boundary, lit "phone", spaces, alts (lit "number") [lit "no"], boundary],
      seqs [boundary, lit "call", someSpaces, lit "me", boundary],
      seqs [boundary, lit "text", someSpaces, lit "me", boundary],
      seqs [boundary, lit "dm", someSpaces, lit "me", boundary],
      seqs [boundary, lit "off", opt (char fun c => isSpace c || c = '-'), platform],
      seqs [boundary, lit "outside", someSpaces, platform],
      seqs [boundary, lit "bilbila", boundary]]

def ethiopicWords : List String :=
  ["ስልክ", "ቴሌግራም", "ዋትስአፕ"]

def contactPhrases : Regex :=
  alts latinPhrases (ethiopicWords.map lit)

/-! ## The guard -/

inductive ContactKind where
  | phone
  | email
  | link
  | handle
  | app
  | phrase
deriving DecidableEq, Repr

def findContactInfo (normalize : List Char -> List Char) (text : Option String) :
    Option ContactKind :=
  match text with
  | none => none
  | some raw =>
      if trimText raw = "" then
        none
      else
        let t := toAsciiDigits normalize raw.toList
        if digitRun.test t then some .phone
        else if spelledRun.test t then some .phone
        else if email.test t then some .email
        else if link.test t then some .link
        else if handle.test t then some .handle
        else if appNames.test t then some .app
        else if contactPhrases.test t then some .phrase
        else none

example : findContactInfo id (some "reach me at +251-911-22.33.44") = some .phone := by
  decide +kernel

/-! ## Digits of the scripts that the guard knows -/

/-- The value of a digit: a plain, full-width, Arabic-Indic, Persian or Ge'ez one. -/
def digitOf (c : Char) : Option Nat :=
  if 0x30 ≤ c.toNat ∧ c.toNat ≤ 0x39 then some (c.toNat - 0x30)
  else if 0xFF10 ≤ c.toNat ∧ c.toNat ≤ 0xFF19 then some (c.toNat - 0xFF10)
  else if 0x0660 ≤ c.toNat ∧ c.toNat ≤ 0x0669 then some (c.toNat - 0x0660)
  else if 0x06F0 ≤ c.toNat ∧ c.toNat ≤ 0x06F9 then some (c.toNat - 0x06F0)
  else if 0x1369 ≤ c.toNat ∧ c.toNat ≤ 0x1371 then some (c.toNat - 0x1368)
  else none

def isKnownDigit (c : Char) : Bool :=
  (digitOf c).isSome

def isFullWidth (c : Char) : Bool :=
  0xFF10 ≤ c.toNat && c.toNat ≤ 0xFF19

/--
What is known of the normal form NFKC: digits and separators are normalized one by one, they
combine with nothing before or after them, full-width digits become plain ones and spaces
stay spaces.
-/
structure IsNfkc (normalize : List Char -> List Char) (compat : Char -> Char) : Prop where
  nil : normalize [] = []
  split : forall front c rest, (isKnownDigit c || isSeparator c) = true ->
    normalize (front ++ c :: rest) = normalize front ++ compat c :: normalize rest
  fullWidth : forall c, isFullWidth c = true ->
    compat c = Nat.digitChar (c.toNat - 0xFF10)
  digit : forall c, isKnownDigit c = true -> isFullWidth c = false -> compat c = c
  space : forall c, isSpace c = true -> isSpace (compat c) = true
  mark : forall c, isSeparator c = true -> isSpace c = false -> compat c = c

theorem isDigit_iff {c : Char} : c.isDigit = true ↔ 0x30 ≤ c.toNat ∧ c.toNat ≤ 0x39 := by
  simp [Char.isDigit, UInt32.le_iff_toNat_le]

theorem isKnownDigit_of_isDigit {c : Char} (h : c.isDigit = true) : isKnownDigit c = true := by
  unfold isKnownDigit digitOf
  rw [if_pos (isDigit_iff.1 h)]
  rfl

theorem replaceDigit_outside {first last base : Nat} {c : Char}
    (h : ¬(first ≤ c.toNat ∧ c.toNat ≤ last)) : replaceDigit first last base c = c :=
  if_neg h

theorem replaceDigit_inside {first last base : Nat} {c : Char}
    (h : first ≤ c.toNat ∧ c.toNat ≤ last) :
    replaceDigit first last base c = Nat.digitChar (c.toNat - base) :=
  if_pos h

theorem toAsciiDigit_outside {c : Char} (harabic : ¬(0x0660 ≤ c.toNat ∧ c.toNat ≤ 0x0669))
    (hpersian : ¬(0x06F0 ≤ c.toNat ∧ c.toNat ≤ 0x06F9))
    (hgeez : ¬(0x1369 ≤ c.toNat ∧ c.toNat ≤ 0x1371)) : toAsciiDigit c = c := by
  unfold toAsciiDigit
  rw [@replaceDigit_outside 0x0660 0x0669 0x0660 c harabic,
    @replaceDigit_outside 0x06F0 0x06F9 0x06F0 c hpersian,
    @replaceDigit_outside 0x1369 0x1371 0x1368 c hgeez]

theorem toAsciiDigit_of_isDigit {c : Char} (h : c.isDigit = true) : toAsciiDigit c = c := by
  have hrange := isDigit_iff.1 h
  exact toAsciiDigit_outside (by omega) (by omega) (by omega)

theorem toAsciiDigit_of_digitOf_eq_none {c : Char} (h : digitOf c = none) :
    toAsciiDigit c = c := by
  unfold digitOf at h
  split_ifs at h with hplain hwidth harabic hpersian hgeez
  exact toAsciiDigit_outside harabic hpersian hgeez

theorem IsNfkc.plain_digit {normalize : List Char -> List Char} {compat : Char -> Char}
    (h : IsNfkc normalize compat) {c : Char} (hc : isKnownDigit c = true) :
    (toAsciiDigit (compat c)).isDigit = true := by
  cases hwidth : isFullWidth c with
  | true =>
      have hrange : 0xFF10 ≤ c.toNat ∧ c.toNat ≤ 0xFF19 := by simpa [isFullWidth] using hwidth
      have hdigit : (Nat.digitChar (c.toNat - 0xFF10)).isDigit = true :=
        isDigit_digitChar (by omega)
      rw [h.fullWidth c hwidth, toAsciiDigit_of_isDigit hdigit, hdigit]
  | false =>
      rw [h.digit c hc hwidth]
      have hnarrow : ¬(0xFF10 ≤ c.toNat ∧ c.toNat ≤ 0xFF19) := by
        simpa [isFullWidth] using hwidth
      unfold isKnownDigit digitOf at hc
      rw [if_neg hnarrow] at hc
      split_ifs at hc with hplain harabic hpersian hgeez
      · rw [toAsciiDigit_of_isDigit (isDigit_iff.2 hplain), isDigit_iff]
        exact hplain
      · have hdigit : (Nat.digitChar (c.toNat - 0x0660)).isDigit = true :=
          isDigit_digitChar (by omega)
        have hrange := isDigit_iff.1 hdigit
        unfold toAsciiDigit
        rw [@replaceDigit_inside 0x0660 0x0669 0x0660 c harabic,
          @replaceDigit_outside 0x06F0 0x06F9 0x06F0 _ (by omega),
          @replaceDigit_outside 0x1369 0x1371 0x1368 _ (by omega), hdigit]
      · have hdigit : (Nat.digitChar (c.toNat - 0x06F0)).isDigit = true :=
          isDigit_digitChar (by omega)
        have hrange := isDigit_iff.1 hdigit
        unfold toAsciiDigit
        rw [@replaceDigit_outside 0x0660 0x0669 0x0660 c harabic,
          @replaceDigit_inside 0x06F0 0x06F9 0x06F0 c hpersian,
          @replaceDigit_outside 0x1369 0x1371 0x1368 _ (by omega), hdigit]
      · unfold toAsciiDigit
        rw [@replaceDigit_outside 0x0660 0x0669 0x0660 c harabic,
          @replaceDigit_outside 0x06F0 0x06F9 0x06F0 c hpersian,
          @replaceDigit_inside 0x1369 0x1371 0x1368 c hgeez]
        exact isDigit_digitChar (by omega)
      · cases hc

theorem digitOf_of_isSpace {c : Char} (h : isSpace c = true) : digitOf c = none := by
  unfold isSpace at h
  simp only [Bool.or_eq_true, Bool.and_eq_true, decide_eq_true_eq, List.mem_cons,
    List.not_mem_nil, or_false] at h
  unfold digitOf
  rw [if_neg (by omega), if_neg (by omega), if_neg (by omega), if_neg (by omega),
    if_neg (by omega)]

theorem digitOf_of_isSeparator {c : Char} (h : isSeparator c = true) : digitOf c = none := by
  unfold isSeparator at h
  rcases Bool.or_eq_true_iff.1 h with hspace | hmark
  · exact digitOf_of_isSpace hspace
  · rw [decide_eq_true_eq] at hmark
    have hall : (['(', ')', '.', '-', '_', '*', '/', '\\', '|'].all fun d =>
        digitOf d = none) = true := by
      decide
    exact of_decide_eq_true (List.all_eq_true.1 hall c hmark)

theorem IsNfkc.kept_separator {normalize : List Char -> List Char} {compat : Char -> Char}
    (h : IsNfkc normalize compat) {c : Char} (hc : isSeparator c = true) :
    isSeparator (toAsciiDigit (compat c)) = true := by
  cases hspace : isSpace c with
  | true =>
      have hkept := h.space c hspace
      rw [toAsciiDigit_of_digitOf_eq_none (digitOf_of_isSpace hkept)]
      unfold isSeparator
      rw [hkept, Bool.true_or]
  | false =>
      rw [h.mark c hc hspace, toAsciiDigit_of_digitOf_eq_none (digitOf_of_isSeparator hc), hc]

end MarketBridge
