import Mathlib.Logic.Relation

/-!
# Regular expressions

Expressions with classes of characters, repetition and two assertions (the start of the text
and a word boundary), and whether a text has a match of one.  A matcher that runs is tied to
what a match is.
-/

namespace Text

inductive Regex where
  | empty
  | char (p : Char -> Bool)
  | start
  | boundary
  | seq (r s : Regex)
  | alt (r s : Regex)
  | star (r : Regex)

/-- A place in a text: the character before it, and what follows. -/
structure Cursor where
  before : Option Char
  rest : List Char
deriving DecidableEq, Repr

namespace Regex

/-! ## Derived expressions -/

def opt (r : Regex) : Regex :=
  alt r empty

/-- `n` times. -/
def times (r : Regex) : Nat -> Regex
  | 0 => empty
  | n + 1 => seq r (times r n)

/-- At most `n` times. -/
def upTo (r : Regex) : Nat -> Regex
  | 0 => empty
  | n + 1 => opt (seq r (upTo r n))

def atLeast (n : Nat) (r : Regex) : Regex :=
  seq (times r n) (star r)

def seqs : List Regex -> Regex
  | [] => empty
  | r :: rs => seq r (seqs rs)

def alts (r : Regex) : List Regex -> Regex
  | [] => r
  | s :: rs => alt r (alts s rs)

/-! ## Matches -/

/-- `[A-Za-z0-9_]`. -/
def isWordChar (c : Char) : Bool :=
  c.isAlphanum || c = '_'

def Cursor.atBoundary (c : Cursor) : Bool :=
  c.before.any isWordChar != c.rest.head?.any isWordChar

def Moves : Regex -> Cursor -> Cursor -> Prop
  | empty, c, c' => c' = c
  | char p, c, c' => exists x, c.rest = x :: c'.rest ∧ p x = true ∧ c'.before = some x
  | start, c, c' => c.before = none ∧ c' = c
  | boundary, c, c' => Cursor.atBoundary c = true ∧ c' = c
  | seq r s, c, c' => exists d, Moves r c d ∧ Moves s d c'
  | alt r s, c, c' => Moves r c c' ∨ Moves s c c'
  | star r, c, c' => Relation.ReflTransGen (Moves r) c c'

def cursors (before : Option Char) : List Char -> List Cursor
  | [] => [⟨before, []⟩]
  | x :: rest => ⟨before, x :: rest⟩ :: cursors (some x) rest

def Found (r : Regex) (text : List Char) : Prop :=
  exists c, c ∈ cursors none text ∧ exists c', Moves r c c'

/-! ## Running -/

/-- Where repetitions end that get on in the text, if there are `fuel` at most. -/
def repeated (run : Cursor -> List Cursor) : Nat -> Cursor -> List Cursor
  | 0, c => [c]
  | fuel + 1, c =>
      c :: ((run c).filter fun d => d.rest.length < c.rest.length).flatMap (repeated run fuel)

/-- Where matches that begin at a cursor end. -/
def run : Regex -> Cursor -> List Cursor
  | empty, c => [c]
  | char p, c =>
      match c.rest with
      | [] => []
      | x :: rest => if p x then [⟨some x, rest⟩] else []
  | start, c => if c.before = none then [c] else []
  | boundary, c => if Cursor.atBoundary c then [c] else []
  | seq r s, c => (run r c).flatMap (run s)
  | alt r s, c => run r c ++ run s c
  | star r, c => repeated (run r) c.rest.length c

/-- `r.test(text)`. -/
def test (r : Regex) (text : List Char) : Bool :=
  (cursors none text).any fun c => !(run r c).isEmpty

/-! ## Places -/

/-- What was matched, and where the cursor is then. -/
structure Advances (c c' : Cursor) : Prop where
  suffix : c'.rest <:+ c.rest
  same : c'.rest.length = c.rest.length -> c' = c

theorem Advances.refl (c : Cursor) : Advances c c :=
  ⟨List.suffix_refl _, fun _ => rfl⟩

theorem Advances.trans {c d e : Cursor} (h : Advances c d) (h' : Advances d e) : Advances c e where
  suffix := h'.suffix.trans h.suffix
  same := by
    intro hlength
    have hle := h.suffix.length_le
    have hle' := h'.suffix.length_le
    rw [h'.same (by omega), h.same (by omega)]

theorem Moves.advances {r : Regex} {c c' : Cursor} (h : Moves r c c') : Advances c c' := by
  induction r generalizing c c' with
  | empty =>
      obtain rfl : c' = c := h
      exact .refl _
  | char p =>
      obtain ⟨x, hrest, -, -⟩ := h
      refine ⟨⟨[x], hrest.symm⟩, fun hlength => ?_⟩
      rw [hrest, List.length_cons] at hlength
      omega
  | start => exact h.2 ▸ .refl _
  | boundary => exact h.2 ▸ .refl _
  | seq r s ihr ihs =>
      obtain ⟨d, hr, hs⟩ := h
      exact (ihr hr).trans (ihs hs)
  | alt r s ihr ihs =>
      rcases h with hr | hs
      · exact ihr hr
      · exact ihs hs
  | star r ih =>
      induction h with
      | refl => exact .refl _
      | tail _ hstep hbefore => exact hbefore.trans (ih hstep)

/-! ## The matcher -/

theorem mem_repeated_iff {r : Regex} (hrun : forall c c', c' ∈ run r c ↔ Moves r c c')
    {fuel : Nat} {c c' : Cursor} (hfuel : c.rest.length ≤ fuel) :
    c' ∈ repeated (run r) fuel c ↔ Relation.ReflTransGen (Moves r) c c' := by
  constructor
  · intro hmem
    clear hfuel
    induction fuel generalizing c with
    | zero =>
        rw [List.mem_singleton.1 hmem]
    | succ fuel ih =>
        rcases List.mem_cons.1 hmem with rfl | hmem
        · exact .refl
        · obtain ⟨d, hd, hmem⟩ := List.mem_flatMap.1 hmem
          exact .head ((hrun c d).1 (List.mem_filter.1 hd).1) (ih hmem)
  · intro hstar
    -- a repetition that does not get on is left out
    induction hstar using Relation.ReflTransGen.head_induction_on generalizing fuel with
    | refl =>
        cases fuel with
        | zero => exact List.mem_singleton.2 rfl
        | succ fuel => exact List.mem_cons_self ..
    | @head c d hstep _ ih =>
        have hadvances := hstep.advances
        rcases Nat.lt_or_eq_of_le hadvances.suffix.length_le with hlt | heq
        · cases fuel with
          | zero => omega
          | succ fuel =>
              refine List.mem_cons_of_mem c (List.mem_flatMap.2 ⟨d, ?_, ih (by omega)⟩)
              exact List.mem_filter.2 ⟨(hrun c d).2 hstep, decide_eq_true hlt⟩
        · obtain rfl := hadvances.same heq
          exact ih hfuel

theorem mem_run_iff (r : Regex) (c c' : Cursor) : c' ∈ run r c ↔ Moves r c c' := by
  induction r generalizing c c' with
  | empty => exact List.mem_singleton
  | char p =>
      unfold run Moves
      cases hrest : c.rest with
      | nil => simp
      | cons x rest =>
          dsimp only
          constructor
          · intro hmem
            split at hmem
            · rename_i hp
              rw [List.mem_singleton.1 hmem]
              exact ⟨x, rfl, hp, rfl⟩
            · cases hmem
          · rintro ⟨y, hsame, hp, hbefore⟩
            obtain ⟨rfl, hrest'⟩ := List.cons.inj hsame
            rw [if_pos hp, List.mem_singleton]
            cases c' with
            | mk before rest' =>
                dsimp only at hbefore hrest'
                rw [hbefore, hrest']
  | start =>
      unfold run Moves
      split
      · rename_i hstart
        simp [hstart]
      · rename_i hstart
        simp [hstart]
  | boundary =>
      unfold run Moves
      split
      · rename_i hboundary
        simp [hboundary]
      · rename_i hboundary
        simp [hboundary]
  | seq r s ihr ihs =>
      unfold run Moves
      rw [List.mem_flatMap]
      simp only [ihr, ihs]
  | alt r s ihr ihs =>
      unfold run Moves
      rw [List.mem_append, ihr, ihs]
  | star r ih =>
      unfold run Moves
      exact mem_repeated_iff ih (Nat.le_refl _)

theorem test_eq_true_iff {r : Regex} {text : List Char} :
    test r text = true ↔ Found r text := by
  unfold test Found
  rw [List.any_eq_true]
  refine exists_congr fun c => and_congr_right fun _ => ?_
  constructor
  · intro hsome
    cases hrun : run r c with
    | nil =>
        rw [hrun] at hsome
        cases hsome
    | cons c' more => exact ⟨c', (mem_run_iff r c c').1 (hrun ▸ List.mem_cons_self ..)⟩
  · rintro ⟨c', hmoves⟩
    cases hrun : run r c with
    | nil =>
        have hmem := (mem_run_iff r c c').2 hmoves
        rw [hrun] at hmem
        cases hmem
    | cons c'' more => rfl

/-! ## Finding a match -/

def lastOf (before : Option Char) (front : List Char) : Option Char :=
  (front.getLast?).or before

theorem lastOf_cons (before : Option Char) (x : Char) (front : List Char) :
    lastOf before (x :: front) = lastOf (some x) front := by
  unfold lastOf
  cases hfront : front.getLast? with
  | none =>
      rw [List.getLast?_eq_none_iff.1 hfront]
      rfl
  | some y => simp [List.getLast?_cons, hfront]

theorem mem_cursors (before : Option Char) (front rest : List Char) :
    (⟨lastOf before front, rest⟩ : Cursor) ∈ cursors before (front ++ rest) := by
  induction front generalizing before with
  | nil =>
      cases rest with
      | nil => exact List.mem_cons_self ..
      | cons x rest => exact List.mem_cons_self ..
  | cons x front ih =>
      refine List.mem_cons_of_mem _ ?_
      rw [lastOf_cons]
      exact ih (some x)

theorem suffix_of_mem_cursors {before : Option Char} {text : List Char} {c : Cursor}
    (h : c ∈ cursors before text) : c.rest <:+ text := by
  induction text generalizing before with
  | nil =>
      obtain rfl := List.mem_singleton.1 h
      exact List.suffix_refl _
  | cons x text ih =>
      rcases List.mem_cons.1 h with rfl | h
      · exact List.suffix_refl _
      · exact (ih h).trans (List.suffix_cons x text)

theorem test_of_moves {r : Regex} {text front rest : List Char} {c' : Cursor}
    (htext : text = front ++ rest) (h : Moves r ⟨lastOf none front, rest⟩ c') :
    test r text = true :=
  test_eq_true_iff.2 ⟨_, htext ▸ mem_cursors none front rest, c', h⟩

theorem moves_char {p : Char -> Bool} {before : Option Char} {x : Char} {rest : List Char}
    (h : p x = true) : Moves (char p) ⟨before, x :: rest⟩ ⟨some x, rest⟩ :=
  ⟨x, rfl, h, rfl⟩

theorem moves_upTo {p : Char -> Bool} {n : Nat} {before : Option Char} {front rest : List Char}
    (hlength : front.length ≤ n) (h : forall x, x ∈ front -> p x = true) :
    Moves (upTo (char p) n) ⟨before, front ++ rest⟩ ⟨lastOf before front, rest⟩ := by
  induction front generalizing before n with
  | nil =>
      cases n with
      | zero => exact rfl
      | succ n => exact Or.inr rfl
  | cons x front ih =>
      cases n with
      | zero => cases hlength
      | succ n =>
          refine Or.inl ⟨⟨some x, front ++ rest⟩, moves_char (h x (List.mem_cons_self ..)), ?_⟩
          rw [lastOf_cons]
          exact ih (Nat.le_of_succ_le_succ hlength) fun y hy => h y (List.mem_cons_of_mem x hy)

/-! ## What a match needs -/

def Needs (p : Char -> Bool) (r : Regex) : Prop :=
  forall c c', Moves r c c' -> exists x, x ∈ c.rest ∧ p x = true

section

variable {p q : Char -> Bool} {r s : Regex}

theorem needs_char (h : forall x, q x = true -> p x = true) : Needs p (char q) := by
  intro c c' hmoves
  obtain ⟨x, hrest, hx, -⟩ := hmoves
  exact ⟨x, by simp [hrest], h x hx⟩

theorem Needs.seq_left (h : Needs p r) : Needs p (seq r s) := by
  intro c c' hmoves
  obtain ⟨d, hr, -⟩ := hmoves
  exact h c d hr

theorem Needs.seq_right (h : Needs p s) : Needs p (seq r s) := by
  intro c c' hmoves
  obtain ⟨d, hr, hs⟩ := hmoves
  obtain ⟨x, hx, hp⟩ := h d c' hs
  exact ⟨x, hr.advances.suffix.subset hx, hp⟩

theorem Needs.alt (hr : Needs p r) (hs : Needs p s) : Needs p (alt r s) := by
  intro c c' hmoves
  rcases hmoves with hmoves | hmoves
  · exact hr c c' hmoves
  · exact hs c c' hmoves

theorem Needs.atLeast {n : Nat} (hn : 0 < n) (h : Needs p r) : Needs p (atLeast n r) := by
  cases n with
  | zero => omega
  | succ n => exact h.seq_left.seq_left

theorem Needs.alts {rs : List Regex} (h : forall t, t ∈ r :: rs -> Needs p t) :
    Needs p (alts r rs) := by
  induction rs generalizing r with
  | nil => exact h r (List.mem_cons_self ..)
  | cons s rs ih =>
      exact (h r (List.mem_cons_self ..)).alt (ih fun t ht => h t (List.mem_cons_of_mem r ht))

theorem Needs.seqs {rs : List Regex} (h : exists t, t ∈ rs ∧ Needs p t) : Needs p (seqs rs) := by
  obtain ⟨t, ht, hneeds⟩ := h
  induction rs with
  | nil => cases ht
  | cons r rs ih =>
      rcases List.mem_cons.1 ht with rfl | ht
      · exact hneeds.seq_left
      · exact (ih ht).seq_right

theorem Needs.test_eq_false (h : Needs p r) {text : List Char}
    (htext : forall x, x ∈ text -> p x = false) : test r text = false := by
  rw [← Bool.not_eq_true]
  intro htest
  obtain ⟨c, hc, c', hmoves⟩ := test_eq_true_iff.1 htest
  obtain ⟨x, hx, hp⟩ := h c c' hmoves
  rw [htext x ((suffix_of_mem_cursors hc).subset hx)] at hp
  cases hp

end

/-! ## Letters -/

def lit (text : String) : Regex :=
  seqs (text.toList.map fun l => char fun x => x.toLower = l)

theorem exists_of_moves_alts {r : Regex} {rs : List Regex} {c c' : Cursor}
    (h : Moves (alts r rs) c c') : exists t, t ∈ r :: rs ∧ Moves t c c' := by
  induction rs generalizing r with
  | nil => exact ⟨r, List.mem_cons_self .., h⟩
  | cons s rs ih =>
      rcases h with h | h
      · exact ⟨r, List.mem_cons_self .., h⟩
      · obtain ⟨t, ht, hmoves⟩ := ih h
        exact ⟨t, List.mem_cons_of_mem r ht, hmoves⟩

theorem exists_of_moves_lit {letters : List Char} {c c' : Cursor}
    (h : Moves (seqs (letters.map fun l => char fun x => x.toLower = l)) c c') :
    exists front, c.rest = front ++ c'.rest ∧ front.map Char.toLower = letters := by
  induction letters generalizing c with
  | nil =>
      obtain rfl : c' = c := h
      exact ⟨[], rfl, rfl⟩
  | cons l letters ih =>
      obtain ⟨d, ⟨x, hrest, hx, -⟩, hmoves⟩ := h
      obtain ⟨front, hfront, hlower⟩ := ih hmoves
      refine ⟨x :: front, by rw [hrest, hfront, List.cons_append], ?_⟩
      rw [List.map_cons, hlower, of_decide_eq_true hx]

theorem toLower_eq_or (c : Char) :
    c.toLower = c ∨ c.isAlpha = true ∧ c.toLower.isAlpha = true := by
  unfold Char.toLower
  split
  · rename_i hupper
    right
    have hrange : 65 ≤ c.val.toNat ∧ c.val.toNat ≤ 90 := by
      simpa [UInt32.le_iff_toNat_le] using hupper
    have hlower : (c.val + ('a'.val - 'A'.val)).toNat = c.val.toNat + 32 := by
      rw [UInt32.toNat_add]
      have hgap : ('a'.val - 'A'.val).toNat = 32 := by decide
      rw [hgap, Nat.mod_eq_of_lt (by omega)]
    constructor
    · delta Char.isAlpha Char.isUpper
      simp only [Bool.or_eq_true, decide_eq_true_eq, UInt32.le_iff_toNat_le, ge_iff_le]
      exact Or.inl hrange
    · delta Char.isAlpha Char.isLower
      simp only [Bool.or_eq_true, Bool.and_eq_true, decide_eq_true_eq, UInt32.le_iff_toNat_le,
        ge_iff_le]
      right
      rw [hlower]
      constructor
      · show 97 ≤ _
        omega
      · show _ ≤ 122
        omega
  · exact Or.inl rfl

theorem isAlpha_of_toLower {c l : Char} (h : c.toLower = l) (hl : l.isAlpha = true) :
    c.isAlpha = true := by
  rcases toLower_eq_or c with hsame | ⟨halpha, -⟩
  · rw [← hsame, h, hl]
  · exact halpha

theorem infix_of_test_lit {word : String} (h : word.toList.all (fun l => !l.isAlpha) = true)
    {c c' : Cursor} (hmoves : Moves (lit word) c c') : word.toList <:+: c.rest := by
  obtain ⟨front, hrest, hlower⟩ := exists_of_moves_lit hmoves
  have hsame : front.map Char.toLower = front := by
    refine (List.map_congr_left fun x hx => ?_).trans (List.map_id front)
    rcases toLower_eq_or x with hx' | ⟨-, halpha⟩
    · exact hx'
    · have hnot := List.all_eq_true.1 h x.toLower (hlower ▸ List.mem_map_of_mem hx)
      rw [halpha] at hnot
      cases hnot
  rw [hrest, ← hlower, hsame]
  exact (List.prefix_append front c'.rest).isInfix

end Regex

end Text
