import Mathlib.Data.List.Basic
import VariableExplorer.Expression.Token

/-!
Reading the tokens of words, whole numbers and what stands in brackets. Such a text gives the same
tokens wherever it stands, as long as what follows ends it.
-/

namespace VariableExplorer

namespace Token

/-- A word or a number ends before these characters. -/
inductive Ended : List Char → Prop
  | nil : Ended []
  | opening (cs : List Char) : Ended ('[' :: cs)
  | closing (cs : List Char) : Ended (']' :: cs)

/-- Wherever there is room for as many open brackets, the characters are read as these tokens. -/
def Scans (depth : Nat) (cs : List Char) (kinds : List TokenKind) : Prop :=
  ∀ lastLine fuel k rest, Ended rest → k.stack.length + depth ≤ bracketLimit → ∃ fuel',
    ∃ ts : List Token, fuel ≤ fuel' ∧ ts.map (·.kind) = kinds ∧
    readAll lastLine (cs.length + fuel) k (cs ++ rest) =
      readAll lastLine fuel' ⟨k.line, k.stack, false, ts.reverse ++ k.acc⟩ rest

theorem Scans.mono {depth more : Nat} {cs : List Char} {kinds : List TokenKind}
    (h : Scans depth cs kinds) (hle : depth ≤ more) : Scans more cs kinds :=
  fun lastLine fuel k rest hrest hk ↦ h lastLine fuel k rest hrest (by omega)

theorem readAll_of_more {lastLine fuel : Nat} {k k' : Cursor} {c : Char} {cs rest : List Char}
    (h : readOne lastLine k c cs = .more k' rest) :
    readAll lastLine (fuel + 1) k (c :: cs) = readAll lastLine fuel k' rest := by
  rw [readAll, h]

theorem Scans.append {depth : Nat} {cs ds : List Char} {kinds more : List TokenKind}
    (h : Scans depth cs kinds) (h' : Scans depth ds more) (hds : Ended ds) :
    Scans depth (cs ++ ds) (kinds ++ more) := by
  intro lastLine fuel k rest hrest hk
  have hended : Ended (ds ++ rest) := by
    cases hds with
    | nil => exact hrest
    | opening ds => exact .opening _
    | closing ds => exact .closing _
  obtain ⟨fuel₁, ts₁, hle₁, hts₁, h₁⟩ := h lastLine (ds.length + fuel) k _ hended hk
  obtain ⟨fuel₂, ts₂, hle₂, hts₂, h₂⟩ := h' lastLine (fuel₁ - ds.length)
    ⟨k.line, k.stack, false, ts₁.reverse ++ k.acc⟩ rest hrest hk
  refine ⟨fuel₂, ts₁ ++ ts₂, by omega, by rw [List.map_append, hts₁, hts₂], ?_⟩
  have hfuel : ds.length + (fuel₁ - ds.length) = fuel₁ := by omega
  rw [List.length_append, Nat.add_assoc, List.append_assoc, h₁, ← hfuel, h₂]
  simp

theorem Scans.one {depth : Nat} {c : Char} {cs : List Char} {kind : TokenKind}
    (h : ∀ lastLine k rest, Ended rest →
      readOne lastLine k c (cs ++ rest) = .more (k.push kind) rest) : Scans depth (c :: cs) [kind] := by
  intro lastLine fuel k rest hrest _
  refine ⟨cs.length + fuel, [⟨kind, k.line, k.stack.length⟩], by omega, rfl, ?_⟩
  rw [List.length_cons, Nat.add_right_comm, List.cons_append, readAll_of_more (h lastLine k rest hrest)]
  rfl

/-! ### Words -/

/-- A word that may name a variable, keywords among them. -/
structure IsWord (word : List Char) : Prop where
  chars : ∀ c ∈ word, isNameChar c = true
  start : ∃ c cs, word = c :: cs ∧ c.isDigit = false
  legal : badNameChar? word = none

theorem IsWord.not_mem {word : List Char} (h : IsWord word) {c : Char}
    (hc : isNameChar c = false) : c ∉ word := by
  intro hmem
  rw [h.chars c hmem] at hc
  cases hc

theorem Ended.takeWhile_append {rest : List Char} (h : Ended rest) {p : Char → Bool}
    (hopening : p '[' = false) (hclosing : p ']' = false) {cs : List Char} (hcs : ∀ c ∈ cs, p c = true) :
    (cs ++ rest).takeWhile p = cs ∧ (cs ++ rest).dropWhile p = rest := by
  rw [List.takeWhile_append_of_pos hcs, List.dropWhile_append_of_pos hcs]
  cases h <;> simp [hopening, hclosing]

theorem IsWord.scans {word : List Char} (h : IsWord word) (depth : Nat) :
    Scans depth word [.name (String.ofList word)] := by
  obtain ⟨c, cs, rfl, hc⟩ := h.start
  refine .one fun lastLine k rest hrest ↦ ?_
  obtain ⟨htake, hdrop⟩ := hrest.takeWhile_append (p := isNameChar) (by decide) (by decide) h.chars
  rw [List.cons_append] at htake hdrop
  have hname : isNameChar c = true := h.chars c (by simp)
  have hother (d : Char) (hd : isNameChar d = false) : c ≠ d :=
    ne_of_apply_ne isNameChar (by simp [hname, hd])
  simp only [readOne, hother '\n' (by decide), hother '\\' (by decide), hother '#' (by decide),
    hother ' ' (by decide), hother '\t' (by decide), hother '\x0c' (by decide),
    hother '"' (by decide), hother '\'' (by decide), htake, hdrop, hname, hc, decide_false,
    Bool.or_false, Bool.not_false, Bool.and_true, Bool.false_eq_true, if_false, if_true]
  have hread : readName k (c :: cs) rest = .more (k.push (.name (String.ofList (c :: cs)))) rest := by
    rw [readName, h.legal]
  -- A word before a quote may be the prefix of a text, but no quote ends it here.
  split
  next style quote more _ =>
    rw [if_neg (by cases hrest <;> decide)]
    exact hread
  · exact hread

/-! ### Numbers -/

theorem isDigitOf_ten {c : Char} (h : c.isDigit = true) : isDigitOf 10 c = true := by
  obtain ⟨hlow, hhigh⟩ := Char.isDigit_iff_toNat.mp h
  have hzero : '0'.toNat = 48 := rfl
  have hnine : '9'.toNat = 57 := rfl
  simp only [isDigitOf, Char.isAlphanum, digitOf, h, Bool.or_true, if_true, Bool.true_and,
    decide_eq_true_eq]
  omega

theorem DigitRun.extend_append {rest : List Char} (hrest : Ended rest) (acc : List Char)
    {digits : List Char} (h : ∀ c ∈ digits, c.isDigit = true) :
    DigitRun.extend 10 acc (digits ++ rest) = ⟨acc.reverse ++ digits, false, rest⟩ := by
  induction digits generalizing acc with
  | nil =>
    have hopening : isDigitOf 10 '[' = false := by decide
    have hclosing : isDigitOf 10 ']' = false := by decide
    cases hrest <;> simp [extend, hopening, hclosing]
  | cons c digits ih =>
    obtain ⟨hc, hdigits⟩ := List.forall_mem_cons.mp h
    have hne : c ≠ '_' := by rintro rfl; cases hc
    rw [List.cons_append, extend, if_pos (isDigitOf_ten hc), ih (c :: acc) hdigits]
    · simp
    · exact fun _ _ h ↦ absurd h hne
    · exact fun h ↦ absurd h hne

theorem DigitRun.read_append {rest : List Char} (hrest : Ended rest) {c : Char}
    {digits : List Char} (h : ∀ d ∈ c :: digits, d.isDigit = true) :
    DigitRun.read 10 (c :: digits ++ rest) = ⟨c :: digits, false, rest⟩ := by
  obtain ⟨hc, hdigits⟩ := List.forall_mem_cons.mp h
  rw [List.cons_append, read, if_pos (isDigitOf_ten hc), extend_append hrest _ hdigits]
  rfl

theorem DigitRun.value_eq {digits : List Char} (h : ∀ d ∈ digits, d.isDigit = true) :
    DigitRun.value 10 digits = Nat.ofDigitChars 10 digits 0 := by
  rw [DigitRun.value, Nat.ofDigitChars_eq_foldl]
  refine List.foldl_ext _ _ _ fun n c hc ↦ ?_
  rw [digitOf, if_pos (h c hc)]
  rfl

theorem toDigits_head {n : Nat} (h : (Nat.toDigits 10 n).head? = some '0') : n = 0 := by
  induction n using Nat.strongRecOn with
  | ind n ih =>
    rw [Nat.toDigits_eq_if (by decide)] at h
    split at h
    · exact Nat.digitChar_eq_zero.mp (Option.some.inj h)
    next hle =>
      rw [List.head?_append_of_ne_nil _ Nat.toDigits_ne_nil] at h
      have hzero := ih (n / 10) (by omega) h
      omega

theorem readNumber_append {rest : List Char} (hrest : Ended rest) (n : Nat) :
    readNumber (Nat.toDigits 10 n ++ rest) = .ok (.int n, rest) := by
  have hdigits : ∀ d ∈ Nat.toDigits 10 n, d.isDigit = true := fun d hd ↦
    Nat.isDigit_of_mem_toDigits (by decide) (by decide) hd
  have hvalue : Nat.ofDigitChars 10 (Nat.toDigits 10 n) 0 = n := Nat.ofDigitChars_ten_toDigits
  have hzero := toDigits_head (n := n)
  obtain ⟨c, digits, hcons⟩ := List.exists_cons_of_ne_nil (Nat.toDigits_ne_nil (n := n) (b := 10))
  rw [hcons] at hdigits hvalue hzero ⊢
  have hnext (d : Char) (more : List Char) (h : digits ++ rest = d :: more) :
      d.isDigit = true ∨ Ended (d :: more) := by
    cases digits with
    | nil => exact .inr (h ▸ hrest)
    | cons d' digits =>
      obtain ⟨rfl, -⟩ := List.cons.inj h
      exact .inl (hdigits d' (by simp))
  -- Every other case of the reader wants a letter or a point behind the first digit.
  unfold readNumber
  split
  case h_7 =>
    have hwhole : readNumber.whole ⟨c :: digits, false, rest⟩ n rest = .ok (.int n, rest) := by
      rw [readNumber.whole, if_neg (by simpa using hzero), if_pos (by cases hrest <;> rfl)]
    simp only [DigitRun.read_append hrest hdigits, DigitRun.value_eq hdigits, hvalue]
    cases hrest <;> exact hwhole
  all_goals
    next heq =>
      rw [List.cons_append] at heq
      cases hnext _ _ (List.cons.inj heq).2 with
      | inl h => cases h
      | inr h => cases h

theorem scans_natural (depth n : Nat) : Scans depth (Nat.toDigits 10 n) [.number (.int n)] := by
  obtain ⟨c, digits, hcons⟩ := List.exists_cons_of_ne_nil (Nat.toDigits_ne_nil (n := n) (b := 10))
  have hc : c.isDigit = true :=
    Nat.isDigit_of_mem_toDigits (b := 10) (n := n) (by decide) (by decide) (by simp [hcons])
  have hother (d : Char) (hd : d.isDigit = false) : c ≠ d :=
    ne_of_apply_ne Char.isDigit (by simp [hc, hd])
  rw [hcons]
  refine .one fun lastLine k rest hrest ↦ ?_
  have hread := readNumber_append hrest n
  rw [hcons, List.cons_append] at hread
  simp only [readOne, hother '\n' (by decide), hother '\\' (by decide), hother '#' (by decide),
    hother ' ' (by decide), hother '\t' (by decide), hother '\x0c' (by decide),
    hother '"' (by decide), hother '\'' (by decide), hother '.' (by decide), hc, hread,
    decide_false, Bool.or_false, Bool.not_true, Bool.and_false, Bool.true_or, Bool.false_eq_true,
    if_false, if_true]

theorem readMark?_minus {c : Char} (hc : c.isDigit = true) (cs : List Char) :
    readMark? ('-' :: c :: cs) = some ("-", c :: cs) := by
  have h : ('>' == c) = false ∧ ('=' == c) = false := by
    constructor <;> rw [beq_eq_false_iff_ne] <;> rintro rfl <;> cases hc
  simp [readMark?, marks, List.find?, List.isPrefixOf_cons_cons, h.1, h.2]
  rfl

theorem Scans.minus {depth : Nat} {c : Char} {cs : List Char} {kinds : List TokenKind}
    (hc : c.isDigit = true) (h : Scans depth (c :: cs) kinds) :
    Scans depth ('-' :: c :: cs) (.mark "-" :: kinds) := by
  intro lastLine fuel k rest hrest hk
  obtain ⟨fuel', ts, hle, hts, hall⟩ := h lastLine fuel (k.push (.mark "-")) rest hrest hk
  refine ⟨fuel', ⟨.mark "-", k.line, k.stack.length⟩ :: ts, hle, by rw [List.map_cons, hts], ?_⟩
  have hread : readOne lastLine k '-' (c :: cs ++ rest) =
      .more (k.push (.mark "-")) (c :: cs ++ rest) := by
    have hmark : readMark k '-' ('-' :: c :: (cs ++ rest)) =
        .more (k.push (.mark "-")) (c :: (cs ++ rest)) := by
      rw [readMark, readMark?_minus hc]
      rfl
    exact hmark
  rw [List.length_cons, Nat.add_right_comm, List.cons_append, readAll_of_more hread, hall]
  simp [Cursor.push]

theorem readOne_opening (lastLine : Nat) {k : Cursor} (hk : k.stack.length < bracketLimit)
    (rest : List Char) : readOne lastLine k '[' rest =
      .more (Cursor.push { k with stack := ('[', k.line) :: k.stack } (.mark "[")) rest := by
  have hmark : readMark? ('[' :: rest) = some ("[", rest) := rfl
  show readMark k '[' ('[' :: rest) = _
  rw [readMark, hmark]
  exact if_neg (Nat.not_le.mpr hk)

theorem readOne_closing (lastLine line line' : Nat) (stack : List (Char × Nat)) (acc : List Token)
    (rest : List Char) : readOne lastLine ⟨line, ('[', line') :: stack, false, acc⟩ ']' rest =
      .more (Cursor.push ⟨line, stack, false, acc⟩ (.mark "]")) rest := by
  have hmark : readMark? (']' :: rest) = some ("]", rest) := rfl
  show readMark ⟨line, ('[', line') :: stack, false, acc⟩ ']' (']' :: rest) = _
  rw [readMark, hmark]
  rfl

theorem Scans.brackets {depth : Nat} {cs : List Char} {kinds : List TokenKind}
    (h : Scans depth cs kinds) :
    Scans (depth + 1) ('[' :: (cs ++ [']'])) (.mark "[" :: kinds ++ [.mark "]"]) := by
  intro lastLine fuel k rest hrest hk
  let opened : Cursor := Cursor.push { k with stack := ('[', k.line) :: k.stack } (.mark "[")
  obtain ⟨fuel', ts, hle, hts, hall⟩ := h lastLine (fuel + 1) opened (']' :: rest) (.closing rest)
    (by simp only [opened, Cursor.push, List.length_cons]; omega)
  obtain ⟨fuel', rfl⟩ := Nat.exists_eq_add_of_le' (Nat.le_of_add_left_le hle)
  have hclosed := hall.trans (readAll_of_more (readOne_closing lastLine k.line k.line k.stack
    (ts.reverse ++ opened.acc) rest))
  refine ⟨fuel', ⟨.mark "[", k.line, k.stack.length + 1⟩ :: ts ++ [⟨.mark "]", k.line, k.stack.length⟩],
    by omega, by simp [hts], ?_⟩
  have hfuel : ('[' :: (cs ++ [']'])).length + fuel = cs.length + (fuel + 1) + 1 := by
    simp only [List.length_cons, List.length_append, List.length_nil]
    omega
  have htext : '[' :: (cs ++ [']']) ++ rest = '[' :: (cs ++ ']' :: rest) := by simp
  rw [hfuel, htext, readAll_of_more (readOne_opening _ (by omega) _)]
  refine hclosed.trans ?_
  simp [Cursor.push, opened]

theorem ofText_of_scans {text : String} {kinds : List TokenKind}
    (h : Scans 1 text.toList kinds) : ∃ ts : List Token, ∃ line line',
      ts.map (·.kind) = kinds ∧
      ofText text = ⟨ts ++ [⟨.lineEnd, line, 0⟩, ⟨.finish, line', 0⟩], none, none⟩ := by
  obtain ⟨fuel, ts, -, hts, hall⟩ := h (lastLineOf text.toList) 1 {} [] .nil (by decide)
  refine ⟨ts, 1, lastLineOf text.toList, hts, ?_⟩
  rw [List.append_nil] at hall
  rw [ofText, hall]
  cases fuel <;> simp [readAll, Cursor.finish, Cursor.push]

end Token

end VariableExplorer
