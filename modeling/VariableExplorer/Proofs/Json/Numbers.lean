import Mathlib.Tactic.SplitIfs
import VariableExplorer.Json
import VariableExplorer.Proofs.Expression.Scanning

/-!
Numbers as they are written in JSON. An integer is read as the integer that it was written for; a
real number, which is written with the fewest digits that stand for it, is read as a real number.
-/

namespace VariableExplorer

/-! ### The text of real numbers -/

namespace Decimal

open Float.Model

theorem unpackExponent_toNat (b : BitVec Format.binary64.numBits) :
    (@UnpackedFloat.unpackExponent Format.binary64 b).toNat =
      (b.toNat >>> 52) % 2048 := by
  simp [UnpackedFloat.unpackExponent]

theorem ofFloat_of_finite {x : Float} (hnan : x.isNaN = false) (hinf : x.isInf = false) :
    (∃ negative, Reading.ofFloat x = .zero negative) ∨
      ∃ negative b, Reading.ofFloat x = .finite negative b := by
  have hfield : (x.toBits.toNat >>> 52) % 2048 ≠ 2047 := by
    intro h
    have hexponent : @UnpackedFloat.unpackExponent Format.binary64 x.toModel.toBits.toBitVec =
        -1#11 := by
      apply BitVec.eq_of_toNat_eq
      rw [unpackExponent_toNat]
      exact h
    have hspecial : ¬ (x.toModel.unpack.isNaN = false ∧ x.toModel.unpack.isInf = false) := by
      unfold Float.Model.unpack UnpackedFloat.unpack
      dsimp only
      rw [if_pos hexponent]
      split
      · rintro ⟨-, hinfinite⟩
        cases hinfinite
      · rintro ⟨hnumber, -⟩
        cases hnumber
    exact hspecial ⟨hnan, hinf⟩
  unfold Reading.ofFloat
  simp only [hfield, if_false]
  split_ifs
  · exact .inl ⟨_, rfl⟩
  · exact .inr ⟨_, _, rfl⟩
  · exact .inr ⟨_, _, rfl⟩

/-- Digits of which the first is not zero, unless it is the only one. -/
structure Whole (cs : List Char) : Prop where
  digits : ∀ c ∈ cs, c.isDigit = true
  nonempty : cs ≠ []
  leading : cs.head? = some '0' → cs = ['0']

inductive Part : List Char → Prop
  | none : Part []
  | digits {cs : List Char} : (∀ c ∈ cs, c.isDigit = true) → cs ≠ [] → Part ('.' :: cs)

inductive Power : List Char → Prop
  | none : Power []
  | digits {sign : Char} {cs : List Char} : sign = '-' ∨ sign = '+' →
      (∀ c ∈ cs, c.isDigit = true) → cs ≠ [] → Power ('e' :: sign :: cs)

/-- The text of a real number without its sign. -/
inductive Numeral : List Char → Prop
  | mk {whole part power : List Char} : Whole whole → Part part → Power power →
      part ≠ [] ∨ power ≠ [] → Numeral (whole ++ (part ++ power))

theorem whole_toDigits (n : Nat) : Whole (Nat.toDigits 10 n) where
  digits _ hc := Nat.isDigit_of_mem_toDigits (by decide) (by decide) hc
  nonempty := Nat.toDigits_ne_nil
  leading h := by
    obtain rfl := Token.toDigits_head h
    rfl

theorem isDigit_of_mem_zeros {n : Nat} {c : Char} (h : c ∈ zeros n) : c.isDigit = true := by
  obtain rfl := List.eq_of_mem_replicate h
  rfl

theorem trim_digits_ne {fuel : Nat} {d : Digits} (h : d.digits ≠ 0) :
    (d.trim fuel).digits ≠ 0 := by
  induction fuel generalizing d with
  | zero => exact h
  | succ fuel ih =>
    rw [Digits.trim]
    split
    next hzero =>
      simp only [ne_eq, decide_not, Bool.and_eq_true, Bool.not_eq_true',
        decide_eq_false_iff_not, decide_eq_true_eq] at hzero
      refine ih ?_
      show d.digits / 10 ≠ 0
      omega
    · exact h

theorem shortest_digits (b : Binary) : (shortest b).digits ≠ 0 ∨ shortest b = ⟨0, 0⟩ := by
  have hneighbour {e : Int} {d : Digits} (h : d ∈ neighbours b e) : d.digits ≠ 0 := by
    obtain ⟨n, hn, rfl⟩ := List.mem_map.mp h
    have hn := List.of_mem_filter hn
    simp only [ne_eq, decide_not, Bool.and_eq_true, Bool.not_eq_true',
      decide_eq_false_iff_not] at hn
    exact hn.1
  rw [shortest]
  cases hfound : (List.range 17).findSome? fun (n : Nat) ↦
      (neighbours b (leadingExponent b.value - (n : Int))).head? with
  | none => exact .inr rfl
  | some d =>
    obtain ⟨n, -, hd⟩ := List.exists_of_findSome?_eq_some hfound
    exact .inl (trim_digits_ne (hneighbour (List.mem_of_head? hd)))

theorem whole_zero : Whole ['0'] := whole_toDigits 0

theorem whole_resize {n k : Nat} {cs : List Char} (h : Whole cs) (hn : n ≠ 0)
    (hzero : cs = ['0'] → k = 0) : Whole (cs.take n ++ zeros k) where
  digits c hc := by
    obtain hc | hc := List.mem_append.mp hc
    · exact h.digits c (List.mem_of_mem_take hc)
    · exact isDigit_of_mem_zeros hc
  nonempty := by
    have htake : cs.take n ≠ [] := fun hnil ↦
      (List.take_eq_nil_iff.mp hnil).elim hn h.nonempty
    simp [htake]
  leading hhead := by
    obtain ⟨c, tail, rfl⟩ := List.exists_cons_of_ne_nil h.nonempty
    obtain ⟨n, rfl⟩ := Nat.exists_eq_succ_of_ne_zero hn
    rw [List.take_succ_cons, List.cons_append, List.head?_cons] at hhead
    cases hhead
    have hcs := h.leading rfl
    cases hcs
    rw [hzero rfl]
    simp [zeros]

theorem power_render (lead : Int) :
    Power ('e' :: (if lead < 0 then '-' else '+') ::
      zeros (2 - (Nat.toDigits 10 lead.natAbs).length) ++ Nat.toDigits 10 lead.natAbs) := by
  refine .digits ?_ (fun c hc ↦ ?_) (by simp [Nat.toDigits_ne_nil])
  · split
    · exact .inl rfl
    · exact .inr rfl
  · obtain hc | hc := List.mem_append.mp hc
    · exact isDigit_of_mem_zeros hc
    · exact (whole_toDigits _).digits c hc

theorem isDigit_of_mem_filled {n k : Nat} {c : Char} (h : c ∈ zeros k ++ Nat.toDigits 10 n) :
    c.isDigit = true := by
  obtain h | h := List.mem_append.mp h
  · exact isDigit_of_mem_zeros h
  · exact (whole_toDigits n).digits c h

/-- Digits are laid out as a real number: with a point where that is not far from them, otherwise
with a power. -/
theorem render_numeral {d : Digits} (h : d.digits ≠ 0 ∨ d = ⟨0, 0⟩) :
    Numeral (plainLayout.render d) := by
  have hds := whole_toDigits d.digits
  rw [Layout.render]
  dsimp only
  generalize hlead : d.exponent + ((Nat.toDigits 10 d.digits).length : Int) - 1 = lead
  split
  · split
    · -- All digits stand behind the point.
      have hpart : Part ('.' :: (zeros (-lead - 1).toNat ++ Nat.toDigits 10 d.digits)) :=
        .digits (fun _ ↦ isDigit_of_mem_filled) (by simp [Nat.toDigits_ne_nil])
      simpa using Numeral.mk whole_zero hpart .none (.inl (by simp))
    · -- The point stands between the digits or behind them.
      have hwhole : Whole ((Nat.toDigits 10 d.digits).take (lead + 1).toNat ++
          zeros ((lead + 1).toNat - (Nat.toDigits 10 d.digits).length)) := by
        refine whole_resize hds (by omega) fun hzero ↦ ?_
        obtain hne | rfl := h
        · exact absurd (Token.toDigits_head (by rw [hzero]; rfl)) hne
        · rw [← hlead]
          rfl
      split
      · have hzero : Part ['.', '0'] := .digits (by simp) (by simp)
        rw [if_pos (show plainLayout.keepsPoint = true from rfl)]
        simpa using Numeral.mk hwhole hzero .none (.inl (by simp))
      next hdrop =>
        have hpart : Part ('.' :: (Nat.toDigits 10 d.digits).drop (lead + 1).toNat) :=
          .digits (fun c hc ↦ hds.digits c (List.mem_of_mem_drop hc)) hdrop
        simpa using Numeral.mk hwhole hpart .none (.inl (by simp))
  · -- The first digit stands alone before the point.
    obtain ⟨c, cs, hcons⟩ := List.exists_cons_of_ne_nil hds.nonempty
    rw [hcons] at hds ⊢
    have hwhole : Whole [c] := ⟨by simpa using hds.digits c List.mem_cons_self, by simp, by simp⟩
    cases cs with
    | nil => simpa using Numeral.mk hwhole .none (power_render lead) (.inr (by simp))
    | cons c' cs =>
      have hpart : Part ('.' :: c' :: cs) :=
        .digits (fun d hd ↦ hds.digits d (List.mem_cons_of_mem c hd)) (by simp)
      simpa using Numeral.mk hwhole hpart (power_render lead) (.inr (by simp))

theorem Numeral.chars {cs : List Char} (h : Numeral cs) :
    ∀ c ∈ cs, c.isDigit = true ∨ c ∈ ['.', 'e', '-', '+'] := by
  obtain ⟨hwhole, hpart, hpower, -⟩ := h
  intro c hc
  obtain hc | hc := List.mem_append.mp hc
  · exact .inl (hwhole.digits c hc)
  obtain hc | hc := List.mem_append.mp hc
  · cases hpart with
    | none => cases hc
    | digits hdigits =>
      obtain rfl | hc := List.mem_cons.mp hc
      · exact .inr (by decide)
      · exact .inl (hdigits c hc)
  · cases hpower with
    | none => cases hc
    | digits hsign hdigits =>
      obtain rfl | hc := List.mem_cons.mp hc
      · exact .inr (by decide)
      obtain rfl | hc := List.mem_cons.mp hc
      · obtain rfl | rfl := hsign <;> exact .inr (by decide)
      · exact .inl (hdigits c hc)

theorem Whole.cons {cs : List Char} (h : Whole cs) :
    ∃ c tail, cs = c :: tail ∧ c.isDigit = true := by
  obtain ⟨c, tail, rfl⟩ := List.exists_cons_of_ne_nil h.nonempty
  exact ⟨c, tail, rfl, h.digits c List.mem_cons_self⟩

theorem Numeral.cons {cs : List Char} (h : Numeral cs) :
    ∃ c tail, cs = c :: tail ∧ c.isDigit = true := by
  obtain ⟨hwhole, -, -, -⟩ := h
  obtain ⟨c, tail, rfl, hc⟩ := hwhole.cons
  exact ⟨c, _, rfl, hc⟩

def signed (negative : Bool) (cs : List Char) : List Char := if negative then '-' :: cs else cs

theorem text_numeral {x : Float} (hnan : x.isNaN = false) (hinf : x.isInf = false) :
    ∃ negative cs, Numeral cs ∧ (text x).toList = signed negative cs := by
  rw [text, Layout.text, String.toList_ofList]
  obtain ⟨negative, h⟩ | ⟨negative, b, h⟩ := ofFloat_of_finite hnan hinf
  · rw [h]
    have hzero : Part ['.', '0'] := .digits (by simp) (by simp)
    exact ⟨negative, ['0', '.', '0'], Numeral.mk whole_zero hzero .none (.inl (by simp)), rfl⟩
  · rw [h]
    exact ⟨negative, _, render_numeral (shortest_digits b), rfl⟩

end Decimal

/-! ### Reading numbers -/

namespace Json

open Decimal (Whole Part Power Numeral signed)

variable {n : Nat} {cs rest : List Char} {c : Char}

/-- What follows a value where it is written: nothing, a comma or a line break. -/
inductive Ended : List Char → Prop
  | nil : Ended []
  | comma (cs : List Char) : Ended (',' :: cs)
  | line (cs : List Char) : Ended ('\n' :: cs)

theorem Ended.head (h : Ended rest) (hc : c ∈ rest.head?) :
    c.isDigit = false ∧ c ∉ ['.', 'e', 'E'] := by
  cases h <;> cases hc <;> decide

theorem takeDigits_append {ds : List Char} (hds : ∀ d ∈ ds, d.isDigit = true)
    (hrest : ∀ c ∈ rest.head?, c.isDigit = false) : takeDigits (ds ++ rest) = (ds, rest) := by
  have hnone : rest.takeWhile Char.isDigit = [] ∧ rest.dropWhile Char.isDigit = rest := by
    cases rest with
    | nil => exact ⟨rfl, rfl⟩
    | cons c cs =>
      have hc : ¬ c.isDigit = true := by simp [hrest c rfl]
      exact ⟨List.takeWhile_cons_of_neg hc, List.dropWhile_cons_of_neg hc⟩
  rw [takeDigits, List.takeWhile_append_of_pos hds, List.dropWhile_append_of_pos hds, hnone.1,
    hnone.2, List.append_nil]

theorem whole_eq {ds whole after : List Char} (h : Whole ds)
    (hrest : ∀ c ∈ rest.head?, c.isDigit = false)
    (hwhole : (match ds ++ rest with
      | '0' :: rest => (['0'], rest)
      | rest => takeDigits rest) = (whole, after)) : whole = ds ∧ after = rest := by
  split at hwhole
  next rest' hzero =>
    obtain ⟨c, tail, rfl, -⟩ := h.cons
    obtain ⟨rfl, htail⟩ := List.cons.inj hzero
    cases h.leading rfl
    cases hwhole
    exact ⟨rfl, htail.symm⟩
  · rw [takeDigits_append h.digits hrest] at hwhole
    cases hwhole
    exact ⟨rfl, rfl⟩

theorem takePart_append {part : List Char} (h : Part part)
    (hrest : ∀ c ∈ rest.head?, c.isDigit = false ∧ c ≠ '.') :
    takePart (part ++ rest) = (part.tail, rest) := by
  cases h with
  | none =>
    cases rest with
    | nil => rfl
    | cons c cs =>
      rw [List.nil_append, takePart]
      · rfl
      · rintro cs ⟨⟩
        exact (hrest '.' rfl).2 rfl
  | @digits ds hds hne =>
    rw [List.cons_append, takePart, takeDigits_append hds fun c hc ↦ (hrest c hc).1]
    split
    next heq =>
      cases heq
      exact absurd rfl hne
    · rfl

theorem takeExponent_append {power : List Char} (h : Power power) (hrest : Ended rest) :
    ∃ exponent, takeExponent (power ++ rest) = (exponent, rest) ∧
      (exponent = none ↔ power = []) := by
  cases h with
  | none => exact ⟨none, by cases hrest <;> rfl, by simp⟩
  | @digits sign ds hsign hds hne =>
    have htake : takeDigits (ds ++ rest) = (ds, rest) :=
      takeDigits_append hds fun c hc ↦ (hrest.head hc).1
    have hmark : Decimal.takeSign (sign :: (ds ++ rest)) = (sign == '-', ds ++ rest) := by
      obtain rfl | rfl := hsign <;> rfl
    refine ⟨some (if sign == '-' then -(digitsValue ds : Int) else digitsValue ds), ?_, by simp⟩
    rw [List.cons_append, List.cons_append, takeExponent, if_pos (by decide), hmark]
    dsimp only
    rw [htake]
    split
    next heq =>
      cases heq
      exact absurd rfl hne
    next heq =>
      cases heq
      rfl

theorem sign_digit (hc : c.isDigit = true) : (match c :: cs with
    | '-' :: rest => (true, rest)
    | rest => (false, rest)) = (false, c :: cs) := by
  split
  next heq =>
    obtain ⟨rfl, -⟩ := List.cons.inj heq
    cases hc
  · rfl

theorem readNumber_eq (negative : Bool) {whole part power : List Char} (hwhole : Whole whole)
    (hpart : Part part) (hpower : Power power) (hrest : Ended rest) :
    ∃ x, readNumber (signed negative (whole ++ (part ++ (power ++ rest)))) =
      if part = [] ∧ power = [] then
        if Decimal.digitLimit < whole.length then .error (.tooManyDigits whole.length)
        else .ok (int (if negative then -(digitsValue whole : Int) else digitsValue whole), rest)
      else .ok (float x, rest) := by
  -- The parts are taken off from the front, and each ends before what the next one begins with.
  have hsign : (match signed negative (whole ++ (part ++ (power ++ rest))) with
      | '-' :: rest => (true, rest)
      | rest => (false, rest)) = (negative, whole ++ (part ++ (power ++ rest))) := by
    obtain ⟨c, tail, rfl, hc⟩ := hwhole.cons
    cases negative with
    | true => rfl
    | false => exact sign_digit hc
  obtain ⟨exponent, htake, hnone⟩ := takeExponent_append hpower hrest
  have hbehind : ∀ c ∈ (power ++ rest).head?, c.isDigit = false ∧ c ≠ '.' := by
    intro c hc
    cases hpower with
    | none =>
      obtain ⟨hdigit, hmarks⟩ := hrest.head hc
      exact ⟨hdigit, fun h ↦ hmarks (by simp [h])⟩
    | digits =>
      cases hc
      decide
  have hafter : ∀ c ∈ (part ++ (power ++ rest)).head?, c.isDigit = false := by
    intro c hc
    cases hpart with
    | none => exact (hbehind c hc).1
    | digits =>
      cases hc
      decide
  have hnonempty : ¬ whole.isEmpty = true := by simpa using hwhole.nonempty
  have hpart' : part.tail = [] ↔ part = [] := by
    cases hpart with
    | none => simp
    | digits _ hne => simp [hne]
  let size := Decimal.nearest (digitsValue (whole ++ part.tail))
    (exponent.getD 0 - part.tail.length)
  refine ⟨if negative then -size else size, ?_⟩
  unfold readNumber
  split
  next heq =>
  cases hsign.symm.trans heq
  split
  next hfound =>
  obtain ⟨rfl, rfl⟩ := whole_eq hwhole hafter hfound
  rw [if_neg hnonempty, takePart_append hpart hbehind]
  dsimp only
  rw [htake]
  simp [size, hpart', hnone]

inductive Started : List Char → Prop
  | mk (negative : Bool) {c : Char} (cs : List Char) : c.isDigit = true →
      Started (signed negative (c :: cs))

/-- The characters that a value other than a number may start with, and those around it. -/
def marks : List Char := ['"', '[', '{', ']', '}', ' ', '\t', '\n', '\r']

theorem Started.append (h : Started cs) (rest : List Char) : Started (cs ++ rest) := by
  obtain ⟨negative, tail, hc⟩ := h
  cases negative with
  | true => exact .mk true (tail ++ rest) hc
  | false => exact .mk false (tail ++ rest) hc

theorem Started.cons (h : Started cs) : ∃ c tail, cs = c :: tail ∧ c ∉ marks := by
  have hmarks : ∀ d ∈ marks, d.isDigit = false := by simp [marks]
  obtain ⟨negative, tail, hc⟩ := h
  cases negative with
  | true => exact ⟨_, _, rfl, by decide⟩
  | false => exact ⟨_, tail, rfl, fun h ↦ nomatch hc.symm.trans (hmarks _ h)⟩

theorem Started.readName? (h : Started cs) : readName? cs = none := by
  obtain @⟨negative, c, tail, hc⟩ := h
  have hletter (d : Char) (hd : d.isDigit = false) : d ≠ c := fun h ↦ by
    rw [h, hc] at hd
    cases hd
  cases negative with
  | true => simp [Json.readName?, names, startsWith, signed, hletter]
  | false => simp [Json.readName?, names, startsWith, signed, hletter]

theorem Started.readValue {fuel depth : Nat} (h : Started cs) :
    readValue (fuel + 1) depth cs = readNumber cs := by
  have hname := h.readName?
  obtain ⟨c, tail, rfl, hc⟩ := h.cons
  rw [readValue.eq_def]
  dsimp only
  split
  next heq => exact absurd ((List.cons.inj heq).1 ▸ hc) (by decide)
  next heq => exact absurd ((List.cons.inj heq).1 ▸ hc) (by decide)
  next heq => exact absurd ((List.cons.inj heq).1 ▸ hc) (by decide)
  · rw [hname]

theorem toString_signed (i : Int) :
    (toString i).toList = signed (decide (i < 0)) (Nat.toDigits 10 i.natAbs) := by
  cases i with
  | ofNat n => exact Nat.toList_repr
  | negSucc n =>
    have hnegative : decide (Int.negSucc n < 0) = true := decide_eq_true (Int.negSucc_lt_zero n)
    rw [show toString (Int.negSucc n) = "-" ++ (n + 1).repr from rfl, String.toList_append,
      Nat.toList_repr, hnegative]
    rfl

theorem started_toString (i : Int) : Started (toString i).toList := by
  obtain ⟨c, ds, hcons, hc⟩ := (Decimal.whole_toDigits i.natAbs).cons
  rw [toString_signed, hcons]
  exact .mk _ ds hc

theorem digitsValue_toDigits (n : Nat) : digitsValue (Nat.toDigits 10 n) = n :=
  Nat.ofDigitChars_ten_toDigits

theorem signed_append (negative : Bool) (cs rest : List Char) :
    signed negative cs ++ rest = signed negative (cs ++ rest) := by
  cases negative <;> rfl

theorem readNumber_int (i : Int) (hrest : Ended rest) :
    readNumber ((toString i).toList ++ rest) =
      if Decimal.digitLimit < (Nat.toDigits 10 i.natAbs).length then
        .error (.tooManyDigits (Nat.toDigits 10 i.natAbs).length)
      else .ok (int i, rest) := by
  have hvalue : (if decide (i < 0) then -(i.natAbs : Int) else i.natAbs) = i := by
    by_cases h : i < 0
    · rw [if_pos (decide_eq_true h)]
      omega
    · rw [if_neg (by simpa using h)]
      omega
  obtain ⟨x, hread⟩ :=
    readNumber_eq (decide (i < 0)) (Decimal.whole_toDigits i.natAbs) .none .none hrest
  rw [digitsValue_toDigits, hvalue] at hread
  rw [toString_signed, signed_append]
  simpa using hread

theorem readNumber_numeral (negative : Bool) (h : Numeral cs) (hrest : Ended rest) :
    ∃ x, readNumber (signed negative cs ++ rest) = .ok (float x, rest) := by
  obtain ⟨hwhole, hpart, hpower, hsome⟩ := h
  obtain ⟨x, hread⟩ := readNumber_eq negative hwhole hpart hpower hrest
  rw [if_neg (not_and_or.mpr hsome)] at hread
  rw [signed_append, List.append_assoc, List.append_assoc]
  exact ⟨x, hread⟩

inductive Spelled : List Char → Prop
  | name {word : String} : word ∈ ["NaN", "Infinity", "-Infinity"] → Spelled word.toList
  | numeral (negative : Bool) {cs : List Char} : Numeral cs → Spelled (signed negative cs)

theorem spelled_floatText (x : Float) : Spelled (floatText x).toList := by
  rw [floatText]
  split
  · exact .name (by simp)
  next hnan =>
    split
    · split
      · exact .name (by simp)
      · exact .name (by simp)
    next hinf =>
      obtain ⟨negative, cs, hcs, htext⟩ :=
        Decimal.text_numeral (by simpa using hnan) (by simpa using hinf)
      exact htext ▸ .numeral negative hcs

theorem Numeral.started (negative : Bool) (h : Numeral cs) : Started (signed negative cs) := by
  obtain ⟨c, tail, rfl, hc⟩ := h.cons
  exact .mk negative tail hc

theorem Spelled.read {fuel depth : Nat} (h : Spelled cs) (hrest : Ended rest) :
    ∃ x, readValue (fuel + 1) depth (cs ++ rest) = .ok (float x, rest) := by
  cases h with
  | name hword =>
    simp only [List.mem_cons, List.not_mem_nil, or_false] at hword
    obtain rfl | rfl | rfl := hword <;> exact ⟨_, rfl⟩
  | numeral negative h =>
    rw [((Numeral.started negative h).append rest).readValue]
    exact readNumber_numeral negative h hrest

theorem Spelled.cons (h : Spelled cs) : ∃ c tail, cs = c :: tail ∧ c ∉ marks := by
  cases h with
  | name hword =>
    simp only [List.mem_cons, List.not_mem_nil, or_false] at hword
    obtain rfl | rfl | rfl := hword <;> exact ⟨_, _, rfl, by decide⟩
  | numeral negative h => exact (Numeral.started negative h).cons

theorem cr_notMem_signed (negative : Bool) (h : '\r' ∉ cs) : '\r' ∉ signed negative cs := by
  cases negative with
  | true => exact List.mem_cons.not.mpr (not_or.mpr ⟨by decide, h⟩)
  | false => exact h

theorem Spelled.cr_notMem (h : Spelled cs) : '\r' ∉ cs := by
  cases h with
  | name hword =>
    simp only [List.mem_cons, List.not_mem_nil, or_false] at hword
    obtain rfl | rfl | rfl := hword <;> decide
  | numeral negative h =>
    refine cr_notMem_signed negative fun hmem ↦ ?_
    obtain hdigit | hmark := h.chars _ hmem
    · cases hdigit
    · simp at hmark

end Json

end VariableExplorer
