import VariableExplorer.Proofs.Json.Numbers

/-!
Writing JSON and reading it again. What is written of a value with its elements on lines of their
own is read as that value: a string by its characters, a number by its digits, an array or object by
its elements one after the other. This holds of all values without real numbers whose integers are
not too long, whose objects have each key once and which are not nested too deep. Any other value is
read as some value or refused for what is too long or too deep in it, and does not change what is
read of the values around it.
-/

namespace VariableExplorer.Json

variable {fuel depth level n : Nat} {acc cs rest : List Char} {v : Json}

/-! ### Strings -/

theorem hexValue?_hexDigit : ∀ d < 16, hexValue? (Text.Quoted.hexDigit d) = some d := by decide

theorem readHex4?_hex (hn : n < 0x10000) (rest : List Char) :
    readHex4? (Text.Quoted.hex 4 n ++ rest) = some (n, rest) := by
  have hdigit (m : Nat) : hexValue? (Text.Quoted.hexDigit (m % 16)) = some (m % 16) :=
    hexValue?_hexDigit _ (Nat.mod_lt _ (by decide))
  have hvalue : ((n / 16 / 16 / 16 % 16 * 16 + n / 16 / 16 % 16) * 16 + n / 16 % 16) * 16 + n % 16 =
      n := by omega
  simp only [Text.Quoted.hex, List.nil_append, List.cons_append, readHex4?, hdigit,
    Option.bind_eq_bind, Option.bind_some, hvalue]
  rfl

theorem readString?_escapeUnit (hn : n < 0x10000) (hsurrogate : isHighSurrogate n = false) :
    readString? (fuel + 1) acc (escapeUnit n ++ cs) = readString? fuel (unitChar n :: acc) cs := by
  rw [escapeUnit, List.cons_append, List.cons_append, readString?]
  rw [readHex4?_hex hn]
  simp only [hsurrogate, Bool.false_and, Bool.false_eq_true, if_false]
  split
  · split <;> rfl
  · rfl

theorem readString?_pair {high low : Nat} (hhigh : high < 0x400) (hlow : low < 0x400) :
    readString? (fuel + 1) acc (escapeUnit (0xd800 + high) ++ escapeUnit (0xdc00 + low) ++ cs) =
      readString? fuel (Char.ofNat (0x10000 + high * 0x400 + low) :: acc) cs := by
  have hsurrogates : isHighSurrogate (0xd800 + high) && isLowSurrogate (0xdc00 + low) := by
    simp [isHighSurrogate, isLowSurrogate]
    omega
  have hreadHigh := readHex4?_hex (n := 0xd800 + high) (by omega)
  have hreadLow := readHex4?_hex (n := 0xdc00 + low) (by omega)
  simp only [escapeUnit, List.cons_append, List.append_assoc, readString?, hreadHigh, hreadLow,
    hsurrogates, if_true, Nat.add_sub_cancel_left]

theorem unitChar_toNat (c : Char) : unitChar c.toNat = c := by
  have hvalid : c.toNat < 0xd800 ∨ 0xdfff < c.toNat ∧ c.toNat < 0x110000 := c.valid
  have hsurrogate : ¬ (0xd800 ≤ c.toNat && c.toNat < 0xe000) = true := by
    simp
    omega
  rw [unitChar, if_neg hsurrogate, Char.ofNat_toNat]

theorem readString?_plain {c : Char} (hmark : c ≠ '"') (hescape : c ≠ '\\')
    (hc : 0x20 ≤ c.toNat) :
    readString? (fuel + 1) acc (c :: cs) = readString? fuel (c :: acc) cs := by
  rw [readString?.eq_def]
  dsimp only
  split
  next h => cases h
  next h => exact absurd (List.cons.inj h).1 hmark
  next h => exact absurd (List.cons.inj h).1 hescape
  next h => exact absurd (List.cons.inj h).1 hescape
  next h =>
    cases h
    exact if_neg (by omega)

theorem readString?_encodeChar (c : Char) :
    readString? (fuel + 1) acc (encodeChar c ++ cs) = readString? fuel (c :: acc) cs := by
  have hvalid : c.toNat < 0xd800 ∨ 0xdfff < c.toNat ∧ c.toNat < 0x110000 := c.valid
  unfold encodeChar
  split
  next h =>
    obtain rfl | rfl := (by simpa using h : c = '"' ∨ c = '\\') <;> rfl
  split
  next h => exact h ▸ rfl
  split
  next h => exact h ▸ rfl
  split
  next h => exact h ▸ rfl
  split
  next h => exact h ▸ rfl
  split
  next h => exact h ▸ rfl
  dsimp only
  split
  next hmark _ _ _ _ _ hprintable =>
    rw [Bool.or_eq_true, decide_eq_true_eq, decide_eq_true_eq, not_or] at hmark
    rw [Bool.and_eq_true, decide_eq_true_eq] at hprintable
    exact readString?_plain hmark.1 hmark.2 hprintable.1
  split
  next hunit =>
    have hhigh : isHighSurrogate c.toNat = false := by
      simp [isHighSurrogate]
      omega
    rw [readString?_escapeUnit hunit hhigh, unitChar_toNat]
  next hpair =>
    rw [readString?_pair (by omega) (by omega)]
    have hcode : 0x10000 + (c.toNat - 0x10000) / 0x400 * 0x400 + (c.toNat - 0x10000) % 0x400 =
        c.toNat := by omega
    rw [hcode, Char.ofNat_toNat]

theorem length_encodeChar_pos (c : Char) : 0 < (encodeChar c).length := by
  unfold encodeChar escapeUnit
  dsimp only
  split_ifs <;> simp

theorem readString?_flatMap (s : List Char) (h : s.length < fuel) :
    readString? fuel acc (s.flatMap encodeChar ++ '"' :: rest) =
      some (String.ofList (acc.reverse ++ s), rest) := by
  induction s generalizing fuel acc with
  | nil =>
    obtain ⟨fuel, rfl⟩ := Nat.exists_eq_add_of_lt h
    simp [readString?]
  | cons c s ih =>
    obtain ⟨fuel, rfl⟩ := Nat.exists_eq_add_of_le' (Nat.lt_of_le_of_lt (Nat.zero_le _) h)
    rw [List.flatMap_cons, List.append_assoc, readString?_encodeChar,
      ih (Nat.lt_of_succ_lt_succ h)]
    simp

theorem readString?_quote (s : String) (rest : List Char) :
    readString? ((s.toList.flatMap encodeChar ++ '"' :: rest).length + 1) []
      (s.toList.flatMap encodeChar ++ '"' :: rest) = some (s, rest) := by
  have hlength (cs : List Char) : cs.length ≤ (cs.flatMap encodeChar).length := by
    induction cs with
    | nil => exact Nat.le_refl 0
    | cons c cs ih =>
      have hpos := length_encodeChar_pos c
      rw [List.flatMap_cons, List.length_append, List.length_cons]
      omega
  have hs := hlength s.toList
  rw [readString?_flatMap _ (by rw [List.length_append]; omega)]
  simp

/-! ### Values -/

/-- A value that can be written so that it is read again, within so many levels of brackets. -/
inductive Storable : Nat → Json → Prop
  | null {depth : Nat} : Storable depth null
  | bool {depth : Nat} (b : Bool) : Storable depth (bool b)
  | int {depth : Nat} {i : Int} : (Nat.toDigits 10 i.natAbs).length ≤ Decimal.digitLimit →
      Storable depth (int i)
  | str {depth : Nat} (s : String) : Storable depth (str s)
  | arr {depth : Nat} {vs : List Json} : (∀ v ∈ vs, Storable depth v) → Storable (depth + 1) (arr vs)
  | obj {depth : Nat} {fs : List (String × Json)} : (fs.map Prod.fst).Nodup →
      (∀ f ∈ fs, Storable depth f.2) → Storable (depth + 1) (obj fs)

def Kept (depth : Nat) (v w : Json) : Prop := Storable depth v → w = v

/-- What comes of reading a value that was written: a value and what follows it, or a refusal
for one of the limits. -/
inductive Read (depth : Nat) (v : Json) (rest : List Char) :
    Except Fault (Json × List Char) → Prop
  | ok {w : Json} : Kept depth v w → Read depth v rest (.ok (w, rest))
  | error {f : Fault} : f ≠ .malformed → ¬ Storable depth v → Read depth v rest (.error f)

def Reads (depth : Nat) (v : Json) : Prop := ∀ level fuel rest, (render level v).length ≤ fuel →
  Ended rest → Read depth v rest (readValue fuel depth (render level v ++ rest))

theorem all_kept {vs ws : List Json} (hkept : List.Forall₂ (Kept depth) vs ws)
    (h : ∀ v ∈ vs, Storable depth v) : ws = vs := by
  induction hkept with
  | nil => rfl
  | cons hkept _ ih =>
    rw [hkept (h _ List.mem_cons_self), ih fun v hv ↦ h v (List.mem_cons_of_mem _ hv)]

def FieldKept (depth : Nat) (f g : String × Json) : Prop := g.1 = f.1 ∧ Kept depth f.2 g.2

theorem fields_kept {fs gs : List (String × Json)} (hkept : List.Forall₂ (FieldKept depth) fs gs)
    (h : ∀ f ∈ fs, Storable depth f.2) : gs = fs := by
  induction hkept with
  | nil => rfl
  | cons hkept _ ih =>
    rw [Prod.ext hkept.1 (hkept.2 (h _ List.mem_cons_self)),
      ih fun f hf ↦ h f (List.mem_cons_of_mem _ hf)]

theorem fields_keys {fs gs : List (String × Json)} (hkept : List.Forall₂ (FieldKept depth) fs gs) :
    gs.map Prod.fst = fs.map Prod.fst := by
  induction hkept with
  | nil => rfl
  | cons hkept _ ih => rw [List.map_cons, List.map_cons, hkept.1, ih]

/-- Fields are put to those that are there, one after the other. -/
def insertFields (acc fs : List (String × Json)) : List (String × Json) :=
  fs.foldl (fun acc f ↦ insertField f.1 f.2 acc) acc

theorem insertField_append {k : String} {fs : List (String × Json)} (v : Json)
    (h : k ∉ fs.map Prod.fst) : insertField k v fs = fs ++ [(k, v)] := by
  induction fs with
  | nil => rfl
  | cons f fs ih =>
    obtain ⟨hne, hfs⟩ := not_or.mp (List.mem_cons.not.mp h)
    rw [insertField, if_neg (Ne.symm hne), ih hfs, List.cons_append]

theorem insertFields_append {acc fs : List (String × Json)}
    (h : ((acc ++ fs).map Prod.fst).Nodup) : insertFields acc fs = acc ++ fs := by
  induction fs generalizing acc with
  | nil => exact (List.append_nil acc).symm
  | cons f fs ih =>
    have hf : f.1 ∉ acc.map Prod.fst := fun hmem ↦ by
      rw [List.map_append, List.nodup_append] at h
      exact h.2.2 _ hmem _ List.mem_cons_self rfl
    rw [List.append_cons] at h ⊢
    rw [← ih h, insertFields, List.foldl_cons, insertField_append f.2 hf]
    rfl

theorem skipBlank_lineBreak (level : Nat) (cs : List Char) :
    skipBlank (lineBreak level ++ cs) = skipBlank cs := by
  have hblanks (n : Nat) : skipBlank (List.replicate n ' ' ++ cs) = skipBlank cs := by
    induction n with
    | zero => rfl
    | succ n ih => exact ih
  exact hblanks _

theorem render_start (v : Json) (level : Nat) : ∃ c cs, render level v = c :: cs ∧
    c ∉ [' ', '\t', '\n', '\r', ']', '}'] := by
  have hmarks {c : Char} (h : c ∉ marks) : c ∉ [' ', '\t', '\n', '\r', ']', '}'] := by
    simp only [marks, List.mem_cons, List.not_mem_nil, or_false, not_or] at h ⊢
    simp [h]
  cases v with
  | null => exact ⟨_, _, rfl, by decide⟩
  | bool b => cases b <;> exact ⟨_, _, rfl, by decide⟩
  | int i =>
    obtain ⟨c, cs, htext, hc⟩ := (started_toString i).cons
    exact ⟨c, cs, htext, hmarks hc⟩
  | float x =>
    obtain ⟨c, cs, htext, hc⟩ := (spelled_floatText x).cons
    exact ⟨c, cs, htext, hmarks hc⟩
  | str s => exact ⟨_, _, rfl, by decide⟩
  | arr vs => cases vs <;> exact ⟨_, _, rfl, by decide⟩
  | obj fs => cases fs <;> exact ⟨_, _, rfl, by decide⟩

theorem skipBlank_render (v : Json) (level : Nat) (cs : List Char) :
    skipBlank (render level v ++ cs) = render level v ++ cs := by
  obtain ⟨c, tail, hstart, hc⟩ := render_start v level
  simp only [List.mem_cons, not_or] at hc
  rw [hstart, List.cons_append, skipBlank, if_neg (by simp [hc])]

section

variable {tail : List Char}

theorem readItems_close {acc : List Json} (hv : readValue fuel depth cs = .ok (v, tail))
    (htail : skipBlank tail = ']' :: rest) :
    readItems (fuel + 1) depth acc cs = .ok (arr (acc.reverse ++ [v]), rest) := by
  rw [readItems, hv]
  simp [htail]

theorem readItems_comma {acc : List Json} (hv : readValue fuel depth cs = .ok (v, ',' :: tail)) :
    readItems (fuel + 1) depth acc cs = readItems fuel depth (v :: acc) (skipBlank tail) := by
  rw [readItems, hv]
  rfl

theorem readItems_error {acc : List Json} {f : Fault}
    (hv : readValue fuel depth cs = .error f) : readItems (fuel + 1) depth acc cs = .error f := by
  rw [readItems, hv]

/-- What comes of reading the items of an array behind those that were read. -/
inductive ItemsRead (depth : Nat) (vs acc : List Json) (rest : List Char) :
    Except Fault (Json × List Char) → Prop
  | ok {ws : List Json} : List.Forall₂ (Kept depth) vs ws →
      ItemsRead depth vs acc rest (.ok (arr (acc.reverse ++ ws), rest))
  | error {f : Fault} {v : Json} : f ≠ .malformed → v ∈ vs → ¬ Storable depth v →
      ItemsRead depth vs acc rest (.error f)

theorem ItemsRead.read {vs : List Json} {r : Except Fault (Json × List Char)}
    (h : ItemsRead depth vs [] rest r) : Read (depth + 1) (arr vs) rest r := by
  cases h with
  | ok hws =>
    refine .ok fun hstorable ↦ ?_
    cases hstorable with
    | arr hvs => exact congrArg arr (all_kept hws hvs)
  | error hf hv hnot =>
    refine .error hf fun hstorable ↦ ?_
    cases hstorable with
    | arr hvs => exact hnot (hvs _ hv)

/-- The items of an array are read one after the other, the first on its own and the others each
behind a comma. -/
theorem readItems_render {vs acc : List Json} (hreads : ∀ w ∈ v :: vs, Reads depth w)
    (htail : Ended tail) (hclose : skipBlank tail = ']' :: rest)
    (hfuel : (render level v).length + (renderItems level vs).length < fuel) :
    ItemsRead depth (v :: vs) acc rest
      (readItems fuel depth acc (render level v ++ (renderItems level vs ++ tail))) := by
  -- The fuel exceeds the text that is left, so one step leaves enough for the next.
  induction vs generalizing v acc fuel with
  | nil =>
    obtain ⟨fuel, rfl⟩ := Nat.exists_eq_add_of_le' (Nat.lt_of_le_of_lt (Nat.zero_le _) hfuel)
    have hv := hreads v List.mem_cons_self level fuel tail (by omega) htail
    rw [renderItems, List.nil_append]
    generalize hread : readValue fuel depth (render level v ++ tail) = r at hv
    cases hv with
    | ok hkept => exact readItems_close hread hclose ▸ .ok (.cons hkept .nil)
    | error hf hv => exact readItems_error hread ▸ .error hf List.mem_cons_self hv
  | cons w ws ih =>
    obtain ⟨fuel, rfl⟩ := Nat.exists_eq_add_of_le' (Nat.lt_of_le_of_lt (Nat.zero_le _) hfuel)
    simp only [renderItems, List.cons_append, List.append_assoc, List.length_cons,
      List.length_append] at hfuel ⊢
    have hv := hreads v List.mem_cons_self level fuel _ (by omega) (.comma (lineBreak level ++
      (render level w ++ (renderItems level ws ++ tail))))
    generalize hread : readValue fuel depth _ = r at hv
    cases hv with
    | error hf hv => exact readItems_error hread ▸ .error hf List.mem_cons_self hv
    | @ok v' hkept =>
      rw [readItems_comma hread, skipBlank_lineBreak, skipBlank_render]
      have hrest : ItemsRead depth (w :: ws) (v' :: acc) rest
          (readItems fuel depth (v' :: acc) _) :=
        ih (fun u hu ↦ hreads u (List.mem_cons_of_mem v hu)) (by omega)
      generalize readItems fuel depth (v' :: acc) _ = r at hrest
      cases hrest with
      | @ok ws' hws =>
        rw [List.reverse_cons, List.append_assoc]
        exact .ok (.cons hkept hws)
      | error hf hmem hv => exact .error hf (List.mem_cons_of_mem v hmem) hv

theorem quote_append (k : String) (cs : List Char) :
    quote k ++ cs = '"' :: (k.toList.flatMap encodeChar ++ '"' :: cs) := by
  simp [quote]

section

variable {acc : List (String × Json)} (k : String) (hstart : skipBlank cs = cs)

include hstart

theorem readFields_quote :
    readFields (fuel + 1) depth acc (quote k ++ ':' :: ' ' :: cs) =
      match readValue fuel depth cs with
      | .error e => .error e
      | .ok (v, rest) =>
        match skipBlank rest with
        | '}' :: after => .ok (obj (insertField k v acc), after)
        | ',' :: more => readFields fuel depth (insertField k v acc) (skipBlank more)
        | _ => .error .malformed := by
  rw [quote_append, readFields, readString?_quote]
  conv_rhs => rw [← hstart]
  rfl

theorem readFields_close (hv : readValue fuel depth cs = .ok (v, tail))
    (htail : skipBlank tail = '}' :: rest) :
    readFields (fuel + 1) depth acc (quote k ++ ':' :: ' ' :: cs) =
      .ok (obj (insertField k v acc), rest) := by
  rw [readFields_quote k hstart, hv]
  simp only [htail]

theorem readFields_comma (hv : readValue fuel depth cs = .ok (v, ',' :: tail)) :
    readFields (fuel + 1) depth acc (quote k ++ ':' :: ' ' :: cs) =
      readFields fuel depth (insertField k v acc) (skipBlank tail) := by
  rw [readFields_quote k hstart, hv]
  rfl

theorem readFields_error {f : Fault} (hv : readValue fuel depth cs = .error f) :
    readFields (fuel + 1) depth acc (quote k ++ ':' :: ' ' :: cs) = .error f := by
  rw [readFields_quote k hstart, hv]

end

inductive FieldsRead (depth : Nat) (fs acc : List (String × Json)) (rest : List Char) :
    Except Fault (Json × List Char) → Prop
  | ok {gs : List (String × Json)} : List.Forall₂ (FieldKept depth) fs gs →
      FieldsRead depth fs acc rest (.ok (obj (insertFields acc gs), rest))
  | error {e : Fault} {f : String × Json} : e ≠ .malformed → f ∈ fs → ¬ Storable depth f.2 →
      FieldsRead depth fs acc rest (.error e)

theorem FieldsRead.read {fs : List (String × Json)} {r : Except Fault (Json × List Char)}
    (h : FieldsRead depth fs [] rest r) : Read (depth + 1) (obj fs) rest r := by
  cases h with
  | ok hgs =>
    refine .ok fun hstorable ↦ ?_
    cases hstorable with
    | obj hkeys hfs =>
      rw [fields_kept hgs hfs]
      exact congrArg obj (insertFields_append hkeys)
  | error hf hv hnot =>
    refine .error hf fun hstorable ↦ ?_
    cases hstorable with
    | obj _ hfs => exact hnot (hfs _ hv)

theorem readFields_render {k : String} {fs acc : List (String × Json)}
    (hreads : ∀ f ∈ (k, v) :: fs, Reads depth f.2) (htail : Ended tail)
    (hclose : skipBlank tail = '}' :: rest)
    (hfuel : (render level v).length + (renderFields level fs).length < fuel) :
    FieldsRead depth ((k, v) :: fs) acc rest (readFields fuel depth acc
      (quote k ++ ':' :: ' ' :: (render level v ++ (renderFields level fs ++ tail)))) := by
  -- A field that is read joins `acc`, so what has been read before is general.
  induction fs generalizing k v acc fuel with
  | nil =>
    obtain ⟨fuel, rfl⟩ := Nat.exists_eq_add_of_le' (Nat.lt_of_le_of_lt (Nat.zero_le _) hfuel)
    have hreads : Reads depth v := hreads (k, v) List.mem_cons_self
    have hv := hreads level fuel tail (by omega) htail
    have hblank := skipBlank_render v level tail
    rw [renderFields, List.nil_append]
    generalize hread : readValue fuel depth _ = r at hv
    cases hv with
    | @ok v' hkept =>
      have hgs : List.Forall₂ (FieldKept depth) [(k, v)] [(k, v')] := .cons ⟨rfl, hkept⟩ .nil
      exact readFields_close k hblank hread hclose ▸ .ok hgs
    | error he hv => exact readFields_error k hblank hread ▸ .error he List.mem_cons_self hv
  | cons f fs ih =>
    obtain ⟨fuel, rfl⟩ := Nat.exists_eq_add_of_le' (Nat.lt_of_le_of_lt (Nat.zero_le _) hfuel)
    obtain ⟨k', w⟩ := f
    have hstart (cs : List Char) : skipBlank (quote k' ++ cs) = quote k' ++ cs := rfl
    simp only [renderFields, List.cons_append, List.append_assoc, List.nil_append, List.length_cons,
      List.length_append] at hfuel ⊢
    have hfirst : Reads depth v := hreads (k, v) List.mem_cons_self
    have hv := hfirst level fuel _ (by omega) (.comma (lineBreak level ++
      (quote k' ++ ':' :: ' ' :: (render level w ++ (renderFields level fs ++ tail)))))
    have hblank (more : List Char) := skipBlank_render v level more
    generalize hread : readValue fuel depth _ = r at hv
    cases hv with
    | error he hv => exact readFields_error k (hblank _) hread ▸ .error he List.mem_cons_self hv
    | @ok v' hkept =>
      rw [readFields_comma k (hblank _) hread, skipBlank_lineBreak, hstart]
      have hrest : FieldsRead depth ((k', w) :: fs) (insertField k v' acc) rest
          (readFields fuel depth (insertField k v' acc) _) :=
        ih (fun g hg ↦ hreads g (List.mem_cons_of_mem _ hg)) (by omega)
      generalize readFields fuel depth (insertField k v' acc) _ = r at hrest
      cases hrest with
      | @ok gs hgs =>
        have hall : List.Forall₂ (FieldKept depth) ((k, v) :: (k', w) :: fs) ((k, v') :: gs) :=
          .cons ⟨rfl, hkept⟩ hgs
        exact .ok hall
      | error he hmem hv => exact .error he (List.mem_cons_of_mem _ hmem) hv

end

theorem readValue_arr (hstart : ∀ after, skipBlank cs ≠ ']' :: after) :
    readValue (fuel + 1) (depth + 1) ('[' :: cs) = readItems fuel depth [] (skipBlank cs) := by
  rw [readValue, if_neg (Nat.succ_ne_zero depth)]
  split
  next heq => exact absurd heq (hstart _)
  · rfl

theorem readValue_obj (hstart : ∀ after, skipBlank cs ≠ '}' :: after) :
    readValue (fuel + 1) (depth + 1) ('{' :: cs) = readFields fuel depth [] (skipBlank cs) := by
  rw [readValue, if_neg (Nat.succ_ne_zero depth)]
  split
  next heq => exact absurd heq (hstart _)
  · rfl

/-- What holds of a value if it holds of its elements holds of all values. -/
@[elab_as_elim]
theorem ofElements {motive : Json → Prop} (null : motive null) (bool : ∀ b, motive (bool b))
    (int : ∀ i, motive (int i)) (float : ∀ x, motive (float x)) (str : ∀ s, motive (str s))
    (arr : ∀ vs, (∀ v ∈ vs, motive v) → motive (arr vs))
    (obj : ∀ fs, (∀ f ∈ fs, motive f.2) → motive (obj fs)) (v : Json) : motive v :=
  @Json.rec motive (fun vs ↦ ∀ v ∈ vs, motive v) (fun fs ↦ ∀ f ∈ fs, motive f.2)
    (fun f ↦ motive f.2) null bool int float str arr obj nofun
    (fun _ _ hv hvs ↦ List.forall_mem_cons.mpr ⟨hv, hvs⟩) nofun
    (fun _ _ hf hfs ↦ List.forall_mem_cons.mpr ⟨hf, hfs⟩) (fun _ _ hv ↦ hv) v

theorem Reads.of_succ (hread : ∀ level fuel rest, (render level v).length ≤ fuel + 1 →
    Ended rest → Read depth v rest (readValue (fuel + 1) depth (render level v ++ rest))) :
    Reads depth v := by
  intro level fuel rest hfuel hrest
  obtain ⟨c, cs, hstart, -⟩ := render_start v level
  cases fuel with
  | zero => rw [hstart] at hfuel; cases hfuel
  | succ fuel => exact hread level fuel rest hfuel hrest

theorem reads_int (i : Int) : Reads depth (.int i) := by
  refine .of_succ fun level fuel rest hfuel hrest ↦ ?_
  have hrender : render level (.int i) = (toString i).toList := rfl
  rw [hrender, ((started_toString i).append rest).readValue, readNumber_int i hrest]
  split
  next hlong =>
    refine .error nofun fun h ↦ ?_
    cases h with
    | int hi => exact absurd hlong (Nat.not_lt.mpr hi)
  · exact .ok fun _ ↦ rfl

theorem not_storable_float (x : Float) : ¬ Storable depth (.float x) := nofun

theorem reads_arr {vs : List Json} (h : ∀ v ∈ vs, ∀ depth, Reads depth v) (depth : Nat) :
    Reads depth (.arr vs) := by
  refine .of_succ fun level fuel rest hfuel hrest ↦ ?_
  cases depth with
  | zero => cases vs <;> exact .error nofun nofun
  | succ depth =>
    cases vs with
    | nil => exact .ok fun _ ↦ rfl
    | cons v vs =>
      have hblank (cs : List Char) := (skipBlank_lineBreak (level + 1) _).trans
        (skipBlank_render v (level + 1) cs)
      obtain ⟨c, tail, hstart, hc⟩ := render_start v (level + 1)
      simp only [render, List.cons_append, List.append_assoc, List.nil_append, List.length_cons,
        List.length_append] at hfuel ⊢
      rw [readValue_arr, hblank]
      · exact (readItems_render (fun w hw ↦ h w hw depth) (.line _)
          (skipBlank_lineBreak level (']' :: rest)) (by omega)).read
      -- The array is not empty: its first item starts with no bracket that closes one.
      · intro after
        rw [hblank, hstart]
        rintro ⟨⟩
        simp at hc

theorem fieldsRead_render {fs : List (String × Json)}
    (h : ∀ f ∈ fs, ∀ depth, Reads depth f.2)
    (hfuel : (render level (.obj fs)).length ≤ fuel + 1) :
    FieldsRead depth fs [] rest
      (readValue (fuel + 1) (depth + 1) (render level (.obj fs) ++ rest)) := by
  cases fs with
  | nil => exact .ok .nil
  | cons f fs =>
    obtain ⟨k, v⟩ := f
    have hblank (cs : List Char) :
        skipBlank (lineBreak (level + 1) ++ (quote k ++ cs)) = quote k ++ cs :=
      skipBlank_lineBreak (level + 1) _
    simp only [render, List.cons_append, List.append_assoc, List.nil_append, List.length_cons,
      List.length_append] at hfuel ⊢
    rw [readValue_obj, hblank]
    · exact readFields_render (fun f hf ↦ h f hf depth) (.line _)
        (skipBlank_lineBreak level ('}' :: rest)) (by omega)
    · intro after
      rw [hblank]
      exact nofun

theorem reads_obj {fs : List (String × Json)} (h : ∀ f ∈ fs, ∀ depth, Reads depth f.2)
    (depth : Nat) : Reads depth (.obj fs) := by
  refine .of_succ fun level fuel rest hfuel _ ↦ ?_
  cases depth with
  | zero => cases fs <;> exact .error nofun nofun
  | succ depth => exact (fieldsRead_render h hfuel).read

/-- What is written of a value is read as the value, whatever follows it. -/
theorem reads (v : Json) : ∀ depth, Reads depth v := by
  induction v using ofElements with
  | null => exact fun _ ↦ .of_succ fun _ _ _ _ _ ↦ .ok fun _ ↦ rfl
  | bool b => cases b <;> exact fun _ ↦ .of_succ fun _ _ _ _ _ ↦ .ok fun _ ↦ rfl
  | int i => exact fun _ ↦ reads_int i
  | float x =>
    refine fun depth ↦ .of_succ fun level fuel rest _ hrest ↦ ?_
    obtain ⟨y, hread⟩ := (spelled_floatText x).read hrest
    exact hread ▸ .ok fun h ↦ absurd h (not_storable_float x)
  | str s =>
    refine fun depth ↦ .of_succ fun level fuel rest _ _ ↦ ?_
    have hread := readString?_quote s rest
    have hrender : render level (.str s) = quote s := rfl
    rw [hrender, quote_append, readValue, hread]
    exact .ok fun _ ↦ rfl
  | arr vs ih => exact reads_arr ih
  | obj fs ih => exact reads_obj ih

theorem skipBlank_pretty (v : Json) : skipBlank (pretty v).toList = render 0 v := by
  rw [pretty, String.toList_ofList]
  simpa using skipBlank_render v 0 []

theorem parse_pretty (h : Storable depthLimit v) : parse (pretty v) = .ok v := by
  have hread := reads v depthLimit 0 (2 * (render 0 v).length + 2) [] (by omega) .nil
  rw [List.append_nil] at hread
  rw [parse, skipBlank_pretty]
  generalize readValue (2 * (render 0 v).length + 2) depthLimit (render 0 v) = r at hread ⊢
  cases hread with
  | ok hkept =>
    rw [hkept h]
    rfl
  | error _ hnot => exact absurd h hnot

/-- Of any object the text is read as an object with the same keys, unless it exceeds a limit. -/
theorem parse_pretty_obj {fs : List (String × Json)} (h : (fs.map Prod.fst).Nodup) :
    (∃ gs, List.Forall₂ (FieldKept (depthLimit - 1)) fs gs ∧
      parse (pretty (.obj fs)) = .ok (.obj gs)) ∨
    ∃ f, f ≠ .malformed ∧ parse (pretty (.obj fs)) = .error f := by
  have hread : FieldsRead (depthLimit - 1) fs [] []
      (readValue (2 * (render 0 (.obj fs)).length + 2) depthLimit (render 0 (.obj fs) ++ [])) :=
    fieldsRead_render (fun f _ ↦ reads f.2) (by omega)
  rw [List.append_nil] at hread
  rw [parse, skipBlank_pretty]
  generalize readValue (2 * (render 0 (.obj fs)).length + 2) depthLimit (render 0 (.obj fs)) = r
    at hread ⊢
  cases hread with
  | @ok gs hgs =>
    have hkeys : (([] ++ gs).map Prod.fst).Nodup := fields_keys hgs ▸ h
    rw [insertFields_append hkeys]
    exact .inl ⟨gs, hgs, rfl⟩
  | error he => exact .inr ⟨_, he, rfl⟩

end VariableExplorer.Json
