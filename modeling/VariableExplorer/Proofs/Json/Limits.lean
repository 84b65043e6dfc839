import VariableExplorer.Json

/-!
What keeps a text from being read as JSON. Reading goes through the text from front to end, and
where it stops at a limit the text itself exceeds it: by a number of so many digits or by so many
opening brackets.
-/

namespace VariableExplorer.Json

def openings (cs : List Char) : Nat := cs.countP fun c ↦ c = '[' || c = '{'

/-- What a text has to hold that is not read, where so many levels of brackets are allowed. -/
inductive Exceeds (depth : Nat) (cs : List Char) : Fault → Prop
  | malformed : Exceeds depth cs .malformed
  | digits {run : List Char} : run <:+: cs → (∀ c ∈ run, c.isDigit = true) →
      Decimal.digitLimit < run.length → Exceeds depth cs (.tooManyDigits run.length)
  | deep : depth < openings cs → Exceeds depth cs .tooDeep

variable {depth fuel : Nat} {c : Char} {cs cs' rest : List Char} {f : Fault}

theorem openings_le (h : cs <:+ cs') : openings cs ≤ openings cs' := h.countP_le

theorem Exceeds.mono (h : Exceeds depth cs f) (hsuffix : cs <:+ cs') : Exceeds depth cs' f := by
  cases h with
  | malformed => exact .malformed
  | digits hrun hdigits hlong => exact .digits (hrun.trans hsuffix.isInfix) hdigits hlong
  | deep h => exact .deep (Nat.lt_of_lt_of_le h (openings_le hsuffix))

theorem Exceeds.opened (hc : c = '[' ∨ c = '{') (h : Exceeds (depth - 1) cs f) :
    Exceeds depth (c :: cs) f := by
  cases h with
  | malformed => exact .malformed
  | digits hrun hdigits hlong =>
    exact .digits (hrun.trans (List.suffix_cons c cs).isInfix) hdigits hlong
  | deep h =>
    have hcount : openings (c :: cs) = openings cs + 1 :=
      List.countP_cons_of_pos (by simpa using hc)
    exact .deep (by omega)

/-- A reader of values goes on behind what it has read, and stops at nothing but what the text
holds. -/
inductive Reading (depth : Nat) (cs : List Char) : Except Fault (Json × List Char) → Prop
  | ok {v : Json} {rest : List Char} : rest <:+ cs → Reading depth cs (.ok (v, rest))
  | error {f : Fault} : Exceeds depth cs f → Reading depth cs (.error f)

theorem Reading.mono {r : Except Fault (Json × List Char)} (h : Reading depth cs r)
    (hsuffix : cs <:+ cs') : Reading depth cs' r := by
  cases h with
  | ok h => exact .ok (h.trans hsuffix)
  | error h => exact .error (h.mono hsuffix)

theorem Reading.opened {r : Except Fault (Json × List Char)} (hc : c = '[' ∨ c = '{')
    (h : Reading (depth - 1) cs r) : Reading depth (c :: cs) r := by
  cases h with
  | ok h => exact .ok (h.trans (List.suffix_cons c cs))
  | error h => exact .error (h.opened hc)

theorem Reading.malformed : Reading depth cs (.error .malformed) := .error .malformed

/-! ### What is left behind a part -/

theorem skipBlank_suffix (cs : List Char) : skipBlank cs <:+ cs := by
  induction cs with
  | nil => exact List.suffix_rfl
  | cons c cs ih =>
    rw [skipBlank]
    split
    · exact ih.trans (List.suffix_cons c cs)
    · exact List.suffix_rfl

theorem suffix_of_skipBlank (h : skipBlank cs = c :: rest) : rest <:+ cs :=
  (List.suffix_cons c rest).trans (h ▸ skipBlank_suffix cs)

theorem readHex4?_suffix {n : Nat} (h : readHex4? cs = some (n, rest)) : rest <:+ cs := by
  unfold readHex4? at h
  split at h
  next a b c d rest' =>
    simp only [Option.bind_eq_bind, Option.bind_eq_some_iff] at h
    obtain ⟨_, -, _, -, _, -, _, -, h⟩ := h
    cases h
    exact ⟨[a, b, c, d], rfl⟩
  · cases h

theorem readString?_suffix {acc : List Char} {s : String}
    (h : readString? fuel acc cs = some (s, rest)) : rest <:+ cs := by
  induction fuel generalizing acc cs with
  | zero => cases h
  | succ fuel ih =>
    unfold readString? at h
    split at h
    · cases h
    · cases h
      exact List.suffix_cons _ _
    next tail =>
      have hu : tail <:+ '\\' :: 'u' :: tail := ⟨['\\', 'u'], rfl⟩
      split at h
      · cases h
      next n rest' hhex =>
        have hrest := (readHex4?_suffix hhex).trans hu
        split at h
        next more =>
          split at h
          next low more' hlow =>
            split at h
            · exact (ih h).trans ((readHex4?_suffix hlow).trans (.trans ⟨['\\', 'u'], rfl⟩ hrest))
            · exact (ih h).trans hrest
          · exact (ih h).trans hrest
        · exact (ih h).trans hrest
    next c tail hnotU =>
      split at h
      · exact (ih h).trans ⟨['\\', c], rfl⟩
      · cases h
    next c tail hmark hunit hescape =>
      split at h
      · cases h
      · exact (ih h).trans (List.suffix_cons c tail)

theorem takeDigits_eq {ds : List Char} (h : takeDigits cs = (ds, rest)) :
    ds ++ rest = cs ∧ ∀ c ∈ ds, c.isDigit = true := by
  cases h
  exact ⟨List.takeWhile_append_dropWhile, List.all_eq_true.mp List.all_takeWhile⟩

theorem takeDigits_suffix {ds : List Char} (h : takeDigits cs = (ds, rest)) : rest <:+ cs :=
  ⟨ds, (takeDigits_eq h).1⟩

theorem takePart_suffix {part : List Char} (h : takePart cs = (part, rest)) : rest <:+ cs := by
  unfold takePart at h
  split at h
  next tail =>
    split at h
    · cases h
      exact List.suffix_rfl
    · exact (takeDigits_suffix h).trans (List.suffix_cons '.' tail)
  · cases h
    exact List.suffix_rfl

theorem takeSign_suffix {negative : Bool} (h : Decimal.takeSign cs = (negative, rest)) :
    rest <:+ cs := by
  unfold Decimal.takeSign at h
  split at h <;> cases h
  · exact List.suffix_cons _ _
  · exact List.suffix_cons _ _
  · exact List.suffix_rfl

theorem takeExponent_suffix {exponent : Option Int} (h : takeExponent cs = (exponent, rest)) :
    rest <:+ cs := by
  cases cs with
  | nil =>
    cases h
    exact List.suffix_rfl
  | cons c tail =>
    rw [takeExponent] at h
    split at h
    · split at h
      next negative digits hsign =>
      split at h
      · cases h
        exact List.suffix_rfl
      next hdigits =>
        cases h
        exact (takeDigits_suffix hdigits).trans
          ((takeSign_suffix hsign).trans (List.suffix_cons c tail))
    · cases h
      exact List.suffix_rfl

theorem startsWith_suffix {word : String} (h : startsWith word cs = some rest) : rest <:+ cs := by
  unfold startsWith at h
  split at h
  · cases h
    exact List.drop_suffix _ _
  · cases h

theorem readName?_suffix {v : Json} (h : readName? cs = some (v, rest)) : rest <:+ cs := by
  obtain ⟨⟨word, w⟩, -, h⟩ := List.exists_of_findSome?_eq_some h
  obtain ⟨rest', hword, h⟩ := Option.map_eq_some_iff.mp h
  cases h
  exact startsWith_suffix hword

/-! ### Reading values -/

theorem reading_number (depth : Nat) (cs : List Char) : Reading depth cs (readNumber cs) := by
  unfold readNumber
  split
  next negative body hbody =>
  have hbody : body <:+ cs := by
    split at hbody
    · cases hbody
      exact List.suffix_cons _ _
    · cases hbody
      exact List.suffix_rfl
  split
  next whole after hwhole =>
  have hwhole : whole ++ after = body ∧ ∀ c ∈ whole, c.isDigit = true := by
    split at hwhole
    · cases hwhole
      exact ⟨rfl, by simp⟩
    · exact takeDigits_eq hwhole
  have hafter : after <:+ cs := .trans ⟨whole, hwhole.1⟩ hbody
  split
  · exact .malformed
  split
  next part rest hpart =>
  split
  next exponent rest' hexponent =>
  have hrest : rest' <:+ cs :=
    (takeExponent_suffix hexponent).trans ((takePart_suffix hpart).trans hafter)
  split
  · split
    next hlong =>
      have hrun : whole <:+: cs := .trans ⟨[], after, hwhole.1⟩ hbody.isInfix
      exact .error (.digits hrun hwhole.2 hlong)
    · exact .ok hrest
  · exact .ok hrest

section

variable (hvalue : ∀ depth cs, Reading depth cs (readValue fuel depth cs))
  (hitems : ∀ depth acc cs, Reading depth cs (readItems fuel depth acc cs))
  (hfields : ∀ depth acc cs, Reading depth cs (readFields fuel depth acc cs))

include hitems hfields in
theorem reading_value (depth : Nat) (cs : List Char) :
    Reading depth cs (readValue (fuel + 1) depth cs) := by
  rw [readValue.eq_def]
  dsimp only
  split
  next rest =>
    split
    next hread => exact .ok ((readString?_suffix hread).trans (List.suffix_cons _ _))
    · exact .malformed
  next rest =>
    split
    next hdepth =>
      exact .error (.deep (hdepth ▸ List.countP_pos_iff.mpr ⟨'[', List.mem_cons_self, rfl⟩))
    split
    next hclose => exact .ok ((suffix_of_skipBlank hclose).trans (List.suffix_cons _ _))
    · exact ((hitems _ _ _).mono (skipBlank_suffix rest)).opened (.inl rfl)
  next rest =>
    split
    next hdepth =>
      exact .error (.deep (hdepth ▸ List.countP_pos_iff.mpr ⟨'{', List.mem_cons_self, rfl⟩))
    split
    next hclose => exact .ok ((suffix_of_skipBlank hclose).trans (List.suffix_cons _ _))
    · exact ((hfields _ _ _).mono (skipBlank_suffix rest)).opened (.inr rfl)
  · split
    next found hname => exact .ok (readName?_suffix hname)
    · exact reading_number depth _

include hvalue hitems in
theorem reading_items (depth : Nat) (acc : List Json) (cs : List Char) :
    Reading depth cs (readItems (fuel + 1) depth acc cs) := by
  rw [readItems]
  have hv := hvalue depth cs
  split
  next hread =>
    rw [hread] at hv
    exact hv
  next v rest hread =>
    rw [hread] at hv
    cases hv with
    | ok hrest =>
    split
    next hclose => exact .ok ((suffix_of_skipBlank hclose).trans hrest)
    next more hcomma =>
      exact (hitems _ _ _).mono
        ((skipBlank_suffix more).trans ((suffix_of_skipBlank hcomma).trans hrest))
    · exact .malformed

include hvalue hfields in
theorem reading_fields (depth : Nat) (acc : List (String × Json)) (cs : List Char) :
    Reading depth cs (readFields (fuel + 1) depth acc cs) := by
  rw [readFields.eq_def]
  dsimp only
  split
  next afterMark =>
    split
    · exact .malformed
    next key rest hkey =>
      have hkey := (readString?_suffix hkey).trans (List.suffix_cons '"' _)
      split
      next more hcolon =>
        have hmore := (skipBlank_suffix more).trans ((suffix_of_skipBlank hcolon).trans hkey)
        have hv := hvalue depth (skipBlank more)
        split
        next hread =>
          rw [hread] at hv
          exact hv.mono hmore
        next v rest' hread =>
          rw [hread] at hv
          cases hv with
          | ok hrest =>
          split
          next hclose => exact .ok ((suffix_of_skipBlank hclose).trans (hrest.trans hmore))
          next tail hcomma =>
            exact (hfields _ _ _).mono ((skipBlank_suffix tail).trans
              ((suffix_of_skipBlank hcomma).trans (hrest.trans hmore)))
          · exact .malformed
      · exact .malformed
  · exact .malformed

end

/-- Reading a value, the items of an array or the fields of an object. Each goes on with what is
left, which the levels of brackets follow. -/
theorem reading (fuel : Nat) : (∀ depth cs, Reading depth cs (readValue fuel depth cs)) ∧
    (∀ depth acc cs, Reading depth cs (readItems fuel depth acc cs)) ∧
    (∀ depth acc cs, Reading depth cs (readFields fuel depth acc cs)) := by
  -- The three readers call each other with the fuel that is left.
  induction fuel with
  | zero =>
    exact ⟨fun _ _ ↦ .malformed, fun _ _ _ ↦ .malformed, fun _ _ _ ↦ .malformed⟩
  | succ fuel ih =>
    obtain ⟨hvalue, hitems, hfields⟩ := ih
    exact ⟨reading_value hitems hfields, reading_items hvalue hitems,
      reading_fields hvalue hfields⟩

/-- A text that is not read as JSON is malformed, holds a number of more digits than there may be or
opens more brackets than there may be levels. -/
theorem exceeds_of_parse {s : String} (h : parse s = .error f) :
    Exceeds depthLimit s.toList f := by
  rw [parse] at h
  have hread := (reading (2 * (skipBlank s.toList).length + 2)).1 depthLimit (skipBlank s.toList)
  split at h
  next heq =>
    cases h
    rw [heq] at hread
    cases hread with
    | error hf => exact hf.mono (skipBlank_suffix _)
  · split at h
    · cases h
    · cases h
      exact .malformed

end VariableExplorer.Json
