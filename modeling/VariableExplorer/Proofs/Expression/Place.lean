import VariableExplorer.Expression.Evaluation
import VariableExplorer.Proofs.Expression.Scanning
import VariableExplorer.Proofs.Navigation.Extension

/-!
Places: a variable and the keys in brackets behind it. Each is read as a subscript of what the text
before the last key is read as.
-/

namespace VariableExplorer

namespace Parser

/-- An expression ends before these tokens. -/
inductive Stops : List Token → Prop
  | lineEnd (line level : Nat) (ts : List Token) : Stops (⟨.lineEnd, line, level⟩ :: ts)
  | closing (line level : Nat) (ts : List Token) : Stops (⟨.mark "]", line, level⟩ :: ts)

theorem arithmetic_of_factor {fuel : Nat} {ts rest : List Token} {x : Expr} (hrest : Stops rest)
    (h : factor fuel ts = .ok (x, rest)) : arithmetic (fuel + 7) 0 ts = .ok (x, rest) := by
  have hstep (level : Nat) (ops : List (String × BinaryOp)) (more : Nat)
      (hlevel : levels[level]? = some ops) (hops : ops.lookup "]" = none)
      (h : arithmetic (more + 1) (level + 1) ts = .ok (x, rest)) :
      arithmetic (more + 2) level ts = .ok (x, rest) := by
    have htail : leftTail (more + 1) level ops x rest = .ok (x, rest) := by
      cases hrest
      · rfl
      · simp only [leftTail, hops]
        rfl
    rw [arithmetic, hlevel]
    dsimp only
    rw [h]
    exact htail
  have hlast : arithmetic (fuel + 1) 6 ts = .ok (x, rest) := by simp only [arithmetic]; exact h
  exact hstep 0 _ _ rfl rfl (hstep 1 _ _ rfl rfl (hstep 2 _ _ rfl rfl (hstep 3 _ _ rfl rfl
    (hstep 4 _ _ rfl rfl (hstep 5 _ _ rfl rfl hlast)))))

theorem expression_of_factor {fuel : Nat} {ts rest : List Token} {x : Expr} (hrest : Stops rest)
    (hlambda : isWord "lambda" ts = false) (hnot : isWord "not" ts = false)
    (h : factor fuel ts = .ok (x, rest)) : expression (fuel + 11) ts = .ok (x, rest) := by
  have hword (w : String) : isWord w rest = false := by cases hrest <;> rfl
  have hcompare : comparisonTail (fuel + 7) rest = .ok (([], []), rest) := by
    cases hrest <;> rfl
  have hrepeated (more : Nat) (w : String) : repeated (more + 1) w rest = .ok ([], rest) := by
    rw [repeated, hword]
    rfl
  -- From the operand outwards, each level of operators finds none of its own.
  have hinversion : inversion (fuel + 8) ts = .ok (x, rest) := by
    rw [inversion, hnot, if_neg (by decide), arithmetic_of_factor hrest h]
    show (comparisonTail (fuel + 7) rest >>= _) = _
    rw [hcompare]
    rfl
  have hconjunction : conjunction (fuel + 9) ts = .ok (x, rest) := by
    rw [conjunction, hinversion]
    show (repeated (fuel + 8) "and" rest >>= _) = _
    rw [hrepeated]
    rfl
  have hdisjunction : disjunction (fuel + 10) ts = .ok (x, rest) := by
    rw [disjunction, hconjunction]
    show (repeated (fuel + 9) "or" rest >>= _) = _
    rw [hrepeated]
    rfl
  rw [expression, hlambda, if_neg (by decide), hdisjunction]
  show (if isWord "if" rest then _ else _) = _
  rw [hword, if_neg (by decide)]
  rfl

theorem trailers_of_stops {rest : List Token} (hrest : Stops rest) (fuel : Nat) (x : Expr) :
    trailers (fuel + 1) x rest = .ok (x, rest) := by
  cases hrest <;> rfl

theorem factor_of_atom {fuel : Nat} {ts more rest : List Token} {x y : Expr} (hrest : Stops rest)
    (hsign : ∀ m, isMark m ts = false) (hatom : atom fuel ts = .ok (x, more))
    (htrailers : trailers fuel x more = .ok (y, rest)) : factor (fuel + 1) ts = .ok (y, rest) := by
  have hmark : isMark "**" rest = false := by cases hrest <;> rfl
  rw [factor, hsign, hsign, hsign, if_neg (by decide), if_neg (by decide), if_neg (by decide), hatom]
  show (trailers fuel x more >>= _) = _
  rw [htrailers]
  show (if isMark "**" rest then _ else _) = _
  rw [hmark, if_neg (by decide)]
  rfl

/-- Tokens that are one operand wherever an expression ends behind them. -/
structure Reads (kinds : List TokenKind) (x : Expr) : Prop where
  lead : ∃ kind more, kinds = kind :: more ∧
    kind ≠ .name "lambda" ∧ kind ≠ .name "not" ∧ kind ≠ .mark ":"
  factor : ∀ fuel ts rest, ts.map (·.kind) = kinds → Stops rest →
    factor (fuel + 4) (ts ++ rest) = .ok (x, rest)

theorem reads_number (v : Value) : Reads [.number v] (.constant v) := by
  refine ⟨⟨_, _, rfl, by simp⟩, fun fuel ts rest hts hrest ↦ ?_⟩
  obtain ⟨⟨kind, line, level⟩, rfl, rfl⟩ := List.map_eq_singleton_iff.mp hts
  exact factor_of_atom hrest (fun _ ↦ rfl) rfl (trailers_of_stops hrest _ _)

theorem reads_minus (v : Value) : Reads [.mark "-", .number v] (.unary .negate (.constant v)) := by
  refine ⟨⟨_, _, rfl, by simp⟩, fun fuel ts rest hts hrest ↦ ?_⟩
  obtain ⟨⟨kind, line, level⟩, ts, rfl, rfl, hnumber⟩ := List.map_eq_cons_iff.mp hts
  obtain ⟨⟨kind, line', level'⟩, rfl, rfl⟩ := List.map_eq_singleton_iff.mp hnumber
  have hnumber : Parser.factor (fuel + 3) (⟨.number v, line', level'⟩ :: rest) =
      .ok (.constant v, rest) :=
    factor_of_atom hrest (fun _ ↦ rfl) rfl (trailers_of_stops hrest _ _)
  rw [Parser.factor, List.cons_append, if_pos (by rfl)]
  show (Parser.factor (fuel + 3) (⟨.number v, line', level'⟩ :: rest) >>= _) = _
  rw [hnumber]
  rfl

theorem reads_name {n : String} {x : Expr} (hlambda : n ≠ "lambda") (hnot : n ≠ "not")
    (hatom : ∀ fuel line level rest,
      atom (fuel + 1) (⟨.name n, line, level⟩ :: rest) = .ok (x, rest)) : Reads [.name n] x := by
  refine ⟨⟨_, _, rfl, by simp [hlambda, hnot]⟩, fun fuel ts rest hts hrest ↦ ?_⟩
  obtain ⟨⟨kind, line, level⟩, rfl, rfl⟩ := List.map_eq_singleton_iff.mp hts
  exact factor_of_atom hrest (fun _ ↦ rfl) (hatom (fuel + 2) line level rest)
    (trailers_of_stops hrest _ _)

section

variable {kind : TokenKind} {kinds : List TokenKind} {ts : List Token}
  (hts : ts.map (·.kind) = kind :: kinds)

include hts

theorem isWord_of_lead {w : String} (h : kind ≠ .name w) (rest : List Token) :
    isWord w (ts ++ rest) = false := by
  obtain ⟨⟨kind, line, level⟩, ts, rfl, rfl, -⟩ := List.map_eq_cons_iff.mp hts
  cases kind <;> simp_all [isWord]

theorem isMark_of_lead {m : String} (h : kind ≠ .mark m) (rest : List Token) :
    isMark m (ts ++ rest) = false := by
  obtain ⟨⟨kind, line, level⟩, ts, rfl, rfl, -⟩ := List.map_eq_cons_iff.mp hts
  cases kind <;> simp_all [isMark]

end

theorem atom_name {n : String} (h : n ∉ keywords) (fuel line level : Nat) (rest : List Token) :
    atom (fuel + 1) (⟨.name n, line, level⟩ :: rest) = .ok (.name n, rest) := by
  have hne (w : String) (hw : w ∈ keywords) : (n == w) = false :=
    beq_eq_false_iff_ne.mpr fun heq ↦ h (heq ▸ hw)
  have hkeyword : keywords.contains n = false := by simpa using h
  rw [atom, hne "None" (by decide), hne "True" (by decide), hne "False" (by decide), hkeyword]
  rfl

/-- Tokens that are an operand with subscripts behind it, whatever follows them. -/
structure Subscripted (kinds : List TokenKind) (x : Expr) : Prop where
  lead : ∃ n more, kinds = .name n :: more ∧ n ∉ keywords
  trailers : ∃ g ≤ kinds.length, ∀ fuel ts rest, ts.map (·.kind) = kinds → ∃ y more,
    atom (fuel + g + 30) (ts ++ rest) = .ok (y, more) ∧
    trailers (fuel + g + 30) y more = trailers (fuel + 30) x rest

theorem Subscripted.name {n : String} (h : n ∉ keywords) : Subscripted [.name n] (.name n) := by
  refine ⟨⟨n, [], rfl, h⟩, 0, by simp, fun fuel ts rest hts ↦ ?_⟩
  obtain ⟨⟨kind, line, level⟩, rfl, rfl⟩ := List.map_eq_singleton_iff.mp hts
  exact ⟨.name n, rest, atom_name h _ _ _ _, rfl⟩

theorem Reads.trailers {kinds : List TokenKind} {i : Expr} (hi : Reads kinds i) (x : Expr)
    {ts : List Token} (hts : ts.map (·.kind) = .mark "[" :: kinds ++ [.mark "]"])
    (fuel : Nat) (rest : List Token) :
    Parser.trailers (fuel + 31) x (ts ++ rest) =
      Parser.trailers (fuel + 30) (.subscript x i) rest := by
  obtain ⟨⟨kind, line, level⟩, ts, rfl, rfl, hinner⟩ := List.map_eq_cons_iff.mp hts
  obtain ⟨key, last, rfl, hkey, hlast⟩ := List.map_eq_append_iff.mp hinner
  obtain ⟨⟨kind, line', level'⟩, rfl, rfl⟩ := List.map_eq_singleton_iff.mp hlast
  let closing : Token := ⟨.mark "]", line', level'⟩
  have hclosing : Stops (closing :: rest) := .closing line' level' rest
  obtain ⟨⟨kind, more, rfl, hlambda, hnot, hcolon⟩, hfactor⟩ := hi
  have hexpression := expression_of_factor hclosing (isWord_of_lead hkey hlambda _)
    (isWord_of_lead hkey hnot _) (hfactor (fuel + 12) key _ hkey hclosing)
  have helement : element (fuel + 28) (key ++ closing :: rest) = .ok (i, closing :: rest) := by
    rw [element, hexpression]
    rfl
  have hone : oneSubscript (fuel + 29) (key ++ closing :: rest) = .ok (i, closing :: rest) := by
    rw [oneSubscript, isMark_of_lead hkey hcolon, if_neg (by decide), helement]
    rfl
  have hsubscripts : subscripts (fuel + 30) (key ++ closing :: rest) = .ok (i, closing :: rest) := by
    rw [subscripts, hone]
    rfl
  rw [Parser.trailers, List.cons_append, List.append_assoc, if_neg (by simp [isMark]),
    if_pos (by rfl)]
  show (subscripts (fuel + 30) (key ++ closing :: rest) >>= _) = _
  rw [hsubscripts]
  rfl

theorem Subscripted.subscript {kinds more : List TokenKind} {x i : Expr}
    (h : Subscripted kinds x) (hi : Reads more i) :
    Subscripted (kinds ++ (.mark "[" :: more ++ [.mark "]"])) (.subscript x i) := by
  obtain ⟨⟨n, tail, rfl, hn⟩, g, hg, h⟩ := h
  refine ⟨⟨n, tail ++ (.mark "[" :: more ++ [.mark "]"]), rfl, hn⟩, g + 1, ?_, fun fuel ts rest hts ↦ ?_⟩
  · simp only [List.length_append, List.length_cons] at hg ⊢
    omega
  obtain ⟨front, group, rfl, hfront, hgroup⟩ := List.map_eq_append_iff.mp hts
  obtain ⟨y, rest', hatom, htrailers⟩ := h (fuel + 1) front (group ++ rest) hfront
  have hfuel : fuel + (g + 1) + 30 = fuel + 1 + g + 30 := by omega
  refine ⟨y, rest', ?_, ?_⟩
  · rw [hfuel, List.append_assoc, hatom]
  · rw [hfuel, htrailers, hi.trailers x hgroup fuel rest]

theorem Subscripted.factor {kinds : List TokenKind} {x : Expr} (h : Subscripted kinds x)
    {fuel : Nat} {ts rest : List Token} (hts : ts.map (·.kind) = kinds) (hrest : Stops rest)
    (hfuel : kinds.length + 31 ≤ fuel) : Parser.factor fuel (ts ++ rest) = .ok (x, rest) := by
  obtain ⟨⟨n, tail, rfl, hn⟩, g, hg, h⟩ := h
  obtain ⟨more, rfl⟩ := Nat.exists_eq_add_of_le' (Nat.le_trans (Nat.add_le_add_right hg 31) hfuel)
  obtain ⟨y, rest', hatom, htrailers⟩ := h more ts rest hts
  obtain ⟨⟨kind, line, level⟩, ts, rfl, rfl, -⟩ := List.map_eq_cons_iff.mp hts
  have hread := htrailers.trans (trailers_of_stops hrest _ x)
  rw [← Nat.add_assoc]
  exact factor_of_atom hrest (fun _ ↦ rfl) hatom hread

end Parser

namespace Expr

/-- A text that starts with a character of an operand, and in which no null character occurs. -/
structure Legible (text : String) : Prop where
  start : ∃ c cs, text.toList = c :: cs ∧ c ≠ ' ' ∧ c ≠ '\t'
  clean : Char.ofNat 0 ∉ text.toList

theorem Legible.withoutIndent {text : String} (h : Legible text) : withoutIndent text = text := by
  obtain ⟨c, cs, hcs, hspace, htab⟩ := h.start
  rw [VariableExplorer.withoutIndent, hcs, List.dropWhile_cons_of_neg (by simp [hspace, htab]),
    ← hcs, String.ofList_toList]

theorem parse_of_factor {text : String} {kinds : List TokenKind} {x : Expr}
    (htext : Legible text) (hscan : Token.Scans 1 text.toList kinds)
    (hlead : ∃ kind more, kinds = kind :: more ∧ kind ≠ .name "lambda" ∧ kind ≠ .name "not")
    (hread : ∀ fuel ts rest, ts.map (·.kind) = kinds → Parser.Stops rest →
      kinds.length + 31 ≤ fuel → Parser.factor fuel (ts ++ rest) = .ok (x, rest))
    (source : String) : parse source text = .ok x := by
  obtain ⟨ts, line, line', hts, htokens⟩ := Token.ofText_of_scans hscan
  let rest : List Token := [⟨.lineEnd, line, 0⟩, ⟨.finish, line', 0⟩]
  have hrest : Parser.Stops rest := .lineEnd line 0 _
  have hlength : ts.length = kinds.length := by rw [← hts, List.length_map]
  have hfuel : Parser.fuelFor (ts ++ rest) = 24 * kinds.length + 61 + 11 := by
    simp only [Parser.fuelFor, List.length_append, hlength, rest, List.length_cons, List.length_nil]
    omega
  have hfactor := hread (24 * kinds.length + 61) ts rest hts hrest (by omega)
  have hexpressions : Parser.expressions (Parser.fuelFor (ts ++ rest)) (ts ++ rest) =
      .ok (x, rest) := by
    obtain ⟨kind, more, rfl, hlambda, hnot⟩ := hlead
    rw [hfuel, Parser.expressions, Parser.expression_of_factor hrest
      (Parser.isWord_of_lead hts hlambda _) (Parser.isWord_of_lead hts hnot _) hfactor]
    rfl
  have hclean : text.contains (Char.ofNat 0) = false := by
    rw [String.contains_char_eq]
    simpa using htext.clean
  obtain ⟨c, cs, hcs, -⟩ := htext.start
  have hne : text ≠ "" := by
    rintro rfl
    simp at hcs
  rw [parse, hclean, if_neg (by decide), htokens]
  simp only
  rw [if_neg hne, hexpressions]
  rfl

/-- A key as it is written: an operand that can stand in brackets, in a chain as well. -/
structure Written (t : String) (i : Expr) : Prop extends Legible t where
  free : Navigation.Free t.toList
  inside : ']' ∉ t.toList
  reads : ∃ kinds, Token.Scans 0 t.toList kinds ∧ Parser.Reads kinds i

namespace Written

theorem parse {t : String} {i : Expr} (h : Written t i) (source : String) :
    parse source t = .ok i := by
  obtain ⟨kinds, hscan, ⟨kind, more, hkinds, hlambda, hnot, -⟩, hfactor⟩ := h.reads
  refine parse_of_factor h.toLegible (hscan.mono (by decide)) ⟨kind, more, hkinds, hlambda, hnot⟩
    (fun fuel ts rest hts hrest hfuel ↦ ?_) source
  obtain ⟨fuel, rfl⟩ := Nat.exists_eq_add_of_le' (Nat.le_trans (Nat.le_add_left 31 _) hfuel)
  exact hfactor (fuel + 27) ts rest hts hrest

/-- The characters that a key as it is written cannot have. -/
def reserved : List Char := [' ', '\t', ']', '$', '@', Char.ofNat 0]

theorem of_chars {t : String} {i : Expr} {kinds : List TokenKind} {p : Char → Bool}
    (hp : reserved.all (fun c ↦ !p c) = true) (hne : t.toList ≠ []) (ht : ∀ c ∈ t.toList, p c = true)
    (hscan : Token.Scans 0 t.toList kinds) (hreads : Parser.Reads kinds i) : Written t i := by
  have hnot (c : Char) (hc : c ∈ reserved) : c ∉ t.toList := fun hmem ↦ by
    have hfalse := List.all_eq_true.mp hp c hc
    rw [ht c hmem] at hfalse
    cases hfalse
  obtain ⟨c, cs, hcs⟩ := List.exists_cons_of_ne_nil hne
  have hfirst (d : Char) (hd : d ∈ reserved) : c ≠ d := by
    rintro rfl
    exact hnot c hd (by simp [hcs])
  refine ⟨⟨⟨c, cs, hcs, hfirst _ (by decide), hfirst _ (by decide)⟩, hnot _ (by decide)⟩,
    fun d hd ↦ ?_, hnot _ (by decide), kinds, hscan, hreads⟩
  have hname : d ≠ '$' := fun h ↦ hnot '$' (by decide) (h ▸ hd)
  have hattribute : d ≠ '@' := fun h ↦ hnot '@' (by decide) (h ▸ hd)
  simp [Selector.isSelector, Selector.ofChar?, hname, hattribute]

theorem toList_natural (n : Nat) : (toString n).toList = Nat.toDigits 10 n := by
  rw [Nat.toString_eq_repr, Nat.toList_repr]

theorem isDigit_toString {n : Nat} {c : Char} (hc : c ∈ (toString n).toList) :
    c.isDigit = true := by
  rw [toList_natural] at hc
  exact Nat.isDigit_of_mem_toDigits (by decide) (by decide) hc

theorem natural (n : Nat) : Written (toString n) (.constant (.int n)) := by
  refine .of_chars (p := Char.isDigit) (by decide) ?_ (fun c hc ↦ isDigit_toString hc) ?_
    (Parser.reads_number _)
  · rw [toList_natural]
    exact Nat.toDigits_ne_nil
  · rw [toList_natural]
    exact Token.scans_natural 0 n

theorem negative (n : Nat) :
    Written ("-" ++ toString n) (.unary .negate (.constant (.int n))) := by
  obtain ⟨c, cs, hcons⟩ := List.exists_cons_of_ne_nil (Nat.toDigits_ne_nil (n := n) (b := 10))
  have htext : ("-" ++ toString n).toList = '-' :: c :: cs := by simp [hcons]
  have hdigit (d : Char) (hd : d ∈ c :: cs) : d.isDigit = true :=
    isDigit_toString (n := n) (by rwa [toList_natural, hcons])
  refine .of_chars (p := fun c ↦ c = '-' || c.isDigit) (by decide) ?_ ?_ ?_ (Parser.reads_minus _)
  · simp
  · rw [htext]
    refine List.forall_mem_cons.mpr ⟨rfl, fun d hd ↦ ?_⟩
    rw [hdigit d hd, Bool.or_true]
  · rw [htext]
    exact (hcons ▸ Token.scans_natural 0 n).minus (hdigit c (by simp))

theorem word {t : String} {x : Expr} (h : Token.IsWord t.toList)
    (hreads : Parser.Reads [.name t] x) : Written t x := by
  obtain ⟨c, cs, hcs, -⟩ := h.start
  refine .of_chars (p := Token.isNameChar) (by decide) (by simp [hcs]) h.chars ?_ hreads
  have hscan := h.scans 0
  rwa [String.ofList_toList] at hscan

theorem none : Written "None" (.constant .none) :=
  word ⟨List.all_eq_true.mp (by decide), ⟨'N', _, rfl, rfl⟩, by decide⟩
    (Parser.reads_name (by decide) (by decide) fun _ _ _ _ ↦ rfl)

theorem bool (b : Bool) : Written (if b then "True" else "False") (.constant (.bool b)) := by
  cases b
  · exact word ⟨List.all_eq_true.mp (by decide), ⟨'F', _, rfl, rfl⟩, by decide⟩
      (Parser.reads_name (by decide) (by decide) fun _ _ _ _ ↦ rfl)
  · exact word ⟨List.all_eq_true.mp (by decide), ⟨'T', _, rfl, rfl⟩, by decide⟩
      (Parser.reads_name (by decide) (by decide) fun _ _ _ _ ↦ rfl)

end Written

/-- A variable with keys in brackets behind it. -/
inductive Place : String → Expr → Prop
  | name {n : String} : Token.IsWord n.toList → n ∉ Parser.keywords → Place n (.name n)
  | key {e t : String} {x i : Expr} : Place e x → Written t i →
      Place (e ++ "[" ++ t ++ "]") (.subscript x i)

namespace Place

variable {e : String} {x : Expr}

theorem legible (h : Place e x) : Legible e := by
  induction h with
  | name hword _ =>
    obtain ⟨c, cs, hcs, -⟩ := hword.start
    have hne (d : Char) (hd : Token.isNameChar d = false) : c ≠ d := by
      rintro rfl
      exact hword.not_mem hd (by simp [hcs])
    exact ⟨⟨c, cs, hcs, hne _ (by decide), hne _ (by decide)⟩, hword.not_mem (by decide)⟩
  | @key e t _ _ _ ht ih =>
    obtain ⟨⟨c, cs, hcs, hc⟩, hclean⟩ := ih
    refine ⟨⟨c, cs ++ '[' :: (t.toList ++ [']']), by simp [hcs], hc⟩, ?_⟩
    simp [hclean, ht.clean]

theorem free (h : Place e x) : Navigation.Free e.toList := by
  induction h with
  | name hword _ =>
    intro c hc
    have hne (d : Char) (hd : Token.isNameChar d = false) : c ≠ d := by
      rintro rfl
      exact hword.not_mem hd hc
    simp [Selector.isSelector, Selector.ofChar?, hne '$' (by decide), hne '@' (by decide)]
  | key _ ht ih => exact ih.brackets ht.free

theorem reads (h : Place e x) : ∃ kinds, Token.Scans 1 e.toList kinds ∧
    Parser.Subscripted kinds x := by
  induction h with
  | name hword hn =>
    have hscan := hword.scans 1
    rw [String.ofList_toList] at hscan
    exact ⟨_, hscan, .name hn⟩
  | key _ ht ih =>
    obtain ⟨kinds, hscan, hreads⟩ := ih
    obtain ⟨more, hscan', hreads'⟩ := ht.reads
    refine ⟨_, ?_, hreads.subscript hreads'⟩
    have hall := hscan.append hscan'.brackets (.opening _)
    simpa using hall

theorem parse (h : Place e x) (source : String) : Expr.parse source e = .ok x := by
  obtain ⟨kinds, hscan, hreads⟩ := h.reads
  obtain ⟨n, more, hkinds, hn⟩ := hreads.lead
  have hne (w : String) (hw : w ∈ Parser.keywords) : TokenKind.name n ≠ .name w := by
    rintro ⟨⟩
    exact hn hw
  exact parse_of_factor h.legible hscan ⟨_, more, hkinds, hne _ (by decide), hne _ (by decide)⟩
    (fun fuel ts rest hts hrest hfuel ↦ hreads.factor hts hrest hfuel) source

end Place

end Expr

end VariableExplorer
