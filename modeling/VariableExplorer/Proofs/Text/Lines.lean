import Mathlib.Data.List.Infix
import VariableExplorer.Proofs.Json.Numbers
import VariableExplorer.Text.Quoted

/-!
Texts of one line, and texts that are put together of pieces of which some may have more lines. The
program's own words, numbers and quoted literals have none of the characters that end a line.
-/

namespace VariableExplorer

namespace Text

def lineBreaks : List Char :=
  ['\n', '\r', '\x0b', '\x0c', '\x1c', '\x1d', '\x1e', '\u0085', '\u2028', '\u2029']

def OneLine (cs : List Char) : Prop := ∀ c ∈ cs, c ∉ lineBreaks

instance : DecidablePred OneLine := fun cs ↦ List.decidableBAll (· ∉ lineBreaks) cs

namespace OneLine

variable {cs ds : List Char}

theorem append (h : OneLine cs) (h' : OneLine ds) : OneLine (cs ++ ds) :=
  List.forall_mem_append.mpr ⟨h, h'⟩

theorem cons {c : Char} (hc : c ∉ lineBreaks) (h : OneLine cs) : OneLine (c :: cs) :=
  List.forall_mem_cons.mpr ⟨hc, h⟩

theorem of_subset (h : OneLine ds) (hcs : cs ⊆ ds) : OneLine cs := fun c hc ↦ h c (hcs hc)

theorem flatMap {α : Type} {f : α → List Char} {as : List α} (h : ∀ a, OneLine (f a)) :
    OneLine (as.flatMap f) := by
  intro c hc
  obtain ⟨a, -, ha⟩ := List.mem_flatMap.mp hc
  exact h a c ha

end OneLine

theorem oneLine_append_iff {cs ds : List Char} : OneLine (cs ++ ds) ↔ OneLine cs ∧ OneLine ds :=
  List.forall_mem_append

/-! ### Quoted literals -/

theorem isPrintable_of_mem_lineBreaks {c : Char} (h : c ∈ lineBreaks) : isPrintable c = false := by
  have hall : lineBreaks.all (!isPrintable ·) = true := by decide +kernel
  simpa using List.all_eq_true.mp hall c h

namespace Quoted

theorem hexDigit_notMem {n : Nat} (h : n < 16) : hexDigit n ∉ lineBreaks := by
  have hall : (List.range 16).all (hexDigit · ∉ lineBreaks) = true := by decide
  simpa using List.all_eq_true.mp hall n (List.mem_range.mpr h)

theorem hex_oneLine (width n : Nat) : OneLine (hex width n) := by
  induction width generalizing n with
  | zero => exact List.forall_mem_nil _
  | succ width ih =>
    exact (ih _).append (.cons (hexDigit_notMem (Nat.mod_lt n (by decide))) (List.forall_mem_nil _))

theorem escapeByNumber_oneLine (n : Nat) : OneLine (escapeByNumber n) := by
  have hmark {c : Char} (hc : c ∉ lineBreaks) (width : Nat) :
      OneLine ('\\' :: c :: hex width n) := .cons (by decide) (.cons hc (hex_oneLine width n))
  unfold escapeByNumber
  split
  · exact hmark (by decide) 2
  split
  · exact hmark (by decide) 4
  · exact hmark (by decide) 8

theorem encodeChar_oneLine {mark : Char} (hmark : mark ∉ lineBreaks) (c : Char) :
    OneLine (encodeChar mark c) := by
  unfold encodeChar
  split
  next h =>
    have hc : c ∉ lineBreaks := by
      simp only [Bool.or_eq_true, decide_eq_true_eq] at h
      obtain rfl | rfl := h
      · exact hmark
      · decide
    exact .cons (by decide) (.cons hc (List.forall_mem_nil _))
  split
  · decide
  split
  · decide
  split
  · decide
  split
  next h =>
    have hc : c ∉ lineBreaks := fun hc ↦ by simp [isPrintable_of_mem_lineBreaks hc] at h
    exact .cons hc (List.forall_mem_nil _)
  · exact escapeByNumber_oneLine _

theorem markFor_notMem (hasApostrophe hasQuotation : Bool) :
    markFor hasApostrophe hasQuotation ∉ lineBreaks := by
  cases hasApostrophe <;> cases hasQuotation <;> decide

theorem quote_oneLine (s : String) : OneLine (quote s).toList := by
  have hmark := markFor_notMem (s.toList.contains '\'') (s.toList.contains '"')
  rw [quote, String.toList_ofList]
  exact .append (.cons hmark (.flatMap (encodeChar_oneLine hmark)))
    (.cons hmark (List.forall_mem_nil _))

theorem quoteBytes_oneLine (bytes : List UInt8) : OneLine (quoteBytes bytes).toList := by
  have hmark := markFor_notMem (bytes.contains 0x27) (bytes.contains 0x22)
  have hbyte (b : UInt8) : OneLine (encodeByte (markFor (bytes.contains 0x27)
      (bytes.contains 0x22)) b) := by
    unfold encodeByte
    split
    · exact encodeChar_oneLine hmark _
    · exact escapeByNumber_oneLine _
  rw [quoteBytes, String.toList_ofList]
  exact .append (.cons (by decide) (.cons hmark (.flatMap hbyte)))
    (.cons hmark (List.forall_mem_nil _))

end Quoted

/-! ### Numbers -/

theorem notMem_of_isDigit {c : Char} (h : c.isDigit = true) : c ∉ lineBreaks := by
  have hall : lineBreaks.all (!·.isDigit) = true := by decide
  intro hc
  simpa [h] using List.all_eq_true.mp hall c hc

theorem oneLine_of_digits {cs : List Char} (h : ∀ c ∈ cs, c.isDigit = true) : OneLine cs :=
  fun c hc ↦ notMem_of_isDigit (h c hc)

theorem toString_nat_oneLine (n : Nat) : OneLine (toString n).toList := by
  rw [show (toString n).toList = Nat.toDigits 10 n from String.toList_ofList]
  exact oneLine_of_digits (Decimal.whole_toDigits n).digits

theorem toString_int_oneLine (i : Int) : OneLine (toString i).toList := by
  have hdigits := oneLine_of_digits (Decimal.whole_toDigits i.natAbs).digits
  rw [Json.toString_signed, Decimal.signed]
  split
  · exact .cons (by decide) hdigits
  · exact hdigits

end Text

open Text

namespace Decimal

theorem render_oneLine (l : Layout) (d : Digits) : OneLine (l.render d) := by
  have hzeros (n : Nat) : OneLine (zeros n) :=
    oneLine_of_digits fun _ hc ↦ isDigit_of_mem_zeros hc
  have hdigits (n : Nat) : OneLine (Nat.toDigits 10 n) :=
    oneLine_of_digits (whole_toDigits n).digits
  have hpart {ds : List Char} (h : ds ⊆ Nat.toDigits 10 d.digits) : OneLine ds :=
    (hdigits d.digits).of_subset h
  unfold Layout.render
  dsimp only
  split
  · split
    · exact .cons (by decide) (.cons (by decide) ((hzeros _).append (hdigits _)))
    · have hwhole (n k : Nat) : OneLine ((Nat.toDigits 10 d.digits).take n ++ zeros k) :=
        (hpart (List.take_subset _ _)).append (hzeros k)
      split
      · split
        · exact (hwhole _ _).append (by decide)
        · exact hwhole _ _
      · exact (hwhole _ _).append (.cons (by decide) (hpart (List.drop_subset _ _)))
  · refine .append (.append ?_ (.cons (by decide) (.cons ?_ (hzeros _)))) (hdigits _)
    · split
      · exact List.forall_mem_nil _
      next hds => exact hds ▸ hdigits _
      next hds =>
        have hcons := List.forall_mem_cons.mp (hds ▸ hdigits d.digits)
        exact .cons hcons.1 (.cons (by decide) hcons.2)
    · split <;> decide

theorem layout_text_oneLine (l : Layout) (x : Float) : OneLine (l.text x).toList := by
  rw [Layout.text, String.toList_ofList]
  have hsign {cs : List Char} (negative : Bool) (h : OneLine cs) :
      OneLine (if negative then '-' :: cs else cs) := by
    split
    · exact .cons (by decide) h
    · exact h
  dsimp only
  split
  · decide
  · exact hsign _ (by decide)
  · refine hsign _ ?_
    split <;> decide
  · exact hsign _ (render_oneLine l _)

end Decimal

/-! ### Pieces -/

/-- Each line break of a text is one of a piece: up to there the piece stands before it. -/
def Traced (F : String → Prop) (text : String) : Prop :=
  ∀ before c, before ++ [c] <+: text.toList → c ∈ lineBreaks →
    ∃ piece front, F piece ∧ front ++ [c] <+: piece.toList ∧ front <:+ before

namespace Traced

variable {F G : String → Prop} {text other : String}

theorem ofOneLine (h : OneLine text.toList) : Traced F text := by
  intro before c hbefore hc
  exact absurd hc (h c (hbefore.subset (by simp)))

theorem own {cs : List Char} (h : OneLine cs) : Traced F (String.ofList cs) :=
  ofOneLine (String.toList_ofList.symm ▸ h)

theorem piece (h : F text) : Traced F text :=
  fun before _ hbefore _ ↦ ⟨text, before, h, hbefore, List.suffix_rfl⟩

theorem mono (h : Traced F text) (hFG : ∀ piece, F piece → G piece) : Traced G text := by
  intro before c hbefore hc
  obtain ⟨piece, front, hpiece, hfront⟩ := h before c hbefore hc
  exact ⟨piece, front, hFG piece hpiece, hfront⟩

theorem of_prefix (h : Traced F other) (hstart : text.toList <+: other.toList) : Traced F text :=
  fun before c hbefore hc ↦ h before c (hbefore.trans hstart) hc

theorem append (h : Traced F text) (h' : Traced F other) : Traced F (text ++ other) := by
  intro before c hbefore hc
  rw [String.toList_append] at hbefore
  -- The break is in the first text, or after all of it.
  obtain hleft | ⟨rest, hrest⟩ :=
    List.prefix_or_prefix_of_prefix hbefore (List.prefix_append text.toList other.toList)
  · exact h before c hleft hc
  rcases List.eq_nil_or_concat rest with rfl | ⟨rest, d, rfl⟩
  · rw [List.append_nil] at hrest
    exact h before c (hrest ▸ List.prefix_rfl) hc
  · rw [List.concat_eq_append, ← List.append_assoc] at hrest
    obtain ⟨rfl, hd⟩ := List.append_inj' hrest rfl
    cases hd
    rw [List.append_assoc, List.prefix_append_right_inj] at hbefore
    obtain ⟨piece, front, hpiece, hfront, hrest⟩ := h' rest c hbefore hc
    exact ⟨piece, front, hpiece, hfront, hrest.trans (List.suffix_append _ _)⟩

theorem between {opening closing : List Char} (h : Traced F text)
    (hopening : OneLine opening) (hclosing : OneLine closing) :
    Traced F (String.ofList opening ++ text ++ String.ofList closing) :=
  ((own hopening).append h).append (own hclosing)

theorem oneLine_iff (h : Traced F text) : OneLine text.toList ↔
    ∀ piece, F piece → ∀ front, front <+: piece.toList → front <:+: text.toList →
      OneLine front := by
  refine ⟨fun hline piece _ front _ hinfix ↦ hline.of_subset hinfix.subset, ?_⟩
  intro hpieces c hc hbreak
  obtain ⟨before, after, htext⟩ := List.append_of_mem hc
  rw [← List.singleton_append, ← List.append_assoc] at htext
  have hbefore : before ++ [c] <+: text.toList := ⟨after, htext.symm⟩
  obtain ⟨piece, front, hpiece, hfront, ⟨start, rfl⟩⟩ := h before c hbefore hbreak
  have hinfix : front ++ [c] <:+: text.toList :=
    ⟨start, after, by rw [htext]; simp⟩
  exact hpieces piece hpiece _ hfront hinfix c (by simp) hbreak

theorem oneLine (h : Traced F text) (hF : ∀ piece, F piece → OneLine piece.toList) :
    OneLine text.toList :=
  h.oneLine_iff.mpr fun piece hpiece _ hfront _ ↦ (hF piece hpiece).of_subset hfront.subset

end Traced

end VariableExplorer
