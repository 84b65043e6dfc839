import VariableExplorer.Proofs.Navigation.Extension

/-!
Reading a path loses nothing. Its pieces and its selectors in turn are the text that was read, and
what the path is taken for leaves the text to be put together again.
-/

namespace VariableExplorer.Navigation

open Selector

/-- Pieces with a selector between any two of them. -/
def woven : List String → List Selector → String
  | [], _ => ""
  | piece :: _, [] => piece
  | piece :: pieces, selector :: selectors =>
    piece ++ selector.char.toString ++ woven pieces selectors

def Leading (cs : List Char) : Prop := ∃ selector rest, cs = Selector.char selector :: rest

theorem leading_cons {c : Char} {cs : List Char} : Leading (c :: cs) ↔ isSelector c = true := by
  constructor
  · rintro ⟨selector, rest, h⟩
    rw [(List.cons.inj h).1]
    exact isSelector_char selector
  · intro h
    obtain ⟨selector, hselector⟩ := Option.isSome_iff_exists.mp h
    exact ⟨selector, cs, by rw [ofChar?_eq_some.mp hselector]⟩

theorem not_free_of_selector (base : List Char) (selector : Selector) (rest : List Char) :
    ¬ Free (base ++ selector.char :: rest) := by
  intro hfree
  have hchar := hfree selector.char (by simp)
  rw [isSelector_char] at hchar
  cases hchar

theorem Leading.not_free {cs : List Char} (h : Leading cs) : ¬ Free cs := by
  obtain ⟨selector, rest, rfl⟩ := h
  exact not_free_of_selector [] selector rest

/-! ### The pieces of a text -/

theorem free_of_mem_pieces {cs : List Char} : ∀ piece ∈ pieces cs, Free piece := by
  induction cs with
  | nil => simp [pieces, Free]
  | cons c cs ih =>
    obtain ⟨p, ps, hp⟩ := List.exists_cons_of_ne_nil (pieces_ne_nil cs)
    rw [hp] at ih
    obtain ⟨hfree, hrest⟩ := List.forall_mem_cons.mp ih
    rw [pieces, hp]
    cases hc : isSelector c with
    | true => exact List.forall_mem_cons.mpr ⟨List.forall_mem_nil _, ih⟩
    | false => exact List.forall_mem_cons.mpr ⟨List.forall_mem_cons.mpr ⟨hc, hfree⟩, hrest⟩

theorem woven_cons (c : Char) (piece : List Char) (pieces : List String)
    (selectors : List Selector) : woven (String.ofList (c :: piece) :: pieces) selectors =
      c.toString ++ woven (String.ofList piece :: pieces) selectors := by
  cases selectors <;> simp [woven, ← String.toList_inj]

theorem woven_pieces (cs : List Char) :
    woven ((pieces cs).map String.ofList) (selectors cs) = String.ofList cs := by
  induction cs with
  | nil => rfl
  | cons c cs ih =>
    obtain ⟨p, ps, hp⟩ := List.exists_cons_of_ne_nil (pieces_ne_nil cs)
    rw [hp] at ih
    cases hc : ofChar? c with
    | none =>
      have hselectors : selectors (c :: cs) = selectors cs := List.filterMap_cons_none hc
      rw [pieces, isSelector_eq_false.mpr hc, hp, hselectors]
      simp only [Bool.false_eq_true, if_false, List.map_cons] at ih ⊢
      rw [woven_cons, ih]
      simp
    | some selector =>
      have hselectors : selectors (c :: cs) = selector :: selectors cs :=
        List.filterMap_cons_some hc
      rw [pieces, isSelector, hc, hp, hselectors]
      simp only [Option.isSome_some, if_true, List.map_cons] at ih ⊢
      rw [woven, ih, ofChar?_eq_some.mp hc]
      simp

theorem split_append (base : List Char) (selector : Selector) {typed : List Char}
    (h : Free typed) :
    split (String.ofList (base ++ selector.char :: typed)) =
      split (String.ofList base) ++ [String.ofList typed] := by
  simp only [split, String.toList_ofList, pieces_append, h.pieces, List.map_append, List.map_cons,
    List.map_nil]

/-! ### What a text asks for as a path -/

namespace Reads

variable {cs : List Char} {scope : Scope} {base typed : String} {selector : Selector}

theorem global_iff (h : Reads cs scope) : (∃ typed, scope = .global typed) ↔ Free cs := by
  cases h with
  | global hfree => simp [hfree]
  | degenerate hc => simp [(leading_cons.mpr hc).not_free]
  | nested selector => simp only [not_free_of_selector, reduceCtorEq, exists_false]

theorem degenerate_iff (h : Reads cs scope) : scope = .degenerate ↔ Leading cs := by
  cases h with
  | global hfree => simpa using fun h : Leading cs ↦ h.not_free hfree
  | degenerate hc => simpa using leading_cons.mpr hc
  | nested selector hc => simp [leading_cons, hc]

theorem nested_iff (h : Reads cs scope) :
    (∃ base selector typed, scope = .nested base selector typed) ↔ ¬ Free cs ∧ ¬ Leading cs := by
  rw [← h.global_iff, ← h.degenerate_iff]
  cases scope <;> simp

theorem global_eq (h : Reads cs (.global typed)) : typed = String.ofList cs := by
  cases h
  rfl

theorem nested_eq (h : Reads cs (.nested base selector typed)) :
    cs = base.toList ++ selector.char :: typed.toList ∧ Free typed.toList ∧
      base ≠ "" ∧ ¬ Leading base.toList := by
  cases h with
  | nested selector hc htyped =>
    refine ⟨by simp, by simpa using htyped, by simp [← String.toList_inj], ?_⟩
    simp [leading_cons, hc]

end Reads

/-- Every text is read as a path, and nothing of it is lost. Its tokens are free of selectors, and
woven together with the selectors they are the text. A text without selectors is a name among the
variables, one that starts with a selector asks for nothing, and any other is a base, which has all
tokens but the last, with a selector and the last token behind it. -/
theorem Path.parse_lossless (text : Option String) :
    let path := Path.parse text
    path.raw = text.getD "" ∧
    ((∀ token ∈ path.tokens, Free token.toList) ∧
      path.tokens.length = (selectors path.raw.toList).length + 1 ∧
      woven path.tokens (selectors path.raw.toList) = path.raw) ∧
    ((∃ typed, path.scope = .global typed) ↔ Free path.raw.toList) ∧
    (path.scope = .degenerate ↔ Leading path.raw.toList) ∧
    ((∃ base selector typed, path.scope = .nested base selector typed) ↔
      ¬ Free path.raw.toList ∧ ¬ Leading path.raw.toList) ∧
    (∀ typed, path.scope = .global typed → typed = path.raw) ∧
    ∀ base selector typed, path.scope = .nested base selector typed →
      base ++ selector.char.toString ++ typed = path.raw ∧ Free typed.toList ∧
      base ≠ "" ∧ ¬ Leading base.toList ∧
      path.tokens = (Path.parse (some base)).tokens ++ [typed] := by
  intro path
  -- How the text is read as a scope settles all that is said of its scope.
  have htokens : path.tokens = (pieces path.raw.toList).map String.ofList := rfl
  have hreads : Reads path.raw.toList path.scope := reads_scopeOf path.raw.toList
  refine ⟨rfl, ⟨?_, ?_, ?_⟩, hreads.global_iff, hreads.degenerate_iff, hreads.nested_iff, ?_, ?_⟩
  · rw [htokens]
    intro token htoken
    obtain ⟨piece, hpiece, rfl⟩ := List.mem_map.mp htoken
    simpa using free_of_mem_pieces piece hpiece
  · rw [htokens, List.length_map, length_pieces]
  · rw [htokens, woven_pieces, String.ofList_toList]
  · intro typed h
    rw [h] at hreads
    rw [hreads.global_eq, String.ofList_toList]
  · intro base selector typed h
    rw [h] at hreads
    obtain ⟨htext, htyped, hbase, hleading⟩ := hreads.nested_eq
    refine ⟨by simp [← String.toList_inj, htext], htyped, hbase, hleading, ?_⟩
    have hsplit := split_append base.toList selector htyped
    rw [← htext, String.ofList_toList, String.ofList_toList, String.ofList_toList] at hsplit
    exact hsplit

/-- The second of two selectors in turn stands before an empty name. -/
example : (Path.parse (some "a$@")).tokens = ["a", "", ""] ∧
    (Path.parse (some "a$@")).scope = .nested "a$" .byAttribute "" := by decide

end VariableExplorer.Navigation
