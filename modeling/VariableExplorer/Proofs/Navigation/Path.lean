import VariableExplorer.Navigation.Path

/-!
How a path is read: it has no selector, it starts with one, or it has a base in front of its last
selector and what is typed of a member after it.
-/

namespace VariableExplorer

namespace Selector

theorem ofChar?_eq_some {c : Char} {selector : Selector} :
    ofChar? c = some selector ↔ c = selector.char := by
  unfold ofChar?
  cases selector with
  | byName => by_cases h : c = '$' <;> by_cases h' : c = '@' <;> simp [h, h', char]
  | byAttribute =>
    by_cases h : c = '$'
    · subst h
      decide
    · by_cases h' : c = '@' <;> simp [h, h', char]

theorem isSelector_eq_false {c : Char} : isSelector c = false ↔ ofChar? c = none := by
  simp [isSelector]

theorem isSelector_char (selector : Selector) : isSelector selector.char = true := by
  cases selector <;> decide

end Selector

namespace Navigation

open Selector

def Free (cs : List Char) : Prop := ∀ c ∈ cs, isSelector c = false

instance (cs : List Char) : Decidable (Free cs) :=
  List.decidableBAll (fun c ↦ isSelector c = false) cs

theorem Free.selectors {cs : List Char} (h : Free cs) : selectors cs = [] :=
  List.filterMap_eq_nil_iff.mpr fun c hc ↦ isSelector_eq_false.mp (h c hc)

section

variable {before after : List Char} (h : Free after) (selector : Selector)

include h

theorem last?_append : last? (before ++ selector.char :: after) = some selector := by
  have hchar : ofChar? selector.char = some selector := ofChar?_eq_some.mpr rfl
  have hafter : after.filterMap ofChar? = [] := h.selectors
  rw [last?, selectors, List.filterMap_append, List.filterMap_cons_some hchar, hafter,
    List.getLast?_concat]

theorem Free.reverse : ∀ c ∈ after.reverse, (!isSelector c) = true := fun c hc ↦ by
  simpa using h c (List.mem_reverse.mp hc)

theorem beforeLast_append : beforeLast (before ++ selector.char :: after) = before := by
  have hreverse : (before ++ selector.char :: after).reverse =
      after.reverse ++ selector.char :: before.reverse := by simp
  rw [beforeLast, hreverse, List.dropWhile_append_of_pos h.reverse,
    List.dropWhile_cons_of_neg (by simp [isSelector_char])]
  simp

theorem afterLast_append : afterLast (before ++ selector.char :: after) = after := by
  have hreverse : (before ++ selector.char :: after).reverse =
      after.reverse ++ selector.char :: before.reverse := by simp
  rw [afterLast, hreverse, List.takeWhile_append_of_pos h.reverse,
    List.takeWhile_cons_of_neg (by simp [isSelector_char])]
  simp

end

theorem free_or_last (cs : List Char) : Free cs ∨ ∃ before selector after,
    cs = before ++ Selector.char selector :: after ∧ Free after := by
  induction cs with
  | nil => exact .inl (by simp [Free])
  | cons c cs ih =>
    obtain hfree | ⟨before, selector, after, rfl, hafter⟩ := ih
    · cases hc : ofChar? c with
      | none => exact .inl (List.forall_mem_cons.mpr ⟨isSelector_eq_false.mpr hc, hfree⟩)
      | some selector => exact .inr ⟨[], selector, cs, by rw [ofChar?_eq_some.mp hc]; rfl, hfree⟩
    · exact .inr ⟨c :: before, selector, after, rfl, hafter⟩

/-- What a text asks for as a path. -/
inductive Reads : List Char → Scope → Prop
  | global {cs : List Char} : Free cs → Reads cs (.global (String.ofList cs))
  | degenerate {c : Char} {cs : List Char} : isSelector c = true → Reads (c :: cs) .degenerate
  | nested {c : Char} {base typed : List Char} (selector : Selector) : isSelector c = false →
      Free typed → Reads (c :: base ++ selector.char :: typed)
        (.nested (String.ofList (c :: base)) selector (String.ofList typed))

theorem scopeOf_of_free {cs : List Char} (h : Free cs) :
    scopeOf cs = .global (String.ofList cs) := by
  rw [scopeOf, last?, h.selectors]
  rfl

theorem scopeOf_of_selector {c : Char} {cs : List Char} (hc : isSelector c = true) :
    scopeOf (c :: cs) = .degenerate := by
  obtain ⟨selector, hselector⟩ := Option.isSome_iff_exists.mp hc
  have hlast : last? (c :: cs) = some ((selectors cs).getLast?.getD selector) := by
    rw [last?, selectors, List.filterMap_cons_some hselector]
    exact List.getLast?_cons
  rw [scopeOf, hlast]
  simp [hc]

theorem scopeOf_nested {c : Char} {base typed : List Char} (selector : Selector)
    (hc : isSelector c = false) (htyped : Free typed) :
    scopeOf (c :: base ++ selector.char :: typed) =
      .nested (String.ofList (c :: base)) selector (String.ofList typed) := by
  rw [scopeOf, last?_append htyped, beforeLast_append htyped, afterLast_append htyped]
  simp [hc]

theorem reads_scopeOf (cs : List Char) : Reads cs (scopeOf cs) := by
  obtain hfree | ⟨before, selector, after, rfl, hafter⟩ := free_or_last cs
  · exact scopeOf_of_free hfree ▸ .global hfree
  cases before with
  | nil =>
    rw [List.nil_append, scopeOf_of_selector (isSelector_char selector)]
    exact .degenerate (isSelector_char selector)
  | cons c base =>
    cases hc : isSelector c with
    | true => exact scopeOf_of_selector hc ▸ .degenerate hc
    | false => exact scopeOf_nested selector hc hafter ▸ .nested selector hc hafter

theorem Reads.unique {cs : List Char} {scope : Scope} (h : Reads cs scope) :
    scopeOf cs = scope := by
  cases h with
  | global hfree => exact scopeOf_of_free hfree
  | degenerate hc => exact scopeOf_of_selector hc
  | nested selector hc htyped => exact scopeOf_nested selector hc htyped

end Navigation

end VariableExplorer
