import Mathlib.Data.List.GetD
import VariableExplorer.Proofs.Value.Recipe
import VariableExplorer.Value.Notation

/-!
What JSON stands for is tame, as long as whatever it asks to be raised is ordinary.
-/

namespace VariableExplorer

open Eval

namespace Json

inductive Within (k : Json) : Json → Prop
  | refl : Within k k
  | item {xs : List Json} {j : Json} : j ∈ xs → Within k j → Within k (.arr xs)
  | field {fields : List (String × Json)} {name : String} {j : Json} :
      fields.lookup name = some j → Within k j → Within k (.obj fields)

/-- Nothing that stops the program is asked to be raised. -/
def Civil (j : Json) : Prop :=
  ∀ k, Within k j → k.has "raise" = true → (FaultSpec.ofJson (k.get "raise")).Ordinary

namespace Civil

variable {j k : Json}

theorem null : Civil .null := by
  intro k hk hraise
  cases hk
  cases hraise

theorem items (h : j.Civil) : ∀ k ∈ j.items, k.Civil := by
  intro k hk m hm
  cases j with
  | arr xs => exact h m (.item hk hm)
  | _ => cases hk

theorem item (h : j.Civil) (i : Nat) : (j.items.getD i .null).Civil := by
  rcases Nat.lt_or_ge i j.items.length with hi | hi
  · rw [List.getD_eq_getElem _ _ hi]
    exact h.items _ (List.getElem_mem hi)
  · rw [List.getD_eq_default _ _ hi]
    exact null

theorem field? {name : String} (h : j.Civil) (hk : j.field? name = some k) : k.Civil := by
  cases j with
  | obj fields => exact fun m hm ↦ h m (.field hk hm)
  | _ => cases hk

theorem get (h : j.Civil) (name : String) : (j.get name).Civil := by
  rw [Json.get]
  cases hk : j.field? name with
  | none => exact null
  | some k => exact h.field? hk

theorem opt (h : j.Civil) (hk : j.opt = some k) : k.Civil := by
  obtain ⟨-, ⟨⟩⟩ := Option.ite_none_left_eq_some.mp hk
  exact h

theorem pairs (h : j.Civil) : ∀ p ∈ j.pairs, p.1.Civil ∧ p.2.Civil := by
  intro p hp
  obtain ⟨k, hk, rfl⟩ := List.mem_map.mp hp
  exact ⟨(h.items k hk).item 0, (h.items k hk).item 1⟩

end Civil

end Json

namespace Recipe

theorem rangeOf_tame (is : List Int) : Tame (rangeOf is) := by
  unfold rangeOf
  split <;> exact Tame.new (by simp)

section

variable {o : Origin} {read : Json → Recipe} (hread : ∀ j, j.Civil → Tame (read j)) {j : Json}

include hread

theorem readItems_tame (hj : j.Civil) : ∀ r ∈ j.items.map read, Tame r :=
  List.forall_mem_map.mpr fun k hk ↦ hread k (hj.items k hk)

theorem readPairs_tame (hj : j.Civil) : AllTame (readPairs read j) :=
  List.forall_mem_map.mpr fun p hp ↦ ⟨hread _ (hj.pairs p hp).1, hread _ (hj.pairs p hp).2⟩

theorem readNamed_tame (hj : j.Civil) : NamedTame (readNamed read j) :=
  List.forall_mem_map.mpr fun p hp ↦ hread _ (hj.pairs p hp).2

theorem readBehaviour_tame (hj : j.Civil) : BehaviourSpec.Tame (readBehaviour read j) := by
  unfold readBehaviour
  split
  next h => exact hj j .refl h
  · exact hread j hj

theorem readInstance_tame (hj : j.Civil) : (readInstance o read j).Tame where
  init r hr := by
    obtain ⟨k, hk, rfl⟩ := Option.map_eq_some_iff.mp hr
    exact hread k ((hj.get _).opt hk)
  slots r hr := by
    obtain ⟨-, ⟨⟩⟩ := Option.ite_none_right_eq_some.mp hr
    exact hread _ (hj.get _)
  attrs := readNamed_tame hread (hj.get _)
  classAttrs := readNamed_tame hread (hj.get _)
  specials := by
    have hspecial (key name : String) : ∀ p ∈ (if j.has key then
        [(name, readBehaviour read (j.get key))] else []), BehaviourSpec.Tame p.2 := by
      split
      · exact List.forall_mem_singleton.mpr (readBehaviour_tame hread (hj.get key))
      · simp
    simp only [readInstance, List.forall_mem_append]
    exact ⟨⟨⟨⟨hspecial _ _, hspecial _ _⟩, hspecial _ _⟩, hspecial _ _⟩, hspecial _ _⟩
  failingItems f hf := by
    obtain ⟨g, hg, hf⟩ := Option.map_eq_some_iff.mp hf
    split at hf
    next hraise =>
      cases hf
      exact hj.field? hg g .refl hraise
    · cases hf
  items pairs hp := by
    obtain ⟨g, hg, hp⟩ := Option.map_eq_some_iff.mp hp
    split at hp
    · cases hp
    · cases hp
      exact readPairs_tame hread (hj.field? hg)
  properties := List.forall_mem_map.mpr fun p hp ↦
    readBehaviour_tame hread ((hj.get _).pairs p hp).2
  lateSlots r hr := by
    obtain ⟨-, ⟨⟩⟩ := Option.ite_none_right_eq_some.mp hr
    exact hread _ (hj.get _)

theorem readTagged_tame (hj : j.Civil) (tag : String) : Tame (readTagged o read tag j) := by
  unfold readTagged
  extract_lets part
  split
  case h_1 => exact dict_tame (readPairs_tame hread hj)
  case h_2 => exact ordered_tame (readPairs_tame hread hj)
  case h_3 => exact proxy_tame (readPairs_tame hread hj)
  case h_4 => exact mapping_tame _ _ (readPairs_tame hread hj)
  case h_5 => exact tuple_tame (readItems_tame hread hj)
  case h_6 | h_7 => exact set_tame _ (readItems_tame hread hj)
  case h_11 => exact Tame.new (by simp)
  case h_13 => exact rangeOf_tame _
  case h_16 => exact Tame.newList _
  case h_17 => exact Tame.newDict _
  case h_18 => exact nest_tame _ (hread _ (hj.item 2)) _
  case h_19 => exact .ite cyclicList_tame cyclicDict_tame
  case h_20 => exact namespace_tame (readNamed_tame hread hj)
  case h_21 => exact function_tame _ _
  case h_22 => exact method_tame (.pure trivial) (function_tame _ _)
  case h_24 => exact partialCall_tame _ (readItems_tame hread hj)
  case h_25 => exact exception_tame _ _
  case h_26 => exact classDef_tame _ _ (readNamed_tame hread (hj.get _))
  case h_27 => exact module_tame _ _ (readNamed_tame hread (hj.get _))
  case h_28 => exact instance_tame (readInstance_tame hread hj)
  all_goals exact .pure trivial

end

theorem readWithin_tame (o : Origin) (depth : Nat) {j : Json} (hj : j.Civil) :
    Tame (readWithin o depth j) := by
  induction depth generalizing j with
  | zero => exact .pure trivial
  | succ depth ih =>
    unfold readWithin
    extract_lets read
    split
    case h_6 xs => exact list_tame (readItems_tame (fun _ h ↦ ih h) hj)
    case h_8 tag a fields =>
      exact readTagged_tame (fun _ h ↦ ih h) (hj.field? (List.lookup_cons_self ..)) tag
    all_goals exact .pure trivial

theorem ofJson_tame (o : Origin) {j : Json} (hj : j.Civil) : Tame (ofJson o j) :=
  readWithin_tame o _ hj

theorem namedOfJson_tame (o : Origin) {j : Json} (hj : j.Civil) : NamedTame (namedOfJson o j) :=
  readNamed_tame (fun _ h ↦ ofJson_tame o h) hj

end Recipe

end VariableExplorer
