import VariableExplorer.Proofs.Value.Tame

/-!
Reading an attribute is tame.
-/

namespace VariableExplorer

def Found.Civil (found : Found) : Prop := ∀ owner e, found = .made owner e → e.Civil

theorem Store.Civil.found? {s : Store} (hs : s.Civil) {c : ClassRef} {name : String}
    {found : Found} (h : s.found? c name = some found) : found.Civil := by
  obtain ⟨a, -, ha⟩ := List.exists_of_findSome?_eq_some h
  rintro owner e rfl
  cases a with
  | native n =>
    obtain ⟨e', -, he⟩ := Option.map_eq_some_iff.mp ha
    cases he
  | made r =>
    obtain ⟨d, hd, he⟩ := Option.bind_eq_some_iff.mp ha
    simp only [Option.map_eq_some_iff, Found.made.injEq] at he
    obtain ⟨e', he, -, rfl⟩ := he
    exact hs.classDef? hd he

namespace Eval.Tame

theorem checkKey (v : Value) : Tame (Eval.checkKey v) := by
  refine .get fun s _ ↦ ?_
  split
  · exact .fail trivial
  · exact .pure trivial

theorem dictEntries (pairs : List (Value × Value)) : Tame (Eval.dictEntries pairs) :=
  (forM (fun _ ↦ checkKey _) pairs).bind fun _ _ ↦ .get fun _ _ ↦ .pure trivial

theorem new {o : Object} (h : ∀ d, o.body ≠ .classDef d) :
    Tame (do return Value.ref (← Eval.alloc o)) :=
  (alloc h).bind fun _ _ ↦ .pure trivial

theorem newList (items : List Value) : Tame (Eval.newList items) := new (by simp)

theorem newTuple (items : List Value) : Tame (Eval.newTuple items) := new (by simp)

theorem newDict (entries : List (Value × Value)) : Tame (Eval.newDict entries) := new (by simp)

theorem newFunction (name : String) : Tame (Eval.newFunction name) :=
  (alloc (by simp)).bind fun _ _ ↦ new (by simp)

theorem newMethod (bearer func : Value) : Tame (Eval.newMethod bearer func) := new (by simp)

theorem newView (entries : List (Value × Value)) : Tame (Eval.newView entries) :=
  (newDict entries).bind fun _ _ ↦ new (by simp)

theorem stored (owner name : String) (found : Found) : Tame (Eval.stored owner name found) := by
  unfold Eval.stored
  split
  case h_2 => exact new (by simp)
  case h_3 | h_4 | h_5 => exact newFunction name
  all_goals exact .pure trivial

theorem classEntries (c : ClassRef) : Tame (Eval.classEntries c) := by
  refine .get fun s _ ↦ ?_
  split
  · exact mapM (fun _ ↦ (stored _ _ _).bind fun _ _ ↦ .pure trivial) _
  · split
    · exact .pure trivial
    · exact mapM (fun _ ↦ (stored _ _ _).bind fun _ _ ↦ .pure trivial) _

theorem ofClass (c : ClassRef) (name : String) : Tame (Eval.ofClass c name) := by
  refine .get fun s _ ↦ ?_
  split
  · exact .pure trivial
  split
  · exact (classEntries c).bind fun _ _ ↦ newView _
  split
  · exact newTuple _
  split
  · exact newTuple _
  split
  · exact .pure trivial
  split
  · exact .pure trivial
  split
  · split <;> split <;> exact .pure trivial
  · exact .pure trivial

theorem computed (v : Value) (name : String) : Tame (Eval.computed v name) := by
  refine .get fun s _ ↦ ?_
  split
  · exact .pure trivial
  split
  · split
    · exact .pure trivial
    · exact .fail trivial
  split
  case h_12 =>
    split
    · exact .pure trivial
    split
    · exact newTuple _
    split
    · exact newDict _
    · exact .pure trivial
  case h_13 =>
    split
    · exact newTuple _
    · exact .pure trivial
  all_goals exact .pure trivial

theorem ofBehaviour {b : Behaviour} {e : ClassEntry} (he : e.Civil)
    (h : e = .special b ∨ e = .property b) : Tame (MonadExcept.ofExcept b : Eval Value) := by
  refine .ofExcept (fun _ _ ↦ trivial) fun f hf ↦ ?_
  subst hf
  exact he f h

theorem bound {found : Found} (h : found.Civil) (v : Value) (name : String) :
    Tame (Eval.bind v name found) := by
  unfold Eval.bind
  split
  case h_1 =>
    split
    · exact computed v name
    · exact .pure trivial
  case h_2 =>
    refine .get fun s _ ↦ ?_
    split
    · exact newMethod _ _
    · exact .pure trivial
  case h_3 => exact ofBehaviour (h _ _ rfl) (.inr rfl)
  case h_4 | h_5 | h_6 => exact (newFunction name).bind fun _ _ ↦ newMethod _ _
  case h_7 =>
    refine .get fun s _ ↦ ?_
    split
    · exact .pure trivial
    · exact .fail trivial
  case h_10 => exact .get fun s _ ↦ .pure trivial
  case h_11 | h_12 => exact computed v name
  all_goals exact .pure trivial

theorem plainAttr (v : Value) (name : String) : Tame (Eval.plainAttr v name) := by
  refine .get fun s hs ↦ ?_
  have hown : ∀ found : Option Found, (∀ f, found = some f → f.Civil) →
      Tame (Eval.plainAttr.ofOwn v name s found) := by
    intro found hfound
    unfold Eval.plainAttr.ofOwn
    split
    · exact .pure trivial
    · exact bound (hfound _ rfl) v name
    split
    · split
      next hf => exact bound (hs.found? hf) _ name
      · exact .fail trivial
    · exact .fail trivial
    · exact .fail trivial
  dsimp only
  split
  next f hf =>
    split
    · exact bound (hs.found? hf) v name
    · exact hown _ fun g hg ↦ hs.found? hg
  · exact hown _ fun g hg ↦ hs.found? hg

theorem classAttr (c : ClassRef) (name : String) : Tame (Eval.classAttr c name) := by
  refine .get fun s hs ↦ ?_
  have hown : Tame (Eval.classAttr.ofOwn c name s (s.found? (.native "type") name)) := by
    unfold Eval.classAttr.ofOwn
    split
    · exact .pure trivial
    · split <;> exact stored _ _ _
    split
    next hf => exact bound (hs.found? hf) _ name
    · exact .fail trivial
  dsimp only
  split
  · split
    · unfold Eval.classAttr.ofGeneral
      split
      · exact .pure trivial
      · exact ofClass c name
    · exact hown
  · exact hown

theorem getAttr (v : Value) (name : String) : Tame (Eval.getAttr v name) := by
  refine .get fun s hs ↦ ?_
  split
  · exact classAttr _ name
  split
  next hb =>
    refine (plainAttr v name).tryCatch fun f hf ↦ ?_
    split
    · exact ofBehaviour (hs.ofMade? hb) (.inl rfl)
    · exact .throw hf
  · exact plainAttr v name

theorem getAttr? (v : Value) (name : String) : Tame (Eval.getAttr? v name) := by
  refine .tryCatch ((getAttr v name).bind fun _ _ ↦ .pure trivial) fun f hf ↦ ?_
  split
  · exact .pure trivial
  · exact .throw hf

theorem hasAttr (v : Value) (name : String) : Tame (Eval.hasAttr v name) :=
  (getAttr? v name).bind fun _ _ ↦ .pure trivial

theorem vars (v : Value) : Tame (Eval.vars v) := by
  refine (getAttr? v _).bind fun d _ ↦ ?_
  split
  · exact .pure trivial
  · exact .fail trivial

theorem isOf (v : Value) (name : String) : Tame (Eval.isOf v name) := by
  refine .get fun s _ ↦ ?_
  split
  · exact .pure trivial
  · refine (getAttr? v _).bind fun c _ ↦ ?_
    split
    · exact .get fun _ _ ↦ .pure trivial
    · exact .pure trivial

theorem isInstance (v : Value) (names : List String) : Tame (Eval.isInstance v names) := by
  induction names with
  | nil => exact .pure trivial
  | cons name names ih =>
    refine (isOf v name).bind fun b _ ↦ ?_
    split
    · exact .pure trivial
    · exact ih

theorem isMapping (v : Value) : Tame (Eval.isMapping v) := by
  refine (getAttr v _).bind fun c _ ↦ .get fun s _ ↦ ?_
  split
  · exact .pure trivial
  · exact .fail trivial

end Eval.Tame

end VariableExplorer
