import VariableExplorer.Proofs.Description.Reading

/-!
A plain dictionary can always be described: nothing that is read of it fails.
-/

namespace VariableExplorer

open Eval

/-- The object is a dictionary with these entries, and nothing else. -/
def Store.IsDict (s : Store) (r : Ref) (es : List (Value × Value)) : Prop :=
  s.get? r = some ⟨.native "dict", .dict es, none, []⟩

namespace Store

variable {s : Store} {r : Ref} {es : List (Value × Value)}

namespace IsDict

variable (h : s.IsDict r es)

include h

theorem get? : s.get? r = some ⟨.native "dict", .dict es, none, []⟩ := h

theorem classOf : s.classOf (.ref r) = .native "dict" := by
  simp only [Store.classOf, h.get?]

theorem asClass? : s.asClass? (.ref r) = none := by
  simp [Store.asClass?, Store.classDef?, h.get?]

theorem body : s.body (.ref r) = .dict es := by
  simp only [Store.body, h.get?]

theorem attributes : s.attributes (.ref r) = [] := by
  simp [Store.attributes, Store.object?, h.get?]

theorem entries : s.entries r = es := by
  simp only [Store.entries, h.get?]

theorem found_class : s.found? (s.classOf (.ref r)) "__class__" =
    some (.native "object" .computed) := by
  rw [h.classOf]
  rfl

theorem found_shape : s.found? (s.classOf (.ref r)) "shape" = none := by
  rw [h.classOf]
  rfl

theorem found_len : s.found? (s.classOf (.ref r)) "__len__" =
    some (.native "dict" .wrapper) := by
  rw [h.classOf]
  rfl

theorem found_slots : s.found? (s.classOf (.ref r)) "__slots__" = none := by
  rw [h.classOf]
  rfl

theorem getAttr_run (name : String) :
    (Eval.getAttr (.ref r) name).run s = (Eval.plainAttr (.ref r) name).run s := by
  rw [Eval.getAttr, run_get_bind]
  simp only [h.asClass?, h.classOf, ofMade?_native]

theorem getAttr_class :
    (Eval.getAttr (.ref r) "__class__").run s = (.ok (.native "dict"), s) := by
  rw [h.getAttr_run, Eval.plainAttr, run_get_bind]
  simp only [h.found_class, Found.isData, if_true, Eval.bind]
  rw [Eval.computed, run_get_bind]
  simp only [h.classOf, if_true]
  rfl

theorem getAttr_len : (Eval.getAttr (.ref r) "__len__").run s =
    (.ok (.wrapper (.ref r) "__len__"), s) := by
  rw [h.getAttr_run, Eval.plainAttr, run_get_bind]
  simp only [h.found_len, Found.isData, Bool.false_eq_true, if_false, plainAttr.ofOwn,
    h.attributes, Store.lookup?, Eval.bind]
  rfl

theorem getAttr_missing {name : String} (hfound : s.found? (s.classOf (.ref r)) name = none) :
    (Eval.getAttr (.ref r) name).run s =
      (.error (.noAttribute (s.kindFullName (.ref r)) name), s) := by
  rw [h.getAttr_run, Eval.plainAttr, run_get_bind]
  simp only [hfound, plainAttr.ofOwn, h.attributes, h.body, Store.lookup?]
  rfl

end IsDict

end Store

namespace Eval

variable {α β : Type} {r : Ref} {es : List (Value × Value)}

/-- It has a result wherever this dictionary is. -/
def Answers (r : Ref) (es : List (Value × Value)) (x : Eval α) : Prop :=
  ∀ s, s.Civil → s.IsDict r es → ∃ a t, x.run s = (.ok a, t)

namespace Answers

theorem pure (a : α) : Answers r es (Pure.pure a : Eval α) := fun s _ _ ↦ ⟨a, s, rfl⟩

theorem bind {x : Eval α} {f : α → Eval β} (hx : Answers r es x) (ht : Tame x)
    (hf : ∀ a, Answers r es (f a)) : Answers r es (x >>= f) := by
  intro s hs h
  obtain ⟨a, t, hrun⟩ := hx s hs h
  have hend := ht s hs
  rw [hrun] at hend
  rw [run_bind_of_ok hrun]
  exact hf a t hend.civil (hend.keeps _ _ h)

theorem get {f : Store → Eval α} (hf : ∀ s, s.IsDict r es → Answers r es (f s)) :
    Answers r es (MonadState.get >>= f) := fun s hs h ↦ hf s h s hs h

theorem ite {c : Prop} [Decidable c] {x y : Eval α} (hx : Answers r es x) (hy : Answers r es y) :
    Answers r es (if c then x else y) := by
  split
  · exact hx
  · exact hy

theorem tryCatch {x : Eval α} {h : Fault → Eval α} (ht : Tame x)
    (hh : ∀ f : Fault, f.isOrdinary = true → Answers r es (h f)) :
    Answers r es (MonadExcept.tryCatch x h) := by
  intro s hs hdict
  obtain ⟨hkeeps, hcivil, -, hfailure⟩ := ht s hs
  rcases hrun : x.run s with ⟨result, t⟩
  rw [hrun] at hkeeps hcivil hfailure
  cases result with
  | ok a => exact ⟨a, t, run_tryCatch_of_ok hrun⟩
  | error e =>
    rw [run_tryCatch_of_error hrun]
    exact hh e (hfailure e rfl) t hcivil (hkeeps _ _ hdict)

theorem handle {x : Eval α} {h : Fault → Eval α} (ht : Tame x) (hh : ∀ f, Answers r es (h f)) :
    Answers r es (Eval.handle x h) := by
  refine .tryCatch ht fun f hf ↦ ?_
  rw [if_pos hf]
  exact hh f

theorem transient {x : Eval α} (hx : Answers r es x) : Answers r es (Eval.transient x) := by
  intro s hs h
  obtain ⟨a, t, hrun⟩ := hx s hs h
  exact ⟨a, s, congrArg (fun e : Except Fault α × Store ↦ (e.1, s)) hrun⟩

theorem getAttr?_class : Answers r es (Eval.getAttr? (.ref r) "__class__") := by
  intro s hs h
  refine ⟨some (.native "dict"), s, run_tryCatch_of_ok ?_⟩
  rw [run_bind_of_ok h.getAttr_class]
  rfl

theorem getAttr?_len : Answers r es (Eval.getAttr? (.ref r) "__len__") := by
  intro s hs h
  refine ⟨some (.wrapper (.ref r) "__len__"), s, run_tryCatch_of_ok ?_⟩
  rw [run_bind_of_ok h.getAttr_len]
  rfl

theorem isInstance (names : List String) : Answers r es (Eval.isInstance (.ref r) names) := by
  induction names with
  | nil => exact .pure _
  | cons name names ih =>
    refine .bind (.get fun s _ ↦ .ite (.pure _) (getAttr?_class.bind (.getAttr? _ _) fun c ↦ ?_))
      (.isOf _ name) fun b ↦ .ite (.pure _) ih
    split
    · exact .get fun _ _ ↦ .pure _
    · exact .pure _

theorem isMapping : Answers r es (Eval.isMapping (.ref r)) := by
  intro s hs h
  rw [Eval.isMapping, run_bind_of_ok h.getAttr_class]
  exact ⟨_, s, rfl⟩

theorem slots : Answers r es (Child.slots (.ref r)) :=
  fun s _ h ↦ ⟨[], s, Child.slots_run_of_missing h.found_slots⟩

theorem dimensions : Answers r es (Summary.dimensions (.ref r)) := by
  intro s hs h
  have hshape : (Eval.getAttr? (.ref r) "shape").run s = (.ok none, s) := by
    rw [Eval.getAttr?, run_tryCatch_of_error
      (run_bind_of_error (h.getAttr_missing h.found_shape))]
    rfl
  refine ⟨none, s, ?_⟩
  rw [Summary.dimensions, run_bind_of_ok (run_handle_of_ok hshape)]
  rfl

theorem typeName : Answers r es (Summary.typeName (.ref r)) :=
  (isInstance _).bind (.isInstance _ _) fun _ ↦ .ite (.pure _)
    ((isInstance _).bind (.isInstance _ _) fun _ ↦ .ite (.pure _) (.get fun _ _ ↦ .pure _))

theorem length : Answers r es (Describe.length (.ref r)) := by
  refine (isInstance _).bind (.isInstance _ _) fun _ ↦ .ite (.pure _) ?_
  refine .bind (getAttr?_len.bind (.getAttr? _ _) fun _ ↦ .pure _) (.hasAttr _ _) fun _ ↦
    .ite (.pure _) (.handle ((Tame.length _).bind fun _ _ ↦ .pure trivial) fun _ ↦ .pure _)

theorem flags (name : String) : Answers r es (Describe.flags name (.ref r)) :=
  (isInstance _).bind (.isInstance _ _) fun _ ↦ .ite (.pure _)
    (isMapping.bind (.isMapping _) fun _ ↦ .ite (.pure _)
      ((isInstance _).bind (.isInstance _ _) fun _ ↦ .pure _))

theorem map {x : Eval α} {f : α → β} (hx : Answers r es x) (ht : Tame x) :
    Answers r es (f <$> x) := by
  rw [← bind_pure_comp]
  exact hx.bind ht fun _ ↦ .pure _

theorem asked (q : Request) (p : Property) (default : α) {x : Eval α} (hx : Answers r es x) :
    Answers r es (Describe.asked q p default x) := by
  unfold Describe.asked
  split
  · exact hx
  · exact .pure _

open Describe in
theorem describe (q : Request) : Answers r es (describe q (.ref r)) := by
  have hsome {α β : Type} {f : α → β} {x : Eval α} (hx : Tame x) : Tame (f <$> x) :=
    hx.map fun _ _ ↦ trivial
  -- What is asked of the value as a whole is handled, so it answers whatever the value does.
  have hchildren : Answers r es (hasChildren (.ref r)) :=
    .handle ((Child.members_yields _ _).bind fun _ h ↦ (Child.first?_tame h).bind fun _ _ ↦
      .pure trivial) fun _ ↦ .pure _
  have hcount : Answers r es (attributeCount (.ref r)) :=
    .handle ((Tame.vars _).bind fun _ _ ↦ Tame.length _) fun _ ↦ .pure _
  have hsummary : Answers r es (summarise (.ref r)) :=
    .handle (Summary.read_tame _) fun _ ↦ .get fun _ _ ↦ .pure _
  have hsample : Answers r es (Summary.sample sampleLimit (.ref r)) :=
    .handle ((Tame.shown _).bind fun _ _ ↦ .pure trivial) fun _ ↦ .get fun _ _ ↦ .pure _
  refine .transient <| .get fun s _ ↦ .bind (.asked q _ _ (typeName.map (Summary.typeName_tame _)))
    (asked_tame q _ _ (hsome (Summary.typeName_tame _))) fun typeName ↦ ?_
  refine .bind (.asked q _ _ length) (asked_tame q _ _ (length_tame _)) fun length ↦ ?_
  refine .bind (.asked q _ _ (slots.bind (Child.slots_tame _) fun _ ↦ .pure _))
    (asked_tame q _ _ ((Child.slots_tame _).bind fun _ _ ↦ .pure trivial)) fun slotCount ↦ ?_
  refine .bind (.asked q _ _ (hcount.bind (attributeCount_tame _) fun _ ↦ .pure _))
    (asked_tame q _ _ ((attributeCount_tame _).bind fun _ _ ↦ .pure trivial)) fun count ↦ ?_
  refine .bind (.asked q _ _ (dimensions.bind (Summary.dimensions_tame _) fun _ ↦
      .get fun _ _ ↦ .pure _))
    (asked_tame q _ _ ((Summary.dimensions_tame _).bind fun _ _ ↦
      .get fun _ _ ↦ .pure trivial)) fun dim ↦ ?_
  refine .bind (.asked q _ _ (flags _)) (asked_tame q _ _ (flags_tame _ _)) fun flags ↦ ?_
  refine .bind (.asked q _ _ (hchildren.map (hasChildren_tame _)))
    (asked_tame q _ _ (hsome (hasChildren_tame _))) fun hasChildren ↦ ?_
  simp only [pure_bind]
  split
  · exact .pure _
  · exact (hsummary.map (summarise_tame _)).bind (hsome (summarise_tame _)) fun _ ↦ .pure _
  · exact (hsample.map (Summary.sample_tame _ _)).bind (hsome (Summary.sample_tame _ _))
      fun _ ↦ .pure _

end Answers

end Eval

end VariableExplorer
