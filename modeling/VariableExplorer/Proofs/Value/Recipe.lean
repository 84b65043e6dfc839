import VariableExplorer.Proofs.Expression.Evaluation
import VariableExplorer.Value.Recipe

/-!
Recipes are tame when what they are made of is. A class may be changed as long as it is new, and its
special methods may raise whatever does not stop the program.
-/

namespace VariableExplorer

open Eval

namespace Eval

variable {α β : Type} {r : Ref}

/-- A computation that is tame but for one object, which it may change. -/
def Remakes (r : Ref) (x : Eval α) : Prop := ∀ s, s.Civil → (x.run s).2.Civil ∧
  (∀ r' o, r' ≠ r → s.get? r' = some o → (x.run s).2.get? r' = some o) ∧
  ∀ f, (x.run s).1 = .error f → f.isOrdinary = true

namespace Remakes

theorem of_tame {x : Eval α} (h : Tame x) : Remakes r x := fun s hs ↦
  have h := h s hs
  ⟨h.civil, fun r' o _ ↦ h.keeps r' o, h.failure⟩

theorem bind {x : Eval α} {f : α → Eval β} (hx : Remakes r x) (hf : ∀ a, Remakes r (f a)) :
    Remakes r (x >>= f) := by
  intro s hs
  obtain ⟨hcivil, hkeeps, hfailure⟩ := hx s hs
  rcases hr : x.run s with ⟨result, t⟩
  rw [hr] at hcivil hkeeps hfailure
  cases result with
  | error e =>
    rw [run_bind_of_error hr]
    refine ⟨hcivil, hkeeps, fun g hg ↦ ?_⟩
    cases hg
    exact hfailure e rfl
  | ok a =>
    obtain ⟨hcivil', hkeeps', hfailure'⟩ := hf a t hcivil
    rw [run_bind_of_ok hr]
    exact ⟨hcivil', fun r' o hne ho ↦ hkeeps' r' o hne (hkeeps r' o hne ho), hfailure'⟩

theorem set {o : Object} (ho : ∀ d, o.body = .classDef d → ∀ e ∈ d.entries, e.2.Civil) :
    Remakes r (modify (·.set r o) : Eval Unit) := by
  intro s hs
  refine ⟨hs.set ho, fun r' o' hne hr' ↦ ?_, fun f hf ↦ by cases hf⟩
  exact (Store.get?_set.trans (if_neg fun h ↦ hne h.1.symm)).trans hr'

end Remakes

theorem Tame.alloc_bind {o : Object} {f : Ref → Eval α}
    (ho : ∀ d, o.body = .classDef d → ∀ e ∈ d.entries, e.2.Civil) (hf : ∀ r, Remakes r (f r)) :
    Tame (Eval.alloc o >>= f) := by
  intro s hs
  obtain ⟨hcivil, hkeeps, hfailure⟩ := hf s.objects.size (s.alloc o).1 (hs.alloc ho)
  refine ⟨fun r' o' hr' ↦ ?_, hcivil, fun _ _ ↦ trivial, hfailure⟩
  exact hkeeps r' o' (Nat.ne_of_lt (Store.get?_eq_some_lt hr')) (s.keeps_alloc o r' o' hr')

end Eval

def FaultSpec.Ordinary (f : FaultSpec) : Prop := f.toFault.isOrdinary = true

def AllTame (pairs : List (Recipe × Recipe)) : Prop := ∀ p ∈ pairs, Tame p.1 ∧ Tame p.2

def NamedTame (pairs : List (String × Recipe)) : Prop := ∀ p ∈ pairs, Tame p.2

namespace Recipe

theorem list_tame {items : List Recipe} (h : ∀ r ∈ items, Tame r) : Tame (list items) :=
  (Yields.mapM h).bind fun _ _ ↦ Tame.newList _

theorem tuple_tame {items : List Recipe} (h : ∀ r ∈ items, Tame r) : Tame (tuple items) :=
  (Yields.mapM h).bind fun _ _ ↦ Tame.newTuple _

theorem set_tame (cls : String) {items : List Recipe} (h : ∀ r ∈ items, Tame r) :
    Tame (set cls items) := (Yields.mapM h).bind fun _ _ ↦ Tame.newSet _ _

theorem entries_tame {pairs : List (Recipe × Recipe)} (h : AllTame pairs) :
    Tame (entries pairs) := by
  refine .bind (Tame.inPairs ?_ ?_) fun _ _ ↦ Tame.dictEntries _
  · exact List.forall_mem_map.mpr fun p hp ↦ (h p hp).1
  · exact List.forall_mem_map.mpr fun p hp ↦ (h p hp).2

theorem dict_tame {pairs : List (Recipe × Recipe)} (h : AllTame pairs) : Tame (dict pairs) :=
  (entries_tame h).bind fun _ _ ↦ Tame.newDict _

theorem newAttrs_tame (es : List (Value × Value)) : Tame (newAttrs es) := Tame.alloc (by simp)

theorem ordered_tame {pairs : List (Recipe × Recipe)} (h : AllTame pairs) :
    Tame (ordered pairs) :=
  (entries_tame h).bind fun _ _ ↦ (newAttrs_tame _).bind fun _ _ ↦ Tame.new (by simp)

theorem proxy_tame {pairs : List (Recipe × Recipe)} (h : AllTame pairs) : Tame (proxy pairs) :=
  (entries_tame h).bind fun _ _ ↦ Tame.newView _

def AllCivil (es : List (String × ClassEntry)) : Prop := ∀ e ∈ es, e.2.Civil

theorem AllCivil.append {es es' : List (String × ClassEntry)} (h : AllCivil es)
    (h' : AllCivil es') : AllCivil (es ++ es') := List.forall_mem_append.mpr ⟨h, h'⟩

theorem AllCivil.filter {es : List (String × ClassEntry)} (h : AllCivil es)
    (p : String × ClassEntry → Bool) : AllCivil (es.filter p) :=
  fun e he ↦ h e (List.mem_filter.mp he).1

@[simp] theorem civil_value (v : Value) : (ClassEntry.value v).Civil := by
  simp [ClassEntry.Civil]

@[simp] theorem civil_slot : ClassEntry.slot.Civil := by simp [ClassEntry.Civil]

@[simp] theorem civil_table (items : List (Value × Value)) : (ClassEntry.table items).Civil := by
  simp [ClassEntry.Civil]

@[simp] theorem civil_special {b : Behaviour} :
    (ClassEntry.special b).Civil ↔ ∀ f, b = .error f → f.isOrdinary = true := by
  simp [ClassEntry.Civil]

@[simp] theorem civil_property {b : Behaviour} :
    (ClassEntry.property b).Civil ↔ ∀ f, b = .error f → f.isOrdinary = true := by
  simp [ClassEntry.Civil]

theorem classTail_civil (module name : String) (hasDict : Bool) :
    AllCivil (classTail module name hasDict) := by
  cases hasDict <;> simp [classTail, AllCivil]

theorem newClass_tame {d : ClassDef} (h : AllCivil d.entries) : Tame (newClass d) := by
  intro s hs
  refine ⟨s.keeps_alloc _, hs.alloc fun d' hd ↦ ?_, fun _ _ ↦ trivial, fun f hf ↦ by cases hf⟩
  cases hd
  exact h

theorem mapping_tame (module cls : String) {pairs : List (Recipe × Recipe)} (h : AllTame pairs) :
    Tame (mapping module cls pairs) :=
  (dict_tame h).bind fun _ _ ↦ (newClass_tame (classTail_civil _ _ _)).bind fun _ _ ↦
    (newAttrs_tame _).bind fun _ _ ↦ Tame.new (by simp)

theorem nest_tame (kind : NestKind) {leaf : Recipe} (h : Tame leaf) (depth : Nat) :
    Tame (nest kind leaf depth) := by
  refine h.bind fun v _ ↦ Tame.foldlM (fun v _ ↦ ?_) _ _
  cases kind with
  | list => exact Tame.newList _
  | tuple => exact Tame.newTuple _
  | dict => exact Tame.newDict _

theorem cyclicList_tame : Tame cyclicList :=
  Tame.alloc_bind (by simp) fun _ ↦ .bind (.set (by simp)) fun _ ↦ .of_tame (.pure trivial)

theorem cyclicDict_tame : Tame cyclicDict :=
  Tame.alloc_bind (by simp) fun _ ↦ .bind (.set (by simp)) fun _ ↦ .of_tame (.pure trivial)

theorem named_tame {pairs : List (String × Recipe)} (h : NamedTame pairs) : Tame (named pairs) :=
  entries_tame (List.forall_mem_map.mpr fun p hp ↦ ⟨.pure trivial, h p hp⟩)

theorem namespace_tame {pairs : List (String × Recipe)} (h : NamedTame pairs) :
    Tame (namespace_ pairs) :=
  (named_tame h).bind fun _ _ ↦ (newAttrs_tame _).bind fun _ _ ↦ Tame.new (by simp)

theorem function_tame (name qualified : String) : Tame (function name qualified) :=
  (newAttrs_tame _).bind fun _ _ ↦ Tame.new (by simp)

theorem method_tame {bearer func : Recipe} (h : Tame bearer) (h' : Tame func) :
    Tame (method bearer func) :=
  h.bind fun _ _ ↦ h'.bind fun _ _ ↦ Tame.newMethod _ _

theorem partialCall_tame (func : Value) {args : List Recipe} (h : ∀ r ∈ args, Tame r) :
    Tame (partialCall func args) :=
  (Yields.mapM h).bind fun _ _ ↦ (newAttrs_tame _).bind fun _ _ ↦ Tame.new (by simp)

theorem exceptionClass_tame (module : String) (f : FaultSpec) : Tame (exceptionClass module f) :=
  .ite (.pure trivial) ((newClass_tame (classTail_civil _ _ _)).bind fun _ _ ↦ .pure trivial)

theorem exception_tame (module : String) (f : FaultSpec) : Tame (exception module f) :=
  (exceptionClass_tame module f).bind fun _ _ ↦ (newAttrs_tame _).bind fun _ _ ↦
    Tame.new (by simp)

theorem module_tame (name : String) (doc : Option String) {pairs : List (String × Recipe)}
    (h : NamedTame pairs) : Tame (module name doc pairs) :=
  (named_tame h).bind fun _ _ ↦ .get fun _ _ ↦ (newAttrs_tame _).bind fun _ _ ↦
    Tame.new (by simp)

theorem classDef_tame (module name : String) {pairs : List (String × Recipe)}
    (h : NamedTame pairs) : Tame (classDef module name pairs) := by
  refine .bind (P := AllCivil) (.mapM fun p hp ↦ ?_) fun own hown ↦ ?_
  · exact (h p hp).bind fun v _ ↦ .pure (civil_value v)
  refine (newClass_tame (.append ?_ ((classTail_civil _ _ _).filter _))).bind fun _ _ ↦
    .pure trivial
  exact List.foldlRecOn (motive := AllCivil) own _ (by simp [AllCivil]) fun es hes e he ↦
    (hes.filter _).append (by simpa [AllCivil] using hown e he)

end Recipe

def BehaviourSpec.Tame : BehaviourSpec → Prop
  | .error f => f.Ordinary
  | .ok r => Eval.Tame r

structure InstanceSpec.Tame (spec : InstanceSpec) : Prop where
  init : ∀ r, spec.init = some r → Eval.Tame r
  slots : ∀ r, spec.slots = some r → Eval.Tame r
  attrs : NamedTame spec.attrs
  classAttrs : NamedTame spec.classAttrs
  specials : ∀ p ∈ spec.specials, BehaviourSpec.Tame p.2
  failingItems : ∀ f, spec.items = some (.error f) → f.Ordinary
  items : ∀ pairs, spec.items = some (.ok pairs) → AllTame pairs
  properties : ∀ p ∈ spec.properties, BehaviourSpec.Tame p.2
  lateSlots : ∀ r, spec.lateSlots = some r → Eval.Tame r

namespace Recipe

theorem behaviour_yields {b : BehaviourSpec} (h : b.Tame) :
    Yields (fun b ↦ ∀ f, b = .error f → f.isOrdinary = true) (behaviour b) := by
  cases b with
  | error f =>
    refine .pure fun g hg ↦ ?_
    cases hg
    exact h
  | ok r => exact Yields.bind h fun v _ ↦ .pure (by simp)

theorem slotNames_tame (v : Value) : Tame (slotNames v) := by
  refine .get fun s _ ↦ ?_
  split
  · exact .pure trivial
  · exact .pure trivial

theorem content_yields (base : String) (init : Option Value) :
    Yields (fun body ↦ ∀ d, body ≠ .classDef d) (content base init) := by
  refine .get fun s _ ↦ ?_
  extract_lets items number
  have hitems : Tame items := by
    cases init with
    | none => exact .pure trivial
    | some v => exact Tame.elements v
  clear_value number
  split
  case h_1 | h_2 => exact hitems.bind fun _ _ ↦ .pure (by simp)
  case h_3 | h_4 => exact hitems.bind fun _ _ ↦ .pure (by simp)
  case h_5 | h_6 => exact .pure (by simp)
  case h_7 =>
    split
    · exact (Tame.construct _ _).bind fun _ _ ↦ .pure (by simp)
    · exact .pure (by simp)
  case h_8 =>
    split
    · exact (Number.toFloat_failsOwn _).tame.bind fun _ _ ↦ .pure (by simp)
    · exact .pure (by simp)
  case h_9 =>
    split
    · exact (Number.parts_failsOwn _).tame.bind fun _ _ ↦ .pure (by simp)
    · exact .pure (by simp)
  case h_10 =>
    split
    · exact (Tame.plain _).bind fun _ _ ↦ .pure (by simp)
    · exact .pure (by simp)
  all_goals split <;> exact .pure (by simp)

theorem lineage_tame (spec : InstanceSpec) : Tame (lineage spec) := by
  unfold lineage
  extract_lets native goOn
  have hgoOn (chain : List ClassRef) : Tame (goOn chain) :=
    Tame.foldlM (fun _ _ ↦ (newClass_tame (classTail_civil _ _ _)).bind fun _ _ ↦
      .pure trivial) _ _
  split
  · exact hgoOn _
  next names _ =>
    refine (Tame.newTuple _).bind fun v _ ↦ (newClass_tame (.append ?_ (classTail_civil _ _ _))).bind
      fun _ _ ↦ hgoOn _
    exact List.forall_mem_cons.mpr ⟨civil_value v, List.forall_mem_map.mpr fun _ _ ↦ civil_slot⟩

theorem declared_tame {spec : InstanceSpec} (h : spec.Tame) : Tame (declared spec) := by
  unfold declared
  split
  · exact .pure trivial
  next r hr => exact (h.slots r hr).bind fun v _ ↦ (slotNames_tame v).bind fun _ _ ↦ .pure trivial

theorem slotEntries_civil (declared : Option (Value × List String)) :
    AllCivil (slotEntries declared) := by
  cases declared with
  | none => simp [slotEntries, AllCivil]
  | some d =>
    obtain ⟨v, names⟩ := d
    exact List.forall_mem_cons.mpr ⟨civil_value v, List.forall_mem_map.mpr fun _ _ ↦ civil_slot⟩

theorem itemEntries_yields {items : Option (Except FaultSpec (List (Recipe × Recipe)))}
    (hfailing : ∀ f, items = some (.error f) → f.Ordinary)
    (hitems : ∀ pairs, items = some (.ok pairs) → AllTame pairs) :
    Yields AllCivil (itemEntries items) := by
  unfold itemEntries
  split
  · exact .pure (by simp [AllCivil])
  next f => exact .pure (by simpa [AllCivil, FaultSpec.Ordinary] using hfailing f rfl)
  next pairs => exact (entries_tame (hitems pairs rfl)).bind fun _ _ ↦ .pure (by simp [AllCivil])

theorem ownEntries_yields {spec : InstanceSpec} (h : spec.Tame) :
    Yields AllCivil (ownEntries spec) := by
  refine .bind (P := AllCivil) (.mapM fun p hp ↦ ?_) fun specials hspecials ↦ ?_
  · exact (behaviour_yields (h.specials p hp)).bind fun b hb ↦ .pure (by simpa using hb)
  extract_lets defaultText
  have hdefault : AllCivil defaultText := by
    simp only [defaultText]
    split <;> simp [AllCivil]
  refine (itemEntries_yields h.failingItems h.items).bind fun items hitems ↦ ?_
  refine .bind (P := AllCivil) (.mapM fun p hp ↦ ?_) fun properties hproperties ↦ ?_
  · exact (behaviour_yields (h.properties p hp)).bind fun b hb ↦ .pure (by simpa using hb)
  refine .bind (P := AllCivil) (.mapM fun p hp ↦ ?_) fun attrs hattrs ↦ .pure ?_
  · exact (h.classAttrs p hp).bind fun v _ ↦ .pure (civil_value v)
  exact (((hspecials.append hdefault).append hitems).append hproperties).append hattrs

theorem fill_tame {spec : InstanceSpec} (h : spec.Tame) (c : Ref) (hasDict : Bool) :
    Tame (fill spec c hasDict) := by
  unfold fill
  extract_lets finish fillFrom
  have hfinish (body : Body) (hbody : ∀ d, body ≠ .classDef d) : Tame (finish body) := by
    refine .bind (P := fun _ ↦ True) ?_ fun attrs _ ↦ .get fun s _ ↦ ?_
    · exact (Yields.mapM (Q := fun _ ↦ True) fun p hp ↦ (h.attrs p hp).bind fun v _ ↦
        .pure trivial).tame
    extract_lets isSlot inDict make
    have hmake (dictRef : Option Ref) : Tame (make dictRef) := Tame.alloc hbody
    exact .ite ((newAttrs_tame _).bind fun _ _ ↦ hmake _) (hmake _)
  have hfillFrom (init : Option Value) : Tame (fillFrom init) := by
    simp only [fillFrom]
    split
    · exact hfinish _ (by simp)
    · exact (content_yields _ _).bind hfinish
  split
  · exact hfillFrom _
  next r hr => exact (h.init r hr).bind fun _ _ ↦ hfillFrom _

theorem declareLate_remakes {d : ClassDef} (hd : AllCivil d.entries) (c : Ref)
    {late : Option Recipe} (h : ∀ r, late = some r → Eval.Tame r) :
    Remakes c (declareLate d c late) := by
  unfold declareLate
  split
  · exact .of_tame (.pure trivial)
  next r =>
    refine .bind (.of_tame (h r rfl)) fun v ↦ .set ?_
    rintro _ ⟨⟩
    exact (hd.filter _).append (by simp [AllCivil])

theorem instance_tame {spec : InstanceSpec} (h : spec.Tame) : Tame (instance_ spec) := by
  refine (lineage_tame spec).bind fun chain _ ↦ (declared_tame h).bind fun declared _ ↦ ?_
  extract_lets fixed
  refine (ownEntries_yields h).bind fun own hown ↦ ?_
  extract_lets own' tail d
  have hd : AllCivil d.entries :=
    (hown.append (slotEntries_civil declared)).append ((classTail_civil _ _ _).filter _)
  refine Tame.alloc_bind ?_ fun c ↦ .bind (.of_tame (fill_tame h c _)) fun o ↦
    .bind (declareLate_remakes hd c h.lateSlots) fun _ ↦ .of_tame (.pure trivial)
  rintro _ ⟨⟩
  exact hd

end Recipe

end VariableExplorer
