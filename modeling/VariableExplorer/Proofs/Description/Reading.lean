import VariableExplorer.Description.Describe
import VariableExplorer.Proofs.Value.Reading

/-!
Listing the members of a value, summarising it and describing it are tame.
-/

namespace VariableExplorer

open Eval

namespace Child

def AllTame (ms : List (Eval (Option Child))) : Prop := ∀ m ∈ ms, Tame m

theorem AllTame.map {α : Type} {f : α → Eval (Option Child)} (h : ∀ a, Tame (f a))
    (as : List α) : AllTame (as.map f) := by
  intro m hm
  obtain ⟨a, -, rfl⟩ := List.mem_map.mp hm
  exact h a

/-! ### Members read in turn -/

section

variable {s t u : Store} {m : Eval (Option Child)} {ms : List (Eval (Option Child))}
  {found : Option Child} {cs : List Child} {f : Fault}

theorem readAll_cons_of_ok {fault : Option Fault} (hm : m.run s = (.ok found, t))
    (hms : (readAll ms).run t = (.ok (cs, fault), u)) :
    (readAll (m :: ms)).run s = (.ok (found.toList ++ cs, fault), u) := by
  rw [readAll, run_bind_of_ok (run_tryCatch_of_ok (run_map_of_ok hm))]
  exact (run_bind_of_ok hms).trans rfl

theorem readAll_cons_of_error (hm : m.run s = (.error f, t)) (ms : List (Eval (Option Child))) :
    (readAll (m :: ms)).run s = (.ok ([], some f), t) := by
  rw [readAll, run_bind_of_ok ((run_tryCatch_of_error (run_map_of_error hm)).trans rfl)]
  rfl

theorem readAll_cons_eq_ok (h : (readAll (m :: ms)).run s = (.ok (cs, none), u)) :
    ∃ found t cs', m.run s = (.ok found, t) ∧ (readAll ms).run t = (.ok (cs', none), u) ∧
      cs = found.toList ++ cs' := by
  rcases hm : m.run s with ⟨f | found, t⟩
  · rw [readAll_cons_of_error hm] at h
    cases h
  · rw [readAll, run_bind_of_ok (run_tryCatch_of_ok (run_map_of_ok hm))] at h
    obtain ⟨⟨cs', fault⟩, v, hms, h⟩ := run_bind_eq_ok h
    cases h
    exact ⟨found, t, cs', rfl, hms, rfl⟩

theorem readAll_append_of_ok {ms' : List (Eval (Option Child))} {cs' : List Child}
    {fault : Option Fault} (hms : (readAll ms).run s = (.ok (cs, none), t))
    (hms' : (readAll ms').run t = (.ok (cs', fault), u)) :
    (readAll (ms ++ ms')).run s = (.ok (cs ++ cs', fault), u) := by
  induction ms generalizing s cs with
  | nil =>
    cases hms
    exact hms'
  | cons m ms ih =>
    obtain ⟨found, v, cs, hfound, hrest, rfl⟩ := readAll_cons_eq_ok hms
    rw [List.append_assoc]
    exact readAll_cons_of_ok hfound (ih hrest)

end

/-! ### Listing members is tame -/

theorem entriesBy_tame (v : Value) (operation : String) : Tame (entriesBy v operation) := by
  refine (Tame.getAttr v operation).bind fun m _ ↦ .get fun s _ ↦ ?_
  have hfail : Tame (if s.isCallable m then MonadExcept.throw (.notIterable "NoneType")
      else MonadExcept.throw (.notCallable (s.kindFullName m)) :
      Eval (List (Value × Value))) := by
    split <;> exact .fail trivial
  have hgiven (bearer : Value) {fail : Eval (List (Value × Value))} (h : Tame fail) :
      Tame (entriesBy.given s bearer fail) := by
    unfold entriesBy.given
    split
    · exact .pure trivial
    · exact h
  dsimp only
  split
  · split
    · exact hgiven _ hfail
    · exact hfail
  · split
    · split
      · split
        · exact hgiven _ hfail
        · exact hfail
      · exact hfail
    · exact hfail
  · exact hfail

theorem ofEntry_tame (expression : String) (k v : Value) : Tame (ofEntry expression k v) := by
  refine (Tame.isInstance k _).bind fun b _ ↦ ?_
  split
  · exact (Tame.plain k).bind fun _ _ ↦ .pure trivial
  · exact (Tame.shown k).bind fun _ _ ↦ .pure trivial

theorem ofColumn_tame (v : Value) (expression : String) (c : Value) :
    Tame (ofColumn v expression c) :=
  (Tame.plain c).bind fun _ _ ↦ (Tame.getItem v c).bind fun _ _ ↦ .pure trivial

theorem slots_tame (v : Value) : Tame (slots v) := by
  refine .get fun s _ ↦ .bind (P := fun _ ↦ True) (.tryCatch
    ((Tame.classAttr _ _).bind fun _ _ ↦ .pure trivial) fun f hf ↦ ?_) fun declared _ ↦ ?_
  · split
    · exact .pure trivial
    · exact .throw hf
  · split
    · exact .pure trivial
    · refine (Tame.isInstance _ _).bind fun b _ ↦ ?_
      split
      · exact .pure trivial
      · exact Tame.elements _

theorem slots_run_of_missing {s : Store} {v : Value}
    (h : s.found? (s.classOf v) "__slots__" = none) : (slots v).run s = (.ok [], s) := by
  have htype : s.found? (.native "type") "__slots__" = none := rfl
  have hattr : (classAttr (s.classOf v) "__slots__").run s =
      (.error (.classNoAttribute (s.className (s.classOf v)) "__slots__"), s) := by
    rw [classAttr, run_get_bind]
    simp only [htype, classAttr.ofOwn, h]
    rfl
  rw [slots, run_get_bind, run_bind_of_ok (a := none) (t := s)]
  · rfl
  · rw [run_tryCatch_of_error (run_bind_of_error hattr)]
    rfl

theorem ofSlot_tame (v : Value) (expression : String) (attrs : List (Value × Value))
    (slot : Value) : Tame (ofSlot v expression attrs slot) := by
  refine (Tame.checkKey slot).bind fun _ _ ↦ .get fun s _ ↦ ?_
  split
  · exact .pure trivial
  split
  · refine (Tame.getAttr? v _).bind fun w _ ↦ ?_
    split <;> exact .pure trivial
  · exact .fail trivial

theorem ofObject_yields (v : Value) (expression : String) :
    Yields AllTame (ofObject v expression) := by
  refine .bind (P := fun _ ↦ True) (.tryCatch
    ((Tame.vars v).bind fun _ _ ↦ .pure trivial) fun f hf ↦ ?_) fun attrs _ ↦ ?_
  · split
    · exact .pure trivial
    · exact .throw hf
  extract_lets rest
  have hrest (entries : List (Value × Value)) : Yields AllTame (rest entries) := by
    refine .bind (P := AllTame) (.tryCatch ((slots_tame v).bind fun vs _ ↦ .pure ?_)
      fun f hf ↦ .pure ?_) fun declared hdeclared ↦ .pure ?_
    · exact .map (ofSlot_tame v expression entries) vs
    · intro m hm
      rw [List.mem_singleton.mp hm]
      exact .throw hf
    · intro m hm
      rcases List.mem_append.mp hm with hm | hm
      · obtain ⟨e, -, rfl⟩ := List.mem_map.mp hm
        exact (Tame.plain _).bind fun _ _ ↦ .pure trivial
      · exact hdeclared m hm
  split
  · exact (entriesBy_tame _ _).bind fun entries _ ↦ hrest entries
  · rw [pure_bind]
    exact hrest []

theorem members_yields (v : Value) (expression : String) :
    Yields AllTame (members v expression) := by
  refine (Tame.isMapping v).bind fun b _ ↦ ?_
  split
  · exact (entriesBy_tame v _).bind fun entries _ ↦ .pure (.map (fun _ ↦ ofEntry_tame _ _ _) _)
  refine (Tame.getAttr? v _).bind fun columns _ ↦ ?_
  extract_lets rest
  have hrest (isTable : Bool) : Yields AllTame (rest isTable) := by
    dsimp only [rest]
    split
    · exact (Tame.elements _).bind fun _ _ ↦ .pure (.map (ofColumn_tame v expression) _)
    refine (Tame.isInstance v _).bind fun b _ ↦ ?_
    split
    · refine (Tame.elements v).bind fun vs _ ↦ .pure fun m hm ↦ ?_
      obtain ⟨i, hi, rfl⟩ := List.mem_mapIdx.mp hm
      exact .pure trivial
    refine (Tame.isInstance v _).bind fun b _ ↦ ?_
    split
    · exact .pure (by simp [AllTame])
    · exact ofObject_yields v expression
  simp only [pure_bind]
  split
  · exact hrest false
  · exact hrest false
  · refine (Tame.isInstance v _).bind fun b _ ↦ ?_
    split
    · exact hrest false
    · exact (Tame.hasAttr v _).bind fun b _ ↦ hrest b

theorem first?_tame {ms : List (Eval (Option Child))} (h : AllTame ms) : Tame (first? ms) := by
  induction ms with
  | nil => exact .pure trivial
  | cons m ms ih =>
    obtain ⟨hm, hms⟩ := List.forall_mem_cons.mp h
    refine hm.bind fun c _ ↦ ?_
    split
    · exact .pure trivial
    · exact ih hms

end Child

namespace Summary

theorem sample_tame (limit : Int) (v : Value) : Tame (sample limit v) :=
  .handle ((Tame.shown v).bind fun _ _ ↦ .pure trivial) fun _ ↦ .get fun _ _ ↦ .pure trivial

theorem typeName_tame (v : Value) : Tame (typeName v) := by
  refine (Tame.isInstance v _).bind fun b _ ↦ ?_
  split
  · exact .pure trivial
  refine (Tame.isInstance v _).bind fun b _ ↦ ?_
  split
  · exact .pure trivial
  · exact .get fun _ _ ↦ .pure trivial

theorem dimensions_tame (v : Value) : Tame (dimensions v) := by
  refine .bind (P := fun _ ↦ True) (.handle (Tame.getAttr? v _) fun _ ↦ .pure trivial)
    fun shape _ ↦ ?_
  split
  · exact .pure trivial
  refine (Tame.isInstance _ _).bind fun b _ ↦ ?_
  split
  · refine (Tame.elements _).bind fun items _ ↦
      (Tame.allM (fun w ↦ Tame.isInstance w _) items).bind fun b _ ↦ ?_
    split <;> exact .pure trivial
  · exact .pure trivial

theorem ofText_tame (v : Value) : Tame (ofText v) := by
  refine (Tame.length v).bind fun n _ ↦ ?_
  split
  · exact (Tame.plain v).bind fun _ _ ↦ .pure trivial
  · exact (Tame.length v).bind fun _ _ ↦ (Tame.subscript v _).bind fun _ _ ↦
      (Tame.plain _).bind fun _ _ ↦ .pure trivial

theorem ofList_tame (v : Value) : Tame (ofList v) := by
  refine (Tame.isTrue v).bind fun b _ ↦ ?_
  split
  · exact .pure trivial
  · exact (Tame.length v).bind fun _ _ ↦ (Tame.getItem v _).bind fun _ _ ↦
      (sample_tame _ _).bind fun _ _ ↦ .pure trivial

theorem ofDict_tame (v : Value) : Tame (ofDict v) := by
  refine (Tame.isTrue v).bind fun b _ ↦ ?_
  split
  · exact .pure trivial
  · exact (Child.entriesBy_tame v _).bind fun _ _ ↦ (Tame.mapM Tame.shown _).bind fun _ _ ↦
      (Tame.length v).bind fun _ _ ↦ .pure trivial

theorem ofTuple_tame (v : Value) : Tame (ofTuple v) := by
  refine (Tame.length v).bind fun n _ ↦ ?_
  split
  · exact (Tame.shown v).bind fun _ _ ↦ .pure trivial
  · exact (Tame.length v).bind fun _ _ ↦ .pure trivial

theorem ofTable_tame (kind : String) (rows columns columnNames : Value) :
    Tame (ofTable kind rows columns columnNames) :=
  (Tame.elements _).bind fun _ _ ↦ (Tame.mapM Tame.plain _).bind fun _ _ ↦
    (Tame.length _).bind fun _ _ ↦ (Tame.plain _).bind fun _ _ ↦
      (Tame.plain _).bind fun _ _ ↦ .pure trivial

theorem ofArray_tame (kind : String) (v shape : Value) : Tame (ofArray kind v shape) := by
  refine (Tame.getAttr? v _).bind fun dtype _ ↦ (Tame.plain shape).bind fun _ _ ↦ ?_
  split
  · exact .pure trivial
  · exact .pure trivial
  · exact (Tame.plain _).bind fun _ _ ↦ .pure trivial

theorem ofOther_tame (kind : String) (v : Value) : Tame (ofOther kind v) := by
  refine (Tame.getAttr? v _).bind fun columns _ ↦ (dimensions_tame v).bind fun dims _ ↦ ?_
  split
  · exact ofArray_tame _ _ _
  · exact ofArray_tame _ _ _
  · split
    · exact ofTable_tame _ _ _ _
    · exact ofArray_tame _ _ _
  · refine .get fun s _ ↦ ?_
    split
    · exact .pure trivial
    refine (Tame.shown v).bind fun text _ ↦ ?_
    split
    · exact .pure trivial
    · exact (sample_tame _ v).bind fun _ _ ↦ .pure trivial

theorem read_tame (v : Value) : Tame (read v) := by
  refine .get fun s _ ↦ (Tame.isInstance v _).bind fun b _ ↦ ?_
  split
  · exact (Tame.plain v).bind fun _ _ ↦ .pure trivial
  refine (Tame.isInstance v _).bind fun b _ ↦ ?_
  split
  · exact ofText_tame v
  split
  · exact .pure trivial
  refine (Tame.isInstance v _).bind fun b _ ↦ ?_
  split
  · exact ofList_tame v
  refine (Tame.isInstance v _).bind fun b _ ↦ ?_
  split
  · exact ofDict_tame v
  refine (Tame.isInstance v _).bind fun b _ ↦ ?_
  split
  · exact (Tame.length v).bind fun _ _ ↦ .pure trivial
  refine (Tame.isInstance v _).bind fun b _ ↦ ?_
  split
  · exact ofTuple_tame v
  refine (Tame.isInstance v _).bind fun b _ ↦ ?_
  split
  · exact (Tame.getAttr v _).bind fun _ _ ↦ (Tame.plain _).bind fun _ _ ↦ .pure trivial
  · exact ofOther_tame _ v

end Summary

theorem summarise_tame (v : Value) : Tame (summarise v) :=
  .handle (Summary.read_tame v) fun _ ↦ .get fun _ _ ↦ .pure trivial

namespace Describe

theorem length_tame (v : Value) : Tame (length v) := by
  refine (Tame.isInstance v _).bind fun b _ ↦ ?_
  split
  · exact .pure trivial
  refine (Tame.hasAttr v _).bind fun b _ ↦ ?_
  split
  · exact .pure trivial
  · exact .handle ((Tame.length v).bind fun _ _ ↦ .pure trivial) fun _ ↦ .pure trivial

theorem attributeCount_tame (v : Value) : Tame (attributeCount v) :=
  .handle ((Tame.vars v).bind fun d _ ↦ Tame.length d) fun _ ↦ .pure trivial

theorem hasChildren_tame (v : Value) : Tame (hasChildren v) :=
  .handle ((Child.members_yields v _).bind fun _ h ↦ (Child.first?_tame h).bind fun _ _ ↦
    .pure trivial) fun _ ↦ .pure trivial

theorem flags_yields (name : String) (v : Value) :
    Yields (fun f ↦ f.hidden = isHiddenName name) (flags name v) := by
  refine (Tame.isInstance v _).bind fun b _ ↦ ?_
  split
  · exact .pure rfl
  refine (Tame.isMapping v).bind fun b _ ↦ ?_
  split
  · exact .pure rfl
  · exact (Tame.isInstance v _).bind fun _ _ ↦ .pure rfl

theorem flags_tame (name : String) (v : Value) : Tame (flags name v) := (flags_yields name v).tame

theorem asked_tame {α : Type} (r : Request) (p : Property) (default : α) {x : Eval α}
    (hx : Tame x) : Tame (asked r p default x) := by
  unfold asked
  split
  · exact hx
  · exact .pure trivial

end Describe

def Request.Fits (r : Request) (i : ValueInfo) : Prop :=
  i.name = r.name ∧ (r.properties.contains .expression = true → i.expression = r.expression)

open Describe in
theorem describe_yields_flags {P : Flags → Prop} (r : Request) (v : Value)
    (hP : Yields P (asked r .flags {} (flags r.name v))) :
    Yields (fun i ↦ r.Fits i ∧ P i.flags) (describe r v) := by
  have hsome {α β : Type} {f : α → β} {x : Eval α} (hx : Tame x) : Tame (f <$> x) :=
    hx.map fun _ _ ↦ trivial
  refine .transient <| .get fun s _ ↦
    (asked_tame r _ _ (hsome (Summary.typeName_tame v))).bind fun typeName _ ↦
    (asked_tame r _ _ (length_tame v)).bind fun length _ ↦
    (asked_tame r _ _ ((Child.slots_tame v).bind fun _ _ ↦ .pure trivial)).bind fun slotCount _ ↦
    (asked_tame r _ _ ((attributeCount_tame v).bind fun _ _ ↦ .pure trivial)).bind fun count _ ↦
    (asked_tame r _ _ ((Summary.dimensions_tame v).bind fun _ _ ↦
      .get fun _ _ ↦ .pure trivial)).bind fun dim _ ↦
    hP.bind fun flags hflags ↦
    (asked_tame r _ _ (hsome (hasChildren_tame v))).bind fun hasChildren _ ↦ ?_
  simp only [pure_bind]
  split
  · exact .pure ⟨⟨rfl, fun h ↦ if_pos h⟩, hflags⟩
  · exact (hsome (summarise_tame v)).bind fun _ _ ↦ .pure ⟨⟨rfl, fun h ↦ if_pos h⟩, hflags⟩
  · exact (hsome (Summary.sample_tame _ v)).bind fun _ _ ↦
      .pure ⟨⟨rfl, fun h ↦ if_pos h⟩, hflags⟩

theorem describe_yields (r : Request) (v : Value) : Yields r.Fits (describe r v) :=
  (describe_yields_flags r v (Describe.asked_tame _ _ _ (Describe.flags_tame _ v))).mono
    fun _ h ↦ h.1

theorem describe_hidden {r : Request} (hflags : r.properties.contains .flags = true) (v : Value) :
    Yields (fun i ↦ i.isHidden = isHiddenName i.name) (describe r v) := by
  refine (describe_yields_flags r v (P := fun f ↦ f.hidden = isHiddenName r.name) ?_).mono
    fun i hi ↦ hi.2.trans (congrArg isHiddenName hi.1.1.symm)
  rw [Describe.asked, if_pos hflags]
  exact Describe.flags_yields r.name v

end VariableExplorer
