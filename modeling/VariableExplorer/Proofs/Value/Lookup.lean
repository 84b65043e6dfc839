import VariableExplorer.Proofs.Kernel.Namespace
import VariableExplorer.Proofs.Value.Settled

/-!
What is found of a value by an attribute, where its classes leave the lookup to the value itself:
its class, its own attributes, its slots and what native classes define for it.
-/

namespace VariableExplorer

open Eval

namespace Store

variable {s t : Store} {v w : Value} {vars : List (String × Value)} {name : String} {f : Found}

def dict? (s : Store) (v : Value) : Option Ref := (s.object? v).bind (·.attrs)

def Owns (s : Store) (v : Value) (vars : List (String × Value)) : Prop :=
  (s.dict? v).elim (vars = []) (s.Binds · vars)

theorem Binds.lookup {r : Ref} (h : s.Binds r vars) (hw : (name, w) ∈ vars) :
    vars.lookup name = some w := by
  obtain ⟨before, after, rfl⟩ := List.append_of_mem hw
  have hnodup := h.nodup
  rw [List.map_append, List.nodup_append] at hnodup
  refine List.lookup_eq_some_iff.mpr ⟨before, after, rfl, fun e he ↦ ?_⟩
  have hne := hnodup.2.2 e.1 (List.mem_map_of_mem he) name (by simp)
  simpa using Ne.symm hne

theorem Owns.cases (h : s.Owns v vars) :
    s.dict? v = none ∧ vars = [] ∨ ∃ r, s.dict? v = some r ∧ s.Binds r vars := by
  unfold Owns at h
  cases hd : s.dict? v with
  | none =>
    rw [hd] at h
    exact .inl ⟨rfl, h⟩
  | some r =>
    rw [hd] at h
    exact .inr ⟨r, rfl, h⟩

theorem Owns.attributes (h : s.Owns v vars) : s.attributes v = vars.map asEntry := by
  change (s.dict? v).elim [] s.entries = _
  obtain ⟨hd, rfl⟩ | ⟨r, hd, hvars⟩ := h.cases
  · rw [hd]
    rfl
  · rw [hd]
    exact hvars.dict.entries

theorem Owns.lookup (h : s.Owns v vars) (name : String) :
    s.lookup? (.str name) (s.attributes v) = vars.lookup name := by
  rw [h.attributes, lookup?_asEntry]

theorem Owns.nodup (h : s.Owns v vars) : (vars.map (·.1)).Nodup := by
  obtain ⟨-, rfl⟩ | ⟨r, -, hvars⟩ := h.cases
  · exact .nil
  · exact hvars.nodup

theorem Owns.lookup_of_mem (h : s.Owns v vars) (hw : (name, w) ∈ vars) :
    vars.lookup name = some w := by
  obtain ⟨-, rfl⟩ | ⟨r, -, hvars⟩ := h.cases
  · cases hw
  · exact hvars.lookup hw

/-- A value that is no class and has these attributes. -/
structure Instance (s : Store) (v : Value) (vars : List (String × Value)) : Prop
    extends s.Settled v where
  noClass : s.asClass? v = none
  owns : s.Owns v vars

/-- A value that names the class that it is of. -/
structure Candid (s : Store) (v : Value) : Prop extends s.Settled v where
  itself : Gives s (getAttr v "__class__") (s.classOf v).toValue

/-- A value that is no class, whose class tells what it is, and that has these attributes. -/
structure Ordinary (s : Store) (v : Value) (vars : List (String × Value)) : Prop
    extends s.Settled v where
  noClass : s.asClass? v = none
  tells : ∃ owner, s.found? (s.classOf v) "__class__" = some (.native owner .computed)
  owns : s.Owns v vars

end Store

namespace Eval

variable {s t : Store} {v w : Value} {name : String} {f : Found}

theorem getAttr?_of_getAttr (h : (getAttr v name).run s = (.ok w, t)) :
    (getAttr? v name).run s = (.ok (some w), t) := by
  refine run_tryCatch_of_ok ?_
  rw [run_bind_of_ok h]
  rfl

theorem getAttr_of_getAttr? (h : (getAttr? v name).run s = (.ok (some w), t)) :
    (getAttr v name).run s = (.ok w, t) := by
  rcases hrun : (getAttr v name).run s with ⟨result, u⟩
  cases result with
  | ok w' =>
    rw [getAttr?_of_getAttr hrun] at h
    cases h
    rfl
  | error f =>
    rw [getAttr?, run_tryCatch_of_error (run_bind_of_error hrun)] at h
    split at h <;> cases h

theorem plainAttr_of_data (hf : s.found? (s.classOf v) name = some f) (hdata : f.isData = true) :
    (plainAttr v name).run s = (Eval.bind v name f).run s := by
  rw [plainAttr, run_get_bind]
  simp only [hf, hdata, if_true]

theorem plainAttr_of_own (hf : ∀ f, s.found? (s.classOf v) name = some f → f.isData = false)
    (hw : s.lookup? (.str name) (s.attributes v) = some w) :
    (plainAttr v name).run s = (.ok w, s) := by
  rw [plainAttr, run_get_bind]
  cases hfound : s.found? (s.classOf v) name with
  | none =>
    simp only [plainAttr.ofOwn, hw]
    rfl
  | some f =>
    simp only [hf f hfound, Bool.false_eq_true, if_false, plainAttr.ofOwn, hw]
    rfl

theorem plainAttr_of_class (hf : s.found? (s.classOf v) name = some f) (hdata : f.isData = false)
    (hown : s.lookup? (.str name) (s.attributes v) = none) :
    (plainAttr v name).run s = (Eval.bind v name f).run s := by
  rw [plainAttr, run_get_bind]
  simp only [hf, hdata, Bool.false_eq_true, if_false, plainAttr.ofOwn, hown]

theorem newMethod_run (v : Value) (name : String) (s : Store) : ∃ r r' t,
    (newFunction name >>= newMethod v).run s = (.ok (.ref r), t) ∧ s.Keeps t ∧
    t.body (.ref r) = .method v (.ref r') ∧ t.body (.ref r') = .function name name := by
  let s₁ := (s.alloc ⟨.native "dict", .dict [], none, []⟩).1
  let s₂ := (s₁.alloc ⟨.native "function", .function name name, some s.objects.size, []⟩).1
  let s₃ := (s₂.alloc ⟨.native "method", .method v (.ref s₁.objects.size), none, []⟩).1
  have hfunction : s₂.get? s₁.objects.size =
      some ⟨.native "function", .function name name, some s.objects.size, []⟩ := by
    rw [Store.get?_alloc, if_pos rfl]
  have hkept := s₂.keeps_alloc ⟨.native "method", .method v (.ref s₁.objects.size), none, []⟩
    _ _ hfunction
  have hmethod : s₃.get? s₂.objects.size =
      some ⟨.native "method", .method v (.ref s₁.objects.size), none, []⟩ := by
    rw [Store.get?_alloc, if_pos rfl]
  refine ⟨s₂.objects.size, s₁.objects.size, s₃, rfl,
    ((s.keeps_alloc _).trans (s₁.keeps_alloc _)).trans (s₂.keeps_alloc _), ?_, ?_⟩
  · simp only [Store.body, hmethod]
  · simp only [Store.body, s₃, hkept]

end Eval

namespace Store.Candid

variable {s t : Store} {v : Value}

theorem keeps (h : s.Candid v) (hk : s.Keeps t) : t.Candid v :=
  ⟨h.toSettled.keeps hk, by rw [h.classOf_eq hk]; exact h.itself.keeps hk⟩

section

variable (h : s.Candid v)

include h

theorem asClass?_classOf : s.asClass? (s.classOf v).toValue = some (s.classOf v) := by
  have hclass := h.classes
  cases hc : s.classOf v with
  | native n => rfl
  | made r =>
    rw [hc] at hclass
    simp only [ClassRef.toValue, asClass?, hclass r (by simp [lineage]), if_true]

theorem isMapping_gives : Gives s (isMapping v) (s.isKind v mappingKinds) := by
  refine h.itself.bind (.get fun t ht ↦ ?_)
  rw [← h.isKind_eq ht, ← h.classOf_eq ht]
  simp only [(h.keeps ht).asClass?_classOf, isKind, Bool.or_self]
  exact .pure _ _

theorem isOf_gives (name : String) : Gives s (isOf v name) (s.isKind v [name]) := by
  refine .get fun t ht ↦ ?_
  rw [← h.isKind_eq ht]
  split
  next hkind =>
    rw [hkind]
    exact .pure _ _
  · refine Gives.bind (a := some (t.classOf v).toValue) (.tryCatch
      ((h.keeps ht).itself.bind (.pure _ _))) (.get fun u hu ↦ ?_)
    have hcandid := h.keeps (ht.trans hu)
    rw [← (h.keeps ht).isKind_eq hu, ← (h.keeps ht).classOf_eq hu]
    simp only [hcandid.asClass?_classOf, Option.any_some]
    exact .pure _ _

theorem isInstance_gives (names : List String) :
    Gives s (isInstance v names) (names.any fun name ↦ s.isKind v [name]) := by
  induction names with
  | nil => exact .pure _ _
  | cons name names ih =>
    refine (h.isOf_gives name).bind ?_
    rw [List.any_cons]
    cases s.isKind v [name] with
    | true => exact .pure _ _
    | false => exact ih

end

end Store.Candid

namespace Eval

theorem isInstance_run_of_none {names : List String}
    (h : ∀ name ∈ names, (isOf v name).run s = (.ok false, s)) :
    (isInstance v names).run s = (.ok false, s) := by
  induction names with
  | nil => rfl
  | cons name names ih =>
    obtain ⟨hname, hnames⟩ := List.forall_mem_cons.mp h
    rw [isInstance, run_bind_of_ok hname]
    exact ih hnames

end Eval

namespace Store.Instance

variable {s t u : Store} {v w : Value} {vars : List (String × Value)} {name : String}

theorem keeps (h : s.Instance v vars) (hk : s.Keeps t) : t.Instance v vars := by
  have hdict : t.dict? v = s.dict? v := by rw [dict?, h.object?_eq hk, dict?]
  refine ⟨h.toSettled.keeps hk, by rw [h.asClass?_eq hk, h.noClass], ?_⟩
  have howns := h.owns
  unfold Owns at howns ⊢
  rw [hdict]
  cases hd : s.dict? v with
  | none => rwa [hd] at howns
  | some r =>
    rw [hd] at howns
    exact howns.keeps hk

theorem getAttr_of_plainAttr (h : s.Instance v vars)
    (hw : (plainAttr v name).run s = (.ok w, t)) : (getAttr v name).run s = (.ok w, t) := by
  rw [getAttr, run_get_bind]
  simp only [h.noClass]
  split
  · exact run_tryCatch_of_ok hw
  · exact hw

theorem getAttr_own (h : s.Instance v vars) (hw : vars.lookup name = some w)
    (hf : ∀ f, s.found? (s.classOf v) name = some f → f.isData = false) :
    Gives s (getAttr v name) w := by
  refine .of_run fun t ht ↦ (h.keeps ht).getAttr_of_plainAttr (plainAttr_of_own ?_ ?_)
  · rw [h.found?_eq ht]
    exact hf
  · rw [(h.keeps ht).owns.lookup, hw]

theorem plainAttr_slot {owner : String} (h : s.Instance v vars)
    (hf : s.found? (s.classOf v) name = some (.made owner .slot)) (ht : s.Keeps t) :
    (plainAttr v name).run t = (Eval.bind v name (.made owner .slot)).run t :=
  plainAttr_of_data (by rw [h.found?_eq ht, hf]) rfl

theorem getAttr_filled {owner : String} (h : s.Instance v vars)
    (hf : s.found? (s.classOf v) name = some (.made owner .slot))
    (hslot : (s.object? v).bind (·.slots.lookup name) = some w) : Gives s (getAttr v name) w := by
  refine .of_run fun t ht ↦ (h.keeps ht).getAttr_of_plainAttr ?_
  rw [h.plainAttr_slot hf ht, Eval.bind, run_get_bind, h.object?_eq ht]
  simp only [hslot]
  rfl

theorem getAttr_slot {owner : String} (h : s.Instance v vars)
    (hf : s.found? (s.classOf v) name = some (.made owner .slot)) (hk : s.Keeps t)
    (hw : (getAttr v name).run t = (.ok w, u)) : Gives s (getAttr v name) w := by
  cases hslot : (s.object? v).bind (·.slots.lookup name) with
  | some w' =>
    have hgives := h.getAttr_filled hf hslot
    rwa [hgives.eq hk hw]
  | none =>
    have hfail (t : Store) (ht : s.Keeps t) :
        (plainAttr v name).run t = (.error (.noAttribute (t.kindFullName v) name), t) := by
      rw [h.plainAttr_slot hf ht, Eval.bind, run_get_bind, h.object?_eq ht]
      simp only [hslot]
      rfl
    -- the class may answer for a slot that is not filled
    by_cases hb : ∃ b, s.ofMade? (s.classOf v) "__getattr__" = some (.special b)
    · obtain ⟨b, hb⟩ := hb
      have hrun (t : Store) (ht : s.Keeps t) :
          (getAttr v name).run t = (ofExcept b : Eval Value).run t := by
        rw [getAttr, run_get_bind]
        simp only [(h.keeps ht).noClass, h.ofMade?_eq ht, hb]
        rw [run_tryCatch_of_error (hfail t ht)]
        rfl
      rw [hrun t hk] at hw
      cases b with
      | error f => cases hw
      | ok w' =>
        cases hw
        exact .of_run hrun
    · rw [getAttr, run_get_bind] at hw
      simp only [(h.keeps hk).noClass, h.ofMade?_eq hk] at hw
      split at hw
      next b hsome => exact absurd ⟨b, hsome⟩ hb
      · rw [hfail t hk] at hw
        cases hw

end Store.Instance

namespace Store.Ordinary

variable {s t : Store} {v w : Value} {vars : List (String × Value)} {name : String}

theorem toInstance (h : s.Ordinary v vars) : s.Instance v vars := ⟨h.toSettled, h.noClass, h.owns⟩

theorem keeps (h : s.Ordinary v vars) (hk : s.Keeps t) : t.Ordinary v vars := by
  obtain ⟨hsettled, hclass, howns⟩ := h.toInstance.keeps hk
  refine ⟨hsettled, hclass, ?_, howns⟩
  rw [h.found?_eq hk]
  exact h.tells

section

variable (h : s.Ordinary v vars)

include h

theorem getAttr_class : (getAttr v "__class__").run s = (.ok (s.classOf v).toValue, s) := by
  obtain ⟨owner, hfound⟩ := h.tells
  refine h.toInstance.getAttr_of_plainAttr ?_
  rw [plainAttr_of_data hfound rfl]
  rfl

theorem candid : s.Candid v :=
  ⟨h.toSettled, fun t ht ↦ ⟨t, by rw [(h.keeps ht).getAttr_class, h.classOf_eq ht], .refl t⟩⟩

end

end Store.Ordinary

end VariableExplorer
