import Mathlib.Data.List.Forall2
import VariableExplorer.Proofs.Value.Lookup

/-!
What a class holds and what it gives out under its names.
-/

namespace VariableExplorer

open Eval

namespace Store

structure IsClass (s : Store) (v : Value) (c : ClassRef) : Prop where
  asClass? : s.asClass? v = some c
  classOf : s.classOf v = .native "type"

/-- What a class holds itself, under its names. -/
def declared (s : Store) : ClassRef → List (String × Found)
  | .native n =>
    ((NativeClass.find? n).elim [] (·.entries)).map fun (name, e) ↦ (name, .native n e)
  | .made r => (s.classDef? (.made r)).elim [] fun d ↦ d.entries.map fun (name, e) ↦
      (name, .made d.name e)

end Store

namespace Found

def owner : Found → String
  | made owner _ | native owner _ => owner

/-- Whether a class gives it out as it holds it, with nothing made for the purpose. -/
def isStill : Found → Bool
  | made _ (.value _) | made _ .slot => true
  | made _ _ => false
  | native _ .defined | native _ .classMethod => false
  | native _ _ => true

end Found

namespace Eval

variable {s t u : Store} {c : ClassRef} {f : Found} {name : String}

theorem stored_run (hf : f.isStill = true) :
    ∃ w, ∀ t, (stored f.owner name f).run t = (.ok w, t) := by
  cases f with
  | made owner e =>
    cases e with
    | value v => exact ⟨v, fun t ↦ rfl⟩
    | slot => exact ⟨.descriptor owner name .member, fun t ↦ rfl⟩
    | property | special | table => cases hf
  | native owner e =>
    cases e with
    | text content => exact ⟨.str content, fun t ↦ rfl⟩
    | nothing => exact ⟨.none, fun t ↦ rfl⟩
    | classMethod | defined => cases hf
    | _ => exact ⟨.descriptor owner name _, fun t ↦ rfl⟩

theorem exists_of_forall₂ {α β : Type} {R : α → β → Prop} {as : List α} {bs : List β} {b : β}
    (h : List.Forall₂ R as bs) (hb : b ∈ bs) : ∃ a ∈ as, R a b := by
  induction h with
  | nil => cases hb
  | @cons a _ as _ hR _ ih =>
    obtain rfl | hb := List.mem_cons.mp hb
    · exact ⟨a, List.mem_cons_self, hR⟩
    · obtain ⟨a', ha', hR'⟩ := ih hb
      exact ⟨a', List.mem_cons_of_mem a ha', hR'⟩

theorem run_mapM_of_ok {α β : Type} {R : α → β → Prop} {f : α → Eval β} {as : List α}
    (h : ∀ a ∈ as, ∀ u, ∃ b u', (f a).run u = (.ok b, u') ∧ R a b) (s : Store) :
    ∃ bs t, (as.mapM f).run s = (.ok bs, t) ∧ List.Forall₂ R as bs := by
  induction as generalizing s with
  | nil => exact ⟨[], s, rfl, .nil⟩
  | cons a as ih =>
    obtain ⟨ha, has⟩ := List.forall_mem_cons.mp h
    obtain ⟨b, u, hb, hR⟩ := ha s
    obtain ⟨bs, t, hbs, hall⟩ := ih has u
    refine ⟨b :: bs, t, ?_, .cons hR hall⟩
    rw [List.mapM_cons, run_bind_of_ok hb, run_bind_of_ok hbs]
    rfl

theorem exists_stored_run (owner name : String) (f : Found) (s : Store) :
    ∃ w t, (stored owner name f).run s = (.ok w, t) := by
  cases f with
  | made _ e => cases e <;> exact ⟨_, _, rfl⟩
  | native _ e => cases e <;> exact ⟨_, _, rfl⟩

def GivesOut (d : String × Found) (e : Value × Value) : Prop :=
  e.1 = .str d.1 ∧ ∃ u u', (stored d.2.owner d.1 d.2).run u = (.ok e.2, u')

theorem classEntries_run (c : ClassRef) (s : Store) : ∃ es t,
    (classEntries c).run s = (.ok es, t) ∧ List.Forall₂ GivesOut (s.declared c) es := by
  have hentry (owner name : String) (f : Found) (hf : f.owner = owner) (u : Store) : ∃ b u',
      (do return (Value.str name, ← stored owner name f) : Eval (Value × Value)).run u =
        (.ok b, u') ∧ GivesOut (name, f) b := by
    obtain ⟨w, u', hw⟩ := exists_stored_run owner name f u
    exact ⟨_, u', (run_bind_of_ok hw).trans rfl, rfl, u, u', hf ▸ hw⟩
  rw [classEntries, run_get_bind]
  cases c with
  | native n =>
    rw [Store.declared]
    simp only [List.forall₂_map_left_iff]
    exact run_mapM_of_ok (fun e _ ↦ hentry n e.1 (.native n e.2) rfl) s
  | made r =>
    rw [Store.declared]
    cases hd : s.classDef? (.made r) with
    | none => exact ⟨[], s, rfl, .nil⟩
    | some d =>
      simp only [Option.elim_some, List.forall₂_map_left_iff]
      exact run_mapM_of_ok (fun e _ ↦ hentry d.name e.1 (.made d.name e.2) rfl) s

end Eval

theorem lookup_map {α β : Type} (g : α → β) (name : String) (as : List (String × α)) :
    (as.map fun (n, a) ↦ (n, g a)).lookup name = (as.lookup name).map g := by
  induction as with
  | nil => rfl
  | cons e as ih =>
    obtain ⟨n, a⟩ := e
    rw [List.map_cons, List.lookup_cons, List.lookup_cons, ih]
    split <;> rfl

namespace Store.IsClass

variable {s t u : Store} {v w : Value} {c : ClassRef} {f : Found} {name : String}

theorem found?_declared (h : (s.declared c).lookup name = some f) : s.found? c name = some f := by
  cases c with
  | native n =>
    rw [declared, lookup_map] at h
    rw [found?, lineage, List.findSome?_cons]
    cases hn : NativeClass.find? n with
    | none =>
      rw [hn] at h
      cases h
    | some d =>
      rw [hn] at h
      simp only [hn, Option.bind_some]
      rw [show (d.entries.lookup name).map (Found.native n) = some f from h]
  | made r =>
    rw [found?, lineage, List.findSome?_cons]
    cases hd : s.classDef? (.made r) with
    | none =>
      rw [declared, hd] at h
      cases h
    | some d =>
      rw [declared, hd] at h
      simp only [Option.bind_some]
      rw [show (d.entries.lookup name).map (Found.made d.name) = some f from
        (lookup_map _ _ _).symm.trans h]

variable (h : s.IsClass v c)

include h

theorem toValue : c.toValue = v := by
  have hc := h.asClass?
  cases v with
  | native name =>
    cases hc
    rfl
  | ref r =>
    simp only [Store.asClass?] at hc
    split at hc
    · cases hc
      rfl
    · cases hc
  | _ => cases hc

theorem settled : s.Settled v := by
  refine ⟨fun r hr ↦ ?_, fun r hr ↦ ?_⟩
  · have hc := h.asClass?
    subst hr
    cases hget : s.get? r with
    | some o => rfl
    | none => simp [Store.asClass?, Store.classDef?, hget] at hc
  · rw [h.classOf] at hr
    simp [lineage] at hr

theorem keeps (hk : s.Keeps t) : t.IsClass v c :=
  ⟨by rw [h.settled.asClass?_eq hk, h.asClass?], by rw [h.settled.classOf_eq hk, h.classOf]⟩

theorem getAttr_run (name : String) : (getAttr v name).run s = (classAttr c name).run s := by
  rw [getAttr, run_get_bind]
  simp only [h.asClass?]

theorem candid : s.Candid v := by
  refine ⟨h.settled, .of_run fun t ht ↦ ?_⟩
  have hgeneral : t.found? (.native "type") "__class__" = some (.native "object" .computed) := rfl
  rw [(h.keeps ht).getAttr_run, classAttr, run_get_bind]
  simp only [hgeneral, Found.isData, if_true, classAttr.ofGeneral]
  rw [h.toValue, h.settled.classOf_eq ht]
  rfl

theorem declared_eq (hk : s.Keeps t) : t.declared c = s.declared c := by
  cases c with
  | native n => rfl
  | made r =>
    have hv := h.asClass?
    rw [← h.toValue] at hv
    simp only [ClassRef.toValue, Store.asClass?] at hv
    split at hv
    next hd =>
      obtain ⟨d, hd⟩ := Option.isSome_iff_exists.mp hd
      rw [declared, declared, hd, hk.classDef? hd]
    · cases hv

theorem found?_type_eq (hk : s.Keeps t) (name : String) :
    t.found? (.native "type") name = s.found? (.native "type") name := by
  have hfound := h.settled.found?_eq hk name
  rwa [(h.keeps hk).classOf, h.classOf] at hfound

/-- What a class holds itself is read unless what all classes compute has that name. -/
theorem getAttr_declared (hf : (s.declared c).lookup name = some f) (hstill : f.isStill = true)
    (htype : ∀ g, s.found? (.native "type") name = some g → g.isData = false)
    (hw : (stored f.owner name f).run t = (.ok w, u)) : Gives s (getAttr v name) w := by
  obtain ⟨w', hstored⟩ : ∃ w', ∀ t, (stored f.owner name f).run t = (.ok w', t) :=
    stored_run hstill
  rw [hstored] at hw
  cases hw
  refine .of_run fun t ht ↦ ?_
  have hfound := found?_declared ((h.declared_eq ht).symm ▸ hf)
  have hown (general : Option Found) :
      (classAttr.ofOwn c name t general).run t = (.ok w, t) := by
    simp only [classAttr.ofOwn, hfound]
    cases f with
    | made owner e => exact hstored t
    | native owner e =>
      cases e with
      | classMethod => cases hstill
      | _ => exact hstored t
  rw [(h.keeps ht).getAttr_run, classAttr, run_get_bind, h.found?_type_eq ht]
  cases hg : s.found? (.native "type") name with
  | none => exact hown none
  | some g =>
    simp only [htype g hg, Bool.false_eq_true, if_false]
    exact hown (some g)

end Store.IsClass

end VariableExplorer
