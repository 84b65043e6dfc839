import VariableExplorer.Proofs.Description.Kinds
import VariableExplorer.Proofs.Description.Reading
import VariableExplorer.Proofs.Value.Declared

/-!
What is listed as the members of a value: each member comes from something that the value holds.
-/

namespace VariableExplorer

open Eval

namespace Child

inductive Source
  | entry (k w : Value)
  | column (label : Value)
  | element (i : Nat) (w : Value)
  | own (name : String) (w : Value)
  /-- What a class holds under a name, and what it gives out. -/
  | declared (name : String) (f : Found) (w : Value)
  /-- A declared slot, and the attributes that may hide it. -/
  | slot (attrs : List (Value × Value)) (name : Value)

def Source.read (v : Value) (e : String) : Source → Eval (Option Child)
  | entry k w => ofEntry e k w
  | column label => ofColumn v e label
  | element i w => return some (ofElement e i w)
  | own name w | declared name _ w => do
    return some (ofAttribute e (← Eval.plain (.str name)) w)
  | .slot attrs name => ofSlot v e attrs name

end Child

namespace Store

open Child

variable {s t u : Store} {v : Value} {vars : List (String × Value)} {e : String}
  {entries : List (Value × Value)} {ms : List (Eval (Option Child))}

/-- A value holds what a member of it comes from. -/
inductive Holds (s : Store) (v : Value) : Source → Prop
  | entry {vars : List (String × Value)} {entries : List (Value × Value)} {k w : Value} :
      s.Mapping v vars entries → (k, w) ∈ entries → Holds s v (.entry k w)
  | column {vars : List (String × Value)} {label : Value} :
      s.Table v vars → Holds s v (.column label)
  | element {vars : List (String × Value)} {items : List Value} {i : Nat} {w : Value} :
      s.Sequence v vars items → items[i]? = some w → Holds s v (.element i w)
  | own {vars : List (String × Value)} {name : String} {w : Value} :
      s.Object v vars → (name, w) ∈ vars → Holds s v (.own name w)
  | declared {c : ClassRef} {name : String} {f : Found} {w : Value} {t u : Store} :
      s.IsClass v c → (name, f) ∈ s.declared c →
      (stored f.owner name f).run t = (.ok w, u) → Holds s v (.declared name f w)
  | slot {vars : List (String × Value)} {name : Value} :
      s.Object v vars → Holds s v (.slot (vars.map asEntry) name)

/-- A value of one of the kinds that have members. -/
inductive Regular (s : Store) (v : Value) : Prop
  | mapping {vars : List (String × Value)} {entries : List (Value × Value)} :
      s.Mapping v vars entries → Regular s v
  | table {vars : List (String × Value)} : s.Table v vars → Regular s v
  | sequence {vars : List (String × Value)} {items : List Value} :
      s.Sequence v vars items → Regular s v
  | object {vars : List (String × Value)} : s.Object v vars → Regular s v
  | ofClass {c : ClassRef} : s.IsClass v c → s.Civil → Regular s v

/-- Each member is that of something the value holds, or else fails to be read. -/
def Lists (s : Store) (v : Value) (e : String) (ms : List (Eval (Option Child))) : Prop :=
  ∀ m ∈ ms, (∃ source, s.Holds v source ∧ m = source.read v e) ∨ ∃ f, m = throw f

/-! ### Mappings and tables -/

theorem Mapping.lists_members (h : s.Mapping v vars entries)
    (hrun : (members v e).run s = (.ok ms, t)) : s.Lists v e ms := by
  obtain ⟨u, hk, hrun⟩ := h.candid.isMapping_gives.rest (.refl s) hrun
  rw [h.kind, if_pos rfl] at hrun
  obtain ⟨u, hk, hrun⟩ := h.entriesBy_gives.rest hk hrun
  cases hrun
  intro m hm
  obtain ⟨⟨k, w⟩, hkw, rfl⟩ := List.mem_map.mp hm
  exact .inl ⟨.entry k w, .entry h hkw, rfl⟩

theorem Table.lists_members (h : s.Table v vars)
    (hrun : (members v e).run s = (.ok ms, t)) : s.Lists v e ms := by
  obtain ⟨c, hc, hcolumns⟩ := h.columns
  have hinstance : Gives s (isInstance v ["type"]) false := by
    simpa [h.noType] using h.candid.isInstance_gives ["type"]
  obtain ⟨u, hk, hrun⟩ := h.candid.isMapping_gives.rest (.refl s) hrun
  rw [h.noMapping, if_neg (by decide)] at hrun
  obtain ⟨u, hk, hrun⟩ := hcolumns.rest hk hrun
  dsimp only at hrun
  split at hrun
  · contradiction
  next heq => exact absurd (Option.some.inj heq) hc
  · obtain ⟨u, hk, hrun⟩ := hinstance.rest hk hrun
    rw [if_neg (by decide)] at hrun
    obtain ⟨u, hk, hrun⟩ := h.answers.rest hk hrun
    rw [if_pos rfl] at hrun
    obtain ⟨labels, u', -, hrun⟩ := run_bind_eq_ok hrun
    cases hrun
    intro m hm
    obtain ⟨label, -, rfl⟩ := List.mem_map.mp hm
    exact .inl ⟨.column label, .column h, rfl⟩

/-! ### Sequences, other objects and classes -/

def untabled (v : Value) (e : String) : Eval (List (Eval (Option Child))) := do
  if ← isInstance v ["list", "tuple"] then
    return (← elements v).mapIdx fun i w ↦ return some (ofElement e i w)
  else if ← isInstance v atomicKinds then return [] else ofObject v e

theorem Candid.untabled_run (h : s.Candid v) (hkind : s.isKind v mappingKinds = false)
    (hcolumns : s.Columnless v) (hrun : (members v e).run s = (.ok ms, t)) :
    ∃ u, s.Keeps u ∧ (untabled v e).run u = (.ok ms, t) := by
  obtain ⟨c, hc, hcolumns⟩ := hcolumns
  obtain ⟨u, hk, hrun⟩ := h.isMapping_gives.rest (.refl s) hrun
  rw [hkind, if_neg (by decide)] at hrun
  obtain ⟨u, hk, hrun⟩ := hcolumns.rest hk hrun
  obtain rfl | rfl := hc <;> exact ⟨u, hk, hrun⟩

theorem Sequence.elements_gives {items : List Value} (h : s.Sequence v vars items) :
    Gives s (elements v) items := by
  refine .of_run fun t ht ↦ ?_
  have hcontent : contentElements? t v = some items := by
    rw [contentElements?, h.body_eq ht]
    obtain hlist | htuple := h.content
    · rw [hlist]
    · rw [htuple]
  rw [elements, run_get_bind, hcontent]
  rfl

theorem Sequence.lists_members {items : List Value} (h : s.Sequence v vars items)
    (hrun : (Child.members v e).run s = (.ok ms, t)) : s.Lists v e ms := by
  obtain ⟨u, hk, hrun⟩ := h.candid.untabled_run h.noMapping h.columnless hrun
  obtain ⟨u, hk, hrun⟩ := (h.candid.isInstance_gives _).rest hk hrun
  rw [show (["list", "tuple"].any fun name ↦ s.isKind v [name]) = true from h.kind, if_pos rfl]
    at hrun
  obtain ⟨u, -, hrun⟩ := h.elements_gives.rest hk hrun
  cases hrun
  intro m hm
  obtain ⟨i, hi, rfl⟩ := List.mem_mapIdx.mp hm
  exact .inl ⟨.element i items[i], .element h (List.getElem?_eq_getElem hi), rfl⟩

def attributed (v : Value) (e : String) (attrs : List (Value × Value)) :
    Eval (List (Eval (Option Child))) := do
  let declared ← tryCatch (return (← slots v).map (ofSlot v e attrs)) fun f ↦ return [throw f]
  return (attrs.map fun (k, w) ↦ do return some (ofAttribute e (← Eval.plain k) w)) ++ declared

theorem attributed_mem {attrs : List (Value × Value)}
    (hrun : (attributed v e attrs).run s = (.ok ms, t)) : ∀ m ∈ ms,
    (∃ k w, (k, w) ∈ attrs ∧ m = do return some (ofAttribute e (← Eval.plain k) w)) ∨
    (∃ names u, (slots v).run s = (.ok names, u) ∧ ∃ name ∈ names, m = ofSlot v e attrs name) ∨
    ∃ f, m = throw f := by
  intro m hm
  obtain ⟨declared, u, hdeclared, hrun⟩ := run_bind_eq_ok hrun
  cases hrun
  obtain hm | hm := List.mem_append.mp hm
  · obtain ⟨⟨k, w⟩, hkw, rfl⟩ := List.mem_map.mp hm
    exact .inl ⟨k, w, hkw, rfl⟩
  refine .inr ?_
  rcases hslots : (slots v).run s with ⟨result, u'⟩
  cases result with
  | error f =>
    rw [run_tryCatch_of_error (run_bind_of_error hslots)] at hdeclared
    cases hdeclared
    exact .inr ⟨f, List.mem_singleton.mp hm⟩
  | ok names =>
    rw [run_tryCatch_of_ok ((run_bind_of_ok hslots).trans rfl)] at hdeclared
    cases hdeclared
    obtain ⟨name, hname, rfl⟩ := List.mem_map.mp hm
    exact .inl ⟨names, _, rfl, name, hname, rfl⟩

theorem attrs_gives {d : Option Ref} (hdict : Gives s (getAttr? v "__dict__") (d.map .ref)) :
    Gives s (tryCatch (return some (← Eval.vars v)) fun f ↦
      if f.isA "TypeError" then return none else throw f) (d.map .ref) := by
  cases d with
  | some r =>
    have hvars : Gives s (Eval.vars v) (.ref r) := hdict.bind (.pure _ _)
    refine .tryCatch (hvars.bind ?_)
    exact Gives.pure s (some (Value.ref r))
  | none =>
    intro t ht
    obtain ⟨u, hu, hk⟩ := hdict t ht
    have hfail : (Eval.vars v).run t = (.error .noVariables, u) := by
      rw [Eval.vars, run_bind_of_ok hu]
      rfl
    exact ⟨u, run_tryCatch_of_error (run_bind_of_error hfail), hk⟩

theorem Object.lists_members (h : s.Object v vars)
    (hrun : (members v e).run s = (.ok ms, t)) : s.Lists v e ms := by
  obtain ⟨u, hk, hrun⟩ := h.candid.untabled_run h.noMapping h.columnless hrun
  obtain ⟨u, hk, hrun⟩ := (h.candid.isInstance_gives _).rest hk hrun
  rw [show (["list", "tuple"].any fun name ↦ s.isKind v [name]) = false from h.noSequence,
    if_neg (by decide)] at hrun
  obtain ⟨u, hk, hrun⟩ := (h.candid.isInstance_gives _).rest hk hrun
  split at hrun
  · cases hrun
    intro m hm
    cases hm
  obtain ⟨u, hk, hrun⟩ := (attrs_gives h.dict).rest hk hrun
  obtain ⟨u, hk, hrun⟩ : ∃ u, s.Keeps u ∧
      (attributed v e (vars.map asEntry)).run u = (.ok ms, t) := by
    obtain ⟨hd, hnone⟩ | ⟨r, hd, howns⟩ := h.owns.cases
    · rw [hd] at hrun
      rw [hnone]
      exact ⟨u, hk, hrun⟩
    · rw [hd] at hrun
      exact howns.mapping.entriesBy_gives.rest hk hrun
  intro m hm
  obtain ⟨k, w, hkw, rfl⟩ | ⟨names, u', -, name, -, rfl⟩ | hfail := attributed_mem hrun m hm
  · obtain ⟨⟨name, w⟩, hw, heq⟩ := List.mem_map.mp hkw
    cases heq
    exact .inl ⟨.own name w, .own h hw, rfl⟩
  · exact .inl ⟨.slot _ name, .slot h, rfl⟩
  · exact .inr hfail

/-! ### Classes -/

section

variable {c : ClassRef} (h : s.IsClass v c)

include h

theorem IsClass.slots_run : (slots v).run s = (.ok [], s) :=
  slots_run_of_missing (by rw [h.classOf]; rfl)

theorem IsClass.columns_run : ∃ found t, (getAttr? v "columns").run s = (.ok found, t) := by
  have hgeneral : s.found? (.native "type") "columns" = none := rfl
  have hattr : (getAttr v "columns").run s = (classAttr.ofOwn c "columns" s none).run s := by
    rw [h.getAttr_run, classAttr, run_get_bind]
    simp only [hgeneral]
  cases hfound : s.found? c "columns" with
  | none =>
    have hmissing : (getAttr v "columns").run s =
        (.error (.classNoAttribute (s.className c) "columns"), s) := by
      rw [hattr, classAttr.ofOwn, hfound]
      rfl
    refine ⟨none, s, ?_⟩
    rw [getAttr?, run_tryCatch_of_error (run_bind_of_error hmissing)]
    rfl
  | some f =>
    obtain ⟨w, t, hw⟩ : ∃ w t, (classAttr.ofOwn c "columns" s none).run s = (.ok w, t) := by
      rw [classAttr.ofOwn, hfound]
      cases f with
      | made owner e => exact exists_stored_run owner "columns" (.made owner e) s
      | native owner e =>
        cases e with
        | classMethod => exact ⟨_, s, rfl⟩
        | _ => exact exists_stored_run owner "columns" (.native owner _) s
    exact ⟨some w, t, getAttr?_of_getAttr (hattr.trans hw)⟩

theorem IsClass.isInstance_gives (names : List String) {b : Bool}
    (hb : (names.any fun name ↦ s.derives (.native "type") [name]) = b) :
    Gives s (isInstance v names) b := by
  have hgives := h.candid.isInstance_gives names
  simp only [isKind, h.classOf, hb] at hgives
  exact hgives

theorem IsClass.members_run_eq (hs : s.Civil) (e : String) :
    ∃ u, s.Keeps u ∧ u.Civil ∧ (members v e).run s = (untabled v e).run u := by
  have hmapping : Gives s (isMapping v) false := by
    have hgives := h.candid.isMapping_gives
    simp only [isKind, h.classOf] at hgives
    exact hgives
  obtain ⟨u₁, hu₁, hk₁⟩ := hmapping s (.refl s)
  have hc₁ := ((Tame.isMapping v).ends hs hu₁).civil
  obtain ⟨found, u₂, hu₂⟩ := (h.keeps hk₁).columns_run
  obtain ⟨hk₂, hc₂, -, -⟩ := (Tame.getAttr? v "columns").ends hc₁ hu₂
  have hk := hk₁.trans hk₂
  obtain ⟨u₃, hu₃, hk₃⟩ := h.isInstance_gives ["type"] (b := true) rfl u₂ hk
  have hc₃ := ((Tame.isInstance v _).ends hc₂ hu₃).civil
  rcases hrun : (members v e).run s with ⟨result, t⟩
  rw [members, run_bind_of_ok hu₁, if_neg (by decide), run_bind_of_ok hu₂] at hrun
  dsimp only at hrun
  -- Whatever is found under that name, a class is taken for a class.
  split at hrun
  · exact ⟨u₂, hk, hc₂, hrun.symm⟩
  · exact ⟨u₂, hk, hc₂, hrun.symm⟩
  · rw [run_bind_of_ok hu₃, if_pos rfl] at hrun
    exact ⟨u₃, hk.trans hk₃, hc₃, hrun.symm⟩

theorem IsClass.vars_run : ∃ d es t, (Eval.vars v).run s = (.ok d, t) ∧ t.Itemised d [] es ∧
    List.Forall₂ GivesOut (s.declared c) es := by
  have hfound : s.found? (.native "type") "__dict__" = some (.native "type" .computed) := rfl
  obtain ⟨es, u, hes, hall⟩ := classEntries_run c s
  obtain ⟨r, t, hview, -, hitemised⟩ := newView_run es u
  refine ⟨.ref r, es, t, ?_, hitemised, hall⟩
  have hattr : (getAttr v "__dict__").run s = (.ok (.ref r), t) := by
    rw [h.getAttr_run, classAttr, run_get_bind]
    simp only [hfound, Found.isData, if_true, classAttr.ofGeneral]
    rw [if_neg (by decide), ofClass, run_get_bind, if_neg (by decide), if_pos rfl,
      run_bind_of_ok hes, hview]
  rw [Eval.vars, run_bind_of_ok (getAttr?_of_getAttr hattr)]
  rfl

theorem IsClass.members_run (hs : s.Civil) (e : String) : ∃ es t,
    (members v e).run s = (.ok (es.map fun x ↦ do
      return some (ofAttribute e (← Eval.plain x.1) x.2)), t) ∧
    List.Forall₂ GivesOut (s.declared c) es := by
  obtain ⟨u, hk, hcivil, hrun⟩ := h.members_run_eq hs e
  obtain ⟨u₁, hu₁, hk₁⟩ := h.isInstance_gives ["list", "tuple"] (b := false) rfl u hk
  have hc₁ := ((Tame.isInstance v _).ends hcivil hu₁).civil
  obtain ⟨u₂, hu₂, hk₂⟩ := h.isInstance_gives atomicKinds (b := false) rfl u₁ (hk.trans hk₁)
  have hc₂ := ((Tame.isInstance v _).ends hc₁ hu₂).civil
  have hkept := (hk.trans hk₁).trans hk₂
  obtain ⟨d, es, t, hvars, hitemised, hall⟩ := (h.keeps hkept).vars_run
  have hk₃ := ((Tame.vars v).ends hc₂ hvars).keeps
  obtain ⟨w, hentries, hk₄⟩ := hitemised.entriesBy_gives t (.refl t)
  have hslots := (h.keeps ((hkept.trans hk₃).trans hk₄)).slots_run
  refine ⟨es, w, ?_, h.declared_eq hkept ▸ hall⟩
  rw [hrun, untabled, run_bind_of_ok hu₁, if_neg (by decide), run_bind_of_ok hu₂,
    if_neg (by decide), ofObject,
    run_bind_of_ok (run_tryCatch_of_ok ((run_bind_of_ok hvars).trans rfl))]
  dsimp only
  rw [run_bind_of_ok hentries,
    run_bind_of_ok (run_tryCatch_of_ok ((run_bind_of_ok hslots).trans rfl)), List.map_nil,
    List.append_nil]
  rfl

theorem IsClass.lists_members (hs : s.Civil) (hrun : (members v e).run s = (.ok ms, t)) :
    s.Lists v e ms := by
  obtain ⟨es, t', hrun', hall⟩ := h.members_run hs e
  rw [hrun] at hrun'
  cases hrun'
  intro m hm
  obtain ⟨⟨k, w⟩, hx, rfl⟩ := List.mem_map.mp hm
  obtain ⟨⟨name, f⟩, hd, rfl, u, u', hw⟩ := exists_of_forall₂ hall hx
  exact .inl ⟨.declared name f w, .declared h hd hw, rfl⟩

end

/-- Whatever is listed of a value of one of the kinds is held by it, unless it cannot be read. -/
theorem Regular.lists_members (h : s.Regular v) (hrun : (members v e).run s = (.ok ms, t)) :
    s.Lists v e ms := by
  cases h with
  | mapping h => exact h.lists_members hrun
  | table h => exact h.lists_members hrun
  | sequence h => exact h.lists_members hrun
  | object h => exact h.lists_members hrun
  | ofClass h hs => exact h.lists_members hs hrun

end Store

end VariableExplorer
