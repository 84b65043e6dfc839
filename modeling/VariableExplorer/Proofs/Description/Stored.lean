import Mathlib.Data.List.Nodup
import VariableExplorer.Proofs.Description.Listing
import VariableExplorer.Value.Recipe

/-!
What is listed of a value that is listed by what it stores: the entries of its dictionary, and the
slots that the nearest of its classes with a declaration of slots declares.
-/

namespace VariableExplorer

open Eval

namespace Child

variable {s : Store} {v : Value} {e name : String} {vars : List (String × Value)}

theorem readAll_append_gives {ms ms' : List (Eval (Option Child))} {cs cs' : List Child}
    (h : Gives s (readAll ms) (cs, none)) (h' : Gives s (readAll ms') (cs', none)) :
    Gives s (readAll (ms ++ ms')) (cs ++ cs', none) := by
  intro t ht
  obtain ⟨u, hu, hk⟩ := h t ht
  obtain ⟨w, hw, hk'⟩ := h' u (ht.trans hk)
  exact ⟨w, readAll_append_of_ok hu hw, hk.trans hk'⟩

theorem readAll_map_gives {α : Type} {read : α → Eval (Option Child)} {found : α → Option Child}
    {as : List α} (h : ∀ a ∈ as, Gives s (read a) (found a)) :
    Gives s (readAll (as.map read)) (as.filterMap found, none) := by
  induction as with
  | nil => exact .pure s _
  | cons a as ih =>
    obtain ⟨ha, has⟩ := List.forall_mem_cons.mp h
    intro t ht
    obtain ⟨u, hu, hk⟩ := ha t ht
    obtain ⟨w, hw, hk'⟩ := ih has u (ht.trans hk)
    refine ⟨w, ?_, hk.trans hk'⟩
    rw [List.map_cons, readAll_cons_of_ok hu hw, List.filterMap_cons]
    cases found a <;> rfl

/-- A slot is listed unless it is not filled or an attribute hides it. -/
def ofFilled (e : String) (vars : List (String × Value)) (read : String → Option Value)
    (name : String) : Option Child :=
  if (vars.lookup name).isSome then none else (read name).map (ofAttribute e name)

theorem ofSlot_gives {read : String → Option Value}
    (h : Gives s (getAttr? v name) (read name)) :
    Gives s (ofSlot v e (vars.map asEntry) (.str name)) (ofFilled e vars read name) := by
  have hkey : Gives s (checkKey (.str name)) () := .pure _ _
  refine hkey.bind (.get fun t ht ↦ ?_)
  rw [Store.lookup?_asEntry, ofFilled]
  split
  · exact .pure _ _
  · refine (h.keeps ht).bind ?_
    cases read name <;> exact .pure _ _

/-- What a value shows of its own attributes and of the slots that are declared. -/
def ofStored (e : String) (vars : List (String × Value)) (names : List String)
    (read : String → Option Value) : List Child :=
  vars.map (fun x ↦ ofAttribute e x.1 x.2) ++ names.filterMap (ofFilled e vars read)

theorem ofFilled_eq_some {read : String → Option Value} {c : Child}
    (h : ofFilled e vars read name = some c) :
    vars.lookup name = none ∧ ∃ w, c = ofAttribute e name w := by
  rw [ofFilled] at h
  split at h
  · cases h
  next hnone =>
    obtain ⟨w, -, rfl⟩ := Option.map_eq_some_iff.mp h
    exact ⟨Option.not_isSome_iff_eq_none.mp hnone, w, rfl⟩

theorem ofAttribute_name_eq_iff {m : String} {w : Value} :
    (ofAttribute e m w).name = "@" ++ name ↔ m = name := by
  simp [ofAttribute]

theorem filter_map_ofAttribute (e name : String) (vars : List (String × Value)) :
    (vars.map fun x ↦ ofAttribute e x.1 x.2).filter (·.name = "@" ++ name) =
      (vars.filter (·.1 = name)).map fun x ↦ ofAttribute e x.1 x.2 := by
  rw [List.filter_map]
  congr 1
  exact List.filter_congr fun x _ ↦ by simp [ofAttribute_name_eq_iff]

/-- An attribute is listed once under its name, with its value, and hides a slot of that name. -/
theorem ofStored_own {names : List String} {read : String → Option Value} {w : Value}
    (hnodup : (vars.map (·.1)).Nodup) (hw : (name, w) ∈ vars) :
    (ofStored e vars names read).filter (·.name = "@" ++ name) = [ofAttribute e name w] := by
  have hown : vars.filter (·.1 = name) = [(name, w)] := by
    obtain ⟨before, after, rfl⟩ := List.append_of_mem hw
    rw [List.map_append, List.map_cons, List.nodup_middle, List.nodup_cons, ← List.map_append]
      at hnodup
    have hother : ∀ x ∈ before ++ after, x.1 ≠ name := by
      rintro x hx rfl
      exact hnodup.1 (List.mem_map.mpr ⟨x, hx, rfl⟩)
    obtain ⟨hbefore, hafter⟩ := List.forall_mem_append.mp hother
    rw [List.filter_append, List.filter_eq_nil_iff.mpr (by simpa using hbefore),
      List.filter_cons_of_pos (by simp), List.filter_eq_nil_iff.mpr (by simpa using hafter)]
    rfl
  have hslots : (names.filterMap (ofFilled e vars read)).filter (·.name = "@" ++ name) = [] := by
    refine List.filter_eq_nil_iff.mpr fun c hc ↦ ?_
    obtain ⟨m, -, hm⟩ := List.mem_filterMap.mp hc
    obtain ⟨hnone, w', rfl⟩ := ofFilled_eq_some hm
    rw [decide_eq_true_eq, ofAttribute_name_eq_iff]
    rintro rfl
    simpa using List.lookup_eq_none_iff.mp hnone _ hw
  rw [ofStored, List.filter_append, filter_map_ofAttribute, hown, hslots]
  rfl

/-- A slot that no attribute hides is listed under its name as often as it is declared. -/
theorem ofStored_slot {names : List String} {read : String → Option Value} {w : Value}
    (hname : vars.lookup name = none) (hw : name ∈ names → read name = some w) :
    (ofStored e vars names read).filter (·.name = "@" ++ name) =
      List.replicate (names.count name) (ofAttribute e name w) := by
  have hown : vars.filter (·.1 = name) = [] := by
    refine List.filter_eq_nil_iff.mpr fun x hx ↦ ?_
    have hne : name ≠ x.1 := by simpa using List.lookup_eq_none_iff.mp hname x hx
    simpa using hne.symm
  rw [ofStored, List.filter_append, filter_map_ofAttribute, hown, List.map_nil, List.nil_append]
  induction names with
  | nil => rfl
  | cons m names ih =>
    have hrest := ih fun hmem ↦ hw (List.mem_cons_of_mem m hmem)
    by_cases hm : m = name
    · subst hm
      have hfilled : ofFilled e vars read m = some (ofAttribute e m w) := by
        simp [ofFilled, hname, hw]
      rw [List.filterMap_cons_some hfilled, List.filter_cons_of_pos (by simp [ofAttribute]), hrest,
        List.count_cons_self, List.replicate_succ]
    · rw [List.count_cons_of_ne hm]
      cases hfilled : ofFilled e vars read m with
      | none => rw [List.filterMap_cons_none hfilled, hrest]
      | some c =>
        obtain ⟨-, w', rfl⟩ := ofFilled_eq_some hfilled
        have hother : (ofAttribute e m w').name ≠ "@" ++ name :=
          fun h ↦ hm (ofAttribute_name_eq_iff.mp h)
        rw [List.filterMap_cons_some hfilled, List.filter_cons_of_neg (by simpa using hother),
          hrest]

end Child

namespace Store

open Child

variable {s t : Store} {v w : Value} {vars : List (String × Value)} {e name : String}
  {names : List String}

/-- The names that the nearest class with a declaration of slots declares, be it one text or a
sequence of texts. -/
inductive Declares (s : Store) (c : ClassRef) : List String → Prop
  | nothing : s.found? c "__slots__" = none → Declares s c []
  | text {owner name : String} :
      s.found? c "__slots__" = some (.made owner (.value (.str name))) → Declares s c [name]
  | sequence {owner : String} {d : Value} {vars : List (String × Value)} {names : List String} :
      s.found? c "__slots__" = some (.made owner (.value d)) →
      s.Sequence d vars (names.map .str) → s.isKind d ["str"] = false → Declares s c names

theorem Declares.slots_gives (hv : s.Settled v) (h : s.Declares (s.classOf v) names) :
    Gives s (slots v) (names.map .str) := by
  have hdeclared {owner : String} {d : Value} {items : List Value}
      (hd : s.found? (s.classOf v) "__slots__" = some (.made owner (.value d)))
      (hitems : Gives s (do
        if ← isInstance d ["str"] then return [d] else elements d : Eval (List Value)) items) :
      Gives s (slots v) items := by
    refine .get fun t ht ↦ ?_
    have hattr : Gives t (classAttr (t.classOf v) "__slots__") d := by
      rw [hv.classOf_eq ht]
      refine .of_run fun u hu ↦ ?_
      have hfound : u.found? (s.classOf v) "__slots__" = some (.made owner (.value d)) := by
        rw [← hv.classOf_eq (ht.trans hu), hv.found?_eq (ht.trans hu), hd]
      have htype : u.found? (.native "type") "__slots__" = none := rfl
      rw [classAttr, run_get_bind]
      simp only [htype, classAttr.ofOwn, hfound]
      rfl
    have hcaught : Gives t (tryCatch (return some (← classAttr (t.classOf v) "__slots__"))
        fun f ↦ if f.isA "AttributeError" then return none else throw f) (some d) :=
      .tryCatch (hattr.bind (.pure _ _))
    exact hcaught.bind (hitems.keeps ht)
  cases h with
  | nothing h => exact .of_run fun t ht ↦ slots_run_of_missing (by rw [hv.found?_eq ht, h])
  | text h => exact hdeclared h (.of_run fun t _ ↦ rfl)
  | sequence h hd hstr =>
    have htold := hd.candid.isInstance_gives ["str"]
    simp only [List.any_cons, List.any_nil, hstr, Bool.or_false] at htold
    exact hdeclared h (htold.bind hd.elements_gives)

/-- A value that is listed by the attributes that it stores: it is no mapping, no table, no list and
no tuple, and it is not atomic. Its dictionary, if it has one, is the one that it shows. -/
structure Holder (s : Store) (v : Value) (vars : List (String × Value)) : Prop
    extends s.Instance v vars where
  noMapping : Gives s (isMapping v) false
  columns : ∃ c, Gives s (getAttr? v "columns") c ∧ (c = none ∨ c = some .none ∨
    Gives s (isInstance v ["type"]) true ∨
    Gives s (isInstance v ["type"]) false ∧ Gives s (hasAttr v "__getitem__") false)
  noSequence : Gives s (isInstance v ["list", "tuple"]) false
  noAtom : Gives s (isInstance v atomicKinds) false
  dict : Gives s (getAttr? v "__dict__") ((s.dict? v).map .ref)

theorem Holder.members_gives (h : s.Holder v vars) (hslots : Gives s (slots v) (names.map .str))
    (e : String) : Gives s (members v e)
      (vars.map (fun x ↦ (Source.own x.1 x.2).read v e) ++
        names.map fun name ↦ ofSlot v e (vars.map asEntry) (.str name)) := by
  -- From the inside out: the attributes and slots, the object they are of, and what is no table.
  have hattributed : Gives s (attributed v e (vars.map asEntry))
      (vars.map (fun x ↦ (Source.own x.1 x.2).read v e) ++
        names.map fun name ↦ ofSlot v e (vars.map asEntry) (.str name)) := by
    have hdeclared : Gives s (tryCatch (return (← slots v).map (ofSlot v e (vars.map asEntry)))
        fun f ↦ return [throw f]) _ := .tryCatch (hslots.bind (.pure _ _))
    refine hdeclared.bind ?_
    rw [List.map_map, List.map_map]
    exact .pure _ _
  generalize vars.map (fun x ↦ (Source.own x.1 x.2).read v e) ++
    names.map (fun name ↦ ofSlot v e (vars.map asEntry) (.str name)) = ms at hattributed ⊢
  have hobject : Gives s (ofObject v e) ms := by
    refine (attrs_gives h.dict).bind ?_
    obtain ⟨hd, rfl⟩ | ⟨r, hd, hvars⟩ := h.owns.cases
    · rw [hd]
      exact hattributed
    · rw [hd]
      exact hvars.mapping.entriesBy_gives.bind hattributed
  have huntabled : Gives s (untabled v e) ms := h.noSequence.bind (h.noAtom.bind hobject)
  obtain ⟨c, hc, hcolumns⟩ := h.columns
  refine h.noMapping.bind (hc.bind ?_)
  dsimp only
  split
  · exact huntabled
  · exact huntabled
  next w hsome =>
    obtain hnone | hnone | hclass | ⟨hclass, hanswers⟩ := hcolumns
    · cases hnone
    · exact absurd (Option.some.inj hnone) hsome
    · exact hclass.bind huntabled
    · exact hclass.bind (hanswers.bind huntabled)

theorem Holder.listing_gives (h : s.Holder v vars) (hd : s.Declares (s.classOf v) names)
    {read : String → Option Value} (hread : ∀ name ∈ names, Gives s (getAttr? v name) (read name))
    (e : String) :
    Gives s (members v e >>= readAll) (ofStored e vars names read, none) := by
  have hown : Gives s (readAll (vars.map fun x ↦ (Source.own x.1 x.2).read v e))
      (vars.filterMap fun x ↦ some (ofAttribute e x.1 x.2), none) :=
    readAll_map_gives fun x _ ↦ .of_run fun t _ ↦ rfl
  rw [List.filterMap_eq_map'] at hown
  exact (h.members_gives (hd.slots_gives h.toSettled) e).bind (readAll_append_gives hown
    (readAll_map_gives fun name hname ↦ ofSlot_gives (hread name hname)))

def Fills (s : Store) (v : Value) (name : String) (w : Value) : Prop :=
  (∃ owner, s.found? (s.classOf v) name = some (.made owner .slot)) ∧
    (s.object? v).bind (·.slots.lookup name) = some w

theorem Instance.getAttr?_filled (h : s.Instance v vars) (hw : s.Fills v name w) :
    Gives s (getAttr? v name) (some w) := by
  obtain ⟨⟨owner, hf⟩, hslot⟩ := hw
  exact .tryCatch ((h.getAttr_filled hf hslot).bind (.pure _ _))

theorem Object.holder (h : s.Object v vars)
    (hatomic : (atomicKinds.any fun name ↦ s.isKind v [name]) = false) : s.Holder v vars where
  toInstance := h.toInstance
  noMapping := h.noMapping ▸ h.candid.isMapping_gives
  columns := by
    obtain ⟨c, hc, hcolumns⟩ := h.columnless
    exact ⟨c, hcolumns, hc.imp_right .inl⟩
  noSequence := by
    have hgives := h.candid.isInstance_gives ["list", "tuple"]
    rwa [show (["list", "tuple"].any fun name ↦ s.isKind v [name]) = false from h.noSequence]
      at hgives
  noAtom := hatomic ▸ h.candid.isInstance_gives atomicKinds
  dict := h.dict

theorem Object.members_gives (h : s.Object v vars)
    (hatomic : (atomicKinds.any fun name ↦ s.isKind v [name]) = false)
    (hslots : s.found? (s.classOf v) "__slots__" = none) (e : String) :
    Gives s (members v e) (vars.map fun (name, w) ↦ (Source.own name w).read v e) := by
  have hnone := (Declares.nothing hslots).slots_gives h.toSettled
  have hgives := (h.holder hatomic).members_gives hnone e
  rwa [List.map_nil, List.append_nil] at hgives

def ListsOut (e : String) (d : String × Found) (c : Child) : Prop :=
  c = ofAttribute e d.1 c.value ∧ GivesOut d (.str d.1, c.value)

theorem readAll_givesOut {ds : List (String × Found)} {es : List (Value × Value)}
    (h : List.Forall₂ GivesOut ds es) (e : String) (s : Store) : ∃ cs,
    (readAll (es.map fun x ↦ do return some (ofAttribute e (← Eval.plain x.1) x.2))).run s =
      (.ok (cs, none), s) ∧ List.Forall₂ (ListsOut e) ds cs := by
  induction h with
  | nil => exact ⟨[], rfl, .nil⟩
  | @cons d x ds es hd _ ih =>
    obtain ⟨cs, hrun, hall⟩ := ih
    obtain ⟨k, w⟩ := x
    obtain ⟨rfl, hw⟩ := hd
    exact ⟨ofAttribute e d.1 w :: cs, readAll_cons_of_ok rfl hrun, .cons ⟨rfl, rfl, hw⟩ hall⟩

/-- What a value is listed by. An attribute is listed just once, with its value. A filled slot that
no attribute hides is listed as often as the nearest declaration of slots names it: if a slot is one
of a further class alone, it is missing. A class is listed by all that it holds itself. -/
theorem stored_listed (s : Store) (v : Value) (e : String) :
    (∀ vars names read, s.Holder v vars → s.Declares (s.classOf v) names →
      (∀ name ∈ names, Gives s (getAttr? v name) (read name)) →
      let cs := ofStored e vars names read
      Gives s (members v e >>= readAll) (cs, none) ∧
      (∀ name w, (name, w) ∈ vars →
        cs.filter (·.name = "@" ++ name) = [ofAttribute e name w]) ∧
      ∀ name w, s.Fills v name w → vars.lookup name = none →
        cs.filter (·.name = "@" ++ name) =
          List.replicate (names.count name) (ofAttribute e name w)) ∧
    ∀ c, s.IsClass v c → s.Civil → ∃ cs t,
      (members v e >>= readAll).run s = (.ok (cs, none), t) ∧
      List.Forall₂ (ListsOut e) (s.declared c) cs := by
  constructor
  · intro vars names read h hd hread
    refine ⟨h.listing_gives hd hread e, fun name w hw ↦ ofStored_own h.owns.nodup hw,
      fun name w hw hname ↦ ofStored_slot hname fun hmem ↦ ?_⟩
    obtain ⟨t, ht, -⟩ := hread name hmem s (.refl s)
    exact (h.toInstance.getAttr?_filled hw).eq (.refl s) ht
  · intro c h hs
    obtain ⟨es, t, hrun, hall⟩ := h.members_run hs e
    obtain ⟨cs, hcs, hall⟩ := readAll_givesOut hall e t
    exact ⟨cs, t, (run_bind_of_ok hrun).trans hcs, hall⟩

def inheriting : Recipe :=
  Recipe.instance_ ⟨"__main__", "C", none, none, [], some ["a"], some (Recipe.tuple []),
    [("a", pure (.int 1))], [], [], none, [], none⟩

theorem inheriting_run : ∃ s : Store, inheriting.run {} = (.ok (.ref 4), s) ∧
    s.Fills (.ref 4) "a" (.int 1) ∧ s.Holder (.ref 4) [] ∧ s.Declares (s.classOf (.ref 4)) [] := by
  obtain ⟨s, hrun, hobject, hclass, hlineage, hdefined, hslot, hnames, htuple, htells, hmissing,
      hkinds⟩ : ∃ s : Store, inheriting.run {} = (.ok (.ref 4), s) ∧
      s.get? 4 = some ⟨.made 3, .plain, none, [("a", .int 1)]⟩ ∧
      s.classOf (.ref 4) = .made 3 ∧
      s.lineage (.made 3) = [.made 3, .made 1, .native "object"] ∧
      ((s.classDef? (.made 3)).isSome = true ∧ (s.classDef? (.made 1)).isSome = true) ∧
      s.found? (.made 3) "a" = some (.made "Base" .slot) ∧
      s.found? (.made 3) "__slots__" = some (.made "C" (.value (.ref 2))) ∧
      s.get? 2 = some ⟨.native "tuple", .tuple [], none, []⟩ ∧
      s.found? (.made 3) "__class__" = some (.native "object" .computed) ∧
      (s.found? (.made 3) "columns" = none ∧ s.found? (.made 3) "__dict__" = none ∧
        s.ofMade? (.made 3) "__getattr__" = none) ∧
      (s.isKind (.ref 4) mappingKinds = false ∧ s.isSequence (.ref 4) = false ∧
        (atomicKinds.any fun name ↦ s.isKind (.ref 4) [name]) = false) :=
    ⟨_, rfl, rfl, rfl, rfl, ⟨rfl, rfl⟩, rfl, rfl, rfl, rfl, ⟨rfl, rfl, rfl⟩, ⟨rfl, rfl, rfl⟩⟩
  have hordinary : s.Ordinary (.ref 4) [] := by
    refine ⟨⟨?_, ?_⟩, ?_, ⟨"object", by rw [hclass, htells]⟩, ?_⟩
    · rintro r ⟨⟩
      rw [hobject]
      rfl
    · rw [hclass, hlineage]
      simpa using hdefined
    · simp [asClass?, classDef?, hobject]
    · simp [Owns, dict?, object?, hobject]
  have hbody : s.body (.ref 4) = .plain := by simp only [body, hobject]
  have hlost (name : String) (hname : s.found? (.made 3) name = none) :
      Gives s (getAttr? (.ref 4) name) none :=
    hordinary.getAttr?_missing (by rw [hclass, hname]) rfl (by rw [hclass, hmissing.2.2])
      (by simp [hbody])
  have hdict : s.dict? (.ref 4) = none := by simp [dict?, object?, hobject]
  have hlisted : s.Object (.ref 4) [] := ⟨hordinary, hkinds.1,
    ⟨none, .inl rfl, hlost "columns" hmissing.1⟩, hkinds.2.1, hdict ▸ hlost "__dict__" hmissing.2.1⟩
  have hsequence : s.Sequence (.ref 2) [] [] :=
    .ofNative (.inr ⟨rfl, rfl⟩) htuple (by decide)
  refine ⟨s, hrun, ⟨⟨"Base", by rw [hclass, hslot]⟩, by simp [object?, hobject]⟩,
    hlisted.holder hkinds.2.2, .sequence (by rw [hclass, hnames]) hsequence ?_⟩
  simp only [isKind, classOf, htuple]
  rfl

/-- The slot is filled, but it is not listed. -/
theorem stored_listed_inheriting : ∃ s : Store,
    inheriting.run {} = (.ok (.ref 4), s) ∧ s.Fills (.ref 4) "a" (.int 1) ∧
    ((members (.ref 4) "x" >>= readAll).run s).1 = .ok ([], none) := by
  obtain ⟨s, hrun, hfills, hholder, hdeclares⟩ := inheriting_run
  obtain ⟨hgives, -⟩ := (stored_listed s (.ref 4) "x").1 [] [] (fun _ ↦ none) hholder hdeclares
    (by simp)
  obtain ⟨t, ht, -⟩ := hgives s (.refl s)
  exact ⟨s, hrun, hfills, congrArg Prod.fst ht⟩

end Store

end VariableExplorer
