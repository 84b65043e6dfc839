import VariableExplorer.Proofs.Description.Origin
import VariableExplorer.Proofs.Description.Stored
import VariableExplorer.Proofs.Navigation.Drilling

/-!
Selecting a member by the name it is listed under. A value finds the member where it is asked in the
way that it lists it, as long as what is found under a name is what is listed under it.
-/

namespace VariableExplorer

open Eval Child

namespace Store

variable {s t u : Store} {v w : Value} {name : String} {selector : Selector} {way : Way}
  {entries : List (Value × Value)} {vars : List (String × Value)}

/-- A value that lists the entries it holds and leaves it to its native class to find them. -/
structure Keyed (s : Store) (v : Value) (entries : List (Value × Value)) : Prop
    extends s.Settled v where
  lists : Gives s (entriesBy v "items") entries
  content : entriesOf s 3 v = some entries
  subscript : s.ofMade? (s.classOf v) "__getitem__" = none

/-- A subscript by a name fails for want of subscripts or of such an entry. -/
def Misses (s : Store) (v : Value) (name : String) : Prop :=
  ∀ t, s.Keeps t → ∃ f u, (getItem v (.str name)).run t = (.error f, u) ∧ t.Keeps u ∧
    (f.isA "TypeError" || f.isA "KeyError") = true

theorem Misses.entryOrAttribute_gives (h : s.Misses v name) (hw : Gives s (getAttr v name) w) :
    Gives s (Chain.entryOrAttribute v name) w := by
  intro t ht
  obtain ⟨f, u, hitem, hk, hf⟩ := h t ht
  obtain ⟨u', hattr, hk'⟩ := hw u (ht.trans hk)
  refine ⟨u', ?_, hk.trans hk'⟩
  rw [Chain.entryOrAttribute, run_tryCatch_of_error hitem, if_pos hf,
    run_bind_of_ok (getAttr?_of_getAttr hattr)]
  rfl

theorem indexIn_text (n : Nat) (what : String) (outside : Fault) (name : String) (t : Store) :
    ∃ f, (indexIn n what outside (.str name)).run t = (.error f, t) ∧ f.isA "TypeError" = true := by
  have hnumber : t.asInt? (.str name) = none := rfl
  rw [indexIn, run_get_bind, hnumber]
  dsimp only
  split
  · exact ⟨_, rfl, rfl⟩
  · exact ⟨_, rfl, rfl⟩

theorem Settled.misses (h : s.Settled v) (hsubscript : s.ofMade? (s.classOf v) "__getitem__" = none)
    (hdict : ∀ es, s.body v ≠ .dict es) (hview : ∀ target, s.body v ≠ .view target)
    (name : String) : s.Misses v name := by
  intro t ht
  suffices hfail : ∃ f, (getItem v (.str name)).run t = (.error f, t) ∧
      f.isA "TypeError" = true by
    obtain ⟨f, hrun, hf⟩ := hfail
    exact ⟨f, t, hrun, .refl t, by rw [hf, Bool.true_or]⟩
  rw [getItem, run_get_bind, h.ofMade?_eq ht, hsubscript, h.body_eq ht]
  dsimp only
  split
  case h_7 es heq => exact absurd heq (hdict es)
  case h_8 target heq => exact absurd heq (hview target)
  case h_9 =>
    split
    · exact ⟨_, rfl, rfl⟩
    · exact ⟨_, rfl, rfl⟩
  all_goals
    obtain ⟨f, hrun, hf⟩ := indexIn_text _ _ _ name t
    exact ⟨f, run_bind_of_error hrun, hf⟩

/-- Asked for a name behind a selector, a value finds what it lists under the name in some way. -/
inductive Finds (s : Store) (v : Value) (name : String) : Selector → Way → Prop
  | entry {entries : List (Value × Value)} {k : Value} :
      s.Keyed v entries → (∀ w, (k, w) ∈ entries → Gives s (entry entries (.str name)) w) →
      Finds s v name .byName (.entry k)
  | column {label w : Value} :
      Gives s (getItem v label) w → Gives s (getItem v (.str name)) w →
      Finds s v name .byName (.column label)
  | own {vars : List (String × Value)} {k : Value} :
      s.Instance v vars → Gives s (getAttr? v "__dict__") ((s.dict? v).map .ref) →
      (∀ f, s.found? (s.classOf v) name = some f → f.isData = false) →
      Finds s v name .byAttribute (.own k)
  | declared {c : ClassRef} {k : Value} :
      s.IsClass v c →
      (∀ f, (name, f) ∈ s.declared c → (s.declared c).lookup name = some f ∧ f.isStill = true) →
      (∀ g, s.found? (.native "type") name = some g → g.isData = false) →
      Finds s v name .byAttribute (.own k)
  | slot {w : Value} : Gives s (getAttr v name) w → Finds s v name .byAttribute .slot
  /-- Behind the selector of entries an attribute is taken where there is no such entry. -/
  | instead {way : Way} :
      s.Misses v name → Finds s v name .byAttribute way → Finds s v name .byName way

/-! ### Values of the kinds -/

theorem Mapping.finds (h : s.Mapping v vars entries) :
    s.Finds v name .byName (.entry (.str name)) :=
  .entry ⟨h.toSettled, h.entriesBy_gives, h.content, h.subscript⟩ fun _ hw ↦ h.keys _ hw

theorem Table.finds (h : s.Table v vars) (hw : Attains s (getItem v (.str name)) w) :
    s.Finds v name .byName (.column (.str name)) := by
  obtain ⟨t, u, hk, hrun⟩ := hw
  exact .column (h.getItem_gives hk hrun) (h.getItem_gives hk hrun)

theorem Object.finds {k : Value} (h : s.Object v vars)
    (hfound : ∀ f, s.found? (s.classOf v) name = some f → f.isData = false) :
    s.Finds v name .byAttribute (.own k) := .own h.toInstance h.dict hfound

theorem Instance.finds_slot {owner : String} (h : s.Instance v vars)
    (hfound : s.found? (s.classOf v) name = some (.made owner .slot))
    (hw : Attains s (getAttr v name) w) : s.Finds v name .byAttribute .slot := by
  obtain ⟨t, u, hk, hrun⟩ := hw
  exact .slot (h.getAttr_slot hfound hk hrun)

/-! ### What is listed is found -/

theorem eq_of_attains_plain {text : String} (h : Attains s (Eval.plain (.str text)) name) :
    text = name := by
  obtain ⟨t, u, -, hrun⟩ := h
  cases hrun
  rfl

theorem Instance.mem_of_attains (h : s.Instance v vars)
    (hdict : Gives s (getAttr? v "__dict__") ((s.dict? v).map .ref))
    {attrs : List (Value × Value)}
    (hattrs : Attains s (Eval.vars v >>= (entriesBy · "items")) attrs) :
    attrs = vars.map asEntry := by
  obtain ⟨t, u, hk, hrun⟩ := hattrs
  obtain ⟨d, u₁, hvars, hrun⟩ := run_bind_eq_ok hrun
  obtain ⟨u₂, hk₂, hvars⟩ := hdict.rest hk hvars
  obtain ⟨hd, -⟩ | ⟨r, hd, howns⟩ := h.owns.cases
  · rw [hd] at hvars
    cases hvars
  · rw [hd] at hvars
    cases hvars
    exact howns.mapping.entriesBy_gives.eq hk₂ hrun

theorem Object.mem_of_presents (h : s.Object v vars)
    (hcolumns : Gives s (getAttr? v "columns") none)
    (hslots : s.found? (s.classOf v) "__slots__" = none) (hw : s.Presents v way name w) :
    way = .own (.str name) ∧ (name, w) ∈ vars := by
  cases hw with
  | entry hmapping =>
    have hgives := h.candid.isMapping_gives
    rw [h.noMapping] at hgives
    cases hgives.eq_of_attains hmapping
  | column _ hfound => cases hcolumns.eq_of_attains hfound
  | own _ hattrs hmem hname =>
    rw [h.toInstance.mem_of_attains h.dict hattrs] at hmem
    obtain ⟨⟨text, w⟩, hown, heq⟩ := List.mem_map.mp hmem
    cases heq
    cases eq_of_attains_plain hname
    exact ⟨rfl, hown⟩
  | slot _ hnames hslot =>
    obtain ⟨t, u, hk, hnames⟩ := hnames
    rw [slots_run_of_missing (by rw [h.found?_eq hk, hslots])] at hnames
    cases hnames
    cases hslot

section

variable {r a : Ref} (h : s.get? r = some ⟨.native "SimpleNamespace", .plain, some a, []⟩)
  (ha : s.Binds a vars) (hcolumns : vars.lookup "columns" = none)

include h ha hcolumns

theorem Object.ofNamespace_members (e : String) :
    Gives s (members (.ref r) e) (vars.map fun (name, w) ↦ (Source.own name w).read (.ref r) e) := by
  have hclass : s.classOf (.ref r) = .native "SimpleNamespace" := by simp only [classOf, h]
  refine (Object.ofNamespace h ha hcolumns).members_gives ?_ (by rw [hclass]; rfl) e
  simp only [isKind, hclass]
  rfl

theorem Object.ofNamespace_presents (hw : s.Presents (.ref r) way name w) :
    way = .own (.str name) ∧ (name, w) ∈ vars := by
  have hclass : s.classOf (.ref r) = .native "SimpleNamespace" := by simp only [classOf, h]
  have hbody : s.body (.ref r) = .plain := by simp only [body, h]
  have hobject := Object.ofNamespace h ha hcolumns
  refine hobject.mem_of_presents (hobject.getAttr?_missing ?_ hcolumns ?_ ?_) (by rw [hclass]; rfl) hw
  · rw [hclass]
    rfl
  · rw [hclass, ofMade?_native]
  · simp [hbody]

end

theorem IsClass.mem_of_attains {c : ClassRef} (h : s.IsClass v c)
    {attrs : List (Value × Value)}
    (hattrs : Attains s (Eval.vars v >>= (entriesBy · "items")) attrs) :
    ∀ e ∈ attrs, ∃ text f t u, (text, f) ∈ s.declared c ∧ e.1 = .str text ∧
      (stored f.owner text f).run t = (.ok e.2, u) := by
  obtain ⟨t, u, hk, hrun⟩ := hattrs
  obtain ⟨d, u₁, hvars, hrun⟩ := run_bind_eq_ok hrun
  obtain ⟨d', es, t', hvars', hitemised, hall⟩ := (h.keeps hk).vars_run
  rw [hvars] at hvars'
  cases hvars'
  rw [hitemised.entriesBy_gives.eq (.refl u₁) hrun]
  rw [h.declared_eq hk] at hall
  intro e he
  obtain ⟨⟨text, f⟩, hd, hname, u, u', hw⟩ := exists_of_forall₂ hall he
  exact ⟨text, f, u, u', hd, hname, hw⟩

/-- What a value finds under a name is what it lists under it. -/
theorem Finds.gives (h : s.Finds v name selector way) (hw : s.Presents v way name w) :
    Gives s (Chain.named v selector name) w := by
  -- Where the name is found leaves one way in which the value presents it.
  induction h with
  | @entry entries k hv hfound =>
    cases hw with | entry _ hentries hmem =>
    rw [hv.lists.eq_of_attains hentries] at hmem
    have hitem : Gives s (getItem v (.str name)) w := fun t ht ↦ by
      rw [hv.toSettled.getItem_run hv.content hv.subscript ht]
      exact hfound w hmem t ht
    exact hitem.tryCatch
  | column hlabel hname =>
    cases hw with | column _ _ _ _ _ hitem =>
    cases hlabel.eq_of_attains hitem
    exact hname.tryCatch
  | own hv hdict hfound =>
    cases hw with | own _ hattrs hmem hname =>
    rw [hv.mem_of_attains hdict hattrs] at hmem
    obtain ⟨⟨text, w⟩, hown, heq⟩ := List.mem_map.mp hmem
    cases heq
    cases eq_of_attains_plain hname
    exact hv.getAttr_own (hv.owns.lookup_of_mem hown) hfound
  | declared hv hheld htype =>
    cases hw with | own _ hattrs hmem hname =>
    obtain ⟨text, f, t, u, hdeclared, hkey, hstored⟩ := hv.mem_of_attains hattrs _ hmem
    cases hkey
    cases eq_of_attains_plain hname
    obtain ⟨hlookup, hstill⟩ := hheld f hdeclared
    exact hv.getAttr_declared hlookup hstill htype hstored
  | slot hgives =>
    cases hw with | slot _ _ _ _ hattr =>
    cases hgives.eq_of_attains hattr
    exact hgives
  | instead hmisses _ ih => exact hmisses.entryOrAttribute_gives (ih hw)

end Store

end VariableExplorer
