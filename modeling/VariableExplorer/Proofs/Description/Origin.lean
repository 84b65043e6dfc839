import VariableExplorer.Proofs.Description.Listing
import VariableExplorer.Proofs.Value.Growth

/-!
Where the members of a value come from, whatever the value is. It need not be of one of the kinds
whose members are known: a member that is reached by a name was among the entries, the columns, the
attributes or the slots when these were listed.
-/

namespace VariableExplorer

open Eval

namespace Eval

variable {α β : Type} {s t : Store} {x : Eval α} {a : α}

/-- In some store that has grown from this one the computation gives this result. -/
def Attains (s : Store) (x : Eval α) (a : α) : Prop := ∃ t u, s.Keeps t ∧ x.run t = (.ok a, u)

theorem Attains.of_keeps (h : Attains t x a) (hk : s.Keeps t) : Attains s x a := by
  obtain ⟨u, u', hk', hrun⟩ := h
  exact ⟨u, u', hk.trans hk', hrun⟩

theorem Gives.eq_of_attains {b : α} (h : Gives s x a) (hb : Attains s x b) : b = a := by
  obtain ⟨t, u, hk, hrun⟩ := hb
  exact h.eq hk hrun

end Eval

namespace Child

/-! ### Listing only adds to the store -/

section

variable (v : Value) (e : String)

@[grind ←]
theorem entriesBy_grows (operation : String) : Grows (entriesBy v operation) := by
  unfold entriesBy entriesBy.given
  refine (Grows.getAttr v operation).bind fun m ↦ .get fun s ↦ ?_
  dsimp only
  split
  · grind
  · split
    · split <;> grind
    · grind
  · grind

@[grind ←]
theorem ofEntry_grows (k : Value) : Grows (ofEntry e k v) := by
  unfold ofEntry
  grind

@[grind ←]
theorem ofColumn_grows (label : Value) : Grows (ofColumn v e label) := by
  unfold ofColumn
  grind

@[grind ←]
theorem slots_grows : Grows (slots v) := by
  unfold slots
  grind

@[grind ←]
theorem ofSlot_grows (attrs : List (Value × Value)) (slot : Value) :
    Grows (ofSlot v e attrs slot) := by
  unfold ofSlot
  grind

@[grind ←]
theorem ofObject_grows : Grows (ofObject v e) := by
  refine (Grows.tryCatch ((Grows.vars v).bind fun d ↦ .pure _) fun f ↦ by grind).bind fun attrs ↦ ?_
  have hslots (entries : List (Value × Value)) : Grows (tryCatch
      (return (← slots v).map (ofSlot v e entries)) fun f ↦ return [throw f]) := by
    grind
  split <;> grind

@[grind ←]
theorem members_grows : Grows (members v e) := by
  unfold members
  refine (Grows.isMapping v).bind fun b ↦ ?_
  split
  · grind
  refine (Grows.getAttr? v _).bind fun columns ↦ ?_
  split <;> grind

end

/-! ### Where members come from -/

inductive Way
  | entry (k : Value)
  | column (label : Value)
  | own (k : Value)
  | slot

def Way.selector : Way → Selector
  | entry _ | column _ => .byName
  | own _ | slot => .byAttribute

/-- A member to be read comes from what a value has listed at some time. -/
inductive Origin (s : Store) (v : Value) (e : String) : Eval (Option Child) → Prop
  | entry {entries : List (Value × Value)} {k w : Value} :
      Attains s (isMapping v) true → Attains s (entriesBy v "items") entries →
      (k, w) ∈ entries → Origin s v e (ofEntry e k w)
  | column {columns label : Value} {labels : List Value} :
      Attains s (isMapping v) false → Attains s (getAttr? v "columns") (some columns) →
      Attains s (elements columns) labels → label ∈ labels → Origin s v e (ofColumn v e label)
  | element (i : Nat) (w : Value) : Origin s v e (pure (some (ofElement e i w)))
  | own {attrs : List (Value × Value)} {k w : Value} :
      Attains s (isMapping v) false → Attains s (Eval.vars v >>= (entriesBy · "items")) attrs →
      (k, w) ∈ attrs → Origin s v e (do return some (ofAttribute e (← Eval.plain k) w))
  | slot {attrs : List (Value × Value)} {names : List Value} {name : Value} :
      Attains s (isMapping v) false → Attains s (slots v) names → name ∈ names →
      Origin s v e (ofSlot v e attrs name)
  | failing (f : Fault) : Origin s v e (throw f)

theorem Origin.grows {s : Store} {v : Value} {e : String} {m : Eval (Option Child)}
    (h : Origin s v e m) : Grows m := by
  cases h with
  | entry => exact ofEntry_grows _ _ _
  | column => exact ofColumn_grows _ _ _
  | element => exact .pure _
  | own => exact (Grows.plain _).bind fun _ ↦ .pure _
  | slot => exact ofSlot_grows _ _ _ _
  | failing => exact .throw _

end Child

namespace Store

open Child

variable {s t u u' : Store} {v : Value} {e : String} {ms : List (Eval (Option Child))}
  {m : Eval (Option Child)} {c : Child}

/-- A value lists a member under a name. -/
inductive Presents (s : Store) (v : Value) : Way → String → Value → Prop
  | entry {entries : List (Value × Value)} {k w : Value} {name : String} :
      Attains s (isMapping v) true → Attains s (entriesBy v "items") entries →
      (k, w) ∈ entries → Attains s (isInstance k ["str"]) true → Attains s (Eval.plain k) name →
      Presents s v (.entry k) name w
  | column {columns label w : Value} {labels : List Value} {name : String} :
      Attains s (isMapping v) false → Attains s (getAttr? v "columns") (some columns) →
      Attains s (elements columns) labels → label ∈ labels → Attains s (Eval.plain label) name →
      Attains s (getItem v label) w → Presents s v (.column label) name w
  | own {attrs : List (Value × Value)} {k w : Value} {name : String} :
      Attains s (isMapping v) false → Attains s (Eval.vars v >>= (entriesBy · "items")) attrs →
      (k, w) ∈ attrs → Attains s (Eval.plain k) name → Presents s v (.own k) name w
  | slot {names : List Value} {slot w : Value} {name : String} :
      Attains s (isMapping v) false → Attains s (slots v) names → slot ∈ names →
      Attains s (return (← get).scalar slot) (.str name) → Attains s (getAttr v name) w →
      Presents s v .slot name w

/-! ### What is listed -/

theorem ofObject_run (hrun : (ofObject v e).run s = (.ok ms, t)) : ∃ attrs u,
    s.Keeps u ∧ (attrs = [] ∨ Attains s (Eval.vars v >>= (entriesBy · "items")) attrs) ∧
    (attributed v e attrs).run u = (.ok ms, t) := by
  rcases hvars : (Eval.vars v).run s with ⟨result, u⟩
  have hk := (Grows.vars v).keeps hvars
  cases result with
  | error f =>
    obtain ⟨shown, u', hshown, hrun⟩ := run_bind_eq_ok hrun
    rw [run_tryCatch_of_error (run_bind_of_error hvars)] at hshown
    split at hshown
    · cases hshown
      exact ⟨[], _, hk, .inl rfl, hrun⟩
    · cases hshown
  | ok d =>
    rw [ofObject, run_bind_of_ok (run_tryCatch_of_ok ((run_bind_of_ok hvars).trans rfl))] at hrun
    obtain ⟨attrs, u', hattrs, hrun⟩ := run_bind_eq_ok hrun
    have hk' := (entriesBy_grows d "items").keeps hattrs
    exact ⟨attrs, u', hk.trans hk', .inr ⟨s, u', .refl s, by rw [run_bind_of_ok hvars, hattrs]⟩,
      hrun⟩

theorem untabled_origin (hmapping : Attains s (isMapping v) false) (hk : s.Keeps u)
    (hrun : (untabled v e).run u = (.ok ms, t)) : ∀ m ∈ ms, Origin s v e m := by
  obtain ⟨isSequence, u₁, hsequence, hrun⟩ := run_bind_eq_ok hrun
  have hk₁ := (Grows.isInstance v _).keeps hsequence
  cases isSequence with
  | true =>
    obtain ⟨items, u₂, -, hrun⟩ := run_bind_eq_ok hrun
    cases hrun
    intro m hm
    obtain ⟨i, hi, rfl⟩ := List.mem_mapIdx.mp hm
    exact .element i items[i]
  | false =>
    obtain ⟨isAtomic, u₂, hatomic, hrun⟩ := run_bind_eq_ok hrun
    have hk₂ := (Grows.isInstance v _).keeps hatomic
    have hk := (hk.trans hk₁).trans hk₂
    cases isAtomic with
    | true =>
      cases hrun
      exact fun m hm ↦ nomatch hm
    | false =>
      obtain ⟨attrs, u₃, hk₃, hattrs, hrun⟩ := ofObject_run hrun
      intro m hm
      obtain ⟨k, w, hkw, rfl⟩ | ⟨names, u₄, hnames, name, hname, rfl⟩ | ⟨f, rfl⟩ :=
        attributed_mem hrun m hm
      · obtain rfl | hattrs := hattrs
        · cases hkw
        · exact .own hmapping (hattrs.of_keeps hk) hkw
      · exact .slot hmapping ⟨u₃, u₄, hk.trans hk₃, hnames⟩ hname
      · exact .failing f

/-- Every member of a value comes from what the value has listed. -/
theorem members_origin (hrun : (members v e).run s = (.ok ms, t)) :
    ∀ m ∈ ms, Origin s v e m := by
  -- The listing asks first for a mapping and then for a table; each question may add to the store.
  obtain ⟨counts, u, hmapping, hrun⟩ := run_bind_eq_ok hrun
  have hk := (Grows.isMapping v).keeps hmapping
  cases counts with
  | true =>
    obtain ⟨entries, u', hentries, hrun⟩ := run_bind_eq_ok hrun
    cases hrun
    intro m hm
    obtain ⟨⟨k, w⟩, hkw, rfl⟩ := List.mem_map.mp hm
    exact .entry ⟨s, u, .refl s, hmapping⟩ ⟨u, _, hk, hentries⟩ hkw
  | false =>
    have hmapping : Attains s (isMapping v) false := ⟨s, u, .refl s, hmapping⟩
    obtain ⟨found, u', hcolumns, hrun⟩ := run_bind_eq_ok hrun
    have hk' := (Grows.getAttr? v "columns").keeps hcolumns
    have hcolumns : Attains s (getAttr? v "columns") found := ⟨u, u', hk, hcolumns⟩
    have hk := hk.trans hk'
    dsimp only at hrun
    split at hrun
    · exact untabled_origin hmapping hk hrun
    · exact untabled_origin hmapping hk hrun
    next columns _ =>
      obtain ⟨isType, u₁, htype, hrun⟩ := run_bind_eq_ok hrun
      have hk₁ := (Grows.isInstance v _).keeps htype
      have hk := hk.trans hk₁
      cases isType with
      | true => exact untabled_origin hmapping hk hrun
      | false =>
        obtain ⟨answers, u₂, hanswers, hrun⟩ := run_bind_eq_ok hrun
        have hk₂ := (Grows.hasAttr v _).keeps hanswers
        have hk := hk.trans hk₂
        cases answers with
        | false => exact untabled_origin hmapping hk hrun
        | true =>
          obtain ⟨labels, u₃, hlabels, hrun⟩ := run_bind_eq_ok hrun
          cases hrun
          intro m hm
          obtain ⟨label, hlabel, rfl⟩ := List.mem_map.mp hm
          exact .column hmapping hcolumns ⟨u₂, _, hk, hlabels⟩ hlabel

/-- A member that is reached by a name is one that the value lists under it. -/
theorem presents_of_origin (h : Origin s v e m) (hk : s.Keeps u)
    (hread : m.run u = (.ok (some c), u')) (hkind : c.kind = .dollar ∨ c.kind = .at) :
    ∃ way name, c.name = way.selector.char.toString ++ name ∧ s.Presents v way name c.value := by
  cases h with
  -- A way to be presented records where each step of the reading was attained.
  | @entry entries k w hmapping hentries hkw =>
    obtain ⟨isText, u₁, htext, hread⟩ := run_bind_eq_ok hread
    have hk₁ := (Grows.isInstance k _).keeps htext
    cases isText with
    | true =>
      obtain ⟨name, u₂, hname, hread⟩ := run_bind_eq_ok hread
      cases hread
      exact ⟨.entry k, name, rfl, .entry hmapping hentries hkw ⟨u, u₁, hk, htext⟩
        ⟨u₁, _, hk.trans hk₁, hname⟩⟩
    | false =>
      obtain ⟨key, u₂, -, hread⟩ := run_bind_eq_ok hread
      cases hread
      simp at hkind
  | @column columns label labels hmapping hcolumns hlabels hlabel =>
    obtain ⟨name, u₁, hname, hread⟩ := run_bind_eq_ok hread
    have hk₁ := (Grows.plain label).keeps hname
    obtain ⟨w, u₂, hw, hread⟩ := run_bind_eq_ok hread
    cases hread
    exact ⟨.column label, name, rfl, .column hmapping hcolumns hlabels hlabel
      ⟨u, u₁, hk, hname⟩
      ⟨u₁, _, hk.trans hk₁, hw⟩⟩
  | element i w =>
    cases hread
    simp [ofElement] at hkind
  | @own attrs k w hmapping hattrs hkw =>
    obtain ⟨name, u₁, hname, hread⟩ := run_bind_eq_ok hread
    cases hread
    exact ⟨.own k, name, rfl, .own hmapping hattrs hkw ⟨u, _, hk, hname⟩⟩
  | @slot attrs names slot hmapping hnames hslot =>
    obtain ⟨_, u₁, hkey, hread⟩ := run_bind_eq_ok hread
    have hk₁ := (Grows.checkKey slot).keeps hkey
    rw [run_get_bind] at hread
    split at hread
    · cases hread
    split at hread
    next name hscalar =>
      obtain ⟨found, u₂, hfound, hread⟩ := run_bind_eq_ok hread
      cases found with
      | none => cases hread
      | some w =>
        cases hread
        have hk := hk.trans hk₁
        exact ⟨.slot, name, rfl, .slot hmapping hnames hslot
          ⟨u₁, u₁, hk, congrArg (Except.ok ·, u₁) hscalar⟩
          ⟨u₁, _, hk, getAttr_of_getAttr? hfound⟩⟩
    · cases hread
  | failing f => cases hread

end Store

end VariableExplorer
