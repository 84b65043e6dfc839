import VariableExplorer.Description.Child
import VariableExplorer.Proofs.Value.Lookup

/-!
The kinds of values that have members: mappings, tables, sequences, other objects and classes. Of
each kind it is said what a value of it holds, and a subscript or an attribute gives that.
-/

namespace VariableExplorer

open Eval

namespace Store

variable {s t u : Store} {v w : Value} {vars : List (String × Value)} {name : String} {f : Found}
  {es entries : List (Value × Value)}

/-! ### What is held does not change -/

theorem Keeps.body_eq (hk : s.Keeps t) (h : s.body v ≠ .plain) : t.body v = s.body v := by
  cases v with
  | ref r =>
    cases hr : s.get? r with
    | none => simp [body, hr] at h
    | some o => simp only [body, hr, hk r o hr]
  | _ => rfl

theorem entriesOf_keeps {fuel : Nat} (hk : s.Keeps t) (h : entriesOf s fuel v = some es) :
    entriesOf t fuel v = some es := by
  induction fuel generalizing v with
  | zero => cases h
  | succ fuel ih =>
    simp only [entriesOf] at h ⊢
    have hbody : s.body v ≠ .plain := fun hplain ↦ by simp [hplain] at h
    rw [hk.body_eq hbody]
    split at h
    · exact h
    · exact ih h
    · cases h

theorem entriesOf_mono {fuel more : Nat} (h : entriesOf s fuel v = some es) (hle : fuel ≤ more) :
    entriesOf s more v = some es := by
  induction fuel generalizing v more with
  | zero => cases h
  | succ fuel ih =>
    obtain ⟨more, rfl⟩ := Nat.exists_eq_add_of_le' (Nat.le_trans (Nat.le_add_left 1 fuel) hle)
    simp only [entriesOf] at h ⊢
    split at h
    · exact h
    · exact ih h (Nat.le_of_succ_le_succ hle)
    · cases h

theorem sameKey_text (s : Store) (k : Value) (name : String) :
    s.sameKey k (.str name) = (s.scalar k).equalScalar (.str name) := by
  cases k <;> rfl

theorem lookup?_keeps (hk : s.Keeps t) (name : String)
    (hkeys : ∀ e ∈ es, ∀ r, e.1 = .ref r → (s.get? r).isSome = true) :
    t.lookup? (.str name) es = s.lookup? (.str name) es := by
  induction es with
  | nil => rfl
  | cons e es ih =>
    obtain ⟨k, w⟩ := e
    obtain ⟨hkey, hkeys⟩ := List.forall_mem_cons.mp hkeys
    have hsame : t.sameKey k (.str name) = s.sameKey k (.str name) := by
      cases k with
      | ref r =>
        obtain ⟨o, ho⟩ := Option.isSome_iff_exists.mp (hkey r rfl)
        have hscalar : t.scalar (.ref r) = s.scalar (.ref r) := by
          simp only [scalar, body, ho, hk r o ho]
        rw [sameKey_text, sameKey_text, hscalar]
      | _ => rfl
    rw [lookup?, lookup?, hsame, ih hkeys]

/-! ### The kinds -/

/-- A value with entries, whose native class lists them. -/
structure Itemised (s : Store) (v : Value) (vars : List (String × Value))
    (entries : List (Value × Value)) : Prop extends s.Ordinary v vars where
  content : entriesOf s 3 v = some entries
  lists : ∃ owner e, s.found? (s.classOf v) "items" = some (.native owner e) ∧
    (e = .method ∨ e = .defined)
  unhidden : vars.lookup "items" = none

/-- A mapping whose native class lists its entries and finds them by their keys. -/
structure Mapping (s : Store) (v : Value) (vars : List (String × Value))
    (entries : List (Value × Value)) : Prop extends s.Itemised v vars entries where
  kind : s.isKind v mappingKinds = true
  subscript : s.ofMade? (s.classOf v) "__getitem__" = none
  keys : ∀ e ∈ entries, Gives s (entry entries e.1) e.2

def Columnless (s : Store) (v : Value) : Prop :=
  ∃ c, (c = none ∨ c = some .none) ∧ Gives s (getAttr? v "columns") c

/-- A value with columns whose class answers for its subscripts. -/
structure Table (s : Store) (v : Value) (vars : List (String × Value)) : Prop
    extends s.Ordinary v vars where
  noMapping : s.isKind v mappingKinds = false
  noType : s.isKind v ["type"] = false
  columns : ∃ c, c ≠ .none ∧ Gives s (getAttr? v "columns") (some c)
  answers : Gives s (hasAttr v "__getitem__") true
  subscript : (∃ b, s.ofMade? (s.classOf v) "__getitem__" = some (.special b)) ∨
    ∃ items, s.ofMade? (s.classOf v) "__getitem__" = some (.table items) ∧
      ∀ e ∈ items, ∀ r, e.1 = .ref r → (s.get? r).isSome = true

def isSequence (s : Store) (v : Value) : Bool :=
  ["list", "tuple"].any fun name ↦ s.isKind v [name]

/-- A list or a tuple that its native class is asked for elements of. -/
structure Sequence (s : Store) (v : Value) (vars : List (String × Value)) (items : List Value) :
    Prop extends s.Ordinary v vars where
  noMapping : s.isKind v mappingKinds = false
  columnless : s.Columnless v
  kind : s.isSequence v = true
  content : s.body v = .list items ∨ s.body v = .tuple items
  subscript : s.ofMade? (s.classOf v) "__getitem__" = none
  length : (items.length : Int) ≤ greatestIndex

/-- Any other object, which shows the dictionary of its attributes if it has one. -/
structure Object (s : Store) (v : Value) (vars : List (String × Value)) : Prop
    extends s.Ordinary v vars where
  noMapping : s.isKind v mappingKinds = false
  columnless : s.Columnless v
  noSequence : s.isSequence v = false
  dict : Gives s (getAttr? v "__dict__") ((s.dict? v).map .ref)

/-! ### Mappings -/

theorem IsDict.itemised {r : Ref} (h : s.IsDict r es) : s.Itemised (.ref r) [] es where
  object r' hr := by
    cases hr
    rw [h.get?]
    rfl
  classes r' hr := by
    rw [h.classOf] at hr
    simp [lineage] at hr
  noClass := h.asClass?
  tells := ⟨_, h.found_class⟩
  owns := by simp [Owns, dict?, object?, h.get?]
  content := by simp only [entriesOf, h.body]
  lists := by
    rw [h.classOf]
    exact ⟨"dict", .method, rfl, .inl rfl⟩
  unhidden := rfl

theorem Binds.mapping {r : Ref} (h : s.Binds r vars) :
    s.Mapping (.ref r) [] (vars.map asEntry) where
  toItemised := h.dict.itemised
  kind := by
    rw [isKind, h.dict.classOf]
    rfl
  subscript := by rw [h.dict.classOf, ofMade?_native]
  keys e he := by
    obtain ⟨⟨name, w⟩, hw, rfl⟩ := List.mem_map.mp he
    have hkey (t : Store) : (checkKey (.str name)).run t = (.ok (), t) := rfl
    refine .of_run fun t _ ↦ ?_
    rw [entry, asEntry, run_bind_of_ok (hkey t), run_get_bind, lookup?_asEntry, h.lookup hw]
    rfl

theorem newView_run (es : List (Value × Value)) (s : Store) : ∃ r u,
    (newView es).run s = (.ok (.ref r), u) ∧ s.Keeps u ∧ u.Itemised (.ref r) [] es := by
  -- Two objects are made, the dictionary and the view of it.
  let s₁ := (s.alloc ⟨.native "dict", .dict es, none, []⟩).1
  let o : VariableExplorer.Object :=
    ⟨.native "mappingproxy", .view (.ref s.objects.size), none, []⟩
  let s₂ := (s₁.alloc o).1
  have hdict : s₂.IsDict s.objects.size es := by
    refine IsDict.keeps ?_ (s₁.keeps_alloc o)
    rw [IsDict, get?_alloc, if_pos rfl]
  have hview : s₂.get? s₁.objects.size = some o := by rw [get?_alloc, if_pos rfl]
  have hclass : s₂.classOf (.ref s₁.objects.size) = .native "mappingproxy" := by
    simp only [classOf, hview, o]
  have hbody : s₂.body (.ref s₁.objects.size) = .view (.ref s.objects.size) := by
    simp only [body, hview, o]
  exact ⟨s₁.objects.size, s₂, rfl, (s.keeps_alloc _).trans (s₁.keeps_alloc _), {
    object := fun r hr ↦ by
      cases hr
      rw [hview]
      rfl
    classes := fun r hr ↦ by
      rw [hclass] at hr
      simp [lineage] at hr
    noClass := by simp [asClass?, classDef?, hview, o]
    tells := by
      rw [hclass]
      exact ⟨"object", rfl⟩
    owns := by simp [Owns, dict?, object?, hview, o]
    content := by simp only [entriesOf, hbody, hdict.body]
    lists := by
      rw [hclass]
      exact ⟨"mappingproxy", .method, rfl, .inl rfl⟩
    unhidden := rfl }⟩

theorem Itemised.entriesBy_gives (h : s.Itemised v vars entries) :
    Gives s (Child.entriesBy v "items") entries := by
  intro t ht
  obtain ⟨owner, e, hfound, he⟩ := h.lists
  have hplain : (plainAttr v "items").run t = (Eval.bind v "items" (.native owner e)).run t := by
    refine plainAttr_of_class ?_ ?_ ?_
    · rw [h.found?_eq ht, hfound]
    · obtain rfl | rfl := he <;> rfl
    · rw [(h.toOrdinary.keeps ht).owns.lookup, h.unhidden]
  have hgiven (u : Store) (hu : s.Keeps u) (fail : Eval (List (Value × Value))) :
      Child.entriesBy.given u v fail = pure entries := by
    simp only [Child.entriesBy.given, entriesOf_keeps hu h.content]
  -- A native method is called as it is; what a class defines is bound to the value first.
  obtain rfl | rfl := he
  · have hattr : (getAttr v "items").run t = (.ok (.operation v "items"), t) :=
      (h.toInstance.keeps ht).getAttr_of_plainAttr hplain
    refine ⟨t, ?_, .refl t⟩
    rw [Child.entriesBy, run_bind_of_ok hattr, run_get_bind]
    simp only [if_true, hgiven t ht]
    rfl
  · obtain ⟨r, r', u, hrun, hk, hmethod, hfunction⟩ := newMethod_run v "items" t
    have hattr := (h.toInstance.keeps ht).getAttr_of_plainAttr (hplain.trans hrun)
    refine ⟨u, ?_, hk⟩
    rw [Child.entriesBy, run_bind_of_ok hattr, run_get_bind]
    simp only [hmethod, hfunction, if_true, hgiven u (ht.trans hk)]
    rfl

/-- The keys of what a value holds are all that a subscript looks for, unless a class of it was made
to answer for subscripts. -/
theorem Settled.getItem_run (h : s.Settled v) (hcontent : entriesOf s 3 v = some entries)
    (hsubscript : s.ofMade? (s.classOf v) "__getitem__" = none) (ht : s.Keeps t) (key : Value) :
    (getItem v key).run t = (entry entries key).run t := by
  have hcontent : entriesOf t (2 + 1) v = some entries := entriesOf_keeps ht hcontent
  rw [getItem, run_get_bind, h.ofMade?_eq ht, hsubscript]
  rw [entriesOf] at hcontent
  split at hcontent
  next hbody =>
    cases hcontent
    simp only [hbody]
  next target hbody => simp only [hbody, entriesOf_mono hcontent (Nat.le_succ 2)]
  · cases hcontent

theorem Mapping.getItem_run (h : s.Mapping v vars entries) (ht : s.Keeps t) (key : Value) :
    (getItem v key).run t = (entry entries key).run t :=
  h.toSettled.getItem_run h.content h.subscript ht key

theorem Mapping.getItem_gives (h : s.Mapping v vars entries) {key : Value}
    (hkey : Gives s (entry entries key) w) : Gives s (getItem v key) w := fun t ht ↦ by
  rw [h.getItem_run ht]
  exact hkey t ht

/-! ### Tables and sequences -/

theorem Table.getItem_gives (h : s.Table v vars) (hk : s.Keeps t)
    (hw : (getItem v (.str name)).run t = (.ok w, u)) : Gives s (getItem v (.str name)) w := by
  obtain ⟨b, hb⟩ | ⟨items, hitems, hkeys⟩ := h.subscript
  · have hrun (t : Store) (ht : s.Keeps t) :
        (getItem v (.str name)).run t = (ofExcept b : Eval Value).run t := by
      rw [getItem, run_get_bind, h.ofMade?_eq ht, hb]
    rw [hrun t hk] at hw
    cases b with
    | error f => cases hw
    | ok w' =>
      cases hw
      exact .of_run hrun
  · have hkey (t : Store) : (checkKey (.str name)).run t = (.ok (), t) := rfl
    have hrun (t : Store) (ht : s.Keeps t) :
        (getItem v (.str name)).run t = (entry items (.str name)).run t := by
      rw [getItem, run_get_bind, h.ofMade?_eq ht, hitems]
    cases hl : s.lookup? (.str name) items with
    | some w' =>
      have hgives : Gives s (getItem v (.str name)) w' := by
        refine .of_run fun t ht ↦ ?_
        rw [hrun t ht, entry, run_bind_of_ok (hkey t), run_get_bind, lookup?_keeps ht name hkeys]
        simp only [hl]
        rfl
      rwa [hgives.eq hk hw]
    | none =>
      rw [hrun t hk, entry, run_bind_of_ok (hkey t), run_get_bind, lookup?_keeps hk name hkeys] at hw
      simp only [hl] at hw
      obtain ⟨text, u', -, hfail⟩ := run_bind_eq_ok hw
      cases hfail

theorem Sequence.getItem_gives {items : List Value} {i : Nat} (h : s.Sequence v vars items)
    (hw : items[i]? = some w) : Gives s (getItem v (.int i)) w := by
  obtain ⟨hi, hget⟩ := List.getElem?_eq_some_iff.mp hw
  have hlength := h.length
  have hindex (what : String) (outside : Fault) (t : Store) :
      (indexIn items.length what outside (.int i)).run t = (.ok i, t) := by
    have hwithin : ¬ (greatestIndex < (i : Int) || (i : Int) < -greatestIndex - 1) = true := by
      simp only [Bool.or_eq_true, decide_eq_true_eq]
      omega
    have hposition : position? items.length i = some i := by
      have hsign : ¬ (i : Int) < 0 := by omega
      simp only [position?, hsign, if_false]
      simp [hi]
    rw [indexIn, run_get_bind]
    simp only [asInt?, scalar, body, hposition]
    rw [if_neg hwithin]
    rfl
  refine .of_run fun t ht ↦ ?_
  rw [getItem, run_get_bind, h.ofMade?_eq ht, h.subscript]
  have hbody := h.body_eq ht
  obtain hlist | htuple := h.content
  · rw [hlist] at hbody
    simp only [hbody]
    rw [run_bind_of_ok (hindex _ _ t), List.getD_eq_getElem?_getD, hw]
    rfl
  · rw [htuple] at hbody
    simp only [hbody]
    rw [run_bind_of_ok (hindex _ _ t), List.getD_eq_getElem?_getD, hw]
    rfl

/-! ### Values of the kinds -/

theorem Ordinary.getAttr?_missing (h : s.Ordinary v vars)
    (hfound : s.found? (s.classOf v) name = none) (hown : vars.lookup name = none)
    (hmade : s.ofMade? (s.classOf v) "__getattr__" = none)
    (hbody : ∀ bearer func, s.body v ≠ .method bearer func) :
    Gives s (getAttr? v name) none := by
  refine .of_run fun t ht ↦ ?_
  obtain ⟨f, hf, hplain⟩ : ∃ f : Fault, f.isA "AttributeError" = true ∧
      (plainAttr v name).run t = (.error f, t) := by
    rw [plainAttr, run_get_bind, h.found?_eq ht, hfound]
    simp only [plainAttr.ofOwn, (h.keeps ht).owns.lookup, hown, h.body_eq ht]
    split
    next bearer func hmethod => exact absurd hmethod (hbody bearer func)
    · exact ⟨_, rfl, rfl⟩
    · exact ⟨_, rfl, rfl⟩
  have hattr : (getAttr v name).run t = (.error f, t) := by
    rw [getAttr, run_get_bind]
    simp only [(h.keeps ht).noClass, h.ofMade?_eq ht, hmade]
    exact hplain
  rw [getAttr?, run_tryCatch_of_error (run_bind_of_error hattr), if_pos hf]
  rfl

theorem Ordinary.ofNative {r : Ref} {cls : String} {b : Body} {attrs : Option Ref}
    (h : s.get? r = some ⟨.native cls, b, attrs, []⟩) (hb : ∀ d, b ≠ .classDef d)
    (htells : ∃ owner, s.found? (.native cls) "__class__" = some (.native owner .computed))
    (howns : s.Owns (.ref r) vars) : s.Ordinary (.ref r) vars := by
  have hclass : s.classOf (.ref r) = .native cls := by simp only [classOf, h]
  refine ⟨⟨?_, ?_⟩, ?_, hclass ▸ htells, howns⟩
  · rintro r' ⟨⟩
    rw [h]
    rfl
  · rw [hclass]
    simp [lineage]
  · cases b with
    | classDef d => exact absurd rfl (hb d)
    | _ => simp [asClass?, classDef?, h]

theorem Sequence.ofNative {r : Ref} {cls : String} {b : Body} {items : List Value}
    (hcls : cls = "list" ∧ b = .list items ∨ cls = "tuple" ∧ b = .tuple items)
    (h : s.get? r = some ⟨.native cls, b, none, []⟩)
    (hlength : (items.length : Int) ≤ greatestIndex) : s.Sequence (.ref r) [] items := by
  have hclass : s.classOf (.ref r) = .native cls := by simp only [classOf, h]
  have hbody : s.body (.ref r) = b := by simp only [body, h]
  have hordinary : s.Ordinary (.ref r) [] := by
    refine .ofNative h ?_ ?_ (by simp [Owns, dict?, object?, h])
    · obtain ⟨-, rfl⟩ | ⟨-, rfl⟩ := hcls <;> simp
    · obtain ⟨rfl, -⟩ | ⟨rfl, -⟩ := hcls <;> exact ⟨"object", rfl⟩
  have hcolumns : s.Columnless (.ref r) := by
    refine ⟨none, .inl rfl, hordinary.getAttr?_missing ?_ rfl ?_ ?_⟩
    · rw [hclass]
      obtain ⟨rfl, -⟩ | ⟨rfl, -⟩ := hcls <;> rfl
    · rw [hclass, ofMade?_native]
    · rw [hbody]
      obtain ⟨-, rfl⟩ | ⟨-, rfl⟩ := hcls <;> simp
  refine ⟨hordinary, ?_, hcolumns, ?_, ?_, by rw [hclass, ofMade?_native], hlength⟩
  · rw [isKind, hclass]
    obtain ⟨rfl, -⟩ | ⟨rfl, -⟩ := hcls <;> rfl
  · simp only [isSequence, isKind, hclass]
    obtain ⟨rfl, -⟩ | ⟨rfl, -⟩ := hcls <;> rfl
  · rw [hbody]
    exact hcls.imp (·.2) (·.2)

/-- A value whose class computes the dictionary of its attributes shows the one it has. -/
theorem Instance.dict_gives {r : Ref} (h : s.Instance v vars) (hd : s.dict? v = some r)
    (hfound : s.found? (s.classOf v) "__dict__" = some f) (hdata : f.isData = true)
    (hbind : Eval.bind v "__dict__" f = computed v "__dict__") :
    Gives s (getAttr? v "__dict__") ((s.dict? v).map .ref) := by
  rw [hd]
  refine .of_run fun t ht ↦ getAttr?_of_getAttr ((h.keeps ht).getAttr_of_plainAttr ?_)
  have hobject : (t.object? v).bind (·.attrs) = some r := by rw [h.object?_eq ht, ← hd, dict?]
  rw [plainAttr_of_data (by rw [h.found?_eq ht, hfound]) hdata, hbind, computed, run_get_bind,
    if_neg (by decide), if_pos rfl]
  simp only [hobject]
  rfl

theorem Object.ofNamespace {r a : Ref}
    (h : s.get? r = some ⟨.native "SimpleNamespace", .plain, some a, []⟩) (ha : s.Binds a vars)
    (hcolumns : vars.lookup "columns" = none) : s.Object (.ref r) vars := by
  have hclass : s.classOf (.ref r) = .native "SimpleNamespace" := by simp only [classOf, h]
  have hdict : s.dict? (.ref r) = some a := by simp only [dict?, object?, h, Option.bind_some]
  have hordinary : s.Ordinary (.ref r) vars := by
    refine .ofNative h (by simp) ⟨"object", rfl⟩ ?_
    rw [Owns, hdict]
    exact ha
  have hbody : s.body (.ref r) = .plain := by simp only [body, h]
  refine ⟨hordinary, ?_, ⟨none, .inl rfl, hordinary.getAttr?_missing ?_ hcolumns ?_ ?_⟩, ?_, ?_⟩
  · rw [isKind, hclass]
    rfl
  · rw [hclass]
    rfl
  · rw [hclass, ofMade?_native]
  · simp [hbody]
  · simp only [isSequence, isKind, hclass]
    rfl
  · refine hordinary.toInstance.dict_gives (f := .native "SimpleNamespace" .member) hdict ?_ rfl rfl
    rw [hclass]
    rfl

end Store

end VariableExplorer
