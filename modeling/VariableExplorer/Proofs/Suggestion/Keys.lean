import VariableExplorer.Proofs.Kernel.Desk
import VariableExplorer.Proofs.Kernel.Itemising
import VariableExplorer.Proofs.Kernel.Variables
import VariableExplorer.Proofs.Suggestion.Members

/-!
Completing the keys of a mapping. The lookup asks a kernel for the members of the mapping and offers
those of its first texts that go on as typed.
-/

namespace VariableExplorer

open Eval Navigation

def textKeys (entries : List (Value × Value)) : List String := entries.filterMap (textKey? ·.1)

theorem Kernel.answer_children_raised {κ : Type} {k : Kernel κ} (hopen : k.closed = false)
    {r : ChildrenRequest} {f : Fault} {t : Store}
    (h : (Inspection.children k.env r fun _ ↦ false).run k.store = (.error f, t)) :
    k.answer (.children r) = (.raised f, { k with store := t }) := by
  simp only [answer, children, inspect, hopen, Bool.false_eq_true, if_false, eval, h]

namespace Provider

theorem trimLeading_selector (selector : Selector) (text : String) :
    trimLeading (selector.char.toString ++ text) = text := by
  have hcons : (selector.char.toString ++ text).toList = selector.char :: text.toList := by simp
  simp only [trimLeading, hcons, Selector.isSelector_char, if_true, String.ofList_toList]

theorem trimLeading_dollar (text : String) : trimLeading ("$" ++ text) = text :=
  trimLeading_selector .byName text

theorem fits_of_text {typed text : String} {i : ValueInfo} (hname : i.name = "$" ++ text)
    (hkind : i.accessorKind = .dollar) : Fits typed i ↔ typed.toList <+: text.toList := by
  simp [Fits, hname, hkind, trimLeading_dollar]

theorem not_fits_of_positional {typed : String} {i : ValueInfo}
    (hkind : i.accessorKind = .positional) : ¬ Fits typed i := by
  simp [Fits, hkind]

theorem filter_fits {entries : List (Value × Value)} {infos : List ValueInfo}
    (h : List.Forall₂ (fun e i ↦ Inspection.GoesBy e.1 i.name i.accessorKind) entries infos)
    (typed : String) : (infos.filter (Fits typed)).map (fun i ↦ trimLeading i.name) =
      (textKeys entries).filter (typed.toList <+: ·.toList) := by
  induction h with
  | nil => rfl
  | @cons e i entries infos hgoes _ ih =>
    unfold Inspection.GoesBy at hgoes
    cases hkey : textKey? e.1 with
    | none =>
      have hkind : i.accessorKind = .positional := by simpa only [hkey] using hgoes
      have hkeys : textKeys (e :: entries) = textKeys entries := List.filterMap_cons_none hkey
      rw [List.filter_cons_of_neg (by simpa using not_fits_of_positional hkind), hkeys, ih]
    | some text =>
      obtain ⟨hname, hkind⟩ : i.name = "$" ++ text ∧ i.accessorKind = .dollar := by
        simpa only [hkey] using hgoes
      have hkeys : textKeys (e :: entries) = text :: textKeys entries :=
        List.filterMap_cons_some hkey
      have hfits : Fits typed i ↔ typed.toList <+: text.toList := fits_of_text hname hkind
      by_cases htyped : typed.toList <+: text.toList
      · rw [List.filter_cons_of_pos (by simpa using hfits.mpr htyped), hkeys,
          List.filter_cons_of_pos (by simpa using htyped), List.map_cons, ih, hname,
          trimLeading_dollar]
      · rw [List.filter_cons_of_neg (by simpa using mt hfits.mp htyped), hkeys,
          List.filter_cons_of_neg (by simpa using htyped), ih]

def firstKeys (typed : String) (max : Int) (entries : List (Value × Value)) : List Candidate :=
  (((textKeys entries).filter (typed.toList <+: ·.toList)).take max.toNat).map fun text ↦
    { displayName := text }

theorem givenOnly_given (infos : List ValueInfo) :
    Element.givenOnly (infos.map .given) = infos := by
  rw [Element.givenOnly, List.filterMap_map]
  exact List.filterMap_some

theorem firstFitting_entries {entries : List (Value × Value)} {infos : List ValueInfo}
    (h : List.Forall₂ (fun e i ↦ Inspection.GoesBy e.1 i.name i.accessorKind) entries infos)
    (typed : String) (max : Int) :
    firstFitting typed max (infos.map .given) = firstKeys typed max entries := by
  rw [firstFitting, givenOnly_given, firstKeys, ← filter_fits h, ← List.map_take, List.map_map]
  rfl

variable {κ : Type}

def askKernel (c : Call) : StateM (Kernel κ) Answer := modifyGet (·.answer c)

theorem members_asks {p : Provider} (hprovider : p.closed = false) {e typed : String} {c : Char}
    {cs : List Char} (he : e.toList = c :: cs) (hc : Selector.isSelector c = false)
    (htyped : Free typed.toList) {w : Wait} (hcancelled : w.cancelled = false)
    (htaken : w.taken = true) {max : Int} (hmax : 0 < max) (snapshot : Snapshot)
    (selector : Selector) (k : Kernel κ) : ∃ result, Offers typed max w.looks result ∧
      (p.members snapshot askKernel (some (e ++ selector.char.toString ++ typed)) max false w).run
        k = ((result (k.answer (.children (p.request e false))).1),
          (k.answer (.children (p.request e false))).2) := by
  have hpath : (e ++ selector.char.toString ++ typed).toList =
      c :: cs ++ selector.char :: typed.toList := by simp [he]
  have hscope : scopeOf (e ++ selector.char.toString ++ typed).toList =
      .nested e selector typed := by
    rw [hpath, scopeOf_nested selector hc htyped, ← he, String.ofList_toList,
      String.ofList_toList]
  refine ⟨_, collect_offers typed max w.looks, ?_⟩
  rw [members_nested hprovider hscope hmax hcancelled htaken]
  rfl

/-- Completing behind an expression for a mapping, at a kernel that answers in time. Whatever its
values do when they are described, as long as it does not stop the program, the candidates are the
first of those texts that go on as typed among the keys of as many entries as the provider asks
for. -/
theorem members_of_mapping {k : Kernel κ} {p : Provider} (hopen : k.closed = false)
    (hprovider : p.closed = false) {e typed : String} {c : Char} {cs : List Char}
    (he : e.toList = c :: cs) (hc : Selector.isSelector c = false) (htyped : Free typed.toList)
    {v : Value} {s t : Store} {entries : List (Value × Value)}
    (hv : (evaluateChain k.env e).run k.store = (.ok v, s)) (hne : v ≠ .ref k.env)
    (hlisted : s.Enumerates v entries t) (hpass : t.Passes entries) {w : Wait}
    (hcancelled : w.cancelled = false) (htaken : w.taken = true) (hlooks : Wait.InTime w.looks)
    {max : Int} (hmax : 0 < max) (snapshot : Snapshot) (selector : Selector) : ∃ u,
      (p.members snapshot askKernel (some (e ++ selector.char.toString ++ typed)) max false w).run
        k = (.ok (firstKeys typed max (entries.take p.maxResults.toNat)),
          { k with store := u }) := by
  obtain ⟨result, hoffers, hrun⟩ :=
    members_asks hprovider he hc htyped hcancelled htaken hmax snapshot selector k
  have hkind : [Property.accessorKind, .hasChildren].contains .accessorKind = true := by decide
  obtain ⟨infos, u, hchildren, hall⟩ := Inspection.children_of_mapping hv hne hlisted hpass hkind
    p.maxResults (some p.waitTimeout) false
  have hanswer := Kernel.answer_children hopen (r := p.request e false) hchildren
  have hoffered := hoffers.inTime hlooks (infos.map .given) none
  refine ⟨u, ?_⟩
  rw [hrun, hanswer, ← firstFitting_entries hall, ← hoffered]
  rfl

/-- A dictionary with a number among its keys, a key that starts with a selector, and a value that
raises whenever its class is looked up. -/
def mixedKeys : Recipe :=
  Recipe.dict [(pure (.str "ab"), pure (.int 1)), (pure (.int 7), pure (.int 2)),
    (pure (.str "$a"), Kernel.hostile), (pure (.str "a"), pure .none)]

theorem mixedKeys_tame : Tame mixedKeys := by
  refine Recipe.dict_tame ?_
  simp [AllTame, Kernel.hostile_tame, Yields.pure]

def mixedEntries : List (Value × Value) :=
  [(.str "ab", .int 1), (.int 7, .int 2), (.str "$a", .ref 4), (.str "a", .none)]

theorem mixedEntries_keys (s : Store) : ∀ e ∈ mixedEntries, (∃ text, e.1 = .str text) ∨
    ∃ text, Gives s (isInstance e.1 ["str"]) false ∧ Gives s (shown e.1) text := by
  have hnumber : Gives s (isInstance (.int 7) ["str"]) false := (IsSimple.int 7).isInstance_gives s
  have hshown : Gives s (shown (.int 7)) "7" := .of_run fun _ _ ↦ rfl
  simp only [mixedEntries, List.forall_mem_cons]
  exact ⟨.inl ⟨_, rfl⟩, .inr ⟨_, hnumber, hshown⟩, .inl ⟨_, rfl⟩, .inl ⟨_, rfl⟩, by simp⟩

/-- Of its first three keys two are texts, and both are offered. -/
theorem members_mixedKeys : ∃ (k : Kernel Empty) (u : Store),
    Kernel.new ["globals"] [("d", mixedKeys)] false = .ok k ∧
    (Provider.members { maxResults := 3 } {} askKernel (some "d$") 5 false {}).run k =
      (.ok [{ displayName := "ab" }, { displayName := "$a" }], { k with store := u }) := by
  obtain ⟨k, hk, hd⟩ : ∃ k : Kernel Empty, k.Lone mixedKeys (.ref 5) ∧
      k.store.IsDict 5 mixedEntries :=
    ⟨_, ⟨rfl, rfl, ⟨_, _, rfl, by decide⟩, nofun⟩, rfl⟩
  obtain ⟨hsound, hopen, -⟩ :=
    Kernel.new_sound (List.forall_mem_singleton.mpr mixedKeys_tame) hk.made
  have hkind : k.store.isKind (.ref 5) mappingKinds = true := by
    rw [Store.isKind, hd.classOf]
    rfl
  obtain ⟨t, hlisted, -⟩ := hd.itemised.enumerates hkind
  have hpass : t.Passes mixedEntries :=
    (hlisted.civil hsound.civil).passes (mixedEntries_keys t)
  have hname : "d".toList = ['d'] := rfl
  have hfree : Free "".toList := by simp [Free]
  have hmax : (0 : Int) < 5 := by decide
  obtain ⟨u, hrun⟩ := members_of_mapping (p := { maxResults := 3 }) hopen rfl hname (by decide)
    hfree hk.evaluateChain_run hk.other hlisted hpass (w := {}) rfl rfl (.now rfl) hmax {} .byName
  exact ⟨k, u, hk.made, hrun⟩

def hostileKey : Recipe :=
  Recipe.dict [(Kernel.hostile, pure (.int 1)), (pure (.str "ab"), pure (.int 2))]

def stoppingValue : Recipe := Recipe.dict [(pure (.str "ab"), Kernel.stopping)]

/-- A key whose class cannot be looked up hides all keys, though it can be shown. -/
theorem members_hostileKey : ∃ k : Kernel Empty,
    Kernel.new ["globals"] [("d", hostileKey)] false = .ok k ∧ k.closed = false ∧
    (evaluateChain k.env "d").run k.store = (.ok (.ref 5), k.store) ∧
    k.store.Enumerates (.ref 5) [(.ref 4, .int 1), (.str "ab", .int 2)] k.store ∧
    (shown (.ref 4)).run k.store = (.ok "<Hostile>", k.store) ∧
    (Provider.members {} {} askKernel (some "d$") 5 false {}).run k = (.ok [], k) := by
  obtain ⟨k, hk, hmapping, hitems, hshown, htold⟩ : ∃ k : Kernel Empty,
      k.Lone hostileKey (.ref 5) ∧
      (isMapping (.ref 5)).run k.store = (.ok true, k.store) ∧
      (Child.entriesBy (.ref 5) "items").run k.store =
        (.ok [(.ref 4, .int 1), (.str "ab", .int 2)], k.store) ∧
      (shown (.ref 4)).run k.store = (.ok "<Hostile>", k.store) ∧
      (isInstance (.ref 4) ["str"]).run k.store =
        (.error (.raised "RuntimeError" none), k.store) :=
    ⟨_, ⟨rfl, rfl, ⟨_, _, rfl, by decide⟩, nofun⟩, rfl, rfl, rfl, rfl⟩
  have hs := hk.evaluateChain_run
  have hlisted : k.store.Enumerates (.ref 5) _ k.store := ⟨_, hmapping, hitems⟩
  have hread : (Child.ofEntry "d" (.ref 4) (.int 1)).run k.store =
      (.error (.raised "RuntimeError" none), k.store) := run_bind_of_error htold
  have hinner := Inspection.listing_run hs hk.other hlisted
    (Inspection.collect [.accessorKind, .hasChildren] none (some 100) (fun _ ↦ false) 1 0)
  rw [List.map_cons, Inspection.collect, run_bind_of_error hread] at hinner
  have hchildren := Inspection.children_run_of_error (r := Provider.request {} "d" false) hinner
  have hordinary : (VariableExplorer.Fault.raised "RuntimeError" none).isOrdinary = true := by
    decide
  rw [hordinary, if_pos rfl] at hchildren
  have hname : "d".toList = ['d'] := rfl
  have hfree : Free "".toList := by simp [Free]
  have hmax : (0 : Int) < 5 := by decide
  obtain ⟨result, hoffers, hrun⟩ := members_asks (p := {}) rfl hname (by decide) hfree (w := {})
    rfl rfl hmax {} .byName k
  rw [Kernel.answer_children hk.isOpen hchildren] at hrun
  have hresult := hoffers.unsuccessful (Kernel.listPayload (.evaluationError
    (VariableExplorer.Fault.raised "RuntimeError" none).report))
    (by simp [Kernel.listPayload, Outcome.evaluationError])
  exact ⟨k, hk.made, hk.isOpen, hs, hlisted, hshown, hrun.trans (congrArg (·, k) hresult)⟩

theorem members_stoppingValue : ∃ (k : Kernel Empty) (f : VariableExplorer.Fault),
    Kernel.new ["globals"] [("d", stoppingValue)] false = .ok k ∧ k.closed = false ∧
    (evaluateChain k.env "d").run k.store = (.ok (.ref 5), k.store) ∧
    k.store.Enumerates (.ref 5) [(.str "ab", .ref 4)] k.store ∧
    (Provider.members {} {} askKernel (some "d$") 5 false {}).run k = (.error (.raised f), k) := by
  obtain ⟨k, hk, hmapping, hitems, hdescribed⟩ : ∃ k : Kernel Empty,
      k.Lone stoppingValue (.ref 5) ∧
      (isMapping (.ref 5)).run k.store = (.ok true, k.store) ∧
      (Child.entriesBy (.ref 5) "items").run k.store = (.ok [(.str "ab", .ref 4)], k.store) ∧
      (Inspection.describeChild [.accessorKind, .hasChildren]
        ⟨"$ab", "d$ab", .dollar, .ref 4⟩).run k.store =
        (.error (.raised "SystemExit" none), k.store) :=
    ⟨_, ⟨rfl, rfl, ⟨_, _, rfl, by decide⟩, nofun⟩, rfl, rfl, rfl⟩
  have hs := hk.evaluateChain_run
  have hlisted : k.store.Enumerates (.ref 5) _ k.store := ⟨_, hmapping, hitems⟩
  have hread : (Child.ofEntry "d" (.str "ab") (.ref 4)).run k.store =
      (.ok (some ⟨"$ab", "d$ab", .dollar, .ref 4⟩), k.store) := rfl
  have hcollected : (Inspection.collect [.accessorKind, .hasChildren] none (some 100)
      (fun _ ↦ false) 1 0 [Child.ofEntry "d" (.str "ab") (.ref 4)]).run k.store =
      (.error (.raised "SystemExit" none), k.store) := by
    rw [Inspection.collect, run_bind_of_ok hread]
    show (Inspection.describeChild _ _ >>= _).run k.store = _
    rw [run_bind_of_error hdescribed]
  have hinner := Inspection.listing_run hs hk.other hlisted
    (Inspection.collect [.accessorKind, .hasChildren] none (some 100) (fun _ ↦ false) 1 0)
  have hchildren := Inspection.children_run_of_error
    (r := Provider.request {} "d" false) (hinner.trans hcollected)
  have hstops : (VariableExplorer.Fault.raised "SystemExit" none).isOrdinary = false := by
    decide
  rw [hstops, if_neg (by simp)] at hchildren
  have hanswer := Kernel.answer_children_raised hk.isOpen hchildren
  have hscope : scopeOf "d$".toList = .nested "d" .byName "" := by decide
  refine ⟨k, .raised "SystemExit" none, hk.made, hk.isOpen, hs, hlisted, ?_⟩
  rw [members_nested (p := {}) rfl hscope (by decide) rfl rfl]
  show (Provider.collect "" 5 (Wait.await (k.answer (.children (Provider.request {} "d" false))).1
    [⟨true, false⟩]), (k.answer (.children (Provider.request {} "d" false))).2) = _
  rw [hanswer]
  rfl

/-- Neither condition can be left out. -/
theorem members_unpassable :
    (∃ (k : Kernel Empty) (v : Value) (s t : Store) (entries : List (Value × Value)),
      Kernel.new ["globals"] [("d", hostileKey)] false = .ok k ∧ k.closed = false ∧
      (evaluateChain k.env "d").run k.store = (.ok v, s) ∧ s.Enumerates v entries t ∧
      (∀ e ∈ entries, (∃ text, e.1 = .str text) ∨ ∃ text, ((shown e.1).run t).1 = .ok text) ∧
      firstKeys "" 5 (entries.take 100) = [{ displayName := "ab" }] ∧
      ((Provider.members {} {} askKernel (some "d$") 5 false {}).run k).1 = .ok []) ∧
    ∃ (k : Kernel Empty) (v : Value) (s t : Store) (entries : List (Value × Value))
      (f : VariableExplorer.Fault),
      Kernel.new ["globals"] [("d", stoppingValue)] false = .ok k ∧ k.closed = false ∧
      (evaluateChain k.env "d").run k.store = (.ok v, s) ∧ s.Enumerates v entries t ∧
      (∀ e ∈ entries, ∃ text, e.1 = .str text) ∧
      firstKeys "" 5 (entries.take 100) = [{ displayName := "ab" }] ∧
      ((Provider.members {} {} askKernel (some "d$") 5 false {}).run k).1 =
        .error (.raised f) := by
  obtain ⟨k, hk, hopen, hs, hlisted, hshown, hrun⟩ := members_hostileKey
  obtain ⟨k', f, hk', hopen', hs', hlisted', hrun'⟩ := members_stoppingValue
  refine ⟨⟨k, _, _, _, _, hk, hopen, hs, hlisted, ?_, by decide, congrArg Prod.fst hrun⟩,
    k', _, _, _, _, f, hk', hopen', hs', hlisted', by simp, by decide, congrArg Prod.fst hrun'⟩
  simp [hshown]

end Provider

end VariableExplorer
