import VariableExplorer.Proofs.Kernel.Collecting
import VariableExplorer.Proofs.Navigation.Selecting
import VariableExplorer.Proofs.Suggestion.Failure
import VariableExplorer.Proofs.Suggestion.Keys

/-!
Going on with a candidate. What is offered behind an expression is a name under which the value of
the expression lists a member, and the path that is completed with it leads to that member.
-/

namespace VariableExplorer

open Eval Navigation

theorem Wait.eq_of_await_answered {a b : Answer} {looks : List Look}
    (h : Wait.await a looks = .answered b) : b = a := by
  induction looks with
  | nil => cases h
  | cons l ls ih =>
    rw [await] at h
    split at h
    · cases h
      rfl
    split at h
    · cases h
    · exact ih h

namespace Provider

variable {typed : String} {max : Int} {found : List Candidate} {c : Candidate}

theorem mem_of_named {es : List (Element ValueInfo)} (h : c ∈ named typed max 0 es) :
    ∃ i ∈ Element.givenOnly es, Fits typed i ∧ c.displayName = trimLeading i.name := by
  rw [named_eq] at h
  obtain ⟨i, hi, rfl⟩ := List.mem_map.mp h
  obtain ⟨hi, hfits⟩ := List.mem_filter.mp (List.mem_of_mem_take hi)
  exact ⟨i, hi, by simpa using hfits, rfl⟩

theorem collect_eq_ok {waited : Waited} (h : collect typed max waited = .ok found) :
    found = [] ∨ ∃ es error, waited = .answered (.values ⟨.ok, some (.many es), error⟩) ∧
      found = named typed max 0 es := by
  unfold collect at h
  split at h
  · cases h
  · split at h
    · cases h
      exact .inl rfl
    · cases h
  · cases h
    exact .inr ⟨_, _, rfl, rfl⟩
  · cases h
  · cases h
  · cases h
    exact .inl rfl

theorem members_eq_ok {σ : Type} {p : Provider} {snapshot : Snapshot}
    {ask : Call → StateM σ Answer} (path : Option String) {base : String} {selector : Selector}
    {cancellable : Bool} {w : Wait} {s : σ}
    (hpath : Reads (path.getD "").toList (.nested base selector typed))
    (h : ((p.members snapshot ask path max cancellable w).run s).1 = .ok found) :
    found = [] ∨ ∃ es error, ((ask (.children (p.request base cancellable))).run s).1 =
      .values ⟨.ok, some (.many es), error⟩ ∧ found = named typed max 0 es := by
  by_cases hmax : max ≤ 0
  · rw [members, lookup, if_pos hmax] at h
    cases h
    exact .inl rfl
  rw [members, lookup, if_neg hmax, Path.parse, hpath.unique] at h
  have h : collect typed max ((w.run p.closed (ask (.children (p.request base cancellable)))).run
      s).1 = .ok found := h
  obtain hempty | ⟨es, error, hwaited, hfound⟩ := collect_eq_ok h
  · exact .inl hempty
  rw [fst_run] at hwaited
  split at hwaited
  · cases hwaited
  split at hwaited
  · cases hwaited
  have hanswer := Wait.eq_of_await_answered hwaited
  split at hanswer
  · exact .inr ⟨es, error, hanswer.symm, hfound⟩
  · cases hanswer

variable {κ : Type}

/-- Completing a path behind an expression, whatever the bounds and however the wait goes: what is
offered is a name under which the value of the expression lists a member. Where the name is plain
and the value finds what it so lists behind the selector that is typed, the completed path leads to
that member, at once and whenever the expression leads to the value again. -/
theorem members_complete {k : Kernel κ} {p : Provider} {snapshot : Snapshot}
    {path base typed : String} {selector : Selector}
    (hpath : Reads path.toList (.nested base selector typed)) {max : Int} {cancellable : Bool}
    {w : Wait} {found : List Candidate}
    (hfound : ((p.members snapshot askKernel (some path) max cancellable w).run k).1 = .ok found)
    {c : Candidate} (hc : c ∈ found) : ∃ v s,
      (evaluateChain k.env base).run k.store = (.ok v, s) ∧ ∃ way member,
        s.Presents v way c.displayName member ∧
        (Chain.Plain c.displayName → s.Finds v c.displayName selector way →
          ∀ t t', (evaluateChain k.env base).run t = (.ok v, t') → s.Keeps t' →
            ((evaluateChain k.env (base ++ selector.char.toString ++ c.displayName)).run t).1 =
              .ok member) := by
  obtain rfl | ⟨es, error, hanswer, rfl⟩ := members_eq_ok (some path) hpath hfound
  · cases hc
  obtain ⟨infos, t, rfl, hchildren⟩ := Kernel.answer_children_eq_ok hanswer
  obtain ⟨i, hi, ⟨hkind, -⟩, hname⟩ := mem_of_named hc
  rw [givenOnly_given] at hi
  have hasked : [Property.accessorKind, .hasChildren].contains .accessorKind = true := by decide
  obtain ⟨v, s, hv, hlisted⟩ := Inspection.children_presents rfl hasked hchildren
  obtain ⟨way, name, member, hprefixed, hpresents⟩ := hlisted i hi hkind
  rw [hprefixed, trimLeading_selector] at hname
  refine ⟨v, s, hv, way, member, hname ▸ hpresents, fun hplain hfinds t t' ht hkeeps ↦ ?_⟩
  have htext : (base ++ selector.char.toString ++ c.displayName).toList =
      base.toList ++ selector.char :: c.displayName.toList := by simp
  obtain ⟨u, hu, -⟩ := hfinds.gives (hname ▸ hpresents) t' hkeeps
  rw [evaluateChain_named htext hplain, run_bind_of_ok ht, hu]

theorem describeChild_of_int {child : Child} {n : Int} (hvalue : child.value = .int n)
    (hkind : child.kind = .dollar ∨ child.kind = .at) (s : Store) : ∃ i,
    (Inspection.describeChild [.accessorKind, .hasChildren] child).run s = (.ok i, s) := by
  obtain ⟨name, expression, kind, value⟩ := child
  obtain rfl : value = .int n := hvalue
  obtain rfl | rfl : kind = .dollar ∨ kind = .at := hkind
  · exact ⟨_, rfl⟩
  · exact ⟨_, rfl⟩

theorem members_of_only {k : Kernel κ} (hopen : k.closed = false) {e name : String} {c : Char}
    {cs : List Char} (he : e.toList = c :: cs) (hc : Selector.isSelector c = false) {v : Value}
    {s t u : Store} {m : Eval (Option Child)} {child : Child} {n : Int} {inner : Selector}
    (hv : (evaluateChain k.env e).run k.store = (.ok v, s)) (hne : v ≠ .ref k.env)
    (hmembers : (Child.members v e).run s = (.ok [m], t))
    (hread : m.run t = (.ok (some child), u)) (hvalue : child.value = .int n)
    (hkind : child.kind = .dollar ∨ child.kind = .at)
    (hname : child.name = inner.char.toString ++ name) (selector : Selector) :
    ((Provider.members {} {} askKernel (some (e ++ selector.char.toString)) 5 false {}).run k).1 =
      .ok [{ displayName := name }] := by
  obtain ⟨i, hdescribed⟩ := describeChild_of_int hvalue hkind u
  have hcollected : (Inspection.collect [.accessorKind, .hasChildren] none (some 100)
      (fun _ ↦ false) 1 0 [m]).run t = (.ok (some [i]), u) := by
    rw [Inspection.collect, run_bind_of_ok hread]
    show (Inspection.describeChild _ _ >>= _).run u = _
    rw [run_bind_of_ok hdescribed]
    rfl
  have hinner := (Inspection.listing_run_of_members hv hne hmembers
    (Inspection.collect [.accessorKind, .hasChildren] none (some 100) (fun _ ↦ false) 1 0)).trans
      hcollected
  have hchildren := Inspection.children_run_of_ok (r := Provider.request {} e false) hinner
  have hfree : Free "".toList := by simp [Free]
  have hmax : (0 : Int) < 5 := by decide
  obtain ⟨result, hoffers, hrun⟩ := members_asks (p := {}) rfl he hc hfree (w := {}) rfl rfl hmax
    {} selector k
  rw [Kernel.answer_children hopen hchildren, String.append_empty] at hrun
  have hoffered := hoffers.inTime (.now rfl) [.given i] none
  obtain ⟨hsame, hasked⟩ := Inspection.describeChild_eq_ok hdescribed
  have hfits : Fits "" i := by
    rw [← hasked (by decide)] at hkind
    exact ⟨hkind, by simp⟩
  have htrim : trimLeading i.name = name := by rw [hsame, hname, trimLeading_selector]
  have hfirst : firstFitting "" 5 [.given i] = [{ displayName := name }] := by
    simp [firstFitting, Element.givenOnly, hfits, htrim]
  rw [hrun, ← hfirst, ← hoffered]
  rfl

def record : Recipe := Recipe.namespace_ [("a", pure (.int 1))]

/-- The attribute is offered behind the selector of entries, and is found behind it where there is
no such entry. -/
theorem members_complete_record : ∃ k : Kernel Empty,
    Kernel.new ["globals"] [("d", record)] false = .ok k ∧
    ((Provider.members {} {} askKernel (some "d$") 5 false {}).run k).1 =
      .ok [{ displayName := "a" }] ∧
    ((evaluateChain k.env "d$a").run k.store).1 = .ok (.int 1) := by
  obtain ⟨k, hk, hget, hattrs⟩ : ∃ k : Kernel Empty, k.Lone record (.ref 3) ∧
      k.store.get? 3 = some ⟨.native "SimpleNamespace", .plain, some 2, []⟩ ∧
      k.store.Binds 2 [("a", .int 1)] :=
    ⟨_, ⟨rfl, rfl, ⟨_, _, rfl, by decide⟩, nofun⟩, rfl, ⟨rfl, by decide⟩⟩
  have hd := hk.evaluateChain_run
  have hobject : k.store.Object (.ref 3) [("a", .int 1)] := .ofNamespace hget hattrs rfl
  have hclass : k.store.classOf (.ref 3) = .native "SimpleNamespace" := by
    simp only [Store.classOf, hget]
  have hbody : k.store.body (.ref 3) = .plain := by simp only [Store.body, hget]
  obtain ⟨t, hmembers, -⟩ := Store.Object.ofNamespace_members hget hattrs rfl "d" k.store (.refl _)
  have hname : "d".toList = ['d'] := rfl
  have hat : "@a" = Selector.byAttribute.char.toString ++ "a" := rfl
  have hfound := members_of_only hk.isOpen hname (by decide) hd hk.other hmembers rfl rfl
    (.inr rfl) hat .byName
  have hscope : scopeOf "d$".toList = .nested "d" .byName "" := by decide
  obtain ⟨v, s, hv, way, member, hpresents, hleads⟩ := members_complete
    (hscope ▸ reads_scopeOf _) hfound (List.mem_singleton.mpr rfl)
  cases hd.symm.trans hv
  obtain ⟨rfl, hmem⟩ := Store.Object.ofNamespace_presents hget hattrs rfl hpresents
  cases List.mem_singleton.mp hmem
  have hmisses : k.store.Misses (.ref 3) "a" :=
    hobject.toSettled.misses (by rw [hclass, Store.ofMade?_native]) (by simp [hbody])
      (by simp [hbody]) "a"
  have hfinds : k.store.Finds (.ref 3) "a" .byName (.own (.str "a")) :=
    .instead hmisses (hobject.finds fun f hf ↦ by rw [hclass] at hf; cases hf)
  exact ⟨k, hk.made, hfound, hleads (by decide) hfinds k.store k.store hd (.refl _)⟩

/-- A variable `d` that is made like this has a member which is offered behind the selector, and the
path that is completed with it leads to no member that is listed under this name. -/
def Strays (r : Recipe) (selector : Selector) (name : String) : Prop :=
  ∃ (k : Kernel Empty) (v : Value) (s : Store),
    Kernel.new ["globals"] [("d", r)] false = .ok k ∧ k.closed = false ∧
    (evaluateChain k.env "d").run k.store = (.ok v, s) ∧ Chain.Plain name ∧
    ((Provider.members {} {} askKernel (some ("d" ++ selector.char.toString)) 5 false {}).run
      k).1 = .ok [{ displayName := name }] ∧
    ∀ way w, s.Presents v way name w →
      ((evaluateChain k.env ("d" ++ selector.char.toString ++ name)).run k.store).1 ≠ .ok w

section

variable {r : Recipe} {k : Kernel Empty} {v : Value} {t u : Store}
  {m : Eval (Option Child)} {child : Child} {n : Int} {inner selector : Selector} {name : String}

theorem strays_of_only (hk : k.Lone r v)
    (hmembers : (Child.members v "d").run k.store = (.ok [m], t))
    (hread : m.run t = (.ok (some child), u)) (hvalue : child.value = .int n)
    (hkind : child.kind = .dollar ∨ child.kind = .at)
    (hname : child.name = inner.char.toString ++ name) (hplain : Chain.Plain name)
    (hlost : ∀ way w, k.store.Presents v way name w →
      ((Chain.named v selector name).run k.store).1 ≠ .ok w) : Strays r selector name := by
  have hd := hk.evaluateChain_run
  have htext : ("d" ++ selector.char.toString ++ name).toList =
      "d".toList ++ selector.char :: name.toList := by simp
  have hc : "d".toList = ['d'] := rfl
  refine ⟨k, v, k.store, hk.made, hk.isOpen, hd, hplain, members_of_only hk.isOpen hc (by decide)
    hd hk.other hmembers hread hvalue hkind hname selector, fun way w hw ↦ ?_⟩
  rw [evaluateChain_named htext hplain, run_bind_of_ok hd]
  exact hlost way w hw

theorem strays_of_entry {key : Value} {text : String} {f : VariableExplorer.Fault}
    (hk : k.Lone r v) (hmapping : (isMapping v).run k.store = (.ok true, k.store))
    (hitems : (Child.entriesBy v "items").run k.store = (.ok [(key, .int n)], k.store))
    (hread : (Child.ofEntry "d" key (.int n)).run k.store =
      (.ok (some ⟨text, "d" ++ text, .dollar, .int n⟩), k.store))
    (hname : text = Selector.byName.char.toString ++ name) (hplain : Chain.Plain name)
    (hlost : ((Chain.named v selector name).run k.store).1 = .error f) :
    Strays r selector name := by
  have hlisted : k.store.Enumerates v [(key, .int n)] k.store := ⟨_, hmapping, hitems⟩
  exact strays_of_only hk (hlisted.members_run "d") hread rfl (.inl rfl) hname hplain
    fun _ _ _ ↦ by rw [hlost]; simp

end

def keyed : Recipe := Recipe.dict [(pure (.str "a"), pure (.int 1))]

/-- It has no attribute of that name. -/
theorem keyed_strays : Strays keyed .byAttribute "a" := by
  obtain ⟨k, hk, hdict⟩ : ∃ k : Kernel Empty, k.Lone keyed (.ref 2) ∧
      k.store.IsDict 2 [(.str "a", .int 1)] :=
    ⟨_, ⟨rfl, rfl, ⟨_, _, rfl, by decide⟩, nofun⟩, rfl⟩
  have hdollar : "$a" = Selector.byName.char.toString ++ "a" := rfl
  have hkind : k.store.isKind (.ref 2) mappingKinds = true := by
    rw [Store.isKind, hdict.classOf]
    rfl
  obtain ⟨t, hlisted, -⟩ := hdict.itemised.enumerates hkind
  have hlacks : k.store.found? (k.store.classOf (.ref 2)) "a" = none := by
    rw [hdict.classOf]
    rfl
  have hattr := hdict.getAttr_missing hlacks
  exact strays_of_only hk (hlisted.members_run "d") rfl
    rfl (.inl rfl) hdollar (by decide) fun _ _ _ ↦ by rw [Chain.named, hattr]; simp

/-- A dictionary whose only key is a text that shows as another one. -/
def renamed : Recipe :=
  Recipe.dict [(Recipe.instance_ ⟨"__main__", "Text", some "str", some (pure (.str "b")), [], none,
    none, [], [], [("__str__", .ok (pure (.str "a")))], none, [], none⟩, pure (.int 1))]

/-- It is not found by the text that it shows. -/
theorem renamed_strays : Strays renamed .byName "a" := by
  obtain ⟨k, hk, hmapping, hitems, hread, hlost⟩ : ∃ k : Kernel Empty, k.Lone renamed (.ref 5) ∧
      (isMapping (.ref 5)).run k.store = (.ok true, k.store) ∧
      (Child.entriesBy (.ref 5) "items").run k.store = (.ok [(.ref 4, .int 1)], k.store) ∧
      (Child.ofEntry "d" (.ref 4) (.int 1)).run k.store =
        (.ok (some ⟨"$a", "d$a", .dollar, .int 1⟩), k.store) ∧
      ((Chain.named (.ref 5) .byName "a").run k.store).1 = .error (.missingKey "'a'") :=
    ⟨_, ⟨rfl, rfl, ⟨_, _, rfl, by decide⟩, nofun⟩, rfl, rfl, rfl, rfl⟩
  exact strays_of_entry hk hmapping hitems hread rfl (by decide) hlost

/-- A dictionary with the key `a` that raises when it is asked for an entry. -/
def refusing : Recipe :=
  Recipe.instance_ ⟨"__main__", "D", some "dict", some keyed, [], none, none, [], [], [],
    some (.error ⟨"RuntimeError", none⟩), [], none⟩

/-- What it raises is no failure to have the entry. -/
theorem refusing_strays : Strays refusing .byName "a" := by
  obtain ⟨k, hk, hmapping, hitems, hread, hlost⟩ : ∃ k : Kernel Empty, k.Lone refusing (.ref 5) ∧
      (isMapping (.ref 5)).run k.store = (.ok true, k.store) ∧
      (Child.entriesBy (.ref 5) "items").run k.store = (.ok [(.str "a", .int 1)], k.store) ∧
      (Child.ofEntry "d" (.str "a") (.int 1)).run k.store =
        (.ok (some ⟨"$a", "d$a", .dollar, .int 1⟩), k.store) ∧
      ((Chain.named (.ref 5) .byName "a").run k.store).1 =
        .error (.raised "RuntimeError" none) :=
    ⟨_, ⟨rfl, rfl, ⟨_, _, rfl, by decide⟩, nofun⟩, rfl, rfl, rfl, rfl⟩
  exact strays_of_entry hk hmapping hitems hread rfl (by decide) hlost

/-- A namespace with an attribute that its class has as well. -/
def masked : Recipe := Recipe.namespace_ [("__class__", pure (.int 1))]

/-- What the class has comes first. -/
theorem masked_strays : Strays masked .byAttribute "__class__" := by
  obtain ⟨k, hk, hget, hattrs, hlost⟩ : ∃ k : Kernel Empty, k.Lone masked (.ref 3) ∧
      k.store.get? 3 = some ⟨.native "SimpleNamespace", .plain, some 2, []⟩ ∧
      k.store.Binds 2 [("__class__", .int 1)] ∧
      ((Chain.named (.ref 3) .byAttribute "__class__").run k.store).1 =
        .ok (ClassRef.native "SimpleNamespace").toValue :=
    ⟨_, ⟨rfl, rfl, ⟨_, _, rfl, by decide⟩, nofun⟩, rfl, ⟨rfl, by decide⟩, rfl⟩
  have hat : "@__class__" = Selector.byAttribute.char.toString ++ "__class__" := rfl
  obtain ⟨t, hmembers, -⟩ := Store.Object.ofNamespace_members hget hattrs rfl "d" k.store (.refl _)
  refine strays_of_only hk hmembers rfl rfl (.inr rfl) hat (by decide) fun way w hw ↦ ?_
  obtain ⟨-, hmem⟩ := Store.Object.ofNamespace_presents hget hattrs rfl hw
  cases List.mem_singleton.mp hmem
  rw [hlost]
  nofun

/-- A table with the column 1. -/
def frame : Recipe :=
  Recipe.instance_ ⟨"__main__", "Frame", none, none, [], none, none,
    [("columns", Recipe.list [pure (.int 1)])], [], [],
    some (.ok [(pure (.int 1), pure (.int 7))]), [], none⟩

/-- The column is not found by its name as a text. -/
theorem frame_strays : Strays frame .byName "1" := by
  obtain ⟨k, t, hk, hmapping, hcolumns, htype, hanswers, hlabels, hread,
      hlost⟩ : ∃ (k : Kernel Empty) (t : Store), k.Lone frame (.ref 5) ∧
      (isMapping (.ref 5)).run k.store = (.ok false, k.store) ∧
      (getAttr? (.ref 5) "columns").run k.store = (.ok (some (.ref 3)), k.store) ∧
      (isInstance (.ref 5) ["type"]).run k.store = (.ok false, k.store) ∧
      (hasAttr (.ref 5) "__getitem__").run k.store = (.ok true, t) ∧
      (elements (.ref 3)).run t = (.ok [.int 1], t) ∧
      (Child.ofColumn (.ref 5) "d" (.int 1)).run t =
        (.ok (some ⟨"$1", "d$1", .dollar, .int 7⟩), t) ∧
      ((Chain.named (.ref 5) .byName "1").run k.store).1 = .error (.missingKey "'1'") :=
    ⟨_, _, ⟨rfl, rfl, ⟨_, _, rfl, by decide⟩, nofun⟩, rfl, rfl, rfl, rfl, rfl, rfl, rfl⟩
  have hdollar : "$1" = Selector.byName.char.toString ++ "1" := rfl
  have hmembers : (Child.members (.ref 5) "d").run k.store =
      (.ok [Child.ofColumn (.ref 5) "d" (.int 1)], t) := by
    rw [Child.members, run_bind_of_ok hmapping, if_neg (by decide), run_bind_of_ok hcolumns]
    dsimp only
    rw [run_bind_of_ok htype, if_neg (by decide), run_bind_of_ok hanswers, if_pos rfl,
      Option.getD_some, run_bind_of_ok hlabels]
    rfl
  exact strays_of_only hk hmembers hread rfl
    (.inl rfl) hdollar (by decide) fun _ _ _ ↦ by rw [hlost]; simp

/-- An object with the attribute `a` that raises when it is asked for an entry. -/
def guarded : Recipe :=
  Recipe.instance_ ⟨"__main__", "Guarded", none, none, [], none, none, [("a", pure (.int 1))], [],
    [], some (.error ⟨"RuntimeError", none⟩), [], none⟩

/-- What it raises is no failure to have the entry. -/
theorem guarded_strays : Strays guarded .byName "a" := by
  obtain ⟨k, hk, hmapping, hcolumns, hkinds, hdict, hattrs, hslots, hread,
      hlost⟩ : ∃ k : Kernel Empty, k.Lone guarded (.ref 4) ∧
      (isMapping (.ref 4)).run k.store = (.ok false, k.store) ∧
      (getAttr? (.ref 4) "columns").run k.store = (.ok none, k.store) ∧
      (∀ name ∈ ["list", "tuple"] ++ Child.atomicKinds,
        (isOf (.ref 4) name).run k.store = (.ok false, k.store)) ∧
      (Eval.vars (.ref 4)).run k.store = (.ok (.ref 3), k.store) ∧
      (Child.entriesBy (.ref 3) "items").run k.store = (.ok [(.str "a", .int 1)], k.store) ∧
      (Child.slots (.ref 4)).run k.store = (.ok [], k.store) ∧
      ((do return some (Child.ofAttribute "d" (← Eval.plain (.str "a")) (.int 1)) :
        Eval (Option Child))).run k.store = (.ok (some ⟨"@a", "d@a", .at, .int 1⟩), k.store) ∧
      ((Chain.named (.ref 4) .byName "a").run k.store).1 = .error (.raised "RuntimeError" none) :=
    ⟨_, ⟨rfl, rfl, ⟨_, _, rfl, by decide⟩, nofun⟩, rfl, rfl, by
      simp only [Child.atomicKinds, List.cons_append, List.nil_append, List.forall_mem_cons]
      exact ⟨rfl, rfl, rfl, rfl, rfl, rfl, rfl, rfl, rfl, nofun⟩, rfl, rfl, rfl, rfl, rfl⟩
  have hat : "@a" = Selector.byAttribute.char.toString ++ "a" := rfl
  obtain ⟨hsequences, hatoms⟩ := List.forall_mem_append.mp hkinds
  have hmembers : (Child.members (.ref 4) "d").run k.store =
      (.ok [do return some (Child.ofAttribute "d" (← Eval.plain (.str "a")) (.int 1))],
        k.store) := by
    rw [Child.members, run_bind_of_ok hmapping, if_neg (by decide), run_bind_of_ok hcolumns]
    dsimp only
    rw [pure_bind, if_neg (by decide), run_bind_of_ok (isInstance_run_of_none hsequences),
      if_neg (by decide), run_bind_of_ok (isInstance_run_of_none hatoms), if_neg (by decide),
      Child.ofObject, run_bind_of_ok (run_tryCatch_of_ok ((run_bind_of_ok hdict).trans rfl))]
    dsimp only
    rw [run_bind_of_ok hattrs,
      run_bind_of_ok (run_tryCatch_of_ok ((run_bind_of_ok hslots).trans rfl))]
    rfl
  exact strays_of_only hk hmembers hread rfl
    (.inr rfl) hat (by decide) fun _ _ _ ↦ by rw [hlost]; simp

/-- Each way to find what is listed has its limits: a name that is offered need not lead anywhere,
or to another member. -/
theorem members_incomplete :
    Strays keyed .byAttribute "a" ∧ Strays renamed .byName "a" ∧ Strays refusing .byName "a" ∧
      Strays masked .byAttribute "__class__" ∧ Strays frame .byName "1" ∧
      Strays guarded .byName "a" :=
  ⟨keyed_strays, renamed_strays, refusing_strays, masked_strays, frame_strays, guarded_strays⟩

end Provider

end VariableExplorer
