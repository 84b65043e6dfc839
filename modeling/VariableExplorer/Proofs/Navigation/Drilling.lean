import VariableExplorer.Proofs.Description.Listing
import VariableExplorer.Proofs.Expression.Place

/-!
Drilling down. The expression of a listed member, evaluated where the value was, leads back to the
member, if its key is written so that the chain can be read.
-/

namespace VariableExplorer

open Eval Child

variable {env : Ref} {s t u u' : Store} {e : String} {v w : Value} {vars : List (String × Value)}
  {entries : List (Value × Value)} {source : Source} {c : Child}

/-! ### Subscripts -/

/-- A key in brackets behind the expression is a subscript of what the expression is read as. -/
inductive Subscriptable (e : String) : Prop
  | member : Chain.Extensible e → Subscriptable e
  | head {x : Expr} : Navigation.Free e.toList →
      Expr.parse "<string>" (withoutIndent e) = .ok x →
      (∀ t i, Expr.Written t i →
        Expr.parse "<string>" (withoutIndent (e ++ "[" ++ t ++ "]")) = .ok (.subscript x i)) →
      Subscriptable e

theorem Expr.Place.subscriptable {x : Expr} (h : Expr.Place e x) : Subscriptable e := by
  refine .head (x := x) h.free ?_ fun t i ht ↦ ?_
  · rw [h.legible.withoutIndent, h.parse]
  · rw [(h.key ht).legible.withoutIndent, (h.key ht).parse]

/-- The text of a key is read as an expression that finds what the value holds. -/
structure Spells (env : Ref) (s : Store) (v w : Value) (t : String) (i : Expr) : Prop
    extends Expr.Written t i where
  literal : Gives s (Literal.value i >>= getItem v) w
  finds : Gives s (Eval.expr env i >>= getItem v) w

theorem Expr.Written.spells {t : String} {k : Value} (ht : Expr.Written t (.constant k))
    (hw : Gives s (getItem v k) w) : Spells env s v w t (.constant k) := ⟨ht, hw, hw⟩

theorem evaluateChain_free (h : Navigation.Free e.toList) :
    evaluateChain env e = evaluate env e := by
  rw [evaluateChain, Chain.ofText_of_free h, Chain.value]
  simp only [List.foldlM_nil, bind_pure]

theorem expr_subscript {i : Expr} (hi : ∀ a b c, i ≠ .part a b c) (x : Expr) :
    Eval.expr env (.subscript x i) = Eval.expr env x >>= fun v ↦ Eval.expr env i >>= getItem v := by
  cases i with
  | part a b c => exact absurd rfl (hi a b c)
  | _ => simp only [Eval.expr]

theorem evaluateChain_subscript {t : String} {i : Expr} (he : Subscriptable e)
    (hrun : (evaluateChain env e).run u = (.ok v, u')) (hi : Spells env s v w t i)
    (hk : s.Keeps u') :
    ∃ r, (evaluateChain env (e ++ "[" ++ t ++ "]")).run u = (.ok w, r) ∧ u'.Keeps r := by
  -- Behind a member the key is read as a literal; else it is part of what is evaluated.
  cases he with
  | member he =>
    obtain ⟨r, hr, hk'⟩ := hi.literal u' hk
    refine ⟨r, ?_, hk'⟩
    rw [evaluateChain_indexed hrun he hi.free hi.inside, Chain.indexed, Literal.read,
      hi.toLegible.withoutIndent, hi.toWritten.parse, ← hr]
    rfl
  | @head x hfree hhead hall =>
    -- A part of a sequence is evaluated in an order of its own, but it is no literal.
    have hpart (a b c) : i ≠ .part a b c := by
      rintro rfl
      obtain ⟨r, hr, -⟩ := hi.literal u' hk
      cases hr
    obtain ⟨r, hr, hk'⟩ := hi.finds u' hk
    refine ⟨r, ?_, hk'⟩
    rw [evaluateChain_free hfree, evaluate, hhead] at hrun
    obtain ⟨_, s', hprovide, hrun⟩ := run_bind_eq_ok hrun
    rw [evaluateChain_free (hfree.brackets hi.free), evaluate, hall t i hi.toWritten,
      run_bind_of_ok hprovide]
    have hrun : (Eval.expr env x).run s' = (.ok v, u') := hrun
    show (Eval.expr env (.subscript x i)).run s' = _
    rw [expr_subscript hpart, run_bind_of_ok hrun, hr]

/-! ### Members -/

/-- The key of a member is written so that it can be read, and nothing else is found by it. -/
inductive Legible (env : Ref) (s : Store) (v : Value) : Source → Prop
  | text {k : String} {w : Value} : Chain.Plain k → Legible env s v (.entry (.str k) w)
  | key {k w : Value} {t : String} {i : Expr} : Gives s (isInstance k ["str"]) false →
      Gives s (Eval.shown k) t → Spells env s v w t i → Legible env s v (.entry k w)
  | column {name : String} : Chain.Plain name → Legible env s v (.column (.str name))
  | element {i : Nat} {w : Value} : Legible env s v (.element i w)
  | own {name : String} {w : Value} : Chain.Plain name →
      (∀ f, s.found? (s.classOf v) name = some f → f.isData = false) →
      Legible env s v (.own name w)
  | declared {c : ClassRef} {name : String} {f : Found} {w : Value} : Chain.Plain name →
      s.asClass? v = some c → (s.declared c).lookup name = some f → f.isStill = true →
      (∀ g, s.found? (.native "type") name = some g → g.isData = false) →
      Legible env s v (.declared name f w)
  | slot {attrs : List (Value × Value)} {owner name : String} : Chain.Plain name →
      s.found? (s.classOf v) name = some (.made owner .slot) →
      Legible env s v (.slot attrs (.str name))

/-- How the expression of a member goes on from that of the value. -/
inductive Leads (env : Ref) (s : Store) (v : Value) (e : String) (c : Child) : Prop
  | named {selector : Selector} {name : String} : Chain.Plain name →
      c.expression.toList = e.toList ++ selector.char :: name.toList →
      Gives s (Chain.named v selector name) c.value → Leads env s v e c
  | key {t : String} {i : Expr} : c.kind = .positional → c.expression = e ++ "[" ++ t ++ "]" →
      Spells env s v c.value t i → Leads env s v e c

theorem Leads.byName {name : String} (hname : Chain.Plain name)
    (hexpression : c.expression = e ++ "$" ++ name)
    (hw : Gives s (Chain.entryOrAttribute v name) c.value) : Leads env s v e c := by
  refine .named hname (?_ : _ = e.toList ++ Selector.byName.char :: name.toList) hw
  simp [hexpression, Selector.char]

theorem Leads.byAttribute {name : String} (hname : Chain.Plain name)
    (hexpression : c.expression = e ++ "@" ++ name) (hw : Gives s (getAttr v name) c.value) :
    Leads env s v e c := by
  refine .named hname (?_ : _ = e.toList ++ Selector.byAttribute.char :: name.toList) hw
  simp [hexpression, Selector.char]

theorem Legible.leads (h : Legible env s v source) (hv : s.Holds v source) (hk : s.Keeps u)
    (hread : (source.read v e).run u = (.ok (some c), u')) : Leads env s v e c := by
  -- What the member is read from tells how the value holds it, and what its expression finds.
  cases h with
  | @text k w hname =>
    cases hv with | entry hv hkw =>
    cases hread
    exact .byName hname rfl (hv.getItem_gives (hv.keys _ hkw)).tryCatch
  | @key k w t i hinstance hshown hspells =>
    obtain ⟨u₁, hk, hread⟩ := hinstance.rest hk hread
    rw [if_neg (by decide)] at hread
    obtain ⟨u₂, -, hread⟩ := hshown.rest hk hread
    cases hread
    exact .key rfl rfl hspells
  | @column name hname =>
    cases hv with | column hv =>
    obtain ⟨text, u₁, htext, hread⟩ := run_bind_eq_ok hread
    cases htext
    obtain ⟨w, u₂, hw, hread⟩ := run_bind_eq_ok hread
    cases hread
    exact .byName hname rfl (hv.getItem_gives hk hw).tryCatch
  | @element i w =>
    cases hv with | element hv hw =>
    cases hread
    exact .key rfl rfl ((Expr.Written.natural i).spells (hv.getItem_gives hw))
  | @own name w hname hfound =>
    cases hv with | own hv hw =>
    cases hread
    exact .byAttribute hname rfl
      (hv.toInstance.getAttr_own (hv.owns.lookup_of_mem hw) hfound)
  | @declared c name f w hname hc hlookup hstill htype =>
    cases hv with | declared hv hmem hstored =>
    cases hread
    rw [hv.asClass?] at hc
    cases hc
    exact .byAttribute hname rfl
      (hv.getAttr_declared hlookup hstill htype hstored)
  | @slot attrs owner name hname hfound =>
    cases hv with | slot hv =>
    obtain ⟨_, u₁, hkey, hread⟩ := run_bind_eq_ok hread
    cases hkey
    rw [run_get_bind] at hread
    split at hread
    · cases hread
    obtain ⟨found, u₂, hw, hread⟩ := run_bind_eq_ok hread
    cases found with
    | none => cases hread
    | some w =>
      cases hread
      exact .byAttribute hname rfl
        (hv.toInstance.getAttr_slot hfound hk (getAttr_of_getAttr? hw))

theorem Leads.evaluateChain_run (h : Leads env s v e c)
    (he : c.kind = .positional → Subscriptable e)
    (hrun : (evaluateChain env e).run u = (.ok v, u')) (hk : s.Keeps u') :
    ∃ r, (evaluateChain env c.expression).run u = (.ok c.value, r) ∧ u'.Keeps r := by
  cases h with
  | named hname htext hw =>
    obtain ⟨r, hr, hk'⟩ := hw u' hk
    exact ⟨r, by rw [evaluateChain_named htext hname, run_bind_of_ok hrun, hr], hk'⟩
  | key hkind hexpression hspells =>
    rw [hexpression]
    exact evaluateChain_subscript (he hkind) hrun hspells hk

/-! ### Whole numbers, truth values and nothing as keys -/

/-- A key that a number, signed or not, or one word spells. -/
inductive IsSimple : Value → Prop
  | int (i : Int) : IsSimple (.int i)
  | bool (b : Bool) : IsSimple (.bool b)
  | none : IsSimple .none

theorem IsSimple.ordinary {k : Value} (h : IsSimple k) (s : Store) : s.Ordinary k [] := by
  have hsettled : s.Settled k := by
    refine ⟨fun r hr ↦ ?_, fun r hr ↦ ?_⟩
    · subst hr
      cases h
    · cases h <;> simp [Store.classOf, Store.lineage] at hr
  cases h <;> exact ⟨hsettled, rfl, ⟨_, rfl⟩, rfl⟩

theorem IsSimple.isInstance_gives {k : Value} (h : IsSimple k) (s : Store) :
    Gives s (isInstance k ["str"]) false := by
  have hgives := (h.ordinary s).candid.isInstance_gives ["str"]
  cases h <;> exact hgives

theorem IsSimple.spells {k : Value} {text : String} (h : IsSimple k)
    (htext : s.scalarText k = .ok text) (hw : Gives s (getItem v k) w) :
    ∃ i, Spells env s v w text i := by
  cases h with
  | none =>
    cases htext
    exact ⟨_, Expr.Written.none.spells hw⟩
  | bool b =>
    cases htext
    exact ⟨_, (Expr.Written.bool b).spells hw⟩
  | int i =>
    have htext : text = toString i := by
      dsimp only [Store.scalarText, integerText] at htext
      generalize (if i < 0 then _ else _ : Nat) = digits at htext
      split at htext
      · cases htext
      · cases htext
        rfl
    subst htext
    cases i with
    | ofNat n => exact ⟨_, (Expr.Written.natural n).spells hw⟩
    | negSucc n =>
      have hliteral (t : Store) : (Literal.value (.unary .negate (.constant (.int (n + 1))))).run t =
          (.ok (.int (.negSucc n)), t) := rfl
      have hexpr (t : Store) :
          (Eval.expr env (.unary .negate (.constant (.int (n + 1))))).run t =
            (.ok (.int (.negSucc n)), t) := rfl
      exact ⟨_, Expr.Written.negative (n + 1), (Gives.of_run fun t _ ↦ hliteral t).bind hw,
        (Gives.of_run fun t _ ↦ hexpr t).bind hw⟩

theorem Legible.simple {k : Value} {text : String} (h : IsSimple k)
    (htext : s.scalarText k = .ok text) (hv : s.Mapping v vars entries) (hw : (k, w) ∈ entries) :
    Legible env s v (.entry k w) := by
  obtain ⟨i, hi⟩ : ∃ i, Spells env s v w text i :=
    h.spells htext (hv.getItem_gives (hv.keys _ hw))
  refine .key (h.isInstance_gives s) (.of_run fun t _ ↦ ?_) hi
  cases h with
  | int i =>
    show (ofExcept (t.scalarText (.int i)) : Eval String).run t = _
    rw [show t.scalarText (.int i) = .ok text from htext]
    rfl
  | _ =>
    cases htext
    rfl

/-! ### Keys that hold a selector -/

theorem evaluateChain_split {text a b : String} {selector inner : Selector}
    (htext : text.toList = e.toList ++ selector.char :: (a.toList ++ inner.char :: b.toList))
    (ha : Chain.Plain a) (hb : Chain.Plain b) :
    evaluateChain env text = evaluateChain env e >>= fun v ↦
      Chain.named v selector a >>= fun w ↦ Chain.named w inner b := by
  let member := String.ofList (e.toList ++ selector.char :: a.toList)
  have hmember : member.toList = e.toList ++ selector.char :: a.toList := by simp [member]
  have htext' : text.toList = member.toList ++ inner.char :: b.toList := by simp [hmember, htext]
  rw [evaluateChain_named htext' hb, evaluateChain_named hmember ha, bind_assoc]

/-- The member of a mapping under such a key is lost: where nothing is found by its first part, its
expression fails for the want of that. -/
theorem Store.Mapping.evaluateChain_lost {a b : String} {inner : Selector}
    (hv : s.Mapping v vars entries) (ha : Chain.Plain a) (hb : Chain.Plain b)
    (hentry : ∀ t, s.Keeps t → t.lookup? (.str a) entries = none)
    (hattribute : Gives s (getAttr? v a) none)
    (hread : (ofEntry e (.str (a ++ inner.char.toString ++ b)) w).run u = (.ok (some c), u'))
    {t t' : Store} (hrun : (evaluateChain env e).run t = (.ok v, t')) (hk : s.Keeps t') :
    ((evaluateChain env c.expression).run t).1 = .error (.missingKey (Text.Quoted.quote a)) := by
  cases hread
  have hitem : (getItem v (.str a)).run t' = (.error (.missingKey (Text.Quoted.quote a)), t') := by
    have hkey : (checkKey (.str a)).run t' = (.ok (), t') := rfl
    rw [hv.getItem_run hk, entry, run_bind_of_ok hkey, run_get_bind, hentry t' hk]
    rfl
  obtain ⟨r, hr, -⟩ := hattribute t' hk
  have hnamed : (Chain.named v .byName a).run t' =
      (.error (.missingKey (Text.Quoted.quote a)), r) := by
    rw [Chain.named, Chain.entryOrAttribute, run_tryCatch_of_error hitem]
    show (getAttr? v a >>= _).run t' = _
    rw [run_bind_of_ok hr]
    rfl
  have htext : (e ++ "$" ++ (a ++ inner.char.toString ++ b)).toList =
      e.toList ++ Selector.byName.char :: (a.toList ++ inner.char :: b.toList) := by
    simp [Selector.char]
  rw [evaluateChain_split htext ha hb, run_bind_of_ok hrun, run_bind_of_error hnamed]

/-! ### At any depth -/

theorem provideUniversal_gives (h : s.Binds env vars)
    (hu : (vars.lookup universalKey).isSome = true) : Gives s (provideUniversal env) () := by
  refine .of_run fun t ht ↦ ?_
  rw [Shell.provideUniversal_run, Shell.provided_of_bound (h.keeps ht) hu]

theorem evaluateChain_name {n : String} (hword : Token.IsWord n.toList) (hn : n ∉ Parser.keywords)
    (hprovide : Gives s (provideUniversal env) ()) (hv : Gives s (nameValue env n) v) :
    Gives s (evaluateChain env n) v := by
  have hplace := Expr.Place.name hword hn
  rw [evaluateChain_free hplace.free, evaluate, hplace.legible.withoutIndent, hplace.parse]
  exact hprovide.bind hv

/-- A variable, or a member of what has been drilled down to. -/
inductive Drilled (env : Ref) (s : Store) : String → Value → Prop
  | variable {n : String} {v : Value} : Token.IsWord n.toList → n ∉ Parser.keywords →
      Gives s (nameValue env n) v → Drilled env s n v
  | member {e : String} {v : Value} {source : Source} {c : Child} {u u' : Store} :
      Drilled env s e v → s.Holds v source → Legible env s v source → s.Keeps u →
      (source.read v e).run u = (.ok (some c), u') → Drilled env s c.expression c.value

namespace Drilled

theorem place_or_extensible (h : Drilled env s e v) :
    (∃ x, Expr.Place e x) ∨ Chain.Extensible e := by
  induction h with
  | «variable» hword hn _ => exact .inl ⟨_, .name hword hn⟩
  | member _ hholds hlegible hk hread ih =>
    cases hlegible.leads hholds hk hread with
    | named hname htext _ => exact .inr (.named htext hname)
    | key _ hexpression hspells =>
      rw [hexpression]
      obtain ⟨x, hx⟩ | he := ih
      · exact .inl ⟨_, hx.key hspells.toWritten⟩
      · exact .inr (he.indexed hspells.free)

theorem subscriptable (h : Drilled env s e v) : Subscriptable e := by
  obtain ⟨x, hx⟩ | he := h.place_or_extensible
  · exact hx.subscriptable
  · exact .member he

/-- Whatever has been drilled down to is found by its expression. -/
theorem evaluateChain_gives (h : Drilled env s e v) (hprovide : Gives s (provideUniversal env) ()) :
    Gives s (evaluateChain env e) v := by
  -- Evaluating a chain adds to the store, and what has been drilled down to is still found there.
  induction h with
  | «variable» hword hn hv => exact evaluateChain_name hword hn hprovide hv
  | member hdrilled hholds hlegible hk hread ih =>
    intro t ht
    obtain ⟨u, hu, hkeeps⟩ := ih t ht
    obtain ⟨r, hr, hkeeps'⟩ := (hlegible.leads hholds hk hread).evaluateChain_run
      (fun _ ↦ hdrilled.subscriptable) hu (ht.trans hkeeps)
    exact ⟨r, hr, hkeeps.trans hkeeps'⟩

end Drilled

/-! ### All members of a value -/

/-- However a value has been listed, and whenever that is evaluated which led to it: each member
comes from something that the value holds, and where its key is legible, and stands behind an
expression that takes keys if it is one in brackets, its expression succeeds and gives it. -/
theorem evaluateChain_members {ms : List (Eval (Option Child))} (hv : s.Regular v)
    (hrun : (members v e).run s = (.ok ms, t)) :
    (∀ m ∈ ms, (∃ source, s.Holds v source ∧ m = source.read v e) ∨ ∃ f, m = throw f) ∧
    ∀ source u u' c, s.Holds v source → Legible env s v source → s.Keeps u →
      (source.read v e).run u = (.ok (some c), u') →
      (c.kind = .positional → Subscriptable e) →
      ∀ w w', (evaluateChain env e).run w = (.ok v, w') → s.Keeps w' →
        ((evaluateChain env c.expression).run w).1 = .ok c.value := by
  refine ⟨hv.lists_members hrun, fun source u u' c hholds hlegible hk hread he w w' hw hk' ↦ ?_⟩
  obtain ⟨r, hr, -⟩ := (hlegible.leads hholds hk hread).evaluateChain_run he hw hk'
  rw [hr]

/-- A dictionary `d` with the entry -1, a namespace whose attribute `xs` is a pair of numbers. -/
def nested : Store := ⟨#[
  ⟨.native "dict", .dict ([("d", Value.ref 1), (universalKey, .ref 2)].map asEntry), none, []⟩,
  ⟨.native "dict", .dict [(.int (-1), .ref 3)], none, []⟩,
  ⟨.native "dict", .dict [], none, []⟩,
  ⟨.native "SimpleNamespace", .plain, some 4, []⟩,
  ⟨.native "dict", .dict ([("xs", Value.ref 5)].map asEntry), none, []⟩,
  ⟨.native "tuple", .tuple [.int 7, .int 8], none, []⟩]⟩

theorem nested_binds : nested.Binds 0 [("d", .ref 1), (universalKey, .ref 2)] := ⟨rfl, by decide⟩

theorem nested_mapping : nested.Mapping (.ref 1) [] [(.int (-1), .ref 3)] where
  toItemised := Store.IsDict.itemised rfl
  kind := rfl
  subscript := rfl
  keys := List.forall_mem_singleton.mpr (.of_run fun _ _ ↦ rfl)

theorem nested_object : nested.Object (.ref 3) [("xs", .ref 5)] :=
  .ofNamespace rfl ⟨rfl, by decide⟩ rfl

theorem nested_sequence : nested.Sequence (.ref 5) [] [.int 7, .int 8] :=
  .ofNative (.inr ⟨rfl, rfl⟩) rfl (by decide)

theorem nested_drilled : Drilled 0 nested "d[-1]@xs" (.ref 5) := by
  have hword : Token.IsWord "d".toList :=
    ⟨List.all_eq_true.mp (by decide), ⟨'d', [], rfl, rfl⟩, by decide⟩
  have hd : Drilled 0 nested "d" (.ref 1) := .variable hword (by decide)
    (.of_run fun t ht ↦ Shell.nameValue_of_bound (nested_binds.keeps ht) rfl)
  have hentry : Drilled 0 nested "d[-1]" (.ref 3) :=
    hd.member (c := ⟨"[[-1]]", "d[-1]", .positional, .ref 3⟩) (.entry nested_mapping (by simp))
      (.simple (.int (-1)) rfl nested_mapping (by simp)) (.refl nested) rfl
  exact hentry.member (c := ⟨"@xs", "d[-1]@xs", .at, .ref 5⟩)
    (.own nested_object (List.mem_singleton.mpr rfl)) (.own (by decide) nofun) (.refl nested) rfl

/-- The elements of the pair are found behind a key, an attribute and an index. -/
theorem evaluateChain_members_nested : ∃ ms t,
    (members (.ref 5) "d[-1]@xs").run nested = (.ok ms, t) ∧
    ((evaluateChain 0 "d[-1]@xs[1]").run nested).1 = .ok (.int 8) := by
  have hlisted : (members (.ref 5) "d[-1]@xs").run nested =
      (.ok [return some (ofElement "d[-1]@xs" 0 (.int 7)),
        return some (ofElement "d[-1]@xs" 1 (.int 8))], nested) := rfl
  obtain ⟨w, hw, hk⟩ := nested_drilled.evaluateChain_gives
    (provideUniversal_gives nested_binds rfl) nested (.refl nested)
  exact ⟨_, _, hlisted, (evaluateChain_members (.sequence nested_sequence) hlisted).2
    (.element 1 (.int 8)) nested nested (ofElement "d[-1]@xs" 1 (.int 8))
    (.element nested_sequence rfl) .element (.refl nested) rfl
    (fun _ ↦ nested_drilled.subscriptable) nested w hw hk⟩

end VariableExplorer
