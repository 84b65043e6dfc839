import VariableExplorer.Proofs.Expression.Growth
import VariableExplorer.Proofs.Kernel.Collecting
import VariableExplorer.Proofs.Kernel.Variables

/-!
What an inspection leaves as it was. It only reads, but that a dictionary in which it evaluates an
expression is given the universal names if it has none. Everything else that can be reached from the
namespace stays what it was, however the inspection ends.
-/

namespace VariableExplorer

open Eval

namespace Store

variable {s : Store} {k : Value} {name : String}

theorem lookup?_isSome (s : Store) (key : Value) (es : List (Value × Value)) :
    (s.lookup? key es).isSome = es.any fun e ↦ s.sameKey e.1 key := by
  induction es with
  | nil => rfl
  | cons e es ih =>
    rw [lookup?, List.any_cons]
    cases h : s.sameKey e.1 key with
    | true => rfl
    | false => exact ih

theorem sameKey_iff : s.sameKey k (.str name) = true ↔ s.scalar k = .str name := by
  rw [sameKey_text]
  cases s.scalar k <;> simp [Value.equalScalar, Number.ofValue?]

theorem lookup?_provided (s : Store) (es : List (Value × Value)) (v : Value) :
    (s.lookup? (.str universalKey) (es ++ [(.str universalKey, v)])).isSome = true := by
  rw [lookup?_isSome, List.any_append]
  simp [sameKey]

end Store

/-- A dictionary is given the universal names, as a last entry, where they are not found in it. -/
inductive Object.Provided (s : Store) : Object → Object → Prop
  | dict {cls : ClassRef} {es : List (Value × Value)} {attrs : Option Ref}
      {slots : List (String × Value)} (names : Value)
      (habsent : (s.lookup? (.str universalKey) es).isSome = false) :
      Provided s ⟨cls, .dict es, attrs, slots⟩
        ⟨cls, .dict (es ++ [(.str universalKey, names)]), attrs, slots⟩

namespace Store

variable {s t u : Store} {p q : Ref → Prop} {r : Ref} {o : VariableExplorer.Object} {k : Value}
  {name : String} {es : List (Value × Value)}

/-- Every object is there as it was, but that some dictionaries may have been given the universal
names. -/
def Preserves (p : Ref → Prop) (s t : Store) : Prop :=
  ∀ r o, s.get? r = some o → ∃ o', t.get? r = some o' ∧ (o' = o ∨ p r ∧ o.Provided s o')

theorem Keeps.preserves (h : s.Keeps t) : s.Preserves p t :=
  fun r o hr ↦ ⟨o, h r o hr, .inl rfl⟩

/-- The universal names are found in the object, if it is a dictionary. -/
def Carries (s : Store) (r : Ref) : Prop :=
  ∀ cls es attrs slots, s.get? r = some ⟨cls, .dict es, attrs, slots⟩ →
    (s.lookup? (.str universalKey) es).isSome = true

namespace Preserves

theorem mono (h : s.Preserves p t) (hpq : ∀ r, p r → q r) : s.Preserves q t := by
  intro r o hr
  obtain ⟨o', hr', hsame | ⟨hp, hprovided⟩⟩ := h r o hr
  · exact ⟨o', hr', .inl hsame⟩
  · exact ⟨o', hr', .inr ⟨hpq r hp, hprovided⟩⟩

theorem scalar_eq (h : s.Preserves p t) (hk : s.scalar k = .str name) :
    t.scalar k = .str name := by
  cases k with
  | ref r =>
    cases hr : s.get? r with
    | none => simp [scalar, body, hr] at hk
    | some o =>
      obtain ⟨o', hr', rfl | ⟨-, hprovided⟩⟩ := h r o hr
      · simpa [scalar, body, hr, hr'] using hk
      · cases hprovided
        simp [scalar, body, hr] at hk
  | _ => exact hk

theorem lookup?_isSome (h : s.Preserves p t) (hes : (s.lookup? (.str name) es).isSome = true) :
    (t.lookup? (.str name) es).isSome = true := by
  rw [Store.lookup?_isSome, List.any_eq_true] at hes ⊢
  obtain ⟨e, he, hsame⟩ := hes
  exact ⟨e, he, sameKey_iff.mpr (h.scalar_eq (sameKey_iff.mp hsame))⟩

theorem trans (h : s.Preserves p t) (h' : t.Preserves p u) : s.Preserves p u := by
  intro r o hr
  obtain ⟨o', hr', hfirst⟩ := h r o hr
  obtain ⟨o'', hr'', hsame | ⟨hp, hprovided⟩⟩ := h' r o' hr'
  · rw [hsame] at hr''
    exact ⟨o', hr'', hfirst⟩
  refine ⟨o'', hr'', .inr ⟨hp, ?_⟩⟩
  cases hprovided with
  | @dict _ es _ _ names habsent =>
    obtain rfl | ⟨-, hbefore⟩ := hfirst
    · cases hes : s.lookup? (.str universalKey) es with
      | none => exact .dict names (by rw [hes]; rfl)
      | some v =>
        rw [h.lookup?_isSome (by rw [hes]; rfl)] at habsent
        cases habsent
    · cases hbefore
      rw [lookup?_provided] at habsent
      cases habsent

theorem carries (h : s.Preserves p t) (hr : s.get? r = some o) (hs : s.Carries r) :
    t.Carries r := by
  intro cls es attrs slots ht
  obtain ⟨o', hr', hsame | ⟨-, hprovided⟩⟩ := h r o hr
  · rw [ht, hsame] at hr'
    cases hr'
    exact h.lookup?_isSome (hs cls es attrs slots hr)
  · rw [ht] at hr'
    cases hr'
    cases hprovided
    exact lookup?_provided t _ _

theorem keeps (h : s.Preserves p t) (hp : ∀ r, p r → s.Carries r) : s.Keeps t := by
  intro r o hr
  obtain ⟨o', hr', rfl | ⟨hpr, hprovided⟩⟩ := h r o hr
  · exact hr'
  cases hprovided with
  | dict names habsent =>
    rw [hp r hpr _ _ _ _ hr] at habsent
    cases habsent

end Preserves

/-- What an inspection makes of a store, given in which dictionaries it evaluates: those have the
universal names in the end, and there is nothing else that has changed. -/
structure Inspected (p : Ref → Prop) (s t : Store) : Prop where
  preserves : s.Preserves p t
  carries : ∀ r o, s.get? r = some o → p r → t.Carries r

namespace Inspected

theorem keeps (h : s.Inspected p t) (hk : t.Keeps u) : s.Inspected p u where
  preserves := h.preserves.trans hk.preserves
  carries r o hr hp := by
    obtain ⟨o', hr', -⟩ := h.preserves r o hr
    exact (hk.preserves (p := p)).carries hr' (h.carries r o hr hp)

theorem congr (h : s.Inspected p t) (hpq : ∀ r, p r ↔ q r) : s.Inspected q t where
  preserves := h.preserves.mono fun r ↦ (hpq r).mp
  carries r o hr hq := h.carries r o hr ((hpq r).mpr hq)

theorem trans (h : s.Inspected p t) (h' : t.Inspected q u) :
    s.Inspected (fun r ↦ p r ∨ q r) u where
  preserves := (h.preserves.mono fun _ ↦ .inl).trans (h'.preserves.mono fun _ ↦ .inr)
  carries r o hr hpq := by
    obtain ⟨o', hr', -⟩ := h.preserves r o hr
    obtain hp | hq := hpq
    · exact h'.preserves.carries hr' (h.carries r o hr hp)
    · exact h'.carries r o' hr' hq

theorem isDict (h : s.Inspected p t) (hr : s.IsDict r es)
    (habsent : (t.lookup? (.str universalKey) es).isSome = false) (hp : p r) :
    ∃ names, t.IsDict r (es ++ [(.str universalKey, names)]) := by
  obtain ⟨o', ho', rfl | ⟨-, hprovided⟩⟩ := h.preserves r _ hr
  · rw [h.carries r _ hr hp _ _ _ _ ho'] at habsent
    cases habsent
  · cases hprovided with
    | dict names => exact ⟨names, ho'⟩

end Inspected

end Store

/-! ### Evaluating in an environment -/

namespace Shell

variable {env : Ref} {s : Store}

theorem provided_cases (env : Ref) (s : Store) :
    (provided env s = s ∧ s.Carries env) ∨ ∃ cls es attrs slots names v,
      s.get? env = some ⟨cls, .dict es, attrs, slots⟩ ∧
      (s.lookup? (.str universalKey) es).isSome = false ∧ provided env s =
        (s.alloc names).1.set env ⟨cls, .dict (es ++ [(.str universalKey, v)]), attrs, slots⟩ := by
  rw [provided, provideUniversal, run_get_bind]
  split
  next cls es attrs slots henv =>
    split
    next hsome =>
      refine .inl ⟨rfl, fun cls' es' attrs' slots' henv' ↦ ?_⟩
      rw [henv] at henv'
      cases henv'
      exact hsome
    next hnone =>
      exact .inr ⟨cls, es, attrs, slots, _, _, henv, Bool.eq_false_iff.mpr hnone, rfl⟩
  next hother =>
    exact .inl ⟨rfl, fun cls es attrs slots henv ↦ absurd henv (hother cls es attrs slots)⟩

theorem provided_preserves (env : Ref) (s : Store) : s.Preserves (· = env) (provided env s) := by
  obtain ⟨hsame, -⟩ | ⟨cls, es, attrs, slots, names, v, henv, hnone, hprovided⟩ :=
    provided_cases env s
  · rw [hsame]
    exact (Store.Keeps.refl s).preserves
  intro r o hr
  rw [hprovided, Store.get?_set]
  split
  next hsame =>
    obtain ⟨rfl, -⟩ := hsame
    rw [henv] at hr
    cases hr
    exact ⟨_, rfl, .inr ⟨rfl, .dict v hnone⟩⟩
  · exact ⟨o, s.keeps_alloc names r o hr, .inl rfl⟩

theorem provided_carries (env : Ref) (s : Store) : (provided env s).Carries env := by
  obtain ⟨hsame, hcarries⟩ | ⟨cls, es, attrs, slots, names, v, henv, -, hprovided⟩ :=
    provided_cases env s
  · rw [hsame]
    exact hcarries
  · have hlt := Store.get?_eq_some_lt (s.keeps_alloc names env _ henv)
    intro cls' es' attrs' slots' hr
    rw [hprovided, Store.get?_set, if_pos ⟨rfl, hlt⟩] at hr
    cases hr
    exact Store.lookup?_provided _ _ _

end Shell

theorem Chain.isCallFree_of_place {e : String} {x : Expr} (h : Expr.Place e x)
    (hx : x.isCallFree = true) : (Chain.ofText e).IsCallFree := by
  intro x' hparse
  rw [Chain.ofText_of_free h.free, h.legible.withoutIndent, h.parse] at hparse
  cases hparse
  exact hx

namespace Inspection

variable {α β : Type} {env : Ref} {s t : Store} {p : Ref → Prop} {text expression : String}

theorem inspected_bind {x : Eval α} {f : α → Eval β} (h : s.Inspected p (x.run s).2)
    (hf : ∀ a t, x.run s = (.ok a, t) → Grows (f a)) : s.Inspected p ((x >>= f).run s).2 := by
  rcases hrun : x.run s with ⟨result, t⟩
  rw [hrun] at h
  cases result with
  | error e =>
    rw [run_bind_of_error hrun]
    exact h
  | ok a =>
    rw [run_bind_of_ok hrun]
    exact h.keeps (hf a t hrun t)

theorem evaluateChain_inspected (env : Ref) (h : (Chain.ofText expression).IsCallFree)
    (s : Store) : s.Inspected (· = env) ((evaluateChain env expression).run s).2 := by
  have hprovided : s.Inspected (· = env) (Shell.provided env s) :=
    ⟨Shell.provided_preserves env s, fun r o _ henv ↦ henv ▸ Shell.provided_carries env s⟩
  rw [evaluateChain_run]
  exact hprovided.keeps (chainValue_grows env h _)

/-! ### What a request has looked into -/

/-- Finding the environment that a text names calls nothing. -/
def NamesCallFree (text : String) : Prop :=
  text = "" ∨ text = globalEnvironment ∨ (Chain.ofText text).IsCallFree

/-- The dictionaries in which an inspection evaluates an expression: the namespace, and what the
text of the request names as its environment. -/
def EvaluatesIn (env : Ref) (text : String) (s : Store) (r : Ref) : Prop :=
  r = env ∨ ∃ u, (environment env text).run s = (.ok r, u)

theorem environment_run {es : List (Value × Value)} {r : Ref} (hr : t.IsDict r es)
    (hname : text ≠ "" ∧ text ≠ globalEnvironment)
    (hrun : (evaluateChain env text).run s = (.ok (.ref r), t)) :
    (environment env text).run s = (.ok r, t) := by
  have hclass : (getAttr? (.ref r) "__class__").run t = (.ok (some (.native "dict")), t) := by
    refine run_tryCatch_of_ok ?_
    rw [run_bind_of_ok hr.getAttr_class]
    rfl
  have hisOf (name : String) : (isOf (.ref r) name).run t =
      (.ok (t.derives (.native "dict") [name]), t) := by
    rw [isOf, run_get_bind, Store.isKind, hr.classOf]
    cases hderives : t.derives (.native "dict") [name] with
    | true => rfl
    | false =>
      simp only [Bool.false_eq_true, if_false]
      rw [run_bind_of_ok hclass, ← hderives]
      rfl
  have hmodule : (isInstance (.ref r) ["module"]).run t = (.ok false, t) :=
    isInstance_run_of_none fun name hmem ↦ by
      rw [List.mem_singleton.mp hmem]
      exact hisOf "module"
  have hdict : (isInstance (.ref r) ["dict"]).run t = (.ok true, t) := by
    rw [isInstance, run_bind_of_ok (hisOf "dict")]
    rfl
  rw [environment, if_neg (by simpa using hname), run_bind_of_ok hrun, run_bind_of_ok hmodule]
  simp only [Bool.false_eq_true, if_false]
  rw [run_bind_of_ok hdict]
  simp only [if_true, pure_bind]
  rw [run_get_bind]
  simp only [hr.body]
  rfl

theorem environment_inspected (h : NamesCallFree text) (env : Ref) :
    environment env text = Pure.pure env ∨
      ∀ s : Store, s.Inspected (· = env) ((environment env text).run s).2 := by
  by_cases hglobal : text = "" ∨ text = globalEnvironment
  · exact .inl (if_pos (by simpa using hglobal))
  · obtain ⟨hempty, hname⟩ := not_or.mp hglobal
    have hfree := (h.resolve_left hempty).resolve_left hname
    refine .inr fun s ↦ ?_
    rw [environment, if_neg (by simpa using hglobal)]
    refine inspected_bind (evaluateChain_inspected env hfree s) fun v t _ ↦ ?_
    grind

theorem within_inspected {f : Ref → Eval α} (h : NamesCallFree text)
    (hf : ∀ env (s : Store), s.Inspected (· = env) ((f env).run s).2) :
    s.Inspected (EvaluatesIn env text s) ((environment env text >>= f).run s).2 := by
  -- The environment is the given one, or is evaluated first, which may inspect other objects.
  obtain hglobal | henv := environment_inspected h env
  · have hrun : (environment env text).run s = (.ok env, s) := by
      rw [hglobal]
      rfl
    rw [run_bind_of_ok hrun]
    refine (hf env s).congr fun r ↦ ⟨.inl, ?_⟩
    rintro (hr | ⟨u, hr⟩)
    · exact hr
    · rw [hrun] at hr
      cases hr
      rfl
  have hs := henv s
  rcases hrun : (environment env text).run s with ⟨result, t⟩
  rw [hrun] at hs
  cases result with
  | error e =>
    rw [run_bind_of_error hrun]
    refine hs.congr fun r ↦ ⟨.inl, ?_⟩
    rintro (hr | ⟨u, hr⟩)
    · exact hr
    · rw [hrun] at hr
      cases hr
  | ok env' =>
    rw [run_bind_of_ok hrun]
    refine (hs.trans (hf env' t)).congr fun r ↦ or_congr_right ⟨?_, ?_⟩
    · rintro rfl
      exact ⟨t, hrun⟩
    · rintro ⟨u, hr⟩
      rw [hrun] at hr
      cases hr
      rfl

theorem settled_run_snd (x : Eval α) (s : Store) : ((settled x).run s).2 = (x.run s).2 := by
  rcases hrun : x.run s with ⟨result, t⟩
  cases result with
  | ok a => rw [settled_run_of_ok hrun]
  | error f =>
    cases hf : f.isOrdinary with
    | true => rw [settled_run_of_error hrun hf]
    | false => rw [settled_run_of_stop hrun hf]

theorem evaluation_inspected (env : Ref) (s : Store) {r : EvaluationRequest}
    (henv : NamesCallFree r.frame.environment)
    (he : (Chain.ofText r.expression).IsCallFree) :
    s.Inspected (EvaluatesIn env r.frame.environment s) ((evaluation env r).run s).2 := by
  rw [evaluation, settled_run_snd]
  refine within_inspected henv fun env s ↦ ?_
  exact inspected_bind (evaluateChain_inspected env he s) fun v t _ ↦ describe_grows _ v

theorem childrenOf_members {ms : List (Eval (Option Child))}
    (h : (childrenOf env expression).run s = (.ok ms, t)) : ∀ m ∈ ms, Grows m := by
  obtain ⟨v, u, -, hms⟩ := run_bind_eq_ok h
  have hmembers (h : (Child.members v expression).run u = (.ok ms, t)) : ∀ m ∈ ms, Grows m :=
    fun m hm ↦ (Store.members_origin h m hm).grows
  split at hms
  · split at hms
    · exact fun m hm ↦ (Child.ofEnvironment_kind hms m hm).1
    · exact hmembers hms
  · exact hmembers hms

theorem collect_grows {properties : List Property} {pattern : Option String}
    {limit : Option Int} {cancelled : Nat → Bool} {ms : List (Eval (Option Child))}
    (h : ∀ m ∈ ms, Grows m) (looks found : Nat) :
    Grows (collect properties pattern limit cancelled looks found ms) := by
  induction ms generalizing looks found with
  | nil => exact .pure _
  | cons m ms ih =>
    obtain ⟨hm, hms⟩ := List.forall_mem_cons.mp h
    have hdescribed (c : Child) : Grows (describeChild properties c) := describeChild_grows c
    refine hm.bind fun read ↦ ?_
    cases read with
    | none => exact ih hms looks found
    | some c => grind

theorem children_inspected (env : Ref) (s : Store) (cancelled : Nat → Bool) {r : ChildrenRequest}
    (henv : NamesCallFree r.environment) (he : (Chain.ofText r.expression).IsCallFree) :
    s.Inspected (fun x ↦ cancelled 0 = false ∧ EvaluatesIn env r.environment s x)
      ((children env r cancelled).run s).2 := by
  rw [children]
  cases hcancelled : cancelled 0 with
  | true =>
    refine ⟨(Store.Keeps.refl s).preserves, fun x o _ hx ↦ ?_⟩
    cases hx.1
  | false =>
    simp only [Bool.false_eq_true, if_false, true_and]
    refine inspected_bind ?_ fun found t _ ↦ by split <;> exact .pure _
    rw [settled_run_snd]
    refine within_inspected henv fun env s ↦ ?_
    refine inspected_bind ?_ fun ms t hms ↦ collect_grows (childrenOf_members hms) 1 0
    refine inspected_bind (evaluateChain_inspected env he s) fun v t _ ↦ ?_
    split
    · split
      · exact .get fun s ↦ .pure _
      · exact Child.members_grows _ _
    · exact Child.members_grows _ _

end Inspection

theorem Kernel.inspect_run_snd {κ α : Type} {k : Kernel κ} (hopen : k.closed = false)
    (x : Eval (Outcome α)) : (k.inspect x).2 = { k with store := (x.run k.store).2 } := by
  rw [inspect, if_neg (by simp [hopen])]
  rfl

/-- An inspection that calls no function changes nothing of a kernel but its store, and there
nothing but that the dictionaries in which it evaluates an expression are given the universal names,
where these have none: the namespace, and what the request names as its environment. Those have the
names in the end; and where they had them before, all is as it was. This is so whether the inspection
succeeds or fails, is cancelled on the way or stops the program. -/
theorem Kernel.inspection_preserves {κ : Type} {k : Kernel κ} (hopen : k.closed = false) :
    (∀ r : EvaluationRequest, Inspection.NamesCallFree r.frame.environment →
      (Chain.ofText r.expression).IsCallFree →
      let evaluatesIn := Inspection.EvaluatesIn k.env r.frame.environment k.store
      ∃ t, (k.evaluate r).2 = { k with store := t } ∧ k.store.Inspected evaluatesIn t ∧
        ((∀ x, evaluatesIn x → k.store.Carries x) → k.store.Keeps t)) ∧
    ∀ (r : ChildrenRequest) (cancelled : Nat → Bool), Inspection.NamesCallFree r.environment →
      (Chain.ofText r.expression).IsCallFree →
      let evaluatesIn x := cancelled 0 = false ∧
        Inspection.EvaluatesIn k.env r.environment k.store x
      ∃ t, (k.children r cancelled).2 = { k with store := t } ∧ k.store.Inspected evaluatesIn t ∧
        ((∀ x, evaluatesIn x → k.store.Carries x) → k.store.Keeps t) := by
  refine ⟨fun r henv he ↦ ?_, fun r cancelled henv he ↦ ?_⟩
  · have hinspected := Inspection.evaluation_inspected k.env k.store henv he
    exact ⟨_, inspect_run_snd hopen _, hinspected, hinspected.preserves.keeps⟩
  · have hinspected := Inspection.children_inspected k.env k.store cancelled henv he
    exact ⟨_, inspect_run_snd hopen _, hinspected, hinspected.preserves.keeps⟩

/-- Whoever looks a key up as a variable of its dictionary leaves an entry behind. -/
theorem Kernel.inspection_preserves_dictionary : ∃ (k : Kernel Empty) (r : Ref) (t : Store)
    (names : Value),
    Kernel.new ["globals"] [("d", Recipe.dict [(pure (.str "a"), pure (.int 1))])] false = .ok k ∧
    (k.evaluate ⟨⟨0, "<module>", true, "d"⟩, "a", "a", [], .none, none⟩).2 = { k with store := t } ∧
    k.store.lookup? (.str "d") (k.store.entries k.env) = some (.ref r) ∧
    k.store.IsDict r [(.str "a", .int 1)] ∧
    t.IsDict r [(.str "a", .int 1), (.str universalKey, names)] := by
  obtain ⟨k, hk, hd⟩ : ∃ k : Kernel Empty,
      k.Lone (Recipe.dict [(pure (.str "a"), pure (.int 1))]) (.ref 2) ∧
      k.store.IsDict 2 [(.str "a", .int 1)] :=
    ⟨_, ⟨rfl, rfl, ⟨_, _, rfl, by decide⟩, nofun⟩, rfl⟩
  have hfree {name : String} (hword : Token.IsWord name.toList)
      (hkeyword : name ∉ Parser.keywords) : (Chain.ofText name).IsCallFree :=
    Chain.isCallFree_of_place (.name hword hkeyword) rfl
  have hdfree : (Chain.ofText "d").IsCallFree :=
    hfree ⟨List.all_eq_true.mp (by decide), ⟨'d', [], rfl, rfl⟩, by decide⟩ (by decide)
  have hafree : (Chain.ofText "a").IsCallFree :=
    hfree ⟨List.all_eq_true.mp (by decide), ⟨'a', [], rfl, rfl⟩, by decide⟩ (by decide)
  have henv : (Inspection.environment k.env "d").run k.store = (.ok 2, k.store) :=
    Inspection.environment_run hd (by decide) hk.evaluateChain_run
  obtain ⟨t, hrun, hinspected, -⟩ := (inspection_preserves hk.isOpen).1
    ⟨⟨0, "<module>", true, "d"⟩, "a", "a", [], .none, none⟩ (.inr (.inr hdfree)) hafree
  obtain ⟨names, ht⟩ := hinspected.isDict hd rfl (.inr ⟨_, henv⟩)
  refine ⟨k, 2, t, names, hk.made, hrun, ?_, hd, ht⟩
  obtain ⟨builtins, self, hvars⟩ := hk.binds
  rw [hvars.dict.entries, Store.lookup?_asEntry]
  rfl

end VariableExplorer
