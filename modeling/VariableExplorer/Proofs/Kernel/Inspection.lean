import Mathlib.Data.List.Forall2
import VariableExplorer.Kernel.Inspection
import VariableExplorer.Proofs.Kernel.Namespace

/-!
Inspections keep the namespace. The children of the environment itself are its variables, each
described in turn.
-/

namespace VariableExplorer

open Eval

variable {env : Ref} {s t : Store}

theorem evaluateChain_run (env : Ref) (expression : String) (s : Store) :
    (evaluateChain env expression).run s =
      (chainValue env expression).run (Shell.provided env s) := by
  rw [evaluateChain_eq, run_bind_of_ok (Shell.provideUniversal_run env s)]

theorem evaluateChain_endures (env' : Ref) (expression : String) :
    Endures env (evaluateChain env' expression) := by
  have hprovided : Endures env (provideUniversal env') := by
    refine ⟨Shell.provideUniversal_upholds env', fun s f _ hf ↦ ?_⟩
    rw [Shell.provideUniversal_run] at hf
    cases hf
  rw [evaluateChain_eq]
  exact hprovided.bind fun _ ↦ (chainValue_tame env' _).endures

theorem evaluateChain_upholds (env' : Ref) (expression : String) :
    Upholds env (evaluateChain env' expression) := (evaluateChain_endures env' expression).upholds

namespace Child

theorem ofEnvironment_yields (env : Ref) : Yields AllTame (ofEnvironment env) := by
  refine .get fun s _ ↦ .pure (.map (fun e ↦ ?_) _)
  obtain ⟨k, v⟩ := e
  cases k with
  | str name => exact .pure trivial
  | _ => exact .get fun _ _ ↦ .fail trivial

theorem ofEnvironment_run {vars : List (String × Value)} (h : s.Binds env vars) :
    (ofEnvironment env).run s =
      (.ok (vars.map fun e ↦ pure (some ⟨e.1, e.1, .other, e.2⟩)), s) := by
  rw [ofEnvironment, run_get_bind, h.dict.entries, List.map_map]
  rfl

end Child

namespace Inspection

theorem environment_endures (env' : Ref) (text : String) :
    Endures env (environment env' text) := by
  refine .ite (.pure _) (.bind (evaluateChain_endures env' text) fun v ↦ Tame.endures ?_)
  refine (Tame.isInstance v _).bind fun b _ ↦ ?_
  extract_lets rest
  have hrest (found : Value) : Tame (rest found) := by
    refine .get fun s _ ↦ ?_
    split
    · exact .pure trivial
    · exact (Tame.hasAttr _ _).bind fun _ _ ↦ .fail trivial
  refine .ite ((Tame.vars v).bind fun found _ ↦ hrest found)
    ((Tame.isInstance v _).bind fun b _ ↦ .ite (hrest v) (.fail trivial))

theorem environment_global (env : Ref) : environment env globalEnvironment = Pure.pure env :=
  if_pos (by simp)

variable {α : Type} {x : Eval α}

theorem settled_run_of_ok {a : α} (h : x.run s = (.ok a, t)) :
    (settled x).run s = (.ok (.success a), t) := run_handle_of_ok (run_map_of_ok h)

theorem settled_run_of_error {f : Fault} (h : x.run s = (.error f, t)) (hf : f.isOrdinary = true) :
    (settled x).run s = (.ok (.evaluationError f.report), t) := by
  rw [settled, handle, run_tryCatch_of_error (run_map_of_error h), if_pos hf]
  rfl

theorem settled_run (h : Endures env x) (hs : Shell.Sound env s) : ∃ o t,
    (settled x).run s = (.ok o, t) ∧ Shell.Sound env t := by
  rcases hr : x.run s with ⟨f | a, t⟩
  · have hf := h.failure s f hs (congrArg Prod.fst hr)
    exact ⟨_, t, settled_run_of_error hr hf, h.upholds.sound hs hr⟩
  · exact ⟨_, t, settled_run_of_ok hr, h.upholds.sound hs hr⟩

theorem children_run_of_found {r : ChildrenRequest} {cancelled : Nat → Bool}
    {found : Option (List ValueInfo)} (hgoes : cancelled 0 = false)
    (h : (environment env r.environment >>= fun env ↦ childrenOf env r.expression >>= fun ms ↦
      collect r.properties r.pattern r.limit cancelled 1 0 ms).run s = (.ok found, t)) :
    (children env r cancelled).run s = (.ok (found.elim .cancelled .success), t) := by
  rw [children, if_neg (by simp [hgoes]), run_bind_of_ok (settled_run_of_ok h)]
  cases found <;> rfl

theorem evaluation_answers (hs : Shell.Sound env s) (env' : Ref) (r : EvaluationRequest) :
    ∃ o t, (evaluation env' r).run s = (.ok o, t) ∧ Shell.Sound env t :=
  settled_run (.bind (environment_endures env' _) fun _ ↦
    .bind (evaluateChain_endures _ _) fun _ ↦ (describe_yields _ _).tame.endures) hs

theorem evaluation_upholds (env' : Ref) (r : EvaluationRequest) :
    Upholds env (evaluation env' r) := by
  intro s hs
  obtain ⟨o, t, hrun, ht⟩ := evaluation_answers hs env' r
  rw [hrun]
  exact ht

theorem describeChild_tame (properties : List Property) (c : Child) :
    Tame (describeChild properties c) :=
  .handle (describe_yields _ _).tame fun _ ↦ .get fun _ _ ↦ .pure trivial

def variableRequest (properties : List Property) (name : String) : Request :=
  ⟨name, name, .other, properties, .summary⟩

/-- The variables are described one after the other: each is described in full, or, just where that
fails, it has the bare description. -/
inductive Described (properties : List Property) :
    Store → List (String × Value) → List ValueInfo → Store → Prop
  | nil (s : Store) : Described properties s [] [] s
  | full {s t u : Store} {name : String} {v : Value} {vars : List (String × Value)}
      {i : ValueInfo} {infos : List ValueInfo} :
      (describe (variableRequest properties name) v).run s = (.ok i, t) →
      Described properties t vars infos u →
      Described properties s ((name, v) :: vars) (i :: infos) u
  | bare {s t u : Store} {name : String} {v : Value} {vars : List (String × Value)}
      {f : Fault} {infos : List ValueInfo} :
      (describe (variableRequest properties name) v).run s = (.error f, t) →
      Described properties t vars infos u →
      Described properties s ((name, v) :: vars)
        (describeBare (variableRequest properties name) t v :: infos) u

theorem describeChild_variable (properties : List Property) (name : String) (v : Value) :
    describeChild properties ⟨name, name, .other, v⟩ =
      Eval.handle (describe (variableRequest properties name) v) fun _ ↦
        return describeBare (variableRequest properties name) (← get) v := rfl

theorem collect_tame (properties : List Property) (pattern : Option String) (limit : Option Int)
    (cancelled : Nat → Bool) {ms : List (Eval (Option Child))} (h : Child.AllTame ms)
    (looks found : Nat) : Tame (collect properties pattern limit cancelled looks found ms) := by
  induction ms generalizing looks found with
  | nil => exact .pure trivial
  | cons m ms ih =>
    obtain ⟨hm, hms⟩ := List.forall_mem_cons.mp h
    refine hm.bind fun c _ ↦ ?_
    split
    · exact ih hms _ _
    · exact .ite (.pure trivial) (.ite (.pure trivial) (.ite (ih hms _ _)
        ((describeChild_tame properties _).bind fun _ _ ↦ (ih hms _ _).bind fun _ _ ↦
          .pure trivial)))

theorem childrenOf_bind_endures {α : Type} (env' : Ref) (expression : String)
    {f : List (Eval (Option Child)) → Eval α} (hf : ∀ ms, Child.AllTame ms → Tame (f ms)) :
    Endures env (childrenOf env' expression >>= f) := by
  rw [childrenOf, bind_assoc]
  refine .bind (evaluateChain_endures env' _) fun v ↦ Tame.endures (Yields.bind ?_ hf)
  split
  · exact .ite (Child.ofEnvironment_yields env') (Child.members_yields _ _)
  · exact Child.members_yields _ _

theorem children_answers (hs : Shell.Sound env s) (env' : Ref) (r : ChildrenRequest)
    (cancelled : Nat → Bool) :
    ∃ o t, (children env' r cancelled).run s = (.ok o, t) ∧ Shell.Sound env t := by
  unfold children
  split
  · exact ⟨_, s, rfl, hs⟩
  · have hlisted : Endures env (environment env' r.environment >>= fun env' ↦
        childrenOf env' r.expression >>= fun ms ↦
          collect r.properties r.pattern r.limit cancelled 1 0 ms) :=
      .bind (environment_endures env' _) fun env' ↦
        childrenOf_bind_endures env' _ fun ms hms ↦ collect_tame _ _ _ _ hms _ _
    obtain ⟨o, t, hrun, ht⟩ := settled_run hlisted hs
    rw [run_bind_of_ok hrun]
    split <;> exact ⟨_, t, rfl, ht⟩

theorem children_upholds (env' : Ref) (r : ChildrenRequest) (cancelled : Nat → Bool) :
    Upholds env (children env' r cancelled) := by
  intro s hs
  obtain ⟨o, t, hrun, ht⟩ := children_answers hs env' r cancelled
  rw [hrun]
  exact ht

/-- A description of a variable, made in some store between two others. -/
structure Depicts (properties : List Property) (since now : Store) (e : String × Value)
    (i : ValueInfo) : Prop where
  name : i.name = e.1
  described : ∃ u, since.Keeps u ∧ u.Keeps now ∧
    ((describeChild properties ⟨e.1, e.1, .other, e.2⟩).run u).1 = .ok i

theorem Depicts.mono {properties : List Property} {since earlier now later : Store}
    {e : String × Value} {i : ValueInfo} (h : Depicts properties since now e i)
    (hearlier : earlier.Keeps since) (hlater : now.Keeps later) :
    Depicts properties earlier later e i := by
  obtain ⟨hname, u, hu, hu', hrun⟩ := h
  exact ⟨hname, u, hearlier.trans hu, hu'.trans hlater, hrun⟩

theorem describeChild_run (properties : List Property) (name : String) (v : Value)
    (hs : s.Civil) : ∃ i t,
      (describeChild properties ⟨name, name, .other, v⟩).run s = (.ok i, t) ∧
      ∀ vars infos u, Described properties t vars infos u →
        Described properties s ((name, v) :: vars) (i :: infos) u := by
  obtain ⟨-, -, -, hfailure⟩ := describe_yields (variableRequest properties name) v s hs
  rw [describeChild_variable]
  rcases hr : (describe (variableRequest properties name) v).run s with ⟨result, t⟩
  rw [hr] at hfailure
  cases result with
  | ok i => exact ⟨i, t, run_handle_of_ok hr, fun _ _ _ ↦ .full hr⟩
  | error f =>
    refine ⟨_, t, (run_tryCatch_of_error hr).trans ?_, fun _ _ _ ↦ .bare hr⟩
    rw [if_pos (hfailure f rfl)]
    rfl

theorem collect_run (properties : List Property) (looks found : Nat)
    (vars : List (String × Value)) (hs : s.Civil) : ∃ infos t,
      (collect properties none none (fun _ ↦ false) looks found (vars.map fun e ↦
        Pure.pure (some ⟨e.1, e.1, .other, e.2⟩))).run s = (.ok (some infos), t) ∧
      Described properties s vars infos t := by
  induction vars generalizing looks found s with
  | nil => exact ⟨[], s, rfl, .nil s⟩
  | cons e vars ih =>
    obtain ⟨i, u, hrun, hcons⟩ := describeChild_run properties e.1 e.2 hs
    obtain ⟨-, hcivil, -, -⟩ := describeChild_tame properties ⟨e.1, e.1, .other, e.2⟩ s hs
    rw [hrun] at hcivil
    obtain ⟨infos, t, hrest, hall⟩ := ih (looks + 1) (found + 1) hcivil
    refine ⟨i :: infos, t, ?_, hcons _ _ _ hall⟩
    rw [List.map_cons, collect, pure_bind]
    show (describeChild properties ⟨e.1, e.1, .other, e.2⟩ >>= _).run s = _
    rw [run_bind_of_ok hrun, run_bind_of_ok hrest]
    rfl

namespace Described

variable {properties : List Property} {vars : List (String × Value)} {infos : List ValueInfo}

theorem keeps (h : Described properties s vars infos t) (hs : s.Civil) : s.Keeps t ∧ t.Civil := by
  induction h with
  | nil s => exact ⟨.refl s, hs⟩
  | full hr _ ih | bare hr _ ih =>
    have hends := (describe_yields _ _).ends hs hr
    exact ⟨hends.keeps.trans (ih hends.civil).1, (ih hends.civil).2⟩

theorem forall_mem {P : ValueInfo → Prop} (h : Described properties s vars infos t) (hs : s.Civil)
    (hfull : ∀ name v, Yields P (describe (variableRequest properties name) v))
    (hbare : ∀ name v u, P (describeBare (variableRequest properties name) u v)) :
    ∀ i ∈ infos, P i := by
  induction h with
  | nil => simp
  | full hr _ ih =>
    have hends := (hfull _ _).ends hs hr
    exact List.forall_mem_cons.mpr ⟨hends.result _ rfl, ih hends.civil⟩
  | bare hr _ ih =>
    have hends := (hfull _ _).ends hs hr
    exact List.forall_mem_cons.mpr ⟨hbare _ _ _, ih hends.civil⟩

theorem depicts (h : Described properties s vars infos t) (hs : s.Civil) :
    List.Forall₂ (Depicts properties s t) vars infos := by
  induction h with
  | nil => exact .nil
  | full hr hrest ih =>
    have hends := (describe_yields _ _).ends hs hr
    refine .cons ⟨(hends.result _ rfl).1, _, .refl _,
      hends.keeps.trans (hrest.keeps hends.civil).1, ?_⟩
      ((ih hends.civil).imp fun _ _ h ↦ h.mono hends.keeps (.refl _))
    rw [describeChild_variable, run_handle_of_ok hr]
  | bare hr hrest ih =>
    have hends := (describe_yields _ _).ends hs hr
    refine .cons ⟨rfl, _, .refl _, hends.keeps.trans (hrest.keeps hends.civil).1, ?_⟩
      ((ih hends.civil).imp fun _ _ h ↦ h.mono hends.keeps (.refl _))
    rw [describeChild_variable, Eval.handle, run_tryCatch_of_error hr,
      if_pos (hends.failure _ rfl)]
    rfl

theorem names (h : Described properties s vars infos t) (hs : s.Civil) :
    infos.map (·.name) = vars.map (·.1) := by
  rw [← List.forall₂_eq_eq_eq, List.forall₂_map_left_iff, List.forall₂_map_right_iff]
  exact (h.depicts hs).flip.imp fun _ _ h ↦ h.name

end Described

theorem children_run {env : Ref} {s u : Store}
    (hu : (evaluateChain env globalEnvironment).run s = (.ok (.ref env), u)) (hcivil : u.Civil)
    {vars : List (String × Value)} (hvars : u.Binds env vars) {r : ChildrenRequest}
    (hr : r.environment = globalEnvironment) (he : r.expression = globalEnvironment)
    (hpattern : r.pattern = none) (hlimit : r.limit = none) : ∃ infos t,
      (children env r fun _ ↦ false).run s = (.ok (.success infos), t) ∧
      Described r.properties u vars infos t := by
  obtain ⟨infos, t, hrun, hall⟩ := collect_run r.properties 1 0 vars hcivil
  have hinner : (environment env r.environment >>= fun env ↦
      childrenOf env r.expression >>= fun ms ↦
        collect r.properties r.pattern r.limit (fun _ ↦ false) 1 0 ms).run s =
      (.ok (some infos), t) := by
    rw [hr, environment_global, pure_bind, he, hpattern, hlimit, childrenOf, bind_assoc,
      run_bind_of_ok hu]
    dsimp only
    rw [if_pos rfl, run_bind_of_ok (Child.ofEnvironment_run hvars), hrun]
  exact ⟨infos, t, children_run_of_found rfl hinner, hall⟩

end Inspection

/-- The expression for the global environment gives the namespace itself, and goes on to do so
however the store grows. -/
def Shell.Known (env : Ref) (s : Store) : Prop :=
  ∀ t, (provided env s).Keeps t →
    ((evaluateChain env globalEnvironment).run t).1 = .ok (.ref env)

/-- The expression for the global environment fails, and goes on to do so however the store
grows. -/
def Shell.Lost (env : Ref) (s : Store) : Prop :=
  ∀ t, (provided env s).Keeps t →
    ∃ f, ((evaluateChain env globalEnvironment).run t).1 = .error f

def Shell.globalsFunction : Value := .function "globals"

/-- The name `globals` has the meaning that it always has, unless it is bound to something else. -/
inductive Shell.Meant (env : Ref) (s : Store) : Prop
  | bound {vars : List (String × Value)} : s.Binds env vars →
      vars.lookup "globals" = some globalsFunction → Meant env s
  /-- The environment is still to be given the universal names. -/
  | bare {vars : List (String × Value)} : s.Binds env vars → vars.lookup "globals" = none →
      vars.lookup universalKey = none → Meant env s
  | universal {vars names : List (String × Value)} {r : Ref} : s.Binds env vars →
      vars.lookup "globals" = none → vars.lookup universalKey = some (.ref r) →
      s.IsDict r (names.map asEntry) → names.lookup "globals" = some globalsFunction → Meant env s

theorem Shell.Meant.nameValue (h : Meant env s) (t : Store) (ht : (provided env s).Keeps t) :
    (Eval.nameValue env "globals").run t = (.ok globalsFunction, t) := by
  cases h with
  | bound hvars hg =>
    obtain ⟨vars', hvars', -, hkept⟩ := provided_binds hvars
    exact nameValue_of_bound (hvars'.keeps ht) (hkept _ _ hg)
  | bare hvars hg hu =>
    obtain ⟨hvars', hnames⟩ := provided_of_free_binds hvars hu
    refine nameValue_of_universal (hvars'.keeps ht) ?_ ?_ (hnames.keeps ht) rfl
    · simp [List.lookup_append, hg]
      decide
    · simp [List.lookup_append, hu]
  | universal hvars hg hu hr hn =>
    rw [provided_of_bound hvars (by simp [hu])] at ht
    exact nameValue_of_universal (hvars.keeps ht) hg hu (hr.keeps ht) hn

theorem Expr.parse_global (source : String) :
    Expr.parse source "globals()" = .ok (.call (.name "globals") [] []) := by
  rw [Expr.parse, if_neg (by simp)]
  with_unfolding_all rfl

theorem chainValue_global (env : Ref) : chainValue env globalEnvironment =
    Eval.nameValue env "globals" >>= fun f ↦ Eval.call env Eval.callDepth f [] [] := by
  have hchain : Chain.ofText globalEnvironment = ⟨globalEnvironment, []⟩ := by decide +kernel
  have hindent : withoutIndent "globals()" = "globals()" := by decide +kernel
  rw [chainValue, hchain, globalEnvironment, hindent, Expr.parse_global]
  simp only [List.foldlM, bind_pure]
  rfl

theorem evaluateChain_provided (hs : Shell.Sound env s) (expression : String) :
    (evaluateChain env expression).run (Shell.provided env s) =
      (evaluateChain env expression).run s := by
  rw [evaluateChain_run, evaluateChain_run, Shell.provided_of_keeps hs (.refl _)]

theorem evaluateChain_ends (hs : s.Civil) (expression : String) :
    Ends (fun _ ↦ True) (Shell.provided env s) ((evaluateChain env expression).run s) := by
  rw [evaluateChain_run]
  exact chainValue_tame env expression _ (Shell.provided_civil env hs)

namespace Shell.Lost

variable (hs : Sound env s)

include hs

theorem of_bound {vars : List (String × Value)} {v : Value} (hvars : s.Binds env vars)
    (hv : vars.lookup "globals" = some v)
    (hcall : ∀ t, ∃ f, ((Eval.call env Eval.callDepth v [] []).run t).1 = .error f) :
    Lost env s := by
  intro t ht
  obtain ⟨vars', hvars', -, hkept⟩ := provided_binds hvars
  obtain ⟨f, hf⟩ := hcall t
  refine ⟨f, ?_⟩
  rw [evaluateChain_run, provided_of_keeps hs ht, chainValue_global,
    run_bind_of_ok (nameValue_of_bound (hvars'.keeps ht) (hkept _ _ hv))]
  exact hf

variable (hl : Lost env s)

include hl

theorem keeps (h : (provided env s).Keeps t) : Lost env t := by
  intro u hu
  rw [provided_of_keeps hs h] at hu
  exact hl u (h.trans hu)

theorem evaluation_run {r : EvaluationRequest} (hf : r.frame.environment = globalEnvironment)
    (he : r.expression = globalEnvironment) : ∃ f t,
      (Inspection.evaluation env r).run s = (.ok (.evaluationError f), t) ∧
      (provided env s).Keeps t ∧ t.Civil := by
  obtain ⟨f, hfault⟩ := hl _ (.refl _)
  rw [evaluateChain_provided hs] at hfault
  obtain ⟨hkeeps, hcivil, -, hfailure⟩ := evaluateChain_ends hs.civil globalEnvironment
  have hinner : (Inspection.environment env r.frame.environment >>= fun env ↦
      evaluateChain env r.expression >>= fun v ↦
        describe ⟨r.name, r.expression, .other, r.properties, r.representation⟩ v).run s =
      (.error f, ((evaluateChain env globalEnvironment).run s).2) := by
    rw [hf, Inspection.environment_global, pure_bind, he,
      run_bind_of_error (Prod.ext hfault rfl)]
  exact ⟨f.report, _, Inspection.settled_run_of_error hinner (hfailure f hfault), hkeeps, hcivil⟩

end Shell.Lost

namespace Shell.Known

theorem of_nameValue (hs : Sound env s) (h : ∀ t, (provided env s).Keeps t →
    (Eval.nameValue env "globals").run t = (.ok globalsFunction, t)) : Known env s := by
  intro t ht
  rw [VariableExplorer.evaluateChain_run, provided_of_keeps hs ht, chainValue_global,
    run_bind_of_ok (h t ht)]
  rfl

theorem of_meant (hs : Sound env s) (h : Meant env s) : Known env s := of_nameValue hs h.nameValue

variable (hs : Sound env s) (hk : Known env s)

include hs hk

theorem keeps (h : (provided env s).Keeps t) : Known env t := by
  intro u hu
  rw [provided_of_keeps hs h] at hu
  exact hk u (h.trans hu)

theorem evaluateChain_run : ∃ t, (evaluateChain env globalEnvironment).run s = (.ok (.ref env), t) ∧
    (provided env s).Keeps t ∧ t.Civil := by
  have hresult := hk _ (.refl _)
  rw [evaluateChain_provided hs] at hresult
  obtain ⟨hkeeps, hcivil, -, -⟩ := evaluateChain_ends hs.civil globalEnvironment
  exact ⟨_, Prod.ext hresult rfl, hkeeps, hcivil⟩

theorem evaluation_run {r : EvaluationRequest} (hf : r.frame.environment = globalEnvironment)
    (he : r.expression = globalEnvironment) (hp : r.properties.contains .expression = true) :
    ∃ i t, (Inspection.evaluation env r).run s = (.ok (.success i), t) ∧
      i.expression = globalEnvironment ∧ (provided env s).Keeps t ∧ t.Civil := by
  obtain ⟨u, hu, hkeeps, hcivil⟩ := evaluateChain_run hs hk
  obtain ⟨vars, hvars⟩ := (provided_sound hs).binds
  let q : Request := ⟨r.name, r.expression, .other, r.properties, r.representation⟩
  obtain ⟨i, t, ht⟩ := Answers.describe q u hcivil (hvars.dict.keeps hkeeps)
  obtain ⟨hkeeps', hcivil', hresult, -⟩ := describe_yields q (.ref env) u hcivil
  rw [ht] at hkeeps' hcivil' hresult
  refine ⟨i, t, ?_, ((hresult i rfl).2 hp).trans he, hkeeps.trans hkeeps', hcivil'⟩
  have hrun : (Inspection.environment env r.frame.environment >>= fun env ↦
      evaluateChain env r.expression >>= fun v ↦ describe q v).run s = (.ok i, t) := by
    rw [hf, Inspection.environment_global, pure_bind, he, run_bind_of_ok hu]
    exact ht
  exact Inspection.settled_run_of_ok hrun

theorem children_run (hsame : provided env s = s) {r : ChildrenRequest}
    (hr : r.environment = globalEnvironment) (he : r.expression = globalEnvironment)
    (hpattern : r.pattern = none) (hlimit : r.limit = none) {vars : List (String × Value)}
    (hvars : s.Binds env vars) : ∃ infos t,
      (Inspection.children env r fun _ ↦ false).run s = (.ok (.success infos), t) ∧
      s.Keeps t ∧ t.Civil ∧ List.Forall₂ (Inspection.Depicts r.properties s t) vars infos := by
  obtain ⟨u, hu, hkeeps, hcivil⟩ := evaluateChain_run hs hk
  rw [hsame] at hkeeps
  obtain ⟨infos, t, hrun, hall⟩ :=
    Inspection.children_run hu hcivil (hvars.keeps hkeeps) hr he hpattern hlimit
  obtain ⟨hkeeps', hcivil'⟩ := hall.keeps hcivil
  exact ⟨infos, t, hrun, hkeeps.trans hkeeps', hcivil',
    (hall.depicts hcivil).imp fun _ _ h ↦ h.mono hkeeps (.refl t)⟩

end Shell.Known

end VariableExplorer
