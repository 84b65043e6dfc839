import VariableExplorer.Kernel.Basic
import VariableExplorer.Proofs.Kernel.Session
import VariableExplorer.Proofs.Navigation.Drilling

/-!
What a kernel shows of its variables. Whatever they are bound to, each has an entry, and the entry
is hidden just if its name is.
-/

namespace VariableExplorer

open Eval

variable {env : Ref} {s : Store}

namespace Shell

/-- The name `globals` gives the function that gives the namespace, where code is evaluated. -/
def MeansGlobals (env : Ref) (s : Store) : Prop :=
  ((Eval.nameValue env "globals").run (provided env s)).1 = .ok globalsFunction

theorem evaluateChain_of_bound {vars : List (String × Value)} {name : String} {v : Value}
    (hvars : s.Binds env vars) (huniversal : (vars.lookup universalKey).isSome = true)
    (hword : Token.IsWord name.toList) (hkeyword : name ∉ Parser.keywords)
    (hv : vars.lookup name = some v) : (evaluateChain env name).run s = (.ok v, s) := by
  have hplace := Expr.Place.name hword hkeyword
  have hprovided : (provideUniversal env).run s = (.ok (), s) := by
    rw [provideUniversal_run, provided_of_bound hvars huniversal]
  rw [evaluateChain_free hplace.free, evaluate, hplace.legible.withoutIndent, hplace.parse]
  show (Eval.provideUniversal env >>= fun _ ↦ Eval.nameValue env name).run s = _
  rw [run_bind_of_ok hprovided, nameValue_of_bound hvars hv]

theorem evaluateChain_d {vars : List (String × Value)} {v : Value} (hvars : s.Binds env vars)
    (huniversal : (vars.lookup universalKey).isSome = true) (hv : vars.lookup "d" = some v) :
    (evaluateChain env "d").run s = (.ok v, s) := by
  have hword : Token.IsWord "d".toList :=
    ⟨List.all_eq_true.mp (by decide), ⟨'d', [], rfl, rfl⟩, by decide⟩
  exact evaluateChain_of_bound hvars huniversal hword (by decide) hv

end Shell

/-- A new kernel whose one variable besides those of its own is `d`, bound to this value. -/
structure Kernel.Lone {κ : Type} (k : Kernel κ) (r : Recipe) (v : Value) : Prop where
  made : Kernel.new ["globals"] [("d", r)] false = .ok k
  isOpen : k.closed = false
  binds : ∃ builtins self,
    k.store.Binds k.env [(universalKey, builtins), ("d", v), ("_kernel", self)]
  other : v ≠ .ref k.env

theorem Kernel.Lone.evaluateChain_run {κ : Type} {k : Kernel κ} {r : Recipe} {v : Value}
    (h : k.Lone r v) : (evaluateChain k.env "d").run k.store = (.ok v, k.store) := by
  obtain ⟨builtins, self, hvars⟩ := h.binds
  exact Shell.evaluateChain_d hvars rfl rfl

namespace Shell

/-- What an environment still lacks: the universal names, as a new variable at the end. -/
def missing (s : Store) (vars : List (String × Value)) : List (String × Value) :=
  if (vars.lookup universalKey).isSome then [] else [(universalKey, .ref s.objects.size)]

theorem provided_binds_missing {vars : List (String × Value)} (h : s.Binds env vars) :
    (provided env s).Binds env (vars ++ missing s vars) := by
  cases hu : vars.lookup universalKey with
  | some u =>
    have hsome : (vars.lookup universalKey).isSome = true := by rw [hu]; rfl
    rwa [missing, if_pos hsome, List.append_nil, provided_of_bound h hsome]
  | none =>
    rw [missing, if_neg (by simp [hu])]
    exact (provided_of_free_binds h hu).1

theorem MeansGlobals.of_meant (h : Meant env s) : MeansGlobals env s :=
  congrArg Prod.fst (h.nameValue _ (.refl _))

theorem MeansGlobals.evaluateChain_run (h : MeansGlobals env s) (hs : Sound env s) : ∃ t,
    (evaluateChain env globalEnvironment).run s = (.ok (.ref env), t) ∧
    (provided env s).Keeps t ∧ t.Civil := by
  have hrun : ((evaluateChain env globalEnvironment).run s).1 = .ok (.ref env) := by
    rw [VariableExplorer.evaluateChain_run, chainValue_global, run_bind_of_ok (Prod.ext h rfl)]
    rfl
  obtain ⟨hkeeps, hcivil, -, -⟩ := evaluateChain_ends hs.civil globalEnvironment
  exact ⟨_, Prod.ext hrun rfl, hkeeps, hcivil⟩

end Shell

theorem Inspection.Described.hidden {properties : List Property} {vars : List (String × Value)}
    {infos : List ValueInfo} {t : Store} (h : Described properties s vars infos t) (hs : s.Civil)
    (hflags : properties.contains .flags = true) :
    ∀ i ∈ infos, i.isHidden = isHiddenName i.name := by
  refine h.forall_mem hs (fun name v ↦ describe_hidden hflags v) fun name v u ↦ ?_
  show (if properties.contains .flags = true then _ else _ : Flags).hidden = _
  rw [if_pos hflags]
  rfl

namespace Kernel

variable {κ : Type} {k : Kernel κ}

/-- A kernel that is open lists its variables, as long as `globals` has its meaning: there is one
entry for each, in the order of the namespace, and it is the full description or else the bare one.
Those of hidden names are hidden, whichever they are. -/
theorem children_global (hopen : k.closed = false) (hcivil : k.store.Civil)
    {vars : List (String × Value)} (hvars : k.store.Binds k.env vars)
    (hg : Shell.MeansGlobals k.env k.store) (properties : List Property)
    (timeout : Option Seconds) : ∃ infos s t,
      k.children ⟨globalEnvironment, globalEnvironment, properties, none, none, timeout, false⟩ =
        (.ok (.success infos), { k with store := t }) ∧
      (Shell.provided k.env k.store).Keeps s ∧
      Inspection.Described properties s (vars ++ Shell.missing k.store vars) infos t ∧
      infos.map (·.name) = (vars ++ Shell.missing k.store vars).map (·.1) ∧
      (properties.contains .flags = true →
        ∀ i ∈ infos, i.isHidden = isHiddenName i.name) := by
  obtain ⟨s, hrun, hkeeps, hcivil'⟩ := hg.evaluateChain_run ⟨hcivil, vars, hvars⟩
  obtain ⟨infos, t, ht, hall⟩ := Inspection.children_run hrun hcivil'
    ((Shell.provided_binds_missing hvars).keeps hkeeps)
    (r := ⟨globalEnvironment, globalEnvironment, properties, none, none, timeout, false⟩)
    rfl rfl rfl rfl
  refine ⟨infos, s, t, ?_, hkeeps, hall, hall.names hcivil', hall.hidden hcivil'⟩
  simp only [children, inspect, hopen, Bool.false_eq_true, if_false, eval, ht]

/-- A value of a class whose values raise when they are asked for their class. -/
def hostile : Recipe :=
  Recipe.instance_ ⟨"__main__", "Hostile", none, none, [], none, none, [], [], [], none,
    [("__class__", .error ⟨"RuntimeError", none⟩)], none⟩

/-- A value that stops the program when it is asked for its class. -/
def stopping : Recipe :=
  Recipe.instance_ ⟨"__main__", "Stopping", none, none, [], none, none, [], [], [], none,
    [("__class__", .error ⟨"SystemExit", none⟩)], none⟩

theorem hostile_tame : Tame hostile := by
  have hraise : FaultSpec.Ordinary ⟨"RuntimeError", none⟩ := by
    unfold FaultSpec.Ordinary
    decide
  refine Recipe.instance_tame ⟨?_, ?_, ?_, ?_, ?_, ?_, ?_, ?_, ?_⟩ <;>
    simp [NamedTame, BehaviourSpec.Tame, hraise]

/-- A value that raises whenever its class is looked up has an entry as well. -/
theorem children_global_hostile : ∃ (k : Kernel Empty) (infos : List ValueInfo) (t : Store),
    Kernel.new ["globals"] [("x", hostile)] false = .ok k ∧
    k.children ⟨globalEnvironment, globalEnvironment, [.flags], none, none, none, false⟩ =
      (.ok (.success infos), { k with store := t }) ∧
    infos.map (fun i ↦ (i.name, i.isHidden)) =
      [("__builtins__", true), ("x", false), ("_kernel", true)] := by
  obtain ⟨k, hk, hvars, hknown⟩ : ∃ k : Kernel Empty,
      Kernel.new ["globals"] [("x", hostile)] false = .ok k ∧
      k.store.Binds k.env [("__builtins__", .ref 0), ("x", .ref 4), ("_kernel", .ref 8)] ∧
      k.store.IsDict 0 ([("globals", Shell.globalsFunction)].map asEntry) :=
    ⟨_, rfl, ⟨rfl, by decide⟩, rfl⟩
  obtain ⟨hs, hopen, -⟩ := new_sound (List.forall_mem_singleton.mpr hostile_tame) hk
  obtain ⟨infos, -, t, hrun, -, -, hnames, hhidden⟩ := children_global hopen hs.civil hvars
    (.of_meant (.universal hvars rfl rfl hknown rfl)) [.flags] none
  refine ⟨k, infos, t, hk, hrun, ?_⟩
  have hpairs : infos.map (fun i ↦ (i.name, i.isHidden)) =
      (infos.map (·.name)).map fun name ↦ (name, isHiddenName name) := by
    rw [List.map_map]
    exact List.map_congr_left fun i hi ↦ Prod.ext rfl (hhidden rfl i hi)
  rw [hpairs, hnames, Shell.missing, if_pos (by decide)]
  decide

end Kernel

end VariableExplorer
