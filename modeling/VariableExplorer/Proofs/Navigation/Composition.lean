import Mathlib.Data.List.Induction
import VariableExplorer.Proofs.Navigation.Drilling

/-!
Chains are compositional. A member is selected from the value of what stands before it, so that a
chain is the fold of its members from the value of its head, and one more literal in brackets is one
more subscript.
-/

namespace VariableExplorer

open Eval Navigation

namespace Chain

def followed (e : String) (link : Link) : String :=
  e ++ link.selector.char.toString ++ link.member

/-- Every text is a head with members behind it, none of which holds a selector. -/
theorem exists_links (text : String) : ∃ (head : String) (links : List Link),
    Free head.toList ∧ (∀ link ∈ links, Free link.member.toList) ∧
      text = links.foldl followed head := by
  induction hn : text.length using Nat.strong_induction_on generalizing text with
  | _ n ih =>
    obtain hfree | ⟨before, selector, after, htext, hafter⟩ := free_or_last text.toList
    · exact ⟨text, [], hfree, nofun, rfl⟩
    · have hlength : (String.ofList before).length < n := by
        rw [← hn, ← String.length_toList, ← String.length_toList, htext]
        simp
      obtain ⟨head, links, hhead, hlinks, hbefore⟩ := ih _ hlength (String.ofList before) rfl
      refine ⟨head, links ++ [⟨selector, String.ofList after⟩], hhead, ?_, ?_⟩
      · intro link hlink
        obtain hlink | hlink := List.mem_append.mp hlink
        · exact hlinks link hlink
        · rw [List.mem_singleton.mp hlink]
          simpa using hafter
      · rw [List.foldl_append, ← hbefore, ← String.toList_inj, htext]
        simp [followed]

/-! ### Members with literals behind their name -/

def subscripted (name : String) (literals : List String) : String :=
  literals.foldl (fun member literal ↦ member ++ "[" ++ literal ++ "]") name

variable {name : String} {literals : List String} {literal : String}

theorem subscripted_concat : subscripted name (literals ++ [literal]) =
    subscripted name literals ++ "[" ++ literal ++ "]" := by
  simp only [subscripted, List.foldl_append, List.foldl_cons, List.foldl_nil]

theorem free_subscripted (hname : Plain name) (h : ∀ t ∈ literals, Free t.toList) :
    Free (subscripted name literals).toList := by
  induction literals using List.reverseRecOn with
  | nil => exact hname.free
  | append_singleton literals t ih =>
    obtain ⟨hliterals, ht⟩ := List.forall_mem_append.mp h
    rw [subscripted_concat]
    exact (ih hliterals).brackets (ht t List.mem_cons_self)

theorem continues_subscripted (hname : Plain name) (literals : List String) :
    Continues (subscripted name literals).toList := by
  induction literals using List.reverseRecOn with
  | nil => exact hname.continues
  | append_singleton literals t _ =>
    have htext : (subscripted name (literals ++ [t])).toList =
        (subscripted name literals).toList ++ '[' :: (t.toList ++ [']']) := by
      simp [subscripted_concat]
    rw [htext]
    exact .brackets

theorem memberParts?_subscripted (hname : Plain name) (h : ∀ t ∈ literals, ']' ∉ t.toList) :
    memberParts? (subscripted name literals) = some (name, literals) := by
  induction literals using List.reverseRecOn with
  | nil => exact memberParts?_of_plain hname
  | append_singleton literals t ih =>
    obtain ⟨hliterals, ht⟩ := List.forall_mem_append.mp h
    rw [subscripted_concat]
    exact memberParts?_concat (ih hliterals) (continues_subscripted hname literals)
      (ht t List.mem_cons_self)

theorem select_subscripted (hname : Plain name) (h : ∀ t ∈ literals, ']' ∉ t.toList) (v : Value)
    (selector : Selector) : select v ⟨selector, subscripted name literals⟩ =
      named v selector name >>= fun w ↦ literals.foldlM indexed w := by
  simp only [select, memberParts?_subscripted hname h]

theorem select_subscripted_concat (hname : Plain name)
    (h : ∀ t ∈ literals ++ [literal], ']' ∉ t.toList) (v : Value) (selector : Selector) :
    select v ⟨selector, subscripted name (literals ++ [literal])⟩ =
      select v ⟨selector, subscripted name literals⟩ >>= fun w ↦ indexed w literal := by
  rw [select_subscripted hname h, select_subscripted hname (List.forall_mem_append.mp h).1]
  simp only [List.foldlM_append, List.foldlM_cons, List.foldlM_nil, bind_pure, bind_assoc]

end Chain

section

variable (env : Ref) (e : String)

theorem evaluateChain_followed (link : Link) (h : Free link.member.toList) :
    evaluateChain env (Chain.followed e link) =
      evaluateChain env e >>= fun v ↦ Chain.select v link := by
  have htext : (Chain.followed e link).toList =
      e.toList ++ link.selector.char :: link.member.toList := by simp [Chain.followed]
  rw [evaluateChain, Chain.ofText_concat htext h, Chain.value_concat]
  rfl

theorem evaluateChain_foldl {links : List Link} (h : ∀ link ∈ links, Free link.member.toList) :
    evaluateChain env (links.foldl Chain.followed e) =
      evaluateChain env e >>= fun v ↦ links.foldlM Chain.select v := by
  induction links generalizing e with
  | nil => simp only [List.foldl_nil, List.foldlM_nil, bind_pure]
  | cons link links ih =>
    obtain ⟨hlink, hlinks⟩ := List.forall_mem_cons.mp h
    simp only [List.foldl_cons, ih _ hlinks, evaluateChain_followed env e link hlink,
      List.foldlM_cons, bind_assoc]

end

/-- Chains are read step by step. A member behind an expression, whatever the expression, is
selected from its value, and what fails first is what the whole fails with. So the value of a head
with members behind it, as which every text can be read, is the fold of the members from the value
of the head. One more literal in brackets behind a member is a subscript of the value before. -/
theorem evaluateChain_compositional (env : Ref) :
    (∀ (e : String) (selector : Selector) (member : String), Free member.toList →
      evaluateChain env (e ++ selector.char.toString ++ member) =
        evaluateChain env e >>= fun v ↦ Chain.select v ⟨selector, member⟩) ∧
    (∀ (head : String) (links : List Link), Free head.toList →
      (∀ link ∈ links, Free link.member.toList) →
      evaluateChain env (links.foldl Chain.followed head) =
        evaluate env head >>= fun v ↦ links.foldlM Chain.select v) ∧
    (∀ text : String, ∃ (head : String) (links : List Link), Free head.toList ∧
      (∀ link ∈ links, Free link.member.toList) ∧ text = links.foldl Chain.followed head) ∧
    (∀ (e : String) (selector : Selector) (name : String) (literals : List String)
      (literal : String), Chain.Plain name →
      (∀ t ∈ literals ++ [literal], Free t.toList ∧ ']' ∉ t.toList) →
      evaluateChain env (e ++ selector.char.toString ++
          (Chain.subscripted name literals ++ "[" ++ literal ++ "]")) =
        evaluateChain env (e ++ selector.char.toString ++ Chain.subscripted name literals) >>=
          fun v ↦ Chain.indexed v literal) := by
  refine ⟨fun e selector member h ↦ evaluateChain_followed env e ⟨selector, member⟩ h,
    fun head links hhead hlinks ↦ ?_, Chain.exists_links,
    fun e selector name literals literal hname hliterals ↦ ?_⟩
  · rw [evaluateChain_foldl env head hlinks, evaluateChain_free hhead]
  · obtain ⟨hfree, hclosed⟩ := forall₂_and.mp hliterals
    have hmember (literals : List String) (h : ∀ t ∈ literals, Free t.toList) :=
      evaluateChain_followed env e ⟨selector, Chain.subscripted name literals⟩
        (Chain.free_subscripted hname h)
    have hlonger := hmember (literals ++ [literal]) hfree
    have hshorter := hmember literals (List.forall_mem_append.mp hfree).1
    simp only [Chain.select_subscripted_concat hname hclosed] at hlonger
    simp only [Chain.followed, Chain.subscripted_concat] at hlonger hshorter
    rw [hlonger, hshorter, bind_assoc]

/-- The attribute of an entry is a pair, and one more literal gives its second number. -/
theorem evaluateChain_compositional_nested :
    evaluateChain 0 "d[-1]@xs" =
      (evaluateChain 0 "d[-1]" >>= fun v ↦ Chain.select v ⟨.byAttribute, "xs"⟩) ∧
    evaluateChain 0 "d[-1]@xs[1]" =
      (evaluateChain 0 "d[-1]@xs" >>= fun v ↦ Chain.indexed v "1") ∧
    ((evaluateChain 0 "d[-1]@xs[1]").run nested).1 = .ok (.int 8) := by
  obtain ⟨hmember, -, -, hliteral⟩ := evaluateChain_compositional 0
  have hname : Chain.Plain "xs" := by decide
  have hone : Expr.Written "1" (.constant (.int 1)) := .natural 1
  have hlast : evaluateChain 0 "d[-1]@xs[1]" =
      evaluateChain 0 "d[-1]@xs" >>= fun v ↦ Chain.indexed v "1" :=
    hliteral "d[-1]" .byAttribute "xs" [] "1" hname
      (List.forall_mem_singleton.mpr ⟨hone.free, hone.inside⟩)
  refine ⟨hmember "d[-1]" .byAttribute "xs" hname.free, hlast, ?_⟩
  obtain ⟨w, hpair, hk⟩ := nested_drilled.evaluateChain_gives
    (provideUniversal_gives nested_binds rfl) nested (.refl nested)
  obtain ⟨u, hnumber, -⟩ := nested_sequence.getItem_gives (i := 1) rfl w hk
  have hindexed : (Chain.indexed (.ref 5) "1").run w = (.ok (.int 8), u) := by
    rw [Chain.indexed, Literal.read, hone.toLegible.withoutIndent, hone.parse]
    exact hnumber
  rw [hlast, run_bind_of_ok hpair, hindexed]

end VariableExplorer
