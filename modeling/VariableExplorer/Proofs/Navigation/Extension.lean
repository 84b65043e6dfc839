import Mathlib.Data.List.TakeWhile
import VariableExplorer.Proofs.Navigation.Chain
import VariableExplorer.Proofs.Navigation.Path

/-!
What a chain becomes when more is written behind it. A plain name behind a selector is one more
member, and a literal in brackets is one more step of the last member.
-/

namespace VariableExplorer

open Eval

namespace Navigation

open Selector

theorem pieces_ne_nil (cs : List Char) : pieces cs ≠ [] := by
  cases cs with
  | nil => simp [pieces]
  | cons c cs =>
    unfold pieces
    split
    · simp
    · split <;> simp

theorem Free.pieces {cs : List Char} (h : Free cs) : pieces cs = [cs] := by
  induction cs with
  | nil => rfl
  | cons c cs ih =>
    obtain ⟨hc, hcs⟩ := List.forall_mem_cons.mp h
    rw [Navigation.pieces, hc, ih hcs]
    rfl

theorem Free.append {cs ds : List Char} (h : Free cs) (h' : Free ds) : Free (cs ++ ds) :=
  List.forall_mem_append.mpr ⟨h, h'⟩

theorem Free.brackets {e t : String} (he : Free e.toList) (ht : Free t.toList) :
    Free (e ++ "[" ++ t ++ "]").toList := by
  have hopen : Free ['['] := List.forall_mem_singleton.mpr rfl
  have hclose : Free [']'] := List.forall_mem_singleton.mpr rfl
  simpa using he.append (hopen.append (ht.append hclose))

theorem pieces_append (before : List Char) (selector : Selector) (after : List Char) :
    pieces (before ++ selector.char :: after) = pieces before ++ pieces after := by
  induction before with
  | nil => simp [pieces, isSelector_char]
  | cons c before ih =>
    simp only [List.cons_append, pieces, ih]
    obtain ⟨p, ps, hp⟩ := List.exists_cons_of_ne_nil (pieces_ne_nil before)
    rw [hp]
    split <;> rfl

theorem selectors_append (before : List Char) (selector : Selector) (after : List Char) :
    selectors (before ++ selector.char :: after) =
      selectors before ++ selector :: selectors after := by
  rw [selectors, List.filterMap_append, List.filterMap_cons_some (ofChar?_eq_some.mpr rfl)]
  rfl

theorem length_pieces (cs : List Char) : (pieces cs).length = (selectors cs).length + 1 := by
  induction cs with
  | nil => rfl
  | cons c cs ih =>
    obtain ⟨p, ps, hp⟩ := List.exists_cons_of_ne_nil (pieces_ne_nil cs)
    rw [hp] at ih
    cases hc : ofChar? c with
    | none => simpa [pieces, selectors, isSelector, hc, hp] using ih
    | some selector => simpa [pieces, selectors, isSelector, hc, hp] using ih

end Navigation

namespace Chain

/-- A name that stands for itself as a member of a chain. -/
def Plain (name : String) : Prop :=
  ∀ c ∈ name.toList, Selector.isSelector c = false ∧ c ≠ '['

instance (name : String) : Decidable (Plain name) :=
  List.decidableBAll (fun c ↦ Selector.isSelector c = false ∧ c ≠ '[') name.toList

theorem Plain.free {name : String} (h : Plain name) : Navigation.Free name.toList :=
  fun c hc ↦ (h c hc).1

theorem ofText_of_free {text : String} (h : Navigation.Free text.toList) :
    ofText text = ⟨text, []⟩ := by
  rw [ofText, Navigation.split, h.pieces]
  simp

theorem ofText_concat {text base member : String} {selector : Selector}
    (htext : text.toList = base.toList ++ selector.char :: member.toList)
    (hmember : Navigation.Free member.toList) :
    ofText text = ⟨(ofText base).head, (ofText base).links ++ [⟨selector, member⟩]⟩ := by
  obtain ⟨p, ps, hp⟩ := List.exists_cons_of_ne_nil (Navigation.pieces_ne_nil base.toList)
  have hlength : (Navigation.selectors base.toList).length = (ps.map String.ofList).length := by
    simpa [hp, eq_comm] using Navigation.length_pieces base.toList
  rw [ofText, ofText, Navigation.split, Navigation.split, htext, Navigation.pieces_append,
    Navigation.selectors_append, hmember.pieces, hmember.selectors, hp]
  simp only [List.cons_append, List.map_cons, List.map_append, List.zipWith_append hlength]
  simp

theorem value_concat (env : Ref) (chain : Chain) (link : Link) :
    value env ⟨chain.head, chain.links ++ [link]⟩ =
      value env chain >>= fun v ↦ select v link := by
  simp only [value, List.foldlM_append, List.foldlM_cons, List.foldlM_nil, bind_pure, bind_assoc]

/-! ### Names -/

theorem memberParts?_of_plain {name : String} (h : Plain name) :
    memberParts? name = some (name, []) := by
  have hno : ∀ c ∈ name.toList, (c ≠ '[' : Bool) = true := fun c hc ↦ by simpa using (h c hc).2
  simp only [memberParts?, List.takeWhile_eq_self_iff.mpr hno, List.dropWhile_eq_nil_iff.mpr hno,
    groups, Option.map_some, String.ofList_toList]

theorem select_of_plain {name : String} (h : Plain name) (v : Value) (selector : Selector) :
    select v ⟨selector, name⟩ = named v selector name := by
  simp only [select, memberParts?_of_plain h, List.foldlM_nil, bind_pure]

/-! ### Groups of brackets -/

theorem groups_mono {fuel more : Nat} {cs : List Char} {found : List String}
    (h : groups fuel cs = some found) (hle : fuel ≤ more) : groups more cs = some found := by
  obtain _ | more := more
  · rw [Nat.le_zero.mp hle] at h
    cases h
  fun_induction groups fuel cs generalizing more found with
  | case1 | case5 | case6 => cases h
  | case2 | case3 => exact h
  | case4 fuel cs rest hrest ih =>
    obtain ⟨found, hfound, rfl⟩ := Option.map_eq_some_iff.mp h
    obtain _ | more := more
    · rw [Nat.le_zero.mp (Nat.le_of_succ_le_succ hle)] at hfound
      cases hfound
    · simp only [groups, hrest, ih hfound more (Nat.le_of_succ_le_succ hle), Option.map_some]

theorem groups_concat {fuel : Nat} {cs t : List Char} {found : List String}
    (h : groups fuel cs = some found) (hlast : cs.getLast? ≠ some '\n') (ht : ']' ∉ t) :
    groups (fuel + 1) (cs ++ '[' :: (t ++ [']'])) = some (found ++ [String.ofList t]) := by
  have hno : ∀ c ∈ t, (c ≠ ']' : Bool) = true := fun c hc ↦ by
    simpa using ne_of_mem_of_not_mem hc ht
  fun_induction groups fuel cs generalizing found with
  | case1 | case5 | case6 => cases h
  | case3 => simp at hlast
  | case2 fuel =>
    cases h
    simp only [List.nil_append, groups, List.dropWhile_append_of_pos hno,
      List.takeWhile_append_of_pos hno]
    simp [groups]
  | case4 fuel cs rest hrest ih =>
    obtain ⟨found, hfound, rfl⟩ := Option.map_eq_some_iff.mp h
    have hcs : cs.takeWhile (· ≠ ']') ++ ']' :: rest = cs := by
      rw [← hrest, List.takeWhile_append_dropWhile]
    have hrest' : (cs ++ '[' :: (t ++ [']'])).dropWhile (· ≠ ']') =
        ']' :: (rest ++ '[' :: (t ++ [']'])) := by
      rw [List.dropWhile_append, hrest]
      rfl
    have htake : (cs ++ '[' :: (t ++ [']'])).takeWhile (· ≠ ']') = cs.takeWhile (· ≠ ']') := by
      rw [List.takeWhile_append, if_neg fun h ↦ ?_]
      have hlength := congrArg List.length hcs
      rw [List.length_append, h, List.length_cons] at hlength
      omega
    -- What is left to read ends as the whole does.
    have hlast' : rest.getLast? ≠ some '\n' := by
      intro h
      rw [← hcs, List.getLast?_cons, List.getLast?_append, List.getLast?_cons, h] at hlast
      simp at hlast
    simp only [List.cons_append, groups, hrest', htake, ih hfound hlast', Option.map_some]

/-- One more group may stand behind the groups of a member, unless a line break does. -/
def Continues (member : List Char) : Prop :=
  (member.dropWhile (· ≠ '[')).getLast? ≠ some '\n'

theorem Plain.continues {name : String} (h : Plain name) : Continues name.toList := by
  have hno : name.toList.dropWhile (· ≠ '[') = [] :=
    List.dropWhile_eq_nil_iff.mpr fun c hc ↦ by simpa using (h c hc).2
  rw [Continues, hno]
  exact nofun

theorem Continues.brackets {member t : List Char} :
    Continues (member ++ '[' :: (t ++ [']'])) := by
  rw [Continues, List.dropWhile_append]
  split
  · rw [List.dropWhile_cons_of_neg (by simp)]
    simp [List.getLast?_cons]
  · simp [List.getLast?_append, List.getLast?_cons]

theorem memberParts?_concat {member t name : String} {literals : List String}
    (h : memberParts? member = some (name, literals)) (hlast : Continues member.toList)
    (ht : ']' ∉ t.toList) :
    memberParts? (member ++ "[" ++ t ++ "]") = some (name, literals ++ [t]) := by
  obtain ⟨found, hfound, hparts⟩ := Option.map_eq_some_iff.mp h
  obtain ⟨rfl, rfl⟩ := Prod.mk.inj hparts
  have hmember := List.takeWhile_append_dropWhile (p := (· ≠ '[')) (l := member.toList)
  have hhead := List.dropWhile_get_zero_not (· ≠ '[') member.toList
  have hno : ∀ c ∈ member.toList.takeWhile (· ≠ '['), (c ≠ '[' : Bool) = true :=
    fun c hc ↦ List.mem_takeWhile_imp (p := (· ≠ '[')) hc
  unfold Continues at hlast
  generalize member.toList.takeWhile (· ≠ '[') = name at hmember hno ⊢
  generalize member.toList.dropWhile (· ≠ '[') = rest at hfound hhead hmember hlast ⊢
  have htext : (member ++ "[" ++ t ++ "]").toList =
      name ++ (rest ++ '[' :: (t.toList ++ [']'])) := by simp [← hmember]
  obtain ⟨tail, htail⟩ : ∃ tail, rest ++ '[' :: (t.toList ++ [']']) = '[' :: tail := by
    cases rest with
    | nil => exact ⟨_, rfl⟩
    | cons c rest => exact ⟨rest ++ '[' :: (t.toList ++ [']']), by simpa using hhead (by simp)⟩
  have hle : member.toList.length + 1 + 1 ≤ (member ++ "[" ++ t ++ "]").toList.length + 1 := by simp
  have hgroups := groups_mono (groups_concat hfound hlast ht) hle
  rw [htail] at hgroups htext
  have htake : ('[' :: tail).takeWhile (· ≠ '[') = [] := List.takeWhile_cons_of_neg (by simp)
  have hdrop : ('[' :: tail).dropWhile (· ≠ '[') = '[' :: tail :=
    List.dropWhile_cons_of_neg (by simp)
  simp only [memberParts?, htext, List.takeWhile_append_of_pos hno,
    List.dropWhile_append_of_pos hno, htake, hdrop, List.append_nil] at hgroups ⊢
  rw [hgroups]
  simp

theorem select_run_concat {v w : Value} {selector : Selector} {member t : String}
    {s s' : Store} (h : (select v ⟨selector, member⟩).run s = (.ok w, s'))
    (hlast : Continues member.toList) (ht : ']' ∉ t.toList) :
    (select v ⟨selector, member ++ "[" ++ t ++ "]"⟩).run s = (indexed w t).run s' := by
  cases hparts : memberParts? member with
  | none =>
    simp only [select, hparts] at h
    cases h
  | some parts =>
    obtain ⟨name, literals⟩ := parts
    simp only [select, hparts, memberParts?_concat hparts hlast ht] at h ⊢
    obtain ⟨x, u, hx, hw⟩ := run_bind_eq_ok h
    rw [run_bind_of_ok hx, List.foldlM_append, run_bind_of_ok hw, List.foldlM_cons]
    simp only [List.foldlM_nil, bind_pure]

/-- A chain with a last member behind which one more group may stand. -/
def Extensible (e : String) : Prop :=
  ∃ (base : List Char) (selector : Selector) (member : List Char),
    e.toList = base ++ selector.char :: member ∧ Navigation.Free member ∧ Continues member

theorem Extensible.named {text name : String} {base : List Char} {selector : Selector}
    (htext : text.toList = base ++ selector.char :: name.toList) (h : Plain name) :
    Extensible text := ⟨base, selector, name.toList, htext, h.free, h.continues⟩

theorem Extensible.indexed {e t : String} (h : Extensible e) (ht : Navigation.Free t.toList) :
    Extensible (e ++ "[" ++ t ++ "]") := by
  obtain ⟨base, selector, member, he, hfree, -⟩ := h
  refine ⟨base, selector, member ++ '[' :: (t.toList ++ [']']), by simp [he], ?_, .brackets⟩
  have hbrackets := Navigation.Free.brackets (e := String.ofList member) (by simpa using hfree) ht
  simpa using hbrackets

end Chain

variable {env : Ref} {e text : String} {v : Value} {u u' : Store}

theorem evaluateChain_named {name : String} {selector : Selector}
    (htext : text.toList = e.toList ++ selector.char :: name.toList) (h : Chain.Plain name) :
    evaluateChain env text = evaluateChain env e >>= fun v ↦ Chain.named v selector name := by
  rw [evaluateChain, Chain.ofText_concat htext h.free, Chain.value_concat]
  simp only [Chain.select_of_plain h]
  rfl

theorem evaluateChain_indexed {t : String} (he : (evaluateChain env e).run u = (.ok v, u'))
    (h : Chain.Extensible e) (hfree : Navigation.Free t.toList) (ht : ']' ∉ t.toList) :
    (evaluateChain env (e ++ "[" ++ t ++ "]")).run u = (Chain.indexed v t).run u' := by
  obtain ⟨before, selector, after, hsplit, hafter, hlast⟩ := h
  let base := String.ofList before
  let member := String.ofList after
  have hbase : e.toList = base.toList ++ selector.char :: member.toList := by
    simp [base, member, hsplit]
  have htext : (e ++ "[" ++ t ++ "]").toList =
      base.toList ++ selector.char :: (member ++ "[" ++ t ++ "]").toList := by simp [hbase]
  have hmember : Navigation.Free member.toList := by simpa [member] using hafter
  have hlast : Chain.Continues member.toList := by simpa [member] using hlast
  rw [evaluateChain, Chain.ofText_concat hbase hmember, Chain.value_concat] at he
  obtain ⟨w, s, hw, hv⟩ := run_bind_eq_ok he
  rw [evaluateChain, Chain.ofText_concat htext (hmember.brackets hfree), Chain.value_concat,
    run_bind_of_ok hw, Chain.select_run_concat hv hlast ht]

end VariableExplorer
