import VariableExplorer.Proofs.Suggestion.Completing
import VariableExplorer.Proofs.Suggestion.Prompt

/-!
How many members a path has. The count is told without asking for them, and it bounds what is found
but for a part of a name: there the variables are found, and the count is that of an expression.
-/

namespace VariableExplorer

open Navigation

/-- A session that gives no more members than it is asked for. -/
def Moderate {σ : Type} (ask : Call → StateM σ Answer) : Prop :=
  ∀ (r : ChildrenRequest) (limit : Int) (s : σ) (es : List (Element ValueInfo))
    (error : Option String), r.limit = some limit →
    ((ask (.children r)).run s).1 = .values ⟨.ok, some (.many es), error⟩ →
    es.length ≤ limit.toNat

theorem Inspection.length_collect {properties : List Property} {pattern : Option String}
    {limit : Int} {cancelled : Nat → Bool} {looks found : Nat} {ms : List (Eval (Option Child))}
    {s t : Store} {infos : List ValueInfo}
    (h : (collect properties pattern (some limit) cancelled looks found ms).run s =
      (.ok (some infos), t)) : infos.length ≤ (limit - found).toNat := by
  -- What is still missing is one less behind each description, and so `found` is general.
  induction ms generalizing s looks found infos with
  | nil =>
    cases h
    exact Nat.zero_le _
  | cons m ms ih =>
    obtain ⟨read, u, -, h⟩ := collect_cons_eq_ok h
    cases h with
    | absent h => exact ih h
    | enough => exact Nat.zero_le _
    | unwanted _ _ _ h => exact ih h
    | described hlimit _ _ _ hcollected =>
      have hlimit : ¬ limit ≤ found := by simpa using hlimit
      rw [List.length_cons, Provider.toNat_sub_of_lt hlimit]
      exact Nat.succ_le_succ (ih hcollected)

namespace Provider

theorem askKernel_moderate {κ : Type} : Moderate (askKernel (κ := κ)) := by
  intro r limit k es error hlimit h
  obtain ⟨infos, t, rfl, hchildren⟩ := Kernel.answer_children_eq_ok h
  obtain ⟨-, ms, -, u, -, -, hcollected⟩ := Inspection.children_eq_ok hchildren
  rw [hlimit] at hcollected
  simpa using Inspection.length_collect hcollected

theorem length_named_le (typed : String) (max : Int) (es : List (Element ValueInfo)) :
    (named typed max 0 es).length ≤ es.length := by
  rw [named_eq, List.length_map]
  calc _ ≤ ((Element.givenOnly es).filter (Fits typed)).length := List.length_take_le' _ _
    _ ≤ (Element.givenOnly es).length := List.length_filter_le _ _
    _ ≤ es.length := List.length_filterMap_le _ _

section

variable {σ : Type} {p : Provider} {snapshot : Snapshot} {ask : Call → StateM σ Answer}
  {path : Option String} {max : Int} {cancellable : Bool} {w : Wait} {s : σ}
  {found : List Candidate}

theorem length_of_free (hfree : Free (path.getD "").toList)
    (h : ((p.members snapshot ask path max cancellable w).run s).1 = .ok found) :
    found.length = min max.toNat snapshot.visible.length := by
  rw [members, lookup_of_free path p snapshot max cancellable hfree] at h
  cases h
  rw [List.length_map, List.length_take]

theorem length_le_of_not_free (hask : Moderate ask) (hfree : ¬ Free (path.getD "").toList)
    (h : ((p.members snapshot ask path max cancellable w).run s).1 = .ok found) :
    found.length ≤ p.maxResults.toNat := by
  have hreads := reads_scopeOf (path.getD "").toList
  cases hscope : scopeOf (path.getD "").toList with
  | global name =>
    rw [hscope] at hreads
    generalize (path.getD "").toList = cs at hreads hfree
    cases hreads with
    | global h => exact absurd h hfree
  | degenerate =>
    rw [members, lookup_of_degenerate path p snapshot max cancellable hscope] at h
    cases h
    exact Nat.zero_le _
  | nested base selector typed =>
    obtain rfl | ⟨es, error, hanswer, rfl⟩ := members_eq_ok path (hscope ▸ hreads) h
    · exact Nat.zero_le _
    · exact (length_named_le typed max es).trans (hask _ _ s es error rfl hanswer)

/-- At a session that keeps to what it is asked for, the count of a path bounds what is found for
it, save for one that is a part of a name: if more variables are asked for than the count of an
expression, and there are more that are not hidden, then more are found than are counted. -/
theorem members_within_count_iff (hresults : 0 < p.maxResults) (hask : Moderate ask)
    (h : ((p.members snapshot ask path max cancellable w).run s).1 = .ok found) :
    (found.length : Int) ≤ p.memberCount snapshot path ↔
      (path.getD "" ≠ "" → Free (path.getD "").toList →
        max ≤ p.maxResults ∨ (snapshot.visible.length : Int) ≤ p.maxResults) := by
  have hsize : snapshot.visible.length ≤ snapshot.size := List.length_filter_le _ _
  by_cases hfree : Free (path.getD "").toList
  · have hlength := length_of_free hfree h
    by_cases hempty : path.getD "" = ""
    · have hcount : p.memberCount snapshot path = snapshot.size := if_pos hempty
      rw [hcount]
      exact ⟨fun _ hname ↦ absurd hempty hname, fun _ ↦ by omega⟩
    · have hcount : p.memberCount snapshot path = p.maxResults := if_neg hempty
      rw [hcount]
      refine ⟨fun hle _ _ ↦ ?_, fun hle ↦ ?_⟩
      · omega
      · have hle := hle hempty hfree
        omega
  · have hlength := length_le_of_not_free hask hfree h
    have hempty : path.getD "" ≠ "" := fun hempty ↦ hfree (by simp [hempty, Free])
    have hcount : p.memberCount snapshot path = p.maxResults := if_neg hempty
    rw [hcount]
    exact ⟨fun _ _ hname ↦ absurd hname hfree, fun _ ↦ by omega⟩

end

/-- The same variables are found for no name and for a part of one; the one count bounds them, and
the other does not. -/
theorem members_beyond_count : ∃ (k : Kernel Empty) (found : List Candidate),
    Kernel.new ["globals"] [] false = .ok k ∧
    ((Provider.members { maxResults := 1 } twoNames askKernel none 5 false {}).run k).1 =
      .ok found ∧
    (found.length : Int) ≤ Provider.memberCount { maxResults := 1 } twoNames none ∧
    ((Provider.members { maxResults := 1 } twoNames askKernel (some "c") 5 false {}).run k).1 =
      .ok found ∧
    ¬ (found.length : Int) ≤ Provider.memberCount { maxResults := 1 } twoNames (some "c") := by
  obtain ⟨k, hk⟩ : ∃ k : Kernel Empty, Kernel.new ["globals"] [] false = .ok k := ⟨_, rfl⟩
  let found : List Candidate := [{ displayName := "count" }, { displayName := "total" }]
  have hall : ((Provider.members { maxResults := 1 } twoNames askKernel none 5 false {}).run k).1 =
      .ok found := rfl
  have hpart : ((Provider.members { maxResults := 1 } twoNames askKernel (some "c") 5 false
      {}).run k).1 = .ok found := rfl
  refine ⟨k, found, hk, hall, ?_, hpart, fun hle ↦ ?_⟩
  · exact (members_within_count_iff Int.one_pos askKernel_moderate hall).mpr fun hname ↦
      absurd rfl hname
  · have hfree : Free "c".toList := by decide
    have hfew := (members_within_count_iff Int.one_pos askKernel_moderate hpart).mp hle
      (by decide) hfree
    exact absurd hfew (by decide)

end Provider

end VariableExplorer
