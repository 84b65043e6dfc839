import Mathlib.Data.List.DropRight
import VariableExplorer.Proofs.Suggestion.Members
import VariableExplorer.Suggestion.Basic

/-!
What is suggested for a text. The path in it is the longest one at its end, and the suggestion goes
on with the first of the names found for the path that goes further than what is typed of it.
-/

namespace VariableExplorer

open Navigation

namespace Suggestion

/-! ### The path at the end of a text -/

/-- The longest end of a text that is made of the characters of paths. -/
structure Trails (text path : List Char) : Prop where
  suffix : path <:+ text
  chars : ∀ c ∈ path, isPathChar c = true
  longest : ∀ longer, longer <:+ text → (∀ c ∈ longer, isPathChar c = true) → longer <:+ path

theorem trails_rtakeWhile (text : List Char) : Trails text (text.rtakeWhile isPathChar) := by
  refine ⟨List.rtakeWhile_suffix _ _, fun c hc ↦ List.mem_rtakeWhile_imp hc, ?_⟩
  rintro longer ⟨before, rfl⟩ hlonger
  have hreverse : ∀ c ∈ longer.reverse, isPathChar c = true :=
    fun c hc ↦ hlonger c (List.mem_reverse.mp hc)
  rw [List.rtakeWhile, List.reverse_append, List.takeWhile_append_of_pos hreverse,
    List.reverse_append, List.reverse_reverse]
  exact List.suffix_append _ _

theorem withoutLineEnd_of_not_mem {cs : List Char} (h : '\n' ∉ cs) : withoutLineEnd cs = cs := by
  unfold withoutLineEnd
  split
  next rest hreverse =>
    have hmem : '\n' ∈ cs.reverse := hreverse ▸ List.mem_cons_self
    exact absurd (List.mem_reverse.mp hmem) h
  next => rfl

theorem trails_tail {text : String} (h : '\n' ∉ text.toList) :
    Trails text.toList (tail text).toList := by
  have htail : (tail text).toList = text.toList.rtakeWhile isPathChar := by
    rw [tail, withoutLineEnd_of_not_mem h, String.toList_ofList, List.rtakeWhile]
  rw [htail]
  exact trails_rtakeWhile text.toList

/-- What stands behind the last selector of a path, and all of it if there is none. -/
def LastName (path name : List Char) : Prop :=
  Free name ∧ (path = name ∨ ∃ base selector, path = base ++ Selector.char selector :: name)

theorem lastName_typed {path : String} (h : scopeOf path.toList ≠ .degenerate) :
    LastName path.toList (typed path).toList := by
  have hreads := reads_scopeOf path.toList
  rw [typed, Path.parse, Option.getD_some]
  generalize scopeOf path.toList = scope at h hreads
  generalize path.toList = cs at hreads
  cases hreads with
  | global hfree =>
    dsimp only
    rw [String.toList_ofList]
    exact ⟨hfree, .inl rfl⟩
  | degenerate => exact absurd rfl h
  | @nested c base _ selector _ htyped =>
    dsimp only
    rw [String.toList_ofList]
    exact ⟨htyped, .inr ⟨c :: base, selector, rfl⟩⟩

theorem LastName.suffix {path name : List Char} (h : LastName path name) : name <:+ path := by
  obtain ⟨-, rfl | ⟨base, selector, rfl⟩⟩ := h
  · exact List.suffix_refl _
  · exact (List.suffix_cons _ _).trans (List.suffix_append _ _)

theorem exists_lastName (path : List Char) : ∃ name, LastName path name := by
  obtain hfree | ⟨base, selector, name, hpath, hname⟩ := free_or_last path
  · exact ⟨path, hfree, .inl rfl⟩
  · exact ⟨name, hname, .inr ⟨base, selector, hpath⟩⟩

theorem LastName.unique {path name name' : List Char} (h : LastName path name)
    (h' : LastName path name') : name = name' := by
  have hselector {base name : List Char} {selector : Selector} :
      ¬ Free (base ++ selector.char :: name) := fun hfree ↦ by
    have hno := hfree selector.char (by simp)
    rw [Selector.isSelector_char] at hno
    cases hno
  obtain ⟨hname, rfl | ⟨base, selector, rfl⟩⟩ := h
  · obtain ⟨-, rfl | ⟨base', selector', rfl⟩⟩ := h'
    · rfl
    · exact absurd hname hselector
  · obtain ⟨hname', rfl | ⟨base', selector', hpath⟩⟩ := h'
    · exact absurd hname' hselector
    · rw [← afterLast_append hname, hpath, afterLast_append hname']

/-! ### The first name that goes further -/

/-- A name that goes on where what is typed of it ends. -/
def Extends (typed name : String) : Prop := ∃ rest, rest ≠ "" ∧ name = typed ++ rest

theorem extends_iff {typed name : String} :
    (typed.toList.isPrefixOf name.toList && decide (name ≠ typed)) = true ↔ Extends typed name := by
  rw [Bool.and_eq_true, List.isPrefixOf_iff_prefix, decide_eq_true_eq]
  constructor
  · rintro ⟨⟨rest, hrest⟩, hne⟩
    have hname : name = typed ++ String.ofList rest := by
      rw [← String.toList_inj, String.toList_append, String.toList_ofList, hrest]
    refine ⟨String.ofList rest, fun hempty ↦ hne ?_, hname⟩
    rw [hname, hempty, String.append_empty]
  · rintro ⟨rest, hrest, rfl⟩
    refine ⟨⟨rest.toList, by simp⟩, fun heq ↦ hrest ?_⟩
    simpa using heq

theorem not_extends_iff {typed name : String} :
    (!(typed.toList.isPrefixOf name.toList && decide (name ≠ typed))) = true ↔
      ¬ Extends typed name := by
  rw [← extends_iff, Bool.not_eq_true', Bool.not_eq_true]

/-- The first of some names that goes further than what is typed, and what it adds. -/
structure First (typed : String) (names : List String) (i : Nat) (rest : String) : Prop where
  name : names[i]? = some (typed ++ rest)
  further : rest ≠ ""
  earlier : ∀ j < i, ∀ name, names[j]? = some name → ¬ Extends typed name

theorem first_take {typed rest : String} {names : List String} {n i : Nat} :
    First typed (names.take n) i rest ↔ First typed names i rest ∧ i < n := by
  constructor
  · intro h
    obtain ⟨hi, -⟩ := List.getElem?_eq_some_iff.mp h.name
    have hn : i < n := by
      rw [List.length_take] at hi
      omega
    refine ⟨⟨?_, h.further, fun j hj name hname ↦ h.earlier j hj name ?_⟩, hn⟩
    · rw [← h.name, List.getElem?_take_of_lt hn]
    · rw [List.getElem?_take_of_lt (by omega), hname]
  · rintro ⟨h, hn⟩
    refine ⟨?_, h.further, fun j hj name hname ↦ h.earlier j hj name ?_⟩
    · rw [List.getElem?_take_of_lt hn, h.name]
    · rw [← hname, List.getElem?_take_of_lt (by omega)]

theorem extend?_eq_some_iff {text typed suggestion : String} {found : List Candidate} :
    extend? text typed found = some suggestion ↔
      ∃ i rest, First typed (found.map (·.displayName)) i rest ∧ suggestion = text ++ rest := by
  have hrest {rest : String} :
      String.ofList ((typed ++ rest).toList.drop typed.length) = rest := by
    rw [String.toList_append, ← String.length_toList, List.drop_left, String.ofList_toList]
  simp only [extend?, Option.map_eq_some_iff, List.find?_eq_some_iff_getElem, extends_iff,
    not_extends_iff]
  constructor
  · rintro ⟨c, ⟨⟨rest, hne, hname⟩, i, hi, rfl, hearlier⟩, rfl⟩
    refine ⟨i, rest, ⟨by simp [hi, hname], hne, fun j hj name hfound ↦ ?_⟩, ?_⟩
    · obtain ⟨d, hd, rfl⟩ := Option.map_eq_some_iff.mp (List.getElem?_map ▸ hfound)
      obtain ⟨_, rfl⟩ := List.getElem?_eq_some_iff.mp hd
      exact hearlier j hj
    · rw [hname, hrest]
  · rintro ⟨i, rest, h, rfl⟩
    obtain ⟨c, hc, hname⟩ := Option.map_eq_some_iff.mp (List.getElem?_map ▸ h.name)
    obtain ⟨hi, rfl⟩ := List.getElem?_eq_some_iff.mp hc
    refine ⟨_, ⟨⟨rest, h.further, hname⟩, i, hi, rfl, fun j hj ↦ ?_⟩, ?_⟩
    · exact h.earlier j hj _ (by simp [hj.trans hi])
    · rw [hname, hrest]

theorem exists_extend? {text typed : String} {found : List Candidate} {c : Candidate}
    (hc : c ∈ found) (h : Extends typed c.displayName) :
    ∃ suggestion, extend? text typed found = some suggestion := by
  rw [← Option.isSome_iff_exists, extend?, Option.isSome_map, List.find?_isSome]
  exact ⟨c, hc, extends_iff.mpr h⟩

end Suggestion

/-! ### What is suggested -/

open Suggestion

namespace Provider

section

variable {m : Type → Type} [Monad m] [LawfulMonad m] (p : Provider) (snapshot : Snapshot)
  (ask : Call → StateT Suggester m Answer) (w : Wait) (s : Suggester) (text : String)

theorem suggest_run (h : tail text ≠ "") : (p.suggest snapshot ask text w).run s =
    (fun x ↦ (x.1.map (extend? text (typed (tail text))), x.2)) <$>
      (p.members snapshot ask (some (tail text)) s.limit true w).run s.advance := by
  rw [suggest, VariableExplorer.suggest, if_neg h]
  simp

/-- The suggestion for a variable. For a text that ends in a part of a name it goes on with the
first variable, of those not hidden, whose name goes further, if the suggester looks at as many as
reach up to that one; else there is none. The session is not asked. -/
theorem suggest_variable {name : String} (htail : tail text = name) (hname : name ≠ "")
    (hfree : Free name.toList) : ∃ answer,
    (p.suggest snapshot ask text w).run s = pure (.ok answer, s.advance) ∧
      ∀ suggestion, answer = some suggestion ↔ ∃ i rest,
        First name (snapshot.visible.map (·.name)) i rest ∧ (i : Int) < s.limit ∧
          suggestion = text ++ rest := by
  let found : List Candidate := (snapshot.visible.take s.limit.toNat).map fun d ↦
    { displayName := d.name, kind := d.kind }
  have hfound : found.map (·.displayName) =
      (snapshot.visible.map (·.name)).take s.limit.toNat := by
    rw [List.map_map, List.map_take]
    rfl
  have htyped : typed name = name := by
    rw [typed, Path.parse, Option.getD_some, scopeOf_of_free hfree, String.ofList_toList]
  refine ⟨extend? text name found, ?_, fun suggestion ↦ ?_⟩
  · rw [p.suggest_run snapshot ask w s text (htail ▸ hname), htail, htyped, members,
      lookup_of_free (some name) p snapshot s.limit true hfree]
    simp [found, Except.map]
  · simp only [extend?_eq_some_iff, hfound, first_take, Int.lt_toNat, and_assoc]

end

def twoNames : Snapshot := ⟨[{ name := "count" }, { name := "total" }]⟩

def silentSession (_ : Call) : StateT Suggester Id Answer := pure .silent

/-- It is suggested by a suggester that looks at two variables, and lost where it looks at one. -/
theorem suggest_variable_second :
    (Provider.suggest {} twoNames silentSession "print(tot").run { limit := 2 } =
      pure (.ok (some "print(total"), { limit := 2, token := some 0 }) ∧
    (Provider.suggest {} twoNames silentSession "print(tot").run { limit := 1 } =
      pure (.ok none, { limit := 1, token := some 0 }) := by
  have hfree : Free "tot".toList := by decide
  have hcount : ¬ Extends "tot" "count" := not_extends_iff.mp (by decide)
  have hfirst : First "tot" (twoNames.visible.map (·.name)) 1 "al" := by
    refine ⟨rfl, by decide, fun j hj name hname ↦ ?_⟩
    obtain rfl : j = 0 := by omega
    cases hname
    exact hcount
  obtain ⟨second, hsecond, hfound⟩ := suggest_variable {} twoNames silentSession {} { limit := 2 }
    "print(tot" rfl (by decide) hfree
  obtain ⟨first, hone, hlost⟩ := suggest_variable {} twoNames silentSession {} { limit := 1 }
    "print(tot" rfl (by decide) hfree
  have hsome : second = some "print(total" := (hfound _).mpr ⟨1, "al", hfirst, by decide, rfl⟩
  have hnone : first = none := by
    refine Option.eq_none_iff_forall_ne_some.mpr fun suggestion hsuggestion ↦ ?_
    obtain ⟨i, rest, hfirst, hi, -⟩ := (hlost suggestion).mp hsuggestion
    obtain rfl : i = 0 := by
      have hi : (i : Int) < 1 := hi
      omega
    exact hcount ⟨rest, hfirst.further, Option.some.inj hfirst.name⟩
  exact ⟨hsome ▸ hsecond, hnone ▸ hone⟩

theorem suggest_composed {m : Type → Type} [Monad m] [MonadStateOf Suggester m]
    {P : {α : Type} → m α → Prop} (hP : Composed m P) (hget : P (getThe Suggester))
    (hset : ∀ s : Suggester, P (set s)) {ask : Call → m Answer} (hask : ∀ c, P (ask c))
    (p : Provider) (snapshot : Snapshot) (text : String) (w : Wait) :
    P (p.suggest snapshot ask text w) := by
  rw [suggest, VariableExplorer.suggest]
  split
  · exact hP.pure _
  · exact hP.bind hget fun _ ↦ hP.bind (hset _) fun _ ↦
      hP.bind (members_composed hP hask _ _ _ _ _ _) fun _ ↦ hP.pure _

section

variable {σ : Type} {p : Provider} {snapshot : Snapshot}
  {ask : Call → StateT Suggester (StateM σ) Answer} {w : Wait} {s : Suggester} {u : σ}

theorem scopeOf_of_found {path : String} {max : Int} {found : List Candidate} {c : Candidate}
    (h : (((p.members snapshot ask (some path) max true w).run s).run u).1.1 = .ok found)
    (hc : c ∈ found) : scopeOf path.toList ≠ .degenerate := by
  intro hscope
  rw [members, lookup_of_degenerate (some path) p snapshot max true hscope] at h
  cases h
  cases hc

theorem suggest_result {text : String} (h : tail text ≠ "") :
    (((p.suggest snapshot ask text w).run s).run u).1.1 =
      (((p.members snapshot ask (some (tail text)) s.limit true w).run s.advance).run
        u).1.1.map (extend? text (typed (tail text))) := by
  rw [suggest_run p snapshot ask w s text h]
  rfl

theorem found_of_suggest {text suggestion : String}
    (h : (((p.suggest snapshot ask text w).run s).run u).1.1 = .ok (some suggestion)) :
    ∃ found c rest, (((p.members snapshot ask (some (tail text)) s.limit true w).run
        s.advance).run u).1.1 = .ok found ∧ c ∈ found ∧
      c.displayName = typed (tail text) ++ rest ∧ rest ≠ "" ∧ suggestion = text ++ rest := by
  have hpath : tail text ≠ "" := by
    intro hempty
    rw [suggest, VariableExplorer.suggest, if_pos hempty] at h
    cases h
  rw [suggest_result hpath] at h
  generalize (((p.members snapshot ask (some (tail text)) s.limit true w).run
    s.advance).run u).1.1 = result at h ⊢
  cases result with
  | error f => cases h
  | ok found =>
    obtain ⟨i, rest, hfirst, hsuggestion⟩ := extend?_eq_some_iff.mp (Except.ok.inj h)
    obtain ⟨c, hc, hname⟩ := Option.map_eq_some_iff.mp (List.getElem?_map ▸ hfirst.name)
    exact ⟨found, c, rest, rfl, List.mem_of_getElem? hc, hname, hfirst.further, hsuggestion⟩

end

/-- What is suggested extends the text. It puts the name of a member, one that was found for the
path at the end of the text, in the place of what is typed of it; and something is suggested
whenever a member that was found goes further. Where the text does not end in a path nothing is
looked up and no token is touched. -/
theorem suggest_sound {σ : Type} (p : Provider) (snapshot : Snapshot)
    (ask : Call → StateT Suggester (StateM σ) Answer) (w : Wait) (text : String)
    (hline : '\n' ∉ text.toList) : ∃ path before name : String,
    Trails text.toList path.toList ∧ LastName path.toList name.toList ∧ text = before ++ name ∧
    (path = "" → ∀ (m : Type → Type) [Monad m] [MonadStateOf Suggester m]
      (lookup : String → Int → Nat → m (Except Provider.Fault (List Candidate))),
      VariableExplorer.suggest lookup text = pure (.ok none)) ∧
    ∀ (s : Suggester) (u : σ),
      (∀ suggestion,
        (((p.suggest snapshot ask text w).run s).run u).1.1 = .ok (some suggestion) →
        ∃ (found : List Candidate) (c : Candidate) (rest : String),
          (((p.members snapshot ask (some path) s.limit true w).run s.advance).run u).1.1 =
            .ok found ∧ c ∈ found ∧ c.displayName = name ++ rest ∧ rest ≠ "" ∧
          suggestion = text ++ rest ∧ suggestion = before ++ c.displayName) ∧
      (path ≠ "" → ∀ found : List Candidate,
        (((p.members snapshot ask (some path) s.limit true w).run s.advance).run u).1.1 =
          .ok found → (∃ c ∈ found, Extends name c.displayName) →
        ∃ suggestion,
          (((p.suggest snapshot ask text w).run s).run u).1.1 = .ok (some suggestion)) := by
  have htrails := trails_tail hline
  obtain ⟨name, hlast⟩ := exists_lastName (tail text).toList
  obtain ⟨before, hbefore⟩ := hlast.suffix.trans htrails.suffix
  -- A path that a member is found for has its last name as what is typed.
  have htyped {s : Suggester} {u : σ} {found : List Candidate} {c : Candidate}
      (h : (((p.members snapshot ask (some (tail text)) s.limit true w).run s.advance).run
        u).1.1 = .ok found) (hc : c ∈ found) : typed (tail text) = String.ofList name := by
    rw [← (lastName_typed (scopeOf_of_found h hc)).unique hlast, String.ofList_toList]
  have htext : text = String.ofList before ++ String.ofList name := by
    rw [← String.toList_inj, ← hbefore, String.toList_append, String.toList_ofList,
      String.toList_ofList]
  refine ⟨tail text, String.ofList before, String.ofList name, htrails, ?_, htext,
    fun h m _ _ lookup ↦ if_pos h, fun s u ↦ ⟨fun suggestion h ↦ ?_, ?_⟩⟩
  · rwa [String.toList_ofList]
  · obtain ⟨found, c, rest, hfound, hc, hname, hrest, hsuggestion⟩ := found_of_suggest h
    rw [htyped hfound hc] at hname
    refine ⟨found, c, rest, hfound, hc, hname, hrest, hsuggestion, ?_⟩
    rw [hsuggestion, hname, ← String.append_assoc, ← htext]
  · rintro hpath found hfound ⟨c, hc, hfurther⟩
    rw [suggest_result hpath, hfound, htyped hfound hc]
    obtain ⟨suggestion, hsuggestion⟩ := exists_extend? hc hfurther
    exact ⟨suggestion, congrArg Except.ok hsuggestion⟩

def askFrame (c : Call) : StateT Suggester (StateM Nat) Answer := StateT.lift (frameSession c)

/-- In the call of a function the column of a frame takes the place of what is typed of it. -/
theorem suggest_sound_frame :
    (((Provider.suggest {} {} askFrame "print(df$co").run {}).run 0).1.1 =
      .ok (some "print(df$col") ∧
    ∃ (c : Candidate) (before name : String), c.displayName = name ++ "l" ∧
      "print(df$co" = before ++ name ∧ "print(df$col" = before ++ c.displayName := by
  have hfound : (((Provider.suggest {} {} askFrame "print(df$co").run {}).run 0).1.1 =
      .ok (some "print(df$col") := rfl
  obtain ⟨path, before, name, -, -, htext, -, hsound⟩ :=
    suggest_sound {} {} askFrame {} "print(df$co" (by decide)
  obtain ⟨-, c, rest, -, -, hname, -, hrest, hsuggestion⟩ := (hsound {} 0).1 _ hfound
  obtain rfl : "l" = rest := String.append_right_inj "print(df$co" |>.mp hrest
  exact ⟨hfound, c, before, name, hname, htext, hsuggestion⟩

end Provider

end VariableExplorer
