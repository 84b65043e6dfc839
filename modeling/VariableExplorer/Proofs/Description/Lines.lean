import VariableExplorer.Proofs.Description.Growth
import VariableExplorer.Proofs.Value.Spelling

/-!
The lines of a summary. A summary always comes to be, but it is one line only as far as the texts
are that go into it as they are.
-/

namespace VariableExplorer

open Eval Text

namespace Traced

variable {F : String → Prop} {text : String}

theorem cut (h : Traced F text) (n : Int) : Traced F (cut text n) := by
  refine h.of_prefix ?_
  rw [VariableExplorer.cut, String.toList_ofList]
  split <;> exact List.take_prefix _ _

theorem shorten (h : Traced F text) (limit : Int) : Traced F (shorten limit text) := by
  unfold VariableExplorer.shorten
  split
  · exact h
  · exact (h.cut _).append (.own (by decide))

end Traced

namespace Eval

variable {α β : Type}

/-- Whatever is added to the store before it, the results of a computation are of some kind. -/
def Results (s : Store) (P : α → Prop) (x : Eval α) : Prop := ∀ a, Attains s x a → P a

namespace Results

variable {s : Store} {P : α → Prop} {Q : β → Prop} {x : Eval α}

theorem pure {a : α} (h : P a) : Results s P (Pure.pure a : Eval α) := by
  rintro b ⟨t, u, -, hrun⟩
  cases hrun
  exact h

theorem bind {f : α → Eval β} (hx : Grows x) (hf : ∀ a, Attains s x a → Results s Q (f a)) :
    Results s Q (x >>= f) := by
  rintro b ⟨t, u, hk, hrun⟩
  obtain ⟨a, t', ha, hb⟩ := run_bind_eq_ok hrun
  exact hf a ⟨t, t', hk, ha⟩ b ⟨t', u, hk.trans (hx.keeps ha), hb⟩

theorem get {f : Store → Eval α} (h : ∀ t, s.Keeps t → Results s P (f t)) :
    Results s P (MonadState.get >>= f) := by
  rintro a ⟨t, u, hk, hrun⟩
  exact h t hk a ⟨t, u, hk, hrun⟩

theorem handle {h : Fault → Eval α} (hx : Results s P x) (hg : Grows x)
    (hh : ∀ f, Results s P (h f)) : Results s P (Eval.handle x h) := by
  rintro a ⟨t, u, hk, hrun⟩
  rcases hr : x.run t with ⟨r, t'⟩
  rw [Eval.handle] at hrun
  cases r with
  | ok b =>
    obtain ⟨hb, -⟩ := Prod.mk.inj ((run_tryCatch_of_ok hr).symm.trans hrun)
    cases hb
    exact hx _ ⟨t, _, hk, hr⟩
  | error f =>
    rw [run_tryCatch_of_error hr] at hrun
    split at hrun
    · exact hh f a ⟨t', u, hk.trans (hg.keeps hr), hrun⟩
    · cases hrun

theorem mapM {f : α → Eval β} {as : List α} (hg : ∀ a, Grows (f a))
    (h : ∀ a ∈ as, Results s Q (f a)) : Results s (fun bs ↦ ∀ b ∈ bs, Q b) (as.mapM f) := by
  induction as with
  | nil => exact pure (List.forall_mem_nil _)
  | cons a as ih =>
    obtain ⟨ha, has⟩ := List.forall_mem_cons.mp h
    rw [List.mapM_cons]
    exact bind (hg a) fun b hb ↦ bind (.mapM hg as) fun bs hbs ↦
      pure (List.forall_mem_cons.mpr ⟨ha b hb, ih has bs hbs⟩)

theorem ofKind {v : Value} {names : List String} {y : Eval α}
    (hx : Attains s (isInstance v names) true → Results s P x)
    (hy : Attains s (isInstance v names) false → Results s P y) :
    Results s P (do if ← isInstance v names then x else y) := by
  refine .bind (by grind) fun b hb ↦ ?_
  cases b with
  | true => exact hx hb
  | false => exact hy hb

theorem of_reads (h : ∀ t, s.Keeps t → Reads t P x) : Results s P x := by
  rintro a ⟨t, u, hk, hrun⟩
  exact (h t hk).2 a (by rw [hrun])

end Results

end Eval

namespace Store

variable (s : Store) (v : Value)

/-- A piece goes into the shown text of a value at some time. -/
def Spelled (piece : String) : Prop := ∃ t, s.Keeps t ∧ t.Spells v piece

/-- A piece goes into the plain text of a value at some time. -/
def Printed (piece : String) : Prop := ∃ t, s.Keeps t ∧ t.Prints v piece

theorem shown_results : Results s (Traced (s.Spelled v)) (Eval.shown v) :=
  .of_reads fun t ht ↦ (Reads.shown v).mono fun _ h ↦ h.mono fun _ hp ↦ ⟨t, ht, hp⟩

theorem plain_results : Results s (Traced (s.Printed v)) (Eval.plain v) :=
  .of_reads fun t ht ↦ (Reads.plain v).mono fun _ h ↦ h.mono fun _ hp ↦ ⟨t, ht, hp⟩

end Store

namespace Summary

def kinds : List (List String) := [
  ["int", "float", "bool", "complex"], ["str"], ["list"], ["dict"], ["set", "frozenset"], ["tuple"],
  ["module"]]

/-- A piece goes into the summary of a value as it is. -/
inductive Splices (s : Store) (v : Value) : String → Prop
  | kind {t : Store} : s.Keeps t → Splices s v (t.kindName v)
  | number {piece : String} : Attains s (isInstance v ["int", "float", "bool", "complex"]) true →
      s.Printed v piece → Splices s v piece
  | text {n : Nat} {piece : String} : Attains s (isInstance v ["str"]) true →
      Attains s (Eval.length v) n → n ≤ 80 → s.Printed v piece → Splices s v piece
  | start {n : Nat} {w : Value} {piece : String} : Attains s (isInstance v ["str"]) true →
      Attains s (Eval.length v) n → 80 < n →
      Attains s (subscript v (.part none (some (.int 60)) none)) w → s.Printed w piece →
      Splices s v piece
  | last {w : Value} {piece : String} : Attains s (isInstance v ["list"]) true →
      Attains s (getItem v (.int (-1))) w → s.Spelled w piece → Splices s v piece
  | lastKind {w : Value} {t : Store} : Attains s (isInstance v ["list"]) true →
      Attains s (getItem v (.int (-1))) w → s.Keeps t → Splices s v (t.kindName w)
  | key {entries : List (Value × Value)} {k : Value} {piece : String} :
      Attains s (isInstance v ["dict"]) true → Attains s (Child.entriesBy v "keys") entries →
      k ∈ (entries.map (·.1)).take 6 → s.Spelled k piece → Splices s v piece
  | tuple {n : Nat} {piece : String} : Attains s (isInstance v ["tuple"]) true →
      Attains s (Eval.length v) n → n ≤ 5 → s.Spelled v piece → Splices s v piece
  | module {w : Value} {piece : String} : Attains s (isInstance v ["module"]) true →
      Attains s (getAttr v "__name__") w → s.Printed w piece → Splices s v piece
  /-- The shape of a table or an array, and its rows and columns. -/
  | shape {shape w : Value} {items : List Value} {piece : String} :
      (∀ names ∈ kinds, Attains s (isInstance v names) false) →
      Attains s (dimensions v) (some (shape, items)) → w ∈ shape :: items → s.Printed w piece →
      Splices s v piece
  | dtype {w : Value} {piece : String} :
      (∀ names ∈ kinds, Attains s (isInstance v names) false) →
      Attains s (getAttr? v "dtype") (some w) → s.Printed w piece → Splices s v piece
  | column {names w : Value} {labels : List Value} {piece : String} :
      (∀ names ∈ kinds, Attains s (isInstance v names) false) →
      Attains s (getAttr? v "columns") (some names) → Attains s (Eval.elements names) labels →
      w ∈ labels.take 8 → s.Printed w piece → Splices s v piece
  | other {piece : String} : (∀ names ∈ kinds, Attains s (isInstance v names) false) →
      Attains s (dimensions v) none → s.Spelled v piece → Splices s v piece

variable {s : Store} {v : Value} {F : String → Prop}

theorem sample_results (limit : Int) (hshown : ∀ piece, s.Spelled v piece → F piece)
    (hkind : ∀ t, s.Keeps t → F (t.kindName v)) : Results s (Traced F) (sample limit v) := by
  refine .handle (.bind (by grind) fun text htext ↦ .pure (.shorten ?_ limit)) (by grind) fun _ ↦
    .get fun t ht ↦ .pure (.between ?_ (by decide) (by decide))
  · exact (s.shown_results v text htext).mono hshown
  · exact (Traced.piece (hkind t ht)).append (.own (by decide))

theorem ofText_results (hv : Attains s (isInstance v ["str"]) true) :
    Results s (Traced (Splices s v)) (ofText v) := by
  refine .bind (by grind) fun n hn ↦ ?_
  split
  next hle =>
    refine .bind (by grind) fun text htext ↦ .pure (.between ?_ (by decide) (by decide))
    exact (s.plain_results v text htext).mono fun _ ↦ .text hv hn hle
  next hgt =>
    refine .bind (by grind) fun m _ ↦ .bind (by grind) fun w hw ↦ .bind (by grind) fun text htext ↦
      .pure ?_
    have htext := (s.plain_results w text htext).mono fun _ ↦
      Splices.start hv hn (Nat.lt_of_not_le hgt) hw
    have hlength := Traced.ofOneLine (F := Splices s v) (toString_nat_oneLine m)
    exact .append (.append (.append (.append (.append (.own (by decide)) hlength) (.own (by decide)))
      htext) (.own (by decide))) (.own (by decide))

theorem ofList_results (hv : Attains s (isInstance v ["list"]) true) :
    Results s (Traced (Splices s v)) (ofList v) := by
  refine .bind (by grind) fun b _ ↦ ?_
  split
  · exact .pure (.own (by decide))
  refine .bind (by grind) fun n _ ↦ .bind (by grind) fun w hw ↦ .bind (by grind) fun text htext ↦
    .pure ?_
  have htext := sample_results (F := Splices s v) _ (fun _ ↦ .last hv hw)
    (fun _ ↦ .lastKind hv hw) text htext
  have hlength := Traced.ofOneLine (F := Splices s v) (toString_nat_oneLine n)
  exact .append (.append (.append (.own (by decide)) hlength) (.own (by decide))) htext

theorem ofDict_results (hv : Attains s (isInstance v ["dict"]) true) :
    Results s (Traced (Splices s v)) (ofDict v) := by
  refine .bind (by grind) fun b _ ↦ ?_
  split
  · exact .pure (.own (by decide))
  refine .bind (by grind) fun entries hentries ↦ .bind (by grind) fun texts htexts ↦
    .bind (by grind) fun n _ ↦ .pure ?_
  have htexts := Results.mapM (by grind) (fun k hk text htext ↦
    (s.shown_results k text htext).mono fun _ ↦ Splices.key hv hentries hk) texts htexts
  have hlength := Traced.ofOneLine (F := Splices s v) (toString_nat_oneLine n)
  refine .append (.append (.append (.append (.append (.own (by decide)) hlength) (.own (by decide)))
    (.commas htexts)) ?_) (.own (by decide))
  split <;> exact .own (by decide)

theorem ofTuple_results (hv : Attains s (isInstance v ["tuple"]) true) :
    Results s (Traced (Splices s v)) (ofTuple v) := by
  refine .bind (by grind) fun n hn ↦ ?_
  split
  next hle =>
    refine .bind (by grind) fun text htext ↦ .pure (.append (.own (by decide)) ?_)
    exact (s.shown_results v text htext).mono fun _ ↦ .tuple hv hn hle
  · exact .bind (by grind) fun m _ ↦ .pure
      (.between (.ofOneLine (toString_nat_oneLine m)) (by decide) (by decide))

theorem ofTable_results {kind : String} {rows columns names : Value} (hkind : Traced F kind)
    (hsize : ∀ w ∈ [rows, columns], ∀ piece, s.Printed w piece → F piece)
    (hlabels : ∀ labels, Attains s (Eval.elements names) labels → ∀ w ∈ labels.take 8,
      ∀ piece, s.Printed w piece → F piece) :
    Results s (Traced F) (ofTable kind rows columns names) := by
  refine .bind (by grind) fun labels hl ↦ .bind (by grind) fun texts htexts ↦
    .bind (by grind) fun n _ ↦ .bind (by grind) fun rowText hrows ↦
    .bind (by grind) fun columnText hcolumns ↦ .pure ?_
  have hrows := (s.plain_results rows rowText hrows).mono (hsize rows (by simp))
  have hcolumns := (s.plain_results columns columnText hcolumns).mono (hsize columns (by simp))
  have htexts := Results.mapM (by grind) (fun w hw text htext ↦
    (s.plain_results w text htext).mono (hlabels labels hl w hw)) texts htexts
  have hstart : Traced F (kind ++ ", " ++ rowText ++ " rows × " ++ columnText) :=
    (((hkind.append (.own (by decide))).append hrows).append (.own (by decide))).append hcolumns
  refine .append (.append (.append (.append hstart (.own (by decide))) (.commas htexts)) ?_)
    (.own (by decide))
  split <;> exact .own (by decide)

theorem ofArray_results {kind : String} {shape : Value} (hkind : Traced F kind)
    (hshape : ∀ piece, s.Printed shape piece → F piece)
    (hdtype : ∀ w, Attains s (getAttr? v "dtype") (some w) → ∀ piece, s.Printed w piece → F piece) :
    Results s (Traced F) (ofArray kind v shape) := by
  refine .bind (by grind) fun dtype hd ↦ .bind (by grind) fun text htext ↦ ?_
  have hstart : Traced F (kind ++ ", shape=" ++ text) :=
    (hkind.append (.own (by decide))).append ((s.plain_results shape text htext).mono hshape)
  split
  · exact .pure hstart
  · exact .pure hstart
  next w _ =>
    refine .bind (by grind) fun text' htext' ↦ .pure ?_
    have htext' := (s.plain_results w text' htext').mono (hdtype w hd)
    exact (hstart.append (.own (by decide))).append htext'

theorem ofOther_results {kind : String} (hkind : Traced (Splices s v) kind)
    (hv : ∀ names ∈ kinds, Attains s (isInstance v names) false) :
    Results s (Traced (Splices s v)) (ofOther kind v) := by
  refine .bind (by grind) fun columns hcolumns ↦ .bind (by grind) fun dims hdims ↦ ?_
  have harray {shape : Value} {items : List Value} (h : dims = some (shape, items)) :
      Results s (Traced (Splices s v)) (ofArray kind v shape) :=
    ofArray_results hkind (fun _ ↦ .shape hv (h ▸ hdims) List.mem_cons_self)
      fun w hw _ ↦ .dtype hv hw
  split
  · exact harray rfl
  · exact harray rfl
  · split
    · refine ofTable_results hkind (fun w hw _ ↦ .shape hv hdims (List.mem_cons_of_mem _ hw)) ?_
      exact fun labels hl w hw _ ↦ .column hv hcolumns hl hw
    · exact harray rfl
  · refine .get fun t _ ↦ ?_
    have hshown (text : String) (htext : Attains s (Eval.shown v) text) :
        Traced (Splices s v) text :=
      (s.shown_results v text htext).mono fun _ ↦ .other hv hdims
    split
    · exact .pure (hkind.append (.own (by decide)))
    refine .bind (by grind) fun text htext ↦ ?_
    split
    · exact .pure ((hkind.append (.own (by decide))).append (hshown text htext))
    · refine .bind (by grind) fun text' htext' ↦ .pure ?_
      have hsample := sample_results (F := Splices s v) _ (fun _ ↦ .other hv hdims) (fun _ ↦ .kind)
        text' htext'
      exact (hkind.append (.own (by decide))).append hsample

theorem read_results (v : Value) : Results s (Traced (Splices s v)) (read v) := by
  refine .get fun t ht ↦ ?_
  have hkind : Traced (Splices s v) (t.kindName v) := .piece (.kind ht)
  refine .ofKind (fun hnumber ↦ ?_) fun hnumber ↦ .ofKind ofText_results fun htext ↦ ?_
  · refine .bind (by grind) fun text htext ↦ .pure ((hkind.append (.own (by decide))).append ?_)
    exact (s.plain_results v text htext).mono fun _ ↦ .number hnumber
  split
  · exact .pure (.own (by decide))
  refine .ofKind ofList_results fun hlist ↦ .ofKind ofDict_results fun hdict ↦
    .ofKind (fun _ ↦ ?_) fun hset ↦ .ofKind ofTuple_results fun htuple ↦
    .ofKind (fun hmodule ↦ ?_) fun hmodule ↦ ofOther_results hkind ?_
  · exact .bind (by grind) fun n _ ↦
      .pure (((hkind.append (.own (by decide))).append (.ofOneLine (toString_nat_oneLine n))).append
        (.own (by decide)))
  · refine .bind (by grind) fun w hw ↦ .bind (by grind) fun text htext ↦
      .pure (.append (.own (by decide)) ?_)
    exact (s.plain_results w text htext).mono fun _ ↦ .module hmodule hw
  · simp only [kinds, List.forall_mem_cons]
    exact ⟨hnumber, htext, hlist, hdict, hset, htuple, hmodule, List.forall_mem_nil _⟩

theorem summarise_results (v : Value) : Results s (Traced (Splices s v)) (summarise v) :=
  .handle (read_results v) (by grind) fun _ ↦ .get fun _ ht ↦
    .pure ((Traced.piece (.kind ht)).append (.own (by decide)))

end Summary

open Summary in
theorem summarise_run {s : Store} (hs : s.Civil) (v : Value) :
    ∃ text t, (summarise v).run s = (.ok text, t) ∧ s.Keeps t := by
  -- Only ordinary exceptions come out of what is read, and those are handled.
  have hends := read_tame v s hs
  rcases hread : (read v).run s with ⟨r, t⟩
  rw [hread] at hends
  cases r with
  | ok text => exact ⟨text, t, run_handle_of_ok hread, hends.keeps⟩
  | error f =>
    refine ⟨failedText (t.kindName v), t, ?_, hends.keeps⟩
    rw [summarise, handle, run_tryCatch_of_error hread, if_pos (hends.failure f rfl)]
    rfl

end VariableExplorer
