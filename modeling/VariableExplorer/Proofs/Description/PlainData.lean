import VariableExplorer.Proofs.Description.Lines
import VariableExplorer.Proofs.Kernel.Namespace

/-!
Plain data: numbers, texts and the like, and containers of such data. Whatever texts there are in a
container, its summary is one line; that of a text by itself is one line just if the part is that it
shows.
-/

namespace VariableExplorer

open Eval Text

def Value.isLiteral : Value → Bool
  | .none | .ellipsis | .bool _ | .int _ | .float _ | .complex _ _ | .str _ | .bytes _ => true
  | _ => false

namespace Store

inductive Container : String → Body → List Value → Prop
  | list (items : List Value) : Container "list" (.list items) items
  | tuple (items : List Value) : Container "tuple" (.tuple items) items
  | set (items : List Value) : Container "set" (.set items) items
  | frozenset (items : List Value) : Container "frozenset" (.set items) items
  | dict (entries : List (Value × Value)) : Container "dict" (.dict entries) (sides entries)

/-- The containers in plain data are of the native classes themselves, with nothing added to them. -/
inductive Data (s : Store) : Value → Prop
  | literal {v : Value} : v.isLiteral = true → Data s v
  | container {r : Ref} {kind : String} {b : Body} {ws : List Value} :
      s.get? r = some ⟨.native kind, b, none, []⟩ → Container kind b ws → (∀ w ∈ ws, Data s w) →
      Data s (.ref r)

namespace Data

variable {s t : Store} {v w : Value} {piece : String}

theorem keeps (h : s.Data v) (hk : s.Keeps t) : t.Data v := by
  induction h with
  | literal hv => exact .literal hv
  | container hget hcontent _ ih => exact .container (hk _ _ hget) hcontent ih

def kinds : List String := [
  "NoneType", "ellipsis", "bool", "int", "float", "complex", "str", "bytes", "list", "tuple", "set",
  "frozenset", "dict"]

theorem exists_kind (h : s.Data v) :
    ∃ kind ∈ kinds, s.classOf v = .native kind ∧ s.names v = [kind, ""] := by
  cases h with
  | literal hv => cases v <;> first | exact ⟨_, by decide, rfl, rfl⟩ | cases hv
  | @container r kind b ws hget hcontent =>
    have hclass : s.classOf (.ref r) = .native kind := by simp only [classOf, hget]
    refine ⟨kind, by cases hcontent <;> decide, hclass, ?_⟩
    simp only [names, kindName, hclass, body, hget]
    cases hcontent <;> rfl

theorem eq_of_scalar (h : s.Data v) (hbody : s.body v = .scalar w) : v = w := by
  cases h with
  | literal hv => cases v <;> first | exact Body.scalar.inj hbody | cases hv
  | container hget hcontent =>
    simp only [body, hget] at hbody
    subst hbody
    cases hcontent

theorem body_ne (h : s.Data v) :
    (∀ items, s.body v ≠ .exception items) ∧ ∀ bearer func, s.body v ≠ .method bearer func := by
  cases h with
  | literal hv => cases v <;> simp_all [body, Value.isLiteral]
  | container hget hcontent => cases hcontent <;> simp [body, hget]

theorem text_of_classOf (h : s.Data v) (hv : s.classOf v = .native "str") :
    ∃ text, v = .str text := by
  cases h with
  | literal hliteral => cases v <;> simp_all [classOf, Value.isLiteral]
  | @container r kind b ws hget hcontent =>
    have hkind : kind = "str" := by simpa [classOf, hget] using hv
    cases hcontent <;> exact absurd hkind (by decide)

theorem list_of_classOf (h : s.Data v) (hv : s.classOf v = .native "list") :
    ∃ items, s.body v = .list items ∧ ∀ w ∈ items, s.Data w := by
  cases h with
  | literal hliteral => cases v <;> simp_all [classOf, Value.isLiteral]
  | @container r kind b ws hget hcontent hws =>
    have hkind : kind = "list" := by simpa [classOf, hget] using hv
    cases hcontent with
    | list => exact ⟨ws, by simp only [body, hget], hws⟩
    | _ => exact absurd hkind (by decide)

theorem dict_of_classOf (h : s.Data v) (hv : s.classOf v = .native "dict") :
    ∃ r entries, v = .ref r ∧ s.IsDict r entries ∧ ∀ e ∈ entries, s.Data e.1 := by
  cases h with
  | literal hliteral => cases v <;> simp_all [classOf, Value.isLiteral]
  | @container r kind b ws hget hcontent hws =>
    have hkind : kind = "dict" := by simpa [classOf, hget] using hv
    cases hcontent with
    | dict entries =>
      exact ⟨r, entries, rfl, hget, fun e he ↦ hws _ (mem_sides he).1⟩
    | _ => exact absurd hkind (by decide)

theorem not_answers (h : s.Data v) (operation : String) : ¬ s.Answers v operation := by
  rintro ⟨b, hb⟩
  obtain ⟨kind, -, hkind, -⟩ := h.exists_kind
  rw [hkind, ofMade?_native] at hb
  cases hb

theorem names_oneLine (h : s.Data v) {name : String} (hname : name ∈ s.names v) :
    OneLine name.toList := by
  obtain ⟨kind, hkind, -, hnames⟩ := h.exists_kind
  have hkinds : kinds.all (OneLine ·.toList) = true := by decide
  rw [hnames, List.mem_pair] at hname
  obtain rfl | rfl := hname
  · simpa using List.all_eq_true.mp hkinds name hkind
  · decide

theorem of_mem_parts (h : s.Data v) (hw : w ∈ s.parts v) : s.Data w := by
  cases h with
  | literal hv => cases v <;> first | cases hw | cases hv
  | @container r kind b ws hget hcontent hws =>
    refine hws w ?_
    cases hcontent <;> simpa only [parts, body, hget] using hw

theorem spells_oneLine (h : s.Data v) (hpiece : s.Spells v piece) : OneLine piece.toList := by
  induction hpiece with
  | given hgave =>
    obtain ⟨w, hw, -⟩ := hgave
    exact absurd ⟨_, hw⟩ (h.not_answers _)
  | name _ hname => exact h.names_oneLine hname
  | part _ hw _ ih => exact ih (h.of_mem_parts hw)

theorem prints_oneLine (h : s.Data v) (hv : ∀ text, v ≠ .str text) (hpiece : s.Prints v piece) :
    OneLine piece.toList := by
  cases hpiece with
  | given hgave =>
    obtain ⟨w, hw, -⟩ := hgave
    exact absurd ⟨_, hw⟩ (h.not_answers _)
  | own _ hbody => exact absurd (h.eq_of_scalar hbody) (hv piece)
  | message _ hbody => exact absurd hbody (h.body_ne.1 _)
  | part _ hw hpiece => exact (h.of_mem_parts hw).spells_oneLine hpiece
  | shown _ hpiece => exact h.spells_oneLine hpiece

theorem ordinary (h : s.Data v) : s.Ordinary v [] := by
  cases h with
  | literal hv =>
    have hsettled : s.Settled v := by
      refine ⟨fun r hr ↦ ?_, fun r hr ↦ ?_⟩
      · subst hr
        cases hv
      · cases v <;> simp [Value.isLiteral, classOf, lineage] at hv hr
    cases v <;> first | exact ⟨hsettled, rfl, ⟨_, rfl⟩, rfl⟩ | cases hv
  | @container r kind b ws hget hcontent =>
    have hclass : s.classOf (.ref r) = .native kind := by simp only [classOf, hget]
    refine ⟨⟨?_, ?_⟩, ?_, ?_, ?_⟩
    · rintro r' ⟨⟩
      rw [hget]
      rfl
    · rw [hclass]
      simp [lineage]
    · cases hcontent <;> simp [asClass?, classDef?, hget]
    · rw [hclass]
      cases hcontent <;> exact ⟨"object", rfl⟩
    · simp [Owns, dict?, object?, hget]

theorem getAttr?_gives (h : s.Data v) {name : String}
    (hname : name ∈ ["shape", "dtype", "columns"]) :
    Gives s (getAttr? v name) none := by
  obtain ⟨kind, hkind, hclass, -⟩ := h.exists_kind
  have hfound : kinds.all (fun kind ↦ ["shape", "dtype", "columns"].all fun name ↦
      (s.found? (.native kind) name).isNone) = true := rfl
  refine h.ordinary.getAttr?_missing ?_ rfl ?_ ?_
  · rw [hclass]
    simpa using List.all_eq_true.mp (List.all_eq_true.mp hfound kind hkind) name hname
  · rw [hclass, ofMade?_native]
  · exact h.body_ne.2

theorem dimensions_gives (h : s.Data v) : Gives s (Summary.dimensions v) none :=
  .bind (.tryCatch (h.getAttr?_gives (by simp))) (.pure s none)

theorem classOf_of_attains (h : s.Data v) {name : String}
    (hname : name ∈ ["str", "list", "dict", "module"])
    (hv : Attains s (isInstance v [name]) true) : s.classOf v = .native name := by
  obtain ⟨kind, hkind, hclass, -⟩ := h.exists_kind
  have hkinds : kinds.all (fun kind ↦ ["str", "list", "dict", "module"].all fun name ↦
      s.derives (.native kind) [name] == (kind == name)) = true := rfl
  have hderives := List.all_eq_true.mp (List.all_eq_true.mp hkinds kind hkind) name hname
  have hinstance := (h.ordinary.candid.isInstance_gives [name]).eq_of_attains hv
  simp_all [isKind]

theorem getItem_data (h : s.Data v) (hv : s.classOf v = .native "list") {key : Value}
    (hw : Attains s (getItem v key) w) : s.Data w := by
  obtain ⟨items, hbody, hitems⟩ := h.list_of_classOf hv
  obtain ⟨t, u, ht, hrun⟩ := hw
  have hclass := h.ordinary.classOf_eq ht
  rw [getItem, run_get_bind, hclass, hv, ofMade?_native, h.ordinary.body_eq ht, hbody] at hrun
  have hrun : (indexIn items.length "list" (.outOfRange "list index") key >>= fun i ↦
      Pure.pure (items.getD i .none)).run t = (.ok w, u) := hrun
  obtain ⟨i, t', -, hrun⟩ := run_bind_eq_ok hrun
  cases hrun
  -- An index within the bounds finds an item; the default is data anyway.
  rw [List.getD_eq_getElem?_getD]
  cases hi : items[i]? with
  | none => exact .literal rfl
  | some w => exact hitems w (List.mem_of_getElem? hi)

theorem mem_keys (h : s.Data v) (hv : s.classOf v = .native "dict") {entries : List (Value × Value)}
    (hentries : Attains s (Child.entriesBy v "keys") entries) (hw : w ∈ entries.map (·.1)) :
    s.Data w := by
  obtain ⟨r, held, rfl, hdict, hkeys⟩ := h.dict_of_classOf hv
  obtain ⟨t, u, ht, hrun⟩ := hentries
  have hdict := hdict.keeps ht
  have hattr : (getAttr (.ref r) "keys").run t = (.ok (.operation (.ref r) "keys"), t) := by
    have hfound : t.found? (t.classOf (.ref r)) "keys" = some (.native "dict" .method) := by
      rw [hdict.classOf]
      rfl
    rw [hdict.getAttr_run, plainAttr_of_class hfound rfl (by rw [hdict.attributes]; rfl)]
    rfl
  rw [Child.entriesBy, run_bind_of_ok hattr, run_get_bind] at hrun
  simp only [if_true, Child.entriesBy.given, entriesOf, hdict.body] at hrun
  cases hrun
  obtain ⟨e, he, rfl⟩ := List.mem_map.mp hw
  exact hkeys e he

open Summary in
theorem splices_oneLine (h : s.Data v) (hv : ∀ text, v ≠ .str text) (hpiece : Splices s v piece) :
    OneLine piece.toList := by
  cases hpiece with
  | kind ht => exact (h.keeps ht).names_oneLine List.mem_cons_self
  | number _ hp | text _ _ _ hp =>
    obtain ⟨t, ht, hp⟩ := hp
    exact (h.keeps ht).prints_oneLine hv hp
  -- Only a text has a part of its own that is shown as it is.
  | start hkind =>
    obtain ⟨text, rfl⟩ := h.text_of_classOf (h.classOf_of_attains (by simp) hkind)
    exact absurd rfl (hv text)
  | last hkind hw hp =>
    obtain ⟨t, ht, hp⟩ := hp
    have hw := h.getItem_data (h.classOf_of_attains (by simp) hkind) hw
    exact (hw.keeps ht).spells_oneLine hp
  | lastKind hkind hw ht =>
    have hw := h.getItem_data (h.classOf_of_attains (by simp) hkind) hw
    exact (hw.keeps ht).names_oneLine List.mem_cons_self
  | key hkind hentries hk hp =>
    obtain ⟨t, ht, hp⟩ := hp
    have hk := h.mem_keys (h.classOf_of_attains (by simp) hkind) hentries (List.mem_of_mem_take hk)
    exact (hk.keeps ht).spells_oneLine hp
  | tuple _ _ _ hp | other _ _ hp =>
    obtain ⟨t, ht, hp⟩ := hp
    exact (h.keeps ht).spells_oneLine hp
  | module hkind =>
    obtain ⟨kind, hmem, hclass, -⟩ := h.exists_kind
    cases hclass.symm.trans (h.classOf_of_attains (by simp) hkind)
    exact absurd hmem (by decide)
  | shape _ hdims => cases h.dimensions_gives.eq_of_attains hdims
  | dtype _ hw => cases (h.getAttr?_gives (by simp)).eq_of_attains hw
  | column _ hnames => cases (h.getAttr?_gives (by simp)).eq_of_attains hnames

end Data

end Store

/-! ### Texts -/

namespace Summary

def shownPart (text : String) : String :=
  if text.length ≤ 80 then text else String.ofList (text.toList.take 60)

def textSummary (text : String) : String :=
  if text.length ≤ 80 then "str = \"" ++ text ++ "\""
  else s!"str, {text.length} chars, starts: \"{shownPart text}{omission}\""

theorem textSummary_oneLine_iff (text : String) :
    OneLine (textSummary text).toList ↔ OneLine (shownPart text).toList := by
  have hquote : OneLine "\"".toList := by decide
  unfold textSummary
  split
  next hle =>
    have hopening : OneLine "str = \"".toList := by decide
    simp only [shownPart, if_pos hle, String.toList_append, oneLine_append_iff, hopening, hquote,
      true_and, and_true]
  · have hopening : OneLine "str, ".toList := by decide
    have hlength := toString_nat_oneLine text.length
    have hstart : OneLine " chars, starts: \"".toList := by decide
    have homission : OneLine omission.toList := by decide
    show OneLine ("str, " ++ toString text.length ++ " chars, starts: \"" ++ shownPart text ++
      omission ++ "\"").toList ↔ _
    simp only [String.toList_append, oneLine_append_iff, hopening, hlength, hstart, homission,
      hquote, true_and, and_true]

end Summary

theorem map_getD_range {α : Type} {xs : List α} {n : Nat} (h : n ≤ xs.length) (d : α) :
    (List.range n).map (xs.getD · d) = xs.take n := by
  refine List.ext_getElem (by simp [h]) fun i hi hi' ↦ ?_
  have hlt : i < xs.length := by simp at hi'; omega
  simp [hlt]

theorem partPositions_start {n k : Nat} (h : k ≤ n) :
    partPositions n none (some (k : Int)) 1 = List.range k := by
  have hbounds : partBounds n none (some (k : Int)) 1 = (0, (k : Int)) := by
    simp [partBounds]
    omega
  simp [partPositions, hbounds, rangeLength]

namespace Eval

variable (s : Store) (text : String)

theorem length_text_gives (h : (text.length : Int) ≤ greatestIndex) :
    Gives s (Eval.length (.str text)) text.length := by
  refine .get fun t _ ↦ ?_
  rw [show t.classOf (.str text) = .native "str" from rfl, Store.ofMade?_native]
  simp only [contentLength?, Store.body, if_neg (Int.not_lt.mpr h)]
  exact .pure t _

theorem plain_text_gives : Gives s (plain (.str text)) text := .of_run fun _ _ ↦ rfl

theorem subscript_text_gives (h : 60 ≤ text.length) :
    Gives s (subscript (.str text) (.part none (some (.int 60)) none))
      (.str (String.ofList (text.toList.take 60))) := by
  have h : 60 ≤ text.toList.length := by rwa [String.length_toList]
  refine .get fun _ _ ↦ .get fun u _ ↦ .of_run fun t _ ↦ ?_
  rw [show u.classOf (.str text) = .native "str" from rfl, Store.ofMade?_native]
  show (getPart (.str text) none (some (.int 60)) none).run t = _
  have hpositions : (positions text.toList.length none (some (.int 60)) none).run t =
      (.ok (List.range 60), t) := by
    rw [← partPositions_start h]
    rfl
  have hpick : (positions text.toList.length none (some (.int 60)) none >>= fun ks ↦
      Pure.pure (ks.map (text.toList.getD · ' '))).run t = (.ok (text.toList.take 60), t) := by
    rw [run_bind_of_ok hpositions, map_getD_range h]
    rfl
  rw [getPart, run_get_bind]
  exact (run_bind_of_ok hpick).trans rfl

end Eval

open Summary in
theorem summarise_text (s : Store) {text : String} (h : (text.length : Int) ≤ greatestIndex) :
    Gives s (summarise (.str text)) (textSummary text) := by
  have hkind (names : List String) (b : Bool)
      (hb : names.any (fun name ↦ s.isKind (.str text) [name]) = b) :
      Gives s (isInstance (.str text) names) b :=
    hb ▸ (Store.Data.literal rfl).ordinary.candid.isInstance_gives names
  refine .tryCatch (.get fun t ht ↦ ?_)
  refine ((hkind ["int", "float", "bool", "complex"] false rfl).keeps ht).bind ?_
  refine ((hkind ["str"] true rfl).keeps ht).bind ?_
  refine (length_text_gives t text h).bind ?_
  unfold textSummary
  split
  next hle => exact (plain_text_gives t text).bind (.pure t _)
  next hgt =>
    refine (length_text_gives t text h).bind ?_
    refine (subscript_text_gives t text (by omega)).bind ?_
    refine (plain_text_gives t _).bind ?_
    rw [shownPart, if_neg hgt]
    exact .pure t _

open Summary in
/-- A summary always comes to be, and each of its line breaks is one of a text that goes into it as
it is: it is one line just if it holds no such text up to a line break. The summary of plain data is
one line, unless the data is a text by itself: its summary is one line just if the part is that it
shows. -/
theorem summarise_lines {s : Store} (hs : s.Civil) (v : Value) :
    ∃ line t, (summarise v).run s = (.ok line, t) ∧ s.Keeps t ∧ Traced (Splices s v) line ∧
      (OneLine line.toList ↔ ∀ piece, Splices s v piece → ∀ front, front <+: piece.toList →
        front <:+: line.toList → OneLine front) ∧
      (s.Data v → (∀ text, v ≠ .str text) → OneLine line.toList) ∧
      ∀ text, v = .str text → (text.length : Int) ≤ greatestIndex →
        line = textSummary text ∧ (OneLine line.toList ↔ OneLine (shownPart text).toList) := by
  obtain ⟨line, t, hrun, hkeeps⟩ := summarise_run hs v
  have htraced := summarise_results v line ⟨s, t, .refl s, hrun⟩
  refine ⟨line, t, hrun, hkeeps, htraced, htraced.oneLine_iff, fun hdata hv ↦ ?_, ?_⟩
  · exact htraced.oneLine fun _ ↦ hdata.splices_oneLine hv
  · rintro text rfl hlength
    obtain rfl := (summarise_text s hlength).eq_of_attains ⟨s, t, .refl s, hrun⟩
    exact ⟨rfl, textSummary_oneLine_iff text⟩

/-- The summary of a text with a line break has it as well; that of a list of the text has not. -/
theorem summarise_brokenText :
    let s : Store := ⟨#[⟨.native "list", .list [.str "a\nb"], none, []⟩]⟩
    s.Civil ∧ s.Data (.ref 0) ∧
    (∃ t, (summarise (.str "a\nb")).run s = (.ok "str = \"a\nb\"", t) ∧
      ¬ OneLine "str = \"a\nb\"".toList) ∧
    ∃ t, (summarise (.ref 0)).run s = (.ok "list, 1 items, latest: 'a\\nb'", t) ∧ s.Keeps t ∧
      OneLine "list, 1 items, latest: 'a\\nb'".toList := by
  intro s
  have hcivil : s.Civil := by
    intro r o d ho hd
    match r with
    | 0 => cases ho; cases hd
  have hlist : s.Data (.ref 0) := .container rfl (.list _) (by simpa using .literal rfl)
  refine ⟨hcivil, hlist, ?_, ?_⟩
  · obtain ⟨line, t, hrun, -, -, -, -, htext⟩ := summarise_lines hcivil (.str "a\nb")
    obtain ⟨rfl, hline⟩ := htext "a\nb" rfl (by decide)
    exact ⟨t, hrun, fun hone ↦ absurd (hline.mp hone) (by decide)⟩
  · obtain ⟨line, t, hrun, hkeeps, -, -, hdata, -⟩ := summarise_lines hcivil (.ref 0)
    have hline := hdata hlist fun _ ↦ Value.noConfusion
    have hshown : ((summarise (.ref 0)).run s).1 = .ok "list, 1 items, latest: 'a\\nb'" := rfl
    rw [hrun] at hshown
    cases hshown
    exact ⟨t, hrun, hkeeps, hline⟩

end VariableExplorer
