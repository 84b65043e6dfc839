import VariableExplorer.Proofs.Text.Lines
import VariableExplorer.Proofs.Value.Reading

/-!
What goes into the texts of a value. The program quotes the texts that it shows, so that the shown
text of a value has no line breaks but those of names and of texts that special methods gave.
-/

namespace VariableExplorer

open Text

namespace Eval

variable {α β : Type}

/-- A computation leaves the store as it is, and its results are of some kind. -/
def Reads (s : Store) (P : α → Prop) (x : Eval α) : Prop :=
  (x.run s : Except Fault α × Store).2 = s ∧
    ∀ a, (x.run s : Except Fault α × Store).1 = .ok a → P a

namespace Reads

variable {s : Store} {P : α → Prop} {Q : β → Prop} {x : Eval α}

theorem pure {a : α} (h : P a) : Reads s P (Pure.pure a : Eval α) :=
  ⟨rfl, fun _ hb ↦ by cases hb; exact h⟩

theorem throw (f : Fault) : Reads s P (MonadExcept.throw f : Eval α) :=
  ⟨rfl, fun _ hb ↦ by cases hb⟩

theorem ofExcept {r : Except Fault α} (h : ∀ a, r = .ok a → P a) :
    Reads s P (MonadExcept.ofExcept r : Eval α) := by
  cases r with
  | ok a => exact pure (h a rfl)
  | error f => exact throw f

theorem bind {f : α → Eval β} (hx : Reads s P x) (hf : ∀ a, P a → Reads s Q (f a)) :
    Reads s Q (x >>= f) := by
  obtain ⟨hstore, hresult⟩ := hx
  rcases hr : x.run s with ⟨r, t⟩
  rw [hr] at hstore hresult
  obtain rfl : t = s := hstore
  cases r with
  | error e =>
    rw [Reads, run_bind_of_error hr]
    exact ⟨rfl, fun _ hb ↦ by cases hb⟩
  | ok a =>
    rw [Reads, run_bind_of_ok hr]
    exact hf a (hresult a rfl)

theorem mono {P' : α → Prop} (h : Reads s P x) (hP : ∀ a, P a → P' a) : Reads s P' x :=
  ⟨h.1, fun a ha ↦ hP a (h.2 a ha)⟩

theorem get {f : Store → Eval α} (h : Reads s P (f s)) : Reads s P (MonadState.get >>= f) := h

theorem mapM {f : α → Eval β} {as : List α} (h : ∀ a ∈ as, Reads s Q (f a)) :
    Reads s (fun bs ↦ ∀ b ∈ bs, Q b) (as.mapM f) := by
  induction as with
  | nil => exact pure (List.forall_mem_nil _)
  | cons a as ih =>
    obtain ⟨ha, has⟩ := List.forall_mem_cons.mp h
    rw [List.mapM_cons]
    exact ha.bind fun b hb ↦ (ih has).bind fun bs hbs ↦ pure (List.forall_mem_cons.mpr ⟨hb, hbs⟩)

end Reads

end Eval

namespace Store

variable (s : Store) (v : Value)

def Answers (operation : String) : Prop :=
  ∃ b, s.ofMade? (s.classOf v) operation = some (.special b)

def Gave (operation text : String) : Prop :=
  ∃ w, s.ofMade? (s.classOf v) operation = some (.special (.ok w)) ∧ s.scalar w = .str text

def scalarNames : Value → List String
  | .native name => [s.classModule (.native name), name]
  | .function name => [name]
  | .operation bearer name | .wrapper bearer name => [name, s.kindName bearer]
  | .descriptor owner name _ => [name, owner]
  | _ => []

/-- The names in the shown text of a value, apart from those in its parts. -/
def names : List String :=
  s.kindName v :: s.classModule (s.classOf v) :: match s.body v with
    | .scalar w => s.scalarNames w
    | .function _ qualified => [qualified]
    | .method _ func =>
      match s.body func with
      | .function _ qualified => [qualified]
      | _ => []
    | .classDef d => [d.module, d.name]
    | .plain =>
      if s.isKind v ["SimpleNamespace"] then
        (s.attributes v).filterMap fun (k, _) ↦ match k with
          | .str name => some name
          | _ => none
      else []
    | _ => []

def sides (entries : List (Value × Value)) : List Value := entries.flatMap fun (k, w) ↦ [k, w]

/-- The values whose shown texts are in the shown text of a value. -/
def parts : List Value :=
  match s.body v with
  | .list items | .tuple items | .set items | .exception items => items
  | .dict entries => sides entries
  | .view target => [target]
  | .method bearer _ => [bearer]
  | .partialCall func args => func :: args
  | .module =>
    (s.lookup? (.str "__name__") (s.attributes v)).toList ++
      (s.lookup? (.str "__file__") (s.attributes v)).toList
  | .plain =>
    if s.isKind v ["SimpleNamespace"] then sides (s.attributes v) else []
  | _ => []

/-- A piece goes into the shown text of a value as it is. -/
inductive Spells : Value → String → Prop
  | given {v : Value} {text : String} : s.Gave v "__repr__" text → Spells v text
  | name {v : Value} {name : String} : ¬ s.Answers v "__repr__" → name ∈ s.names v → Spells v name
  | part {v w : Value} {piece : String} : ¬ s.Answers v "__repr__" → w ∈ s.parts v →
      Spells w piece → Spells v piece

/-- A piece goes into the plain text of a value as it is. -/
inductive Prints : String → Prop
  | given {text : String} : s.Gave v "__str__" text → Prints text
  | own {text : String} : ¬ s.Answers v "__str__" → s.body v = .scalar (.str text) → Prints text
  | message {w : Value} {text : String} : ¬ s.Answers v "__str__" → s.body v = .exception [w] →
      s.scalar w = .str text → Prints text
  | part {w : Value} {piece : String} : ¬ s.Answers v "__str__" → w ∈ s.parts v →
      s.Spells w piece → Prints piece
  | shown {piece : String} : ¬ s.Answers v "__str__" → s.Spells v piece → Prints piece

end Store

namespace Traced

variable {F : String → Prop} {text : String}

theorem commas {texts : List String} (h : ∀ text ∈ texts, Traced F text) :
    Traced F (commas texts) := by
  unfold VariableExplorer.commas
  induction texts with
  | nil => exact own (by decide)
  | cons text texts ih =>
    obtain ⟨htext, htexts⟩ := List.forall_mem_cons.mp h
    cases texts with
    | nil => simpa using htext
    | cons =>
      rw [String.intercalate_cons_cons]
      exact (htext.append (own (by decide))).append (ih htexts)

theorem integerText {i : Int} (h : integerText i = .ok text) : Traced F text := by
  unfold VariableExplorer.integerText at h
  dsimp only at h
  generalize (if i < 0 then _ else _ : Nat) = n at h
  split at h
  · cases h
  · cases h
    exact ofOneLine (toString_int_oneLine i)

theorem complexText (re im : Float) : Traced F (complexText re im) := by
  have him : Traced F (partLayout.text im ++ "j") :=
    (ofOneLine (Decimal.layout_text_oneLine _ im)).append (own (by decide))
  unfold VariableExplorer.complexText
  dsimp only
  split
  · exact him
  · refine .append (.append (.append (.append (own (by decide)) ?_) ?_) him) (own (by decide))
    · exact ofOneLine (Decimal.layout_text_oneLine _ re)
    · split <;> exact own (by decide)

theorem addressText (r : Ref) : Traced F (addressText r) :=
  .append (own (by decide)) (own (Quoted.hex_oneLine _ _))

end Traced

namespace Store

variable {s : Store} {v : Value} {F : String → Prop} {text : String}

theorem mem_sides {e : Value × Value} {entries : List (Value × Value)} (h : e ∈ entries) :
    e.1 ∈ sides entries ∧ e.2 ∈ sides entries :=
  ⟨List.mem_flatMap.mpr ⟨e, h, by simp⟩, List.mem_flatMap.mpr ⟨e, h, by simp⟩⟩

theorem classText_traced {c : ClassRef} (hmodule : F (s.classModule c))
    (hname : F (s.className c)) : Traced F (s.classText c) := by
  refine .append (.append (.append (.own (by decide)) ?_) (.piece hname)) (.own (by decide))
  split
  · exact .own (by decide)
  · exact (Traced.piece hmodule).append (.own (by decide))

theorem bearerText_traced (h : F (s.kindName v)) : Traced F (s.bearerText v) := by
  refine ((Traced.piece h).append (.own (by decide))).append ?_
  split <;> exact .addressText _

theorem descriptorText_traced {owner name : String} (howner : F owner) (hname : F name)
    (e : NativeEntry) : Traced F (descriptorText owner name e) := by
  have howned {opening : String} (h : Traced F opening) :
      Traced F (opening ++ name ++ "' of '" ++ owner ++ "' objects>") :=
    .append (.append (.append (.append h (.piece hname)) (.own (by decide))) (.piece howner))
      (.own (by decide))
  cases e with
  | computed | member | wrapper | method | classMethod => exact howned (.own (by decide))
  | _ =>
    exact .append (.append (.append (.append (.own (by decide)) (.piece hname)) (.own (by decide)))
      (.addressText 0)) (.own (by decide))

theorem scalarText_traced (h : s.scalarText v = .ok text) (hF : ∀ name ∈ s.scalarNames v, F name) :
    Traced F text := by
  cases v with
  | none | ellipsis => cases h; exact .own (by decide)
  | bool b => cases h; cases b <;> exact .own (by decide)
  | int i => exact .integerText h
  | float x => cases h; exact .ofOneLine (Decimal.layout_text_oneLine _ x)
  | complex re im => cases h; exact .complexText re im
  | str t => cases h; exact .ofOneLine (Quoted.quote_oneLine t)
  | bytes bs => cases h; exact .ofOneLine (Quoted.quoteBytes_oneLine bs)
  | native name =>
    cases h
    exact classText_traced (hF _ List.mem_cons_self) (hF _ (by simp [scalarNames, className]))
  | function name =>
    cases h
    exact .between (.piece (List.forall_mem_singleton.mp hF)) (by decide) (by decide)
  | operation bearer name | wrapper bearer name =>
    have hname : F name := hF _ (by simp [scalarNames])
    have hbearer : Traced F (s.bearerText bearer) :=
      bearerText_traced (hF _ (by simp [scalarNames]))
    cases h
    exact .append (.append (.append (.append (.own (by decide)) (.piece hname)) (.own (by decide)))
      hbearer) (.own (by decide))
  | descriptor owner name e =>
    cases h
    exact descriptorText_traced (hF _ (by simp [scalarNames])) (hF _ List.mem_cons_self) e
  | ref r => cases h; exact .addressText r

theorem insideText_traced (h : Traced F (s.kindName v)) : Traced F (s.insideText v) := by
  unfold insideText
  split
  case h_3 => exact h.append (.own (by decide))
  case h_4 | h_5 => split <;> exact .own (by decide)
  all_goals exact .own (by decide)

theorem not_answers_of_scalar (h : ∀ r, v ≠ .ref r) (operation : String) :
    ¬ s.Answers v operation := by
  rintro ⟨b, hb⟩
  obtain ⟨cls, hcls⟩ : ∃ cls, s.classOf v = .native cls := by
    cases v with
    | ref r => exact absurd rfl (h r)
    | descriptor owner name e => cases e <;> exact ⟨_, rfl⟩
    | _ => exact ⟨_, rfl⟩
  rw [hcls, ofMade?_native] at hb
  cases hb

theorem classDef?_of_body {r : Ref} {d : ClassDef} (h : s.body (.ref r) = .classDef d) :
    s.classDef? (.made r) = some d := by
  simp only [body] at h
  split at h
  next o ho =>
    obtain ⟨cls, body, attrs, slots⟩ := o
    cases h
    simp only [classDef?, ho]
  · cases h

end Store

namespace Eval.Reads

variable {s : Store}

theorem givenText {v : Value} {operation : String} {b : Behaviour}
    (h : s.ofMade? (s.classOf v) operation = some (.special b)) :
    Reads s (s.Gave v operation) (Eval.givenText operation b) := by
  refine (Reads.ofExcept (P := fun w ↦ b = .ok w) fun _ hw ↦ hw).bind fun w hw ↦ .get ?_
  split
  next hscalar => exact .pure ⟨w, hw ▸ h, hscalar⟩
  · exact .throw _

section

variable {F : String → Prop} {item : Value → Eval String} {es : List (Value × Value)}
  (hitem : ∀ w ∈ Store.sides es, Reads s (Traced F) (item w))

include hitem

theorem mapM_entries {f : String → String → String}
    (hf : ∀ {a b}, Traced F a → Traced F b → Traced F (f a b)) :
    Reads s (fun texts ↦ ∀ text ∈ texts, Traced F text)
      (es.mapM fun (k, w) ↦ return f (← item k) (← item w)) :=
  mapM fun _ he ↦ (hitem _ (Store.mem_sides he).1).bind fun _ hk ↦
    (hitem _ (Store.mem_sides he).2).bind fun _ hw ↦ pure (hf hk hw)

theorem mapM_attributes (hname : ∀ name w, (.str name, w) ∈ es → Traced F name) :
    Reads s (fun texts ↦ ∀ text ∈ texts, Traced F text) (es.mapM fun (k, w) ↦ do
      let name ← match k with
        | .str t => Pure.pure t
        | k => item k
      return name ++ "=" ++ (← item w)) := by
  refine mapM fun ⟨k, w⟩ he ↦ ?_
  obtain ⟨hk, hw⟩ := Store.mem_sides he
  dsimp only
  split
  next name =>
    rw [pure_bind]
    exact (hitem w hw).bind fun _ hw ↦
      .pure (((hname name w he).append (.own (by decide))).append hw)
  · exact (hitem k hk).bind fun _ hk ↦ (hitem w hw).bind fun _ hw ↦
      .pure ((hk.append (.own (by decide))).append hw)

end

section

variable {F : String → Prop} {v : Value} {item : Value → Eval String}
  (hitem : ∀ w ∈ s.parts v, Reads s (Traced F) (item w))
  (hname : ∀ name ∈ s.names v, Traced F name)

include hitem hname

theorem ofEntries {es : List (Value × Value)} (hbody : s.body v = .dict es) :
    Reads s (Traced F) (do
      if s.isKind v ["OrderedDict"] then
        if es.isEmpty then return s.kindName v ++ "()"
        else
          let texts ← es.mapM fun (k, w) ↦ return "(" ++ (← item k) ++ ", " ++ (← item w) ++ ")"
          return s.kindName v ++ "([" ++ commas texts ++ "])"
      else return "\x7b" ++ commas (← es.mapM fun (k, w) ↦
        return (← item k) ++ ": " ++ (← item w)) ++ "\x7d") := by
  have hkind := hname (s.kindName v) List.mem_cons_self
  have hsides (w : Value) (hw : w ∈ Store.sides es) : Reads s (Traced F) (item w) :=
    hitem w (by simpa only [Store.parts, hbody] using hw)
  split
  · split
    · exact .pure (hkind.append (.own (by decide)))
    · refine (mapM_entries hsides fun hk hw ↦ ?_).bind fun _ h ↦ .pure ?_
      · exact .append (.append (.append (.append (.own (by decide)) hk) (.own (by decide))) hw)
          (.own (by decide))
      · exact ((hkind.append (.own (by decide))).append (.commas h)).append (.own (by decide))
  · exact (mapM_entries hsides fun hk hw ↦ (hk.append (.own (by decide))).append hw).bind fun _ h ↦
      .pure (.between (.commas h) (by decide) (by decide))

omit hname in
theorem ofModule (hbody : s.body v = .module) : Reads s (Traced F) (do
    let name ← match s.lookup? (.str "__name__") (s.attributes v) with
      | some w => item w
      | none => Pure.pure "'?'"
    match s.lookup? (.str "__file__") (s.attributes v) with
    | some file => return s!"<module {name} from {← item file}>"
    | none => return s!"<module {name}>") := by
  extract_lets goOn
  have hgoOn (name : String) (h : Traced F name) : Reads s (Traced F) (goOn name) := by
    simp only [goOn]
    split
    next hfile =>
      exact (hitem _ (by simp [Store.parts, hbody, hfile])).bind fun _ h' ↦
        .pure (.append (.append (.append (.append (.own (by decide)) h) (.own (by decide))) h')
          (.own (by decide)))
    · exact .pure (.between h (by decide) (by decide))
  split
  next hfound => exact (hitem _ (by simp [Store.parts, hbody, hfound])).bind hgoOn
  · exact hgoOn "'?'" (.own (by decide))

theorem ofPlain (r : Ref) (hbody : s.body v = .plain) : Reads s (Traced F) (do
    if s.isKind v ["SimpleNamespace"] then
      let texts ← (s.attributes v).mapM fun (k, w) ↦ do
        let name ← match k with
          | .str t => Pure.pure t
          | k => item k
        return name ++ "=" ++ (← item w)
      let name :=
        if s.classOf v = .native "SimpleNamespace" then "namespace" else s.kindName v
      return name ++ "(" ++ commas texts ++ ")"
    else
      let c := s.classOf v
      let m := s.classModule c
      let owner := if m = "" then "" else m ++ "."
      return s!"<{owner}{s.className c} object at {addressText r}>") := by
  have hkind := hname (s.kindName v) List.mem_cons_self
  split
  next hspace =>
    have hsides (w : Value) (hw : w ∈ Store.sides (s.attributes v)) :
        Reads s (Traced F) (item w) :=
      hitem w (by simpa only [Store.parts, hbody, hspace, if_true] using hw)
    refine (mapM_attributes hsides fun name w he ↦ hname name ?_).bind fun _ h ↦ .pure ?_
    · simp only [Store.names, hbody, hspace, if_true, List.mem_cons, List.mem_filterMap]
      exact .inr (.inr ⟨_, he, rfl⟩)
    · refine .append (.append (.append ?_ (.own (by decide))) (.commas h)) (.own (by decide))
      split
      · exact .own (by decide)
      · exact hkind
  · have hmodule := hname (s.classModule (s.classOf v)) (by simp [Store.names])
    refine .pure (.append (.append (.append (.append (.append (.own (by decide)) ?_) hkind)
      (.own (by decide))) (.addressText r)) (.own (by decide)))
    split
    · exact .own (by decide)
    · exact hmodule.append (.own (by decide))

end

theorem showWithin (fuel : Nat) (inside : List Ref) (v : Value) :
    Reads s (Traced (s.Spells v)) (Eval.showWithin fuel inside v) := by
  -- The parts of a value are shown with less fuel; the rest are names and quoted literals.
  induction fuel generalizing inside v with
  | zero => exact .throw _
  | succ fuel ih =>
    refine .get ?_
    cases v with
    | ref r =>
      dsimp only
      split
      next hb => exact (givenText hb).mono fun _ h ↦ .piece (.given h)
      next hno =>
      have hno : ¬ s.Answers (.ref r) "__repr__" := fun ⟨b, hb⟩ ↦ hno b hb
      have hname (name : String) (h : name ∈ s.names (.ref r)) :
          Traced (s.Spells (.ref r)) name := .piece (.name hno h)
      have hkind := hname (s.kindName (.ref r)) List.mem_cons_self
      split
      · exact .pure (Store.insideText_traced hkind)
      have hitem (w : Value) (hw : w ∈ s.parts (.ref r)) :
          Reads s (Traced (s.Spells (.ref r))) (Eval.showWithin fuel (r :: inside) w) :=
        (ih _ w).mono fun _ h ↦ h.mono fun _ ↦ .part hno hw
      have hitems (ws : List Value) (hws : ws ⊆ s.parts (.ref r)) :=
        mapM fun w hw ↦ hitem w (hws hw)
      split
      case h_1 hbody =>
        refine .ofExcept fun text htext ↦ Store.scalarText_traced htext fun name h ↦ ?_
        exact .name hno (by simp [Store.names, hbody, h])
      case h_2 hbody =>
        exact (hitems _ (by simp [Store.parts, hbody])).bind fun _ h ↦
          .pure (.between (.commas h) (by decide) (by decide))
      case h_3 hbody =>
        exact (hitem _ (by simp [Store.parts, hbody])).bind fun _ h ↦
          .pure (.between h (by decide) (by decide))
      case h_4 hbody =>
        exact (hitems _ (by simp [Store.parts, hbody])).bind fun _ h ↦
          .pure (.between (.commas h) (by decide) (by decide))
      case h_5 hbody =>
        split
        · exact .pure (hkind.append (.own (by decide)))
        · refine (hitems _ (by simp [Store.parts, hbody])).bind fun _ h ↦ .pure ?_
          have htext : Traced (s.Spells (.ref r)) ("\x7b" ++ commas _ ++ "\x7d") :=
            .between (.commas h) (by decide) (by decide)
          split
          · exact htext
          · exact ((hkind.append (.own (by decide))).append htext).append (.own (by decide))
      case h_6 hbody => exact ofEntries hitem hname hbody
      case h_7 hbody =>
        exact (hitem _ (by simp [Store.parts, hbody])).bind fun _ h ↦
          .pure (((hkind.append (.own (by decide))).append h).append (.own (by decide)))
      case h_8 =>
        refine .pure (((hkind.append (.own (by decide))).append ?_).append (.own (by decide)))
        exact .ofOneLine (Quoted.quoteBytes_oneLine _)
      case h_9 =>
        exact (mapM fun i _ ↦ .ofExcept fun _ ↦ .integerText).bind fun _ h ↦
          .pure (.between (.commas h) (by decide) (by decide))
      case h_10 qualified hbody =>
        have hqualified : Traced (s.Spells (.ref r)) qualified :=
          hname _ (by simp [Store.names, hbody])
        exact .pure (.append (.append (.append (.append (.own (by decide)) hqualified)
          (.own (by decide))) (.addressText r)) (.own (by decide)))
      case h_11 bearer func hbody =>
        refine (hitem bearer (by simp [Store.parts, hbody])).bind fun _ h ↦ .pure ?_
        refine .append (.append (.append (.append (.own (by decide)) ?_) (.own (by decide))) h)
          (.own (by decide))
        split
        next qualified hfunc =>
          have hqualified : Traced (s.Spells (.ref r)) qualified :=
            hname _ (by simp [Store.names, hbody, hfunc])
          exact hqualified
        · exact .own (by decide)
      case h_12 hbody =>
        exact (hitems _ (by simp [Store.parts, hbody])).bind fun _ h ↦
          .pure (.between (.commas h) (by decide) (by decide))
      case h_13 hbody =>
        exact (hitem _ (by simp [Store.parts, hbody])).bind fun _ h ↦
          .pure (((hkind.append (.own (by decide))).append h).append (.own (by decide)))
      case h_14 hbody =>
        exact (hitems _ (by simp [Store.parts, hbody])).bind fun _ h ↦
          .pure (((hkind.append (.own (by decide))).append (.commas h)).append (.own (by decide)))
      case h_15 hbody => exact ofModule hitem hbody
      case h_16 d hbody =>
        have hd := Store.classDef?_of_body hbody
        have hown (name : String) (h : name = d.module ∨ name = d.name) :
            s.Spells (.ref r) name := .name hno (by simp [Store.names, hbody, h])
        exact .pure (Store.classText_traced (hown _ (.inl (by simp [Store.classModule, hd])))
          (hown _ (.inr (by simp [Store.className, hd]))))
      case h_17 hbody => exact ofPlain hitem hname r hbody
    | _ =>
      refine .ofExcept fun text htext ↦ Store.scalarText_traced htext fun name h ↦ ?_
      exact .name (Store.not_answers_of_scalar (fun _ ↦ Value.noConfusion) _)
        (by simp [Store.names, Store.body, h])

theorem shown (v : Value) : Reads s (Traced (s.Spells v)) (Eval.shown v) := showWithin _ _ v

theorem plain (v : Value) : Reads s (Traced (s.Prints v)) (Eval.plain v) := by
  refine .get ?_
  split
  next hb => exact (givenText hb).mono fun _ h ↦ .piece (.given h)
  next hno =>
  have hno : ¬ s.Answers v "__str__" := fun ⟨b, hb⟩ ↦ hno b hb
  have hself : Reads s (Traced (s.Prints v)) (Eval.shown v) :=
    (shown v).mono fun _ h ↦ h.mono fun _ ↦ .shown hno
  have hpart (w : Value) (hw : w ∈ s.parts v) : Reads s (Traced (s.Prints v)) (Eval.shown w) :=
    (shown w).mono fun _ h ↦ h.mono fun _ ↦ .part hno hw
  split
  case h_1 hbody => exact .pure (.piece (.own hno hbody))
  case h_2 => exact .pure (.ofOneLine (Quoted.quoteBytes_oneLine _))
  case h_3 => exact .pure (.own (by decide))
  case h_4 w hbody =>
    have hw : w ∈ s.parts v := by simp [Store.parts, hbody]
    split
    · exact hpart w hw
    · split
      next htext => exact .pure (.piece (.message hno hbody htext))
      · exact hpart w hw
  case h_5 hbody =>
    exact (mapM fun w hw ↦ hpart w (by simpa [Store.parts, hbody] using hw)).bind fun _ h ↦
      .pure (.between (.commas h) (by decide) (by decide))
  case h_6 target hbody =>
    split
    · exact hpart target (by simp [Store.parts, hbody])
    · exact hself
  case h_7 => exact hself

end Eval.Reads

end VariableExplorer
