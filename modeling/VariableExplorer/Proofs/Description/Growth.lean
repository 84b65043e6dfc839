import VariableExplorer.Description.Describe
import VariableExplorer.Proofs.Description.Origin

/-!
Describing a value only adds to the store, whatever its members and special methods raise.
-/

namespace VariableExplorer

open Eval

theorem Child.first?_grows {ms : List (Eval (Option Child))} (h : ∀ m ∈ ms, Grows m) :
    Grows (first? ms) := by
  induction ms with
  | nil => exact .pure _
  | cons m ms ih =>
    obtain ⟨hm, hms⟩ := List.forall_mem_cons.mp h
    refine hm.bind fun c ↦ ?_
    split
    · exact .pure _
    · exact ih hms

namespace Summary

variable (kind : String) (v : Value)

@[grind ←]
theorem sample_grows (limit : Int) : Grows (sample limit v) := by
  unfold sample
  grind

@[grind ←]
theorem typeName_grows : Grows (typeName v) := by
  unfold typeName
  grind

@[grind ←]
theorem dimensions_grows : Grows (dimensions v) := by
  unfold dimensions
  refine (Grows.handle (.getAttr? v _) fun _ ↦ .pure _).bind fun shape ↦ ?_
  split <;> grind

@[grind ←]
theorem ofText_grows : Grows (ofText v) := by
  unfold ofText
  grind

@[grind ←]
theorem ofList_grows : Grows (ofList v) := by
  unfold ofList
  grind

@[grind ←]
theorem ofDict_grows : Grows (ofDict v) := by
  unfold ofDict
  grind

@[grind ←]
theorem ofTuple_grows : Grows (ofTuple v) := by
  unfold ofTuple
  grind

@[grind ←]
theorem ofTable_grows (rows columns columnNames : Value) :
    Grows (ofTable kind rows columns columnNames) := by
  unfold ofTable
  grind

@[grind ←]
theorem ofArray_grows (shape : Value) : Grows (ofArray kind v shape) := by
  unfold ofArray
  grind

@[grind ←]
theorem ofOther_grows : Grows (ofOther kind v) := by
  unfold ofOther
  grind

@[grind ←]
theorem read_grows : Grows (read v) := by
  unfold read
  refine .get fun s ↦ (Grows.isInstance v _).bind fun b ↦ ?_
  split
  · grind
  refine (Grows.isInstance v _).bind fun b ↦ ?_
  split
  · grind
  split <;> grind

end Summary

@[grind ←]
theorem summarise_grows (v : Value) : Grows (summarise v) := by
  unfold summarise
  grind

namespace Describe

variable (v : Value)

@[grind ←]
theorem length_grows : Grows (length v) := by
  unfold length
  grind

@[grind ←]
theorem attributeCount_grows : Grows (attributeCount v) := by
  unfold attributeCount
  grind

@[grind ←]
theorem hasChildren_grows : Grows (hasChildren v) := by
  refine .handle ((Child.members_grows v "").bind_of_results fun s ms t hms ↦ ?_) fun _ ↦ .pure _
  refine (Child.first?_grows fun m hm ↦ ?_).bind fun _ ↦ .pure _
  exact (Store.members_origin hms m hm).grows

@[grind ←]
theorem flags_grows (name : String) : Grows (flags name v) := by
  unfold flags
  grind

@[grind ←]
theorem asked_grows {α : Type} (r : Request) (p : Property) (default : α) {x : Eval α}
    (hx : Grows x) : Grows (asked r p default x) := by
  unfold asked
  grind

theorem read_grows (r : Request) : Grows (read r v) := by
  refine .get fun s ↦ .bind (by grind) fun typeName ↦ .bind (by grind) fun length ↦
    .bind (by grind) fun slotCount ↦ .bind (by grind) fun attributeCount ↦ ?_
  grind

end Describe

@[grind ←]
theorem describe_grows (r : Request) (v : Value) : Grows (describe r v) := .transient _

end VariableExplorer
