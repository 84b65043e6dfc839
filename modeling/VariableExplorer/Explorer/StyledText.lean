/-!
Texts with styles: a text has a style of its own, and spans of it have others. What goes into one
loses the controls that a terminal would act on.
-/

namespace VariableExplorer

structure Span where
  start : Nat
  stop : Nat
  style : String
  deriving Repr, DecidableEq, Inhabited

structure StyledText where
  plain : String := ""
  style : String := ""
  spans : List Span := []
  deriving Repr, DecidableEq, Inhabited

namespace StyledText

/-- Bell, backspace, vertical tab, form feed and carriage return. -/
def isControl (c : Char) : Bool :=
  let n := c.toNat
  n = 7 || n = 8 || (11 ≤ n && n ≤ 13)

def withoutControls (text : String) : String := String.ofList (text.toList.filter (!isControl ·))

def ofText (text : String) (style : String := "") : StyledText := ⟨withoutControls text, style, []⟩

def append (t : StyledText) (text style : String) : StyledText :=
  if text = "" then t
  else
    let added := withoutControls text
    { t with
      plain := t.plain ++ added
      spans := t.spans ++ [⟨t.plain.length, t.plain.length + added.length, style⟩] }

def firstLine (t : StyledText) : String := String.ofList (t.plain.toList.takeWhile (· ≠ '\n'))

end StyledText

end VariableExplorer
