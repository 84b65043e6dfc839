import VariableExplorer.Text.Quoted

/-!
Decoding UTF-8. Only the shortest form of each code point is accepted; the first piece that is none
is reported with its place and with what is wrong with it.
-/

namespace VariableExplorer.Text.Utf8

inductive Reason
  | badStart
  | badContinuation
  | unexpectedEnd
  deriving Repr, DecidableEq

structure Fault where
  position : Nat
  count : Nat
  first : UInt8
  reason : Reason
  deriving Repr, DecidableEq

/-- The range of the byte after a start byte that needs `n` more bytes. -/
def secondRange (first : Nat) : Nat × Nat :=
  if first = 0xe0 then (0xa0, 0xbf)
  else if first = 0xed then (0x80, 0x9f)
  else if first = 0xf0 then (0x90, 0xbf)
  else if first = 0xf4 then (0x80, 0x8f)
  else (0x80, 0xbf)

def following (first : Nat) : Option Nat :=
  if first < 0x80 then some 0
  else if first < 0xc2 then none
  else if first < 0xe0 then some 1
  else if first < 0xf0 then some 2
  else if first < 0xf5 then some 3
  else none

/-- Reads further bytes of one code point: its value, or how many bytes were good. -/
def continued (range : Nat × Nat) : (n : Nat) → (value : Nat) → List UInt8 →
    Except (Nat × Reason) (Nat × List UInt8)
  | 0, value, rest => .ok (value, rest)
  | _ + 1, _, [] => .error (0, .unexpectedEnd)
  | n + 1, value, b :: rest =>
    if range.1 ≤ b.toNat && b.toNat ≤ range.2 then
      match continued (0x80, 0xbf) n (value * 64 + b.toNat % 64) rest with
      | .error (good, r) => .error (good + 1, r)
      | .ok found => .ok found
    else .error (0, .badContinuation)

def decodeFrom : (fuel : Nat) → (position : Nat) → List UInt8 → Except Fault (List Char)
  | 0, _, _ => .ok []
  | _ + 1, _, [] => .ok []
  | fuel + 1, position, b :: rest =>
    let first := b.toNat
    match following first with
    | none => .error ⟨position, 1, b, .badStart⟩
    | some n =>
      let lead := if n = 0 then first else if n = 1 then first % 32 else if n = 2 then first % 16
        else first % 8
      match continued (secondRange first) n lead rest with
      | .error (good, r) => .error ⟨position, good + 1, b, r⟩
      | .ok (value, rest) =>
        match decodeFrom fuel (position + n + 1) rest with
        | .error f => .error f
        | .ok cs => .ok (Char.ofNat value :: cs)

def decode (bytes : List UInt8) : Except Fault String :=
  (decodeFrom (bytes.length + 1) 0 bytes).map String.ofList

def encode (s : String) : List UInt8 := s.toUTF8.toList

def Reason.text : Reason → String
  | badStart => "invalid start byte"
  | badContinuation => "invalid continuation byte"
  | unexpectedEnd => "unexpected end of data"

def Fault.message (f : Fault) : String :=
  if f.count = 1 then
    let byte := String.ofList (Quoted.hex 2 f.first.toNat)
    s!"'utf-8' codec can't decode byte 0x{byte} in position {f.position}: {f.reason.text}"
  else
    s!"'utf-8' codec can't decode bytes in position {f.position}-{f.position + f.count - 1}: " ++
      f.reason.text

end VariableExplorer.Text.Utf8
