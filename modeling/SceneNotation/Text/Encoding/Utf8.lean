import SceneNotation.Text.Basic

/- Bytes are read one at a time. A lead byte says which ranges the bytes after it
   must lie in; those ranges shut out overlong forms, surrogates and everything
   above U+10FFFF. The first byte that cannot be right stops the reading with the
   place where its character began. -/
namespace SceneNotation.Text.Utf8

inductive Reason where
  | badLead
  | badContinuation
  | cutShort
  deriving DecidableEq, Repr

/-- The bytes from `start` on, `length` of them, that stopped the reading. -/
structure Fault where
  start : Nat
  length : Nat
  lead : UInt8
  reason : Reason
  deriving DecidableEq, Repr

/-- A character whose bytes are not all read: its bits so far and the ranges still due. -/
structure Unfinished where
  start : Nat
  lead : UInt8
  bits : Nat
  due : List (Nat × Nat)
  deriving DecidableEq, Repr

def tail : Nat × Nat := (0x80, 0xBF)

/-- The bits a lead byte carries and the ranges of the bytes that must follow it. -/
def leading? (byte : UInt8) : Option (Nat × List (Nat × Nat)) :=
  let n := byte.toNat
  if n < 0x80 then some (n, [])
  else if n < 0xC2 then none
  else if n < 0xE0 then some (n % 32, [tail])
  else if n = 0xE0 then some (0, [(0xA0, 0xBF), tail])
  else if n = 0xED then some (13, [(0x80, 0x9F), tail])
  else if n < 0xF0 then some (n % 16, [tail, tail])
  else if n = 0xF0 then some (0, [(0x90, 0xBF), tail, tail])
  else if n < 0xF4 then some (n % 8, [tail, tail, tail])
  else if n = 0xF4 then some (4, [(0x80, 0x8F), tail, tail])
  else none

def emit (c : Char) : Except Fault Text → Except Fault Text
  | .ok text => .ok (c :: text)
  | .error fault => .error fault

def readFrom (position : Nat) : Option Unfinished → List UInt8 → Except Fault Text
  | none, [] => .ok []
  | some p, [] => .error ⟨p.start, position - p.start, p.lead, .cutShort⟩
  | none, byte :: rest =>
      match leading? byte with
      | none => .error ⟨position, 1, byte, .badLead⟩
      | some (bits, []) => emit (Char.ofNat bits) (readFrom (position + 1) none rest)
      | some (bits, due) => readFrom (position + 1) (some ⟨position, byte, bits, due⟩) rest
  | some p, byte :: rest =>
      let bits := p.bits * 64 + byte.toNat % 64
      match p.due with
      | [] => .error ⟨p.start, position - p.start, p.lead, .badContinuation⟩
      | (low, high) :: due =>
          if low ≤ byte.toNat && byte.toNat ≤ high then
            if due.isEmpty then emit (Char.ofNat bits) (readFrom (position + 1) none rest)
            else readFrom (position + 1) (some { p with bits := bits, due := due }) rest
          else .error ⟨p.start, position - p.start, p.lead, .badContinuation⟩

def decode (bytes : List UInt8) : Except Fault Text :=
  readFrom 0 none bytes

def encode (text : Text) : List UInt8 :=
  text.flatMap String.utf8EncodeChar

def Reason.message : Reason → Text
  | .badLead => "invalid start byte".toList
  | .badContinuation => "invalid continuation byte".toList
  | .cutShort => "unexpected end of data".toList

end SceneNotation.Text.Utf8
