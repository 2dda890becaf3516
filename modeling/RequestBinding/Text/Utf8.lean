import RequestBinding.Text.Quoted

set_option autoImplicit false

namespace RequestBinding.Utf8

inductive Reason where
  | invalidStart
  | invalidContinuation
  | unexpectedEnd
  deriving DecidableEq

structure Fault where
  start : Nat
  width : Nat
  first : UInt8
  reason : Reason
  deriving DecidableEq

-- The next byte lies between the limits, and `more` bytes follow it.
structure Pending where
  first : UInt8
  width : Nat
  value : Nat
  lower : Nat
  upper : Nat
  more : Nat

def Pending.ofFirst? (b : UInt8) : Option Pending :=
  -- The limits leave out longer forms of smaller characters, surrogates and all above U+10FFFF.
  let n := b.toNat
  if 0xC2 ≤ n ∧ n ≤ 0xDF then some ⟨b, 1, n - 0xC0, 0x80, 0xBF, 0⟩
  else if n = 0xE0 then some ⟨b, 1, 0, 0xA0, 0xBF, 1⟩
  else if n = 0xED then some ⟨b, 1, 0xD, 0x80, 0x9F, 1⟩
  else if 0xE1 ≤ n ∧ n ≤ 0xEF then some ⟨b, 1, n - 0xE0, 0x80, 0xBF, 1⟩
  else if n = 0xF0 then some ⟨b, 1, 0, 0x90, 0xBF, 2⟩
  else if 0xF1 ≤ n ∧ n ≤ 0xF3 then some ⟨b, 1, n - 0xF0, 0x80, 0xBF, 2⟩
  else if n = 0xF4 then some ⟨b, 1, 4, 0x80, 0x8F, 2⟩
  else none

def Pending.admits (p : Pending) (b : UInt8) : Bool :=
  decide (p.lower ≤ b.toNat) && decide (b.toNat ≤ p.upper)

def Pending.valueWith (p : Pending) (b : UInt8) : Nat :=
  p.value * 64 + (b.toNat - 0x80)

def Pending.next (p : Pending) (b : UInt8) (more : Nat) : Pending :=
  ⟨p.first, p.width + 1, p.valueWith b, 0x80, 0xBF, more⟩

def Pending.fault (p : Pending) (position : Nat) (reason : Reason) : Fault :=
  ⟨position - p.width, p.width, p.first, reason⟩

def decodeFrom (position : Nat) : Option Pending → List UInt8 → Except Fault Text
  | none, [] => .ok []
  | some p, [] => .error (p.fault position .unexpectedEnd)
  | none, b :: rest =>
    if b.toNat < 0x80 then
      (decodeFrom (position + 1) none rest).map (Char.ofNat b.toNat :: ·)
    else
      match Pending.ofFirst? b with
      | none => .error ⟨position, 1, b, .invalidStart⟩
      | some p => decodeFrom (position + 1) (some p) rest
  | some p, b :: rest =>
    if p.admits b then
      match p.more with
      | 0 => (decodeFrom (position + 1) none rest).map (Char.ofNat (p.valueWith b) :: ·)
      | more + 1 => decodeFrom (position + 1) (some (p.next b more)) rest
    else
      .error (p.fault position .invalidContinuation)

def decode (bytes : List UInt8) : Except Fault Text :=
  decodeFrom 0 none bytes

def encodeChar (c : Char) : List UInt8 :=
  let n := c.toNat
  if n < 0x80 then [UInt8.ofNat n]
  else if n < 0x800 then [UInt8.ofNat (0xC0 + n / 64), UInt8.ofNat (0x80 + n % 64)]
  else if n < 0x10000 then
    [UInt8.ofNat (0xE0 + n / 4096), UInt8.ofNat (0x80 + n / 64 % 64), UInt8.ofNat (0x80 + n % 64)]
  else
    [UInt8.ofNat (0xF0 + n / 262144), UInt8.ofNat (0x80 + n / 4096 % 64),
      UInt8.ofNat (0x80 + n / 64 % 64), UInt8.ofNat (0x80 + n % 64)]

def encode (t : Text) : List UInt8 :=
  t.flatMap encodeChar

def Reason.message : Reason → Text
  | .invalidStart => "invalid start byte".toList
  | .invalidContinuation => "invalid continuation byte".toList
  | .unexpectedEnd => "unexpected end of data".toList

def Fault.message (f : Fault) : Text :=
  let place : Text :=
    if f.width = 1 then
      "byte 0x".toList ++ Text.hex Text.lowerDigits 2 f.first.toNat ++ " in position ".toList ++
        Text.decimal f.start
    else
      "bytes in position ".toList ++ Text.decimal f.start ++ '-' ::
        Text.decimal (f.start + f.width - 1 : Nat)
  "'utf-8' codec can't decode ".toList ++ place ++ ": ".toList ++ f.reason.message

end RequestBinding.Utf8
