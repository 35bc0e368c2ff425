/-!
# UTF-8

The characters that bytes stand for.  Bytes that stand for none are reported, one report for the
longest part of a character that is there.
-/

namespace GridQuery.Text.Utf8

structure Pending where
  code : Nat
  more : Nat
  /-- The least and the greatest byte that can come next. -/
  low : Nat
  high : Nat
deriving DecidableEq

inductive Start
  | char (c : Char)
  | pending (pending : Pending)
  | malformed
deriving DecidableEq

def start (byte : UInt8) : Start :=
  let b := byte.toNat
  if b < 0x80 then .char (Char.ofNat b)
  else if b < 0xc2 then .malformed
  else if b < 0xe0 then .pending ⟨b - 0xc0, 0, 0x80, 0xbf⟩
  else if b < 0xf0 then
    .pending ⟨b - 0xe0, 1, if b = 0xe0 then 0xa0 else 0x80, if b = 0xed then 0x9f else 0xbf⟩
  else if b < 0xf5 then
    .pending ⟨b - 0xf0, 2, if b = 0xf0 then 0x90 else 0x80, if b = 0xf4 then 0x8f else 0xbf⟩
  else .malformed

namespace Pending

def accepts (pending : Pending) (byte : UInt8) : Bool :=
  pending.low ≤ byte.toNat && byte.toNat ≤ pending.high

def next (pending : Pending) (byte : UInt8) : Start :=
  let code := 64 * pending.code + (byte.toNat - 0x80)
  match pending.more with
  | 0 => .char (Char.ofNat code)
  | more + 1 => .pending ⟨code, more, 0x80, 0xbf⟩

end Pending

end GridQuery.Text.Utf8
