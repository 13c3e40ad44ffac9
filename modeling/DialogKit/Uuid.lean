import DialogKit.Text.Quoted
import DialogKit.Text.Lines

/-!
# Identifiers of players

Numbers of 128 bits, written as 32 hexadecimal digits in groups of 8, 4, 4, 4 and 12.
-/

namespace DialogKit

structure Uuid where
  bits : BitVec 128
  deriving DecidableEq

namespace Uuid

def nil : Uuid := ⟨0⟩

def hexValue? (c : Char) : Option Nat :=
  if '0' ≤ c && c ≤ '9' then some (c.toNat - 0x30)
  else if 'a' ≤ c && c ≤ 'f' then some (c.toNat - 0x57)
  else if 'A' ≤ c && c ≤ 'F' then some (c.toNat - 0x37)
  else none

/-- The 32 digits, the most significant first. -/
def digits (u : Uuid) : List Char :=
  (List.range 32).reverse.map fun place ↦ Text.hexDigit (u.bits.toNat / Nat.pow 16 place % 16)

def text (u : Uuid) : String :=
  let ds := u.digits
  let group (start size : Nat) : List Char := (ds.drop start).take size
  String.ofList (group 0 8 ++ '-' :: group 8 4 ++ '-' :: group 12 4 ++ '-' :: group 16 4 ++
    '-' :: group 20 12)

def ofDigits? (cs : List Char) : Option Uuid :=
  if cs.length = 32 then
    (cs.foldlM (fun n c ↦ (hexValue? c).map (16 * n + ·)) 0).map fun n ↦ ⟨BitVec.ofNat 128 n⟩
  else none

/-- The scheme that a name of this kind starts with, in any case. -/
def scheme : String := "urn:uuid:"

/-- Reads the digits, in groups or without them, alone, in braces, or behind the scheme. -/
def parse? (s : String) : Option Uuid :=
  let body (cs : List Char) : Option Uuid :=
    let groups := Text.splitChars '-' cs
    if groups.length = 1 || groups.map List.length = [8, 4, 4, 4, 12] then ofDigits? groups.flatten
    else none
  match s.toList with
  | '{' :: rest =>
      if rest.getLast? = some '}' && rest.length = 37 then body rest.dropLast else none
  | cs =>
      if (cs.take scheme.length).map Char.toLower = scheme.toList then
        let rest := cs.drop scheme.length
        if rest.length = 36 then body rest else none
      else body cs

end Uuid

end DialogKit
