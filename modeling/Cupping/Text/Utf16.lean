/-!
Text in UTF-16, of either byte order.
-/

namespace Cupping.Text.Utf16

/-- The order of the bytes of a code unit. -/
inductive ByteOrder where
  | bigEnd
  | littleEnd
deriving DecidableEq, Repr

def unit (order : ByteOrder) (first second : UInt8) : Nat :=
  match order with
  | .bigEnd => first.toNat * 256 + second.toNat
  | .littleEnd => second.toNat * 256 + first.toNat

/-- Whether a code unit is the first of a pair. -/
def isLead (unit : Nat) : Bool :=
  decide (0xD800 ≤ unit) && decide (unit < 0xDC00)

def isTrail (unit : Nat) : Bool :=
  decide (0xDC00 ≤ unit) && decide (unit < 0xE000)

/-- The characters of code units; a unit without its partner is replaced. -/
def characters : List Nat → List Char
  | [] => []
  | [last] => if isLead last || isTrail last then ['\uFFFD'] else [Char.ofNat last]
  | first :: second :: rest =>
    if isLead first && isTrail second then
      Char.ofNat (0x10000 + (first - 0xD800) * 0x400 + (second - 0xDC00)) :: characters rest
    else if isLead first || isTrail first then '\uFFFD' :: characters (second :: rest)
    else Char.ofNat first :: characters (second :: rest)

/-- The whole code units of some bytes, and whether a byte is left over. -/
def units (order : ByteOrder) : List UInt8 → List Nat × Bool
  | [] => ([], false)
  | [_] => ([], true)
  | first :: second :: rest =>
    let (others, odd) := units order rest
    (unit order first second :: others, odd)

/-- The text of some bytes; what is no character is replaced. -/
def lossy (order : ByteOrder) (bytes : List UInt8) : List Char :=
  let (whole, odd) := units order bytes
  characters whole ++ if odd then ['\uFFFD'] else []

end Cupping.Text.Utf16
