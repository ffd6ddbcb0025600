import NameRegistry.Bytes
/-!
Natural numbers in decimal digits, as bytes.
-/
namespace NameRegistry.Decimal

def isDigit (byte : UInt8) : Bool := 0x30 ≤ byte && byte ≤ 0x39

def digits (n : Nat) : Bytes :=
  if n < 10 then [0x30 + n.toUInt8] else digits (n / 10) ++ [0x30 + (n % 10).toUInt8]
termination_by n

/-- The number that digits denote. -/
def value (bytes : Bytes) : Nat := bytes.foldl (fun n byte => 10 * n + (byte.toNat - 0x30)) 0

end NameRegistry.Decimal
