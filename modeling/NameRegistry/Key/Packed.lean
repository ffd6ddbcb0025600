import NameRegistry.Bytes
import NameRegistry.Error
/-!
Packed keys. Every component is written behind one byte with its length, so that a packed key can
be taken apart again and none is the beginning of another one with as many components.
-/
namespace NameRegistry.Packed

/-- The greatest length of a component. -/
def maxLength : Nat := 254

/-- Packs components, the first of which has the position `index`. -/
def packFrom (index : Nat) : List Bytes → Except Error Bytes
  | [] => .ok []
  | component :: rest =>
    if 1 ≤ component.length ∧ component.length ≤ maxLength then
      (packFrom (index + 1) rest).map (component.length.toUInt8 :: component ++ ·)
    else
      .error ⟨.codec,
        s!"component {index} has length {component.length}, expected 1..={maxLength}"⟩

/-- Packs components into one key. -/
def pack (components : List Bytes) : Except Error Bytes := packFrom 0 components

def unpack : Bytes → Except Error (List Bytes)
  | [] => .error ⟨.codec, "packed key too short: 0 bytes left"⟩
  | [_] => .error ⟨.codec, "packed key too short: 1 bytes left"⟩
  | head :: next :: rest =>
    let length := head.toNat
    let body := next :: rest
    if length = 0 ∨ maxLength < length ∨ body.length < length then
      .error ⟨.codec,
        s!"declared length {length} does not fit in {body.length} remaining bytes"⟩
    else if body.length = length then .ok [body]
    else (unpack (body.drop length)).map (body.take length :: ·)
termination_by packed => packed.length
decreasing_by
  exact Nat.lt_succ_of_le (Nat.le_trans (Nat.le_of_eq List.length_drop) (Nat.sub_le _ _))

end NameRegistry.Packed
