import NameRegistry.Error
import NameRegistry.Text.Hex
/-!
Addresses of owners. They have a fixed width, so no address is the beginning of another one.
-/
namespace NameRegistry

/-- The address of an owner: twenty bytes. -/
structure Address where
  bytes : Bytes
  length_eq : bytes.length = 20
  deriving DecidableEq

namespace Address

/-- The address that stands for the lack of an owner. -/
def empty : Address := ⟨List.replicate 20 0, rfl⟩

/-- Whether an address stands for the lack of an owner. -/
def isEmpty (address : Address) : Bool := address = empty

def ofBytes (bytes : Bytes) : Except Error Address :=
  if h : bytes.length = 20 then .ok ⟨bytes, h⟩
  else .error ⟨.invalidOwner, s!"address must be 20 bytes, got {bytes.length}"⟩

def text (address : Address) : String := Hex.encode address.bytes

def ofText (text : String) : Except Error Address :=
  match Hex.decode text with
  | .ok bytes => ofBytes bytes
  | .error error => .error ⟨.invalidOwner, s!"{text}: {error.message}"⟩

instance : ToString Address := ⟨text⟩

/-- An address as it is shown to developers. -/
def debugText (address : Address) : String := s!"Address({address.text})"

end Address

end NameRegistry
