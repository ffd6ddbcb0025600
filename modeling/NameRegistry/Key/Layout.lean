import NameRegistry.Address
import NameRegistry.Key.Packed
import NameRegistry.Target
/-!
Where things stand in the store. Domains, accounts and indexes have a partition each, told by the
first byte; an index entry is its key alone.

    00  domain name
    01  domain name  *  account name
    02  index  subject  object

Names of domains hold no separator, so the accounts of one domain are not among those of another
whose name is longer. Subjects are addresses or packed keys.
-/
namespace NameRegistry

/-- The byte between the names of a domain and an account. -/
def separator : UInt8 := 0x2A

/-- What an index leads from, and to. -/
inductive Index
  | domainsByOwner
  | accountsByOwner
  | accountsByTarget
  | accountsByCertificate
  deriving DecidableEq, Repr

/-- The byte that tells an index from the others. -/
def Index.tag : Index → UInt8
  | domainsByOwner => 1
  | accountsByOwner => 2
  | accountsByTarget => 3
  | accountsByCertificate => 4

namespace Key

/-- What the keys of domains begin with. -/
def domains : Bytes := [0]

/-- The key of a domain. -/
def domain (name : String) : Bytes := domains ++ Utf8.encode name

/-- What the keys of accounts begin with. -/
def accounts : Bytes := [1]

/-- An account as the object of an index. -/
def object (domain name : String) : Bytes :=
  Utf8.encode domain ++ separator :: Utf8.encode name

/-- What the keys of the accounts of one domain begin with. -/
def accountsIn (domain : String) : Bytes := accounts ++ Utf8.encode domain ++ [separator]

/-- The key of an account. -/
def account (domain name : String) : Bytes := accountsIn domain ++ Utf8.encode name

/-- What the keys of the index with the given tag begin with. -/
def index (tag : UInt8) : Bytes := [2, tag]

/-- Reads a part of an object. -/
def textPart (part : String) (bytes : Bytes) : Except Error String :=
  match Utf8.decode bytes with
  | .ok text => .ok text
  | .error error => .error ⟨.codec, s!"{part} in account key: {error.message}"⟩

/-- The names of the domain and the account that an object stands for; the first separator ends
the name of the domain. -/
def splitObject (object : Bytes) : Except Error (String × String) := do
  match object.dropWhile (· ≠ separator) with
  | [] => .error ⟨.codec, s!"account key {Hex.encode object} has no separator"⟩
  | _ :: name =>
    let domain ← textPart "domain" (object.takeWhile (· ≠ separator))
    let name ← textPart "name" name
    return (domain, name)

/-- A target as the subject of an index. -/
def targetSubject (target : Target) : Except Error Bytes :=
  withContext s!"target {target.text}"
    (Packed.pack [Utf8.encode target.id, Utf8.encode target.address])

/-- The target that a subject stands for. -/
def targetOfSubject (subject : Bytes) : Except Error Target := do
  match ← Packed.unpack subject with
  | [id, address] => return ⟨Utf8.decodeLossy id, Utf8.decodeLossy address⟩
  | parts => .error ⟨.codec, s!"target subject has {parts.length} components, expected 2"⟩

/-- A certificate as the subject of an index. -/
def certificateSubject (certificate : Bytes) : Except Error Bytes := Packed.pack [certificate]

end Key

end NameRegistry
