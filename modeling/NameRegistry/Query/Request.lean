import NameRegistry.Json.Reader
import NameRegistry.Json.Records
import NameRegistry.Json.Writer
import NameRegistry.Query.Basic
import NameRegistry.Text.Quoted
/-!
Queries as requests: a path that tells what is asked, and a JSON text that tells about what. In a
request for a list the page stands beside the other members.
-/
namespace NameRegistry

open Json

/-- The paths of the queries. -/
inductive QueryPath
  | resolveDomain
  | resolveAccount
  | accountsInDomain
  | domainsOwnedBy
  | accountsOwnedBy
  | accountsByTarget
  | accountsByCertificate
  deriving DecidableEq, Repr

namespace QueryPath

def all : List QueryPath :=
  [resolveDomain, resolveAccount, accountsInDomain, domainsOwnedBy, accountsOwnedBy,
    accountsByTarget, accountsByCertificate]

def text : QueryPath → String
  | resolveDomain => "resolve-domain"
  | resolveAccount => "resolve-account"
  | accountsInDomain => "accounts-in-domain"
  | domainsOwnedBy => "domains-owned-by"
  | accountsOwnedBy => "accounts-owned-by"
  | accountsByTarget => "accounts-by-target"
  | accountsByCertificate => "accounts-by-certificate"

def ofText? (text : String) : Option QueryPath := all.find? fun path => path.text = text

end QueryPath

namespace Query

def path : Query → QueryPath
  | resolveDomain _ => .resolveDomain
  | resolveAccount _ _ => .resolveAccount
  | accountsInDomain _ _ => .accountsInDomain
  | domainsOwnedBy _ _ => .domainsOwnedBy
  | accountsOwnedBy _ _ => .accountsOwnedBy
  | accountsByTarget _ _ => .accountsByTarget
  | accountsByCertificate _ _ => .accountsByCertificate

/-- The members that tell the page. -/
def pageFields (page : Page) : List (String × Value) :=
  [("offset", .integer page.offset.toInt),
    ("results_per_page", .integer page.resultsPerPage.toInt)]

def toJson : Query → Value
  | resolveDomain name => .record [("name", .ofText name)]
  | resolveAccount domain name => .record [("domain", .ofText domain), ("name", .ofText name)]
  | accountsInDomain domain page => .record (("domain", .ofText domain) :: pageFields page)
  | domainsOwnedBy owner page => .record (("owner", owner.toJson) :: pageFields page)
  | accountsOwnedBy owner page => .record (("owner", owner.toJson) :: pageFields page)
  | accountsByTarget target page =>
    .record (("blockchain_id", .ofText target.id) :: ("address", .ofText target.address) ::
      pageFields page)
  | accountsByCertificate certificate page =>
    .record (("certificate", .ofByteList certificate) :: pageFields page)

/-- A number of a page, which is zero if it is missing. -/
def pageNumber? : Option Value → Option Int64
  | none => some 0
  | some value => value.int64?

/-- How deep the members may nest that are not among the fields of a request for a list. With the
object around them that makes 127. -/
def memberDepth : Nat := 126

/-- The fields of a request for a list, and its page. The request has to be an object, and the
members that are not among the fields have to be sound. -/
def listed? (names : List String) (value : Value) : Option (List (Option Value) × Page) := do
  match value with
  | .object members =>
    let members ← keyed? members
    let fields ← names.mapM (only? members)
    if members.all fun member => names.contains member.1 || member.2.isSound memberDepth then
      let offset ← pageNumber? (← only? members "offset")
      let resultsPerPage ← pageNumber? (← only? members "results_per_page")
      return (fields, ⟨offset, resultsPerPage⟩)
    else none
  | _ => none

/-- The query of a JSON value on a path. -/
def ofJson? (value : Value) : QueryPath → Option Query
  | .resolveDomain => do
    match ← value.fields? ["name"] with
    | [name] => return resolveDomain (← required Value.text? name)
    | _ => none
  | .resolveAccount => do
    match ← value.fields? ["domain", "name"] with
    | [domain, name] =>
      return resolveAccount (← required Value.text? domain) (← required Value.text? name)
    | _ => none
  | .accountsInDomain => do
    match ← listed? ["domain"] value with
    | ([domain], page) => return accountsInDomain (← required Value.text? domain) page
    | _ => none
  | .domainsOwnedBy => do
    match ← listed? ["owner"] value with
    | ([owner], page) => return domainsOwnedBy (← required Address.ofJson? owner) page
    | _ => none
  | .accountsOwnedBy => do
    match ← listed? ["owner"] value with
    | ([owner], page) => return accountsOwnedBy (← required Address.ofJson? owner) page
    | _ => none
  | .accountsByTarget => do
    match ← listed? ["blockchain_id", "address"] value with
    | ([id, address], page) =>
      return accountsByTarget ⟨← required Value.text? id, ← required Value.text? address⟩ page
    | _ => none
  | .accountsByCertificate => do
    match ← listed? ["certificate"] value with
    | ([certificate], page) =>
      return accountsByCertificate (← required (Value.list? Value.byte?) certificate) page
    | _ => none

/-- The query of a request. -/
def ofRequest (path : String) (body : Bytes) : Except Error Query :=
  match QueryPath.ofText? path with
  | none => .error ⟨.invalidRequest, s!"unknown query path {Quoted.text path}"⟩
  | some known =>
    match (Value.ofBytes? body).bind fun value => ofJson? value known with
    | none => .error ⟨.invalidRequest, s!"malformed {path} request"⟩
    | some query => .ok query

end Query

def Response.toJson : Response → Value
  | domain d => .record [("domain", d.toJson)]
  | account a => .record [("account", a.toJson)]
  | accounts list => .record [("accounts", .array (list.map Account.toJson))]
  | domains list => .record [("domains", .array (list.map Domain.toJson))]

namespace Response

/-- The one field of a response. -/
def field? {α : Type} (name : String) (read? : Value → Option α) (value : Value) : Option α := do
  match ← value.fields? [name] with
  | [field] => required read? field
  | _ => none

/-- The response of a JSON value to a query on a path. -/
def ofJson? (value : Value) : QueryPath → Option Response
  | .resolveDomain => return domain (← field? "domain" Domain.ofJson? value)
  | .resolveAccount => return account (← field? "account" Account.ofJson? value)
  | .domainsOwnedBy => return domains (← field? "domains" (Value.list? Domain.ofJson?) value)
  | .accountsInDomain | .accountsOwnedBy | .accountsByTarget | .accountsByCertificate =>
    return accounts (← field? "accounts" (Value.list? Account.ofJson?) value)

/-- The response to a query on a path, from the text that answers the request. -/
def ofBytes? (path : QueryPath) (body : Bytes) : Option Response := do
  ofJson? (← Value.ofBytes? body) path

end Response

/-- The text that answers a request. -/
def Registry.respond {σ : Type} [KeyValueStore σ] (store : σ) (path : String) (body : Bytes) :
    Except Error Bytes := do
  let query ← Query.ofRequest path body
  return (← answer store query).toJson.compact

end NameRegistry
