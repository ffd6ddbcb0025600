import NameRegistry.Proofs.Json.Reader
import NameRegistry.Proofs.Json.Records
import NameRegistry.Proofs.Query.Listing
import NameRegistry.Query.Request

namespace NameRegistry

open Json

namespace QueryPath

/-- Whether the queries on a path are for lists. -/
def isList : QueryPath → Bool
  | resolveDomain | resolveAccount => false
  | accountsInDomain | domainsOwnedBy | accountsOwnedBy | accountsByTarget
  | accountsByCertificate => true

theorem ofText?_text (path : QueryPath) : ofText? path.text = some path := by
  cases path <;> rfl

end QueryPath

namespace Query

/-- The number of a page that the members of a request tell. -/
def toldNumber? (members : List (String × Value)) (name : String) : Option Int64 :=
  (only? members name).bind pageNumber?

theorem listed?_object (names : List String) (members : Members) :
    listed? names (.object members) =
      (keyed? members).bind fun keyed => (names.mapM (only? keyed)).bind fun fields =>
        if keyed.all fun member => names.contains member.1 || member.2.isSound memberDepth then
          (toldNumber? keyed "offset").bind fun offset =>
            (toldNumber? keyed "results_per_page").bind fun resultsPerPage =>
              some (fields, ⟨offset, resultsPerPage⟩)
        else none := by
  simp only [listed?, toldNumber?, Option.bind_eq_bind, Option.bind_assoc, Option.pure_def]

theorem listed?_record {names : List String} (fields : List (String × Value)) (page : Page)
    (hnodup : (names ++ ["offset", "results_per_page"]).Nodup)
    (hnames : fields.map Prod.fst = names) :
    listed? names (.record (fields ++ pageFields page)) =
      some (fields.map fun field => some field.2, page) := by
  subst hnames
  have hkeys : ((fields ++ pageFields page).map Prod.fst).Nodup := by
    rw [List.map_append]
    exact hnodup
  have hsound : (fields ++ pageFields page).all (fun member =>
      (fields.map Prod.fst).contains member.1 || member.2.isSound memberDepth) = true := by
    rw [List.all_append, Bool.and_eq_true, List.all_eq_true]
    refine ⟨fun member hmember => ?_, ?_⟩
    · rw [List.contains_iff_mem.mpr (List.mem_map_of_mem hmember), Bool.true_or]
    · simp only [pageFields, List.all_cons, Value.isSound_int64, Bool.or_true, List.all_nil,
        Bool.and_self]
  have htold (name : String) (n : Int64) (h : (name, .integer n.toInt) ∈ pageFields page) :
      toldNumber? (fields ++ pageFields page) name = some n := by
    rw [toldNumber?, only?_of_mem hkeys (List.mem_append_right fields h), Option.bind_some,
      pageNumber?, Value.int64?_integer]
  rw [Value.record, listed?_object, keyed?_record, Option.bind_some,
    mapM_only? hkeys fun _ hmember => List.mem_append_left _ hmember, Option.bind_some,
    if_pos hsound, htold "offset" page.offset (.head _),
    htold "results_per_page" page.resultsPerPage (.tail _ (.head _)), Option.bind_some,
    Option.bind_some]

theorem ofJson?_toJson (query : Query) : ofJson? query.toJson query.path = some query := by
  cases query with
  | resolveDomain name =>
      have hfields : (toJson (resolveDomain name)).fields? ["name"] = some [some (.ofText name)] :=
        Value.fields?_record (by decide) rfl
      simp [ofJson?, path, hfields, required]
  | resolveAccount domain name =>
      have hfields : (toJson (resolveAccount domain name)).fields? ["domain", "name"] =
          some [some (.ofText domain), some (.ofText name)] :=
        Value.fields?_record (by decide) rfl
      simp [ofJson?, path, hfields, required]
  | accountsInDomain domain page =>
      have hfields : listed? ["domain"] (toJson (accountsInDomain domain page)) =
          some ([some (.ofText domain)], page) :=
        listed?_record [("domain", .ofText domain)] page (by decide) rfl
      simp [ofJson?, path, hfields, required]
  | domainsOwnedBy owner page =>
      have hfields : listed? ["owner"] (toJson (domainsOwnedBy owner page)) =
          some ([some owner.toJson], page) :=
        listed?_record [("owner", owner.toJson)] page (by decide) rfl
      simp [ofJson?, path, hfields, required]
  | accountsOwnedBy owner page =>
      have hfields : listed? ["owner"] (toJson (accountsOwnedBy owner page)) =
          some ([some owner.toJson], page) :=
        listed?_record [("owner", owner.toJson)] page (by decide) rfl
      simp [ofJson?, path, hfields, required]
  | accountsByTarget target page =>
      have hfields : listed? ["blockchain_id", "address"] (toJson (accountsByTarget target page)) =
          some ([some (.ofText target.id), some (.ofText target.address)], page) :=
        listed?_record [("blockchain_id", .ofText target.id), ("address", .ofText target.address)]
          page (by decide) rfl
      simp [ofJson?, path, hfields, required]
  | accountsByCertificate certificate page =>
      have hfields : listed? ["certificate"] (toJson (accountsByCertificate certificate page)) =
          some ([some (.ofByteList certificate)], page) :=
        listed?_record [("certificate", .ofByteList certificate)] page (by decide) rfl
      simp [ofJson?, path, hfields, required]

theorem ofRequest_compact (query : Query) :
    ofRequest query.path.text query.toJson.compact = .ok query := by
  rw [ofRequest, QueryPath.ofText?_text]
  simp only [Value.ofBytes?_compact, Option.bind_some, ofJson?_toJson]

section Pages

variable {names : List String} {members members' : Members}

theorem listed?_perm (h : members.Perm members') (names : List String) :
    listed? names (.object members) = listed? names (.object members') := by
  rw [listed?_object, listed?_object, keyed?_eq, keyed?_eq, h.all_eq]
  split
  · have honly := funext (only?_perm (h.map fun member => ((text? member.1).getD "", member.2)))
    simp only [Option.bind_some, toldNumber?, (h.map _).all_eq, honly]
  · rfl

/-- The members of a request in which a number that is missing is zero. -/
def withZero (name : String) (members : Members) : Members :=
  if members.any fun member => text? member.1 = some name then members
  else members ++ [(pieces name, .integer 0)]

/-- The members of a request whose page is told in full. -/
def withPage (members : Members) : Members :=
  withZero "results_per_page" (withZero "offset" members)

theorem toldNumber?_append_zero {keyed : List (String × Value)} {name : String}
    (h : name ∉ keyed.map Prod.fst) (other : String) :
    toldNumber? (keyed ++ [(name, .integer 0)]) other = toldNumber? keyed other := by
  by_cases hother : other = name
  · subst hother
    have hzero : only? [(other, Value.integer 0)] other = some (some (.integer 0)) :=
      only?_of_mem (List.pairwise_singleton _ _) (List.mem_singleton_self _)
    rw [toldNumber?, toldNumber?, only?_append_of_notMem h, hzero, only?_of_notMem h]
    exact Value.int64?_integer 0
  · rw [toldNumber?, toldNumber?, only?_append (by simpa using hother)]

theorem listed?_withZero {name : String} (h : name ∉ names) (members : Members) :
    listed? names (.object (withZero name members)) = listed? names (.object members) := by
  rw [withZero]
  split
  · rfl
  next habsent =>
  have hzero : keyed? [(pieces name, .integer 0)] = some [(name, .integer 0)] :=
    keyed?_record [(name, .integer 0)]
  rw [listed?_object, listed?_object, keyed?_append, hzero]
  cases hkeyed : keyed? members with
  | none => rfl
  | some keyed =>
      have hfresh : name ∉ keyed.map Prod.fst := fun hmem => by
        obtain ⟨member, hmember, htext⟩ := exists_key_of_mem hkeyed hmem
        exact habsent (List.any_eq_true.mpr ⟨member, hmember, decide_eq_true htext⟩)
      have hfields : names.mapM (only? (keyed ++ [(name, .integer 0)])) =
          names.mapM (only? keyed) := by
        refine mapM_only?_append fun other hother heq => h ?_
        obtain rfl : other = name := List.mem_singleton.mp heq
        exact hother
      have hsound : (keyed ++ [(name, Value.integer 0)]).all (fun member =>
          names.contains member.1 || member.2.isSound memberDepth) =
          keyed.all fun member => names.contains member.1 || member.2.isSound memberDepth := by
        have hzero : (Value.integer 0).isSound memberDepth = true :=
          Value.isSound_int64 0 memberDepth
        rw [List.all_append, List.all_cons, List.all_nil, hzero, Bool.or_true, Bool.and_true,
          Bool.and_true]
      simp only [Option.map_some, Option.bind_some, hfields, toldNumber?_append_zero hfresh,
        hsound]

theorem listed?_withPage (hnames : ∀ name ∈ names, name ≠ "offset" ∧ name ≠ "results_per_page")
    (h : members'.Perm (withPage members)) :
    listed? names (.object members') = listed? names (.object members) := by
  have hoffset : "offset" ∉ names := fun hmem => (hnames _ hmem).1 rfl
  have hsize : "results_per_page" ∉ names := fun hmem => (hnames _ hmem).2 rfl
  rw [listed?_perm h, withPage, listed?_withZero hsize, listed?_withZero hoffset]

theorem ofJson?_withPage {path : QueryPath} (hpath : path.isList = true)
    (h : members'.Perm (withPage members)) :
    ofJson? (.object members') path = ofJson? (.object members) path := by
  have hlisted (names : List String)
      (hnames : ∀ name ∈ names, name ≠ "offset" ∧ name ≠ "results_per_page") :
      listed? names (.object members') = listed? names (.object members) :=
    listed?_withPage hnames h
  cases path with
  | resolveDomain | resolveAccount => cases hpath
  | accountsInDomain | domainsOwnedBy | accountsOwnedBy | accountsByTarget
  | accountsByCertificate => rw [ofJson?, ofJson?, hlisted _ (by decide)]

end Pages

end Query

namespace Response

theorem field?_record {α : Type} (name : String) (read? : Value → Option α) (value : Value) :
    field? name read? (.record [(name, value)]) = read? value := by
  rw [field?, Value.fields?_record (List.pairwise_singleton _ _) rfl]
  rfl

theorem ofJson?_domain (found : Domain) :
    ofJson? (domain found).toJson .resolveDomain = some (domain found) := by
  rw [ofJson?, toJson, field?_record, Domain.ofJson?_toJson]
  rfl

theorem ofJson?_account (found : Account) :
    ofJson? (account found).toJson .resolveAccount = some (account found) := by
  rw [ofJson?, toJson, field?_record, Account.ofJson?_toJson]
  rfl

theorem ofJson?_domains (found : List Domain) :
    ofJson? (domains found).toJson .domainsOwnedBy = some (domains found) := by
  rw [ofJson?, toJson, field?_record, Value.list?_map Domain.ofJson?_toJson]
  rfl

theorem ofJson?_accounts (path : QueryPath) (hpath : path.isList = true)
    (hdomains : path ≠ .domainsOwnedBy) (found : List Account) :
    ofJson? (accounts found).toJson path = some (accounts found) := by
  have hfound : field? "accounts" (Value.list? Account.ofJson?) (accounts found).toJson =
      some found := by
    rw [toJson, field?_record, Value.list?_map Account.ofJson?_toJson]
  cases path with
  | resolveDomain | resolveAccount => cases hpath
  | domainsOwnedBy => exact absurd rfl hdomains
  | accountsInDomain | accountsOwnedBy | accountsByTarget | accountsByCertificate =>
      rw [ofJson?, hfound]
      rfl

theorem ofBytes?_compact {σ : Type} [KeyValueStore σ] {store : σ} {query : Query}
    {response : Response} (h : Registry.answer store query = .ok response) :
    ofBytes? query.path response.toJson.compact = some response := by
  rw [ofBytes?, Value.ofBytes?_compact, Option.bind_eq_bind, Option.bind_some]
  cases query with
  | resolveDomain name =>
      obtain ⟨found, -, rfl⟩ := bind_pure_eq_ok_iff.mp h
      exact ofJson?_domain found
  | resolveAccount domain name =>
      obtain ⟨found, -, rfl⟩ := bind_pure_eq_ok_iff.mp h
      exact ofJson?_account found
  | domainsOwnedBy owner page =>
      obtain ⟨_, -, howner⟩ := bind_eq_ok_iff.mp h
      obtain ⟨_, -, hpage⟩ := bind_eq_ok_iff.mp howner
      obtain ⟨found, -, rfl⟩ := bind_pure_eq_ok_iff.mp hpage
      exact ofJson?_domains found
  | accountsInDomain | accountsOwnedBy | accountsByTarget | accountsByCertificate =>
      obtain ⟨_, -, hpage⟩ := bind_eq_ok_iff.mp h
      obtain ⟨found, -, rfl⟩ := bind_pure_eq_ok_iff.mp hpage
      refine ofJson?_accounts _ ?_ ?_ found
      · rfl
      · nofun

end Response

open Registry

/-- A request is answered as its query is: it fails with the same error, or the text of the answer
reads back as what the query finds. A number of the page that a request for a list leaves out
stands for zero, whatever the request says beside it and in whatever order. -/
theorem Registry.respond_eq_answer {σ : Type} [KeyValueStore σ] (store : σ) :
    (∀ query : Query,
      (respond store query.path.text query.toJson.compact).map
        (Response.ofBytes? query.path) = (answer store query).map some) ∧
    ∀ path : QueryPath, path.isList = true → ∀ (body full : Bytes) (members members' : Members),
      Value.ofBytes? body = some (.object members) →
      Value.ofBytes? full = some (.object members') →
      members'.Perm (Query.withPage members) →
      respond store path.text body = respond store path.text full := by
  refine ⟨fun query => ?_, fun path hpath body full members members' hbody hfull hperm => ?_⟩
  · rw [respond, Query.ofRequest_compact]
    change (answer store query >>= fun response => .ok response.toJson.compact).map
      (Response.ofBytes? query.path) = _
    cases hanswer : answer store query with
    | error error => rfl
    | ok response => exact congrArg Except.ok (Response.ofBytes?_compact hanswer)
  · have hrequest : Query.ofRequest path.text body = Query.ofRequest path.text full := by
      rw [Query.ofRequest, Query.ofRequest, QueryPath.ofText?_text]
      simp only [hbody, hfull, Option.bind_some, Query.ofJson?_withPage hpath hperm]
    rw [respond, respond, hrequest]

/-- A request for one of Bob's accounts, without the number of the page. -/
def Sample.bobsFirst : Value :=
  .record [("owner", bob.toJson), ("results_per_page", .integer 1)]

theorem respond_sample :
    (respond Sample.store "accounts-owned-by" Sample.bobsFirst.compact).map
      (Response.ofBytes? .accountsOwnedBy) = .ok (some (.accounts [Sample.teller])) := by
  obtain ⟨hquery, hpage⟩ := Registry.respond_eq_answer Sample.store
  have hfull := hpage .accountsOwnedBy rfl Sample.bobsFirst.compact
    (Query.accountsOwnedBy Sample.bob ⟨0, 1⟩).toJson.compact _ _ (Value.ofBytes?_compact _)
    (Value.ofBytes?_compact _) (.cons _ (.swap _ _ _))
  have hread := hquery (.accountsOwnedBy Sample.bob ⟨0, 1⟩)
  have hanswer : answer Sample.store (.accountsOwnedBy Sample.bob ⟨0, 1⟩) =
      .ok (.accounts [Sample.teller]) := by decide +kernel
  rw [hanswer] at hread
  exact (congrArg _ hfull).trans hread

end NameRegistry
