import NameRegistry.Json.Fields
import NameRegistry.Proofs.Text.Utf8

namespace NameRegistry.Json

theorem mapM_written {α β : Type} {read? : β → Option α} {write : α → β}
    (h : ∀ item, read? (write item) = some item) (items : List α) :
    (items.map write).mapM read? = some items := by
  induction items with
  | nil => rfl
  | cons item items ih =>
      rw [List.map_cons, List.mapM_cons, h, ih]
      rfl

theorem bytesFrom_plain (bytes : Bytes) : bytesFrom none (plain bytes) = some bytes := by
  induction bytes with
  | nil => rfl
  | cons byte bytes ih =>
      rw [plain, List.map_cons, bytesFrom]
      exact congrArg (Option.map (byte :: ·)) ih

@[simp] theorem text?_pieces (text : String) : text? (pieces text) = some text := by
  rw [text?, pieces, bytesFrom_plain, Option.bind_eq_bind, Option.bind_some, Utf8.decode_encode]
  rfl

namespace Value

@[simp] theorem text?_ofText (text : String) : (ofText text).text? = some text :=
  text?_pieces text

theorem integer?_integer {low high value : Int} (hlow : low ≤ value) (hhigh : value ≤ high) :
    (integer value).integer? low high = some value := if_pos ⟨hlow, hhigh⟩

@[simp] theorem int64?_integer (n : Int64) : (integer n.toInt).int64? = some n := by
  rw [int64?, integer?_integer n.minValue_le_toInt n.toInt_le, Option.map_some, Int64.ofInt_toInt]

@[simp] theorem uint64?_integer (n : UInt64) : (integer n.toNat).uint64? = some n := by
  have hlt := n.toNat_lt
  rw [uint64?, integer?_integer (by omega) (by omega), Option.map_some, Int.toNat_natCast,
    UInt64.ofNat_toNat]

theorem isSound_int64 (n : Int64) (depth : Nat) :
    (integer n.toInt).isSound depth = true := by
  have hlow := n.le_toInt
  have hhigh := n.toInt_lt
  rw [isSound, isFiniteInteger, Bool.or_eq_true, decide_eq_true_eq]
  omega

@[simp] theorem byte?_integer (byte : UInt8) : (integer byte.toNat).byte? = some byte := by
  have hlt := byte.toNat_lt
  rw [byte?, integer?_integer (by omega) (by omega), Option.map_some, Int.toNat_natCast,
    UInt8.ofNat_toNat]

theorem list?_map {α : Type} {read? : Value → Option α} {write : α → Value}
    (h : ∀ item, read? (write item) = some item) (items : List α) :
    (array (items.map write)).list? read? = some items :=
  mapM_written h items

@[simp] theorem list?_ofByteList (bytes : Bytes) : (ofByteList bytes).list? byte? = some bytes :=
  list?_map byte?_integer bytes

theorem option?_ofOption {α : Type} {read? : Value → Option α} {write : α → Value}
    (h : ∀ data, read? (write data) = some data) (hnull : ∀ data, write data ≠ null)
    (data? : Option α) : (ofOption write data?).option? read? = some data? := by
  cases data? with
  | none => rfl
  | some data =>
      rw [ofOption, option?, h]
      · rfl
      · exact hnull data

end Value

theorem required_some {α : Type} (read? : Value → Option α) (value : Value) :
    required read? (some value) = read? value := rfl

section Fields

variable {members : List (String × Value)} {name : String}

theorem keyed?_append (members more : List (List Piece × Value)) :
    keyed? (members ++ more) =
      (keyed? members).bind fun keyed => (keyed? more).map (keyed ++ ·) := by
  rw [keyed?, List.mapM_append]
  simp only [Option.map_eq_bind]
  rfl

@[simp] theorem keyed?_record (fields : List (String × Value)) :
    keyed? (fields.map fun field => (pieces field.1, field.2)) = some fields := by
  refine mapM_written (fun field => ?_) fields
  rw [text?_pieces]
  rfl

theorem keyed?_eq (members : List (List Piece × Value)) :
    keyed? members =
      if members.all fun member => (text? member.1).isSome then
        some (members.map fun member => ((text? member.1).getD "", member.2))
      else none := by
  rw [keyed?]
  induction members with
  | nil => rfl
  | cons member members ih =>
      rw [List.mapM_cons, ih, List.all_cons, List.map_cons]
      cases text? member.1 with
      | none => rfl
      | some key => cases (members.all fun member => (text? member.1).isSome) <;> rfl

theorem exists_key_of_mem {keyed : List (String × Value)} {members : List (List Piece × Value)}
    (hkeyed : keyed? members = some keyed) (h : name ∈ keyed.map Prod.fst) :
    ∃ member ∈ members, text? member.1 = some name := by
  rw [keyed?_eq] at hkeyed
  split at hkeyed
  · next htexts =>
      obtain rfl := Option.some.inj hkeyed
      rw [List.map_map] at h
      obtain ⟨member, hmember, rfl⟩ := List.mem_map.mp h
      obtain ⟨key, hkey⟩ := Option.isSome_iff_exists.mp (List.all_eq_true.mp htexts member hmember)
      exact ⟨member, hmember, by simp [hkey]⟩
  · cases hkeyed

theorem filter_of_notMem (h : name ∉ members.map Prod.fst) :
    members.filter (fun member => member.1 = name) = [] := by
  refine List.filter_eq_nil_iff.mpr fun member hmember heq => h ?_
  exact List.mem_map.mpr ⟨member, hmember, of_decide_eq_true heq⟩

theorem only?_of_notMem (h : name ∉ members.map Prod.fst) : only? members name = some none := by
  rw [only?, filter_of_notMem h]

theorem only?_of_mem {value : Value} (hnodup : (members.map Prod.fst).Nodup)
    (h : (name, value) ∈ members) : only? members name = some (some value) := by
  have hfilter : members.filter (fun member => member.1 = name) = [(name, value)] := by
    induction members with
    | nil => cases h
    | cons member rest ih =>
        obtain ⟨hnotMem, hrest⟩ := List.nodup_cons.mp hnodup
        cases h with
        | head => rw [List.filter_cons, if_pos (decide_eq_true rfl), filter_of_notMem hnotMem]
        | tail _ h =>
            have hne : member.1 ≠ name := fun heq =>
              hnotMem (heq ▸ List.mem_map_of_mem h)
            rw [List.filter_cons_of_neg (by simpa using hne), ih hrest h]
  rw [only?, hfilter]

theorem only?_append {more : List (String × Value)} (h : name ∉ more.map Prod.fst) :
    only? (members ++ more) name = only? members name := by
  rw [only?, only?, List.filter_append, filter_of_notMem h, List.append_nil]

theorem only?_append_of_notMem {more : List (String × Value)} (h : name ∉ members.map Prod.fst) :
    only? (members ++ more) name = only? more name := by
  rw [only?, only?, List.filter_append, filter_of_notMem h, List.nil_append]

theorem mapM_only?_append {names : List String} {more : List (String × Value)}
    (h : ∀ name ∈ names, name ∉ more.map Prod.fst) :
    names.mapM (only? (members ++ more)) = names.mapM (only? members) := by
  induction names with
  | nil => rfl
  | cons name names ih =>
      obtain ⟨hname, hnames⟩ := List.forall_mem_cons.mp h
      rw [List.mapM_cons, List.mapM_cons, only?_append hname, ih hnames]

theorem only?_perm {members' : List (String × Value)} (h : members.Perm members')
    (name : String) : only? members name = only? members' name := by
  have hfilter := h.filter fun member => decide (member.1 = name)
  rw [only?, only?]
  split
  · next hnil =>
      rw [hnil] at hfilter
      rw [hfilter.symm.eq_nil]
  · next member hmember =>
      rw [hmember] at hfilter
      rw [hfilter.symm.eq_singleton]
  · next hnil hone =>
      split
      · next hnil' => exact absurd (hnil' ▸ hfilter).eq_nil hnil
      · next member hmember => exact absurd (hmember ▸ hfilter).eq_singleton (hone member)
      · rfl

theorem mapM_only? (hnodup : (members.map Prod.fst).Nodup) {part : List (String × Value)}
    (h : ∀ member ∈ part, member ∈ members) :
    (part.map Prod.fst).mapM (only? members) = some (part.map fun member => some member.2) := by
  induction part with
  | nil => rfl
  | cons member part ih =>
      obtain ⟨hmember, hpart⟩ := List.forall_mem_cons.mp h
      rw [List.map_cons, List.mapM_cons, only?_of_mem hnodup hmember, ih hpart]
      rfl

theorem Value.fields?_record {names : List String} (hnodup : names.Nodup)
    (hnames : members.map Prod.fst = names) :
    (record members).fields? names = some (members.map fun member => some member.2) := by
  subst hnames
  rw [record, fields?, keyed?_record, Option.bind_eq_bind, Option.bind_some]
  exact mapM_only? hnodup fun _ hmember => hmember

theorem Value.exactFields?_record {names : List String} (hnodup : names.Nodup)
    (hnames : members.map Prod.fst = names) :
    (record members).exactFields? names = some (members.map fun member => some member.2) := by
  have hother : members.any (fun member => !names.contains member.1) = false := by
    subst hnames
    rw [List.any_eq_false]
    intro member hmember
    simpa using ⟨member.2, hmember⟩
  have hfields := fields?_record hnodup hnames
  rw [record] at hfields ⊢
  rw [exactFields?]
  simp only [keyed?_record, hfields]
  change (if members.any (fun member => !names.contains member.1) = true then none else _) = _
  rw [hother]
  rfl

end Fields

end NameRegistry.Json
