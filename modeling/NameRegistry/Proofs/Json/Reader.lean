import NameRegistry.Json.Reader
import NameRegistry.Json.Writer
import NameRegistry.Proofs.Json.Token
import Mathlib.Data.List.Chain

namespace NameRegistry.Json

/-- Of two tokens in a row, at most one is a word. -/
def Separated (tokens : List Token) : Prop :=
  tokens.IsChain fun first second => first.isWord = true → second.isWord = false

/-- Tokens that may stand behind a word. -/
def Follows (tokens : List Token) : Prop :=
  Separated tokens ∧ ∀ token ∈ tokens.head?, token.isWord = false

theorem Separated.cons {token : Token} {rest : List Token} (h : Separated rest)
    (hmark : token.isWord = false) : Separated (token :: rest) := by
  refine List.isChain_cons.mpr ⟨fun next _ hword => ?_, h⟩
  rw [hmark] at hword
  cases hword

theorem Separated.follows {token : Token} {rest : List Token} (h : Separated rest)
    (hmark : token.isWord = false) : Follows (token :: rest) :=
  ⟨h.cons hmark, fun _ hhead => Option.some.inj hhead ▸ hmark⟩

theorem Follows.cons {rest : List Token} (h : Follows rest) (token : Token) :
    Separated (token :: rest) :=
  List.isChain_cons.mpr ⟨fun next hnext _ => h.2 next hnext, h.1⟩

mutual

theorem separated_tokens (value : Value) {rest : List Token} (h : Follows rest) :
    Separated (value.tokens ++ rest) := by
  match value with
  | .null | .bool _ | .integer _ | .real _ _ | .string _ => exact h.cons _
  | .array [] => exact (h.cons .closeArray).cons rfl
  | .array (item :: items) =>
      rw [Value.tokens, List.cons_append, List.append_assoc]
      exact (separated_tokens item (follows_itemTokens items h.1)).cons rfl
  | .object [] => exact (h.cons .closeObject).cons rfl
  | .object ((key, value) :: members) =>
      rw [Value.tokens, List.cons_append, List.cons_append, List.cons_append, List.append_assoc]
      have hvalue := separated_tokens value (follows_memberTokens members h.1)
      exact ((hvalue.cons rfl).cons rfl).cons rfl

theorem follows_itemTokens (items : List Value) {rest : List Token} (h : Separated rest) :
    Follows (Value.itemTokens items ++ rest) := by
  match items with
  | [] => exact h.follows rfl
  | item :: items =>
      rw [Value.itemTokens, List.cons_append, List.append_assoc]
      exact (separated_tokens item (follows_itemTokens items h)).follows rfl

theorem follows_memberTokens (members : Members) {rest : List Token} (h : Separated rest) :
    Follows (Value.memberTokens members ++ rest) := by
  match members with
  | [] => exact h.follows rfl
  | (key, value) :: members =>
      rw [Value.memberTokens, List.cons_append, List.cons_append, List.cons_append,
        List.append_assoc]
      have hvalue := separated_tokens value (follows_memberTokens members h)
      exact ((hvalue.cons rfl).cons rfl).follows rfl

end

namespace State

theorem run_atItemOrEnd (value : Value) (above : List Frame) (rest : List Token) :
    (atItemOrEnd above).run (value.tokens ++ rest) =
      (atValue (.item [] :: above)).run (value.tokens ++ rest) := by
  cases value with
  | array items => cases items <;> rfl
  | object members => cases members <;> rfl
  | null | bool | integer | real | string => rfl

-- The recursion is that of the writer: a value, the items behind the first, and the members behind
-- the first. What the open array or object has so far is carried along in reverse.
mutual

theorem run_tokens (value : Value) (above : List Frame) (rest : List Token) :
    (atValue above).run (value.tokens ++ rest) = (deliver value above).run rest := by
  match value with
  | .null | .bool _ | .integer _ | .real _ _ | .string _ | .array [] | .object [] => rfl
  | .array (item :: items) =>
      rw [Value.tokens, List.cons_append, List.append_assoc]
      calc (atItemOrEnd above).run (item.tokens ++ (Value.itemTokens items ++ rest))
        _ = (atValue (.item [] :: above)).run (item.tokens ++ (Value.itemTokens items ++ rest)) :=
            run_atItemOrEnd item above _
        _ = (afterItem [item] above).run (Value.itemTokens items ++ rest) :=
            run_tokens item _ _
        _ = (deliver (.array (item :: items)) above).run rest :=
            run_itemTokens items [item] above rest
  | .object ((key, value) :: members) =>
      rw [Value.tokens, List.cons_append, List.cons_append, List.cons_append, List.append_assoc]
      calc (atValue (.member [] key :: above)).run
            (value.tokens ++ (Value.memberTokens members ++ rest))
        _ = (afterMember [(key, value)] above).run (Value.memberTokens members ++ rest) :=
            run_tokens value _ _
        _ = (deliver (.object ((key, value) :: members)) above).run rest :=
            run_memberTokens members [(key, value)] above rest

theorem run_itemTokens (items : List Value) (done : List Value) (above : List Frame)
    (rest : List Token) :
    (afterItem done above).run (Value.itemTokens items ++ rest) =
      (deliver (.array (done.reverse ++ items)) above).run rest := by
  match items with
  | [] =>
      rw [List.append_nil]
      rfl
  | item :: items =>
      rw [Value.itemTokens, List.cons_append, List.append_assoc]
      calc (atValue (.item done :: above)).run (item.tokens ++ (Value.itemTokens items ++ rest))
        _ = (afterItem (item :: done) above).run (Value.itemTokens items ++ rest) :=
            run_tokens item _ _
        _ = (deliver (.array (done.reverse ++ item :: items)) above).run rest := by
            rw [run_itemTokens items, List.reverse_cons, List.append_assoc, List.singleton_append]

theorem run_memberTokens (members : Members) (done : Members) (above : List Frame)
    (rest : List Token) :
    (afterMember done above).run (Value.memberTokens members ++ rest) =
      (deliver (.object (done.reverse ++ members)) above).run rest := by
  match members with
  | [] =>
      rw [List.append_nil]
      rfl
  | (key, value) :: members =>
      rw [Value.memberTokens, List.cons_append, List.cons_append, List.cons_append,
        List.append_assoc]
      calc (atValue (.member done key :: above)).run
            (value.tokens ++ (Value.memberTokens members ++ rest))
        _ = (afterMember ((key, value) :: done) above).run (Value.memberTokens members ++ rest) :=
            run_tokens value _ _
        _ = (deliver (.object (done.reverse ++ (key, value) :: members)) above).run rest := by
            rw [run_memberTokens members, List.reverse_cons, List.append_assoc,
              List.singleton_append]

end

end State

theorem delimited_written {token : Token} (h : token.isWord = false) (rest : Bytes) :
    Delimited (token.written ++ rest) := by
  intro byte hbyte
  cases token with
  | null | bool | integer | real => cases h
  | string | openArray | closeArray | openObject | closeObject | comma | colon =>
      obtain rfl := Option.some.inj hbyte
      rfl

theorem delimited_nil : Delimited [] := fun _ hnone => nomatch hnone

theorem delimited_blanks {blanks rest : Bytes} (hblanks : ∀ byte ∈ blanks, isBlank byte = true)
    (h : Delimited rest) : Delimited (blanks ++ rest) := by
  cases blanks with
  | nil => exact h
  | cons blank blanks =>
      intro byte hbyte
      obtain rfl := Option.some.inj hbyte
      rw [isWordByte, hblanks blank (.head blanks)]
      rfl

theorem Spells.blanks {tokens : List Token} {blanks text : Bytes}
    (hblanks : ∀ byte ∈ blanks, isBlank byte = true) (h : Spells tokens text) :
    Spells tokens (blanks ++ text) := by
  induction blanks with
  | nil => exact h
  | cons byte blanks ih =>
      obtain ⟨hbyte, hrest⟩ := List.forall_mem_cons.mp hblanks
      exact .blank hbyte (ih hrest)

theorem Separated.spells {tokens : List Token} (h : Separated tokens) :
    Spells tokens (tokens.flatMap Token.written) := by
  induction tokens with
  | nil => exact .nil
  | cons token rest ih =>
      obtain ⟨hnext, hrest⟩ := List.isChain_cons.mp h
      refine .token (fun hword => ?_) (ih hrest)
      cases rest with
      | nil => exact delimited_nil
      | cons next rest => exact delimited_written (hnext next rfl hword) _

theorem isBlank_of_mem_newLine (depth : Nat) : ∀ byte ∈ newLine depth, isBlank byte = true := by
  refine List.forall_mem_cons.mpr ⟨rfl, fun byte hbyte => ?_⟩
  rw [List.eq_of_mem_replicate hbyte]
  rfl

theorem isBlank_of_mem_gap (depth : Nat) (first second : Token) :
    ∀ byte ∈ gap depth first second, isBlank byte = true := by
  -- The cases are those of `gap`, in its order: empty brackets, ends, items, a value behind a
  -- colon, and tokens that touch.
  rw [gap.eq_def]
  split
  · exact List.forall_mem_nil _
  · exact List.forall_mem_nil _
  · exact isBlank_of_mem_newLine _
  · exact isBlank_of_mem_newLine _
  · exact isBlank_of_mem_newLine _
  · exact isBlank_of_mem_newLine _
  · exact isBlank_of_mem_newLine _
  · exact List.forall_mem_singleton.mpr rfl
  · exact List.forall_mem_nil _

theorem Separated.spells_laidOut {previous : Token} {tokens : List Token}
    (h : Separated (previous :: tokens)) (depth : Nat) :
    (previous.isWord = true → Delimited (laidOut depth previous tokens)) ∧
      Spells tokens (laidOut depth previous tokens) := by
  induction tokens generalizing previous depth with
  | nil => exact ⟨fun _ => delimited_nil, .nil⟩
  | cons token rest ih =>
      obtain ⟨hnext, hrest⟩ := List.isChain_cons.mp h
      obtain ⟨hends, hspells⟩ := ih hrest (token.depthAfter depth)
      have hgap := isBlank_of_mem_gap depth previous token
      rw [laidOut, List.append_assoc]
      constructor
      · exact fun hword =>
          delimited_blanks hgap (delimited_written (hnext token rfl hword) _)
      · exact .blanks hgap (.token hends hspells)

namespace Value

theorem separated (value : Value) : Separated value.tokens := by
  have h : Follows [] := ⟨.nil, fun _ hnone => nomatch hnone⟩
  simpa using separated_tokens value h

theorem ofTokens?_tokens (value : Value) : ofTokens? value.tokens = some value := by
  have hrun := State.run_tokens value [] []
  rw [List.append_nil] at hrun
  rw [ofTokens?, hrun]
  rfl

theorem ofBytes?_of_spells {value : Value} {text : Bytes} (h : Spells value.tokens text) :
    ofBytes? text = some value := by
  rw [ofBytes?, h.tokens?_eq]
  exact ofTokens?_tokens value

theorem ofBytes?_compact (value : Value) : ofBytes? value.compact = some value :=
  ofBytes?_of_spells value.separated.spells

theorem ofBytes?_pretty (value : Value) : ofBytes? value.pretty = some value := by
  refine ofBytes?_of_spells ?_
  have hseparated := value.separated
  rw [pretty]
  cases htokens : value.tokens with
  | nil => exact .nil
  | cons first rest =>
      rw [htokens] at hseparated
      obtain ⟨hends, hspells⟩ := hseparated.spells_laidOut (first.depthAfter 0)
      exact .token hends hspells

end Value

end NameRegistry.Json
