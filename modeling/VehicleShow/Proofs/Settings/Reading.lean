import VehicleShow.Proofs.Json.Records
import VehicleShow.Proofs.Json.Spelling
import VehicleShow.Settings

/-! # Reading settings from their members

The export record keeps a field for each of its two keys, and the document one for the record.  What
a text of such a document comes to is told by what stands under these keys (`ofText_eq`): nothing, one
value that means something, or else a refusal. -/
set_option autoImplicit false
namespace VehicleShow

open Json

/-! ## Values of the fields -/

def nameOf? : List Token → Option String
  | [.str content] => content
  | _ => none

def idOf? : List Token → Option (Option UInt64)
  | [.null] => some none
  | [.num n] => n.toUInt64?.map some
  | _ => none

/-- A value that can be read: as a number, it is one that a double can hold, and as a string, its
surrogates are paired up. -/
def Json.Readable (value : List Token) : Prop :=
  value ≠ [.str none] ∧ ∀ n, value = [.num n] → n.inRange = true

section Values
variable {value : List Token} (passable : Passable .value value) (readable : Readable value)
include passable readable

theorem typeFault_append (rest : List Token) : typeFault (value ++ rest) = .mismatch := by
  cases passable with
  | num n => simp [typeFault, readable.2 n rfl]
  | str content =>
      cases content with
      | none => exact absurd rfl readable.1
      | some => rfl
  | _ => rfl

theorem string_append (rest : List Token) :
    Reader.string (value ++ rest) = answer (nameOf? value) rest := by
  have fault := typeFault_append passable readable rest
  cases passable with
  | str content =>
      cases content with
      | none => exact absurd rfl readable.1
      | some => rfl
  | _ => exact congrArg Except.error fault

theorem nullable_append (rest : List Token) :
    Reader.nullable Reader.uint64 (value ++ rest) = answer (idOf? value) rest := by
  have fault := typeFault_append passable readable rest
  cases passable with
  | null => rfl
  | num n =>
      cases word : n.toUInt64? with
      | some id => simp [Reader.nullable, Reader.uint64, idOf?, word, answer, Except.map]
      | none =>
          rw [List.singleton_append] at fault
          simp [Reader.nullable, Reader.uint64, idOf?, word, answer, Except.map, fault]
  | str content =>
      cases content with
      | none => exact absurd rfl readable.1
      | some => rfl
  | _ => rfl

end Values

/-! ## The export record -/

def exportKeys : List String := ["fileName", "uniqueId"]

/-- A record whose members can be passed over, and in which the first value of each field can be
read. -/
structure Legible (inner : TokenMembers) : Prop where
  passable : AllPassable inner
  readable : ∀ key ∈ exportKeys, ∀ value ∈ (tokensUnder key inner).head?, Readable value

theorem skipMember_append {σ : Type} {value : List Token} (passable : Passable .value value)
    (state : σ) (rest : List Token) :
    SettingsDraft.skipMember state (.colon :: (value ++ rest)) = .ok (state, rest) := by
  have skipped : Reader.field Reader.skip (.colon :: (value ++ rest)) = .ok ((), rest) :=
    skip_append passable rest
  rw [SettingsDraft.skipMember, skipped]
  rfl

namespace SettingsDraft

def change (draft : SettingsDraft) (member : String × List Token) : Option SettingsDraft :=
  match member.1 with
  | "fileName" =>
      (put nameOf? draft.fileName member.2).map fun name => { draft with fileName := name }
  | "uniqueId" => (put idOf? draft.uniqueId member.2).map fun id => { draft with uniqueId := id }
  | _ => some draft

theorem change_of_foreign {key : String} (named : key ≠ "fileName") (numbered : key ≠ "uniqueId")
    (draft : SettingsDraft) (value : List Token) : change draft (key, value) = some draft := by
  simp [change]

theorem steps_change {draft : SettingsDraft} {member : String × List Token}
    (passable : Passable .value member.2)
    (name : member.1 = "fileName" → draft.fileName = none → Readable member.2)
    (id : member.1 = "uniqueId" → draft.uniqueId = none → Readable member.2) :
    Steps step change draft member := by
  obtain ⟨fileName, uniqueId⟩ := draft
  obtain ⟨key, value⟩ := member
  intro rest
  by_cases named : key = "fileName"
  · subst named
    cases fileName with
    | some => rfl
    | none =>
        have read := string_append passable (name rfl rfl) rest
        change readFileName _ (value ++ rest) =
          answer (((nameOf? value).map some).map fun name => ⟨name, uniqueId⟩) rest
        rw [readFileName, read]
        cases nameOf? value <;> rfl
  by_cases numbered : key = "uniqueId"
  · subst numbered
    cases uniqueId with
    | some => rfl
    | none =>
        have read := nullable_append passable (id rfl rfl) rest
        change readUniqueId _ (value ++ rest) =
          answer (((idOf? value).map some).map fun id => ⟨fileName, id⟩) rest
        rw [readUniqueId, read]
        cases idOf? value <;> rfl
  · rw [change_of_foreign named numbered]
    simp [step, skipMember_append passable, answer]

/-- A value is looked at only where its field is still empty, so only the first one has to be
readable. -/
theorem follows_change {inner : TokenMembers} (passable : AllPassable inner) {draft : SettingsDraft}
    (name : draft.fileName = none → ∀ value ∈ (tokensUnder "fileName" inner).head?, Readable value)
    (id : draft.uniqueId = none → ∀ value ∈ (tokensUnder "uniqueId" inner).head?, Readable value) :
    Follows step change draft inner := by
  induction inner generalizing draft with
  | nil => exact trivial
  | cons member others ih =>
      obtain ⟨key, value⟩ := member
      obtain ⟨passableFirst, passableOthers⟩ := allPassable_cons_iff.mp passable
      rw [tokensUnder_cons] at name id
      constructor
      · apply steps_change passableFirst
        · rintro rfl unset
          exact name unset value (by simp)
        · rintro rfl unset
          exact id unset value (by simp)
      · intro next changed
        by_cases named : key = "fileName"
        · subst named
          rw [if_neg (by simp)] at id
          obtain ⟨found, filled, rfl⟩ := Option.map_eq_some_iff.mp changed
          exact ih passableOthers (fun unset => absurd unset (ne_none_of_put filled)) id
        by_cases numbered : key = "uniqueId"
        · subst numbered
          rw [if_neg named] at name
          obtain ⟨found, filled, rfl⟩ := Option.map_eq_some_iff.mp changed
          exact ih passableOthers name (fun unset => absurd unset (ne_none_of_put filled))
        · rw [if_neg named] at name
          rw [if_neg numbered] at id
          cases (change_of_foreign named numbered draft value).symm.trans changed
          exact ih passableOthers name id

/-- The two fields do not see each other's members. -/
theorem foldlM_change (inner : TokenMembers) (draft : SettingsDraft) :
    inner.foldlM change draft = (do
      let fileName ← (tokensUnder "fileName" inner).foldlM (put nameOf?) draft.fileName
      let uniqueId ← (tokensUnder "uniqueId" inner).foldlM (put idOf?) draft.uniqueId
      some ⟨fileName, uniqueId⟩) := by
  induction inner generalizing draft with
  | nil => rfl
  | cons member others ih =>
      obtain ⟨key, value⟩ := member
      rw [List.foldlM_cons, tokensUnder_cons, tokensUnder_cons]
      by_cases named : key = "fileName"
      · subst named
        rw [if_pos rfl, if_neg (by simp), List.foldlM_cons]
        change Option.map _ (put nameOf? draft.fileName value) >>= _ = _
        cases put nameOf? draft.fileName value with
        | none => rfl
        | some => exact ih _
      by_cases numbered : key = "uniqueId"
      · subst numbered
        rw [if_neg named, if_pos rfl, List.foldlM_cons]
        change Option.map _ (put idOf? draft.uniqueId value) >>= _ = _
        cases put idOf? draft.uniqueId value with
        | none => exact (Option.bind_fun_none _).symm
        | some => exact ih _
      · rw [if_neg named, if_neg numbered, change_of_foreign named numbered]
        exact ih draft

def ofMembers? (inner : TokenMembers) : Option SettingsDraft := do
  let fileName ← sole nameOf? (tokensUnder "fileName" inner)
  let uniqueId ← sole idOf? (tokensUnder "uniqueId" inner)
  some ⟨fileName, uniqueId⟩

theorem reader_append {inner : TokenMembers} (legible : Legible inner) (rest : List Token) :
    reader (objectTokens inner ++ rest) = answer (ofMembers? inner) rest := by
  have follows : Follows step change {} inner := follows_change legible.passable
    (fun _ => legible.readable "fileName" (by simp [exportKeys]))
    (fun _ => legible.readable "uniqueId" (by simp [exportKeys]))
  rw [reader, record_eq_foldlM follows, foldlM_change, foldlM_put, foldlM_put, ofMembers?]

end SettingsDraft

namespace Settings

/-! ## The document -/

def exportOf? (value : List Token) : Option Settings :=
  match SettingsDraft.reader value with
  | .ok (draft, []) => some draft.settings
  | _ => none

theorem exportOf?_objectTokens {inner : TokenMembers} (legible : Legible inner) :
    exportOf? (objectTokens inner) =
      (SettingsDraft.ofMembers? inner).map SettingsDraft.settings := by
  have read := SettingsDraft.reader_append legible []
  rw [List.append_nil] at read
  rw [exportOf?, read]
  cases SettingsDraft.ofMembers? inner <;> rfl

def change (found : Option Settings) (member : String × List Token) : Option (Option Settings) :=
  if member.1 = "export" then put exportOf? found member.2 else some found

theorem change_of_foreign {key : String} (foreign : key ≠ "export") (found : Option Settings)
    (value : List Token) : change found (key, value) = some found := if_neg foreign

theorem steps_change_of_foreign {key : String} (foreign : key ≠ "export") {value : List Token}
    (passable : Passable .value value) (found : Option Settings) :
    Steps step change found (key, value) := by
  intro rest
  rw [change_of_foreign foreign]
  simp [step, skipMember_append passable, answer]

theorem steps_change_of_found (settings : Settings) (value : List Token) :
    Steps step change (some settings) ("export", value) := fun _ => rfl

theorem steps_change_of_export {inner : TokenMembers} (legible : Legible inner) :
    Steps step change none ("export", objectTokens inner) := by
  intro rest
  have read := SettingsDraft.reader_append legible rest
  change readExport none (objectTokens inner ++ rest) =
    answer (change none ("export", objectTokens inner)) rest
  rw [readExport, read, change, if_pos rfl, put, exportOf?_objectTokens legible]
  cases SettingsDraft.ofMembers? inner <;> rfl

/-- The first export record of a document, if there is any, is a legible object. -/
def FirstLegible (members : TokenMembers) : Prop :=
  ∀ value ∈ (tokensUnder "export" members).head?,
    ∃ inner, value = objectTokens inner ∧ Legible inner

theorem firstLegible_of_head {members inner : TokenMembers} (legible : Legible inner)
    (first : (tokensUnder "export" members).head? = some (objectTokens inner)) :
    FirstLegible members := by
  intro value isFirst
  rw [first] at isFirst
  cases isFirst
  exact ⟨inner, rfl, legible⟩

theorem follows_change_of_found {members : TokenMembers} (passable : AllPassable members)
    (settings : Settings) : Follows step change (some settings) members := by
  induction members with
  | nil => exact trivial
  | cons member others ih =>
      obtain ⟨key, value⟩ := member
      obtain ⟨passableFirst, passableOthers⟩ := allPassable_cons_iff.mp passable
      by_cases exports : key = "export"
      · subst exports
        exact ⟨steps_change_of_found settings value, fun next never => by cases never⟩
      · refine ⟨steps_change_of_foreign exports passableFirst _, fun next same => ?_⟩
        cases (change_of_foreign exports (some settings) value).symm.trans same
        exact ih passableOthers

theorem follows_change {members : TokenMembers} (passable : AllPassable members)
    (first : FirstLegible members) : Follows step change none members := by
  induction members with
  | nil => exact trivial
  | cons member others ih =>
      obtain ⟨key, value⟩ := member
      obtain ⟨passableFirst, passableOthers⟩ := allPassable_cons_iff.mp passable
      rw [FirstLegible, tokensUnder_cons] at first
      by_cases exports : key = "export"
      · subst exports
        rw [if_pos rfl] at first
        obtain ⟨inner, rfl, legible⟩ := first value rfl
        refine ⟨steps_change_of_export legible, fun next changed => ?_⟩
        rw [change, if_pos rfl, put, Option.map_eq_some_iff] at changed
        obtain ⟨settings, -, rfl⟩ := changed
        exact follows_change_of_found passableOthers settings
      · rw [if_neg exports] at first
        refine ⟨steps_change_of_foreign exports passableFirst _, fun next same => ?_⟩
        cases (change_of_foreign exports none value).symm.trans same
        exact ih passableOthers first

theorem foldlM_change (members : TokenMembers) (found : Option Settings) :
    members.foldlM change found = (tokensUnder "export" members).foldlM (put exportOf?) found := by
  induction members generalizing found with
  | nil => rfl
  | cons member others ih =>
      obtain ⟨key, value⟩ := member
      rw [List.foldlM_cons, tokensUnder_cons, change]
      by_cases exports : key = "export"
      · rw [if_pos exports, if_pos exports, List.foldlM_cons]
        exact congrArg _ (funext ih)
      · rw [if_neg exports, if_neg exports]
        exact ih found

theorem ofText_eq {members : TokenMembers} {text : String} (passable : AllPassable members)
    (first : FirstLegible members) (spelled : Spelled (objectTokens members) text.toList) :
    ofText text = match sole exportOf? (tokensUnder "export" members) with
      | some found => .ok (found.getD {})
      | none => .error .mismatch := by
  have lexed := (lex_eq_iff_spelled (passable_objectTokens passable) text.toList).mpr spelled
  have read := record_eq_foldlM (follows_change passable first) [readExport] []
  rw [List.append_nil, foldlM_change, foldlM_put] at read
  rw [ofText, lexed, Reader.complete, reader, read]
  cases sole exportOf? (tokensUnder "export" members) <;> rfl

end Settings
end VehicleShow
