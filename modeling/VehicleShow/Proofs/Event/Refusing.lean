import VehicleShow.Proofs.Event.Drafts

/-! # Values that describe no event

Reading an event from a value can fail in one way only: the value has the wrong shape. -/
set_option autoImplicit false
namespace VehicleShow

open Json

/-- If there is no result, then for the wrong shape of a value. -/
def OnlyMismatch {α : Type} (result : Except Json.Fault α) : Prop :=
  ∀ fault, result = .error fault → fault = .mismatch

theorem OnlyMismatch.bind {α β : Type} {first : Except Json.Fault α}
    {next : α → Except Json.Fault β} (left : OnlyMismatch first)
    (right : ∀ value, OnlyMismatch (next value)) : OnlyMismatch (first >>= next) := by
  intro fault refused
  cases first with
  | error found =>
      cases refused
      exact left fault rfl
  | ok value => exact right value fault refused

theorem onlyMismatch_ok {α : Type} (value : α) : OnlyMismatch (.ok value) := by
  intro _ never
  cases never

theorem onlyMismatch_error {α : Type} : OnlyMismatch (@Except.error Json.Fault α .mismatch) := by
  intro _ same
  cases same
  rfl

/-! ## Single values -/

section Values
variable {members : List (String × Json)}

theorem onlyMismatch_asUInt64 (json : Json) : OnlyMismatch json.asUInt64 := by
  rw [asUInt64.eq_def]
  split
  · split
    · exact onlyMismatch_ok _
    · exact onlyMismatch_error
  · exact onlyMismatch_error

theorem onlyMismatch_asUInt32 (json : Json) : OnlyMismatch json.asUInt32 := by
  rw [asUInt32]
  cases read : json.asUInt64 with
  | error fault =>
      rw [onlyMismatch_asUInt64 json fault read]
      exact onlyMismatch_error
  | ok value =>
      dsimp only
      split
      · exact onlyMismatch_ok _
      · exact onlyMismatch_error

theorem onlyMismatch_asString (json : Json) : OnlyMismatch json.asString := by
  cases json with
  | str content => exact onlyMismatch_ok content
  | _ => exact onlyMismatch_error

theorem onlyMismatch_asChoice {α : Type} (ofName? : String → Option α) (json : Json) :
    OnlyMismatch (asChoice ofName? json) := by
  have found : ∀ name, OnlyMismatch ((ofName? name).elim (.error Json.Fault.mismatch) Except.ok) := by
    intro name
    cases ofName? name with
    | none => exact onlyMismatch_error
    | some choice => exact onlyMismatch_ok choice
  rw [asChoice.eq_def]
  split
  · exact found _
  · exact found _
  · exact found _
  · exact onlyMismatch_error

theorem onlyMismatch_unique? (key : String) : OnlyMismatch (unique? key members) := by
  rw [unique?]
  split
  · exact onlyMismatch_ok _
  · exact onlyMismatch_ok _
  · exact onlyMismatch_error

theorem onlyMismatch_optional {α : Type} {read : Json → Except Json.Fault α}
    (each : ∀ json, OnlyMismatch (read json)) (key : String) :
    OnlyMismatch (unique? key members >>= Json.optional read) := by
  refine (onlyMismatch_unique? key).bind fun found => ?_
  rw [Json.optional.eq_def]
  split
  · exact onlyMismatch_ok _
  · exact onlyMismatch_ok _
  · next json _ =>
    cases got : read json with
    | error fault =>
        rw [each json fault got]
        exact onlyMismatch_error
    | ok value => exact onlyMismatch_ok _

theorem onlyMismatch_flag (key : String) :
    OnlyMismatch (unique? key members >>= EventOptions.flag) := by
  refine (onlyMismatch_unique? key).bind fun found => ?_
  cases found with
  | none => exact onlyMismatch_ok false
  | some json =>
      cases json with
      | bool value => exact onlyMismatch_ok value
      | _ => exact onlyMismatch_error

theorem onlyMismatch_options : OnlyMismatch (EventOptions.ofMembers members) := by
  have choice {α : Type} (ofName? : String → Option α) (key : String) :=
    @onlyMismatch_optional members α _ (onlyMismatch_asChoice ofName?) key
  have power := @onlyMismatch_optional members _ _ onlyMismatch_asUInt32
  have speed := @onlyMismatch_optional members _ _ onlyMismatch_asUInt64
  simp only [EventOptions.ofMembers, ← bind_assoc]
  exact (choice _ _).bind fun _ => (power _).bind fun _ => (speed _).bind fun _ =>
    (onlyMismatch_flag _).bind fun _ => (onlyMismatch_flag _).bind fun _ =>
    (choice _ _).bind fun _ => (choice _ _).bind fun _ => (choice _ _).bind fun _ =>
    (choice _ _).bind fun _ => onlyMismatch_ok _

end Values

/-! ## Events -/

theorem onlyMismatch_unset {α : Type} (value : Option α) :
    OnlyMismatch (EventDraft.unset value) := by
  cases value with
  | none => exact onlyMismatch_ok ()
  | some => exact onlyMismatch_error

theorem onlyMismatch_required {α : Type} (value : Option α) :
    OnlyMismatch (EventDraft.required value) := by
  cases value with
  | none => exact onlyMismatch_error
  | some value => exact onlyMismatch_ok value

theorem onlyMismatch_addMember (draft : EventDraft) (member : String × Json) :
    OnlyMismatch (draft.addMember member) := by
  rw [EventDraft.addMember, EventDraft.add.eq_def]
  split
  · exact (onlyMismatch_unset _).bind fun _ => (onlyMismatch_asString _).bind fun _ =>
      onlyMismatch_ok _
  · exact (onlyMismatch_unset _).bind fun _ => (onlyMismatch_asUInt64 _).bind fun _ =>
      onlyMismatch_ok _
  · exact (onlyMismatch_unset _).bind fun _ => (onlyMismatch_asUInt64 _).bind fun _ =>
      onlyMismatch_ok _
  · exact onlyMismatch_ok _

theorem onlyMismatch_addMembers (draft : EventDraft) (members : List (String × Json)) :
    OnlyMismatch (members.foldlM EventDraft.addMember draft) := by
  induction members generalizing draft with
  | nil => exact onlyMismatch_ok draft
  | cons member members ih =>
      rw [List.foldlM_cons]
      exact (onlyMismatch_addMember draft member).bind ih

theorem Event.onlyMismatch_ofJson (json : Json) : OnlyMismatch (ofJson json) := by
  cases json with
  | obj members =>
      refine (onlyMismatch_addMembers {} members).bind fun draft => ?_
      exact (onlyMismatch_required _).bind fun _ => (onlyMismatch_required _).bind fun _ =>
        (onlyMismatch_required _).bind fun _ => onlyMismatch_options.bind fun _ => onlyMismatch_ok _
  | _ => exact onlyMismatch_error

theorem Event.onlyMismatch_ofJsons (items : List Json) : OnlyMismatch (items.mapM ofJson) := by
  induction items with
  | nil => exact onlyMismatch_ok []
  | cons item items ih =>
      rw [List.mapM_cons]
      exact (onlyMismatch_ofJson item).bind fun _ => ih.bind fun _ => onlyMismatch_ok _

end VehicleShow
