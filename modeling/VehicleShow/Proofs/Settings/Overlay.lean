import VehicleShow.Proofs.Console.Programs
import VehicleShow.Proofs.Json.Members
import VehicleShow.Proofs.Json.Printing
import VehicleShow.Proofs.Settings.Reading

/-! # Settings that are given in part

A document of settings lists some of the fields and leaves the others at their defaults, with its
members in any order and foreign ones among them.  `settings_overlay` says of every file what loading
gives: what was written is loaded again, a document that lists fields replaces just these, and one
that lists a field twice or with a value of the wrong type is refused as a whole. -/
set_option autoImplicit false
namespace VehicleShow

open Json

namespace Settings

/-! ## Documents that list fields -/

def nameTokens (name : String) : List Token := [.str (some name)]

def idTokens : Option UInt64 → List Token
  | none => [.null]
  | some id => [.num (.ofUInt64 id)]

def listing (listed : SettingsDraft) : TokenMembers :=
  (listed.fileName.map fun name => ("fileName", nameTokens name)).toList
    ++ (listed.uniqueId.map fun id => ("uniqueId", idTokens id)).toList

def Foreign (keys : List String) (members : TokenMembers) : Prop :=
  ∀ member ∈ members, member.1 ∉ keys ∧ Passable .value member.2

/-- The members of a document in which just the given fields are listed: there is no export record,
or one that lists them.  Foreign members may stand anywhere, in the record too. -/
inductive Lists : SettingsDraft → TokenMembers → Prop
  | nothing {members : TokenMembers} (foreign : Foreign ["export"] members) : Lists {} members
  | fields {listed : SettingsDraft} {inner others foreign members : TokenMembers}
      (foreignInner : Foreign exportKeys others) (arranged : inner.Perm (listing listed ++ others))
      (foreignOuter : Foreign ["export"] foreign)
      (arrangedOuter : members.Perm (("export", objectTokens inner) :: foreign)) :
      Lists listed members

theorem nameOf?_nameTokens (name : String) : nameOf? (nameTokens name) = some name := rfl

theorem idOf?_idTokens (id : Option UInt64) : idOf? (idTokens id) = some id := by
  cases id with
  | none => rfl
  | some id => simp [idTokens, idOf?, Numeral.toUInt64?_ofUInt64]

theorem tokensUnder_fileName_listing (listed : SettingsDraft) :
    tokensUnder "fileName" (listing listed) = (listed.fileName.map nameTokens).toList := by
  cases name : listed.fileName <;> cases id : listed.uniqueId <;> simp [listing, name, id]

theorem tokensUnder_uniqueId_listing (listed : SettingsDraft) :
    tokensUnder "uniqueId" (listing listed) = (listed.uniqueId.map idTokens).toList := by
  cases name : listed.fileName <;> cases id : listed.uniqueId <;> simp [listing, name, id]

theorem sole_of_perm {α : Type} {meaning : List Token → Option α} {write : α → List Token}
    (meant : ∀ value, meaning (write value) = some value) {field : Option α}
    {values : List (List Token)} (perm : values.Perm (field.map write).toList) :
    sole meaning values = some field := by
  cases field with
  | none =>
      rw [perm.eq_nil]
      rfl
  | some value =>
      rw [List.perm_singleton.mp perm, sole, meant]
      rfl

theorem tokensUnder_of_foreign {keys : List String} {members : TokenMembers}
    (foreign : Foreign keys members) {key : String} (known : key ∈ keys) :
    tokensUnder key members = [] :=
  tokensUnder_of_absent fun member isMember same =>
    (foreign member isMember).1 (same ▸ known)

theorem readable_listing (listed : SettingsDraft) :
    ∀ member ∈ listing listed, Passable .value member.2 ∧ Readable member.2 := by
  obtain ⟨fileName, uniqueId⟩ := listed
  have names (name : String) :
      Passable .value (nameTokens name) ∧ Readable (nameTokens name) :=
    ⟨.str _, by simp [Readable, nameTokens]⟩
  have ids (id : Option UInt64) : Passable .value (idTokens id) ∧ Readable (idTokens id) := by
    cases id with
    | none => exact ⟨.null, by simp [Readable, idTokens]⟩
    | some id => exact ⟨.num _, by simp [Readable, idTokens, Numeral.inRange_ofUInt64]⟩
  cases fileName <;> cases uniqueId <;> simp [listing, names, ids]

section Listed
variable {listed : SettingsDraft} {inner others : TokenMembers} (foreign : Foreign exportKeys others)
  (arranged : inner.Perm (listing listed ++ others))
include foreign arranged

theorem ofMembers?_of_listed : SettingsDraft.ofMembers? inner = some listed := by
  have under {key : String} (known : key ∈ exportKeys) :
      (tokensUnder key inner).Perm (tokensUnder key (listing listed)) := by
    have perm := tokensUnder_perm key arranged
    rwa [tokensUnder_append, tokensUnder_of_foreign foreign known, List.append_nil] at perm
  have names := under (by simp [exportKeys] : "fileName" ∈ exportKeys)
  have ids := under (by simp [exportKeys] : "uniqueId" ∈ exportKeys)
  rw [tokensUnder_fileName_listing] at names
  rw [tokensUnder_uniqueId_listing] at ids
  rw [SettingsDraft.ofMembers?, sole_of_perm nameOf?_nameTokens names,
    sole_of_perm idOf?_idTokens ids]
  rfl

theorem legible_of_listed : Legible inner := by
  constructor
  · intro member isMember
    rcases List.mem_append.mp (arranged.mem_iff.mp isMember) with own | other
    · exact (readable_listing listed member own).1
    · exact (foreign member other).2
  · intro key known value first
    have given := mem_tokensUnder_iff.mp (List.mem_of_mem_head? first)
    rcases List.mem_append.mp (arranged.mem_iff.mp given) with own | other
    · exact (readable_listing listed _ own).2
    · exact absurd known (foreign _ other).1

end Listed

theorem allPassable_of_lists {listed : SettingsDraft} {members : TokenMembers}
    (lists : Lists listed members) : AllPassable members := by
  intro member isMember
  cases lists with
  | nothing foreign => exact (foreign member isMember).2
  | fields foreignInner arranged foreignOuter arrangedOuter =>
      rcases List.mem_cons.mp (arrangedOuter.mem_iff.mp isMember) with rfl | other
      · exact passable_objectTokens (legible_of_listed foreignInner arranged).passable
      · exact (foreignOuter member other).2

theorem ofText_of_lists {listed : SettingsDraft} {members : TokenMembers}
    (lists : Lists listed members) {text : String}
    (spelled : Spelled (objectTokens members) text.toList) :
    ofText text = .ok listed.settings := by
  have passable := allPassable_of_lists lists
  cases lists with
  | nothing foreign =>
      have absent := tokensUnder_of_foreign foreign (List.mem_singleton.mpr rfl)
      rw [ofText_eq passable (by simp [FirstLegible, absent]) spelled, absent]
      rfl
  | @fields _ inner others foreign _ foreignInner arranged foreignOuter arrangedOuter =>
      have legible := legible_of_listed foreignInner arranged
      have one : tokensUnder "export" members = [objectTokens inner] := by
        have absent := tokensUnder_of_foreign foreignOuter (List.mem_singleton.mpr rfl)
        have perm := tokensUnder_perm "export" arrangedOuter
        rw [tokensUnder_cons, if_pos rfl, absent] at perm
        exact List.perm_singleton.mp perm
      have first : FirstLegible members := firstLegible_of_head legible (by rw [one]; rfl)
      rw [ofText_eq passable first spelled, one, sole, exportOf?_objectTokens legible,
        ofMembers?_of_listed foreignInner arranged]
      rfl

/-! ## Documents that are refused -/

/-- Ways for the members of a document, or those of its export record, to list a field twice or with
a value of the wrong type. -/
inductive Flawed (members inner : TokenMembers) : Prop
  | twoExports (again : 1 < (members.map Prod.fst).count "export")
  | twoNames (again : 1 < (inner.map Prod.fst).count "fileName")
  | twoIds (again : 1 < (inner.map Prod.fst).count "uniqueId")
  | wrongName {value : List Token} (given : ("fileName", value) ∈ inner)
      (wrong : nameOf? value = none)
  | wrongId {value : List Token} (given : ("uniqueId", value) ∈ inner) (wrong : idOf? value = none)

theorem ofMembers?_of_name_refused {inner : TokenMembers}
    (refused : sole nameOf? (tokensUnder "fileName" inner) = none) :
    SettingsDraft.ofMembers? inner = none := by
  rw [SettingsDraft.ofMembers?, refused]
  rfl

theorem ofMembers?_of_id_refused {inner : TokenMembers}
    (refused : sole idOf? (tokensUnder "uniqueId" inner) = none) :
    SettingsDraft.ofMembers? inner = none := by
  rw [SettingsDraft.ofMembers?, refused]
  exact Option.bind_fun_none _

theorem sole_exportOf?_of_flawed {members inner : TokenMembers} (legible : Legible inner)
    (first : (tokensUnder "export" members).head? = some (objectTokens inner))
    (flawed : Flawed members inner) : sole exportOf? (tokensUnder "export" members) = none := by
  have given : objectTokens inner ∈ tokensUnder "export" members := List.mem_of_mem_head? first
  have refused (meaningless : SettingsDraft.ofMembers? inner = none) :
      sole exportOf? (tokensUnder "export" members) = none := by
    refine sole_of_meaningless given ?_
    rw [exportOf?_objectTokens legible, meaningless]
    rfl
  cases flawed with
  | twoExports again => exact sole_of_repeated _ (length_tokensUnder members ▸ again)
  | twoNames again =>
      exact refused (ofMembers?_of_name_refused
        (sole_of_repeated _ (length_tokensUnder inner ▸ again)))
  | twoIds again =>
      exact refused (ofMembers?_of_id_refused
        (sole_of_repeated _ (length_tokensUnder inner ▸ again)))
  | wrongName given wrong =>
      exact refused (ofMembers?_of_name_refused
        (sole_of_meaningless (mem_tokensUnder_iff.mpr given) wrong))
  | wrongId given wrong =>
      exact refused (ofMembers?_of_id_refused
        (sole_of_meaningless (mem_tokensUnder_iff.mpr given) wrong))

theorem ofText_of_flawed {members inner : TokenMembers} (passable : AllPassable members)
    (legible : Legible inner)
    (first : (tokensUnder "export" members).head? = some (objectTokens inner))
    (flawed : Flawed members inner) {text : String}
    (spelled : Spelled (objectTokens members) text.toList) : ofText text = .error .mismatch := by
  rw [ofText_eq passable (firstLegible_of_head legible first) spelled,
    sole_exportOf?_of_flawed legible first flawed]

/-! ### JSON texts that are refused

What stands in a JSON text can be read: its strings have their surrogates paired up, and its numbers
are within range.  So a flawed one is refused whatever else stands in it. -/

def tokenized (members : List (String × Json)) : TokenMembers :=
  members.map fun member => (member.1, member.2.tokens)

theorem tokensUnder_tokenized (key : String) (members : List (String × Json)) :
    tokensUnder key (tokenized members) = (valuesUnder key members).map tokens := by
  simp only [tokensUnder, valuesUnder, tokenized, List.filter_map, List.map_map]
  rfl

theorem allPassable_tokenized (members : List (String × Json)) : AllPassable (tokenized members) :=
  List.forall_mem_map.mpr fun member _ => passable_tokens member.2

theorem readable_tokens {depth : Nat} {json : Json} (fits : json.Fits depth) :
    Readable json.tokens := by
  cases json with
  | num n =>
      have held : n.inRange = true := within_num.mp fits
      simp [Readable, tokens, held]
  | _ => simp [Readable, tokens]

section JsonText
variable {text : String} {members inner : List (String × Json)} (isText : IsJson text (.obj members))
include isText

theorem legible_of_isJson (record : ("export", .obj inner) ∈ members) :
    Legible (tokenized inner) := by
  refine ⟨allPassable_tokenized inner, fun key _ value first => ?_⟩
  have given := mem_tokensUnder_iff.mp (List.mem_of_mem_head? first)
  obtain ⟨member, isMember, same⟩ := List.mem_map.mp given
  cases same
  exact readable_tokens (isText.2 _ record member isMember)

theorem ofText_of_flawed_json (first : (valuesUnder "export" members).head? = some (.obj inner))
    (flawed : Flawed (tokenized members) (tokenized inner)) : ofText text = .error .mismatch := by
  have record : ("export", .obj inner) ∈ members := by
    have given := List.mem_of_mem_head? first
    simpa [valuesUnder] using given
  have spelled : Spelled (objectTokens (tokenized members)) text.toList := by
    have written : Written (Json.obj members).tokens text.toList := isText.1
    rw [tokens_obj] at written
    exact written.spelled
  refine ofText_of_flawed (allPassable_tokenized members) (legible_of_isJson isText record) ?_
    flawed spelled
  rw [tokensUnder_tokenized, List.head?_map, first, Option.map_some, tokens_obj]
  rfl

end JsonText

/-! ## Settings that were written -/

theorem spelled_toText (settings : Settings) :
    Spelled (objectTokens [("export",
      objectTokens (listing ⟨some settings.fileName, some settings.uniqueId⟩))])
      settings.toText.toList := by
  have literal : settings.toJson.Within Numeral.WellFormed 2 := by
    cases settings with
    | mk fileName uniqueId =>
        cases uniqueId <;> simp [toJson, Within, natural, Numeral.wellFormed_ofUInt64]
  have written : Written settings.toJson.tokens settings.toText.toList := document_compact literal
  have same : settings.toJson.tokens = objectTokens [("export",
      objectTokens (listing ⟨some settings.fileName, some settings.uniqueId⟩))] := by
    rw [toJson, tokens_obj, List.map_singleton, tokens_obj]
    cases settings.uniqueId <;> rfl
  rw [same] at written
  exact written.spelled

theorem ofText_toText (settings : Settings) : ofText settings.toText = .ok settings := by
  have nothing (keys : List String) : Foreign keys [] := by simp [Foreign]
  have lists : Lists ⟨some settings.fileName, some settings.uniqueId⟩ [("export",
      objectTokens (listing ⟨some settings.fileName, some settings.uniqueId⟩))] :=
    .fields (nothing exportKeys) (.of_eq (List.append_nil _).symm) (nothing _) (List.Perm.refl _)
  exact ofText_of_lists lists settings.spelled_toText

end Settings

namespace Console

theorem loadSettings_of_holds {files : FileReader} {path text : String}
    (holds : HoldsText files path text) : loadSettings files path =
      match Settings.ofText text with
      | .ok settings => .ok settings
      | .error fault => .error (.json fault) := by
  rw [loadSettings, settingsOf, textOf_eq_ok_iff.mpr holds]
  rfl

end Console

open Console Settings

/-- Settings that were written are loaded again.  A document that lists some of the fields replaces
just these, among foreign members of any kind.  A flawed document is refused, if its record is
`Legible`, that is, if it can be passed over and the first value of each field be read.  A record in
a JSON text always is (`legible_of_isJson`). -/
theorem settings_overlay (files : FileReader) (path : String) :
    (∀ settings : Settings, HoldsText files path settings.toText →
      loadSettings files path = .ok settings) ∧
    (∀ listed members text, Lists listed members → Spelled (objectTokens members) text.toList →
      HoldsText files path text →
      loadSettings files path = .ok
        { fileName := listed.fileName.getD "lightshow.fseq"
          uniqueId := listed.uniqueId.getD none }) ∧
    ∀ members inner text, AllPassable members → Legible inner →
      (tokensUnder "export" members).head? = some (objectTokens inner) → Flawed members inner →
      Spelled (objectTokens members) text.toList → HoldsText files path text →
      loadSettings files path = .error (.json .mismatch) := by
  refine ⟨fun settings holds => ?_, fun listed members text lists spelled holds => ?_,
    fun members inner text passable legible first flawed spelled holds => ?_⟩
  · rw [loadSettings_of_holds holds, ofText_toText]
  · rw [loadSettings_of_holds holds, ofText_of_lists lists spelled]
    rfl
  · rw [loadSettings_of_holds holds, ofText_of_flawed passable legible first flawed spelled]

def shelf (text : String) : FileReader := fun _ => .ok text.toUTF8.data.toList

def dusk : Settings := { fileName := "dusk \"1\"\n\u2603.fseq" }

/-- One field behind a foreign member that could not be read, and a foreign one that bears the name of
the other field. -/
def dawnText : String :=
  "\x7b\"note\": 1e999,\n \"export\": \x7b\"theme\": [\"\\udc00\", \x7b\x7d], \"uniqueId\": 7, \"theme\":null\x7d,\n"
    ++ " \"fileName\": \"day.fseq\"\x7d"

def dawnTheme : List Token :=
  [.opening .square, .str none, .comma, .opening .curly, .closing .curly, .closing .square]

def dawnExport : TokenMembers :=
  [("theme", dawnTheme), ("uniqueId", idTokens (some 7)), ("theme", [.null])]

def hugeNumeral : Numeral := ⟨false, Digit.ofNat 1, [], some (.ofNat 999)⟩

def dawn : TokenMembers :=
  [("note", [.num hugeNumeral]), ("export", objectTokens dawnExport),
    ("fileName", nameTokens "day.fseq")]

/-- The id twice, and the second time not even as a string. -/
def twiceText : String := "\x7b\"export\": \x7b\"uniqueId\": 7, \"uniqueId\": \"\\udc00\"\x7d\x7d"

def twiceExport : TokenMembers := [("uniqueId", idTokens (some 7)), ("uniqueId", [.str none])]

def twice : TokenMembers := [("export", objectTokens twiceExport)]

theorem settings_overlay_on_shelf :
    loadSettings (shelf dusk.toText) "dusk.json" = .ok dusk ∧
    (Lists ⟨none, some (some 7)⟩ dawn ∧ Spelled (objectTokens dawn) dawnText.toList ∧
      loadSettings (shelf dawnText) "dawn.json" = .ok ⟨"lightshow.fseq", some 7⟩) ∧
    (AllPassable twice ∧ Legible twiceExport ∧ Flawed twice twiceExport ∧
      Spelled (objectTokens twice) twiceText.toList ∧
      loadSettings (shelf twiceText) "twice.json" = .error (.json .mismatch)) := by
  have theme : Passable .value dawnTheme := .arr (.item (.str none) (.lastItem .noMembers))
  have foreignInner : Foreign exportKeys [("theme", dawnTheme), ("theme", [.null])] := by
    simp [Foreign, exportKeys, theme, Passable.null]
  have foreignOuter : Foreign ["export"]
      [("note", [.num hugeNumeral]), ("fileName", nameTokens "day.fseq")] := by
    simp [Foreign, nameTokens, Passable.num, Passable.str]
  have lists : Lists ⟨none, some (some 7)⟩ dawn :=
    .fields foreignInner (.swap _ _ _) foreignOuter (.swap _ _ _)
  have passable := passable_objectTokens (allPassable_of_lists lists)
  have spelled : Spelled (objectTokens dawn) dawnText.toList :=
    (lex_eq_iff_spelled passable _).mp (by decide +kernel)
  have ids : AllPassable twiceExport := by
    simp [AllPassable, twiceExport, idTokens, Passable.num, Passable.str]
  have legible : Legible twiceExport := by
    refine ⟨ids, ?_⟩
    simp [exportKeys, twiceExport, idTokens, Readable, Numeral.inRange_ofUInt64]
  have passableTwice : AllPassable twice := by
    simp [AllPassable, twice, passable_objectTokens ids]
  have flawed : Flawed twice twiceExport := .twoIds (by decide)
  have spelledTwice : Spelled (objectTokens twice) twiceText.toList :=
    (lex_eq_iff_spelled (passable_objectTokens passableTwice) _).mp (by decide +kernel)
  refine ⟨(settings_overlay (shelf dusk.toText) "dusk.json").1 dusk rfl, ⟨lists, spelled, ?_⟩,
    passableTwice, legible, flawed, spelledTwice, ?_⟩
  · exact (settings_overlay (shelf dawnText) "dawn.json").2.1 _ dawn dawnText lists spelled rfl
  · exact (settings_overlay (shelf twiceText) "twice.json").2.2 twice twiceExport twiceText
      passableTwice legible rfl flawed spelledTwice rfl

end VehicleShow
