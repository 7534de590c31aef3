import VehicleShow.Json.Printer
import VehicleShow.Json.Reader

/-! # Settings

What an export is to be called and which id it carries.  The document has one member, `export`,
that holds both; each of the two levels may also be a list of its values in order.  What is left out
takes its default, and foreign members are skipped. -/
set_option autoImplicit false
namespace VehicleShow

structure Settings where
  fileName : String := "lightshow.fseq"
  uniqueId : Option UInt64 := none
  deriving DecidableEq, Repr

structure SettingsDraft where
  fileName : Option String := none
  uniqueId : Option (Option UInt64) := none

namespace SettingsDraft

open Json (Reader)

def settings (draft : SettingsDraft) : Settings :=
  let preset : Settings := {}
  ⟨draft.fileName.getD preset.fileName, draft.uniqueId.getD preset.uniqueId⟩

def readFileName (draft : SettingsDraft) : Reader SettingsDraft := fun tokens => do
  let (name, rest) ← Reader.string tokens
  .ok ({ draft with fileName := some name }, rest)

def readUniqueId (draft : SettingsDraft) : Reader SettingsDraft := fun tokens => do
  let (id, rest) ← Reader.nullable Reader.uint64 tokens
  .ok ({ draft with uniqueId := some id }, rest)

def skipMember {σ : Type} (state : σ) : Reader σ := fun tokens => do
  let ((), rest) ← Reader.field Reader.skip tokens
  .ok (state, rest)

/-- Reads a member of the export record from its colon on. A key may be given once. -/
def step (draft : SettingsDraft) (key : String) : Reader SettingsDraft :=
  match key with
  | "fileName" =>
      if draft.fileName.isSome then fun _ => .error .mismatch
      else Reader.field draft.readFileName
  | "uniqueId" =>
      if draft.uniqueId.isSome then fun _ => .error .mismatch
      else Reader.field draft.readUniqueId
  | _ => skipMember draft

def reader : Reader SettingsDraft := Reader.record step [readFileName, readUniqueId] {}

end SettingsDraft

namespace Settings

open Json (Reader)

def readExport (_ : Option Settings) : Reader (Option Settings) := fun tokens => do
  let (draft, rest) ← SettingsDraft.reader tokens
  .ok (some draft.settings, rest)

def step (found : Option Settings) (key : String) : Reader (Option Settings) :=
  match key with
  | "export" =>
      if found.isSome then fun _ => .error .mismatch else Reader.field (readExport found)
  | _ => SettingsDraft.skipMember found

def reader : Reader Settings := fun tokens => do
  let (found, rest) ← Reader.record step [readExport] none tokens
  .ok (found.getD {}, rest)

def ofText (text : String) : Except Json.Fault Settings :=
  Reader.complete reader (Json.lex text.toList)

def toJson (settings : Settings) : Json :=
  .obj [("export", .obj [("fileName", .str settings.fileName),
    ("uniqueId", (settings.uniqueId.map Json.natural).getD .null)])]

def toText (settings : Settings) : String := settings.toJson.compact

def resolveId (settings : Settings) (clockMs : UInt64) : UInt64 :=
  settings.uniqueId.getD clockMs

end Settings
end VehicleShow
