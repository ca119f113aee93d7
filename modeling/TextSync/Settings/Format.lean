import TextSync.Settings
import TextSync.Wire.Record

/-!
The written form of settings. What is left out has its standard value.
-/

namespace TextSync

open Wire

namespace Settings

/-- The object as which a `BindingConfig` is serialized. -/
def toJson (s : Settings) : Json :=
  .obj [Json.member "poll_period_ms" (.int s.pollPeriod),
    Json.member "event_capacity" (.int s.eventCapacity)]

/-- The fields read so far. -/
structure Draft where
  pollPeriod : Option Nat := none
  eventCapacity : Option Nat := none

/-- How a `BindingConfig` is deserialized: what is left out is as in its `Default`. -/
def record : Record Draft Settings where
  title := "struct BindingConfig"
  fields := [
    .stored "poll_period_ms" true Draft.pollPeriod
      (fun d period => { d with pollPeriod := some period })
      (.unsigned "u64"),
    .stored "event_capacity" true Draft.eventCapacity
      (fun d capacity => { d with eventCapacity := some capacity }) .offset]
  blank := {}
  complete draft :=
    let standard : Settings := {}
    .ok ⟨draft.pollPeriod.getD standard.pollPeriod, draft.eventCapacity.getD standard.eventCapacity⟩

/-- Settings from their written form, valid or not. -/
def decode : Decoder Settings := record.decode

/-- Why a text gives no settings: a `Parse` of `ConfigError`, or what `validate` finds. -/
inductive TextFault where
  | unreadable (fault : Wire.Fault)
  | invalid (fault : Fault)
deriving DecidableEq, Repr

/-- Settings from a text, which must be valid as well (`BindingConfig::from_json`). -/
def ofText (s : Text) : Except TextFault Settings :=
  match decodeText decode s with
  | .error fault => .error (.unreadable fault)
  | .ok settings =>
    match settings.fault? with
    | some fault => .error (.invalid fault)
    | none => .ok settings

end Settings

end TextSync
