import Wakeup.Plan
import Wakeup.Proofs.Calendar.Timestamps
import Wakeup.Proofs.Json.Records
import Wakeup.Proofs.Plan.Durations
import Wakeup.Trigger

/-! Requests, triggers and plans are read back from the text that is written of them. -/
namespace Wakeup

open Json

theorem Tagged.restores (p : Purpose) : Restores (Tagged.toJson (p := p)) Tagged.ofJson? where
  isLegible t := isLegible_ofString t.text
  read_write _ := rfl

/-- A text is never written as null. -/
theorem Tagged.restores_option (p : Purpose) :
    Restores (ofOption (Tagged.toJson (p := p))) (toOption? Tagged.ofJson?) :=
  Json.restores_option (Tagged.restores p) nofun

theorem Duration.restores : Restores Duration.toJson Duration.ofJson? where
  isLegible d := isLegible_record (by simp [isLegible_ofInt])
  read_write d := by
    have hrecord : d.toJson.record? true ["secs", "nanos"] =
        some [ofInt d.seconds, ofInt d.subsecond] := record?_record true _ (by simp)
    rw [ofJson?, hrecord]
    simp only [Option.bind_eq_bind, Option.bind_some]
    rw [toUInt64?_ofInt d.seconds_lt, Option.bind_some, toUInt32?_ofInt d.subsecond_lt,
      Option.bind_some, d.ofParts?_seconds_subsecond]

theorem TriggerIds.restores : Restores TriggerIds.toJson TriggerIds.ofJson? where
  isLegible ids := isLegible_record (by simp [(Tagged.restores _).isLegible])
  read_write ids := by
    have hrecord : ids.toJson.record? false ["rule_name", "target_id"] =
        some [ids.ruleName.toJson, ids.targetId.toJson] := record?_record false _ (by simp)
    simp only [ofJson?, hrecord, (Tagged.restores _).read_write, Option.bind_eq_bind,
      Option.bind_some]
    rfl

theorem Schedule.restores : Restores Schedule.toJson Schedule.ofJson? where
  isLegible s := isLegible_record (by simp [isLegible_ofInt])
  read_write s := by
    have hrecord : s.toJson.record? false ["minute", "hour", "day", "month", "year"] =
        some [ofInt s.minute.toNat, ofInt s.hour.toNat, ofInt s.day.toNat, ofInt s.month.toNat,
          ofInt s.year.toInt] := record?_record false _ (by simp)
    simp only [ofJson?, hrecord, restores_uint32.read_write, restores_int32.read_write,
      Option.bind_eq_bind, Option.bind_some]
    rfl

theorem Trigger.restores : Restores Trigger.toJson Trigger.ofJson? where
  isLegible t := isLegible_record (by
    simp [TriggerIds.restores.isLegible, Schedule.restores.isLegible, isLegible_ofString,
      (Tagged.restores _).isLegible])
  read_write t := by
    have hrecord : t.toJson.record? false ["ids", "schedule", "destination", "payload"] =
        some [t.ids.toJson, t.schedule.toJson, ofString t.destination, t.payload.toJson] :=
      record?_record false _ (by simp)
    simp only [ofJson?, hrecord, TriggerIds.restores.read_write, Schedule.restores.read_write,
      toText?_ofString, (Tagged.restores _).read_write, Option.bind_eq_bind, Option.bind_some]
    rfl

theorem Request.restores : Restores Request.toJson Request.ofJson? where
  isLegible r := isLegible_record (by
    simp [isLegible_ofString, isLegible_ofInt, (Tagged.restores _).isLegible,
      (Tagged.restores_option _).isLegible])
  read_write r := by
    have hfields : r.toJson.fields? false [{ names := ["target"] }, { names := ["delay_minutes"] },
        { names := ["payload"] }, { names := ["base_time"] }, { names := ["request_token"] },
        { names := ["rule_name"], presence := .nullable },
        { names := ["target_id"], presence := .nullable }] =
      some [some (ofString r.destination), some (ofInt r.delayMinutes.toInt),
        some r.payload.toJson, some (ofString (String.ofList r.base.spell)), some r.token.toJson,
        some (ofOption Tagged.toJson r.ruleName), some (ofOption Tagged.toJson r.targetId)] :=
      fields?_record false (by simp) rfl
    simp only [ofJson?, hfields, toText?_ofString, restores_int64.read_write,
      (Tagged.restores _).read_write, (Tagged.restores_option _).read_write,
      Instant.parse?_spell, Option.getD_some, Option.bind_eq_bind, Option.bind_some]
    rfl

theorem Plan.restores : Restores Plan.toJson Plan.ofJson? where
  isLegible p := by
    cases p with
    | wait d => exact isLegible_record (by simp [isLegible_record, Duration.restores.isLegible])
    | remote m => exact isLegible_record (by simp [isLegible_record, isLegible_ofInt])
  read_write p := by
    cases p with
    | wait d =>
      have hvariant : (wait d).toJson.variant? = some ("Local", record [("wait", d.toJson)]) := rfl
      have hrecord : (record [("wait", d.toJson)]).record? false ["wait"] = some [d.toJson] :=
        record?_record false _ (by simp)
      simp only [ofJson?, hvariant, hrecord, Duration.restores.read_write, Option.bind_eq_bind,
        Option.bind_some]
      rfl
    | remote m =>
      have hvariant : (remote m).toJson.variant? =
          some ("Remote", record [("delay_minutes", ofInt m.toInt)]) := rfl
      have hrecord : (record [("delay_minutes", ofInt m.toInt)]).record? false
          ["delay_minutes"] = some [ofInt m.toInt] := record?_record false _ (by simp)
      simp only [ofJson?, hvariant, hrecord, restores_int64.read_write, Option.bind_eq_bind,
        Option.bind_some]
      rfl

/-- Nothing is lost in writing: what is read back from the text of a request, of a trigger or of a
plan is equal to it. -/
theorem parse?_render_toJson :
    (∀ r : Request, (parse? r.toJson.render).bind Request.ofJson? = some r) ∧
    (∀ t : Trigger, (parse? t.toJson.render).bind Trigger.ofJson? = some t) ∧
    ∀ p : Plan, (parse? p.toJson.render).bind Plan.ofJson? = some p :=
  ⟨Request.restores.parse, Trigger.restores.parse, Plan.restores.parse⟩

end Wakeup
