import BarDaemon.AgendaStore
import BarDaemon.CompactJsonDocuments

/-!
# Requests of the agenda are told apart by their text

The text that is fingerprinted determines the request it was written for.
-/

namespace BarDaemon.Agendas

open CompactJson CompactJson.Json

theorem faithful_optionalText : Faithful optionalText :=
  faithful_str.option (by simp [signed])

theorem faithful_optionalInstant : Faithful optionalInstant := by
  apply Faithful.option
  · exact faithful_int.comp Subtype.val_injective
  · simp [signed]

theorem faithful_itemKind : Faithful ItemKind.toJson := by
  intro first second same
  cases first <;> cases second <;> simp_all [ItemKind.toJson, signed]

theorem faithful_scheduleMode : Faithful ScheduleMode.toJson := by
  intro first second same
  cases first <;> cases second <;> simp_all [ScheduleMode.toJson, signed]

theorem faithful_schedule : Faithful Schedule.toJson := by
  intro first second same
  simp only [Schedule.toJson, signed, signedFields, Json.obj.injEq,
    List.cons.injEq, Prod.mk.injEq, true_and, and_true] at same
  obtain ⟨mode, startDate, endDate, start, stop, zone⟩ := same
  cases first
  cases second
  rw [Schedule.mk.injEq]
  exact ⟨faithful_scheduleMode _ _ mode, faithful_optionalText _ _ startDate,
    faithful_optionalText _ _ endDate, faithful_optionalInstant _ _ start,
    faithful_optionalInstant _ _ stop, faithful_optionalText _ _ zone⟩

theorem faithful_link : Faithful Link.toJson := by
  intro first second same
  cases first
  cases second
  simpa [Link.toJson, signed, signedFields] using same

theorem faithful_links : Faithful linksJson :=
  faithful_link.list

theorem faithful_checklistStep : Faithful ChecklistStep.toJson := by
  intro first second same
  cases first
  cases second
  simpa [ChecklistStep.toJson, signed, signedFields] using same

theorem faithful_eventDetails : Faithful EventDetails.toJson := by
  intro first second same
  simp only [EventDetails.toJson, signed, signedFields, Json.obj.injEq,
    List.cons.injEq, Prod.mk.injEq, true_and, and_true, Json.str.injEq] at same
  obtain ⟨location, people, status⟩ := same
  cases first
  cases second
  rw [EventDetails.mk.injEq]
  exact ⟨location, faithful_str.list _ _ (by rw [signed, people, signed]),
    status⟩

theorem faithful_taskDetails : Faithful TaskDetails.toJson := by
  intro first second same
  simp only [TaskDetails.toJson, signed, signedFields, Json.obj.injEq,
    List.cons.injEq, Prod.mk.injEq, true_and, and_true, Json.str.injEq,
    Json.bool.injEq, Json.int.injEq] at same
  obtain ⟨priority, status, completed, instant, checklist⟩ := same
  cases first
  cases second
  rw [TaskDetails.mk.injEq]
  exact ⟨Subtype.ext priority, status, completed,
    faithful_optionalInstant _ _ instant,
    faithful_checklistStep.list _ _ (by rw [signed, checklist, signed])⟩

theorem faithful_newItem : Faithful NewItem.toJson := by
  intro first second same
  simp only [NewItem.toJson, signed, signedFields, Json.obj.injEq,
    List.cons.injEq, Prod.mk.injEq, true_and, and_true, Json.str.injEq] at same
  obtain ⟨kind, title, notes, links, schedule, event, task⟩ := same
  cases first
  cases second
  rw [NewItem.mk.injEq]
  exact ⟨faithful_itemKind _ _ kind, title, notes, faithful_links _ _ links,
    faithful_schedule _ _ schedule,
    faithful_eventDetails.option (by simp [EventDetails.toJson, signed]) _ _
      event,
    faithful_taskDetails.option (by simp [TaskDetails.toJson, signed]) _ _
      task⟩

theorem faithful_itemPatch : Faithful ItemPatch.toJson := by
  intro first second same
  simp only [ItemPatch.toJson, signed, signedFields, Json.obj.injEq,
    List.cons.injEq, Prod.mk.injEq, true_and, and_true] at same
  obtain ⟨title, notes, links, schedule, event, task⟩ := same
  cases first
  cases second
  rw [ItemPatch.mk.injEq]
  exact ⟨faithful_optionalText _ _ title, faithful_optionalText _ _ notes,
    faithful_links.option (by simp [linksJson, signed]) _ _ links,
    faithful_schedule.option (by simp [Schedule.toJson, signed]) _ _ schedule,
    faithful_eventDetails.option (by simp [EventDetails.toJson, signed]) _ _
      event,
    faithful_taskDetails.option (by simp [TaskDetails.toJson, signed]) _ _
      task⟩

/-- Requests with one text are one request. -/
theorem faithful_mutation : Faithful Mutation.toJson := by
  intro first second same
  cases first <;> cases second <;>
    simp only [Mutation.toJson, signed, signedFields, Json.obj.injEq,
      List.cons.injEq, Prod.mk.injEq, true_and, and_true, Json.str.injEq,
      Json.int.injEq, String.reduceEq, false_and, reduceCtorEq] at same
  · obtain ⟨request, item⟩ := same
    rw [request, faithful_newItem _ _ item]
  · obtain ⟨request, id, revision, patch⟩ := same
    rw [request, id, Subtype.ext (Int.ofNat_inj.mp revision),
      faithful_itemPatch _ _ patch]
  · obtain ⟨request, id, revision⟩ := same
    rw [request, id, Subtype.ext (Int.ofNat_inj.mp revision)]

end BarDaemon.Agendas
