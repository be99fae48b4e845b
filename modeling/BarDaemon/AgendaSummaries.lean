import BarDaemon.AgendaRecords

/-!
# Sizes of agenda summaries

A record that is accepted has a small summary, whatever its notes, links,
people and steps are.
-/

namespace BarDaemon.Agendas

open CompactJson FallibleSteps

/-! ## Accepted records -/

/-- A record that validates. An import takes the revision of its catalog after
that. -/
def Record.Accepted (calendar : Calendar) (item : Record) : Prop :=
  ∃ revision, { item with revision }.validate calendar = .ok ()

theorem byteLength_of_bounded {value name : String} {max : Nat} {done : Unit}
    (checked : bounded value max name = .ok done) : byteLength value ≤ max := by
  have holds := ensure_eq_ok_iff.mp checked
  exact of_decide_eq_true (Bool.and_eq_true_iff.mp holds).1

theorem byteLength_of_identifier {value : String} {done : Unit}
    (checked : identifier value = .ok done) : byteLength value ≤ 512 := by
  obtain ⟨_, first, _⟩ := bind_eq_ok_iff.mp checked
  exact byteLength_of_bounded first

/-- The texts of an optional value are bounded. -/
def OptionFits (value : Option String) (max : Nat) : Prop :=
  ∀ text, value = some text → byteLength text ≤ max

theorem optionFits_of_isNone {value : Option String} (absent : value.isNone = true)
    (max : Nat) : OptionFits value max := by
  rintro text rfl
  cases absent

variable {calendar : Calendar}

theorem optionFits_of_whenSome {value : Option String}
    {check : String → Except String Unit} {max : Nat} {done : Unit}
    (checked : whenSome value check = .ok done)
    (fits : ∀ text, check text = .ok done → byteLength text ≤ max) :
    OptionFits value max := by
  rintro text rfl
  exact fits text checked

theorem byteLength_of_checkCivilDate {value : String} {done : Unit}
    (checked : checkCivilDate calendar value = .ok done) :
    byteLength value ≤ 10 := by
  have holds := ensure_eq_ok_iff.mp checked
  exact (eq_of_beq (Bool.and_eq_true_iff.mp holds).1).le

/-- The bounded texts of a schedule. -/
structure Schedule.Small (schedule : Schedule) : Prop where
  startDate : OptionFits schedule.startDate 10
  endDate : OptionFits schedule.endDate 10
  timezone : OptionFits schedule.timezone 128

theorem Schedule.small_of_validate {schedule : Schedule} {allowInstant : Bool}
    {done : Unit}
    (valid : schedule.validate calendar allowInstant = .ok done) :
    schedule.Small := by
  rw [Schedule.validate] at valid
  split at valid
  · obtain ⟨untimed, valid⟩ := ensure_then_eq_ok_iff.mp valid
    obtain ⟨_, first, valid⟩ := bind_eq_ok_iff.mp valid
    obtain ⟨_, last, _⟩ := bind_eq_ok_iff.mp valid
    exact ⟨optionFits_of_whenSome first fun _ => byteLength_of_checkCivilDate,
      optionFits_of_whenSome last fun _ => byteLength_of_checkCivilDate,
      optionFits_of_isNone (Bool.and_eq_true_iff.mp untimed).2 _⟩
  · obtain ⟨_, zone, valid⟩ := bind_eq_ok_iff.mp valid
    obtain ⟨undated, _⟩ := ensure_then_eq_ok_iff.mp valid
    obtain ⟨first, last⟩ := Bool.and_eq_true_iff.mp undated
    exact ⟨optionFits_of_isNone first _, optionFits_of_isNone last _,
      optionFits_of_whenSome zone fun _ => byteLength_of_bounded⟩

/-- The bounded texts of the summary of a record. -/
structure Record.Small (item : Record) : Prop where
  id : byteLength item.id ≤ 512
  sourceId : byteLength item.sourceId ≤ 512
  sourceUid : OptionFits item.sourceUid 512
  title : byteLength item.title ≤ 4096
  schedule : item.schedule.Small
  event : ∀ event, item.event = some event →
    byteLength event.status ≤ 128 ∧ byteLength event.location ≤ 8192
  task : ∀ task, item.task = some task → byteLength task.status ≤ 128

theorem Record.small_details {item : Record} {done : Unit}
    (valid : item.validateDetails = .ok done) :
    (∀ event, item.event = some event →
      byteLength event.status ≤ 128 ∧ byteLength event.location ≤ 8192) ∧
    ∀ task, item.task = some task → byteLength task.status ≤ 128 := by
  rw [Record.validateDetails] at valid
  split at valid
  · obtain ⟨_, valid⟩ := ensure_then_eq_ok_iff.mp valid
    obtain ⟨noTask, valid⟩ := ensure_then_eq_ok_iff.mp valid
    constructor
    · intro event same
      rw [same] at valid
      obtain ⟨_, location, valid⟩ := bind_eq_ok_iff.mp valid
      obtain ⟨_, status, _⟩ := bind_eq_ok_iff.mp valid
      exact ⟨byteLength_of_bounded status, byteLength_of_bounded location⟩
    · intro task same
      rw [same] at noTask
      cases noTask
  · obtain ⟨noEvent, valid⟩ := ensure_then_eq_ok_iff.mp valid
    constructor
    · intro event same
      rw [same] at noEvent
      cases noEvent
    · intro task same
      rw [same] at valid
      obtain ⟨_, status, _⟩ := bind_eq_ok_iff.mp valid
      exact byteLength_of_bounded status

theorem Record.Accepted.small {item : Record} (accepted : item.Accepted calendar) :
    item.Small := by
  obtain ⟨revision, valid⟩ := accepted
  rw [Record.validate] at valid
  obtain ⟨_, id, valid⟩ := bind_eq_ok_iff.mp valid
  obtain ⟨_, sourceId, valid⟩ := bind_eq_ok_iff.mp valid
  obtain ⟨_, valid⟩ := ensure_then_eq_ok_iff.mp valid
  obtain ⟨_, title, valid⟩ := bind_eq_ok_iff.mp valid
  obtain ⟨_, valid⟩ := ensure_then_eq_ok_iff.mp valid
  obtain ⟨_, _, valid⟩ := bind_eq_ok_iff.mp valid
  obtain ⟨_, sourceUid, valid⟩ := bind_eq_ok_iff.mp valid
  obtain ⟨_, schedule, valid⟩ := bind_eq_ok_iff.mp valid
  obtain ⟨_, valid⟩ := ensure_then_eq_ok_iff.mp valid
  obtain ⟨_, _, valid⟩ := bind_eq_ok_iff.mp valid
  obtain ⟨_, details, _⟩ := bind_eq_ok_iff.mp valid
  obtain ⟨event, task⟩ := Record.small_details details
  constructor
  · exact byteLength_of_identifier id
  · exact byteLength_of_identifier sourceId
  · exact optionFits_of_whenSome sourceUid fun _ => byteLength_of_identifier
  · exact byteLength_of_bounded title
  · exact Schedule.small_of_validate schedule
  · exact event
  · exact task

/-! ## Summaries -/

theorem size_optionalText_le {value : Option String} {max : Nat}
    (fits : OptionFits value max) : (optionalText value).size ≤ 6 * max + 4 := by
  cases value with
  | none => exact Nat.le_trans (by decide : Json.null.size ≤ 4) (Nat.le_add_left _ _)
  | some text =>
      have bound := fits text rfl
      have size := Json.size_str_le text
      change (Json.str text).size ≤ _
      omega

theorem size_optionalInstant_le (value : Option I64) :
    (optionalInstant value).size ≤ 20 := by
  cases value with
  | none => decide
  | some instant => exact Json.size_int_le instant

theorem Schedule.Small.size_le {schedule : Schedule} (small : schedule.Small) :
    schedule.toJson.size ≤ 4802 := by
  have mode : schedule.mode.toJson.size ≤ 772 := by
    cases schedule.mode <;> decide
  have first := size_optionalText_le small.startDate
  have last := size_optionalText_le small.endDate
  have zone := size_optionalText_le small.timezone
  have start := size_optionalInstant_le schedule.startUnixMs
  have stop := size_optionalInstant_le schedule.endUnixMs
  have member {name : String} {value : Json}
      (named : (Json.str name).size ≤ 16) (fits : value.size ≤ 772) :
      Json.memberSize (name, value) ≤ 800 :=
    (Json.memberSize_le named fits).trans (by decide)
  have all : schedule.toJson.size ≤ 6 * 800 + 2 := by
    apply Json.size_obj_le_of_forall
    simp only [List.forall_mem_cons]
    exact ⟨member (by decide) mode, member (by decide) (by omega),
      member (by decide) (by omega), member (by decide) (by omega),
      member (by decide) (by omega), member (by decide) (by omega),
      fun _ never => (List.not_mem_nil never).elim⟩
  omega

theorem Capabilities.size_le (capabilities : Capabilities) :
    capabilities.toJson.size ≤ 62 := by
  obtain ⟨write, delete, complete⟩ := capabilities
  cases write <;> cases delete <;> cases complete <;> decide

theorem size_eventSummary_le {event : EventSummary}
    (status : byteLength event.status ≤ 128)
    (location : byteLength event.location ≤ 8192) :
    event.toJson.size ≤ 98402 := by
  have first := Json.size_str_le event.status
  have second := Json.size_str_le event.location
  have member {name : String} {value : Json}
      (named : (Json.str name).size ≤ 10) (fits : value.size ≤ 49154) :
      Json.memberSize (name, value) ≤ 49200 :=
    (Json.memberSize_le named fits).trans (by decide)
  have all : event.toJson.size ≤ 2 * 49200 + 2 := by
    apply Json.size_obj_le_of_forall
    simp only [List.forall_mem_cons]
    exact ⟨member (by decide) (by omega), member (by decide) (by omega),
      fun _ never => (List.not_mem_nil never).elim⟩
  omega

theorem size_taskSummary_le {task : TaskSummary}
    (status : byteLength task.status ≤ 128) : task.toJson.size ≤ 3202 := by
  have text := Json.size_str_le task.status
  have priority := Json.size_int_le task.priority
  have completed := Json.size_bool_le task.completed
  have instant := size_optionalInstant_le task.completedUnixMs
  have member {name : String} {value : Json}
      (named : (Json.str name).size ≤ 19) (fits : value.size ≤ 770) :
      Json.memberSize (name, value) ≤ 800 :=
    (Json.memberSize_le named fits).trans (by decide)
  have all : task.toJson.size ≤ 4 * 800 + 2 := by
    apply Json.size_obj_le_of_forall
    simp only [List.forall_mem_cons]
    exact ⟨member (by decide) (by omega), member (by decide) (by omega),
      member (by decide) (by omega), member (by decide) (by omega),
      fun _ never => (List.not_mem_nil never).elim⟩
  omega

theorem size_ofOption_le {Value : Type} {encode : Value → Json}
    {value : Option Value} {bound : Nat} (positive : 4 ≤ bound)
    (fits : ∀ some_, value = some some_ → (encode some_).size ≤ bound) :
    (Json.ofOption encode value).size ≤ bound := by
  cases value with
  | none => exact Nat.le_trans (by decide : Json.null.size ≤ 4) positive
  | some some_ => exact fits some_ rfl

/-- The summary of a record takes a small part of a page. -/
theorem Record.Small.size_summary_le {item : Record} (small : item.Small) :
    (Summary.ofRecord item).toJson.size ≤ 1300000 := by
  have id := Json.size_str_le item.id
  have idFits := small.id
  have kind : item.kind.toJson.size ≤ 7 := by
    cases item.kind <;> decide
  have sourceId := Json.size_str_le item.sourceId
  have sourceFits := small.sourceId
  have sourceUid := size_optionalText_le small.sourceUid
  have revision := Json.size_nat_le item.revision
  have title := Json.size_str_le item.title
  have titleFits := small.title
  have schedule := small.schedule.size_le
  have created := Json.size_int_le item.createdUnixMs
  have modified := Json.size_int_le item.modifiedUnixMs
  have capabilities := item.capabilities.size_le
  have event : (Json.ofOption EventSummary.toJson
      (Summary.ofRecord item).event).size ≤ 98402 := by
    apply size_ofOption_le (by decide)
    intro event same
    obtain ⟨details, found, rfl⟩ := Option.map_eq_some_iff.mp same
    obtain ⟨status, location⟩ := small.event details found
    exact size_eventSummary_le status location
  have task : (Json.ofOption TaskSummary.toJson
      (Summary.ofRecord item).task).size ≤ 98402 := by
    apply size_ofOption_le (by decide)
    intro task same
    obtain ⟨details, found, rfl⟩ := Option.map_eq_some_iff.mp same
    exact (size_taskSummary_le (small.task details found)).trans (by decide)
  have member {name : String} {value : Json}
      (named : (Json.str name).size ≤ 18) (fits : value.size ≤ 98402) :
      Json.memberSize (name, value) ≤ 98422 :=
    (Json.memberSize_le named fits).trans (by decide)
  have all : (Summary.ofRecord item).toJson.size ≤ 13 * 98422 + 2 := by
    apply Json.size_obj_le_of_forall
    simp only [List.forall_mem_cons]
    exact ⟨member (by decide) ((Json.size_bool_le true).trans (by decide)),
      member (by decide) (id.trans (by omega)),
      member (by decide) (kind.trans (by decide)),
      member (by decide) (sourceId.trans (by omega)),
      member (by decide) (sourceUid.trans (by decide)),
      member (by decide) (revision.trans (by decide)),
      member (by decide) (title.trans (by omega)),
      member (by decide) (schedule.trans (by decide)),
      member (by decide) (created.trans (by decide)),
      member (by decide) (modified.trans (by decide)),
      member (by decide) (capabilities.trans (by decide)),
      member (by decide) event, member (by decide) task,
      fun _ never => (List.not_mem_nil never).elim⟩
  omega

end BarDaemon.Agendas
