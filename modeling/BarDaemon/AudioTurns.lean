import BarDaemon.AudioCoalescing

/-!
# Turns of the audio thread

The thread answers every command once, and it leaves the devices as if the
commands had been executed one by one, exactly when its first adjustments do.
-/

namespace BarDaemon.Audio

variable {Sender : Type}

/-! ### Batches in turn -/

namespace Controller

/-- The commands of the next batch. -/
def next (controller : Controller Sender) : List (Pending Sender) :=
  match controller.remaining with
  | [] => []
  | (first, _) :: _ =>
      controller.remaining.take (batch controller.remaining first).1

/-- What is answered to them. -/
def outcome (perform : Devices → AudioCommand → Devices × Result)
    (controller : Controller Sender) : Option Result :=
  controller.remaining.head?.map fun pending =>
    (perform controller.devices (batch controller.remaining pending.1).2).2

/-- The batches of so many turns. -/
def batches (perform : Devices → AudioCommand → Devices × Result)
    (controller : Controller Sender) (turns : Nat) : List (Controller Sender) :=
  (List.range turns).map fun turn => (Controller.turn perform)^[turn] controller

/-- The commands that are taken in so many turns. -/
def taken (perform : Devices → AudioCommand → Devices × Result)
    (controller : Controller Sender) (turns : Nat) : List (Pending Sender) :=
  (controller.batches perform turns).flatMap next

/-- The answers to a batch, in order. -/
def replies (perform : Devices → AudioCommand → Devices × Result)
    (controller : Controller Sender) : List (Sender × Result) :=
  match controller.outcome perform with
  | some result =>
      (controller.next.filterMap Prod.snd).map fun sender => (sender, result)
  | none => []

variable {perform : Devices → AudioCommand → Devices × Result}
  {controller : Controller Sender}

section Cons

variable (devices : Devices) (audio : AudioState) (answers : List (Sender × Result))
  (first : AudioCommand) (sender : Option Sender) (rest : List (Pending Sender))

theorem turn_devices :
    (turn perform ⟨devices, audio, answers, (first, sender) :: rest⟩).devices =
      (perform devices (batch ((first, sender) :: rest) first).2).1 :=
  rfl

theorem turn_remaining :
    (turn perform ⟨devices, audio, answers, (first, sender) :: rest⟩).remaining =
      ((first, sender) :: rest).drop (batch ((first, sender) :: rest) first).1 :=
  rfl

theorem next_cons :
    next ⟨devices, audio, answers, (first, sender) :: rest⟩ =
      ((first, sender) :: rest).take (batch ((first, sender) :: rest) first).1 :=
  rfl

end Cons

theorem next_append (controller : Controller Sender) :
    controller.next ++ (controller.turn perform).remaining = controller.remaining := by
  obtain ⟨devices, audio, answers, remaining⟩ := controller
  cases remaining with
  | nil => rfl
  | cons pending rest => exact List.take_append_drop _ (pending :: rest)

theorem turn_answers (controller : Controller Sender) :
    (controller.turn perform).answers =
      controller.answers ++ controller.replies perform := by
  obtain ⟨devices, audio, answers, remaining⟩ := controller
  cases remaining with
  | nil => exact (List.append_nil _).symm
  | cons pending rest => rfl

theorem batch_positive (first : AudioCommand) (sender : Option Sender)
    (rest : List (Pending Sender)) : 0 < (batch ((first, sender) :: rest) first).1 := by
  cases first with
  | adjust delta =>
      rw [batch_adjust, leading, if_pos rfl]
      exact Nat.succ_pos _
  | setMuted muted => exact Nat.one_pos
  | setInputMuted muted => exact Nat.one_pos

theorem next_ne_nil (more : controller.remaining ≠ []) : controller.next ≠ [] := by
  obtain ⟨devices, audio, answers, remaining⟩ := controller
  cases remaining with
  | nil => contradiction
  | cons pending rest =>
      obtain ⟨first, sender⟩ := pending
      have positive := batch_positive first sender rest
      apply List.ne_nil_of_length_pos
      change 0 < (((first, sender) :: rest).take _).length
      rw [List.length_take]
      exact Nat.lt_min.mpr ⟨positive, Nat.succ_pos _⟩

/-- A turn takes a command, if there is one. -/
theorem turn_shorter (controller : Controller Sender) :
    (controller.turn perform).remaining.length ≤ controller.remaining.length - 1 := by
  have parts := congrArg List.length (@next_append _ perform controller)
  rw [List.length_append] at parts
  by_cases more : controller.remaining = []
  · rw [more, List.length_nil] at parts ⊢
    omega
  · have positive := List.length_pos_iff.mpr (next_ne_nil more)
    omega

/-! ### Runs -/

theorem taken_zero (controller : Controller Sender) :
    controller.taken perform 0 = [] :=
  rfl

theorem batches_succ (controller : Controller Sender) (turns : Nat) :
    controller.batches perform (turns + 1) =
      controller :: (controller.turn perform).batches perform turns := by
  rw [batches, List.range_succ_eq_map, List.map_cons, List.map_map]
  rfl

theorem taken_succ (controller : Controller Sender) (turns : Nat) :
    controller.taken perform (turns + 1) =
      controller.next ++ (controller.turn perform).taken perform turns := by
  rw [taken, batches_succ, List.flatMap_cons]
  rfl

theorem taken_append (controller : Controller Sender) (turns : Nat) :
    controller.taken perform turns ++
      ((Controller.turn perform)^[turns] controller).remaining =
        controller.remaining := by
  induction turns generalizing controller with
  | zero => rfl
  | succ turns ih =>
      rw [taken_succ, Function.iterate_succ_apply, List.append_assoc, ih, next_append]

theorem answers_eq (controller : Controller Sender) (turns : Nat) :
    ((Controller.turn perform)^[turns] controller).answers =
      controller.answers ++
        (controller.batches perform turns).flatMap (replies perform) := by
  induction turns generalizing controller with
  | zero => exact (List.append_nil _).symm
  | succ turns ih =>
      rw [Function.iterate_succ_apply, ih, turn_answers, batches_succ,
        List.flatMap_cons, List.append_assoc]

/-- The loop ends. -/
theorem remaining_le (controller : Controller Sender) (turns : Nat) :
    ((Controller.turn perform)^[turns] controller).remaining.length ≤
      controller.remaining.length - turns := by
  induction turns generalizing controller with
  | zero => exact Nat.le_refl _
  | succ turns ih =>
      rw [Function.iterate_succ_apply]
      have shorter := @turn_shorter _ perform controller
      have rest := ih (controller.turn perform)
      omega

end Controller

/-! ### One by one -/

def oneByOne (devices : Devices) (commands : List AudioCommand) : Devices :=
  commands.foldl (fun devices command => (execute devices command).1) devices

/-- A sink whose volume has been adjusted. -/
def adjusted (devices : Devices) (sink : Node) (volume : Rat) : Devices :=
  { devices with sink := some { sink with volume := volume, muted := false } }

theorem execute_adjust {devices : Devices} {sink : Node}
    (found : devices.sink = some sink) (delta : Int16) :
    (execute devices (.adjust delta)).1 =
      adjusted devices sink (adjustedVolume sink.volume delta) := by
  rw [execute, probeDefault, found]
  rfl

theorem execute_absent {devices : Devices} (none : devices.sink = none)
    (command : AudioCommand) : (execute devices command).1 = devices := by
  rw [execute, probeDefault, none]

theorem oneByOne_absent {devices : Devices} (none : devices.sink = none)
    (commands : List AudioCommand) : oneByOne devices commands = devices := by
  induction commands with
  | nil => rfl
  | cons command commands ih =>
      rw [oneByOne, List.foldl_cons, execute_absent none]
      exact ih

theorem oneByOne_adjusted (devices : Devices) (sink : Node) (volume : Rat)
    (deltas : List Int16) :
    oneByOne (adjusted devices sink volume) (deltas.map .adjust) =
      adjusted devices sink (deltas.foldl adjustedVolume volume) := by
  induction deltas generalizing volume with
  | nil => rfl
  | cons delta deltas ih => exact ih (adjustedVolume volume delta)

theorem oneByOne_adjust {devices : Devices} {sink : Node}
    (found : devices.sink = some sink) (first : Int16) (rest : List Int16) :
    oneByOne devices ((first :: rest).map .adjust) =
      adjusted devices sink ((first :: rest).foldl adjustedVolume sink.volume) := by
  rw [List.map_cons, oneByOne, List.foldl_cons, execute_adjust found]
  exact oneByOne_adjusted devices sink _ rest

theorem adjusted_inj {devices : Devices} {sink : Node} {first second : Rat} :
    adjusted devices sink first = adjusted devices sink second ↔ first = second := by
  constructor
  · intro same
    have sinks := congrArg (fun devices => devices.sink.map Node.volume) same
    exact Option.some.inj sinks
  · rintro rfl
    rfl

/-! ### Turns -/

/-- The devices are as if the commands had been executed one by one. -/
def Faithful (controller : Controller Sender) : Prop :=
  ∀ turns, ((Controller.turn execute)^[turns] controller).devices =
    oneByOne controller.devices
      ((controller.taken execute turns).map Prod.fst)

/-- The adjustments of the first batch that adjusts. -/
def firstAdjustments : List (Pending Sender) → List Int16
  | [] => []
  | (.adjust delta, sender) :: commands =>
      leading delta.toInt.sign ((.adjust delta, sender) :: commands)
  | _ :: commands => firstAdjustments commands

variable {controller : Controller Sender}

/-- A turn that is faithful leaves the rest to the turns after it. -/
theorem faithful_turn
    (same : (controller.turn execute).devices =
      oneByOne controller.devices (controller.next.map Prod.fst)) :
    Faithful controller ↔ Faithful (controller.turn execute) := by
  have each (turns : Nat) :
      oneByOne controller.devices
          ((controller.taken execute (turns + 1)).map Prod.fst) =
        oneByOne (controller.turn execute).devices
          (((controller.turn execute).taken execute turns).map Prod.fst) := by
    rw [Controller.taken_succ, List.map_append, oneByOne, List.foldl_append, same]
    rfl
  constructor
  · intro faithful turns
    rw [← each]
    exact faithful (turns + 1)
  · intro faithful turns
    cases turns with
    | zero => rfl
    | succ turns =>
        rw [each]
        exact faithful turns

theorem faithful_first (faithful : Faithful controller) :
    (controller.turn execute).devices =
      oneByOne controller.devices (controller.next.map Prod.fst) := by
  have first := faithful 1
  rw [Controller.taken_succ, Controller.taken_zero, List.append_nil] at first
  exact first

theorem leading_self (delta : Int16) (sender : Option Sender)
    (rest : List (Pending Sender)) :
    leading delta.toInt.sign ((.adjust delta, sender) :: rest) =
      delta :: leading delta.toInt.sign rest := by
  rw [leading, if_pos rfl]

section Adjust

variable {devices : Devices} {audio : AudioState} {answers : List (Sender × Result)}
  {delta : Int16} {sender : Option Sender} {rest : List (Pending Sender)} {sink : Node}

/-- What a batch of adjustments does. -/
theorem turn_adjust (found : devices.sink = some sink) :
    (Controller.turn execute
        ⟨devices, audio, answers, (.adjust delta, sender) :: rest⟩).devices =
      adjusted devices sink (adjustedVolume sink.volume
        (Int16.ofInt (capped (delta :: leading delta.toInt.sign rest)))) := by
  rw [Controller.turn_devices, batch_adjust, leading_self]
  exact execute_adjust found _

/-- What its commands do one by one. -/
theorem next_adjust (found : devices.sink = some sink) :
    oneByOne devices ((Controller.next
        ⟨devices, audio, answers, (.adjust delta, sender) :: rest⟩).map Prod.fst) =
      adjusted devices sink ((delta :: leading delta.toInt.sign rest).foldl
        adjustedVolume sink.volume) := by
  rw [Controller.next_cons, batch_adjust]
  dsimp only
  rw [take_leading, leading_self]
  exact oneByOne_adjust found _ _

/-- They do the same when they coalesce. -/
theorem turn_adjust_iff (found : devices.sink = some sink)
    (nonneg : 0 ≤ sink.volume) :
    (Controller.turn execute
        ⟨devices, audio, answers, (.adjust delta, sender) :: rest⟩).devices =
      oneByOne devices ((Controller.next
        ⟨devices, audio, answers, (.adjust delta, sender) :: rest⟩).map Prod.fst) ↔
      Coalesces sink.volume (delta :: leading delta.toInt.sign rest) := by
  rw [turn_adjust found, next_adjust found, adjusted_inj]
  exact coalesces_iff nonneg fun _ => sign_of_leading

end Adjust

/-- Nothing happens without a sink. -/
theorem faithful_absent (none : controller.devices.sink = none) :
    Faithful controller := by
  intro turns
  rw [oneByOne_absent none]
  induction turns generalizing controller with
  | zero => rfl
  | succ turns ih =>
      have same : (controller.turn execute).devices = controller.devices := by
        obtain ⟨devices, audio, answers, remaining⟩ := controller
        cases remaining with
        | nil => rfl
        | cons pending rest => exact execute_absent none _
      rw [Function.iterate_succ_apply, ih (same ▸ none), same]

theorem faithful_nil (none : controller.remaining = []) : Faithful controller := by
  obtain ⟨devices, audio, answers, remaining⟩ := controller
  cases none
  intro turns
  have fixed : (Controller.turn execute)^[turns] ⟨devices, audio, answers, []⟩ =
      (⟨devices, audio, answers, []⟩ : Controller Sender) :=
    Function.iterate_fixed rfl turns
  have whole := @Controller.taken_append _ execute
    (⟨devices, audio, answers, []⟩ : Controller Sender) turns
  rw [fixed, List.append_nil] at whole
  rw [fixed, whole]
  rfl

def Mutes (command : AudioCommand) : Prop :=
  ∀ delta, command ≠ .adjust delta

/-- Muting leaves the volume. -/
theorem volume_muted (devices : Devices) {command : AudioCommand}
    (mutes : Mutes command) :
    (execute devices command).1.sink.map Node.volume =
      devices.sink.map Node.volume := by
  obtain ⟨sink, source⟩ := devices
  cases sink with
  | none => rfl
  | some sink =>
      cases command with
      | adjust delta => exact (mutes delta rfl).elim
      | setMuted muted => rfl
      | setInputMuted muted => cases source <;> rfl

section Mute

variable {devices : Devices} {audio : AudioState} {answers : List (Sender × Result)}
  {command : AudioCommand} {sender : Option Sender} {rest : List (Pending Sender)}

theorem batch_muted (mutes : Mutes command) (commands : List (Pending Sender)) :
    batch commands command = (1, command) := by
  cases command with
  | adjust delta => exact (mutes delta rfl).elim
  | setMuted muted => rfl
  | setInputMuted muted => rfl

/-- Muting is a batch of its own. -/
theorem turn_muted (mutes : Mutes command) :
    (Controller.turn execute
        ⟨devices, audio, answers, (command, sender) :: rest⟩).devices =
      (execute devices command).1 ∧
    (Controller.turn execute
        ⟨devices, audio, answers, (command, sender) :: rest⟩).remaining = rest ∧
    (Controller.next
        ⟨devices, audio, answers, (command, sender) :: rest⟩) = [(command, sender)] := by
  rw [Controller.turn_devices, Controller.turn_remaining, Controller.next_cons,
    batch_muted mutes]
  exact ⟨rfl, rfl, rfl⟩

theorem faithful_muted (mutes : Mutes command) :
    Faithful ⟨devices, audio, answers, (command, sender) :: rest⟩ ↔
      Faithful (Controller.turn execute
        ⟨devices, audio, answers, (command, sender) :: rest⟩) := by
  apply faithful_turn
  obtain ⟨after, _, next⟩ :=
    @turn_muted _ devices audio answers command sender rest mutes
  rw [after, next]
  rfl

end Mute

/-- Every sink has such a volume. -/
def Volumes (P : Rat → Prop) (devices : Devices) : Prop :=
  ∀ volume ∈ devices.sink.map Node.volume, P volume

theorem volumes_muted {P : Rat → Prop} {devices : Devices} {command : AudioCommand}
    (volumes : Volumes P devices) (mutes : Mutes command) :
    Volumes P (execute devices command).1 := by
  rw [Volumes, volume_muted devices mutes]
  exact volumes

theorem shorter_of_cons {pending : Pending Sender} {rest : List (Pending Sender)}
    (listed : controller.remaining = pending :: rest) :
    (controller.turn execute).remaining.length < controller.remaining.length := by
  have shorter := @Controller.turn_shorter _ execute controller
  rw [listed, List.length_cons] at shorter ⊢
  omega

/-- Batches go unnoticed while the volume is in its range, where it stays. -/
theorem faithful_within
    (within : Volumes (fun volume => 0 ≤ volume ∧ volume ≤ 1) controller.devices) :
    Faithful controller := by
  generalize counted : controller.remaining.length = count
  induction count using Nat.strong_induction_on generalizing controller with
  | _ count ih =>
      obtain ⟨devices, audio, answers, remaining⟩ := controller
      cases found : devices.sink with
      | none => exact faithful_absent found
      | some sink =>
          obtain ⟨nonneg, most⟩ := within sink.volume (by
            rw [found]
            rfl)
          cases remaining with
          | nil => exact faithful_nil rfl
          | cons pending rest =>
              have shorter := counted ▸ @shorter_of_cons _
                ⟨devices, audio, answers, pending :: rest⟩ _ _ rfl
              obtain ⟨command, sender⟩ := pending
              by_cases mutes : Mutes command
              · apply (faithful_muted mutes).mpr
                refine ih _ shorter ?_ rfl
                rw [(turn_muted mutes).1]
                exact volumes_muted within mutes
              · obtain ⟨delta, rfl⟩ := not_forall_not.mp mutes
                apply (faithful_turn ((turn_adjust_iff found nonneg).mpr
                  (coalesces_of_le most _))).mpr
                refine ih _ shorter ?_ rfl
                rw [turn_adjust found]
                rintro _ ⟨⟩
                exact ⟨ClampedWalks.le_clamp (by norm_num), ClampedWalks.clamp_le⟩

theorem firstAdjustments_muted {command : AudioCommand} (mutes : Mutes command)
    (sender : Option Sender) (rest : List (Pending Sender)) :
    firstAdjustments ((command, sender) :: rest) = firstAdjustments rest := by
  cases command with
  | adjust delta => exact (mutes delta rfl).elim
  | setMuted muted => rfl
  | setInputMuted muted => rfl

theorem faithful_iff (nonneg : Volumes (fun volume => 0 ≤ volume) controller.devices) :
    Faithful controller ↔
      Volumes (fun volume => Coalesces volume (firstAdjustments controller.remaining))
        controller.devices := by
  generalize listed : controller.remaining = remaining
  induction remaining generalizing controller with
  | nil => exact iff_of_true (faithful_nil listed) fun _ _ => trivial
  | cons pending rest ih =>
      obtain ⟨devices, audio, answers, _⟩ := controller
      cases listed
      obtain ⟨command, sender⟩ := pending
      by_cases mutes : Mutes command
      · obtain ⟨after, later, _⟩ :=
          @turn_muted _ devices audio answers command sender rest mutes
        have kept := volumes_muted nonneg mutes
        rw [← after] at kept
        rw [faithful_muted mutes, ih kept later, after, Volumes,
          volume_muted devices mutes, firstAdjustments_muted mutes]
        rfl
      · obtain ⟨delta, rfl⟩ := not_forall_not.mp mutes
        cases found : devices.sink with
        | none =>
            refine iff_of_true (faithful_absent found) ?_
            rw [Volumes, found]
            nofun
        | some sink =>
            have least : 0 ≤ sink.volume := nonneg sink.volume (by
              rw [found]
              rfl)
            have batch := @turn_adjust_iff _ devices audio answers delta sender rest
              sink found least
            have only : Volumes (fun volume => Coalesces volume
                (firstAdjustments ((.adjust delta, sender) :: rest))) devices ↔
                  Coalesces sink.volume (delta :: leading delta.toInt.sign rest) := by
              rw [Volumes, found, firstAdjustments, leading_self]
              constructor
              · exact fun each => each sink.volume rfl
              · rintro holds _ ⟨⟩
                exact holds
            rw [only, ← batch]
            constructor
            · exact faithful_first
            · intro same
              apply (faithful_turn same).mpr
              apply faithful_within
              rw [turn_adjust found]
              rintro _ ⟨⟩
              exact ⟨ClampedWalks.le_clamp (by norm_num), ClampedWalks.clamp_le⟩

/-! ### Coalescing -/

/-- The batches cannot be told from their commands, and each command is answered
once, in order, with what its batch answers. -/
structure Invisible (controller : Controller Sender) : Prop where
  devices : Faithful controller
  answers : ∀ turns, ((Controller.turn execute)^[turns] controller).answers =
    controller.answers ++
      (controller.batches execute turns).flatMap (Controller.replies execute)
  ordered : ∀ turns, controller.taken execute turns ++
    ((Controller.turn execute)^[turns] controller).remaining = controller.remaining
  ends : ((Controller.turn execute)^[controller.remaining.length]
    controller).remaining = []

/-- Coalescing is invisible exactly when the first adjustments coalesce. -/
theorem invisible_iff
    (nonneg : Volumes (fun volume => 0 ≤ volume) controller.devices) :
    Invisible controller ↔
      Volumes (fun volume => Coalesces volume (firstAdjustments controller.remaining))
        controller.devices := by
  constructor
  · intro invisible
    exact (faithful_iff nonneg).mp invisible.devices
  · intro coalesces
    refine ⟨(faithful_iff nonneg).mpr coalesces, Controller.answers_eq controller,
      Controller.taken_append controller, ?_⟩
    have all := @Controller.remaining_le _ execute controller controller.remaining.length
    rw [Nat.sub_self] at all
    exact List.length_eq_zero_iff.mp (Nat.le_zero.mp all)

/-- A thread before it takes the commands of a queue, and a loud sink. -/
def loud (volume : Rat) (commands : List AudioCommand) : Controller Nat where
  devices := {
    sink := some ⟨"sink", "Speakers", volume, false⟩
    source := none }
  audio := audioState ⟨"sink", "Speakers", volume, false⟩ none
  answers := []
  remaining := commands.zip ((List.range commands.length).map some)

theorem invisible_louder :
    Invisible (loud (12 / 10) [.setMuted none, .adjust 5, .adjust 10, .adjust (-5)]) :=
  (invisible_iff (by
    rintro _ ⟨⟩
    norm_num)).mpr (by
    rintro _ ⟨⟩
    decide +kernel)

/-- Two steps down from above the range end at 95%, and at 100% as one step: they
are taken in one turn. -/
theorem adjustments_visible :
    ((Controller.turn execute)
        (loud (12 / 10) [.adjust (-5), .adjust (-5)])).remaining = [] ∧
      ((Controller.turn execute)
          (loud (12 / 10) [.adjust (-5), .adjust (-5)])).devices.sink.map
            Node.volume = some 1 ∧
      (oneByOne (loud (12 / 10) []).devices [.adjust (-5), .adjust (-5)]).sink.map
        Node.volume = some (95 / 100) := by
  decide +kernel

end BarDaemon.Audio
