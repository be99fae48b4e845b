import BarDaemon.DisplayEffects
import BarDaemon.FallibleSteps
import BarDaemon.Traces

/-!
# Applying a layout on an exact compositor

A compositor that does what every command says, with no hotplug and no sleep,
takes a sound layout completely or not at all into an unusable state.  What
can stop a layout is said exactly.
-/

namespace BarDaemon.Displays

open Attempt FallibleSteps Traces

/-! ### Outputs by name -/

def named (outputs : List Output) (name : String) : Option Output :=
  outputs.find? fun output => output.name == name

theorem name_of_named {outputs : List Output} {name : String}
    {output : Output} (found : named outputs name = some output) :
    output.name = name := by
  simpa using List.find?_some found

theorem mem_of_named {outputs : List Output} {name : String}
    {output : Output} (found : named outputs name = some output) :
    output ∈ outputs :=
  List.mem_of_find?_eq_some found

/-- Connector names are unique. -/
def Distinct (outputs : List Output) : Prop :=
  (outputs.map Output.name).Nodup

theorem named_of_mem {outputs : List Output} (distinct : Distinct outputs)
    {output : Output} (member : output ∈ outputs) :
    named outputs output.name = some output := by
  induction outputs with
  | nil => cases member
  | cons head tail ih =>
      obtain ⟨fresh, rest⟩ := List.nodup_cons.mp distinct
      rcases List.mem_cons.mp member with rfl | inTail
      · simp [named]
      · have other : head.name ≠ output.name := by
          intro same
          exact fresh (same ▸ List.mem_map_of_mem inTail)
        have found := ih rest inTail
        simpa [named, other] using found

theorem eq_of_name {outputs : List Output} (distinct : Distinct outputs)
    {first second : Output} (firstMember : first ∈ outputs)
    (secondMember : second ∈ outputs) (same : first.name = second.name) :
    first = second :=
  List.inj_on_of_nodup_map distinct firstMember secondMember same

theorem exists_named {outputs : List Output} {name : String}
    (present : name ∈ outputs.map Output.name) :
    ∃ output, named outputs name = some output := by
  obtain ⟨output, member, same⟩ := List.mem_map.mp present
  exact Option.isSome_iff_exists.mp
    (List.find?_isSome.mpr ⟨output, member, by simpa using same⟩)

namespace Output

/-- What references to an output are resolved by. -/
def key (output : Output) : String × Int :=
  (output.name, output.id)

/-- The name of the output that is mirrored. -/
def mirrorName (output : Output) (outputs : List Output) : Option String :=
  (output.mirrorSource outputs).map Output.name

theorem mirrorName_congr {outputs others : List Output}
    (keys : outputs.map key = others.map key) (output : Output) :
    output.mirrorName outputs = output.mirrorName others := by
  have byKey : ∀ outputs : List Output, output.mirrorName outputs =
      if output.mirrored then
        ((outputs.map key).find? fun pair =>
          pair.1 == output.mirrorOf || toString pair.2 == output.mirrorOf).map
            Prod.fst
      else none := by
    intro outputs
    unfold mirrorName mirrorSource
    split
    · rw [List.find?_map, Option.map_map]
      rfl
    · rfl
  rw [byKey, byKey, keys]

theorem mem_of_mirrorSource {output source : Output} {outputs : List Output}
    (found : output.mirrorSource outputs = some source) :
    source ∈ outputs := by
  unfold mirrorSource at found
  split at found
  · exact List.mem_of_find?_eq_some found
  · cases found

theorem mirrored_of_mirrorName {output : Output} {outputs : List Output}
    {name : String} (source : output.mirrorName outputs = some name) :
    output.mirrored = true := by
  by_contra unmirrored
  simp [mirrorName, mirrorSource, unmirrored] at source

theorem mirroredBy_iff {outputs : List Output} {name : String} :
    mirroredBy outputs name = true ↔ ∃ output ∈ outputs,
      output.active = true ∧ output.mirrorName outputs = some name := by
  simp [mirroredBy, mirrorName, Option.map_eq_some_iff, Option.any_eq_true]

end Output

theorem names_congr {outputs others : List Output}
    (keys : outputs.map Output.key = others.map Output.key) :
    outputs.map Output.name = others.map Output.name := by
  have first : ∀ outputs : List Output, outputs.map Output.name =
      (outputs.map Output.key).map Prod.fst := by
    intro outputs
    rw [List.map_map]
    rfl
  rw [first, first, keys]

variable [Decimals]

/-! ### The exact compositor -/

/-- The output shows what the setting asks for. -/
structure Setting.Shown (setting : Setting) (output : Output)
    (outputs : List Output) : Prop where
  disabled : output.disabled = !setting.enabled
  mode : setting.enabled = true →
    sameMode setting.mode (observedMode output) = true
  scale : setting.enabled = true → setting.scale.equals output.scale = true
  transform : setting.enabled = true → setting.transform = output.transform
  position : setting.enabled = true → setting.mirrorOf = "" →
    output.mirrored = false ∧ setting.x = output.x ∧ setting.y = output.y
  mirror : setting.enabled = true → setting.mirrorOf ≠ "" →
    output.mirrorName outputs = some setting.mirrorOf

/-- The command of the setting, done exactly: its output shows it, and nothing
else has changed. -/
structure Setting.Takes (setting : Setting) (before after : List Output) :
    Prop where
  keys : after.map Output.key = before.map Output.key
  others : ∀ name, name ≠ setting.name → named after name = named before name
  shown : ∀ output, named after setting.name = some output →
    setting.Shown output after

/-- Every call is answered, nothing is plugged in or out, nothing sleeps, and
every possible command is done exactly. -/
structure Surroundings.Exact (world : Surroundings) (generation : Nat) :
    Prop where
  answered : ∀ index, world.fate index = .answered
  written : ∀ index, world.writing index = .written
  still : ∀ index outputs, world.hotplug index outputs = outputs
  awake : ∀ index, world.sleep index = (false, generation)
  takes : ∀ index (setting : Setting) (outputs : List Output),
    setting.validate = .ok () →
    (setting.enabled = true → setting.mirrorOf ≠ "" →
      ∃ source ∈ outputs, source.name = setting.mirrorOf) →
    setting.Takes outputs (world.configured index setting outputs)

/-- What shows a readable mode has positive sides. -/
theorem Setting.Shown.active {setting : Setting} {output : Output}
    {outputs : List Output} (shown : setting.Shown output outputs)
    (enabled : setting.enabled = true) : output.active = true := by
  have same := shown.mode enabled
  have readable : (Displays.mode (observedMode output)).isSome = true := by
    unfold sameMode at same
    split at same
    · rename_i found
      simp [found]
    · cases same
  obtain ⟨width, height⟩ := positive_of_observedMode readable
  have on := shown.disabled
  simp [enabled] at on
  simp [Output.active, on, width, height]

theorem Setting.Shown.usable {setting : Setting} {output : Output}
    {outputs : List Output} (shown : setting.Shown output outputs)
    (independent : setting.independent = true) : output.usable = true := by
  obtain ⟨enabled, own⟩ := Bool.and_eq_true_iff.mp independent
  have unmirrored := (shown.position enabled (by simpa using own)).1
  simp [Output.usable, shown.active enabled, unmirrored]

/-- Nothing but the names and numbers of the other outputs matters. -/
theorem Setting.Shown.congr {setting : Setting} {output : Output}
    {outputs others : List Output} (shown : setting.Shown output outputs)
    (keys : outputs.map Output.key = others.map Output.key) :
    setting.Shown output others :=
  { shown with
    mirror := fun enabled mirror =>
      Output.mirrorName_congr keys output ▸ shown.mirror enabled mirror }

omit [Decimals] in
/-- The source of a mirror is there and has a desktop of its own. -/
def Setting.Sourced (setting : Setting) (outputs : List Output) : Prop :=
  setting.enabled = true → setting.mirrorOf ≠ "" →
    ∃ source, named outputs setting.mirrorOf = some source ∧
      source.usable = true

theorem Setting.matchesOutput_iff {setting : Setting} {output : Output}
    {outputs : List Output} (distinct : Distinct outputs) :
    setting.matchesOutput output outputs = true ↔
      setting.Shown output outputs ∧ setting.Sourced outputs := by
  have source : ((output.mirrorSource outputs).any fun source =>
        source.name == setting.mirrorOf && source.usable) = true ↔
      output.mirrorName outputs = some setting.mirrorOf ∧
        ∃ source, named outputs setting.mirrorOf = some source ∧
          source.usable = true := by
    cases found : output.mirrorSource outputs with
    | none => simp [Output.mirrorName, found]
    | some source =>
        have isNamed := named_of_mem distinct (Output.mem_of_mirrorSource found)
        simp only [Output.mirrorName, found, Option.any_some, Option.map_some,
          Bool.and_eq_true, beq_iff_eq, Option.some.injEq]
        constructor
        · rintro ⟨same, usable⟩
          exact ⟨same, source, same ▸ isNamed, usable⟩
        · rintro ⟨same, other, isOther, usable⟩
          rw [← same, isNamed, Option.some.injEq] at isOther
          exact ⟨same, isOther ▸ usable⟩
  cases enabled : setting.enabled with
  | false =>
      constructor
      · intro matched
        refine ⟨⟨?_, ?_, ?_, ?_, ?_, ?_⟩, ?_⟩
        · simpa [matchesOutput, enabled] using matched
        all_goals simp [enabled, Sourced]
      · rintro ⟨shown, -⟩
        simp [matchesOutput, enabled, shown.disabled]
  | true =>
      by_cases own : setting.mirrorOf = ""
      · constructor
        · intro matched
          simp [matchesOutput, enabled, own] at matched
          refine ⟨⟨?_, ?_, ?_, ?_, ?_, ?_⟩, ?_⟩
          all_goals simp [enabled, own, Sourced, matched]
        · rintro ⟨shown, -⟩
          have position := shown.position enabled own
          simp [matchesOutput, enabled, own, shown.disabled, position,
            shown.mode enabled, shown.scale enabled, shown.transform enabled]
      · constructor
        · intro matched
          simp [matchesOutput, enabled, own, source] at matched
          refine ⟨⟨?_, ?_, ?_, ?_, ?_, ?_⟩, ?_⟩
          all_goals simp [enabled, own, Sourced, matched]
        · rintro ⟨shown, sourced⟩
          have both := source.mpr ⟨shown.mirror enabled own,
            sourced enabled own⟩
          simp [matchesOutput, enabled, own, shown.disabled, both,
            shown.mode enabled, shown.scale enabled, shown.transform enabled]

/-! ### One setting -/

namespace Setting

/-- There is nothing to send. -/
def Idle (setting : Setting) (outputs : List Output) : Prop :=
  ∀ output, named outputs setting.name = some output →
    setting.matchesOutput output outputs = true

/-- A check forbids what would have to be sent. -/
structure Refused (setting : Setting) (outputs : List Output) : Prop where
  busy : ¬ setting.Idle outputs
  forbidden : setting.permit outputs = .ok () → setting.validate ≠ .ok ()

/-- The command has been sent and done. -/
structure Sent (setting : Setting) (before after : List Output) : Prop where
  busy : ¬ setting.Idle before
  admitted : setting.permit before = .ok ()
  valid : setting.validate = .ok ()
  takes : setting.Takes before after

omit [Decimals] in
/-- What an admitted setting relies on. -/
theorem permit_eq_ok_iff {setting : Setting} {outputs : List Output} :
    setting.permit outputs = .ok () ↔
      (setting.independent = false →
        Output.mirroredBy outputs setting.name = false) ∧
      (setting.enabled = true → setting.mirrorOf ≠ "" →
        ∃ source ∈ outputs, source.name = setting.mirrorOf ∧
          source.usable = true) ∧
      (setting.enabled = false → ∃ other ∈ outputs,
        other.name ≠ setting.name ∧ other.usable = true) := by
  simp only [permit, refusal_eq_ok_iff, independent]
  cases setting.enabled with
  | false => simp
  | true =>
      by_cases own : setting.mirrorOf = ""
      · simp [own]
      · simp [own]

end Setting

namespace Service

open Session

variable {world : Surroundings} {generation : Nat}

theorem served_exact (exact : world.Exact generation) (session : Session) :
    session.served world = { session with calls := session.calls + 1 } := by
  simp [Session.served, exact.still]

theorem perform_exact (exact : world.Exact generation) (refusal : String)
    (effect : Nat → Session → Session) (session : Session) :
    perform world refusal effect session =
      (.ok (), effect session.calls (session.served world)) := by
  simp [perform, exact.answered]

theorem outputs_exact (exact : world.Exact generation) (session : Session) :
    outputs world session = (.ok session.topology,
      (session.served world).traced (.listed session.topology)) := by
  simp [outputs, bind_apply, perform_exact exact, served_exact exact,
    Attempt.read, Session.traced]

theorem sleepInterrupted_exact (exact : world.Exact generation)
    (session : Session) :
    sleepInterrupted world generation session =
      (.ok false, { session with calls := session.calls + 1 }) := by
  simp [sleepInterrupted, sleepState, reading, bind_apply, exact.awake]

omit [Decimals] in
/-- The state after the reads that precede a command. -/
def surveyed (session : Session) : Session :=
  { session with
    calls := session.calls + 3
    trace := session.trace ++ [.listed session.topology] }

/-- A setting is idle, refused, or sent. -/
theorem applySetting_exact (exact : world.Exact generation)
    (purpose : Purpose) (setting : Setting) (session : Session) :
    ∃ after,
      (applySetting world purpose generation setting session =
          (.ok (), after) ∧ setting.Idle session.topology ∧
        after.topology = session.topology ∧
        after.trace = session.trace ++ [.listed session.topology]) ∨
      ((∃ text, applySetting world purpose generation setting session =
          (.error (.error text), after)) ∧
        setting.Refused session.topology ∧
        after.topology = session.topology ∧
        after.trace = session.trace ++ [.listed session.topology]) ∨
      (applySetting world purpose generation setting session =
          (.ok (), after) ∧ setting.Sent session.topology after.topology ∧
        after.trace = session.trace ++
          [.listed session.topology, .configured purpose setting]) := by
  cases found : named session.topology setting.name with
  | none =>
      have start : applySetting world purpose generation setting session =
          (.ok (), surveyed session) := by
        unfold named at found
        simp only [applySetting, eligible, bind_apply, perform_exact exact,
          sleepInterrupted_exact exact, outputs_exact exact, served_exact exact,
          ensure, Attempt.ensure, Bool.not_false, if_true, pure_apply,
          Session.traced, found]
        rfl
      rw [start]
      refine ⟨surveyed session, .inl ⟨rfl, ?_, rfl, rfl⟩⟩
      intro output isOutput
      rw [found] at isOutput
      cases isOutput
  | some output =>
      have start : applySetting world purpose generation setting session =
          (if setting.matchesOutput output session.topology then pure ()
          else do
            checked (setting.permit session.topology)
            configure world purpose setting : Service Unit)
            (surveyed session) := by
        unfold named at found
        simp only [applySetting, eligible, bind_apply, perform_exact exact,
          sleepInterrupted_exact exact, outputs_exact exact, served_exact exact,
          ensure, Attempt.ensure, Bool.not_false, if_true, pure_apply,
          Session.traced, found]
        rfl
      rw [start]
      cases matched : setting.matchesOutput output session.topology with
      | true =>
          refine ⟨surveyed session, .inl ⟨by simp, ?_, rfl, rfl⟩⟩
          intro other isOther
          rw [found, Option.some.injEq] at isOther
          rwa [← isOther]
      | false =>
          have busy : ¬ setting.Idle session.topology := by
            intro idle
            rw [idle output found] at matched
            cases matched
          have refused {text : String}
              (failed : setting.permit session.topology = .error text ∨
                setting.permit session.topology = .ok () ∧
                  setting.validate = .error text) :
              (do
                checked (setting.permit session.topology)
                configure world purpose setting : Service Unit)
                (surveyed session) = (.error (.error text),
                  surveyed session) := by
            rcases failed with failed | ⟨admitted, failed⟩
            · simp [failed, checked, lift, fail, bind_apply]
            · simp [admitted, failed, configure, checked, lift, fail,
                bind_apply]
          cases admitted : setting.permit session.topology with
          | error text =>
              refine ⟨surveyed session, .inr (.inl ⟨⟨text, ?_⟩,
                ⟨busy, ?_⟩, rfl, rfl⟩)⟩
              · simpa [matched, admitted] using refused (.inl admitted)
              · simp [admitted]
          | ok done =>
              cases valid : setting.validate with
              | error text =>
                  refine ⟨surveyed session, .inr (.inl ⟨⟨text, ?_⟩,
                    ⟨busy, ?_⟩, rfl, rfl⟩)⟩
                  · simpa [matched, admitted] using
                      refused (.inr ⟨admitted, valid⟩)
                  · simp [valid]
              | ok done =>
                  have sources := (Setting.permit_eq_ok_iff.mp admitted).2.1
                  have takes := exact.takes (session.calls + 3) setting
                    session.topology valid fun enabled mirror => by
                      obtain ⟨source, member, same, -⟩ :=
                        sources enabled mirror
                      exact ⟨source, member, same⟩
                  let sent : Session := { session with
                    calls := session.calls + 4
                    topology := world.configured (session.calls + 3) setting
                      session.topology
                    trace := session.trace ++ [.listed session.topology,
                      .configured purpose setting] }
                  refine ⟨sent, .inr (.inr ⟨?_,
                    ⟨busy, admitted, valid, takes⟩, rfl⟩)⟩
                  simp [configure, checked, lift, bind_apply, valid,
                    perform_exact exact, served_exact exact, surveyed, sent]

end Service

/-! ### What every setting keeps -/

omit [Decimals] in
theorem Output.usable_iff {output : Output} :
    output.usable = true ↔ output.active = true ∧ output.mirrored = false := by
  simp [Output.usable]

omit [Decimals] in
theorem Output.enabled_of_active {output : Output}
    (active : output.active = true) : output.disabled = false := by
  simp only [Output.active, Bool.and_eq_true, Bool.not_eq_true'] at active
  exact active.1.1

omit [Decimals] in
/-- Some output has a desktop of its own. -/
def SomeUsable (outputs : List Output) : Prop :=
  ∃ output ∈ outputs, output.usable = true

omit [Decimals] in
/-- Every active mirror among the named outputs shows a usable output, thus
neither a mirror nor a disabled output. -/
def Grounded (names : List String) (outputs : List Output) : Prop :=
  ∀ output ∈ outputs, output.name ∈ names → output.active = true →
    output.mirrored = true →
      ∃ source, output.mirrorSource outputs = some source ∧
        source.usable = true

namespace Setting

variable {setting : Setting} {before after : List Output}

theorem Takes.distinct (takes : setting.Takes before after)
    (distinct : Distinct before) : Distinct after := by
  unfold Distinct
  rwa [names_congr takes.keys]

/-- An output of another name is kept. -/
theorem Takes.kept (takes : setting.Takes before after)
    (distinct : Distinct before) {output : Output} (member : output ∈ before)
    (other : output.name ≠ setting.name) : output ∈ after := by
  have found := named_of_mem distinct member
  rw [← takes.others _ other] at found
  exact mem_of_named found

/-- An output of another name is an old one. -/
theorem Takes.old (takes : setting.Takes before after)
    (distinct : Distinct before) {output : Output} (member : output ∈ after)
    (other : output.name ≠ setting.name) : output ∈ before := by
  have found := named_of_mem (takes.distinct distinct) member
  rw [takes.others _ other] at found
  exact mem_of_named found

theorem Sent.exists_shown (sent : setting.Sent before after) :
    ∃ output, named after setting.name = some output ∧
      setting.Shown output after := by
  have present : setting.name ∈ before.map Output.name := by
    by_contra absent
    refine sent.busy fun output found => absurd ?_ absent
    exact name_of_named found ▸ List.mem_map_of_mem (mem_of_named found)
  rw [← names_congr sent.takes.keys] at present
  obtain ⟨output, found⟩ := exists_named present
  exact ⟨output, found, sent.takes.shown output found⟩

/-- Whatever has been done, some output has a desktop. -/
theorem Sent.someUsable (sent : setting.Sent before after)
    (distinct : Distinct before) : SomeUsable after := by
  obtain ⟨-, sources, replacement⟩ := permit_eq_ok_iff.mp sent.admitted
  cases enabled : setting.enabled with
  | false =>
      obtain ⟨other, member, different, usable⟩ := replacement enabled
      exact ⟨other, sent.takes.kept distinct member different, usable⟩
  | true =>
      by_cases own : setting.mirrorOf = ""
      · obtain ⟨output, found, shown⟩ := sent.exists_shown
        exact ⟨output, mem_of_named found,
          shown.usable (by simp [independent, enabled, own])⟩
      · obtain ⟨source, member, same, usable⟩ := sources enabled own
        have different : source.name ≠ setting.name :=
          same ▸ ((validate_eq_ok sent.valid).mirror own).2
        exact ⟨source, sent.takes.kept distinct member different, usable⟩

/-- A source of mirrors stays usable or is not touched. -/
theorem Sent.grounded {names : List String} (sent : setting.Sent before after)
    (distinct : Distinct before) (grounded : Grounded names before) :
    Grounded (setting.name :: names) after := by
  intro output member inNames active mirrored
  have distinct' := sent.takes.distinct distinct
  obtain ⟨unclaimed, sources, -⟩ := permit_eq_ok_iff.mp sent.admitted
  by_cases same : output.name = setting.name
  · have shown := sent.takes.shown output (same ▸ named_of_mem distinct' member)
    have enabled : setting.enabled = true := by
      simpa [Output.enabled_of_active active] using shown.disabled
    have borrowed : setting.mirrorOf ≠ "" := by
      intro own
      rw [(shown.position enabled own).1] at mirrored
      cases mirrored
    obtain ⟨source, found, sourceName⟩ :=
      Option.map_eq_some_iff.mp (shown.mirror enabled borrowed)
    obtain ⟨old, oldMember, oldName, usable⟩ := sources enabled borrowed
    have kept := sent.takes.kept distinct oldMember
      (oldName ▸ ((validate_eq_ok sent.valid).mirror borrowed).2)
    have isOld := eq_of_name distinct' (Output.mem_of_mirrorSource found) kept
      (sourceName.trans oldName.symm)
    exact ⟨source, found, isOld ▸ usable⟩
  · have old := sent.takes.old distinct member same
    have known : output.name ∈ names := by simpa [same] using inNames
    obtain ⟨source, found, usable⟩ := grounded output old known active mirrored
    have name : output.mirrorName before = some source.name := by
      simp [Output.mirrorName, found]
    have name' := name
    rw [← Output.mirrorName_congr sent.takes.keys] at name'
    obtain ⟨source', found', sameName⟩ := Option.map_eq_some_iff.mp name'
    have member' := Output.mem_of_mirrorSource found'
    refine ⟨source', found', ?_⟩
    by_cases changed : source.name = setting.name
    · -- Nothing may be sent to a mirrored output but a desktop of its own.
      have independent : setting.independent = true := by
        by_contra dependent
        have free := unclaimed (by simpa using dependent)
        have claimed := Output.mirroredBy_iff.mpr
          ⟨output, old, active, changed ▸ name⟩
        rw [free] at claimed
        cases claimed
      have isNamed := named_of_mem distinct' member'
      rw [sameName, changed] at isNamed
      exact (sent.takes.shown source' isNamed).usable independent
    · have kept := sent.takes.kept distinct
        (Output.mem_of_mirrorSource found) changed
      exact eq_of_name distinct' member' kept sameName ▸ usable

end Setting

/-! ### What every application keeps -/

omit [Decimals] in
/-- The outputs that some events have configured. -/
def configuredNames (events : List Event) : List String :=
  events.filterMap fun event =>
    match event with
    | .configured _ setting => some setting.name
    | _ => none

omit [Decimals] in
/-- From the outputs at the beginning to those at the end, there has always
been a desktop, and all mirrors that were configured on the way show one. -/
structure Careful (initial : List Output) (events : List Event)
    (current : List Output) : Prop where
  distinct : Distinct current
  listed : SomeUsable initial →
    ∀ outputs, .listed outputs ∈ events → SomeUsable outputs
  usable : SomeUsable initial → SomeUsable current
  grounded : Each (fun before event => ∀ outputs,
    event = .listed outputs → Grounded (configuredNames before) outputs) events
  ends : Grounded (configuredNames events) current

namespace Careful

variable {initial current after : List Output} {events : List Event}
  {setting : Setting}

omit [Decimals] in
theorem start (distinct : Distinct initial) : Careful initial [] initial where
  distinct := distinct
  listed := by simp
  usable := id
  grounded := each_nil
  ends := by simp [Grounded, configuredNames]

omit [Decimals] in
theorem read (careful : Careful initial events current) :
    Careful initial (events ++ [.listed current]) current where
  distinct := careful.distinct
  listed usable outputs member := by
    rcases List.mem_append.mp member with earlier | now
    · exact careful.listed usable outputs earlier
    · rw [List.mem_singleton, Event.listed.injEq] at now
      exact now ▸ careful.usable usable
  usable := careful.usable
  grounded := by
    refine each_concat_iff.mpr ⟨careful.grounded, ?_⟩
    intro outputs same
    rw [Event.listed.injEq] at same
    exact same ▸ careful.ends
  ends := by simpa [configuredNames] using careful.ends

theorem sent (careful : Careful initial events current) (purpose : Purpose)
    (sent : setting.Sent current after) :
    Careful initial (events ++ [.configured purpose setting]) after where
  distinct := sent.takes.distinct careful.distinct
  listed usable outputs member := by
    simp only [List.mem_append, List.mem_singleton, reduceCtorEq,
      or_false] at member
    exact careful.listed usable outputs member
  usable _ := sent.someUsable careful.distinct
  grounded := each_concat_iff.mpr ⟨careful.grounded, nofun⟩
  ends := by
    intro output member inNames
    refine sent.grounded careful.distinct careful.ends output member ?_
    simpa [configuredNames, or_comm] using inNames

end Careful

omit [Decimals] in
/-- What has happened since a session was careful. -/
def Session.Carefully (start session : Session) : Prop :=
  ∃ events, session.trace = start.trace ++ events ∧
    Careful start.topology events session.topology

namespace Service

variable {world : Surroundings} {generation : Nat}

theorem carefully_applySetting (exact : world.Exact generation)
    (start : Session) (purpose : Purpose) (setting : Setting) :
    Meets start.Carefully (applySetting world purpose generation setting)
      (fun _ => start.Carefully) (fun _ => start.Carefully) := by
  rintro session ⟨events, trace, careful⟩
  obtain ⟨after, ⟨done, -, topology, traced⟩ |
    ⟨⟨text, done⟩, -, topology, traced⟩ | ⟨done, sent, traced⟩⟩ :=
      applySetting_exact exact purpose setting session
  · rw [done]
    refine ⟨_, ?_, topology ▸ careful.read⟩
    rw [traced, trace, topology, List.append_assoc]
  · rw [done]
    refine ⟨_, ?_, topology ▸ careful.read⟩
    rw [traced, trace, topology, List.append_assoc]
  · rw [done]
    exact ⟨_, by simp [traced, trace], careful.read.sent purpose sent⟩

/-- The two loops, after the outputs have been read. -/
theorem apply_exact (exact : world.Exact generation) (purpose : Purpose)
    (layout : Layout) (session : Session) :
    ∃ listed, listed.topology = session.topology ∧
      listed.trace = session.trace ++ [.listed session.topology] ∧
      apply world purpose layout session =
        (do
          Attempt.forEach
            (detach world purpose generation layout session.topology)
            (session.topology.filter fun output =>
              output.active && output.mirrored)
          Attempt.forEach (applySetting world purpose generation)
            layout.ordered : Service Unit) listed := by
  refine ⟨{ session with
    calls := session.calls + 2
    trace := session.trace ++ [.listed session.topology] }, rfl, rfl, ?_⟩
  simp only [apply, bind_apply, sleepState, reading, exact.awake,
    outputs_exact exact, served_exact exact]
  rfl

/-- Whatever the layout is, applying it is careful. -/
theorem carefully_apply (exact : world.Exact generation) {session : Session}
    (distinct : Distinct session.topology) (purpose : Purpose)
    (layout : Layout) :
    session.Carefully (apply world purpose layout session).2 := by
  obtain ⟨listed, topology, trace, same⟩ :=
    apply_exact exact purpose layout session
  rw [same]
  have begun : session.Carefully listed :=
    ⟨_, trace, topology ▸ (Careful.start distinct).read⟩
  have applied := carefully_applySetting exact session purpose
  let invariant {Item : Type} (_ _ : List Item) : Session → Prop :=
    session.Carefully
  have detached : Meets session.Carefully
      (Attempt.forEach
        (detach world purpose generation layout session.topology)
        (session.topology.filter fun output =>
          output.active && output.mirrored))
      (fun _ => session.Carefully) (fun _ => session.Carefully) := by
    refine meets_forEach invariant (fun behind output ahead => ?_) [] _
    exact meets_ite (fun _ => applied _)
      (fun _ => meets_pure fun _ careful => careful)
  exact (detached.bind fun _ =>
    meets_forEach invariant (fun _ setting _ => applied setting) [] _).after
      begun

end Service

end BarDaemon.Displays
