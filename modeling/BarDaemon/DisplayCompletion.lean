import BarDaemon.DisplayCompositor

/-!
# When a layout is applied completely

On an exact compositor, a sound layout is applied completely if and only if
its mirrors can be detached, no display outside of it mirrors what it takes
away, and something remains to replace what it turns off.
-/

namespace BarDaemon.Displays

open Attempt FallibleSteps

variable [Decimals]

/-! ### Sound layouts -/

/-- A layout of present displays without chains of mirrors. -/
structure Layout.Sound (layout : Layout) (outputs : List Output) : Prop where
  valid : ∀ setting ∈ layout.outputs, setting.validate = .ok ()
  distinct : (layout.outputs.map Setting.name).Nodup
  present : ∀ setting ∈ layout.outputs,
    setting.name ∈ outputs.map Output.name
  sourced : ∀ setting ∈ layout.outputs, setting.enabled = true →
    setting.mirrorOf ≠ "" → ∃ source ∈ layout.outputs,
      source.name = setting.mirrorOf ∧ source.independent = true

/-- A setting of a sound layout is found by its name. -/
theorem Layout.Sound.find {layout : Layout} {outputs : List Output}
    (sound : layout.Sound outputs) {setting : Setting}
    (member : setting ∈ layout.outputs) {name : String}
    (same : name = setting.name) :
    (layout.outputs.find? fun setting => setting.name == name) =
      some setting := by
  obtain ⟨other, found⟩ := Option.isSome_iff_exists.mp
    (List.find?_isSome.mpr ⟨setting, member, by simp [same]⟩ :
      (layout.outputs.find? fun setting => setting.name == name).isSome = true)
  have otherName := List.find?_some found
  rw [found, List.inj_on_of_nodup_map sound.distinct
    (List.mem_of_find?_eq_some found) member (by simpa [same] using otherName)]

theorem Layout.checkSetting_eq_ok {layout : Layout} {outputs : List Output}
    {seen : List String} {setting : Setting}
    (checked : layout.checkSetting outputs seen setting = .ok ()) :
    setting.validate = .ok () ∧ setting.name ∉ seen ∧
      setting.name ∈ outputs.map Output.name ∧
      (setting.enabled = true → setting.mirrorOf ≠ "" →
        ∃ source ∈ layout.outputs, source.name = setting.mirrorOf ∧
          source.independent = true) := by
  unfold checkSetting at checked
  obtain ⟨⟨⟩, valid, checked⟩ := bind_eq_ok_iff.mp checked
  simp only [throw, throwThe, MonadExceptOf.throw, error_bind,
    refusal_eq_ok_iff] at checked
  obtain ⟨fresh, checked⟩ := checked
  refine ⟨valid, fresh, ?_⟩
  cases found : outputs.find? fun output => output.name == setting.name with
  | none => simp [found] at checked
  | some output =>
      refine ⟨?_, ?_⟩
      · exact name_of_named found ▸ List.mem_map_of_mem (mem_of_named found)
      · intro enabled mirror
        simp only [found, enabled, if_true, refusal_eq_ok_iff] at checked
        simpa [mirror] using checked.1

theorem Layout.checkSettings_eq_ok {layout : Layout} {outputs : List Output}
    {settings : List Setting} {seen names : List String}
    (checked : layout.checkSettings outputs seen settings = .ok names) :
    (∀ setting ∈ settings, ∃ before,
      layout.checkSetting outputs before setting = .ok ()) ∧
      (settings.map Setting.name).Nodup ∧
      (∀ name ∈ settings.map Setting.name, name ∉ seen) ∧
      ∀ name, name ∈ names ↔ name ∈ seen ∨ name ∈ settings.map Setting.name := by
  induction settings generalizing seen with
  | nil =>
      simp only [checkSettings, Except.ok.injEq] at checked
      simp [checked]
  | cons setting rest ih =>
      obtain ⟨⟨⟩, first, checked⟩ := bind_eq_ok_iff.mp checked
      obtain ⟨each, distinct, fresh, known⟩ := ih checked
      refine ⟨?_, ?_, ?_, ?_⟩
      · intro other member
        rcases List.mem_cons.mp member with rfl | inRest
        · exact ⟨seen, first⟩
        · exact each other inRest
      · refine List.nodup_cons.mpr ⟨?_, distinct⟩
        intro repeated
        exact fresh _ repeated (by simp)
      · intro name member
        rcases List.mem_cons.mp member with rfl | inRest
        · exact (checkSetting_eq_ok first).2.1
        · exact fun old => fresh name inRest (by simp [old])
      · intro name
        rw [known]
        simp [or_assoc, or_left_comm]

theorem Layout.validate_eq_ok {layout : Layout} {outputs : List Output}
    {complete : Bool}
    (valid : layout.validate outputs complete = .ok ()) :
    layout.Sound outputs ∧
      (∃ setting ∈ layout.outputs, setting.independent = true) ∧
      (complete = true → ∀ output ∈ outputs, connector output.name = true →
        output.name ∈ layout.outputs.map Setting.name) := by
  unfold validate at valid
  simp only [throw, throwThe, MonadExceptOf.throw, error_bind,
    refusal_eq_ok_iff] at valid
  obtain ⟨-, valid⟩ := valid
  obtain ⟨names, checked, valid⟩ := bind_eq_ok_iff.mp valid
  simp only [refusal_eq_ok_iff] at valid
  obtain ⟨anchored, covered, -⟩ := valid
  obtain ⟨each, distinct, -, known⟩ := checkSettings_eq_ok checked
  have parts := fun setting member =>
    checkSetting_eq_ok (each setting member).choose_spec
  refine ⟨⟨?_, distinct, ?_, ?_⟩, ?_, ?_⟩
  · exact fun setting member => (parts setting member).1
  · exact fun setting member => (parts setting member).2.2.1
  · exact fun setting member => (parts setting member).2.2.2
  · simpa using anchored
  · intro isComplete output member isConnector
    have seen : output.name ∈ names := by
      by_contra unseen
      refine covered ⟨isComplete, ?_⟩
      simpa using ⟨output, member, isConnector, unseen⟩
    simpa using (known output.name).mp seen

/-! ### What can stop a layout -/

namespace Layout

/-- An active mirror that the layout detaches before anything else. -/
structure Frees (layout : Layout) (outputs : List Output) (output : Output) :
    Prop where
  active : output.active = true
  mirrored : output.mirrored = true
  detaches : Service.detaches layout outputs output = true

/-- A display shows its setting already, or no display outside of the layout
mirrors it. -/
def Unclaimed (layout : Layout) (outputs : List Output)
    (setting : Setting) : Prop :=
  (∀ output, named outputs setting.name = some output →
    setting.Shown output outputs) ∨
  ∀ other ∈ outputs, other.active = true →
    other.mirrorName outputs = some setting.name →
      other.name ∈ layout.outputs.map Setting.name

/-- The mirrors that have to be detached have valid settings, no display
outside of the layout mirrors what becomes a mirror or goes dark, and if the
layout turns everything off, there is something else to use. -/
structure Applicable (layout : Layout) (outputs : List Output) : Prop where
  detachable : ∀ output ∈ outputs, layout.Frees outputs output →
    (Service.detached output outputs).validate = .ok ()
  unclaimed : ∀ setting ∈ layout.outputs, setting.independent = false →
    layout.Unclaimed outputs setting
  replaceable : (∃ setting ∈ layout.outputs, setting.enabled = true) ∨
    (∀ setting ∈ layout.outputs, ∀ output,
      named outputs setting.name = some output → output.disabled = true) ∨
    ∃ output ∈ outputs, output.name ∉ layout.outputs.map Setting.name ∧
      output.usable = true

/-- Every setting matches its output. -/
def Matched (layout : Layout) (current : List Output) : Prop :=
  ∀ setting ∈ layout.outputs, ∃ output,
    named current setting.name = some output ∧
      setting.matchesOutput output current = true

/-! ### Detaching -/

/-- What detaching makes of an output. -/
def Prepares (layout : Layout) (outputs : List Output)
    (original output : Output) : Prop :=
  (¬ layout.Frees outputs original ∧ output = original) ∨
  (layout.Frees outputs original ∧ output.usable = true)

omit [Decimals] in
/-- What is prepared is dark if and only if it has been dark before. -/
theorem Prepares.disabled {layout : Layout} {outputs : List Output}
    {original output : Output}
    (prepares : layout.Prepares outputs original output) :
    output.disabled = original.disabled := by
  rcases prepares with ⟨-, rfl⟩ | ⟨freed, usable⟩
  · rfl
  · rw [Output.enabled_of_active (Output.usable_iff.mp usable).1,
      Output.enabled_of_active freed.active]

/-- Some mirrors have been detached, and nothing else has changed. -/
structure Freed (outputs freed current : List Output) : Prop where
  keys : current.map Output.key = outputs.map Output.key
  valid : ∀ output ∈ freed,
    (Service.detached output outputs).validate = .ok ()
  kept : ∀ name, name ∉ freed.map Output.name →
    named current name = named outputs name
  usable : ∀ output ∈ freed, ∃ other,
    named current output.name = some other ∧ other.usable = true

/-- The loop over the active mirrors of the outputs. -/
structure Detaching (layout : Layout) (outputs behind ahead : List Output)
    (current : List Output) : Prop where
  whole : behind ++ ahead =
    outputs.filter fun output => output.active && output.mirrored
  freed : Freed outputs (behind.filter (Service.detaches layout outputs)) current

end Layout

theorem Service.independent_detached {outputs : List Output} {output : Output}
    (active : output.active = true) :
    (detached output outputs).independent = true := by
  simp [detached, Setting.independent, Setting.observed,
    Output.enabled_of_active active]

namespace Layout.Freed

variable {layout : Layout} {outputs : List Output}

theorem sent {freed current after : List Output} {output : Output}
    (known : Freed outputs freed current) (active : output.active = true)
    (fresh : output.name ∉ freed.map Output.name)
    (sent : (Service.detached output outputs).Sent current after) :
    Freed outputs (freed ++ [output]) after where
  keys := sent.takes.keys.trans known.keys
  valid other member := by
    rcases List.mem_append.mp member with earlier | now
    · exact known.valid other earlier
    · rw [List.mem_singleton] at now
      exact now ▸ sent.valid
  kept name other := by
    simp only [List.map_append, List.mem_append, List.map_singleton,
      List.mem_singleton, not_or] at other
    rw [sent.takes.others name other.2]
    exact known.kept name other.1
  usable other member := by
    rcases List.mem_append.mp member with earlier | now
    · rw [sent.takes.others]
      · exact known.usable other earlier
      · intro same
        have name : other.name = output.name := same
        exact fresh (name ▸ List.mem_map_of_mem earlier)
    · rw [List.mem_singleton] at now
      obtain ⟨source, found, shown⟩ := sent.exists_shown
      exact ⟨source, now ▸ found,
        shown.usable (Service.independent_detached active)⟩

/-- What the loop leaves of every output. -/
theorem prepares {current : List Output}
    (known : Freed outputs
      ((outputs.filter fun output => output.active && output.mirrored).filter
        (Service.detaches layout outputs)) current)
    (distinct : Distinct outputs) {name : String} {output : Output}
    (found : named current name = some output) :
    ∃ original, named outputs name = some original ∧
      layout.Prepares outputs original output := by
  by_cases inFreed : name ∈ ((outputs.filter fun output =>
      output.active && output.mirrored).filter
        (Service.detaches layout outputs)).map Output.name
  · obtain ⟨original, isFreed, rfl⟩ := List.mem_map.mp inFreed
    obtain ⟨other, isOther, usable⟩ := known.usable original isFreed
    rw [found, Option.some.injEq] at isOther
    simp only [List.mem_filter, Bool.and_eq_true] at isFreed
    obtain ⟨⟨member, active, mirrored⟩, detaches⟩ := isFreed
    exact ⟨original, named_of_mem distinct member,
      .inr ⟨⟨active, mirrored, detaches⟩, isOther ▸ usable⟩⟩
  · have same := known.kept name inFreed
    rw [found] at same
    refine ⟨output, same.symm, .inl ⟨?_, rfl⟩⟩
    rintro ⟨active, mirrored, detaches⟩
    refine inFreed (List.mem_map.mpr ⟨output, ?_, name_of_named found⟩)
    simp [mem_of_named same.symm, active, mirrored, detaches]

end Layout.Freed

namespace Service

variable {world : Surroundings} {generation : Nat} {layout : Layout}
  {outputs : List Output}

omit [Decimals] in
/-- A desktop of its own may always be sent. -/
theorem permit_of_independent {setting : Setting}
    (independent : setting.independent = true) :
    setting.permit outputs = .ok () := by
  obtain ⟨enabled, own⟩ := Bool.and_eq_true_iff.mp independent
  refine Setting.permit_eq_ok_iff.mpr ⟨?_, ?_, ?_⟩
  · simp [independent]
  · exact fun _ mirror => absurd (by simpa using own) mirror
  · simp [enabled]

theorem meets_detach (exact : world.Exact generation)
    (distinct : Distinct outputs) (purpose : Purpose)
    (behind : List Output) (output : Output) (ahead : List Output) :
    Meets
      (fun session => layout.Detaching outputs behind (output :: ahead)
        session.topology)
      (detach world purpose generation layout outputs output)
      (fun _ session => layout.Detaching outputs (behind ++ [output]) ahead
        session.topology)
      (fun _ _ => ¬ layout.Applicable outputs) := by
  intro session invariant
  have inFilter : output ∈ outputs.filter fun output =>
      output.active && output.mirrored := by
    rw [← invariant.whole]
    simp
  obtain ⟨member, active, mirrored⟩ : output ∈ outputs ∧
      output.active = true ∧ output.mirrored = true := by
    simpa using inFilter
  have whole : (behind ++ [output]) ++ ahead =
      outputs.filter fun output => output.active && output.mirrored := by
    simpa using invariant.whole
  have fresh : output.name ∉
      (behind.filter (detaches layout outputs)).map Output.name := by
    have names := distinct.sublist (List.filter_sublist.map Output.name :
      ((outputs.filter fun output =>
        output.active && output.mirrored).map Output.name).Sublist _)
    rw [← invariant.whole, List.map_append, List.map_cons,
      List.nodup_append] at names
    intro repeated
    have inBehind := (List.filter_sublist.map Output.name).subset repeated
    exact names.2.2 _ inBehind _ (by simp) rfl
  unfold detach
  cases detaching : detaches layout outputs output with
  | false =>
      refine ⟨whole, ?_⟩
      simpa [List.filter_append, detaching] using invariant.freed
  | true =>
      have independent : (detached output outputs).independent = true :=
        independent_detached active
      obtain ⟨after, ⟨-, idle, -⟩ | ⟨⟨text, done⟩, refused, -⟩ |
        ⟨done, sent, -⟩⟩ :=
          applySetting_exact exact purpose (detached output outputs) session
      · have distinct' : Distinct session.topology := by
          unfold Distinct
          rwa [names_congr invariant.freed.keys]
        have found : named session.topology output.name = some output := by
          rw [invariant.freed.kept _ fresh, named_of_mem distinct member]
        have shown := ((Setting.matchesOutput_iff distinct').mp
          (idle output found)).1
        have usable := Output.usable_iff.mp (shown.usable independent)
        rw [mirrored] at usable
        cases usable.2
      · simp only [if_true, done]
        intro applicable
        refine refused.forbidden (permit_of_independent independent) ?_
        exact applicable.detachable output member
          ⟨active, mirrored, detaching⟩
      · simp only [if_true, done]
        refine ⟨whole, ?_⟩
        simpa [List.filter_append, detaching] using
          invariant.freed.sent active fresh sent

end Service

/-! ### Settling in order -/

namespace Layout

omit [Decimals] in
theorem mem_ordered {layout : Layout} {setting : Setting} :
    setting ∈ layout.ordered ↔ setting ∈ layout.outputs :=
  List.mem_insertionSort _

omit [Decimals] in
theorem rank_of_independent {setting : Setting}
    (independent : setting.independent = true) :
    rank setting = 0 := by
  obtain ⟨enabled, own⟩ := Bool.and_eq_true_iff.mp independent
  simp [rank, enabled, own]

omit [Decimals] in
theorem rank_of_dependent {setting : Setting}
    (dependent : setting.independent = false) :
    0 < rank setting := by
  cases enabled : setting.enabled with
  | false => simp [rank, enabled]
  | true =>
      have mirror : setting.mirrorOf ≠ "" := by
        simpa [Setting.independent, enabled] using dependent
      simp [rank, enabled, mirror]

omit [Decimals] in
theorem ordered_pairwise (layout : Layout) :
    layout.ordered.Pairwise fun left right => rank left ≤ rank right := by
  have total : Std.Total fun left right : Setting => rank left ≤ rank right :=
    ⟨fun left right => Nat.le_total _ _⟩
  have trans : IsTrans Setting fun left right => rank left ≤ rank right :=
    ⟨fun _ _ _ => Nat.le_trans⟩
  exact List.pairwise_insertionSort _ _

/-- The second loop.  What is behind shows its setting, what is ahead is as
detaching has left it. -/
structure Arranging (layout : Layout) (outputs : List Output)
    (behind ahead : List Setting) (current : List Output) : Prop where
  whole : behind ++ ahead = layout.ordered
  keys : current.map Output.key = outputs.map Output.key
  others : ∀ name, name ∉ layout.outputs.map Setting.name →
    named current name = named outputs name
  prepared : ∀ setting ∈ ahead, ∀ output,
    named current setting.name = some output →
      ∃ original, named outputs setting.name = some original ∧
        layout.Prepares outputs original output
  shown : ∀ setting ∈ behind, ∀ output,
    named current setting.name = some output → setting.Shown output current
  unclaimed : ∀ setting ∈ behind, setting.independent = false →
    layout.Unclaimed outputs setting
  usable : ∀ setting ∈ behind, (setting.enabled = true ∨ ∃ output,
    named outputs setting.name = some output ∧ output.disabled = false) →
      SomeUsable current

namespace Arranging

variable {layout : Layout} {outputs current : List Output}
  {behind ahead : List Setting} {setting : Setting}

theorem mem_outputs (arranging : layout.Arranging outputs behind ahead current)
    (member : setting ∈ behind ∨ setting ∈ ahead) :
    setting ∈ layout.outputs := by
  rw [← mem_ordered, ← arranging.whole]
  exact List.mem_append.mpr member

theorem distinct (arranging : layout.Arranging outputs behind ahead current)
    (distinct : Distinct outputs) : Distinct current := by
  unfold Distinct
  rwa [names_congr arranging.keys]

/-- Every setting of the layout has its output. -/
theorem exists_output
    (arranging : layout.Arranging outputs behind ahead current)
    (sound : layout.Sound outputs) (member : setting ∈ layout.outputs) :
    ∃ output, named current setting.name = some output := by
  refine exists_named ?_
  rw [names_congr arranging.keys]
  exact sound.present setting member

/-- What ranks lower is behind. -/
theorem mem_behind {other : Setting}
    (arranging : layout.Arranging outputs behind (setting :: ahead) current)
    (member : other ∈ layout.outputs) (lower : rank other < rank setting) :
    other ∈ behind := by
  have inOrdered := mem_ordered.mpr member
  have pairwise := layout.ordered_pairwise
  rw [← arranging.whole] at inOrdered pairwise
  rcases List.mem_append.mp inOrdered with inBehind | inAhead
  · exact inBehind
  · have later := (List.pairwise_append.mp pairwise).2.1
    rcases List.mem_cons.mp inAhead with rfl | inAhead
    · omega
    · have notLower := (List.pairwise_cons.mp later).1 other inAhead
      omega

/-- No other setting is for the same output. -/
theorem name_ne {other : Setting}
    (arranging : layout.Arranging outputs behind (setting :: ahead) current)
    (sound : layout.Sound outputs)
    (member : other ∈ behind ∨ other ∈ ahead) : other.name ≠ setting.name := by
  have names : (layout.ordered.map Setting.name).Nodup :=
    ((List.perm_insertionSort _ _).map _).nodup_iff.mpr sound.distinct
  rw [← arranging.whole, List.map_append, List.map_cons, List.nodup_append,
    List.nodup_cons] at names
  intro same
  rcases member with inBehind | inAhead
  · exact names.2.2 _ (List.mem_map_of_mem inBehind) _ (by simp) same
  · exact names.2.1.1 (same ▸ List.mem_map_of_mem inAhead)

/-- A desktop of its own that is behind is there. -/
theorem usable_of_independent
    (arranging : layout.Arranging outputs behind ahead current)
    (sound : layout.Sound outputs) (member : setting ∈ behind)
    (independent : setting.independent = true) :
    ∃ output, named current setting.name = some output ∧
      output.usable = true := by
  obtain ⟨output, found⟩ :=
    arranging.exists_output sound (arranging.mem_outputs (.inl member))
  exact ⟨output, found,
    (arranging.shown setting member output found).usable independent⟩

/-- The source of the next mirror is there. -/
theorem sourced
    (arranging : layout.Arranging outputs behind (setting :: ahead) current)
    (sound : layout.Sound outputs) : setting.Sourced current := by
  intro enabled mirror
  obtain ⟨source, member, same, independent⟩ := sound.sourced setting
    (arranging.mem_outputs (.inr (by simp))) enabled mirror
  have lower : rank source < rank setting := by
    rw [rank_of_independent independent]
    exact rank_of_dependent (by simp [Setting.independent, mirror])
  obtain ⟨output, found, usable⟩ := arranging.usable_of_independent sound
    (arranging.mem_behind member lower) independent
  exact ⟨output, same ▸ found, usable⟩

/-- Detaching changes neither what is dark nor what mirrors its source. -/
theorem shown_iff {original output : Output}
    (keys : current.map Output.key = outputs.map Output.key)
    (sound : layout.Sound outputs) (member : setting ∈ layout.outputs)
    (dependent : setting.independent = false)
    (name : original.name = setting.name)
    (prepares : layout.Prepares outputs original output) :
    setting.Shown output current ↔ setting.Shown original outputs := by
  rcases prepares with ⟨-, rfl⟩ | ⟨freed, usable⟩
  · exact ⟨fun shown => shown.congr keys, fun shown => shown.congr keys.symm⟩
  · obtain ⟨active, unmirrored⟩ := Output.usable_iff.mp usable
    obtain ⟨wasActive, -, detaches⟩ := freed
    have on := Output.enabled_of_active active
    have wasOn := Output.enabled_of_active wasActive
    have mirror (enabled : setting.enabled = true) : setting.mirrorOf ≠ "" := by
      simpa [Setting.independent, enabled] using dependent
    have isNamed : (layout.outputs.find? fun setting =>
        setting.name == original.name) = some setting :=
      sound.find member name
    constructor
    · intro shown
      have enabled : setting.enabled = true := by
        simpa [on] using shown.disabled
      have mirrored := Output.mirrored_of_mirrorName
        (shown.mirror enabled (mirror enabled))
      rw [unmirrored] at mirrored
      cases mirrored
    · intro shown
      have enabled : setting.enabled = true := by
        simpa [wasOn] using shown.disabled
      have source := shown.mirror enabled (mirror enabled)
      have kept : original.mirrorName outputs ≠ some setting.mirrorOf := by
        simpa [Service.detaches, isNamed, enabled, Output.mirrorName] using
          detaches
      exact absurd source kept

/-- Whatever a display of the layout mirrors is to be a desktop of its own. -/
theorem independent_of_claimed
    (arranging : layout.Arranging outputs behind ahead current)
    (sound : layout.Sound outputs) {output : Output} {name : String}
    (found : named current output.name = some output)
    (listed : output.name ∈ layout.outputs.map Setting.name)
    (active : output.active = true)
    (claims : output.mirrorName current = some name) (named : name ≠ "") :
    ∃ source ∈ layout.outputs, source.name = name ∧
      source.independent = true := by
  have mirrored := Output.mirrored_of_mirrorName claims
  obtain ⟨setting, member, same⟩ := List.mem_map.mp listed
  have inOrdered := mem_ordered.mpr member
  rw [← arranging.whole] at inOrdered
  rw [← same] at found
  rcases List.mem_append.mp inOrdered with inBehind | inAhead
  · have shown := arranging.shown setting inBehind output found
    have enabled : setting.enabled = true := by
      simpa [Output.enabled_of_active active] using shown.disabled
    have mirror : setting.mirrorOf ≠ "" := by
      intro own
      rw [(shown.position enabled own).1] at mirrored
      cases mirrored
    obtain ⟨source, isSource, sourceName, independent⟩ :=
      sound.sourced setting member enabled mirror
    rw [shown.mirror enabled mirror, Option.some.injEq] at claims
    exact ⟨source, isSource, sourceName.trans claims, independent⟩
  · obtain ⟨original, -, prepares⟩ :=
      arranging.prepared setting inAhead output found
    rcases prepares with ⟨notFreed, rfl⟩ | ⟨-, usable⟩
    · have isNamed : (layout.outputs.find? fun setting =>
          setting.name == output.name) = some setting :=
        sound.find member same.symm
      rw [Output.mirrorName_congr arranging.keys] at claims
      have kept : setting.enabled = true ∧ name = setting.mirrorOf := by
        have attached : Service.detaches layout outputs output = false := by
          by_contra detaches
          exact notFreed ⟨active, mirrored, by simpa using detaches⟩
        have claims' := claims
        unfold Output.mirrorName at claims'
        simpa [Service.detaches, isNamed, claims'] using attached
      obtain ⟨source, isSource, sourceName, independent⟩ :=
        sound.sourced setting member kept.1 (kept.2 ▸ named)
      exact ⟨source, isSource, sourceName.trans kept.2.symm, independent⟩
    · rw [(Output.usable_iff.mp usable).2] at mirrored
      cases mirrored

/-- The next setting is unclaimed once its output shows it. -/
theorem unclaimed_of_shown
    (arranging : layout.Arranging outputs behind (setting :: ahead) current)
    (sound : layout.Sound outputs) {output : Output}
    (found : named current setting.name = some output)
    (shown : setting.Shown output current)
    (dependent : setting.independent = false) :
    layout.Unclaimed outputs setting := by
  obtain ⟨original, isOriginal, prepares⟩ :=
    arranging.prepared setting (by simp) output found
  refine .inl fun other isOther => ?_
  rw [isOriginal, Option.some.injEq] at isOther
  rw [← isOther]
  exact (shown_iff arranging.keys sound (arranging.mem_outputs (.inr (by simp)))
    dependent (name_of_named isOriginal) prepares).mp shown

theorem step_idle
    (arranging : layout.Arranging outputs behind (setting :: ahead) current)
    (distinct : Distinct outputs) (sound : layout.Sound outputs)
    (idle : setting.Idle current) :
    layout.Arranging outputs (behind ++ [setting]) ahead current := by
  have member := arranging.mem_outputs (.inr (by simp : setting ∈ _ :: ahead))
  obtain ⟨output, found⟩ := arranging.exists_output sound member
  obtain ⟨shown, sourced⟩ := (Setting.matchesOutput_iff
    (arranging.distinct distinct)).mp (idle output found)
  refine ⟨by simpa using arranging.whole, arranging.keys, arranging.others,
    fun other inAhead => arranging.prepared other (by simp [inAhead]),
    ?_, ?_, ?_⟩
  · intro other inBehind otherOutput isOther
    rcases List.mem_append.mp inBehind with earlier | now
    · exact arranging.shown other earlier otherOutput isOther
    · rw [List.mem_singleton.mp now] at isOther ⊢
      rw [found, Option.some.injEq] at isOther
      exact isOther ▸ shown
  · intro other inBehind dependent
    rcases List.mem_append.mp inBehind with earlier | now
    · exact arranging.unclaimed other earlier dependent
    · rw [List.mem_singleton.mp now] at dependent ⊢
      exact arranging.unclaimed_of_shown sound found shown dependent
  · intro other inBehind changed
    rcases List.mem_append.mp inBehind with earlier | now
    · exact arranging.usable other earlier changed
    · rw [List.mem_singleton.mp now] at changed
      cases enabled : setting.enabled with
      | true =>
          by_cases own : setting.mirrorOf = ""
          · exact ⟨output, mem_of_named found,
              shown.usable (by simp [Setting.independent, enabled, own])⟩
          · obtain ⟨source, isSource, usable⟩ := sourced enabled own
            exact ⟨source, mem_of_named isSource, usable⟩
      | false =>
          obtain ⟨original, isOriginal, prepares⟩ :=
            arranging.prepared setting (by simp) output found
          have dark := shown.disabled
          rw [enabled, prepares.disabled] at dark
          simp [enabled, isOriginal, dark] at changed

theorem step_sent {after : List Output}
    (arranging : layout.Arranging outputs behind (setting :: ahead) current)
    (distinct : Distinct outputs) (sound : layout.Sound outputs)
    (sent : setting.Sent current after) :
    layout.Arranging outputs (behind ++ [setting]) ahead after := by
  have member := arranging.mem_outputs (.inr (by simp : setting ∈ _ :: ahead))
  refine ⟨by simpa using arranging.whole,
    sent.takes.keys.trans arranging.keys, ?_, ?_, ?_, ?_,
    fun _ _ _ => sent.someUsable (arranging.distinct distinct)⟩
  · intro name unlisted
    have different : name ≠ setting.name := by
      rintro rfl
      exact unlisted (List.mem_map_of_mem member)
    rw [sent.takes.others name different, arranging.others name unlisted]
  · intro other inAhead output found
    rw [sent.takes.others _
      (arranging.name_ne sound (.inr inAhead))] at found
    exact arranging.prepared other (by simp [inAhead]) output found
  · intro other inBehind output found
    rcases List.mem_append.mp inBehind with earlier | now
    · rw [sent.takes.others _
        (arranging.name_ne sound (.inl earlier))] at found
      exact (arranging.shown other earlier output found).congr
        sent.takes.keys.symm
    · rw [List.mem_singleton.mp now] at found ⊢
      exact sent.takes.shown output found
  · intro other inBehind dependent
    rcases List.mem_append.mp inBehind with earlier | now
    · exact arranging.unclaimed other earlier dependent
    · rw [List.mem_singleton.mp now] at dependent ⊢
      have free := (Setting.permit_eq_ok_iff.mp sent.admitted).1 dependent
      refine .inr fun claimer isClaimer active claims => ?_
      by_contra unlisted
      have found := named_of_mem distinct isClaimer
      rw [← arranging.others _ unlisted] at found
      rw [← Output.mirrorName_congr arranging.keys] at claims
      have claimed := Output.mirroredBy_iff.mpr
        ⟨claimer, mem_of_named found, active, claims⟩
      rw [free] at claimed
      cases claimed

/-- If anything is to be on, the desktops of the layout are behind its dark
displays. -/
theorem replacement
    (arranging : layout.Arranging outputs behind (setting :: ahead) current)
    (sound : layout.Sound outputs) (off : setting.enabled = false)
    (on : ∃ other ∈ layout.outputs, other.enabled = true) :
    ∃ other ∈ current, other.name ≠ setting.name ∧ other.usable = true := by
  obtain ⟨other, isOther, enabled⟩ := on
  obtain ⟨source, isSource, independent⟩ : ∃ source ∈ layout.outputs,
      source.independent = true := by
    by_cases own : other.mirrorOf = ""
    · exact ⟨other, isOther, by simp [Setting.independent, enabled, own]⟩
    · obtain ⟨source, isSource, -, independent⟩ :=
        sound.sourced other isOther enabled own
      exact ⟨source, isSource, independent⟩
  have lower : rank source < rank setting := by
    rw [rank_of_independent independent]
    exact rank_of_dependent (by simp [Setting.independent, off])
  have inBehind := arranging.mem_behind isSource lower
  obtain ⟨output, found, usable⟩ :=
    arranging.usable_of_independent sound inBehind independent
  refine ⟨output, mem_of_named found, ?_, usable⟩
  rw [name_of_named found]
  exact arranging.name_ne sound (.inl inBehind)

/-- The next setting is only refused where the layout is not applicable. -/
theorem not_applicable
    (arranging : layout.Arranging outputs behind (setting :: ahead) current)
    (distinct : Distinct outputs) (sound : layout.Sound outputs)
    (refused : setting.Refused current) : ¬ layout.Applicable outputs := by
  intro applicable
  have member := arranging.mem_outputs (.inr (by simp : setting ∈ _ :: ahead))
  have valid := sound.valid setting member
  refine refused.forbidden ?_ valid
  obtain ⟨output, found⟩ := arranging.exists_output sound member
  obtain ⟨original, isOriginal, prepares⟩ :=
    arranging.prepared setting (by simp) output found
  have hidden : ¬ setting.Shown output current := by
    intro shown
    refine refused.busy fun other isOther => ?_
    rw [found, Option.some.injEq] at isOther
    exact (Setting.matchesOutput_iff (arranging.distinct distinct)).mpr
      ⟨isOther ▸ shown, arranging.sourced sound⟩
  refine Setting.permit_eq_ok_iff.mpr ⟨?_, ?_, ?_⟩
  · intro dependent
    rcases applicable.unclaimed setting member dependent with shown | listed
    · refine absurd ?_ hidden
      exact (shown_iff arranging.keys sound member dependent
        (name_of_named isOriginal) prepares).mpr (shown original isOriginal)
    · by_contra claimed
      obtain ⟨claimer, isClaimer, active, claims⟩ :=
        Output.mirroredBy_iff.mp (by simpa using claimed)
      have isNamed := named_of_mem (arranging.distinct distinct) isClaimer
      by_cases inLayout : claimer.name ∈ layout.outputs.map Setting.name
      · obtain ⟨source, isSource, same, independent⟩ :=
          arranging.independent_of_claimed sound isNamed inLayout active
            claims (connector_ne_empty (Setting.validate_eq_ok valid).connector)
        rw [List.inj_on_of_nodup_map sound.distinct isSource member same,
          dependent] at independent
        cases independent
      · rw [arranging.others _ inLayout] at isNamed
        rw [Output.mirrorName_congr arranging.keys] at claims
        exact inLayout (listed claimer (mem_of_named isNamed) active claims)
  · intro enabled mirror
    obtain ⟨source, isSource, usable⟩ := arranging.sourced sound enabled mirror
    exact ⟨source, mem_of_named isSource, name_of_named isSource, usable⟩
  · intro off
    rcases applicable.replaceable with on | dark | ⟨other, isOther, unlisted,
      usable⟩
    · exact arranging.replacement sound off on
    · refine absurd ⟨?_, ?_, ?_, ?_, ?_, ?_⟩ hidden
      · rw [prepares.disabled, off]
        exact dark setting member original isOriginal
      all_goals simp [off]
    · refine ⟨other, ?_, ?_, usable⟩
      · have isNamed := named_of_mem distinct isOther
        rw [← arranging.others _ unlisted] at isNamed
        exact mem_of_named isNamed
      · intro same
        exact unlisted (same ▸ List.mem_map_of_mem member)

/-- At the end, everything is as the layout wants it. -/
theorem finish (arranging : layout.Arranging outputs behind [] current)
    (distinct : Distinct outputs) (sound : layout.Sound outputs)
    (detachable : ∀ output ∈ outputs, layout.Frees outputs output →
      (Service.detached output outputs).validate = .ok ()) :
    layout.Applicable outputs ∧ layout.Matched current := by
  have inBehind {setting : Setting} (member : setting ∈ layout.outputs) :
      setting ∈ behind := by
    rwa [← mem_ordered, ← arranging.whole, List.append_nil] at member
  refine ⟨⟨detachable, ?_, ?_⟩, ?_⟩
  · exact fun setting member => arranging.unclaimed setting (inBehind member)
  · by_cases on : ∃ setting ∈ layout.outputs, setting.enabled = true
    · exact .inl on
    by_cases dark : ∀ setting ∈ layout.outputs, ∀ output,
        named outputs setting.name = some output → output.disabled = true
    · exact .inr (.inl dark)
    push Not at dark
    obtain ⟨setting, member, output, found, lit⟩ := dark
    obtain ⟨other, isOther, usable⟩ := arranging.usable setting
      (inBehind member) (.inr ⟨output, found, by simpa using lit⟩)
    have isNamed := named_of_mem (arranging.distinct distinct) isOther
    have unlisted : other.name ∉ layout.outputs.map Setting.name := by
      intro listed
      obtain ⟨shown, isShown, same⟩ := List.mem_map.mp listed
      have dark := (arranging.shown shown (inBehind isShown) other
        (same ▸ isNamed)).disabled
      rw [Output.enabled_of_active (Output.usable_iff.mp usable).1] at dark
      exact on ⟨shown, isShown, by simpa using dark.symm⟩
    rw [arranging.others _ unlisted] at isNamed
    exact .inr (.inr ⟨other, mem_of_named isNamed, unlisted, usable⟩)
  · intro setting member
    obtain ⟨output, found⟩ := arranging.exists_output sound member
    refine ⟨output, found, (Setting.matchesOutput_iff
      (arranging.distinct distinct)).mpr
        ⟨arranging.shown setting (inBehind member) output found, ?_⟩⟩
    intro enabled mirror
    obtain ⟨source, isSource, same, independent⟩ :=
      sound.sourced setting member enabled mirror
    obtain ⟨other, isOther, usable⟩ := arranging.usable_of_independent sound
      (inBehind isSource) independent
    exact ⟨other, same ▸ isOther, usable⟩

end Arranging

end Layout

namespace Service

variable {world : Surroundings} {generation : Nat} {layout : Layout}
  {outputs : List Output}

theorem meets_settle (exact : world.Exact generation)
    (distinct : Distinct outputs) (sound : layout.Sound outputs)
    (purpose : Purpose) (behind : List Setting) (setting : Setting)
    (ahead : List Setting) :
    Meets
      (fun session => layout.Arranging outputs behind (setting :: ahead)
        session.topology)
      (applySetting world purpose generation setting)
      (fun _ session => layout.Arranging outputs (behind ++ [setting]) ahead
        session.topology)
      (fun _ _ => ¬ layout.Applicable outputs) := by
  intro session arranging
  obtain ⟨after, ⟨done, idle, topology, -⟩ | ⟨⟨text, done⟩, refused, -⟩ |
    ⟨done, sent, -⟩⟩ := applySetting_exact exact purpose setting session
  · rw [done]
    show layout.Arranging outputs (behind ++ [setting]) ahead after.topology
    rw [topology]
    exact arranging.step_idle distinct sound idle
  · rw [done]
    exact arranging.not_applicable distinct sound refused
  · rw [done]
    exact arranging.step_sent distinct sound sent

omit [Decimals] in
theorem listed_of_detaches {output : Output}
    (detaching : detaches layout outputs output = true) :
    output.name ∈ layout.outputs.map Setting.name := by
  obtain ⟨setting, found, -⟩ := (Option.any_eq_true _ _).mp detaching
  have same := List.find?_some found
  exact List.mem_map.mpr ⟨setting, List.mem_of_find?_eq_some found,
    by simpa using same⟩

/-- A sound layout is applied completely if it is applicable, and fails
otherwise. -/
theorem meets_apply (exact : world.Exact generation)
    (distinct : Distinct outputs) (sound : layout.Sound outputs)
    (purpose : Purpose) :
    Meets (fun session => session.topology = outputs)
      (apply world purpose layout)
      (fun _ session => layout.Applicable outputs ∧
        layout.Matched session.topology)
      (fun _ _ => ¬ layout.Applicable outputs) := by
  rintro session rfl
  obtain ⟨listed, topology, -, same⟩ :=
    apply_exact exact purpose layout session
  rw [same]
  let mirrors := session.topology.filter fun output =>
    output.active && output.mirrored
  have detached := meets_forEach
    (fun behind ahead (state : Session) =>
      layout.Detaching session.topology behind ahead state.topology)
    (meets_detach exact distinct purpose) [] mirrors
  have settled := meets_forEach
    (fun behind ahead (state : Session) =>
      layout.Arranging session.topology behind ahead state.topology)
    (meets_settle exact distinct sound purpose) [] layout.ordered
  refine Meets.bind detached (fun _ freed detaching => ?_) listed
    ⟨rfl, topology ▸ rfl, by simp, fun _ _ => topology ▸ rfl, by simp⟩
  have known := detaching.freed
  rw [List.nil_append] at known
  have start : layout.Arranging session.topology [] layout.ordered
      freed.topology := by
    refine ⟨rfl, known.keys, ?_, ?_, by simp, by simp, by simp⟩
    · intro name unlisted
      refine known.kept name fun isFreed => unlisted ?_
      obtain ⟨output, member, rfl⟩ := List.mem_map.mp isFreed
      exact listed_of_detaches (List.mem_filter.mp member).2
    · exact fun setting _ output found => known.prepares distinct found
  refine settled.weaken (fun _ => id) ?_ (fun _ _ => id) freed start
  intro _ final arranging
  refine arranging.finish distinct sound fun output member frees => ?_
  refine known.valid output ?_
  simp [mirrors, member, frees.active, frees.mirrored, frees.detaches]

end Service

namespace Service

/-- On an exact compositor, a validated layout is applied completely if and
only if its mirrors can be detached and no display outside of it mirrors what
it takes away.  Whatever the layout, some display remains usable and no
configured mirror shows a mirror or a dark display. -/
theorem apply_on_exact_compositor {world : Surroundings} {generation : Nat}
    (exact : world.Exact generation) {session : Session}
    (distinct : Distinct session.topology) (purpose : Purpose)
    (layout : Layout) :
    session.Carefully (apply world purpose layout session).2 ∧
      ∀ complete, layout.validate session.topology complete = .ok () →
        ((apply world purpose layout session).1 = .ok () ↔
          (∀ output ∈ session.topology,
            layout.Frees session.topology output →
              (detached output session.topology).validate = .ok ()) ∧
          ∀ setting ∈ layout.outputs, setting.independent = false →
            layout.Unclaimed session.topology setting) ∧
        ((apply world purpose layout session).1 = .ok () →
          layout.Matched (apply world purpose layout session).2.topology) := by
  refine ⟨carefully_apply exact distinct purpose layout, ?_⟩
  intro complete valid
  obtain ⟨sound, ⟨setting, member, independent⟩, -⟩ :=
    Layout.validate_eq_ok valid
  have enabled := (Bool.and_eq_true_iff.mp independent).1
  have spec := meets_apply exact distinct sound purpose session rfl
  rcases result : apply world purpose layout session with ⟨outcome, after⟩
  rw [result] at spec
  cases outcome with
  | ok done =>
      refine ⟨⟨fun _ => ?_, fun _ => rfl⟩, fun _ => spec.2⟩
      exact ⟨spec.1.detachable, spec.1.unclaimed⟩
  | error failure =>
      refine ⟨⟨nofun, ?_⟩, nofun⟩
      rintro ⟨detachable, unclaimed⟩
      exact absurd ⟨detachable, unclaimed, .inl ⟨setting, member, enabled⟩⟩ spec

omit [Decimals] in
def exampleOutput (id : Int) (name mirrorOf : String) : Output :=
  ⟨id, name, "", 1920, 1080, false, .ofBits 0x3FF0000000000000, sixty, 0, 0, 0,
    ["1920x1080@60.00"], mirrorOf⟩

omit [Decimals] in
def exampleSetting (name : String) (enabled : Bool) (mirrorOf : String) :
    Setting :=
  ⟨name, "1920x1080@60.00", 0, 0, .ofBits 0x3FF0000000000000, 0, enabled,
    mirrorOf⟩

omit [Decimals] in
/-- Presenting with the panel off. -/
def monitorOnly : Layout :=
  ⟨[exampleSetting "eDP-1" false "", exampleSetting "DP-1" true ""]⟩

omit [Decimals] in
/-- Turning a mirror into the only desktop of its former source. -/
theorem apply_promotes_mirror :
    let start := Session.initial
      [exampleOutput 0 "eDP-1" "", exampleOutput 1 "DP-1" "eDP-1"]
      .initial false
    let after := (@apply (@Surroundings.obedient sixtyHertz .calm 0) sixtyHertz
      (.restore .initial) monitorOnly start).2
    start.Carefully after ∧ @Layout.Matched sixtyHertz monitorOnly
      after.topology := by
  have both := @apply_on_exact_compositor sixtyHertz _ 0
    (@obedient_exact sixtyHertz legible_sixtyHertz .calm 0)
    (Session.initial
      [exampleOutput 0 "eDP-1" "", exampleOutput 1 "DP-1" "eDP-1"]
      .initial false)
    (by unfold Distinct; decide) (.restore .initial) monitorOnly
  exact ⟨both.1, (both.2 true (by decide +kernel)).2 (by decide +kernel)⟩

omit [Decimals] in
/-- Turning off a panel that a virtual output mirrors is refused. -/
theorem apply_incomplete :
    ¬ ∀ [Decimals] (world : Surroundings) (generation : Nat)
      (session : Session) (purpose : Purpose) (layout : Layout),
      world.Exact generation → Distinct session.topology →
      layout.validate session.topology true = .ok () →
      (apply world purpose layout session).1 = .ok () := by
  intro complete
  have applied := @complete sixtyHertz
    (@Surroundings.obedient sixtyHertz .calm 0) 0
    (Session.initial [exampleOutput 0 "eDP-1" "", exampleOutput 1 "DP-1" "",
      exampleOutput 2 "HEADLESS-1" "eDP-1"] .initial false)
    (.restore .initial) monitorOnly
    (@obedient_exact sixtyHertz legible_sixtyHertz _ _)
    (by unfold Distinct; decide) (by decide +kernel)
  revert applied
  decide +kernel

end Service

end BarDaemon.Displays
