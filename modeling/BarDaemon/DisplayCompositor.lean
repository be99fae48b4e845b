import BarDaemon.DisplayApplication

/-!
# A compositor that obeys

The compositor that does every command of a setting as it is told, and the
proof that it is exact.
-/

namespace BarDaemon.Displays

variable [Decimals]

/-- Rates with two digits are read back closely.  Those of binary64 are. -/
class Legible : Prop where
  printed : ∀ text rate, Decimals.parse text = some rate →
    rate.within (.ofBits 0x3FF0000000000000)
      (.ofBits 0x408F400000000000) = true →
    (Decimals.fixed rate).toList.all modeChar = true ∧
      (Decimals.fixed rate).toList.length ≤ 28 ∧
      ∃ shown, Decimals.parse (Decimals.fixed rate) = some shown ∧
        shown.within (.ofBits 0x3FF0000000000000)
          (.ofBits 0x408F400000000000) = true ∧
        (Decimals.difference rate shown).below tolerance = true

/-- The output after the command of a setting. -/
def Setting.obeyed (setting : Setting) (output : Output) : Output :=
  match Displays.mode setting.mode with
  | some (width, height, refresh) =>
      if setting.enabled then
        { output with
          width := width
          height := height
          disabled := false
          scale := setting.scale
          refreshRate := refresh
          x := setting.x
          y := setting.y
          transform := setting.transform
          mirrorOf := setting.mirrorOf }
      else { output with disabled := true }
  | none => { output with disabled := true }

/-- The same surroundings with a compositor that obeys, where nothing fails,
nothing is plugged in or out, and nothing sleeps. -/
def Surroundings.obedient (world : Surroundings) (generation : Nat) :
    Surroundings :=
  { world with
    fate := fun _ => .answered
    writing := fun _ => .written
    hotplug := fun _ outputs => outputs
    configured := fun _ setting outputs => outputs.map fun output =>
      if output.name = setting.name then setting.obeyed output else output
    sleep := fun _ => (false, generation) }

namespace Setting

variable {setting : Setting} {output : Output} {outputs : List Output}

@[simp]
theorem key_obeyed : (setting.obeyed output).key = output.key := by
  unfold obeyed
  split
  · split <;> rfl
  · rfl

@[simp]
theorem name_obeyed : (setting.obeyed output).name = output.name :=
  congrArg Prod.fst key_obeyed

/-- Only the named output is another one. -/
theorem named_obeyed (name : String) :
    named (outputs.map fun output =>
        if output.name = setting.name then setting.obeyed output else output)
      name =
    if name = setting.name then (named outputs name).map setting.obeyed
    else named outputs name := by
  have sameName : ∀ output : Output, (if output.name = setting.name then
      setting.obeyed output else output).name = output.name := by
    intro output
    split
    · exact name_obeyed
    · rfl
  unfold named
  simp only [List.find?_map, Function.comp_def, sameName]
  cases found : outputs.find? fun output => output.name == name with
  | none => simp
  | some output =>
      have isNamed : output.name = name := by
        simpa using List.find?_some found
      subst isNamed
      by_cases own : output.name = setting.name
      · simp [own]
      · simp [own]

end Setting

omit [Decimals] in
/-- The beginning of a connector name. -/
theorem connector_head {value : String}
    (isConnector : connector value = true) :
    ∃ first rest, value.toList = first :: rest ∧
      first ∈ ['e', 'L', 'D', 'H'] := by
  simp only [connector, Bool.and_eq_true, List.any_eq_true, startsWith,
    List.isPrefixOf_iff_prefix] at isConnector
  obtain ⟨⟨⟨beginning, member, ⟨rest, whole⟩, -⟩, -⟩, -⟩ := isConnector
  rw [← whole]
  simp only [List.mem_cons, List.not_mem_nil, or_false] at member
  rcases member with rfl | rfl | rfl | rfl | rfl
  · exact ⟨'e', "DP-".toList ++ rest, rfl, by decide⟩
  · exact ⟨'L', "VDS-".toList ++ rest, rfl, by decide⟩
  · exact ⟨'D', "SI-".toList ++ rest, rfl, by decide⟩
  · exact ⟨'D', "P-".toList ++ rest, rfl, by decide⟩
  · exact ⟨'H', "DMI-A-".toList ++ rest, rfl, by decide⟩

omit [Decimals] in
/-- A connector name is no number. -/
theorem toString_ne_connector {value : String}
    (isConnector : connector value = true) (id : Int) :
    toString id ≠ value := by
  rintro rfl
  obtain ⟨first, rest, whole, isLetter⟩ := connector_head isConnector
  have sign : first.isDigit = true ∨ first = '-' := by
    cases id with
    | ofNat number =>
        have member : first ∈ Nat.toDigits 10 number := by
          have text : (toString (Int.ofNat number)).toList =
              Nat.toDigits 10 number := by
            simp [toString, Int.repr, Nat.repr_eq_ofList_toDigits]
          rw [← text, whole]
          exact List.mem_cons_self
        exact .inl (Nat.isDigit_of_mem_toDigits (by decide) (by decide) member)
    | negSucc number =>
        have text : (toString (Int.negSucc number)).toList =
            '-' :: Nat.toDigits 10 (number + 1) := by
          simp [toString, Int.repr, Nat.repr_eq_ofList_toDigits]
        rw [text] at whole
        exact .inr (List.cons.inj whole).1.symm
  simp only [List.mem_cons, List.not_mem_nil, or_false] at isLetter
  rcases isLetter with rfl | rfl | rfl | rfl <;> simp at sign

theorem mode_eq_some {value : String} {width height : Nat}
    {refresh : Binary64}
    (parsed : mode value = some (width, height, refresh)) :
    (1 ≤ width ∧ width ≤ 16384) ∧ (1 ≤ height ∧ height ≤ 16384) ∧
      (∃ text, Decimals.parse text = some refresh) ∧
      refresh.within (.ofBits 0x3FF0000000000000)
        (.ofBits 0x408F400000000000) = true := by
  simp only [mode, Option.ite_none_left_eq_some] at parsed
  have parts := parsed.2
  simp only [parseMode, Option.bind_eq_bind, Option.bind_eq_some_iff] at parts
  obtain ⟨_, -, _, -, w, -, h, -, r, read, ranged⟩ := parts
  simp only [Option.ite_none_right_eq_some, Option.some.injEq, Prod.mk.injEq,
    Bool.and_eq_true, decide_eq_true_eq] at ranged
  obtain ⟨⟨⟨widths, heights⟩, rates⟩, rfl, rfl, rfl⟩ := ranged
  exact ⟨widths, heights, ⟨_, read⟩, rates⟩

omit [Decimals] in
/-- A connector name refers to the output of that name. -/
theorem mirrorName_of_connector {output : Output} {outputs : List Output}
    (isConnector : connector output.mirrorOf = true)
    (present : ∃ source ∈ outputs, source.name = output.mirrorOf) :
    output.mirrored = true ∧
      output.mirrorName outputs = some output.mirrorOf := by
  have mirrored : output.mirrored = true := by
    obtain ⟨first, rest, whole, isLetter⟩ := connector_head isConnector
    have other {value : String} (head : (['e', 'L', 'D', 'H'].all fun letter =>
        decide (value.toList.head? ≠ some letter)) = true) :
        output.mirrorOf ≠ value := by
      rintro rfl
      have different := List.all_eq_true.mp head first isLetter
      exact of_decide_eq_true different (by rw [whole]; rfl)
    have none : output.mirrorOf ≠ "none" := other (by decide)
    have empty : output.mirrorOf ≠ "" := other (by decide)
    have minus : output.mirrorOf ≠ "-1" := other (by decide)
    simp [Output.mirrored, none, empty, minus]
  refine ⟨mirrored, ?_⟩
  obtain ⟨source, member, same⟩ := present
  have byName : ∀ other : Output, (other.name == output.mirrorOf ||
      toString other.id == output.mirrorOf) =
        (other.name == output.mirrorOf) := by
    intro other
    have different := toString_ne_connector isConnector other.id
    rw [beq_eq_false_iff_ne.mpr different, Bool.or_false]
  obtain ⟨found, isFound⟩ := Option.isSome_iff_exists.mp
    (List.find?_isSome.mpr ⟨source, member, by simpa using same⟩ :
      (outputs.find? fun other => other.name == output.mirrorOf).isSome = true)
  have isNamed := List.find?_some isFound
  simp only [Output.mirrorName, Output.mirrorSource, mirrored, if_true, byName,
    isFound, Option.map_some, Option.some.injEq]
  simpa using isNamed

/-- The output of an obeyed setting shows it. -/
theorem Setting.shown_obeyed [Legible] {setting : Setting} {output : Output}
    {outputs : List Output} (valid : setting.validate = .ok ())
    (source : setting.enabled = true → setting.mirrorOf ≠ "" →
      ∃ source ∈ outputs, source.name = setting.mirrorOf) :
    setting.Shown (setting.obeyed output) outputs := by
  obtain ⟨isConnector, readable, finite, mirror⟩ := validate_eq_ok valid
  obtain ⟨⟨width, height, refresh⟩, parsed⟩ :=
    Option.isSome_iff_exists.mp readable
  cases enabled : setting.enabled with
  | false =>
      refine ⟨?_, ?_, ?_, ?_, ?_, ?_⟩
      · simp [obeyed, parsed, enabled]
      all_goals simp [enabled]
  | true =>
      obtain ⟨widths, heights, ⟨text, read⟩, ranged⟩ := mode_eq_some parsed
      obtain ⟨chars, short, shown, reread, reranged, close⟩ :=
        Legible.printed text refresh read ranged
      have after : setting.obeyed output = { output with
          width := width
          height := height
          disabled := false
          scale := setting.scale
          refreshRate := refresh
          x := setting.x
          y := setting.y
          transform := setting.transform
          mirrorOf := setting.mirrorOf } := by
        simp [obeyed, parsed, enabled]
      rw [after]
      refine ⟨by simp [enabled], ?_, ?_, by simp, ?_, ?_⟩
      · intro _
        rw [sameMode, parsed, mode_observedMode widths heights chars short
          reread reranged]
        simp [close]
      · intro _
        exact Binary64.equals_self finite
      · intro _ own
        simp [Output.mirrored, own]
      · intro _ borrowed
        refine (mirrorName_of_connector ?_ ?_).2
        · exact (mirror borrowed).1
        · exact source enabled borrowed

theorem obedient_exact [Legible] (world : Surroundings) (generation : Nat) :
    (world.obedient generation).Exact generation where
  answered _ := rfl
  written _ := rfl
  still _ _ := rfl
  awake _ := rfl
  takes index setting outputs valid source := by
    have keys : ∀ output : Output, (if output.name = setting.name then
        setting.obeyed output else output).key = output.key := by
      intro output
      split
      · exact Setting.key_obeyed
      · rfl
    refine ⟨?_, ?_, ?_⟩
    · simp [Surroundings.obedient, Function.comp_def, keys]
    · intro name other
      simp [Surroundings.obedient, Setting.named_obeyed, other]
    · intro output found
      simp only [Surroundings.obedient, Setting.named_obeyed, if_true,
        Option.map_eq_some_iff] at found
      obtain ⟨original, -, rfl⟩ := found
      refine Setting.shown_obeyed valid fun enabled borrowed => ?_
      obtain ⟨present, member, same⟩ := source enabled borrowed
      refine ⟨_, List.mem_map_of_mem member, ?_⟩
      exact (congrArg Prod.fst (keys present)).trans same

/-! ### Rates of sixty hertz -/

omit [Decimals] in
def sixty : Binary64 :=
  .ofBits 0x404E000000000000

omit [Decimals] in
/-- The decimals as far as displays with sixty hertz and without scaling
need them. -/
@[reducible]
def sixtyHertz : Decimals where
  parse text := if text = "60.00" then some sixty else none
  fixed _ := "60.00"
  difference left right := if left = right then .ofBits 0 else left
  span side _ := side

omit [Decimals] in
theorem legible_sixtyHertz : @Legible sixtyHertz := by
  refine @Legible.mk sixtyHertz fun text rate read ranged => ?_
  have isSixty : rate = sixty := by
    have isRead : (if text = "60.00" then some sixty else none) = some rate :=
      read
    rw [Option.ite_none_right_eq_some, Option.some.injEq] at isRead
    exact isRead.2.symm
  subst isSixty
  exact ⟨by decide, by decide, sixty, by decide, ranged, by decide⟩

omit [Decimals] in
/-- Surroundings in which nothing happens. -/
def Surroundings.calm : Surroundings where
  fate _ := .answered
  writing _ := .written
  hotplug _ outputs := outputs
  configured _ _ outputs := outputs
  docked _ _ _ outputs := outputs
  sleep _ := (false, 0)
  clock _ := some 0
  instant _ := 0
  docking _ := .settled
  policy _ := false
  baseline _ _ := ""

end BarDaemon.Displays
