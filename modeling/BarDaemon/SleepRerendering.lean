import BarDaemon.SleepRendering

/-!
# Rendering idle configurations again

What was rendered is itself a base, of which every line is kept. The header
is made of comments.
-/

namespace BarDaemon.SleepListeners

open CharacterLists FallibleSteps SleepPolicies

/-! ### The header -/

theorem codeOf_comment {line : Text} (comment : line.head? = some '#') :
    codeOf line = [] := by
  obtain ⟨rest, rfl⟩ := List.head?_eq_some_iff.mp comment
  rw [codeOf, List.takeWhile_cons_of_neg (by decide)]
  rfl

theorem outer_of_comment {line : Text} (comment : line.head? = some '#') :
    Outer line := by
  constructor <;> rw [codeOf_comment comment] <;> rfl

theorem headerLines_outer (profile : SleepProfile) (generation : Text) :
    ∀ line ∈ headerLines profile generation, Outer line := by
  intro line among
  apply outer_of_comment
  simp only [headerLines, List.mem_cons, List.not_mem_nil, or_false] at among
  rcases among with rfl | rfl | rfl <;> rfl

theorem headerLines_noFeed (profile : SleepProfile) {generation : Text}
    (valid : validGeneration generation = true) :
    ∀ line ∈ headerLines profile generation, '\n' ∉ line := by
  have named : '\n' ∉ generation := by
    intro feed
    have plain := List.all_eq_true.mp (Bool.and_eq_true_iff.mp valid).2 _ feed
    exact absurd plain (by decide)
  have numbered : '\n' ∉ (toString profile.sleepMinutes).toList := by
    intro feed
    rw [Nat.toString_eq_ofList_toDigits, String.toList_ofList] at feed
    have digit := Nat.isDigit_of_mem_toDigits (by decide) (by decide) feed
    exact absurd digit (by decide)
  intro line among feed
  simp only [headerLines, List.mem_cons, List.not_mem_nil, or_false] at among
  rcases among with rfl | rfl | rfl
  · rcases List.mem_append.mp feed with feed | feed
    · exact absurd feed (by decide)
    · exact named feed
  · rcases List.mem_append.mp feed with feed | feed
    · exact absurd feed (by decide)
    · exact numbered feed
  · exact absurd feed (by decide)

/-! ### Renderings -/

theorem render_eq_ok_iff {base generation output : Text}
    {profile : SleepProfile} {executable : Option Text} :
    render base profile executable generation = .ok output ↔
      validGeneration generation = true ∧
        (∃ quoted, quotedExecutable executable = .ok quoted) ∧
        ∃ kept, Copied (lines base) kept ∧
          output = unlines (headerLines profile generation) ++ unlines kept := by
  rw [render, ensure_then_eq_ok_iff]
  simp only [bind_eq_ok_iff, copyLines_iff]
  constructor
  · rintro ⟨valid, kept, grammar, quoted, found, equal⟩
    exact ⟨valid, ⟨quoted, found⟩, kept, grammar, (Except.ok.inj equal).symm⟩
  · rintro ⟨valid, ⟨quoted, found⟩, kept, grammar, rfl⟩
    exact ⟨valid, kept, grammar, quoted, found, rfl⟩

theorem Removed.subset {lines kept : List Text} (removed : Removed lines kept) :
    kept ⊆ lines := by
  induction removed with
  | nil => exact List.Subset.refl _
  | line _ ih => exact List.cons_subset_cons _ ih
  | block _ _ ih => exact List.subset_append_of_subset_right _ ih

/-- Each line of a rendering is copied when it is rendered again. -/
theorem copied_rendering {base generation : Text} {profile : SleepProfile}
    {kept : List Text} (valid : validGeneration generation = true)
    (grammar : Copied (lines base) kept) :
    let found := lines (unlines (headerLines profile generation) ++ unlines kept)
    Copied found found := by
  have whole : unlines (headerLines profile generation) ++ unlines kept =
      unlines (headerLines profile generation ++ kept) :=
    (List.flatMap_append).symm
  have noFeed : ∀ line ∈ headerLines profile generation ++ kept,
      '\n' ∉ line := by
    intro line among
    rcases List.mem_append.mp among with header | among
    · exact headerLines_noFeed profile valid line header
    · exact not_mem_of_mem_lines (grammar.removed.subset among)
  dsimp only
  rw [whole, lines_unlines noFeed]
  exact (grammar.again.lines_append (headerLines_outer profile generation)).chomped

/-- A line of a base that is rendered starts a listener only when one ends
after it, and mentions sleep only in a sleep block. -/
theorem render_position {base generation output : Text}
    {profile : SleepProfile} {executable : Option Text}
    (rendered : render base profile executable generation = .ok output)
    {before after : List Text} {line : Text}
    (place : lines base = before ++ line :: after) :
    (startsListener (codeOf line) = true → Terminated after) ∧
      (Mentions line → InSleepBlock before line after) := by
  obtain ⟨_, _, _, grammar, _⟩ := render_eq_ok_iff.mp rendered
  exact grammar.position place

theorem exists_error {outcome : Except String Text}
    (never : ∀ output, outcome ≠ .ok output) : ∃ error, outcome = .error error := by
  cases outcome with
  | ok output => exact absurd rfl (never output)
  | error error => exact ⟨error, rfl⟩

/-- What is rendered are the lines of the base without sleep blocks, none of
which mentions sleep, and all of which are kept when it is rendered again. A
base that mentions sleep elsewhere or does not end a listener is refused. -/
theorem render_removes_sleep_blocks (base : Text) (profile : SleepProfile)
    (executable : Option Text) (generation : Text) :
    (∀ output, render base profile executable generation = .ok output →
      ∃ kept, output =
          unlines (headerLines profile generation) ++ unlines kept ∧
        Removed (lines base) kept ∧ (∀ line ∈ kept, ¬Mentions line) ∧
        ∀ other next, validGeneration next = true →
          render output other executable next =
            .ok (unlines (headerLines other next) ++ unlines (lines output))) ∧
    ∀ before line after, lines base = before ++ line :: after →
      (Mentions line → ¬InSleepBlock before line after →
        ∃ error, render base profile executable generation = .error error) ∧
      (startsListener (codeOf line) = true → ¬Terminated after →
        ∃ error, render base profile executable generation = .error error) := by
  constructor
  · intro output rendered
    obtain ⟨valid, quoted, kept, grammar, rfl⟩ := render_eq_ok_iff.mp rendered
    refine ⟨kept, rfl, grammar.removed, grammar.silent, ?_⟩
    intro other next validNext
    exact render_eq_ok_iff.mpr
      ⟨validNext, quoted, _, copied_rendering valid grammar, rfl⟩
  · intro before line after place
    constructor
    · intro mentions outside
      apply exists_error
      intro output rendered
      exact outside ((render_position rendered place).2 mentions)
    · intro starts unended
      apply exists_error
      intro output rendered
      exact unended ((render_position rendered place).1 starts)

/-- A section that is no listener is copied without its end. -/
theorem open_section_is_copied :
    lines "general \x7b\n".toList = ["general \x7b".toList] ∧
      render "general \x7b\n".toList SleepProfile.default
          (some "/usr/bin/bar-daemon".toList) "g-1".toList =
        .ok (unlines (headerLines SleepProfile.default "g-1".toList) ++
          "general \x7b\n".toList) := by
  decide +kernel

end BarDaemon.SleepListeners
