import BarDaemon.SleepListeners

/-!
# Rendered idle configurations

What is rendered are the lines of the base without the listener blocks that
only suspend or hibernate. A base with any other sleep command is refused.
-/

namespace BarDaemon.SleepListeners

open CharacterLists FallibleSteps SleepPolicies

/-! ### Blocks -/

/-- A line inside of a listener. -/
structure Inner (line : Text) : Prop where
  noSource : includesSource (codeOf line) = false
  notLast : codeOf line ≠ "\x7d".toList
  noListener : startsListener (codeOf line) = false
  noBrace : (codeOf line).contains '\x7b' = false ∧
    (codeOf line).contains '\x7d' = false

/-- A listener, from its first line to its last. -/
inductive Block : List Text → Prop
  | intro {first last : Text} {inner : List Text}
      (begins : codeOf first = "listener \x7b".toList)
      (plain : ∀ line ∈ inner, Inner line)
      (ends : codeOf last = "\x7d".toList) : Block (first :: inner ++ [last])

/-- `timeout =` and a number. -/
def IsTimeout (setting : Text) : Prop :=
  ∃ key value, splitOnce '=' setting = some (key, value) ∧
    trimmed key = "timeout".toList ∧ (parseU32 (trimmed value)).isSome = true

/-- `on-timeout =` and a command that suspends or hibernates. -/
def IsSleepAction (setting : Text) : Prop :=
  ∃ key value, splitOnce '=' setting = some (key, value) ∧
    trimmed key = "on-timeout".toList ∧
    canonicalSleepCommand (trimmed value) = true

/-- A listener that does nothing but suspend or hibernate after a time. -/
structure SleepBlock (block : List Text) : Prop where
  listener : Block block
  settings : ∃ timeout action, IsTimeout timeout ∧ IsSleepAction action ∧
    (settingsOf block = [timeout, action] ∨
      settingsOf block = [action, timeout])

/-- A line of which the code mentions a sleep command. -/
def Mentions (line : Text) : Prop :=
  mentionsSleep (codeOf line) = true

/-- A line outside of listeners that is copied. -/
structure Outer (line : Text) : Prop where
  noSource : includesSource (codeOf line) = false
  noListener : startsListener (codeOf line) = false
  noSleep : mentionsSleep (codeOf line) = false

/-- The lines that are copied: those outside of listeners, and the listeners
without sleep commands. -/
inductive Copied : List Text → List Text → Prop
  | nil : Copied [] []
  | line {line rest copied} : Outer line → Copied rest copied →
      Copied (line :: rest) (line :: copied)
  | block {block rest copied} : Block block → (∀ line ∈ block, ¬Mentions line) →
      Copied rest copied → Copied (block ++ rest) (block ++ copied)
  | sleep {block rest copied} : SleepBlock block → Copied rest copied →
      Copied (block ++ rest) copied

/-! ### Sleep listeners -/

/-- A setting that is not empty is the code of a line inside. -/
theorem settingsOf_block (first last : Text) (inner : List Text) :
    settingsOf (first :: inner ++ [last]) =
      (inner.map codeOf).filter (!·.isEmpty) := by
  rw [settingsOf]
  simp

theorem sleepSettings_cons {timeout action : Bool} {setting : Text}
    {settings : List Text} {found : Bool × Bool} :
    sleepSettings timeout action (setting :: settings) = .ok found ↔
      IsTimeout setting ∧ timeout = false ∧
          sleepSettings true action settings = .ok found ∨
        IsSleepAction setting ∧ action = false ∧
          sleepSettings timeout true settings = .ok found := by
  rw [sleepSettings, IsTimeout, IsSleepAction]
  cases splitOnce '=' setting with
  | none => simp
  | some parts =>
      obtain ⟨key, value⟩ := parts
      have different : "timeout".toList ≠ "on-timeout".toList := by decide
      simp only [Option.some.injEq, Prod.mk.injEq, Bool.and_eq_true,
        decide_eq_true_eq, Bool.not_eq_true', and_assoc]
      split
      · rename_i first
        constructor
        · exact fun rest => .inl
            ⟨⟨key, value, rfl, rfl, first.1, first.2.2⟩, first.2.1, rest⟩
        · rintro (⟨_, _, rest⟩ | ⟨⟨_, _, rfl, rfl, other, _⟩, _⟩)
          · exact rest
          · exact absurd (first.1.symm.trans other) different
      · rename_i notFirst
        split
        · rename_i second
          constructor
          · exact fun rest => .inr
              ⟨⟨key, value, rfl, rfl, second.1, second.2.2⟩, second.2.1, rest⟩
          · rintro (⟨⟨_, _, rfl, rfl, other, _⟩, _⟩ | ⟨_, _, rest⟩)
            · exact absurd (other.symm.trans second.1) different
            · exact rest
        · rename_i notSecond
          constructor
          · exact fun never => nomatch never
          · rintro (⟨⟨_, _, rfl, rfl, named, number⟩, unset, _⟩ |
              ⟨⟨_, _, rfl, rfl, named, command⟩, unset, _⟩)
            · exact absurd ⟨named, unset, number⟩ notFirst
            · exact absurd ⟨named, unset, command⟩ notSecond

/-- Both settings are taken once, in any order. -/
theorem sleepSettings_all {settings : List Text} :
    sleepSettings false false settings = .ok (true, true) ↔
      ∃ timeout action, IsTimeout timeout ∧ IsSleepAction action ∧
        (settings = [timeout, action] ∨ settings = [action, timeout]) := by
  have full (settings : List Text) :
      sleepSettings true true settings = .ok (true, true) ↔ settings = [] := by
    cases settings with
    | nil => simp [sleepSettings]
    | cons setting settings => simp [sleepSettings_cons]
  have timed (settings : List Text) :
      sleepSettings true false settings = .ok (true, true) ↔
        ∃ action, IsSleepAction action ∧ settings = [action] := by
    cases settings with
    | nil => simp [sleepSettings]
    | cons setting settings => simp [sleepSettings_cons, full]
  have acted (settings : List Text) :
      sleepSettings false true settings = .ok (true, true) ↔
        ∃ timeout, IsTimeout timeout ∧ settings = [timeout] := by
    cases settings with
    | nil => simp [sleepSettings]
    | cons setting settings => simp [sleepSettings_cons, full]
  cases settings with
  | nil => simp [sleepSettings]
  | cons setting settings =>
      simp only [sleepSettings_cons, timed, acted, true_and, List.cons.injEq]
      constructor
      · rintro (⟨timeout, action, acts, rfl⟩ | ⟨acts, timeout, times, rfl⟩)
        · exact ⟨setting, action, timeout, acts, .inl ⟨rfl, rfl⟩⟩
        · exact ⟨timeout, setting, times, acts, .inr ⟨rfl, rfl⟩⟩
      · rintro ⟨timeout, action, times, acts, ⟨rfl, rfl⟩ | ⟨rfl, rfl⟩⟩
        · exact .inl ⟨times, action, acts, rfl⟩
        · exact .inr ⟨acts, timeout, times, rfl⟩

/-! ### Sleep commands are mentioned -/

/-- Parts are runs of the text, and the first begins it. -/
theorem splitOnP_parts (separates : Char → Bool) (text : Text) :
    (∀ head, (text.splitOnP separates).head? = some head → head <+: text) ∧
      ∀ part ∈ text.splitOnP separates, part <:+: text := by
  induction text with
  | nil => simp [List.splitOnP_nil]
  | cons char text ih =>
      obtain ⟨first, each⟩ := ih
      rw [List.splitOnP_cons_eq_if_modifyHead]
      by_cases divides : separates char = true
      · rw [if_pos divides]
        constructor
        · rintro _ same
          cases same
          exact List.nil_prefix
        · intro part found
          rcases List.mem_cons.mp found with rfl | found
          · exact List.nil_infix
          · exact List.infix_cons (each part found)
      · rw [if_neg divides]
        cases parts : text.splitOnP separates with
        | nil => exact absurd parts (List.splitOnP_ne_nil _ _)
        | cons head parts' =>
            rw [parts] at first each
            have begins : char :: head <+: char :: text :=
              List.prefix_cons_inj char |>.mpr (first head rfl)
            constructor
            · rintro _ same
              cases same
              exact begins
            · intro part found
              rcases List.mem_cons.mp found with rfl | found
              · exact begins.isInfix
              · exact List.infix_cons
                  (each part (List.mem_cons_of_mem _ found))

theorem hasPart_iff {text part : Text} :
    hasPart text part = true ↔ part <:+: text := by
  rw [hasPart, List.any_eq_true, List.infix_iff_prefix_suffix]
  simp only [List.mem_tails, List.isPrefixOf_iff_prefix, and_comm]

theorem hasPart_of_within {text inner part : Text} (inside : inner <:+: text)
    (found : hasPart inner part = true) : hasPart text part = true :=
  hasPart_iff.mpr ((hasPart_iff.mp found).trans inside)

theorem mentionsSleep_of_within {text inner : Text} (inside : inner <:+: text)
    (mentioned : mentionsSleep inner = true) : mentionsSleep text = true := by
  simp only [mentionsSleep, Bool.or_eq_true] at mentioned ⊢
  obtain ((found | found) | found) | found := mentioned
  · exact .inl (.inl (.inl (hasPart_of_within inside found)))
  · exact .inl (.inl (.inr (hasPart_of_within inside found)))
  · exact .inl (.inr (hasPart_of_within inside found))
  · exact .inr (hasPart_of_within inside found)

theorem trimmed_within (text : Text) : trimmed text <:+: text :=
  (List.rdropWhile_prefix isWhitespace _).isInfix.trans
    (List.dropWhile_suffix isWhitespace).isInfix

theorem mentionsSleep_of_canonical {command : Text}
    (canonical : canonicalSleepCommand command = true) :
    mentionsSleep command = true := by
  unfold canonicalSleepCommand at canonical
  split at canonical
  · rename_i program action parts
    have among : action ∈ words command := by
      rw [parts]
      exact List.mem_cons_of_mem _ List.mem_cons_self
    apply mentionsSleep_of_within ((splitOnP_parts _ _).2 _
      (List.mem_filter.mp among).1)
    simp only [Bool.and_eq_true, Bool.or_eq_true, beq_iff_eq] at canonical
    have suspends {text : Text} (inside : "suspend".toList <:+: text) :
        mentionsSleep text = true := by
      rw [mentionsSleep, hasPart_iff.mpr inside, Bool.true_or,
        Bool.true_or, Bool.true_or]
    have hibernates {text : Text} (inside : "hibernate".toList <:+: text) :
        mentionsSleep text = true := by
      rw [mentionsSleep, hasPart_iff.mpr inside, Bool.or_true, Bool.true_or,
        Bool.true_or]
    obtain ⟨_, (rfl | rfl) | rfl⟩ := canonical
    · exact suspends List.infix_rfl
    · exact hibernates List.infix_rfl
    · exact suspends ⟨[], "-then-hibernate".toList, rfl⟩
  · cases canonical

theorem mentionsSleep_of_action {setting : Text} (acts : IsSleepAction setting) :
    mentionsSleep setting = true := by
  obtain ⟨key, value, divided, _, canonical⟩ := acts
  have inside : trimmed value <:+: setting := by
    rw [(splitOnce_eq_some divided).1]
    exact (trimmed_within value).trans
      ((List.suffix_cons _ _).trans (List.suffix_append _ _)).isInfix
  exact mentionsSleep_of_within inside (mentionsSleep_of_canonical canonical)

theorem isSleepListener_eq_true {block : List Text} :
    isSleepListener block = .ok true ↔
      ∃ timeout action, IsTimeout timeout ∧ IsSleepAction action ∧
        (settingsOf block = [timeout, action] ∨
          settingsOf block = [action, timeout]) := by
  rw [← sleepSettings_all, isSleepListener]
  by_cases mentioned : (settingsOf block).any mentionsSleep = true
  · simp only [mentioned, Bool.not_true, Bool.false_eq_true, if_false]
    constructor
    · intro succeeded
      obtain ⟨⟨timeout, action⟩, found, rest⟩ := bind_eq_ok_iff.mp succeeded
      obtain ⟨both, _⟩ := ensure_then_eq_ok_iff.mp rest
      obtain ⟨rfl, rfl⟩ := Bool.and_eq_true_iff.mp both
      exact found
    · intro found
      rw [found]
      rfl
  · simp only [Bool.not_eq_true] at mentioned
    rw [mentioned]
    constructor
    · exact fun never => nomatch never
    · intro found
      obtain ⟨timeout, action, _, acts, among⟩ := sleepSettings_all.mp found
      have member : action ∈ settingsOf block := by
        rcases among with among | among <;> simp [among]
      rw [List.any_eq_true.mpr ⟨action, member, mentionsSleep_of_action acts⟩]
        at mentioned
      cases mentioned

theorem isSleepListener_eq_false {block : List Text} :
    isSleepListener block = .ok false ↔
      (settingsOf block).any mentionsSleep = false := by
  rw [isSleepListener]
  cases (settingsOf block).any mentionsSleep with
  | false => exact ⟨fun _ => rfl, fun _ => rfl⟩
  | true =>
      constructor
      · intro succeeded
        obtain ⟨_, _, rest⟩ := bind_eq_ok_iff.mp succeeded
        obtain ⟨_, never⟩ := ensure_then_eq_ok_iff.mp rest
        cases never
      · exact fun never => nomatch never

/-! ### Copying -/

theorem configCode_eq_ok_iff {line code : Text} :
    configCode line = .ok code ↔
      includesSource (codeOf line) = false ∧ codeOf line = code := by
  rw [configCode, ensure_then_eq_ok_iff, Bool.not_eq_true']
  constructor
  · rintro ⟨noSource, same⟩
    exact ⟨noSource, Except.ok.inj same⟩
  · rintro ⟨noSource, rfl⟩
    exact ⟨noSource, rfl⟩

theorem copyLines_outside {line : Text} {rest copied : List Text}
    (outside : startsListener (codeOf line) = false) :
    copyLines none (line :: rest) = .ok copied ↔
      Outer line ∧ ∃ later, copyLines none rest = .ok later ∧
        line :: later = copied := by
  rw [copyLines]
  simp only [bind_eq_ok_iff, configCode_eq_ok_iff]
  constructor
  · rintro ⟨_, ⟨noSource, rfl⟩, succeeded⟩
    rw [if_neg (by rw [outside]; decide)] at succeeded
    obtain ⟨noSleep, succeeded⟩ := ensure_then_eq_ok_iff.mp succeeded
    obtain ⟨later, found, equal⟩ := bind_eq_ok_iff.mp succeeded
    rw [Bool.not_eq_true'] at noSleep
    exact ⟨⟨noSource, outside, noSleep⟩, later, found, Except.ok.inj equal⟩
  · rintro ⟨outer, later, found, rfl⟩
    refine ⟨_, ⟨outer.noSource, rfl⟩, ?_⟩
    rw [if_neg (by rw [outside]; decide), ensure_then_eq_ok_iff,
      outer.noSleep, found]
    exact ⟨rfl, rfl⟩

theorem copyLines_begins {line : Text} {rest copied : List Text}
    (listener : startsListener (codeOf line) = true) :
    copyLines none (line :: rest) = .ok copied ↔
      codeOf line = "listener \x7b".toList ∧
        copyLines (some [line]) rest = .ok copied := by
  rw [copyLines]
  simp only [bind_eq_ok_iff, configCode_eq_ok_iff]
  constructor
  · rintro ⟨_, ⟨_, rfl⟩, succeeded⟩
    rw [if_pos listener] at succeeded
    obtain ⟨begins, succeeded⟩ := ensure_then_eq_ok_iff.mp succeeded
    exact ⟨eq_of_beq begins, succeeded⟩
  · rintro ⟨begins, succeeded⟩
    refine ⟨_, ⟨?_, rfl⟩, ?_⟩
    · rw [begins]
      decide
    · rw [if_pos listener, ensure_then_eq_ok_iff, begins]
      exact ⟨rfl, succeeded⟩

theorem copyLines_inner {line : Text} {block rest copied : List Text}
    (notLast : codeOf line ≠ "\x7d".toList) :
    copyLines (some block) (line :: rest) = .ok copied ↔
      Inner line ∧ copyLines (some (block ++ [line])) rest = .ok copied := by
  rw [copyLines]
  simp only [bind_eq_ok_iff, configCode_eq_ok_iff]
  constructor
  · rintro ⟨_, ⟨noSource, rfl⟩, succeeded⟩
    rw [if_neg notLast] at succeeded
    obtain ⟨plain, succeeded⟩ := ensure_then_eq_ok_iff.mp succeeded
    simp only [Bool.and_eq_true, Bool.not_eq_true'] at plain
    exact ⟨⟨noSource, notLast, plain.1.1, plain.1.2, plain.2⟩, succeeded⟩
  · rintro ⟨inner, succeeded⟩
    refine ⟨_, ⟨inner.noSource, rfl⟩, ?_⟩
    rw [if_neg notLast, ensure_then_eq_ok_iff, inner.noListener,
      inner.noBrace.1, inner.noBrace.2]
    exact ⟨rfl, succeeded⟩

theorem copyLines_ends {line : Text} {block rest copied : List Text}
    (last : codeOf line = "\x7d".toList) :
    copyLines (some block) (line :: rest) = .ok copied ↔
      ∃ sleeps later, isSleepListener (block ++ [line]) = .ok sleeps ∧
        copyLines none rest = .ok later ∧
        (if sleeps then later else block ++ [line] ++ later) = copied := by
  rw [copyLines]
  simp only [bind_eq_ok_iff, configCode_eq_ok_iff]
  constructor
  · rintro ⟨_, ⟨_, rfl⟩, succeeded⟩
    rw [if_pos last] at succeeded
    obtain ⟨sleeps, listener, succeeded⟩ := bind_eq_ok_iff.mp succeeded
    obtain ⟨later, found, equal⟩ := bind_eq_ok_iff.mp succeeded
    exact ⟨sleeps, later, listener, found, Except.ok.inj equal⟩
  · rintro ⟨sleeps, later, listener, found, rfl⟩
    refine ⟨_, ⟨?_, rfl⟩, ?_⟩
    · rw [last]
      decide
    · rw [if_pos last, listener, found]
      rfl

/-- A listener without sleep settings has no line that mentions sleep. -/
theorem silent_iff {first last : Text} {inner : List Text}
    (begins : codeOf first = "listener \x7b".toList)
    (ends : codeOf last = "\x7d".toList) :
    (settingsOf (first :: inner ++ [last])).any mentionsSleep = false ↔
      ∀ line ∈ first :: inner ++ [last], ¬Mentions line := by
  rw [settingsOf_block, List.any_eq_false]
  simp only [List.mem_filter, List.mem_map, Bool.not_eq_true', and_imp,
    forall_exists_index, List.isEmpty_eq_false_iff]
  constructor
  · intro silent line among
    rcases List.mem_append.mp among with among | same
    · rcases List.mem_cons.mp among with rfl | among
      · rw [Mentions, begins]
        decide
      · intro mentioned
        apply silent _ line among rfl _ mentioned
        intro empty
        rw [Mentions, empty] at mentioned
        cases mentioned
    · obtain rfl := List.mem_singleton.mp same
      rw [Mentions, ends]
      decide
  · rintro silent _ line among rfl _
    exact silent line
      (List.mem_append_left _ (List.mem_cons_of_mem _ among))

theorem copied_of_copyLines (lines : List Text) :
    (∀ copied, copyLines none lines = .ok copied → Copied lines copied) ∧
    ∀ first before copied, codeOf first = "listener \x7b".toList →
      (∀ line ∈ before, Inner line) →
      copyLines (some (first :: before)) lines = .ok copied →
      Copied (first :: before ++ lines) copied := by
  induction lines with
  | nil =>
      constructor
      · intro copied succeeded
        cases succeeded
        exact .nil
      · intro first before copied _ _ never
        cases never
  | cons line rest ih =>
      obtain ⟨outside, inside⟩ := ih
      constructor
      · intro copied succeeded
        cases listener : startsListener (codeOf line) with
        | false =>
            obtain ⟨outer, later, found, rfl⟩ :=
              (copyLines_outside listener).mp succeeded
            exact .line outer (outside later found)
        | true =>
            obtain ⟨begins, found⟩ := (copyLines_begins listener).mp succeeded
            exact inside line [] copied begins
              (fun _ never => (List.not_mem_nil never).elim) found
      · intro first before copied begins plain succeeded
        by_cases last : codeOf line = "\x7d".toList
        · obtain ⟨sleeps, later, listener, found, equal⟩ :=
            (copyLines_ends last).mp succeeded
          have block : Block (first :: before ++ [line]) :=
            .intro begins plain last
          have whole : first :: before ++ line :: rest =
              (first :: before ++ [line]) ++ rest := by simp
          rw [whole, ← equal]
          cases sleeps with
          | true =>
              exact .sleep ⟨block, isSleepListener_eq_true.mp listener⟩
                (outside later found)
          | false =>
              have silent := (silent_iff begins last).mp
                (isSleepListener_eq_false.mp listener)
              exact .block block silent (outside later found)
        · obtain ⟨inner, found⟩ := (copyLines_inner last).mp succeeded
          have whole : first :: before ++ line :: rest =
              first :: (before ++ [line]) ++ rest := by simp
          rw [whole]
          apply inside first (before ++ [line]) copied begins _ found
          intro other among
          rcases List.mem_append.mp among with among | same
          · exact plain other among
          · obtain rfl := List.mem_singleton.mp same
            exact inner

theorem copyLines_block_inner {first last : Text} {before inner rest : List Text}
    {copied : List Text} (plain : ∀ line ∈ inner, Inner line)
    (ends : codeOf last = "\x7d".toList) :
    copyLines (some (first :: before)) (inner ++ last :: rest) = .ok copied ↔
      ∃ sleeps later,
        isSleepListener (first :: before ++ inner ++ [last]) = .ok sleeps ∧
        copyLines none rest = .ok later ∧
        (if sleeps then later else first :: before ++ inner ++ [last] ++ later) =
          copied := by
  induction inner generalizing before with
  | nil =>
      rw [List.append_nil]
      exact copyLines_ends ends
  | cons line inner ih =>
      obtain ⟨now, later⟩ := List.forall_mem_cons.mp plain
      rw [List.cons_append, copyLines_inner now.notLast, List.cons_append, ih later]
      simp [now]

theorem copyLines_block {block rest later : List Text} {sleeps : Bool}
    (listener : Block block) (found : isSleepListener block = .ok sleeps)
    (copied : copyLines none rest = .ok later) :
    copyLines none (block ++ rest) =
      .ok (if sleeps then later else block ++ later) := by
  obtain ⟨begins, plain, ends⟩ := listener
  rename_i first last inner
  have starts : startsListener (codeOf first) = true := by
    rw [begins]
    decide
  have whole : first :: inner ++ [last] ++ rest =
      first :: (inner ++ last :: rest) := by simp
  rw [whole, copyLines_begins starts, copyLines_block_inner plain ends]
  exact ⟨begins, sleeps, later, found, copied, rfl⟩

/-- What is copied are the lines outside of listeners and the listeners
without sleep commands, and nothing else is accepted. -/
theorem copyLines_iff {lines copied : List Text} :
    copyLines none lines = .ok copied ↔ Copied lines copied := by
  constructor
  · exact (copied_of_copyLines lines).1 copied
  · intro grammar
    induction grammar with
    | nil => rfl
    | line outer _ ih =>
        exact (copyLines_outside outer.noListener).mpr ⟨outer, _, ih, rfl⟩
    | @block block _ _ listener silent _ ih =>
        have sleepless : isSleepListener block = .ok false := by
          obtain ⟨begins, _, ends⟩ := listener
          exact isSleepListener_eq_false.mpr ((silent_iff begins ends).mpr silent)
        exact copyLines_block listener sleepless ih
    | sleep block _ ih =>
        exact copyLines_block block.listener
          (isSleepListener_eq_true.mpr block.settings) ih

/-! ### What is left -/

/-- Only sleep blocks are taken out. -/
inductive Removed : List Text → List Text → Prop
  | nil : Removed [] []
  | line {line rest kept} : Removed rest kept →
      Removed (line :: rest) (line :: kept)
  | block {block rest kept} : SleepBlock block → Removed rest kept →
      Removed (block ++ rest) kept

theorem Removed.append (lines : List Text) {rest kept : List Text}
    (removed : Removed rest kept) : Removed (lines ++ rest) (lines ++ kept) := by
  induction lines with
  | nil => exact removed
  | cons line lines ih => exact .line ih

theorem Copied.removed {lines copied : List Text}
    (grammar : Copied lines copied) : Removed lines copied := by
  induction grammar with
  | nil => exact .nil
  | line _ _ ih => exact .line ih
  | block _ _ _ ih => exact ih.append _
  | sleep block _ ih => exact .block block ih

theorem Copied.silent {lines copied : List Text}
    (grammar : Copied lines copied) : ∀ line ∈ copied, ¬Mentions line := by
  induction grammar with
  | nil => exact fun _ never => (List.not_mem_nil never).elim
  | line outer _ ih =>
      refine List.forall_mem_cons.mpr ⟨?_, ih⟩
      rw [Mentions, outer.noSleep]
      decide
  | block _ silent _ ih => exact List.forall_mem_append.mpr ⟨silent, ih⟩
  | sleep _ _ ih => exact ih

/-- What was copied is copied whole. -/
theorem Copied.again {lines copied : List Text}
    (grammar : Copied lines copied) : Copied copied copied := by
  induction grammar with
  | nil => exact .nil
  | line outer _ ih => exact .line outer ih
  | block listener silent _ ih => exact .block listener silent ih
  | sleep _ _ ih => exact ih

/-! ### Rendered lines -/

/-- A line as it is read back: a carriage return belongs to the line end. -/
def chomped (line : Text) : Text :=
  if line.getLast? = some '\r' then line.dropLast else line

theorem lines_line {line : Text} (noFeed : '\n' ∉ line) (rest : Text) :
    lines (line ++ ['\n'] ++ rest) = chomped line :: lines rest := by
  rw [chomped]
  split
  · rename_i last
    obtain ⟨start, rfl⟩ := List.getLast?_eq_some_iff.mp last
    have noFeed : '\n' ∉ start := fun found =>
      noFeed (List.mem_append_left _ found)
    rw [List.dropLast_concat]
    have found := lines_ended noFeed .crlf (fun never => nomatch never) rest
    simpa [LineEnd.text] using found
  · rename_i whole
    exact lines_ended noFeed .lf (fun _ => whole) rest

theorem lines_unlines {kept : List Text} (noFeed : ∀ line ∈ kept, '\n' ∉ line) :
    lines (unlines kept) = kept.map chomped := by
  induction kept with
  | nil => rfl
  | cons line kept ih =>
      obtain ⟨first, others⟩ := List.forall_mem_cons.mp noFeed
      rw [unlines, List.flatMap_cons, lines_line first, List.map_cons]
      exact congrArg (chomped line :: ·) (ih others)

theorem trimmed_concat {last : Char} (blank : isWhitespace last = true)
    (text : Text) : trimmed (text ++ [last]) = trimmed text := by
  rw [trimmed, trimmed, List.dropWhile_append]
  split
  · rename_i empty
    rw [List.isEmpty_iff.mp empty, List.dropWhile_cons_of_pos blank]
    rfl
  · exact List.rdropWhile_concat_pos _ _ _ blank

theorem codeOf_chomped (line : Text) : codeOf (chomped line) = codeOf line := by
  rw [chomped]
  split
  · rename_i last
    obtain ⟨start, rfl⟩ := List.getLast?_eq_some_iff.mp last
    rw [List.dropLast_concat, codeOf, codeOf, List.takeWhile_append]
    split
    · rename_i whole
      rw [List.takeWhile_cons_of_pos (by decide), List.takeWhile_nil,
        trimmed_concat (by decide)]
      have same : start.takeWhile (· ≠ '#') = start :=
        (List.takeWhile_prefix _).eq_of_length whole
      rw [same]
    · rfl
  · rfl

theorem settingsOf_chomped (block : List Text) :
    settingsOf (block.map chomped) = settingsOf block := by
  rw [settingsOf, settingsOf, ← List.map_drop, ← List.map_dropLast,
    List.map_map]
  have same : codeOf ∘ chomped = codeOf := funext codeOf_chomped
  rw [same]

theorem Block.chomped {block : List Text} (listener : Block block) :
    Block (block.map chomped) := by
  obtain ⟨begins, plain, ends⟩ := listener
  rename_i first last inner
  rw [List.map_append, List.map_cons, List.map_singleton]
  apply Block.intro
  · rw [codeOf_chomped, begins]
  · intro line among
    obtain ⟨line, found, rfl⟩ := List.mem_map.mp among
    obtain ⟨noSource, notLast, noListener, noBrace⟩ := plain line found
    constructor <;> rw [codeOf_chomped] <;> assumption
  · rw [codeOf_chomped, ends]

theorem Copied.chomped {lines copied : List Text}
    (grammar : Copied lines copied) :
    Copied (lines.map SleepListeners.chomped)
      (copied.map SleepListeners.chomped) := by
  induction grammar with
  | nil => exact .nil
  | line outer _ ih =>
      refine .line ?_ ih
      obtain ⟨noSource, noListener, noSleep⟩ := outer
      constructor <;> rw [codeOf_chomped] <;> assumption
  | block listener silent _ ih =>
      rw [List.map_append, List.map_append]
      refine .block listener.chomped ?_ ih
      intro line among
      obtain ⟨line, found, rfl⟩ := List.mem_map.mp among
      rw [Mentions, codeOf_chomped]
      exact silent line found
  | sleep block _ ih =>
      rw [List.map_append]
      refine .sleep ⟨block.listener.chomped, ?_⟩ ih
      rw [settingsOf_chomped]
      exact block.settings

theorem Copied.lines_append {first : List Text}
    (outer : ∀ line ∈ first, Outer line) {lines copied : List Text}
    (grammar : Copied lines copied) :
    Copied (first ++ lines) (first ++ copied) := by
  induction first with
  | nil => exact grammar
  | cons line first ih =>
      obtain ⟨now, others⟩ := List.forall_mem_cons.mp outer
      exact .line now (ih others)

/-! ### Positions in the base -/

/-- A line stands in a sleep block. -/
def InSleepBlock (before : List Text) (line : Text) (after : List Text) : Prop :=
  ∃ outside first second rest, before = outside ++ first ∧
    after = second ++ rest ∧ SleepBlock (first ++ line :: second)

/-- What follows the first line of a listener ends it. -/
def Terminated (after : List Text) : Prop :=
  ∃ inner last rest, after = inner ++ last :: rest ∧
    (∀ line ∈ inner, Inner line) ∧ codeOf last = "\x7d".toList

theorem InSleepBlock.behind {before after : List Text} {line : Text}
    (inside : InSleepBlock before line after) (lines : List Text) :
    InSleepBlock (lines ++ before) line after := by
  obtain ⟨outside, first, second, rest, rfl, rfl, block⟩ := inside
  exact ⟨lines ++ outside, first, second, rest, by simp, rfl, block⟩

/-- Only the first line of a listener starts one. -/
theorem Block.terminated {block before after : List Text} {line : Text}
    (listener : Block block) (place : block = before ++ line :: after)
    (starts : startsListener (codeOf line) = true) (rest : List Text) :
    Terminated (after ++ rest) := by
  obtain ⟨begins, plain, ends⟩ := listener
  rename_i first last inner
  cases before with
  | nil =>
      obtain ⟨rfl, rfl⟩ := List.cons.inj place
      exact ⟨inner, last, rest, by simp, plain, ends⟩
  | cons head before =>
      have whole : inner ++ [last] = before ++ line :: after :=
        (List.cons.inj place).2
      have among : line ∈ inner ++ [last] := by
        rw [whole]
        exact List.mem_append_right _ List.mem_cons_self
      rcases List.mem_append.mp among with among | same
      · rw [(plain line among).noListener] at starts
        cases starts
      · obtain rfl := List.mem_singleton.mp same
        rw [ends] at starts
        exact absurd starts (by decide)

/-- A line of a listener and what follows it. -/
theorem append_place {block rest before after : List Text} {line : Text}
    (place : block ++ rest = before ++ line :: after) :
    (∃ inner, block = before ++ line :: inner ∧ after = inner ++ rest) ∨
      ∃ outside, before = block ++ outside ∧ rest = outside ++ line :: after := by
  rcases List.append_eq_append_iff.mp place with
    ⟨outside, inBefore, inRest⟩ | ⟨inner, inBlock, inAfter⟩
  · exact .inr ⟨outside, inBefore, inRest⟩
  · cases inner with
    | nil => exact .inr ⟨[], by simpa using inBlock.symm, inAfter.symm⟩
    | cons head inner =>
        obtain ⟨rfl, rest⟩ := List.cons.inj inAfter
        exact .inl ⟨inner, inBlock, rest⟩

/-- What follows a line that starts a listener ends it, and a line that
mentions sleep stands in a sleep block. -/
theorem Copied.position {lines copied : List Text}
    (grammar : Copied lines copied) {before after : List Text} {line : Text}
    (place : lines = before ++ line :: after) :
    (startsListener (codeOf line) = true → Terminated after) ∧
      (Mentions line → InSleepBlock before line after) := by
  induction grammar generalizing before with
  | nil => exact absurd place (by simp)
  | line outer _ ih =>
      cases before with
      | nil =>
          obtain ⟨rfl, rfl⟩ := List.cons.inj place
          constructor
          · rw [outer.noListener]
            intro never
            cases never
          · rw [Mentions, outer.noSleep]
            intro never
            cases never
      | cons head before =>
          obtain ⟨rfl, later⟩ := List.cons.inj place
          obtain ⟨terminated, sleeps⟩ := ih later
          exact ⟨terminated, fun mentions => (sleeps mentions).behind [_]⟩
  | @block block _ _ listener silent _ ih =>
      rcases append_place place with ⟨inner, whole, rfl⟩ | ⟨outside, rfl, later⟩
      · constructor
        · exact fun starts => listener.terminated whole starts _
        · intro mentions
          apply absurd mentions (silent line _)
          rw [whole]
          exact List.mem_append_right _ List.mem_cons_self
      · obtain ⟨terminated, sleeps⟩ := ih later
        exact ⟨terminated, fun mentions => (sleeps mentions).behind block⟩
  | @sleep block rest _ sleep _ ih =>
      rcases append_place place with ⟨inner, whole, rfl⟩ | ⟨outside, rfl, later⟩
      · constructor
        · exact fun starts => sleep.listener.terminated whole starts _
        · intro _
          rw [whole] at sleep
          exact ⟨[], before, inner, rest, rfl, rfl, sleep⟩
      · obtain ⟨terminated, sleeps⟩ := ih later
        exact ⟨terminated, fun mentions => (sleeps mentions).behind block⟩

end BarDaemon.SleepListeners
