import Mathlib.Data.List.Perm.Basic
import Mathlib.Data.List.Sublists

/-!
# Stacking a stream into bounded stacks of equal keys

Elements arrive one at a time. An element joins the newest stack of its key
while that stack has room, and begins a stack otherwise, as does an element
without a key.
-/

namespace BarDaemon.KeyedStacks

variable {Element Key : Type*} (keyOf : Element → Option Key) (limit : Nat)

/-! ### One stack -/

/-- A stack is never empty. -/
structure Stack (Element : Type*) where
  first : Element
  rest : List Element

def Stack.members (stack : Stack Element) : List Element :=
  stack.first :: stack.rest

def Stack.push (stack : Stack Element) (element : Element) : Stack Element :=
  ⟨stack.first, stack.rest ++ [element]⟩

/-- The elements of a stack have one key, and their order. -/
structure Stack.Sound (elements : List Element) (stack : Stack Element) :
    Prop where
  inOrder : stack.members.Sublist elements
  bounded : stack.members.length ≤ limit
  alike : stack.rest ≠ [] →
    ∃ key, ∀ member ∈ stack.members, keyOf member = some key

section Stack

variable {keyOf limit}

theorem Stack.Sound.later {elements : List Element} {stack : Stack Element}
    (sound : stack.Sound keyOf limit elements) (element : Element) :
    stack.Sound keyOf limit (elements ++ [element]) :=
  ⟨sound.inOrder.trans (List.sublist_append_left _ _), sound.bounded,
    sound.alike⟩

theorem Stack.Sound.push {elements : List Element} {stack : Stack Element}
    {key : Key} {element : Element} (sound : stack.Sound keyOf limit elements)
    (room : stack.members.length < limit)
    (alike : ∀ member ∈ stack.members, keyOf member = some key)
    (same : keyOf element = some key) :
    (stack.push element).Sound keyOf limit (elements ++ [element]) := by
  have members : (stack.push element).members = stack.members ++ [element] := rfl
  constructor
  · rw [members]
    exact sound.inOrder.append (List.Sublist.refl _)
  · rw [members, List.length_append]
    exact room
  · intro _
    rw [members]
    exact ⟨key, List.forall_mem_append.mpr
      ⟨alike, List.forall_mem_singleton.mpr same⟩⟩

theorem Stack.sound_single (positive : 0 < limit) (elements : List Element)
    (element : Element) :
    (⟨element, []⟩ : Stack Element).Sound keyOf limit
      (elements ++ [element]) := by
  constructor
  · exact List.sublist_append_right _ _
  · exact positive
  · exact fun never => absurd rfl never

theorem modify_of_getElem? {begun : List (Stack Element)} {index : Nat}
    {stack : Stack Element} (found : begun[index]? = some stack) :
    ∃ before after, begun = before ++ stack :: after ∧
      ∀ change, begun.modify index change =
        before ++ change stack :: after := by
  obtain ⟨bound, equal⟩ := List.getElem?_eq_some_iff.mp found
  refine ⟨begun.take index, begun.drop (index + 1), ?_, ?_⟩
  · rw [← equal, List.getElem_cons_drop, List.take_append_drop]
  · intro change
    rw [List.modify_eq_take_cons_drop bound, equal]

end Stack

/-! ### All stacks -/

variable [BEq Key]

/-- All stacks, with the index of the newest one of each key. -/
structure Stacks (Element Key : Type*) where
  begun : List (Stack Element)
  newest : List (Key × Nat)

def Stacks.empty : Stacks Element Key :=
  ⟨[], []⟩

/-- The newest stack of a key, when it has room. -/
def Stacks.open? (state : Stacks Element Key) (key : Key) :
    Option Nat :=
  (state.newest.lookup key).filter fun index =>
    state.begun[index]?.any fun stack => stack.members.length < limit

/-- Place one element. -/
def place (state : Stacks Element Key) (element : Element) :
    Stacks Element Key :=
  match keyOf element with
  | none => ⟨state.begun ++ [⟨element, []⟩], state.newest⟩
  | some key =>
      match state.open? limit key with
      | some index =>
          ⟨state.begun.modify index (·.push element), state.newest⟩
      | none => ⟨state.begun ++ [⟨element, []⟩],
          (key, state.begun.length) :: state.newest⟩

def placeAll (elements : List Element) : Stacks Element Key :=
  elements.foldl (place keyOf limit) .empty

/-- The stacks hold the elements, in the order of their first ones. -/
structure Stacks.Sound (elements : List Element)
    (state : Stacks Element Key) : Prop where
  complete : (state.begun.flatMap Stack.members).Perm elements
  firsts : (state.begun.map Stack.first).Sublist elements
  each : ∀ stack ∈ state.begun, stack.Sound keyOf limit elements
  newest : ∀ key index, state.newest.lookup key = some index →
    ∃ stack, state.begun[index]? = some stack ∧
      ∀ member ∈ stack.members, keyOf member = some key

variable {keyOf limit}

/-- A new stack keeps the others. -/
theorem Stacks.Sound.begin {elements : List Element}
    {state : Stacks Element Key} (sound : state.Sound keyOf limit elements)
    (positive : 0 < limit) (element : Element)
    {newest : List (Key × Nat)}
    (known : ∀ key index, newest.lookup key = some index →
      state.newest.lookup key = some index ∨
        index = state.begun.length ∧ keyOf element = some key) :
    (⟨state.begun ++ [⟨element, []⟩], newest⟩ : Stacks Element Key).Sound
      keyOf limit (elements ++ [element]) := by
  constructor
  · rw [List.flatMap_append]
    exact sound.complete.append (List.Perm.refl _)
  · rw [List.map_append]
    exact sound.firsts.append (List.Sublist.refl _)
  · intro stack among
    rcases List.mem_append.mp among with among | same
    · exact (sound.each stack among).later element
    · rw [List.mem_singleton.mp same]
      exact Stack.sound_single positive elements element
  · intro key index found
    rcases known key index found with old | ⟨rfl, same⟩
    · obtain ⟨stack, held, alike⟩ := sound.newest key index old
      obtain ⟨bound, _⟩ := List.getElem?_eq_some_iff.mp held
      exact ⟨stack, by rw [List.getElem?_append_left bound, held], alike⟩
    · exact ⟨⟨element, []⟩, by simp, List.forall_mem_singleton.mpr same⟩

/-- An element that joins a stack keeps the others. -/
theorem Stacks.Sound.join {elements : List Element}
    {state : Stacks Element Key} (sound : state.Sound keyOf limit elements)
    {key : Key} {element : Element} (same : keyOf element = some key)
    {index : Nat} (isOpen : state.open? limit key = some index) :
    (⟨state.begun.modify index (·.push element), state.newest⟩ :
      Stacks Element Key).Sound keyOf limit (elements ++ [element]) := by
  obtain ⟨newest, room⟩ := Option.filter_eq_some_iff.mp isOpen
  obtain ⟨stack, held, alike⟩ := sound.newest key index newest
  rw [held] at room
  have room : stack.members.length < limit := of_decide_eq_true room
  obtain ⟨before, after, whole, modified⟩ := modify_of_getElem? held
  have pushed : (stack.push element).members = stack.members ++ [element] := rfl
  constructor
  · have complete := sound.complete
    rw [whole] at complete
    rw [modified]
    simp only [List.flatMap_append, List.flatMap_cons, pushed,
      List.append_assoc] at complete ⊢
    refine List.Perm.trans ?_ (complete.append_right [element])
    simp only [List.append_assoc]
    exact (List.perm_append_comm.append_left _).append_left _
  · have firsts := sound.firsts
    rw [whole] at firsts
    rw [modified]
    simp only [List.map_append, List.map_cons] at firsts ⊢
    exact firsts.trans (List.sublist_append_left _ _)
  · have each := sound.each
    rw [whole] at each
    rw [modified]
    intro other among
    rcases List.mem_append.mp among with among | among
    · exact (each other (List.mem_append_left _ among)).later element
    · rcases List.mem_cons.mp among with rfl | among
      · exact (each stack (List.mem_append_right _ List.mem_cons_self)).push
          room alike same
      · exact (each other (List.mem_append_right _
          (List.mem_cons_of_mem _ among))).later element
  · intro other position found
    obtain ⟨stack', held', alike'⟩ := sound.newest other position found
    by_cases place : index = position
    · subst place
      rw [held] at held'
      cases held'
      refine ⟨stack.push element, by rw [List.getElem?_modify_eq, held]; rfl, ?_⟩
      rw [pushed]
      have sameKey : some key = some other :=
        (alike stack.first List.mem_cons_self).symm.trans
          (alike' stack.first List.mem_cons_self)
      exact List.forall_mem_append.mpr
        ⟨alike', List.forall_mem_singleton.mpr (same.trans sameKey)⟩
    · exact ⟨stack', by rw [List.getElem?_modify_ne _ _ place, held'], alike'⟩

theorem place_sound [LawfulBEq Key] (positive : 0 < limit) {elements : List Element}
    {state : Stacks Element Key} (sound : state.Sound keyOf limit elements)
    (element : Element) :
    (place keyOf limit state element).Sound keyOf limit
      (elements ++ [element]) := by
  unfold place
  split
  · exact sound.begin positive element fun _ _ found => .inl found
  · rename_i key same
    split
    · rename_i index isOpen
      exact sound.join same isOpen
    · apply sound.begin positive element
      intro other index found
      rw [List.lookup_cons] at found
      split at found
      · rename_i equal
        obtain rfl := eq_of_beq equal
        exact .inr ⟨(Option.some.inj found).symm, same⟩
      · exact .inl found

/-- What is placed is stacked soundly. -/
theorem placeAll_sound [LawfulBEq Key] (positive : 0 < limit) (elements : List Element) :
    (placeAll keyOf limit elements).Sound keyOf limit elements := by
  induction elements using List.reverseRecOn with
  | nil =>
      constructor
      · exact List.Perm.refl _
      · exact List.Sublist.refl _
      · exact fun _ never => (List.not_mem_nil never).elim
      · exact fun _ _ never => by cases never
  | append_singleton elements element ih =>
      rw [placeAll, List.foldl_append]
      exact place_sound positive ih element

end BarDaemon.KeyedStacks
