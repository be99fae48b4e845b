import Mathlib.Data.List.Nodup
import Mathlib.Data.List.Sort

/-!
# Rows of a relational table

A row gives each column a cell.  Statements write the cells of a list of
columns and read those of another one, both by position.
-/

namespace BarDaemon.RelationalRows

inductive Cell
  | null
  | integer (value : Int)
  | text (value : String)
deriving DecidableEq, Repr

namespace Cell

def ofNat (value : Nat) : Cell :=
  .integer value

@[simp]
theorem ofNat_inj {first second : Nat} :
    ofNat first = ofNat second ↔ first = second := by
  unfold ofNat
  rw [Cell.integer.injEq]
  exact Int.ofNat_inj

def ofBool (value : Bool) : Cell :=
  .integer value.toNat

def ofOption {Value : Type} (encode : Value → Cell) : Option Value → Cell
  | some value => encode value
  | none => .null

end Cell

abbrev Row := String → Cell

namespace Row

/-- A row in which the columns have these cells and the others none. -/
def ofColumns (columns : List String) (cells : List Cell) : Row :=
  fun name => ((columns.zip cells).lookup name).getD .null

/-- Write the cells of some columns. -/
def update (row : Row) (columns : List String) (cells : List Cell) : Row :=
  fun name => if name ∈ columns then ofColumns columns cells name else row name

/-- Read columns in an order. -/
def select (row : Row) (columns : List String) : List Cell :=
  columns.map row

theorem ofColumns_cons_self (name : String) (columns : List String)
    (cell : Cell) (cells : List Cell) :
    ofColumns (name :: columns) (cell :: cells) name = cell := by
  simp [ofColumns]

theorem ofColumns_cons_of_ne {name other : String} (different : name ≠ other)
    (columns : List String) (cell : Cell) (cells : List Cell) :
    ofColumns (other :: columns) (cell :: cells) name =
      ofColumns columns cells name := by
  have unequal : (name == other) = false := by simpa using different
  simp [ofColumns, List.lookup_cons, unequal]

/-- What has been written to distinct columns is read in the same order. -/
theorem select_ofColumns {columns : List String} {cells : List Cell}
    (distinct : columns.Nodup) (fits : columns.length = cells.length) :
    (ofColumns columns cells).select columns = cells := by
  induction columns generalizing cells with
  | nil =>
      cases cells with
      | nil => rfl
      | cons cell cells => cases fits
  | cons name columns ih =>
      cases cells with
      | nil => cases fits
      | cons cell cells =>
          have ⟨fresh, distinct⟩ := List.nodup_cons.mp distinct
          have rest := ih distinct (Nat.succ.inj fits)
          have others : columns.map (ofColumns (name :: columns)
              (cell :: cells)) = columns.map (ofColumns columns cells) := by
            apply List.map_congr_left
            intro other member
            apply ofColumns_cons_of_ne
            rintro rfl
            exact fresh member
          rw [select, List.map_cons, ofColumns_cons_self, others]
          exact congrArg (cell :: ·) rest

theorem select_update (row : Row) (columns : List String)
    (cells : List Cell) :
    (row.update columns cells).select columns =
      (ofColumns columns cells).select columns := by
  apply List.map_congr_left
  intro name member
  exact if_pos member

theorem update_of_not_mem {name : String} {columns : List String}
    (other : name ∉ columns) (row : Row) (cells : List Cell) :
    row.update columns cells name = row name :=
  if_neg other

end Row

/-! ### Typed reading -/

namespace Cell

def typeError : String :=
  "unexpected column type"

def asInteger : Cell → Except String Int
  | .integer value => .ok value
  | _ => .error typeError

def asText : Cell → Except String String
  | .text value => .ok value
  | _ => .error typeError

/-- Read a cell that may be absent. -/
def optional {Value : Type} (read : Cell → Except String Value) :
    Cell → Except String (Option Value)
  | .null => .ok none
  | cell => (read cell).map some

@[simp]
theorem optional_asInteger_ofNat (value : Nat) :
    (ofNat value).optional asInteger = .ok (some (value : Int)) :=
  rfl

/-- Read the cell at a position. -/
def get {Value : Type} (read : Cell → Except String Value)
    (cells : List Cell) (index : Nat) : Except String Value :=
  match cells[index]? with
  | some cell => read cell
  | none => .error "column index out of range"

/-- An integer that is not negative and at most the bound. -/
def asNat (bound : Nat) (cell : Cell) : Except String Nat := do
  let value ← cell.asInteger
  if value < 0 ∨ bound < value.toNat then
    throw "out of range integral type conversion attempted"
  return value.toNat

theorem asNat_ofNat {bound value : Nat} (fits : value ≤ bound) :
    (ofNat value).asNat bound = .ok value := by
  have inside : ¬ (((value : Int) < 0) ∨ bound < ((value : Int)).toNat) := by
    rw [Int.toNat_natCast]
    omega
  simp only [asNat, ofNat, asInteger, bind, Except.bind]
  rw [if_neg inside]
  rfl

theorem optional_asNat {bound : Nat} {value : Option Nat}
    (fits : ∀ limit ∈ value, limit ≤ bound) :
    (ofOption ofNat value).optional (asNat bound) = .ok value := by
  cases value with
  | none => rfl
  | some limit =>
      have read := asNat_ofNat (fits limit rfl)
      simp only [ofOption, optional, ofNat] at read ⊢
      rw [read]
      rfl

end Cell

/-! ### Child rows -/

/-- A row that belongs to a row of another table and is numbered in it. -/
structure ChildRow (Value : Type) where
  owner : Nat
  ordinal : Nat
  value : Value
deriving DecidableEq, Repr

namespace ChildRow

variable {Value : Type}

/-- `INSERT`, where owner and ordinal are the primary key. -/
def insert (rows : List (ChildRow Value)) (row : ChildRow Value) :
    Except String (List (ChildRow Value)) :=
  if rows.any fun other =>
      other.owner == row.owner && other.ordinal == row.ordinal then
    .error "UNIQUE constraint failed"
  else .ok (rows ++ [row])

/-- `DELETE`, by owner. -/
def remove (rows : List (ChildRow Value)) (doomed : Nat → Bool) :
    List (ChildRow Value) :=
  rows.filter fun row => !doomed row.owner

def ofOwner (rows : List (ChildRow Value)) (owner : Nat) :
    List (ChildRow Value) :=
  rows.filter (·.owner = owner)

def before (first second : ChildRow Value) : Prop :=
  first.owner < second.owner ∨
    first.owner = second.owner ∧ first.ordinal ≤ second.ordinal

instance : DecidableRel (@before Value) := fun _ _ =>
  inferInstanceAs (Decidable (_ ∨ _))

/-- `ORDER BY` owner and ordinal. -/
def ordered (rows : List (ChildRow Value)) : List (ChildRow Value) :=
  rows.insertionSort before

/-- The values as the rows of an owner, from an ordinal on. -/
def numbered (owner start : Nat) (values : List Value) :
    List (ChildRow Value) :=
  (values.zipIdx start).map fun entry => ⟨owner, entry.2, entry.1⟩

/-- The rows of every owner are numbered without gaps. -/
def Numbered (rows : List (ChildRow Value)) : Prop :=
  ∀ owner, ∃ values, ofOwner rows owner = numbered owner 0 values

theorem ofOwner_append (first second : List (ChildRow Value)) (owner : Nat) :
    ofOwner (first ++ second) owner =
      ofOwner first owner ++ ofOwner second owner :=
  List.filter_append ..

theorem ofOwner_remove (rows : List (ChildRow Value)) (doomed : Nat → Bool)
    (owner : Nat) :
    ofOwner (remove rows doomed) owner =
      if doomed owner then [] else ofOwner rows owner := by
  unfold ofOwner remove
  rw [List.filter_filter]
  split
  · rename_i gone
    rw [List.filter_eq_nil_iff]
    rintro row - kept
    simp only [Bool.and_eq_true, decide_eq_true_eq] at kept
    rw [kept.1, gone] at kept
    exact Bool.noConfusion kept.2
  · rename_i stays
    apply List.filter_congr
    intro row _
    by_cases same : row.owner = owner <;> simp [same, stays]

theorem ofOwner_numbered (owner other start : Nat) (values : List Value) :
    ofOwner (numbered owner start values) other =
      if owner = other then numbered owner start values else [] := by
  unfold ofOwner numbered
  rw [List.filter_map]
  split <;> rename_i same <;> simp [Function.comp_def, same]

theorem numbered_values (owner start : Nat) (values : List Value) :
    (numbered owner start values).map value = values := by
  unfold numbered
  rw [List.map_map]
  exact List.zipIdx_map_fst start values

theorem numbered_pairwise (owner start : Nat) (values : List Value) :
    (numbered owner start values).Pairwise before := by
  have increasing : ((values.zipIdx start).map Prod.snd).Pairwise (· < ·) := by
    rw [List.zipIdx_map_snd]
    exact List.pairwise_lt_range'
  unfold numbered
  rw [List.pairwise_map] at increasing ⊢
  exact increasing.imp fun less => .inr ⟨rfl, Nat.le_of_lt less⟩

/-- The rows of an owner are read in the order of their numbers. -/
theorem ofOwner_ordered {rows : List (ChildRow Value)} {owner : Nat}
    {values : List Value}
    (dense : ofOwner rows owner = numbered owner 0 values) :
    ofOwner (ordered rows) owner = numbered owner 0 values := by
  have part : (numbered owner 0 values).Sublist (ordered rows) := by
    apply List.sublist_insertionSort (numbered_pairwise owner 0 values)
    rw [← dense]
    exact List.filter_sublist
  have whole : ofOwner (numbered owner 0 values) owner =
      numbered owner 0 values := by
    rw [ofOwner_numbered, if_pos rfl]
  have inside := part.filter fun row => decide (row.owner = owner)
  have same := (List.perm_insertionSort before rows).filter
    fun row => decide (row.owner = owner)
  have lengths := (congrArg List.length whole).trans
    ((congrArg List.length dense).symm.trans same.length_eq.symm)
  exact (inside.eq_of_length lengths).symm.trans whole

/-- The child rows that are read for some keys, by owner. -/
theorem chunk {rows : List (ChildRow Value)}
    {values : Nat → List Value}
    (dense : ∀ id, ofOwner rows id = numbered id 0 (values id))
    (ids : List Nat) :
    (∀ row ∈ ordered (rows.filter (ids.contains ·.owner)),
      row.owner ∈ ids ∧ values row.owner ≠ []) ∧
    ∀ id ∈ ids, (ofOwner (ordered (rows.filter (ids.contains ·.owner)))
      id).map value = values id := by
  constructor
  · intro row member
    have chosen := (List.perm_insertionSort before _).mem_iff.mp member
    obtain ⟨listed, wanted⟩ := List.mem_filter.mp chosen
    refine ⟨List.contains_iff_mem.mp wanted, ?_⟩
    intro none
    have own : row ∈ ofOwner rows row.owner :=
      List.mem_filter.mpr ⟨listed, decide_eq_true rfl⟩
    rw [dense, none] at own
    cases own
  · intro id member
    have whole : ofOwner (rows.filter (ids.contains ·.owner)) id =
        numbered id 0 (values id) := by
      rw [← dense id]
      unfold ofOwner
      rw [List.filter_filter]
      apply List.filter_congr
      intro row _
      by_cases same : row.owner = id <;> simp [same, member]
    rw [ofOwner_ordered whole, numbered_values]

end ChildRow

end BarDaemon.RelationalRows
