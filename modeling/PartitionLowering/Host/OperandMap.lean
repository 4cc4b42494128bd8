/-!
Finite maps keyed by operand index.  `get?_insert_self` and `get?_insert_of_ne` describe insertion.
The entries stand in strictly increasing order of their keys, so two maps with the same look-ups are
equal (`ext_get?`), and a map is made of its own entries (`ofList_entries`).
-/

set_option autoImplicit false

namespace PartitionLowering

/-- The number under which the host knows a tensor. -/
abbrev OperandIndex := Int32

/-- A map from operand indices, kept in the order of its keys. -/
structure OperandMap (α : Type) where
  entries : List (OperandIndex × α)
  sorted : entries.Pairwise fun a b => a.1 < b.1
  deriving DecidableEq

namespace OperandMap

variable {α : Type}

def empty : OperandMap α := ⟨[], .nil⟩

instance : EmptyCollection (OperandMap α) := ⟨empty⟩

instance : Inhabited (OperandMap α) := ⟨empty⟩

def find (index : OperandIndex) : List (OperandIndex × α) → Option α
  | [] => none
  | (key, value) :: rest => if index = key then some value else find index rest

def get? (map : OperandMap α) (index : OperandIndex) : Option α :=
  find index map.entries

def contains (map : OperandMap α) (index : OperandIndex) : Bool :=
  (map.get? index).isSome

def size (map : OperandMap α) : Nat :=
  map.entries.length

def isEmpty (map : OperandMap α) : Bool :=
  map.entries.isEmpty

/-- Puts `value` in its place, over an entry of the same key. -/
def place (index : OperandIndex) (value : α) :
    List (OperandIndex × α) → List (OperandIndex × α)
  | [] => [(index, value)]
  | (key, old) :: rest =>
    if index < key then (index, value) :: (key, old) :: rest
    else if index = key then (index, value) :: rest
    else (key, old) :: place index value rest

theorem mem_place {index : OperandIndex} {value : α} {entries : List (OperandIndex × α)}
    {entry : OperandIndex × α} (member : entry ∈ place index value entries) :
    entry = (index, value) ∨ entry ∈ entries := by
  induction entries with
  | nil => simpa [place] using member
  | cons head rest ih =>
    obtain ⟨key, old⟩ := head
    grind [place]

theorem sorted_place (index : OperandIndex) (value : α) {entries : List (OperandIndex × α)}
    (sorted : entries.Pairwise fun a b => a.1 < b.1) :
    (place index value entries).Pairwise fun a b => a.1 < b.1 := by
  induction entries with
  | nil => simp [place]
  | cons head rest ih =>
    obtain ⟨key, old⟩ := head
    obtain ⟨above, tail⟩ := List.pairwise_cons.1 sorted
    simp only [place]
    split
    · next below =>
      refine List.pairwise_cons.2 ⟨fun entry member => ?_, sorted⟩
      rcases List.mem_cons.1 member with rfl | member
      · exact below
      · exact Int32.lt_trans below (above entry member)
    · next notBelow =>
      split
      · next same =>
        subst same
        exact List.pairwise_cons.2 ⟨above, tail⟩
      · next other =>
        refine List.pairwise_cons.2 ⟨fun entry member => ?_, ih tail⟩
        rcases mem_place member with rfl | member
        · exact Int32.lt_of_le_of_ne (Int32.not_lt.1 notBelow) (Ne.symm other)
        · exact above entry member

def insert (map : OperandMap α) (index : OperandIndex) (value : α) : OperandMap α :=
  ⟨place index value map.entries, sorted_place index value map.sorted⟩

/-- The later of two entries with one key stays. -/
def ofList (entries : List (OperandIndex × α)) : OperandMap α :=
  entries.foldl (fun map entry => map.insert entry.1 entry.2) ∅

theorem get?_insert_self (map : OperandMap α) (index : OperandIndex) (value : α) :
    (map.insert index value).get? index = some value := by
  obtain ⟨entries, sorted⟩ := map
  simp only [get?, insert]
  clear sorted
  induction entries with
  | nil => simp [place, find]
  | cons head rest ih =>
    obtain ⟨key, old⟩ := head
    grind [place, find]

theorem get?_insert_of_ne (map : OperandMap α) {index other : OperandIndex} (value : α)
    (distinct : other ≠ index) : (map.insert index value).get? other = map.get? other := by
  obtain ⟨entries, sorted⟩ := map
  simp only [get?, insert]
  clear sorted
  induction entries with
  | nil => simp [place, find, distinct]
  | cons head rest ih =>
    obtain ⟨key, old⟩ := head
    grind [place, find]

theorem find_eq_none {index : OperandIndex} {entries : List (OperandIndex × α)}
    (below : ∀ entry ∈ entries, index < entry.1) : find index entries = none := by
  induction entries with
  | nil => rfl
  | cons head rest ih =>
    obtain ⟨key, value⟩ := head
    have distinct : index ≠ key := Int32.ne_of_lt (below (key, value) List.mem_cons_self)
    simpa [find, distinct] using ih fun entry member => below entry (List.mem_cons_of_mem _ member)

theorem eq_of_find_eq {left right : List (OperandIndex × α)}
    (sortedLeft : left.Pairwise fun a b => a.1 < b.1)
    (sortedRight : right.Pairwise fun a b => a.1 < b.1)
    (same : ∀ index, find index left = find index right) : left = right := by
  induction left generalizing right with
  | nil =>
    cases right with
    | nil => rfl
    | cons head rest => simpa [find] using same head.1
  | cons head rest ih =>
    obtain ⟨key, value⟩ := head
    obtain ⟨above, tail⟩ := List.pairwise_cons.1 sortedLeft
    cases right with
    | nil => simpa [find] using same key
    | cons head' rest' =>
      obtain ⟨key', value'⟩ := head'
      obtain ⟨above', tail'⟩ := List.pairwise_cons.1 sortedRight
      have keys : key = key' := by
        apply Decidable.byContradiction
        intro distinct
        have first := same key
        have second := same key'
        have none_left : key' < key → find key' rest = none := fun lower =>
          find_eq_none fun entry member => Int32.lt_trans lower (above entry member)
        have none_right : key < key' → find key rest' = none := fun lower =>
          find_eq_none fun entry member => Int32.lt_trans lower (above' entry member)
        rcases Int32.lt_or_lt_of_ne distinct with lower | lower
        · simp [find, distinct, none_right lower] at first
        · simp [find, Ne.symm distinct, none_left lower] at second
      subst keys
      have values : value = value' := by simpa [find] using same key
      subst values
      congr 1
      refine ih tail tail' fun index => ?_
      by_cases here : index = key
      · subst here
        rw [find_eq_none above, find_eq_none above']
      · simpa [find, here] using same index

/-- Maps with the same look-ups are equal. -/
theorem ext_get? {left right : OperandMap α}
    (same : ∀ index, left.get? index = right.get? index) : left = right := by
  obtain ⟨leftEntries, leftSorted⟩ := left
  obtain ⟨rightEntries, rightSorted⟩ := right
  have entries : leftEntries = rightEntries := eq_of_find_eq leftSorted rightSorted same
  subst entries
  rfl

/-- Putting in entries with increasing keys keeps what stands under all other keys. -/
theorem get?_foldl_insert {entries : List (OperandIndex × α)}
    (sorted : entries.Pairwise fun a b => a.1 < b.1) (map : OperandMap α) (index : OperandIndex) :
    (entries.foldl (fun map entry => map.insert entry.1 entry.2) map).get? index =
      (find index entries).or (map.get? index) := by
  induction entries generalizing map with
  | nil => rfl
  | cons head rest ih =>
    obtain ⟨key, value⟩ := head
    obtain ⟨above, tail⟩ := List.pairwise_cons.1 sorted
    rw [List.foldl_cons, ih tail]
    by_cases here : index = key
    · subst here
      simp [find, find_eq_none above, get?_insert_self]
    · simp [find, here, get?_insert_of_ne map value here]

/-- A map is made of its own entries. -/
theorem ofList_entries (map : OperandMap α) : ofList map.entries = map := by
  apply ext_get?
  intro index
  have nothing : (∅ : OperandMap α).get? index = none := rfl
  rw [ofList, get?_foldl_insert map.sorted, nothing, Option.or_none]
  rfl

end OperandMap

end PartitionLowering
