import Mathlib.Algebra.Group.Nat.Defs
import Mathlib.Data.List.Nodup
import Ferredge.Core.FirstMatch

/-!
# Documented keys

The kinds of documented keys, with the readers that follow their documentation.  A decoder made of
such readers reads every key by its first value.
-/

namespace Ferredge

open Fallible

variable {View ε : Type}

/-! ## Kinds of keys -/

namespace Documented

/-- A key whose value is text. -/
def text (key : String) (field : View → Option String) : Documented View :=
  { key
    admits := fun value => ∃ text, value = .str text
    holds := fun first view => first = (field view).map .str }

/-- A key whose value is a flag; without one the flag is not set. -/
def flag (key : String) (field : View → Bool) : Documented View :=
  { key
    admits := fun value => ∃ flag, value = .bool flag
    holds := fun first view =>
      first = some (.bool (field view)) ∨ first = none ∧ field view = false }

/-- A key whose value is an unsigned integer of the given width. -/
def number (width : Nat) (key : String) (field : View → Option UInt64) : Documented View :=
  { key
    admits := fun value => ∃ number, value = .u64 number ∧ number.toNat < 2 ^ width
    holds := fun first view => first = (field view).map .u64 }

/-- A key whose value is a list; without one the list is empty. -/
def list {α : Type} (key : String) (store : List α → MetaValue) (fits : List α → Prop)
    (field : View → List α) : Documented View :=
  { key
    admits := fun value => ∃ items, value = store items ∧ fits items
    holds := fun first view =>
      first = some (store (field view)) ∨ first = none ∧ field view = [] }

/-- Two views agree on a key when they say the same of some value. -/
def Agree (row : Documented View) (view other : View) : Prop :=
  ∃ first, row.holds first view ∧ row.holds first other

variable {key : String} {value : MetaValue} {view other : View}

section Text

variable {field : View → Option String}

theorem text_agree (same : (text key field).Agree view other) : field view = field other := by
  obtain ⟨first, rfl, equal⟩ := same
  exact Option.map_injective (fun _ _ => MetaValue.str.inj) equal

theorem text_admits (holds : (text key field).holds (some value) view) :
    (text key field).admits value := by
  obtain ⟨text, -, rfl⟩ := Option.map_eq_some_iff.mp holds.symm
  exact ⟨text, rfl⟩

end Text

section Flag

variable {field : View → Bool}

theorem flag_agree (same : (flag key field).Agree view other) : field view = field other := by
  obtain ⟨first, rfl | ⟨rfl, unset⟩, equal | ⟨equal, unset'⟩⟩ := same
  · exact MetaValue.bool.inj (Option.some.inj equal)
  · cases equal
  · cases equal
  · rw [unset, unset']

theorem flag_admits (holds : (flag key field).holds (some value) view) :
    (flag key field).admits value := by
  rcases holds with stored | ⟨absent, -⟩
  · exact ⟨field view, Option.some.inj stored⟩
  · cases absent

end Flag

section Number

variable {α : Type} {width : Nat} {field : View → Option α} {widen : α → UInt64}

theorem number_agree (injective : Function.Injective widen)
    (same : (number width key fun view => (field view).map widen).Agree view other) :
    field view = field other := by
  obtain ⟨first, rfl, equal⟩ := same
  exact Option.map_injective injective (Option.map_injective (fun _ _ => MetaValue.u64.inj) equal)

theorem number_admits (fits : ∀ item, (widen item).toNat < 2 ^ width)
    (holds : (number width key fun view => (field view).map widen).holds (some value) view) :
    (number width key fun view => (field view).map widen).admits value := by
  obtain ⟨wide, found, rfl⟩ := Option.map_eq_some_iff.mp holds.symm
  obtain ⟨item, -, rfl⟩ := Option.map_eq_some_iff.mp found
  exact ⟨widen item, rfl, fits item⟩

end Number

section List

variable {α : Type} {store : List α → MetaValue} {fits : List α → Prop} {field : View → List α}

theorem list_agree (injective : Function.Injective store)
    (same : (list key store fits field).Agree view other) : field view = field other := by
  obtain ⟨first, rfl | ⟨rfl, empty⟩, equal | ⟨equal, empty'⟩⟩ := same
  · exact injective (Option.some.inj equal)
  · cases equal
  · cases equal
  · rw [empty, empty']

theorem list_admits (fitting : ∀ view, fits (field view))
    (holds : (list key store fits field).holds (some value) view) :
    (list key store fits field).admits value := by
  rcases holds with stored | ⟨absent, -⟩
  · exact ⟨field view, Option.some.inj stored, fitting view⟩
  · cases absent

end List
end Documented

/-! ## Readers -/

/-- One known key: how its value is read, and where it is stored in the view. -/
structure Reader (View ε : Type) where
  key : String
  read : MetaValue → Except ε (View → View)

/-- The reader of a field follows the documentation of its key. -/
structure Reader.Follows (reader : Reader View ε) (row : Documented View) : Prop where
  key : reader.key = row.key
  admits : ∀ value, (∃ update, reader.read value = .ok update) ↔ row.admits value
  stored : ∀ value update view, reader.read value = .ok update →
    row.holds (some value) (update view)

/-- Stores one capture entry in the view; unknown keys are ignored. -/
def decodeWith (readers : List (Reader View ε)) (view : View) (key : String) (value : MetaValue) :
    Except ε View :=
  match readers.find? fun reader => reader.key == key with
  | some reader => (reader.read value).map fun store => store view
  | none => .ok view

namespace Reader

variable {α : Type} {key : String} {store : α → View → View}

/-- A reader follows the documentation when the values it reads are the ones admitted, and what it
stores is what the documentation says of them. -/
theorem follows_of_map (row : Documented View) {read : MetaValue → Except ε α}
    (admits : ∀ value, (∃ item, read value = .ok item) ↔ row.admits value)
    (stored : ∀ value item view, read value = .ok item → row.holds (some value) (store item view)) :
    Follows { key := row.key, read := fun value => (read value).map store } row where
  key := rfl
  admits value := by
    rw [← admits]
    constructor
    · rintro ⟨update, decoded⟩
      obtain ⟨item, found, -⟩ := map_eq_ok.mp decoded
      exact ⟨item, found⟩
    · rintro ⟨item, found⟩
      exact ⟨store item, map_eq_ok.mpr ⟨item, found, rfl⟩⟩
  stored value update view decoded := by
    obtain ⟨item, found, rfl⟩ := map_eq_ok.mp decoded
    exact stored value item view found

theorem text_follows {read : MetaValue → Except ε String} {store : String → View → View}
    {field : View → Option String} (reads : ∀ value text, read value = .ok text ↔ value = .str text)
    (stores : ∀ text view, field (store text view) = some text) :
    Follows { key, read := fun value => (read value).map store } (.text key field) := by
  refine follows_of_map (.text key field) ?_ ?_
  · intro value
    simp only [reads]
    rfl
  · intro value text view found
    rw [(reads value text).mp found]
    simp [Documented.text, stores]

theorem flag_follows {read : MetaValue → Except ε Bool} {store : Bool → View → View}
    {field : View → Bool} (reads : ∀ value flag, read value = .ok flag ↔ value = .bool flag)
    (stores : ∀ flag view, field (store flag view) = flag) :
    Follows { key, read := fun value => (read value).map store } (.flag key field) := by
  refine follows_of_map (.flag key field) ?_ ?_
  · intro value
    simp only [reads]
    rfl
  · intro value flag view found
    rw [(reads value flag).mp found]
    simp [Documented.flag, stores]

theorem number_follows {width : Nat} {read : MetaValue → Except ε UInt64}
    {store : UInt64 → View → View} {field : View → Option UInt64}
    (reads : ∀ value number,
      read value = .ok number ↔ value = .u64 number ∧ number.toNat < 2 ^ width)
    (stores : ∀ number view, number.toNat < 2 ^ width → field (store number view) = some number) :
    Follows { key, read := fun value => (read value).map store } (.number width key field) := by
  refine follows_of_map (.number width key field) ?_ ?_
  · intro value
    simp only [reads]
    rfl
  · intro value number view found
    obtain ⟨rfl, fits⟩ := (reads value number).mp found
    simp [Documented.number, stores number view fits]

theorem list_follows {read : MetaValue → Except ε (List α)} {fits : List α → Prop}
    {store : List α → View → View} {wrap : List α → MetaValue} {field : View → List α}
    (reads : ∀ value items, read value = .ok items ↔ value = wrap items ∧ fits items)
    (stores : ∀ items view, fits items → field (store items view) = items) :
    Follows { key, read := fun value => (read value).map store } (.list key wrap fits field) := by
  refine follows_of_map (.list key wrap fits field) ?_ ?_
  · intro value
    simp only [reads]
    rfl
  · intro value items view found
    obtain ⟨rfl, fitting⟩ := (reads value items).mp found
    simp [Documented.list, stores items view fitting]

end Reader

/-- A number that fits a narrow field is kept by it. -/
theorem widened8 {number : UInt64} (fits : number.toNat < 2 ^ 8) :
    number.toUInt8.toUInt64 = number := by
  rw [← UInt64.toNat_inj]
  simpa using fits

theorem widened16 {number : UInt64} (fits : number.toNat < 2 ^ 16) :
    number.toUInt16.toUInt64 = number := by
  rw [← UInt64.toNat_inj]
  simpa using fits

theorem widened32 {number : UInt64} (fits : number.toNat < 2 ^ 32) :
    number.toUInt32.toUInt64 = number := by
  rw [← UInt64.toNat_inj]
  simpa using fits

/-! ## Tables of readers -/

section Table

variable {readers : List (Reader View ε)} {documented : List (Documented View)}

/-- Every reader has its row. -/
theorem exists_row (follow : List.Forall₂ Reader.Follows readers documented) :
    ∀ reader ∈ readers, ∃ row ∈ documented, reader.Follows row := by
  induction follow with
  | nil => exact List.forall_mem_nil _
  | cons follows _ ih =>
      refine List.forall_mem_cons.mpr ⟨⟨_, List.mem_cons_self, follows⟩, ?_⟩
      intro reader member
      obtain ⟨row, listed, follows⟩ := ih reader member
      exact ⟨row, List.mem_cons_of_mem _ listed, follows⟩

theorem keys_readers (follow : List.Forall₂ Reader.Follows readers documented) :
    readers.map Reader.key = documented.map Documented.key := by
  induction follow with
  | nil => rfl
  | cons follows _ ih => rw [List.map_cons, List.map_cons, follows.key, ih]

/-- A key without a reader is not documented, and one with a reader is documented by its row. -/
theorem reader_cases (follow : List.Forall₂ Reader.Follows readers documented) (key : String) :
    (readers.find? fun reader => reader.key == key) = none ∧
        key ∉ documented.map Documented.key ∨
      ∃ reader row, (readers.find? fun reader => reader.key == key) = some reader ∧
        row ∈ documented ∧ row.key = key ∧ reader.Follows row := by
  cases found : readers.find? fun reader => reader.key == key with
  | none =>
      refine .inl ⟨rfl, ?_⟩
      rw [← keys_readers follow]
      intro known
      obtain ⟨reader, member, rfl⟩ := List.mem_map.mp known
      simpa using List.find?_eq_none.mp found reader member
  | some reader =>
      have named : reader.key = key := by simpa using List.find?_some found
      obtain ⟨row, listed, follows⟩ := exists_row follow reader (List.mem_of_find?_eq_some found)
      exact .inr ⟨reader, row, rfl, listed, follows.key.symm.trans named, follows⟩

/-- A decoder made of readers that follow the documentation reads single entries by it. -/
theorem readsEntries_of_readers {headersOf : View → Option Headers}
    (follow : List.Forall₂ Reader.Follows readers documented)
    (distinct : (documented.map Documented.key).Nodup)
    (keeps : ∀ reader ∈ readers, ∀ value update, reader.read value = .ok update →
      (∀ view, headersOf (update view) = headersOf view) ∧
        ∀ row ∈ documented, reader.key ≠ row.key → ∀ view first,
          (row.holds first (update view) ↔ row.holds first view))
    (determined : ∀ view other, headersOf view = headersOf other →
      (∀ row ∈ documented, row.Agree view other) → view = other)
    (admits : ∀ value view, ∀ row ∈ documented, row.holds (some value) view → row.admits value) :
    TransportMeta.ReadsEntries documented headersOf (decodeWith readers) where
  admitted view key value := by
    rw [decodeWith]
    rcases reader_cases follow key with
      ⟨missing, unknown⟩ | ⟨reader, row, found, listed, rfl, follows⟩
    · rw [missing]
      refine ⟨fun _ row listed named => ?_, fun _ => ⟨view, rfl⟩⟩
      exact absurd (named ▸ List.mem_map_of_mem listed) unknown
    · rw [found]
      simp only [map_eq_ok]
      constructor
      · rintro ⟨next, update, read, -⟩ other known named
        obtain rfl : other = row := List.inj_on_of_nodup_map distinct known listed named
        exact (follows.admits value).mp ⟨update, read⟩
      · intro every
        obtain ⟨update, read⟩ := (follows.admits value).mpr (every row listed rfl)
        exact ⟨update view, update, read, rfl⟩
  stored row listed view value next decoded := by
    rw [decodeWith] at decoded
    rcases reader_cases follow row.key with
      ⟨-, unknown⟩ | ⟨reader, other, found, known, named, follows⟩
    · exact absurd (List.mem_map_of_mem listed) unknown
    · obtain rfl : other = row := List.inj_on_of_nodup_map distinct known listed named
      rw [found] at decoded
      obtain ⟨update, read, rfl⟩ := map_eq_ok.mp decoded
      exact follows.stored value update view read
  kept row listed view key value next first different decoded held := by
    rw [decodeWith] at decoded
    cases found : readers.find? fun reader => reader.key == key with
    | none =>
        rw [found] at decoded
        cases decoded
        exact held
    | some reader =>
        rw [found] at decoded
        obtain ⟨update, read, rfl⟩ := map_eq_ok.mp decoded
        have named : reader.key = key := by simpa using List.find?_some found
        exact ((keeps reader (List.mem_of_find?_eq_some found) value update read).2 row listed
          (named ▸ different) view first).mpr held
  ignored key unknown view value := by
    rcases reader_cases follow key with ⟨missing, -⟩ | ⟨reader, row, -, listed, rfl, -⟩
    · rw [decodeWith, missing]
    · exact absurd (List.mem_map_of_mem listed) unknown
  headers view key value next decoded := by
    rw [decodeWith] at decoded
    split at decoded
    · rename_i reader found
      obtain ⟨update, read, rfl⟩ := map_eq_ok.mp decoded
      exact (keeps reader (List.mem_of_find?_eq_some found) value update read).1 view
    · cases decoded
      rfl
  determined := determined
  admits_of_holds row listed value view holds := admits value view row listed holds

end Table
end Ferredge
