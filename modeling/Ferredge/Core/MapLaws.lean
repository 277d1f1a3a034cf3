import Ferredge.Core.FirstMatch

/-!
# Captures as maps

A capture that was read from the wire may hold several entries of one key.  Lookup, update and
removal still obey the laws of a map: an update replaces the first entry of its key or adds one, and
a removal drops every entry of its key.
-/

namespace Ferredge
namespace TransportMeta

variable {key other : String} {entries : List (String × MetaValue)}

/-- The entries stored under a key, in order. -/
def entriesUnder (key : String) (entries : List (String × MetaValue)) :
    List (String × MetaValue) :=
  entries.filter fun entry => entry.1 == key

/-- The entries stored under any other key, in order. -/
def entriesBeside (key : String) (entries : List (String × MetaValue)) :
    List (String × MetaValue) :=
  entries.filter fun entry => entry.1 != key

theorem get_eq_firstValue (capture : TransportMeta) (key : String) :
    capture.get key = firstValue key capture.entries :=
  rfl

theorem firstValue_eq_none : firstValue key entries = none ↔ entriesUnder key entries = [] := by
  simp [firstValue, entriesUnder]

theorem entriesBeside_of_entriesUnder_nil (none_under : entriesUnder key entries = []) :
    entriesBeside key entries = entries := by
  rw [entriesUnder, List.filter_eq_nil_iff] at none_under
  rw [entriesBeside, List.filter_eq_self]
  intro entry member
  simpa [bne] using none_under entry member

theorem firstValue_entriesBeside_self (key : String) (entries : List (String × MetaValue)) :
    firstValue key (entriesBeside key entries) = none := by
  rw [firstValue_eq_none, entriesUnder, entriesBeside, List.filter_filter,
    List.filter_eq_nil_iff]
  simp

theorem firstValue_entriesBeside_of_ne (different : other ≠ key)
    (entries : List (String × MetaValue)) :
    firstValue other (entriesBeside key entries) = firstValue other entries := by
  induction entries with
  | nil => rfl
  | cons entry entries ih =>
      obtain ⟨first, stored⟩ := entry
      by_cases same : first = key
      · subst same
        rw [firstValue_cons_of_ne (Ne.symm different), ← ih]
        simp [entriesBeside]
      · have kept : entriesBeside key ((first, stored) :: entries) =
            (first, stored) :: entriesBeside key entries := by
          simp [entriesBeside, same]
        rw [kept]
        by_cases found : first = other
        · subst found
          rw [firstValue_cons_self, firstValue_cons_self]
        · rw [firstValue_cons_of_ne found, firstValue_cons_of_ne found, ih]

/-! ## Update -/

/-- An update leaves the entries of the other keys as they are. -/
theorem entriesBeside_setEntry (key : String) (value : MetaValue)
    (entries : List (String × MetaValue)) :
    entriesBeside key (setEntry key value entries) = entriesBeside key entries := by
  induction entries with
  | nil => simp [entriesBeside, setEntry]
  | cons entry entries ih =>
      by_cases same : entry.1 = key
      · simp [entriesBeside, setEntry, same]
      · have kept :
            setEntry key value (entry :: entries) = entry :: setEntry key value entries := by
          rw [setEntry, if_neg (by simpa using same)]
        simp only [entriesBeside] at ih
        rw [kept, entriesBeside, entriesBeside, List.filter_cons, List.filter_cons, ih]

theorem length_entriesUnder_setEntry (key : String) (value : MetaValue)
    (entries : List (String × MetaValue)) :
    (entriesUnder key (setEntry key value entries)).length =
      max 1 (entriesUnder key entries).length := by
  induction entries with
  | nil => simp [entriesUnder, setEntry]
  | cons entry entries ih =>
      by_cases same : entry.1 = key
      · simp [entriesUnder, setEntry, same]
      · have kept :
            setEntry key value (entry :: entries) = entry :: setEntry key value entries := by
          rw [setEntry, if_neg (by simpa using same)]
        have skipped (rest : List (String × MetaValue)) :
            entriesUnder key (entry :: rest) = entriesUnder key rest := by
          simp [entriesUnder, same]
        rw [kept, skipped, skipped, ih]

/-! ## Removal -/

/-- Removing the first entry of a key and then every other one removes all of them. -/
theorem filter_eraseIdx_findIdx? {index : Nat}
    (found : entries.findIdx? (fun entry => entry.1 == key) = some index) :
    (entries.eraseIdx index).filter (fun entry => entry.1 != key) = entriesBeside key entries ∧
      entries[index]?.map Prod.snd = firstValue key entries := by
  induction entries generalizing index with
  | nil => simp at found
  | cons entry entries ih =>
      obtain ⟨first, stored⟩ := entry
      by_cases same : first = key
      · subst same
        have first_index : index = 0 := by
          simpa [List.findIdx?_cons] using found.symm
        subst first_index
        simp [entriesBeside, firstValue]
      · have skipped : (first == key) = false := by
          simpa using same
        rw [List.findIdx?_cons, skipped] at found
        obtain ⟨rest_index, rest_found, rfl⟩ : ∃ rest_index,
            entries.findIdx? (fun entry => entry.1 == key) = some rest_index ∧
              rest_index + 1 = index := by
          simpa using found
        obtain ⟨erased, value⟩ := ih rest_found
        rw [firstValue_cons_of_ne same]
        refine ⟨?_, by simpa using value⟩
        simpa [entriesBeside, same] using erased

theorem take_eq (capture : TransportMeta) (key : String) :
    capture.take key =
      (capture.get key, { capture with entries := entriesBeside key capture.entries }) := by
  rw [take]
  cases found : capture.entries.findIdx? (fun entry => entry.1 == key) with
  | none =>
      have none_under : entriesUnder key capture.entries = [] := by
        simpa [entriesUnder, List.findIdx?_eq_none_iff] using found
      rw [entriesBeside_of_entriesUnder_nil none_under, get_eq_firstValue,
        firstValue_eq_none.mpr none_under]
  | some index =>
      obtain ⟨erased, value⟩ := filter_eraseIdx_findIdx? found
      simp only [erased, value, get_eq_firstValue]

/-! ## The laws -/

/-- Lookup, update and removal are those of a map, however often a key is stored: an update never
changes an entry of another key nor adds one beside an entry of its own, and a removal leaves
exactly the entries of the other keys, in their order. -/
theorem set_get_take_laws (capture : TransportMeta) (key : String) (value : MetaValue) :
    ((capture.set key value).get key = some value ∧
      ∀ other, other ≠ key → (capture.set key value).get other = capture.get other) ∧
    ((capture.take key).1 = capture.get key ∧
      (capture.take key).2.get key = none ∧
      (∀ other, other ≠ key → (capture.take key).2.get other = capture.get other) ∧
      (capture.take key).2.entries = entriesBeside key capture.entries) ∧
    (entriesBeside key (capture.set key value).entries = entriesBeside key capture.entries ∧
      (entriesUnder key (capture.set key value).entries).length =
        max 1 (entriesUnder key capture.entries).length) := by
  refine ⟨⟨?_, ?_⟩, ⟨?_, ?_, ?_, ?_⟩, ?_, ?_⟩
  · exact firstValue_setEntry_self key value capture.entries
  · intro other different
    exact firstValue_setEntry_of_ne different value capture.entries
  · rw [take_eq]
  · rw [take_eq]
    exact firstValue_entriesBeside_self key capture.entries
  · intro other different
    rw [take_eq]
    exact firstValue_entriesBeside_of_ne different capture.entries
  · rw [take_eq]
  · exact entriesBeside_setEntry key value capture.entries
  · exact length_entriesUnder_setEntry key value capture.entries

/-- A capture that stores its quality of service twice. -/
def repeatedQos : TransportMeta :=
  { protocol := .mqtt
    headers := none
    entries := [("qos", .u64 1), ("topic", .str "plant/line"), ("qos", .u64 2)] }

theorem repeatedQos_set : (repeatedQos.set "qos" (.u64 0)).get "topic" = repeatedQos.get "topic" :=
  (set_get_take_laws repeatedQos "qos" (.u64 0)).1.2 "topic" (by decide)

end TransportMeta
end Ferredge
