import Ferredge.Core.Meta

/-!
# First-match decoding

A capture may store a key more than once.  Walking the entries and skipping every key already seen
amounts to looking up each documented key by its first value.
-/

namespace Ferredge

/-- One documented key of a capture: the values it may have, and what the view says of the first
one. -/
structure Documented (View : Type) where
  key : String
  admits : MetaValue → Prop
  holds : Option MetaValue → View → Prop

/-! ## Borrowed captures -/

/-- Re-borrows a value; its content stays the same. -/
def MetaValue.asBorrowed : MetaValue → MetaValue
  | .bool value => .bool value
  | .u64 value => .u64 value
  | .i64 value => .i64 value
  | .str value => .str value
  | .bytes value => .bytes value
  | .u64List values => .u64List values
  | .strList values => .strList values
  | .pairs values => .pairs (values.map fun pair => (pair.1, pair.2))

def Headers.asBorrowed (headers : Headers) : Headers :=
  headers.map fun header => { key := header.key, value := header.value }

namespace TransportMeta

def asBorrowed (capture : TransportMeta) : TransportMeta :=
  { protocol := capture.protocol
    headers := capture.headers.map Headers.asBorrowed
    entries := capture.entries.map fun entry => (entry.1, entry.2.asBorrowed) }

@[simp]
theorem asBorrowed_eq (capture : TransportMeta) : capture.asBorrowed = capture := by
  have value_eq (value : MetaValue) : value.asBorrowed = value := by
    cases value <;> simp [MetaValue.asBorrowed]
  have headers_eq : Headers.asBorrowed = id := by
    funext headers
    simp [Headers.asBorrowed]
  simp [asBorrowed, value_eq, headers_eq]

/-! ## Lookup -/

/-- The first value stored under a key among the entries. -/
def firstValue (key : String) (entries : List (String × MetaValue)) : Option MetaValue :=
  (entries.find? fun entry => entry.1 == key).map Prod.snd

theorem firstValue_cons_self (key : String) (value : MetaValue)
    (entries : List (String × MetaValue)) :
    firstValue key ((key, value) :: entries) = some value := by
  simp [firstValue]

theorem firstValue_cons_of_ne {key other : String} (different : other ≠ key) (value : MetaValue)
    (entries : List (String × MetaValue)) :
    firstValue key ((other, value) :: entries) = firstValue key entries := by
  simp [firstValue, different]

theorem firstValue_setEntry_self (key : String) (value : MetaValue)
    (entries : List (String × MetaValue)) :
    firstValue key (setEntry key value entries) = some value := by
  induction entries with
  | nil => exact firstValue_cons_self key value []
  | cons entry entries ih =>
      obtain ⟨first, stored⟩ := entry
      by_cases same : first = key
      · subst same
        rw [setEntry, if_pos (beq_self_eq_true first), firstValue_cons_self]
      · rw [setEntry, if_neg (by simpa using same), firstValue_cons_of_ne same, ih]

theorem firstValue_setEntry_of_ne {key other : String} (different : other ≠ key)
    (value : MetaValue) (entries : List (String × MetaValue)) :
    firstValue other (setEntry key value entries) = firstValue other entries := by
  induction entries with
  | nil => exact firstValue_cons_of_ne (Ne.symm different) value []
  | cons entry entries ih =>
      obtain ⟨first, stored⟩ := entry
      by_cases same : first = key
      · subst same
        rw [setEntry, if_pos (beq_self_eq_true first), firstValue_cons_of_ne (Ne.symm different),
          firstValue_cons_of_ne (Ne.symm different)]
      · rw [setEntry, if_neg (by simpa using same)]
        by_cases found : first = other
        · subst found
          rw [firstValue_cons_self, firstValue_cons_self]
        · rw [firstValue_cons_of_ne found, firstValue_cons_of_ne found, ih]

/-- Stores a value under a key if there is one. -/
def setPresent (capture : TransportMeta) (key : String) : Option MetaValue → TransportMeta
  | some value => capture.set key value
  | none => capture

theorem get_new (protocol : ProtocolId) (key : String) : (new protocol).get key = none :=
  rfl

theorem get_setPresent (capture : TransportMeta) (key other : String) (value : Option MetaValue) :
    (capture.setPresent key value).get other =
      if other = key then value.or (capture.get other) else capture.get other := by
  cases value with
  | none => simp [setPresent]
  | some value =>
      split
      · subst other
        exact firstValue_setEntry_self key value capture.entries
      · rename_i different
        exact firstValue_setEntry_of_ne different value capture.entries

theorem protocol_setPresent (capture : TransportMeta) (key : String) (value : Option MetaValue) :
    (capture.setPresent key value).protocol = capture.protocol := by
  cases value <;> rfl

/-- Stores the rows that have a value, one after the other. -/
def store (capture : TransportMeta) (rows : List (String × Option MetaValue)) : TransportMeta :=
  rows.foldl (fun capture row => capture.setPresent row.1 row.2) capture

/-- The last row of a key that has a value counts. -/
theorem get_store (rows : List (String × Option MetaValue)) (capture : TransportMeta)
    (key : String) : (capture.store rows).get key =
      rows.foldl (fun found row => if key = row.1 then row.2.or found else found)
        (capture.get key) := by
  induction rows generalizing capture with
  | nil => rfl
  | cons row rows ih =>
      rw [List.foldl_cons, ← get_setPresent, ← ih]
      rfl

theorem protocol_store (rows : List (String × Option MetaValue)) (capture : TransportMeta) :
    (capture.store rows).protocol = capture.protocol := by
  induction rows generalizing capture with
  | nil => rfl
  | cons row rows ih => exact (ih _).trans (protocol_setPresent capture row.1 row.2)

/-- Replaces the headers carried by the capture. -/
def withHeaders (capture : TransportMeta) (headers : Option Headers) : TransportMeta :=
  { capture with headers }

theorem get_withHeaders (capture : TransportMeta) (headers : Option Headers) (key : String) :
    (capture.withHeaders headers).get key = capture.get key :=
  rfl

/-! ## The walk -/

section Walk

variable {View ε : Type} {decodeEntry : View → String → MetaValue → Except ε View}

/-- The walk succeeds exactly when the first value of every key not seen before is admitted. -/
theorem walkEntries_succeeds_iff {admits : String → MetaValue → Prop}
    (admitted : ∀ view key value,
      (∃ next, decodeEntry view key value = .ok next) ↔ admits key value)
    {entries : List (String × MetaValue)} {seen : List String} {view : View} :
    (∃ final, walkEntries decodeEntry seen view entries = .ok final) ↔
      ∀ key value, key ∉ seen → firstValue key entries = some value → admits key value := by
  induction entries generalizing seen view with
  | nil =>
      refine ⟨fun _ key value _ found => ?_, fun _ => ⟨view, rfl⟩⟩
      cases found
  | cons entry entries ih =>
      obtain ⟨key, value⟩ := entry
      by_cases repeated : key ∈ seen
      · rw [walkEntries, if_pos repeated, ih]
        refine forall₂_congr fun other stored => imp_congr_right fun unseen => ?_
        have different : key ≠ other := fun same => unseen (same ▸ repeated)
        rw [firstValue_cons_of_ne different]
      · rw [walkEntries, if_neg repeated]
        constructor
        · rintro ⟨final, walked⟩ other stored unseen found
          obtain ⟨next, decoded, rest⟩ := Fallible.bind_eq_ok.mp walked
          by_cases same : key = other
          · subst same
            rw [firstValue_cons_self] at found
            cases found
            exact (admitted view key value).mp ⟨next, decoded⟩
          · rw [firstValue_cons_of_ne same] at found
            refine ih.mp ⟨final, rest⟩ other stored ?_ found
            simpa [Ne.symm same] using unseen
        · intro every
          obtain ⟨next, decoded⟩ := (admitted view key value).mpr
            (every key value repeated (firstValue_cons_self key value entries))
          obtain ⟨final, rest⟩ := (@ih (key :: seen) next).mpr
            fun other stored unseen found => by
              rw [List.mem_cons, not_or] at unseen
              refine every other stored unseen.2 ?_
              rw [firstValue_cons_of_ne (Ne.symm unseen.1), found]
          exact ⟨final, Fallible.bind_eq_ok.mpr ⟨next, decoded, rest⟩⟩

/-- What the view says of a key that is not seen before is what its first value says. -/
theorem walkEntries_holds {row : Documented View}
    (stored : ∀ view value next,
      decodeEntry view row.key value = .ok next → row.holds (some value) next)
    (kept : ∀ view key value next first, key ≠ row.key → decodeEntry view key value = .ok next →
      row.holds first view → row.holds first next)
    {entries : List (String × MetaValue)} {seen : List String} {view final : View}
    (walked : walkEntries decodeEntry seen view entries = .ok final) :
    (row.key ∉ seen → row.holds none view → row.holds (firstValue row.key entries) final) ∧
      ∀ first, row.key ∈ seen → row.holds first view → row.holds first final := by
  induction entries generalizing seen view with
  | nil =>
      cases walked
      exact ⟨fun _ default => default, fun _ _ held => held⟩
  | cons entry entries ih =>
      obtain ⟨key, value⟩ := entry
      by_cases repeated : key ∈ seen
      · rw [walkEntries, if_pos repeated] at walked
        obtain ⟨unseen, later⟩ := ih walked
        refine ⟨fun fresh default => ?_, later⟩
        have different : key ≠ row.key := fun same => fresh (same ▸ repeated)
        rw [firstValue_cons_of_ne different]
        exact unseen fresh default
      · rw [walkEntries, if_neg repeated] at walked
        obtain ⟨next, decoded, rest⟩ := Fallible.bind_eq_ok.mp walked
        obtain ⟨unseen, later⟩ := ih rest
        by_cases same : key = row.key
        · subst same
          refine ⟨fun _ _ => ?_, fun _ listed => absurd listed repeated⟩
          rw [firstValue_cons_self]
          exact later (some value) List.mem_cons_self (stored view value next decoded)
        · refine ⟨fun fresh default => ?_, fun first listed held => ?_⟩
          · rw [firstValue_cons_of_ne same]
            refine unseen ?_ (kept view key value next none same decoded default)
            simpa [Ne.symm same] using fresh
          · exact later first (List.mem_cons_of_mem key listed)
              (kept view key value next first same decoded held)

/-- An entry under a key that was seen before is skipped. -/
theorem walkEntries_shadowed {key : String} {before : List (String × MetaValue)}
    {seen : List String} (shadowed : key ∈ seen ∨ key ∈ before.map Prod.fst) (value : MetaValue)
    (after : List (String × MetaValue)) (view : View) :
    walkEntries decodeEntry seen view (before ++ (key, value) :: after) =
      walkEntries decodeEntry seen view (before ++ after) := by
  induction before generalizing seen view with
  | nil =>
      have repeated : key ∈ seen := by simpa using shadowed
      rw [List.nil_append, walkEntries, if_pos repeated, List.nil_append]
  | cons entry before ih =>
      obtain ⟨first, stored⟩ := entry
      simp only [List.cons_append, walkEntries]
      by_cases repeated : first ∈ seen
      · rw [if_pos repeated, if_pos repeated]
        refine ih ?_ view
        rcases shadowed with listed | listed
        · exact .inl listed
        · rw [List.map_cons, List.mem_cons] at listed
          rcases listed with rfl | listed
          · exact .inl repeated
          · exact .inr listed
      · rw [if_neg repeated, if_neg repeated]
        refine bind_congr fun next => ih ?_ next
        rw [List.map_cons, List.mem_cons] at shadowed
        rw [List.mem_cons]
        tauto

/-- It does not matter whether a key that is ignored was seen before. -/
theorem walkEntries_seen_of_ignored {key : String}
    (ignored : ∀ view value, decodeEntry view key value = .ok view)
    (entries : List (String × MetaValue)) {seen others : List String}
    (same : ∀ other, other ≠ key → (other ∈ seen ↔ other ∈ others)) (view : View) :
    walkEntries decodeEntry seen view entries = walkEntries decodeEntry others view entries := by
  induction entries generalizing seen others view with
  | nil => rfl
  | cons entry entries ih =>
      obtain ⟨first, stored⟩ := entry
      have longer : ∀ other, other ≠ key → (other ∈ first :: seen ↔ other ∈ first :: others) :=
        fun other different => by rw [List.mem_cons, List.mem_cons, same other different]
      by_cases known : first = key
      · subst known
        -- Whichever list holds the key, the view stays as it is.
        have skipped (passed : List String)
            (agrees : ∀ other, other ≠ first → (other ∈ seen ↔ other ∈ passed)) :
            walkEntries decodeEntry passed view ((first, stored) :: entries) =
              walkEntries decodeEntry seen view entries := by
          rw [walkEntries]
          split
          · exact (ih agrees view).symm
          · rw [ignored]
            refine (ih (fun other different => ?_) view).symm
            rw [agrees other different, List.mem_cons]
            simp [different]
        rw [skipped seen fun _ _ => Iff.rfl, skipped others same]
      · simp only [walkEntries, same first known]
        split
        · exact ih same view
        · exact bind_congr fun next => ih longer next

/-- An entry under a key that is ignored is skipped. -/
theorem walkEntries_ignored {key : String}
    (ignored : ∀ view value, decodeEntry view key value = .ok view) (value : MetaValue)
    (before after : List (String × MetaValue)) (seen : List String) (view : View) :
    walkEntries decodeEntry seen view (before ++ (key, value) :: after) =
      walkEntries decodeEntry seen view (before ++ after) := by
  induction before generalizing seen view with
  | nil =>
      rw [List.nil_append, walkEntries, List.nil_append]
      split
      · rfl
      · rw [ignored]
        refine walkEntries_seen_of_ignored ignored after (fun other different => ?_) view
        simp [different]
  | cons entry before ih =>
      obtain ⟨first, stored⟩ := entry
      simp only [List.cons_append, walkEntries]
      split
      · exact ih seen view
      · exact bind_congr fun next => ih (first :: seen) next

end Walk

/-! ## Decoders -/

variable {View ε : Type}

/-- A decoder that reads every documented key by its first value, and nothing else. -/
structure DecodesFirst (protocol : ProtocolId) (documented : List (Documented View))
    (headersOf : View → Option Headers) (decode : TransportMeta → Except ε View) : Prop where
  accepts : ∀ capture, (∃ view, decode capture = .ok view) ↔
    capture.protocol = protocol ∧
      ∀ row ∈ documented, ∀ value, capture.get row.key = some value → row.admits value
  reads : ∀ capture view, decode capture = .ok view ↔
    capture.protocol = protocol ∧ headersOf view = capture.headers ∧
      ∀ row ∈ documented, row.holds (capture.get row.key) view
  /-- Shadowed and undocumented entries change nothing, whatever their value. -/
  ignores : ∀ protocol headers before after key value,
    key ∈ before.map Prod.fst ∨ key ∉ documented.map Documented.key →
    decode { protocol, headers, entries := before ++ (key, value) :: after } =
      decode { protocol, headers, entries := before ++ after }

/-- How single entries are decoded. -/
structure ReadsEntries (documented : List (Documented View)) (headersOf : View → Option Headers)
    (decodeEntry : View → String → MetaValue → Except ε View) : Prop where
  admitted : ∀ view key value, (∃ next, decodeEntry view key value = .ok next) ↔
    ∀ row ∈ documented, row.key = key → row.admits value
  stored : ∀ row ∈ documented, ∀ view value next,
    decodeEntry view row.key value = .ok next → row.holds (some value) next
  kept : ∀ row ∈ documented, ∀ view key value next first, key ≠ row.key →
    decodeEntry view key value = .ok next → row.holds first view → row.holds first next
  ignored : ∀ key, key ∉ documented.map Documented.key → ∀ view value,
    decodeEntry view key value = .ok view
  headers : ∀ view key value next, decodeEntry view key value = .ok next →
    headersOf next = headersOf view
  /-- The headers and what the rows say determine a view. -/
  determined : ∀ view other, headersOf view = headersOf other →
    (∀ row ∈ documented, ∃ first, row.holds first view ∧ row.holds first other) → view = other
  admits_of_holds : ∀ row ∈ documented, ∀ value view, row.holds (some value) view →
    row.admits value

variable {protocol : ProtocolId} {documented : List (Documented View)}
  {headersOf : View → Option Headers} {decodeEntry : View → String → MetaValue → Except ε View}

theorem walkEntries_headers (reads : ReadsEntries documented headersOf decodeEntry)
    {entries : List (String × MetaValue)} {seen : List String} {view final : View}
    (walked : walkEntries decodeEntry seen view entries = .ok final) :
    headersOf final = headersOf view := by
  induction entries generalizing seen view with
  | nil =>
      cases walked
      rfl
  | cons entry entries ih =>
      obtain ⟨key, value⟩ := entry
      rw [walkEntries] at walked
      split at walked
      · exact ih walked
      · obtain ⟨next, decoded, rest⟩ := Fallible.bind_eq_ok.mp walked
        exact (ih rest).trans (reads.headers view key value next decoded)

/-- A walk over the entries of a capture is a lookup of its documented keys. -/
theorem decodesFirst_of_walk (reads : ReadsEntries documented headersOf decodeEntry)
    (start : Option Headers → View) (foreign : ProtocolId → ε)
    (carried : ∀ headers, headersOf (start headers) = headers)
    (initial : ∀ headers, ∀ row ∈ documented, row.holds none (start headers))
    {decode : TransportMeta → Except ε View}
    (walks : ∀ capture, decode capture =
      if capture.protocol ≠ protocol then .error (foreign capture.protocol)
      else walkEntries decodeEntry [] (start capture.headers) capture.entries) :
    DecodesFirst protocol documented headersOf decode := by
  have succeeds (capture : TransportMeta) :
      (∃ view, walkEntries decodeEntry [] (start capture.headers) capture.entries = .ok view) ↔
        ∀ row ∈ documented, ∀ value, capture.get row.key = some value → row.admits value := by
    rw [walkEntries_succeeds_iff reads.admitted]
    constructor
    · intro every row listed value found
      exact every row.key value List.not_mem_nil found row listed rfl
    · rintro every key value - found row listed rfl
      exact every row listed value found
  have holds {capture : TransportMeta} {view : View}
      (walked : walkEntries decodeEntry [] (start capture.headers) capture.entries = .ok view) :
      headersOf view = capture.headers ∧
        ∀ row ∈ documented, row.holds (capture.get row.key) view := by
    refine ⟨(walkEntries_headers reads walked).trans (carried capture.headers), ?_⟩
    intro row listed
    exact (walkEntries_holds (reads.stored row listed) (reads.kept row listed) walked).1
      List.not_mem_nil (initial capture.headers row listed)
  refine ⟨fun capture => ?_, fun capture view => ?_, ?_⟩
  · rw [walks]
    by_cases same : capture.protocol = protocol
    · rw [if_neg (not_not_intro same), succeeds]
      simp [same]
    · rw [if_pos same]
      simp [same]
  · rw [walks]
    by_cases same : capture.protocol = protocol
    · rw [if_neg (not_not_intro same)]
      refine ⟨fun walked => ⟨same, holds walked⟩, ?_⟩
      rintro ⟨-, headers, rows⟩
      obtain ⟨found, walked⟩ := (succeeds capture).mpr fun row listed value stored =>
        reads.admits_of_holds row listed value view (stored ▸ rows row listed)
      obtain ⟨headers', rows'⟩ := holds walked
      have same : view = found := reads.determined view found (headers.trans headers'.symm)
        fun row listed => ⟨capture.get row.key, rows row listed, rows' row listed⟩
      rw [same, walked]
    · rw [if_pos same]
      simp [same]
  · intro protocol' headers before after key value hidden
    rw [walks, walks]
    split
    · rfl
    · rcases hidden with shadowed | unknown
      · exact walkEntries_shadowed (.inr shadowed) value after _
      · exact walkEntries_ignored (reads.ignored key unknown) value before after [] _

end TransportMeta
end Ferredge
