import Mathlib.Data.List.Basic

/-!
# Framing a stream

A recognizer tells from what has arrived of a stream whether a whole frame is there.  The first
frame of a stream is its shortest recognized prefix.  It depends on the stream alone, not on the
pieces in which the stream arrives.
-/

namespace Framing

variable {α : Type*} {complete : List α → Bool} {stream frame received more : List α}

/-- A recognizer that later input does not change. -/
def Lasting (complete : List α → Bool) : Prop :=
  ∀ received more, complete received = true → complete (received ++ more) = true

/-- The shortest recognized prefix of a stream. -/
structure FirstFrame (complete : List α → Bool) (stream frame : List α) : Prop where
  leads : frame <+: stream
  whole : complete frame = true
  shortest : ∀ candidate, candidate <+: stream → complete candidate = true →
    frame.length ≤ candidate.length

theorem Lasting.of_append (lasting : Lasting complete)
    (partly : complete (received ++ more) = false) : complete received = false := by
  cases known : complete received with
  | false => rfl
  | true => rw [lasting received more known] at partly; cases partly

namespace FirstFrame

theorem unique {other : List α} (first : FirstFrame complete stream frame)
    (second : FirstFrame complete stream other) : frame = other := by
  have shorter : frame.length ≤ other.length :=
    first.shortest other second.leads second.whole
  have longer : other.length ≤ frame.length :=
    second.shortest frame first.leads first.whole
  have nested : frame <+: other :=
    List.prefix_of_prefix_length_le first.leads second.leads shorter
  exact nested.eq_of_length (Nat.le_antisymm shorter longer)

/-- A prefix that reaches past the first frame has the same first frame. -/
theorem of_append (first : FirstFrame complete (received ++ more) frame)
    (reached : frame.length ≤ received.length) : FirstFrame complete received frame := by
  refine ⟨?_, first.whole, ?_⟩
  · exact List.prefix_of_prefix_length_le first.leads (List.prefix_append received more) reached
  · intro candidate leads whole
    exact first.shortest candidate (leads.trans (List.prefix_append received more)) whole

/-- A prefix of a stream is recognized exactly when it reaches past the first frame. -/
theorem complete_iff (lasting : Lasting complete)
    (first : FirstFrame complete (received ++ more) frame) :
    complete received = true ↔ frame.length ≤ received.length := by
  constructor
  · intro whole
    exact first.shortest received (List.prefix_append received more) whole
  · intro reached
    obtain ⟨rest, rfl⟩ := (first.of_append reached).leads
    exact lasting frame rest first.whole

end FirstFrame

/-- Some chunk of a stream brings the end of a frame. -/
theorem exists_completing_chunk {chunks : List (List α)} {size : Nat} (wanted : 0 < size)
    (reached : size ≤ chunks.flatten.length) :
    ∃ earlier chunk later, chunks = earlier ++ chunk :: later ∧
      earlier.flatten.length < size ∧ size ≤ (earlier ++ [chunk]).flatten.length := by
  induction chunks generalizing size with
  | nil =>
      rw [List.flatten_nil, List.length_nil] at reached
      omega
  | cons chunk chunks ih =>
      rw [List.flatten_cons, List.length_append] at reached
      by_cases first : size ≤ chunk.length
      · exact ⟨[], chunk, chunks, rfl, wanted, by simpa using first⟩
      · have remaining : 0 < size - chunk.length := by omega
        obtain ⟨earlier, last, later, rfl, before, after⟩ := ih remaining (by omega)
        refine ⟨chunk :: earlier, last, later, rfl, ?_, ?_⟩
        · rw [List.flatten_cons, List.length_append]
          omega
        · rw [List.cons_append, List.flatten_cons, List.length_append]
          omega

/-- Chunks that reach past a size stay within a limit exactly when the first ones to do so do. -/
theorem exists_count_within_iff {earlier later : List (List α)} {chunk : List α}
    {size limit : Nat} (before : earlier.flatten.length < size)
    (reached : size ≤ (earlier ++ [chunk]).flatten.length) :
    (∃ count, size ≤ ((earlier ++ chunk :: later).take count).flatten.length ∧
        ((earlier ++ chunk :: later).take count).flatten.length ≤ limit) ↔
      (earlier ++ [chunk]).flatten.length ≤ limit := by
  constructor
  · rintro ⟨count, past, within⟩
    by_cases short : count ≤ earlier.length
    · have parts : (earlier.take count).flatten ++ (earlier.drop count).flatten =
          earlier.flatten := by
        rw [← List.flatten_append, List.take_append_drop]
      rw [List.take_append_of_le_length short] at past
      rw [← parts, List.length_append] at before
      omega
    · obtain ⟨extra, rfl⟩ := Nat.exists_eq_add_of_lt (Nat.lt_of_not_le short)
      rw [Nat.add_assoc, List.take_length_add_append, List.take_succ_cons] at within
      simp only [List.flatten_append, List.flatten_cons, List.length_append] at within ⊢
      simp only [List.flatten_nil, List.length_nil]
      omega
  · intro within
    refine ⟨earlier.length + 1, ?_⟩
    rw [List.take_length_add_append, List.take_succ_cons, List.take_zero]
    exact ⟨reached, within⟩

end Framing
