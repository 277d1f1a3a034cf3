import Mathlib.Data.List.Infix

/-!
# Lines of text

A line ends with a line feed, which a carriage return may precede.  Lines may be cut before or
after a text is decoded if the decoding keeps these two characters apart from all others.
-/

namespace Lines

section Position

variable {α : Type*} [DecidableEq α]

/-- Where a pattern occurs first. -/
def position (pattern text : List α) : Option Nat :=
  text.tails.findIdx? fun window => pattern.isPrefixOf window

/-- The pattern does not occur before the end of the lead. -/
def FirstAfter (lead pattern rest : List α) : Prop :=
  ∀ earlier, earlier ++ pattern <+: lead ++ (pattern ++ rest) → lead.length ≤ earlier.length

theorem position_of_prefix {pattern text : List α} (here : pattern.isPrefixOf text = true) :
    position pattern text = some 0 := by
  cases text with
  | nil => rw [position, List.tails, List.findIdx?_cons, if_pos here]
  | cons char text => rw [position, List.tails_cons, List.findIdx?_cons, if_pos here]

theorem position_of_firstAfter {lead pattern rest : List α}
    (first : FirstAfter lead pattern rest) :
    position pattern (lead ++ (pattern ++ rest)) = some lead.length := by
  induction lead with
  | nil => exact position_of_prefix (List.isPrefixOf_iff_prefix.mpr (List.prefix_append _ _))
  | cons char lead ih =>
      have apart : pattern.isPrefixOf (char :: (lead ++ (pattern ++ rest))) = false := by
        refine Bool.eq_false_iff.mpr fun here => ?_
        exact absurd (first [] (List.isPrefixOf_iff_prefix.mp here)) (by simp)
      have later := ih fun earlier occurs =>
        Nat.le_of_succ_le_succ (first (char :: earlier) (List.cons_prefix_cons.mpr ⟨rfl, occurs⟩))
      rw [position] at later
      rw [position, List.cons_append, List.tails_cons, List.findIdx?_cons, apart, later]
      rfl

theorem position_le {pattern text : List α} (earlier : List α)
    (occurs : earlier ++ pattern <+: text) :
    ∃ place ≤ earlier.length, position pattern text = some place := by
  induction earlier generalizing text with
  | nil => exact ⟨0, Nat.le_refl 0, position_of_prefix (List.isPrefixOf_iff_prefix.mpr occurs)⟩
  | cons char earlier ih =>
      obtain ⟨rest, rfl⟩ := occurs
      by_cases here : pattern.isPrefixOf (char :: (earlier ++ pattern ++ rest)) = true
      · exact ⟨0, Nat.zero_le _, position_of_prefix here⟩
      · obtain ⟨place, bound, found⟩ := ih (List.prefix_append (earlier ++ pattern) rest)
        rw [position] at found
        refine ⟨place + 1, Nat.succ_le_succ bound, ?_⟩
        rw [position, List.cons_append, List.cons_append, List.tails_cons, List.findIdx?_cons,
          if_neg here, found]
        rfl

theorem position_eq_length_iff {lead pattern rest : List α} :
    position pattern (lead ++ (pattern ++ rest)) = some lead.length ↔
      FirstAfter lead pattern rest := by
  refine ⟨fun found earlier occurs => ?_, position_of_firstAfter⟩
  obtain ⟨place, bound, found'⟩ := position_le earlier occurs
  rw [found, Option.some.injEq] at found'
  exact found' ▸ bound

/-- Where the pattern is found, it occurs. -/
theorem occurs_of_position {pattern text : List α} {place : Nat}
    (found : position pattern text = some place) :
    ∃ earlier, earlier.length = place ∧ earlier ++ pattern <+: text := by
  induction text generalizing place with
  | nil =>
      rw [position, List.tails, List.findIdx?_cons] at found
      split at found
      · rename_i here
        cases found
        exact ⟨[], rfl, List.isPrefixOf_iff_prefix.mp here⟩
      · cases found
  | cons char text ih =>
      rw [position, List.tails_cons, List.findIdx?_cons] at found
      split at found
      · rename_i here
        cases found
        exact ⟨[], rfl, List.isPrefixOf_iff_prefix.mp here⟩
      · obtain ⟨later, there, rfl⟩ := Option.map_eq_some_iff.mp found
        obtain ⟨earlier, rfl, occurs⟩ := ih there
        exact ⟨char :: earlier, rfl, List.cons_prefix_cons.mpr ⟨rfl, occurs⟩⟩

/-- A text that is cut before the end of the first occurrence has none. -/
theorem position_take_eq_none {lead pattern rest : List α} (first : FirstAfter lead pattern rest)
    {cut : Nat} (short : cut < lead.length + pattern.length) :
    position pattern ((lead ++ (pattern ++ rest)).take cut) = none := by
  refine Option.eq_none_iff_forall_ne_some.mpr fun place found => ?_
  obtain ⟨earlier, rfl, occurs⟩ := occurs_of_position found
  have late : lead.length ≤ earlier.length := first earlier (occurs.trans (List.take_prefix _ _))
  have fits := occurs.length_le
  rw [List.length_append, List.length_take] at fits
  omega

end Position

section Joining

variable {α : Type*} {feed ret : α} {line : List α}

theorem firstAfter_cons {char : α} {lead pattern rest : List α}
    (apart : ¬pattern <+: char :: (lead ++ (pattern ++ rest)))
    (first : FirstAfter lead pattern rest) : FirstAfter (char :: lead) pattern rest := by
  intro earlier occurs
  cases earlier with
  | nil => exact absurd occurs apart
  | cons other earlier =>
      exact Nat.succ_le_succ (first earlier (List.cons_prefix_cons.mp occurs).2)

/-- A lead that lacks the first character of the pattern may be put before another. -/
theorem firstAfter_append {start : α} {line lead pattern rest : List α} (absent : start ∉ line)
    (first : FirstAfter lead (start :: pattern) rest) :
    FirstAfter (line ++ lead) (start :: pattern) rest := by
  induction line with
  | nil => exact first
  | cons char line ih =>
      rw [List.mem_cons, not_or] at absent
      exact firstAfter_cons (fun here => absent.1 (List.cons_prefix_cons.mp here).1)
        (ih absent.2)

/-- Lines put together with a terminator before each but the first. -/
def joinLines (feed ret : α) (line : List α) (others : List (List α)) : List α :=
  line ++ others.flatMap fun other => ret :: feed :: other

/-- A line that can be told from its neighbours. -/
structure IsLine (feed ret : α) (line : List α) : Prop where
  nonempty : line ≠ []
  feeds : feed ∉ line
  returns : ret ∉ line

/-- The first blank line is the one behind the lines. -/
theorem firstAfter_joinLines (differ : ret ≠ feed) {others : List (List α)} (rest : List α)
    (first : IsLine feed ret line) (later : ∀ other ∈ others, IsLine feed ret other) :
    FirstAfter (joinLines feed ret line others) [ret, feed, ret, feed] rest := by
  induction others generalizing line with
  | nil =>
      rw [joinLines, List.flatMap_nil]
      exact firstAfter_append first.returns fun _ _ => Nat.zero_le _
  | cons other others ih =>
      have remaining := ih (later other List.mem_cons_self) fun next listed =>
        later next (List.mem_cons_of_mem other listed)
      have cut : joinLines feed ret line (other :: others) =
          line ++ ret :: feed :: joinLines feed ret other others := by
        simp [joinLines]
      rw [cut]
      refine firstAfter_append first.returns (firstAfter_cons ?_ (firstAfter_cons ?_ remaining))
      · intro here
        obtain ⟨char, tail, split⟩ :=
          List.exists_cons_of_ne_nil (later other List.mem_cons_self).nonempty
        rw [joinLines, split] at here
        have from_second := (List.cons_prefix_cons.mp here).2
        have same : ret = char :=
          (List.cons_prefix_cons.mp (List.cons_prefix_cons.mp from_second).2).1
        exact (later other List.mem_cons_self).returns
          (by rw [split, ← same]; exact List.mem_cons_self)
      · intro here
        exact differ (List.cons_prefix_cons.mp here).1

end Joining

section Lines

variable {α : Type*} [DecidableEq α]

/-- The lines of a text.  What follows the last line feed is a line if there is anything. -/
def lines (feed ret : α) : List α → List (List α)
  | [] => []
  | char :: text =>
      if char = feed then [] :: lines feed ret text
      else if char = ret ∧ text.head? = some feed then lines feed ret text
      else
        match lines feed ret text with
        | [] => [[char]]
        | line :: others => (char :: line) :: others

/-- A line without the carriage return at its end. -/
def chomp (ret : α) (line : List α) : List α :=
  if line.getLast? = some ret then line.dropLast else line

variable {feed ret : α} {line text : List α}

theorem lines_of_not_mem (absent : feed ∉ text) (nonempty : text ≠ []) :
    lines feed ret text = [text] := by
  induction text with
  | nil => exact absurd rfl nonempty
  | cons char text ih =>
      rw [List.mem_cons, not_or] at absent
      have next : text.head? ≠ some feed := fun first => absent.2 (List.mem_of_head? first)
      rw [lines, if_neg (Ne.symm absent.1), if_neg fun both => next both.2]
      cases text with
      | nil => rfl
      | cons other text => rw [ih absent.2 (List.cons_ne_nil other text)]

theorem chomp_cons {char : α} (nonempty : line ≠ []) :
    chomp ret (char :: line) = char :: chomp ret line := by
  cases line with
  | nil => exact absurd rfl nonempty
  | cons other line =>
      rw [chomp, chomp, List.getLast?_cons_cons, List.dropLast_cons_cons]
      split <;> rfl

theorem lines_append (differ : ret ≠ feed) (absent : feed ∉ line) :
    lines feed ret (line ++ feed :: text) = chomp ret line :: lines feed ret text := by
  induction line with
  | nil => simp [lines, chomp]
  | cons char line ih =>
      rw [List.mem_cons, not_or] at absent
      rw [List.cons_append, lines, if_neg (Ne.symm absent.1), ih absent.2]
      cases line with
      | nil =>
          by_cases returns : char = ret
          · subst returns
            simp [chomp]
          · simp [chomp, returns]
      | cons other line =>
          have next : ((other :: line) ++ feed :: text).head? ≠ some feed := by
            intro first
            exact absent.2 (Option.some.inj first ▸ List.mem_cons_self)
          rw [if_neg fun both => next both.2, chomp_cons (List.cons_ne_nil other line)]

theorem chomp_append (line : List α) : chomp ret (line ++ [ret]) = line := by
  simp [chomp]

/-- Lines that are put together are found again. -/
theorem lines_joinLines (differ : ret ≠ feed) {others : List (List α)}
    (first : IsLine feed ret line) (later : ∀ other ∈ others, IsLine feed ret other) :
    lines feed ret (joinLines feed ret line others) = line :: others := by
  induction others generalizing line with
  | nil =>
      rw [joinLines, List.flatMap_nil, List.append_nil]
      exact lines_of_not_mem first.feeds first.nonempty
  | cons other others ih =>
      have cut : joinLines feed ret line (other :: others) =
          (line ++ [ret]) ++ feed :: joinLines feed ret other others := by
        simp [joinLines]
      have absent : feed ∉ line ++ [ret] := by simp [first.feeds, differ.symm]
      rw [cut, lines_append differ absent, chomp_append,
        ih (later other List.mem_cons_self) fun next listed =>
          later next (List.mem_cons_of_mem other listed)]

end Lines

section Decoding

variable {α β : Type*} [DecidableEq α]

/-- Decoding keeps one character apart: it decodes to one of its own, alone. -/
structure KeepsApart (decode : List α → List β) (char : α) (char' : β) : Prop where
  append : ∀ left right, decode (left ++ char :: right) = decode left ++ char' :: decode right
  absent : ∀ text, char ∉ text → char' ∉ decode text

variable {decode : List α → List β} {feed ret : α} {feed' ret' : β}

/-- A decoded line ends as the line does. -/
theorem getLast?_decode (returns : KeepsApart decode ret ret')
    (empty : ∀ text, decode text = [] ↔ text = []) (line : List α) :
    (decode line).getLast? = some ret' ↔ line.getLast? = some ret := by
  by_cases held : ret ∈ line
  · obtain ⟨front, back, rfl, -⟩ := List.eq_append_cons_of_mem held
    rw [returns.append, List.getLast?_append_cons, List.getLast?_append_cons]
    by_cases last : back = []
    · rw [last, (empty []).mpr rfl]
      exact iff_of_true rfl rfl
    · have shorter := getLast?_decode returns empty back
      obtain ⟨other, others, rfl⟩ := List.exists_cons_of_ne_nil last
      obtain ⟨other', others', decoded⟩ := List.exists_cons_of_ne_nil ((empty _).not.mpr last)
      rw [decoded] at shorter ⊢
      rwa [List.getLast?_cons_cons, List.getLast?_cons_cons]
  · exact iff_of_false (fun last => returns.absent line held (List.mem_of_getLast? last))
      fun last => held (List.mem_of_getLast? last)
termination_by line.length
decreasing_by
  all_goals simp_all
  all_goals omega

variable [DecidableEq β]

theorem chomp_decode (returns : KeepsApart decode ret ret')
    (empty : ∀ text, decode text = [] ↔ text = []) (line : List α) :
    chomp ret' (decode line) = decode (chomp ret line) := by
  by_cases last : line.getLast? = some ret
  · obtain ⟨front, rfl⟩ := List.getLast?_eq_some_iff.mp last
    rw [returns.append, (empty []).mpr rfl]
    simp [chomp]
  · rw [chomp, if_neg ((getLast?_decode returns empty line).not.mpr last), chomp, if_neg last]

/-- Decoding a text and cutting it into lines may be swapped. -/
theorem lines_decode (differ : ret ≠ feed) (differ' : ret' ≠ feed')
    (feeds : KeepsApart decode feed feed') (returns : KeepsApart decode ret ret')
    (empty : ∀ text, decode text = [] ↔ text = []) (text : List α) :
    lines feed' ret' (decode text) = (lines feed ret text).map decode := by
  by_cases held : feed ∈ text
  · obtain ⟨line, rest, rfl, absent⟩ := List.eq_append_cons_of_mem held
    rw [feeds.append, lines_append differ absent, lines_append differ' (feeds.absent line absent),
      chomp_decode returns empty, lines_decode differ differ' feeds returns empty rest,
      List.map_cons]
  · by_cases nothing : text = []
    · rw [nothing, (empty []).mpr rfl]
      rfl
    · rw [lines_of_not_mem held nothing,
        lines_of_not_mem (feeds.absent text held) ((empty text).not.mpr nothing)]
      rfl
termination_by text.length
decreasing_by
  all_goals simp_all
  all_goals omega

end Decoding

end Lines
