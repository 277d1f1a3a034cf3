import Mathlib.Data.List.Nodup
import Mathlib.Data.List.Perm.Subperm
import Ferredge.KeyedList
import Ferredge.Transition

/-!
# Spawning on the embassy executor

Tasks live in storage that is leaked and never freed.  The runtime records what it leaked by the
type of the future and looks there for free storage before it leaks more.
-/

namespace Ferredge
namespace Embassy

open Transition

variable {κ : Type}

/-- Storage for one task at a time, made for the futures of one type. -/
structure TaskStorage (κ : Type) where
  typeId : κ
  /-- The future that runs in it. -/
  running : Option Nat

/-- What must never happen: a constructor is used twice, or storage is taken for that of another
type. -/
inductive Fault where
  | makeReused
  | foreignStorage
  deriving DecidableEq

inductive SpawnError where
  | busy
  deriving DecidableEq

/-- Claims the storage if it is free.  Only then is the future constructed, and the constructor is
taken out of `make`.  Gives the future, and what is left of `make`. -/
def TaskStorage.spawn (storage : TaskStorage κ) (make : Option Nat) :
    Except Fault (Option Nat × Option Nat) :=
  match storage.running with
  | some _ => .ok (none, make)
  | none =>
      match make with
      | some future => .ok (some future, none)
      | none => .error .makeReused

/-- The runtime and its tasks.  The address of storage is its position among all that was leaked,
and a future is known by the number of the call that spawned it. -/
structure EmbassyRuntime (κ : Type) where
  storages : List (TaskStorage κ)
  storagePool : List (κ × List Nat)
  /-- The types of the futures that were given to the runtime. -/
  spawned : List κ
  /-- The futures that were started, with the addresses they were started at. -/
  starts : List (Nat × Nat)
  /-- The futures that were told to stop. -/
  aborted : List Nat
  finished : List Nat

namespace EmbassyRuntime

def new : EmbassyRuntime κ :=
  { storages := [], storagePool := [], spawned := [], starts := [], aborted := [], finished := [] }

/-- Puts a future into the storage at an address. -/
def start (runtime : EmbassyRuntime κ) (typeId : κ) (future pointer : Nat) : EmbassyRuntime κ :=
  { runtime with
    storages := runtime.storages.set pointer { typeId, running := some future }
    starts := runtime.starts ++ [(future, pointer)] }

/-- Frees the storage of a future that came to its end. -/
def finish (runtime : EmbassyRuntime κ) (typeId : κ) (future pointer : Nat) : EmbassyRuntime κ :=
  { runtime with
    storages := runtime.storages.set pointer { typeId, running := none }
    finished := runtime.finished ++ [future] }

/-- Some storage made for futures of the type is at the address. -/
def MadeFor (runtime : EmbassyRuntime κ) (typeId : κ) (pointer : Nat) : Prop :=
  ∃ running, runtime.storages[pointer]? = some { typeId, running }

variable {runtime : EmbassyRuntime κ} {typeId : κ} {future pointer : Nat}

/-- The storage at an address with another future in it, or none. -/
def refill (runtime : EmbassyRuntime κ) (typeId : κ) (pointer : Nat) (running : Option Nat) :
    EmbassyRuntime κ :=
  { runtime with storages := runtime.storages.set pointer { typeId, running } }

theorem storages_refill (there : runtime.MadeFor typeId pointer) (running : Option Nat)
    (other : Nat) :
    (runtime.refill typeId pointer running).storages[other]? =
      if other = pointer then some { typeId, running } else runtime.storages[other]? := by
  obtain ⟨before, stored⟩ := there
  obtain ⟨inside, -⟩ := List.getElem?_eq_some_iff.mp stored
  rw [refill, List.getElem?_set]
  by_cases same : pointer = other
  · subst same
    simp [inside]
  · rw [if_neg same, if_neg (Ne.symm same)]

theorem madeFor_refill (there : runtime.MadeFor typeId pointer) (running : Option Nat)
    (otherId : κ) (other : Nat) :
    (runtime.refill typeId pointer running).MadeFor otherId other ↔
      runtime.MadeFor otherId other := by
  rw [MadeFor, storages_refill there running]
  split
  · rename_i same
    subst same
    obtain ⟨before, stored⟩ := there
    rw [MadeFor, stored]
    simp
  · rfl

variable [DecidableEq κ]

/-- The addresses stored under a type. -/
def pooled (runtime : EmbassyRuntime κ) (typeId : κ) : List Nat :=
  (KeyedList.lookup typeId runtime.storagePool).getD []

/-- Takes an address for that of storage of the given type. -/
def storageAt (runtime : EmbassyRuntime κ) (typeId : κ) (pointer : Nat) :
    Except Fault (TaskStorage κ) :=
  match runtime.storages[pointer]? with
  | some storage => if storage.typeId = typeId then .ok storage else .error .foreignStorage
  | none => .error .foreignStorage

/-- Looks for free storage among the candidates.  The constructor passes by storage that is busy. -/
def tryCandidates (runtime : EmbassyRuntime κ) (typeId : κ) :
    Option Nat → List Nat → Except Fault (Option (Nat × Nat) × Option Nat)
  | make, [] => .ok (none, make)
  | make, pointer :: candidates => do
      let storage ← runtime.storageAt typeId pointer
      match ← storage.spawn make with
      | (some future, make) => return (some (future, pointer), make)
      | (none, make) => runtime.tryCandidates typeId make candidates

/-- Leaks free storage and records its address. -/
def leak (runtime : EmbassyRuntime κ) (typeId : κ) : EmbassyRuntime κ :=
  { runtime with
    storages := runtime.storages ++ [{ typeId, running := none }]
    storagePool := KeyedList.insert typeId (runtime.pooled typeId ++ [runtime.storages.length])
      runtime.storagePool }

/-- Starts a future in storage of its type, and leaks more if none is free. -/
def spawnWrapped (runtime : EmbassyRuntime κ) (typeId : κ) (future : Nat) :
    Except Fault (Except SpawnError Unit × EmbassyRuntime κ) := do
  match ← runtime.tryCandidates typeId (some future) (runtime.pooled typeId) with
  | (some (future, pointer), _) => return (.ok (), runtime.start typeId future pointer)
  | (none, make) =>
      let storage : TaskStorage κ := { typeId, running := none }
      let address := runtime.storages.length
      let runtime := runtime.leak typeId
      match ← storage.spawn make with
      | (some future, _) => return (.ok (), runtime.start typeId future address)
      | (none, _) => return (.error .busy, runtime)

/-- The runtime once it was given one more future. -/
def announce (runtime : EmbassyRuntime κ) (typeId : κ) : EmbassyRuntime κ :=
  { runtime with spawned := runtime.spawned ++ [typeId] }

/-- Spawns the next future, whose type is given.  A future that could not be started is over. -/
def spawn (runtime : EmbassyRuntime κ) (typeId : κ) : Except Fault (EmbassyRuntime κ) := do
  let future := runtime.spawned.length
  match ← (runtime.announce typeId).spawnWrapped typeId future with
  | (.ok _, runtime) => return runtime
  | (.error _, runtime) => return { runtime with finished := runtime.finished ++ [future] }

end EmbassyRuntime

/-- What happens on the executor. -/
inductive Event (κ : Type) where
  | spawn (typeId : κ)
  | abort (future : Nat)
  /-- The future at an address returns its value. -/
  | complete (pointer : Nat)
  /-- The future at an address notices that it was told to stop. -/
  | cancel (pointer : Nat)

open EmbassyRuntime

inductive Step [DecidableEq κ] : EmbassyRuntime κ → Event κ → EmbassyRuntime κ → Prop
  | spawn {runtime after : EmbassyRuntime κ} {typeId : κ} :
      runtime.spawn typeId = .ok after → Step runtime (.spawn typeId) after
  | abort (runtime : EmbassyRuntime κ) (future : Nat) :
      Step runtime (.abort future) { runtime with aborted := future :: runtime.aborted }
  | complete {runtime : EmbassyRuntime κ} {pointer future : Nat} {typeId : κ} :
      runtime.storages[pointer]? = some { typeId, running := some future } →
        Step runtime (.complete pointer) (runtime.finish typeId future pointer)
  | cancel {runtime : EmbassyRuntime κ} {pointer future : Nat} {typeId : κ} :
      runtime.storages[pointer]? = some { typeId, running := some future } →
        future ∈ runtime.aborted →
        Step runtime (.cancel pointer) (runtime.finish typeId future pointer)

/-! ## What a spawn does -/

namespace EmbassyRuntime

variable [DecidableEq κ] {runtime : EmbassyRuntime κ} {typeId : κ} {future pointer : Nat}

/-- The search finds free storage of the type and takes the constructor, or every candidate is busy
and the constructor is left. -/
theorem tryCandidates_cases {candidates : List Nat}
    (typed : ∀ pointer ∈ candidates, runtime.MadeFor typeId pointer) (future : Nat) :
    (∃ pointer ∈ candidates, runtime.storages[pointer]? = some { typeId, running := none } ∧
        runtime.tryCandidates typeId (some future) candidates =
          .ok (some (future, pointer), none)) ∨
      ((∀ pointer ∈ candidates, ∃ other,
          runtime.storages[pointer]? = some { typeId, running := some other }) ∧
        runtime.tryCandidates typeId (some future) candidates = .ok (none, some future)) := by
  induction candidates with
  | nil => exact .inr ⟨nofun, rfl⟩
  | cons pointer candidates ih =>
      obtain ⟨running, stored⟩ := typed pointer List.mem_cons_self
      have found : runtime.storageAt typeId pointer = .ok { typeId, running } := by
        simp [storageAt, stored]
      cases running with
      | none =>
          refine .inl ⟨pointer, List.mem_cons_self, stored, ?_⟩
          rw [tryCandidates, found]
          rfl
      | some other =>
          have passed : runtime.tryCandidates typeId (some future) (pointer :: candidates) =
              runtime.tryCandidates typeId (some future) candidates := by
            rw [tryCandidates, found]
            rfl
          rw [passed]
          rcases ih fun next member => typed next (List.mem_cons_of_mem pointer member) with
            ⟨next, member, free, result⟩ | ⟨busy, result⟩
          · exact .inl ⟨next, List.mem_cons_of_mem pointer member, free, result⟩
          · exact .inr ⟨List.forall_mem_cons.mpr ⟨⟨other, stored⟩, busy⟩, result⟩

/-- A future is started in free storage of its type, and more is leaked only if all of that type is
busy. -/
theorem spawnWrapped_cases
    (typed : ∀ pointer, pointer ∈ runtime.pooled typeId ↔ runtime.MadeFor typeId pointer)
    (future : Nat) :
    (∃ pointer, runtime.storages[pointer]? = some { typeId, running := none } ∧
        runtime.spawnWrapped typeId future =
          .ok (.ok (), runtime.start typeId future pointer)) ∨
      ((∀ pointer : Nat, ¬ runtime.storages[pointer]? = some { typeId, running := none }) ∧
        runtime.spawnWrapped typeId future =
          .ok (.ok (), (runtime.leak typeId).start typeId future runtime.storages.length)) := by
  rcases tryCandidates_cases (fun pointer member => (typed pointer).mp member) future with
    ⟨pointer, -, free, result⟩ | ⟨busy, result⟩
  · refine .inl ⟨pointer, free, ?_⟩
    rw [spawnWrapped, result]
    rfl
  · refine .inr ⟨fun pointer free => ?_, ?_⟩
    · obtain ⟨other, taken⟩ := busy pointer ((typed pointer).mpr ⟨none, free⟩)
      have same := Option.some.inj (free.symm.trans taken)
      exact absurd (TaskStorage.mk.inj same).2 (Option.some_ne_none other).symm
    · rw [spawnWrapped, result]
      rfl

/-- A spawn starts the future that the runtime was given last. -/
theorem spawn_cases
    (typed : ∀ pointer, pointer ∈ runtime.pooled typeId ↔ runtime.MadeFor typeId pointer) :
    (∃ pointer, runtime.storages[pointer]? = some { typeId, running := none } ∧
        runtime.spawn typeId =
          .ok ((runtime.announce typeId).start typeId runtime.spawned.length pointer)) ∨
      ((∀ pointer : Nat, ¬ runtime.storages[pointer]? = some { typeId, running := none }) ∧
        runtime.spawn typeId =
          .ok (((runtime.leak typeId).announce typeId).start typeId
            runtime.spawned.length runtime.storages.length)) := by
  have announced (pointer : Nat) : pointer ∈ (runtime.announce typeId).pooled typeId ↔
      (runtime.announce typeId).MadeFor typeId pointer := typed pointer
  rcases spawnWrapped_cases announced runtime.spawned.length with
    ⟨pointer, free, result⟩ | ⟨busy, result⟩
  · refine .inl ⟨pointer, free, ?_⟩
    rw [spawn, result]
    rfl
  · refine .inr ⟨busy, ?_⟩
    rw [spawn, result]
    rfl

/-! ## What every run keeps -/

/-- The pool lists exactly the storage of each type, every running future is one that was started
where it runs and is not finished, and every spawned future was started once, in storage of its
type. -/
structure Sound (runtime : EmbassyRuntime κ) : Prop where
  pooled : ∀ typeId pointer, pointer ∈ runtime.pooled typeId ↔ runtime.MadeFor typeId pointer
  running : ∀ (pointer : Nat) typeId future,
    runtime.storages[pointer]? = some { typeId, running := some future } →
      (future, pointer) ∈ runtime.starts ∧ future ∉ runtime.finished
  started : runtime.starts.map Prod.fst = List.range runtime.spawned.length
  homes : ∀ future pointer, (future, pointer) ∈ runtime.starts →
    ∃ typeId, runtime.spawned[future]? = some typeId ∧ runtime.MadeFor typeId pointer
  finished : ∀ future ∈ runtime.finished, future < runtime.spawned.length

theorem sound_new : Sound (new : EmbassyRuntime κ) where
  pooled := fun typeId pointer => by simp [new, EmbassyRuntime.pooled, KeyedList.lookup, MadeFor]
  running := fun pointer typeId future stored => by simp [new] at stored
  started := rfl
  homes := nofun
  finished := nofun

theorem Sound.starts_inj (sound : Sound runtime) {first second : Nat}
    (one : (future, first) ∈ runtime.starts) (other : (future, second) ∈ runtime.starts) :
    first = second := by
  have once : (runtime.starts.map Prod.fst).Nodup := by
    rw [sound.started]
    exact List.nodup_range
  exact (Prod.mk.inj (List.inj_on_of_nodup_map once one other rfl)).2

theorem Sound.lt_of_started (sound : Sound runtime) (started : (future, pointer) ∈ runtime.starts) :
    future < runtime.spawned.length := by
  have listed : future ∈ runtime.starts.map Prod.fst := List.mem_map_of_mem started
  rw [sound.started, List.mem_range] at listed
  exact listed

theorem pooled_leak (runtime : EmbassyRuntime κ) (typeId other : κ) :
    (runtime.leak typeId).pooled other =
      if other = typeId then runtime.pooled typeId ++ [runtime.storages.length]
      else runtime.pooled other := by
  rw [leak, EmbassyRuntime.pooled]
  by_cases same : other = typeId
  · subst same
    rw [if_pos rfl, KeyedList.lookup_insert_self]
    rfl
  · rw [if_neg same, KeyedList.lookup_insert_of_ne same]
    rfl

theorem storages_leak (runtime : EmbassyRuntime κ) (typeId : κ) (pointer : Nat) :
    (runtime.leak typeId).storages[pointer]? =
      if pointer = runtime.storages.length then some { typeId, running := none }
      else runtime.storages[pointer]? := by
  rw [leak, List.getElem?_append]
  split
  · rename_i inside
    rw [if_neg (Nat.ne_of_lt inside)]
  · rename_i outside
    split
    · rename_i last
      rw [last, Nat.sub_self]
      rfl
    · rename_i beyond
      rw [List.getElem?_eq_none (by simp; omega), List.getElem?_eq_none (by omega)]

theorem madeFor_leak (runtime : EmbassyRuntime κ) (typeId other : κ) (pointer : Nat) :
    (runtime.leak typeId).MadeFor other pointer ↔
      (pointer = runtime.storages.length ∧ other = typeId) ∨ runtime.MadeFor other pointer := by
  rw [MadeFor, MadeFor, storages_leak]
  by_cases last : pointer = runtime.storages.length
  · subst last
    rw [if_pos rfl, List.getElem?_eq_none (Nat.le_refl _)]
    simp [eq_comm]
  · rw [if_neg last]
    simp [last]

theorem Sound.leak (sound : Sound runtime) (typeId : κ) : Sound (runtime.leak typeId) where
  pooled := fun other pointer => by
    rw [pooled_leak, madeFor_leak]
    by_cases same : other = typeId
    · subst same
      rw [if_pos rfl, List.mem_append, List.mem_singleton, sound.pooled]
      simp [or_comm]
    · rw [if_neg same, sound.pooled]
      simp [same]
  running := fun pointer other future stored => by
    rw [storages_leak] at stored
    split at stored
    · cases stored
    · exact sound.running pointer other future stored
  started := sound.started
  homes := fun future pointer member => by
    obtain ⟨other, spawned, home⟩ := sound.homes future pointer member
    exact ⟨other, spawned, (madeFor_leak runtime typeId other pointer).mpr (.inr home)⟩
  finished := sound.finished

theorem Sound.start (sound : Sound runtime)
    (free : runtime.storages[pointer]? = some { typeId, running := none }) :
    Sound ((runtime.announce typeId).start typeId runtime.spawned.length pointer) where
  pooled := fun other address =>
    (sound.pooled other address).trans (madeFor_refill ⟨none, free⟩ _ other address).symm
  running := fun address other future stored => by
    change (runtime.refill typeId pointer _).storages[address]? = _ at stored
    rw [storages_refill ⟨none, free⟩] at stored
    split at stored
    · rename_i same
      cases stored
      subst same
      exact ⟨List.mem_append_right _ List.mem_cons_self,
        fun member => Nat.lt_irrefl _ (sound.finished _ member)⟩
    · obtain ⟨started, unfinished⟩ := sound.running address other future stored
      exact ⟨List.mem_append_left _ started, unfinished⟩
  started := by
    rw [EmbassyRuntime.start, announce, List.map_append, sound.started, List.length_append,
      List.length_singleton, List.range_succ]
    rfl
  homes := fun future address member => by
    rcases List.mem_append.mp member with before | last
    · obtain ⟨other, spawned, home⟩ := sound.homes future address before
      refine ⟨other, ?_, (madeFor_refill ⟨none, free⟩ _ other address).mpr home⟩
      exact (List.getElem?_append_left (List.getElem?_eq_some_iff.mp spawned).1).trans spawned
    · cases List.mem_singleton.mp last
      refine ⟨typeId, ?_, (madeFor_refill ⟨none, free⟩ _ typeId pointer).mpr ⟨none, free⟩⟩
      exact List.getElem?_concat_length
  finished := fun future member => by
    rw [EmbassyRuntime.start, announce, List.length_append]
    exact Nat.lt_succ_of_lt (sound.finished future member)

theorem Sound.finish (sound : Sound runtime)
    (stored : runtime.storages[pointer]? = some { typeId, running := some future }) :
    Sound (runtime.finish typeId future pointer) where
  pooled := fun other address =>
    (sound.pooled other address).trans (madeFor_refill ⟨_, stored⟩ none other address).symm
  running := fun address other next taken => by
    change (runtime.refill typeId pointer none).storages[address]? = _ at taken
    rw [storages_refill ⟨_, stored⟩] at taken
    split at taken
    · cases taken
    · rename_i elsewhere
      obtain ⟨started, unfinished⟩ := sound.running address other next taken
      refine ⟨started, fun member => ?_⟩
      rcases List.mem_append.mp member with before | last
      · exact unfinished before
      · obtain rfl := List.mem_singleton.mp last
        obtain ⟨here, -⟩ := sound.running pointer typeId next stored
        exact elsewhere (sound.starts_inj started here)
  started := sound.started
  homes := fun next address member => by
    obtain ⟨other, spawned, home⟩ := sound.homes next address member
    exact ⟨other, spawned, (madeFor_refill ⟨_, stored⟩ none other address).mpr home⟩
  finished := fun next member => by
    rcases List.mem_append.mp member with before | last
    · exact sound.finished next before
    · obtain rfl := List.mem_singleton.mp last
      obtain ⟨started, -⟩ := sound.running pointer typeId next stored
      exact sound.lt_of_started started

/-! ## How much is leaked -/

/-- The storage leaked for futures of a type. -/
def leakedSlots (runtime : EmbassyRuntime κ) (typeId : κ) : Nat :=
  runtime.storages.countP fun storage => storage.typeId = typeId

/-- The futures of a type that were spawned and have not come to their end. -/
def unfinished (runtime : EmbassyRuntime κ) (typeId : κ) : List Nat :=
  (List.range runtime.spawned.length).filter fun future =>
    runtime.spawned[future]? = some typeId ∧ future ∉ runtime.finished

/-- The future that runs in storage of the type. -/
def runningOf (typeId : κ) (storage : TaskStorage κ) : Option Nat :=
  if storage.typeId = typeId then storage.running else none

theorem runningOf_eq_some {storage : TaskStorage κ} :
    runningOf typeId storage = some future ↔ storage = { typeId, running := some future } := by
  obtain ⟨madeFor, running⟩ := storage
  rw [runningOf]
  by_cases same : madeFor = typeId <;> simp [same]

/-- While all storage of a type is busy, there is no more of it than there are unfinished
futures. -/
theorem Sound.leakedSlots_le (sound : Sound runtime)
    (busy : ∀ pointer : Nat, ¬ runtime.storages[pointer]? = some { typeId, running := none }) :
    runtime.leakedSlots typeId ≤ (runtime.unfinished typeId).length := by
  have running : (runtime.storages.filterMap (runningOf typeId)).length =
      runtime.leakedSlots typeId := by
    rw [List.length_filterMap_eq_countP, leakedSlots]
    refine List.countP_congr fun storage member => ?_
    obtain ⟨pointer, stored⟩ := List.getElem?_of_mem member
    obtain ⟨madeFor, running⟩ := storage
    by_cases same : madeFor = typeId
    · subst same
      cases running with
      | none => exact absurd stored (busy pointer)
      | some future => simp [runningOf]
    · simp [runningOf, same]
  have distinct : (runtime.storages.filterMap (runningOf typeId)).Nodup := by
    rw [List.Nodup, List.pairwise_filterMap, List.pairwise_iff_getElem]
    intro first second inside within ordered future taken other also_taken same
    subst same
    rw [runningOf_eq_some, ← Option.some_inj, ← List.getElem?_eq_getElem] at taken also_taken
    have together := sound.starts_inj (sound.running _ _ _ taken).1
      (sound.running _ _ _ also_taken).1
    exact Nat.ne_of_lt ordered together
  have covered : runtime.storages.filterMap (runningOf typeId) ⊆ runtime.unfinished typeId := by
    intro future member
    obtain ⟨storage, listed, taken⟩ := List.mem_filterMap.mp member
    obtain ⟨pointer, stored⟩ := List.getElem?_of_mem listed
    rw [runningOf_eq_some.mp taken] at stored
    obtain ⟨started, going⟩ := sound.running pointer typeId future stored
    obtain ⟨spawnedAs, spawned, running, home⟩ := sound.homes future pointer started
    obtain rfl : typeId = spawnedAs :=
      (TaskStorage.mk.inj (Option.some.inj (stored.symm.trans home))).1
    rw [unfinished, List.mem_filter, List.mem_range]
    exact ⟨sound.lt_of_started started, decide_eq_true ⟨spawned, going⟩⟩
  rw [← running]
  exact (distinct.subperm covered).length_le

theorem leakedSlots_refill (there : runtime.MadeFor typeId pointer) (running : Option Nat)
    (other : κ) :
    (runtime.refill typeId pointer running).leakedSlots other = runtime.leakedSlots other := by
  obtain ⟨before, stored⟩ := there
  obtain ⟨inside, here⟩ := List.getElem?_eq_some_iff.mp stored
  rw [leakedSlots, refill, List.countP_set inside, here, leakedSlots]
  by_cases same : typeId = other
  · have counted : 0 < runtime.storages.countP fun storage => storage.typeId = other :=
      List.countP_pos_iff.mpr ⟨_, List.getElem_mem inside, by simp [here, same]⟩
    simp only [same, decide_true, if_true]
    omega
  · simp [same]

theorem leakedSlots_leak (runtime : EmbassyRuntime κ) (typeId other : κ) :
    (runtime.leak typeId).leakedSlots other =
      runtime.leakedSlots other + if other = typeId then 1 else 0 := by
  rw [leakedSlots, leak, List.countP_append]
  simp [leakedSlots, eq_comm]

end EmbassyRuntime

theorem Step.sound [DecidableEq κ] {runtime after : EmbassyRuntime κ} {event : Event κ}
    (step : Step runtime event after) (sound : Sound runtime) : Sound after := by
  cases step with
  | @spawn _ typeId spawned =>
      rcases spawn_cases (sound.pooled typeId) with ⟨pointer, free, ran⟩ | ⟨busy, ran⟩
      · cases spawned.symm.trans ran
        exact sound.start free
      · cases spawned.symm.trans ran
        exact (sound.leak typeId).start (by rw [storages_leak, if_pos rfl])
  | abort future =>
      exact ⟨sound.pooled, sound.running, sound.started, sound.homes, sound.finished⟩
  | complete stored => exact sound.finish stored
  | cancel stored told => exact sound.finish stored

/-- A step leaks at most one slot more, and only if there is an unfinished future for each one. -/
theorem Step.leakedSlots_le [DecidableEq κ] {runtime after : EmbassyRuntime κ} {event : Event κ}
    (step : Step runtime event after) (sound : Sound runtime) (typeId : κ) :
    after.leakedSlots typeId ≤ runtime.leakedSlots typeId ∨
      after.leakedSlots typeId ≤ (after.unfinished typeId).length := by
  cases step with
  | @spawn _ spawnedId spawned =>
      rcases spawn_cases (sound.pooled spawnedId) with ⟨pointer, free, ran⟩ | ⟨busy, ran⟩
      · cases spawned.symm.trans ran
        exact .inl (Nat.le_of_eq (leakedSlots_refill ⟨none, free⟩ _ typeId))
      · cases spawned.symm.trans ran
        have home : (runtime.leak spawnedId).storages[runtime.storages.length]? =
            some { typeId := spawnedId, running := none } := by
          rw [storages_leak, if_pos rfl]
        by_cases same : typeId = spawnedId
        · subst same
          refine .inr (Sound.leakedSlots_le ((sound.leak typeId).start home) ?_)
          intro pointer free
          change ((runtime.leak typeId).refill typeId _ _).storages[pointer]? = _ at free
          rw [storages_refill ⟨none, home⟩] at free
          split at free
          · cases free
          · rename_i before
            rw [storages_leak, if_neg before] at free
            exact busy pointer free
        · refine .inl (Nat.le_of_eq ((leakedSlots_refill ⟨none, home⟩ _ typeId).trans ?_))
          rw [leakedSlots_leak, if_neg same, Nat.add_zero]
  | abort future => exact .inl (Nat.le_refl _)
  | complete stored => exact .inl (Nat.le_of_eq (leakedSlots_refill ⟨_, stored⟩ none typeId))
  | cancel stored told => exact .inl (Nat.le_of_eq (leakedSlots_refill ⟨_, stored⟩ none typeId))

/-- A run with the most futures of each type that were unfinished at a time so far. -/
structure Execution (κ : Type) where
  runtime : EmbassyRuntime κ
  peak : κ → Nat

namespace Execution

def new : Execution κ := { runtime := .new, peak := fun _ => 0 }

/-- The execution goes on to a state of the runtime. -/
def advance [DecidableEq κ] (execution : Execution κ) (after : EmbassyRuntime κ) : Execution κ :=
  { runtime := after
    peak := fun typeId => max (execution.peak typeId) (after.unfinished typeId).length }

inductive Step [DecidableEq κ] : Execution κ → Event κ → Execution κ → Prop
  | mk {execution : Execution κ} {event : Event κ} (after : EmbassyRuntime κ) :
      Embassy.Step execution.runtime event after → Step execution event (execution.advance after)

/-- Runs of the executor. -/
abbrev Runs [DecidableEq κ] : Execution κ → Execution κ → Prop :=
  Run Step fun _ _ => True

variable [DecidableEq κ] {execution : Execution κ}

/-- The slots leaked for a type are no more than the futures of the type that were unfinished at
some time. -/
structure Bounded (execution : Execution κ) : Prop where
  sound : Sound execution.runtime
  leaked : ∀ typeId, execution.runtime.leakedSlots typeId ≤ execution.peak typeId

theorem Bounded.step {event : Event κ} {after : Execution κ} (bounded : Bounded execution)
    (step : Step execution event after) : Bounded after := by
  obtain ⟨_, step⟩ := step
  refine ⟨step.sound bounded.sound, fun typeId => ?_⟩
  rcases step.leakedSlots_le bounded.sound typeId with kept | covered
  · exact Nat.le_trans (Nat.le_trans kept (bounded.leaked typeId)) (Nat.le_max_left _ _)
  · exact Nat.le_trans covered (Nat.le_max_right _ _)

theorem bounded_of_runs (run : Runs new execution) : Bounded execution :=
  run.invariant Bounded ⟨sound_new, fun _ => Nat.le_refl 0⟩ fun bounded _ step => bounded.step step

end Execution

/-- In every run the slots leaked for a type never outnumber the most futures of the type that were
unfinished at a time, the pool lists under a type only slots made for it, every spawned future is
started once, and a spawn neither uses its constructor twice nor takes the wrong slot nor fails. -/
theorem spawning_bounded [DecidableEq κ] {execution : Execution κ}
    (run : Execution.Runs .new execution) :
    (∀ typeId, execution.runtime.leakedSlots typeId ≤ execution.peak typeId) ∧
    (∀ typeId pointer, pointer ∈ execution.runtime.pooled typeId →
      execution.runtime.MadeFor typeId pointer) ∧
    (∀ future, future < execution.runtime.spawned.length →
      (execution.runtime.starts.map Prod.fst).count future = 1) ∧
    (∀ typeId future, ∃ after,
      execution.runtime.spawnWrapped typeId future = .ok (.ok (), after)) := by
  obtain ⟨sound, leaked⟩ := Execution.bounded_of_runs run
  refine ⟨leaked, fun typeId pointer => (sound.pooled typeId pointer).mp, ?_, ?_⟩
  · intro future spawned
    rw [sound.started]
    exact List.count_eq_one_of_mem List.nodup_range (List.mem_range.mpr spawned)
  · intro typeId future
    rcases spawnWrapped_cases (sound.pooled typeId) future with ⟨_, _, ran⟩ | ⟨_, ran⟩
    · exact ⟨_, ran⟩
    · exact ⟨_, ran⟩

/-- Futures of one driver. -/
inductive DriverFuture where
  | poll
  | listen
  deriving DecidableEq

/-- A driver that polls for the first time. -/
def polledOnce : EmbassyRuntime DriverFuture :=
  { storages := [{ typeId := .poll, running := some 0 }]
    storagePool := [(.poll, [0])]
    spawned := [.poll]
    starts := [(0, 0)]
    aborted := []
    finished := [] }

/-- A driver that polled, was done, and polls again in the same slot. -/
def polledTwice : EmbassyRuntime DriverFuture :=
  { storages := [{ typeId := .poll, running := some 1 }]
    storagePool := [(.poll, [0])]
    spawned := [.poll, .poll]
    starts := [(0, 0), (1, 0)]
    aborted := []
    finished := [0] }

theorem polledTwice_bounded :
    ∃ execution : Execution DriverFuture, Execution.Runs .new execution ∧
      execution.runtime = polledTwice ∧ execution.peak .poll = 1 ∧
      polledTwice.leakedSlots .poll ≤ 1 := by
  have polled : Execution.Runs .new (Execution.new.advance polledOnce) :=
    (Run.refl Execution.new).perform (.spawn .poll) trivial (.mk polledOnce (.spawn rfl))
  have done := polled.perform (.complete 0) trivial
    (.mk (polledOnce.finish .poll 0 0) (.complete rfl))
  have run := done.perform (.spawn .poll) trivial (.mk polledTwice (.spawn rfl))
  exact ⟨_, run, rfl, by decide, (spawning_bounded run).1 .poll⟩

end Embassy
end Ferredge
