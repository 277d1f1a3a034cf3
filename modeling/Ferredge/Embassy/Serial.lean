import Mathlib.Logic.Function.Basic
import Ferredge.Core.WriteAll
import Ferredge.KeyedList
import Ferredge.Modbus.Stack
import Ferredge.Transition

/-!
# Serial ports on embassy

Serial hardware cannot be opened by its path.  Each port is registered under a path beforehand, and
opening the path hands the port over to a session, which is the only one to have it.
-/

namespace Ferredge
namespace Embassy

open Transition

/-- Serial ports by the paths they were registered under.  A port is known by the number of its
registration. -/
structure EmbassySerial where
  ports : List (String × Nat)

namespace EmbassySerial

def new : EmbassySerial := { ports := [] }

def register (serial : EmbassySerial) (path : String) (port : Nat) : EmbassySerial :=
  { ports := KeyedList.insert path port serial.ports }

/-- The port registered under a path, if it is still there. -/
def find (serial : EmbassySerial) (path : String) : Option Nat :=
  KeyedList.lookup path serial.ports

/-- Hands out the port registered under a path. -/
def openPort (serial : EmbassySerial) (path : String) : Except SerialError Nat × EmbassySerial :=
  match serial.find path with
  | some port => (.ok port, { ports := KeyedList.remove path serial.ports })
  | none => (.error (.other ("no embassy serial port registered as " ++ path)), serial)

end EmbassySerial

/-- The registry and the drivers that open ports from it, each with its persistent session and,
while a call is under way, the port it exchanges on and whether the endpoint is persistent. -/
structure SerialSystem (δ : Type) where
  serial : EmbassySerial
  /-- The paths of all registrations. -/
  registered : List String
  session : δ → Option Nat
  exchanging : δ → Option (Nat × Bool)
  /-- The ports handed out. -/
  opened : List Nat
  /-- The ports that were closed, dropped, or replaced in the registry. -/
  gone : List Nat

namespace SerialSystem

variable {δ : Type}

def begin : SerialSystem δ :=
  { serial := .new
    registered := []
    session := fun _ => none
    exchanging := fun _ => none
    opened := []
    gone := [] }

/-- Registers one more port.  The one registered under the path before is dropped. -/
def register (system : SerialSystem δ) (path : String) : SerialSystem δ :=
  { system with
    serial := system.serial.register path system.registered.length
    registered := system.registered ++ [path]
    gone := system.gone ++ (system.serial.find path).toList }

/-! ## Where the ports are -/

/-- A driver has a port as its session or exchanges on it. -/
def Owns (system : SerialSystem δ) (driver : δ) (port : Nat) : Prop :=
  system.session driver = some port ∨
    ∃ persistent, system.exchanging driver = some (port, persistent)

/-- A port is in the registry or belongs to a driver. -/
def Held (system : SerialSystem δ) (port : Nat) : Prop :=
  (∃ path, system.serial.find path = some port) ∨ ∃ driver, system.Owns driver port

/-- A port waits in the registry until it is opened, for the first and only time, and belongs to one
driver until it is gone. -/
structure HandedOutOnce (system : SerialSystem δ) : Prop where
  located : ∀ port, port < system.registered.length →
    (∃ path, system.serial.find path = some port) ∨ (∃ driver, system.Owns driver port) ∨
      port ∈ system.gone
  waiting : ∀ path port, system.serial.find path = some port →
    system.registered[port]? = some path ∧ port ∉ system.opened ∧ port ∉ system.gone
  owned : ∀ driver port, system.Owns driver port → port ∈ system.opened ∧ port ∉ system.gone
  owner : ∀ driver other port, system.Owns driver port → system.Owns other port → driver = other
  once : system.opened.Nodup
  known : ∀ port, port ∈ system.opened ∨ port ∈ system.gone → port < system.registered.length
  idle : ∀ driver exchange, system.exchanging driver = some exchange → system.session driver = none

theorem handedOutOnce_begin : HandedOutOnce (begin : SerialSystem δ) where
  located := fun port registered => absurd registered (Nat.not_lt_zero port)
  waiting := fun path port found => by cases found
  owned := fun driver port owns => by
    rcases owns with session | ⟨persistent, exchanging⟩
    · cases session
    · cases exchanging
  owner := fun driver other port owns => by
    rcases owns with session | ⟨persistent, exchanging⟩
    · cases session
    · cases exchanging
  once := List.nodup_nil
  known := fun port seen => by rcases seen with opened | gone <;> contradiction
  idle := fun driver exchange exchanging => by cases exchanging

variable {system after : SerialSystem δ} {driver : δ} {path : String}

/-- A port that is gone is nowhere. -/
theorem HandedOutOnce.not_held (once : system.HandedOutOnce) {port : Nat}
    (gone : port ∈ system.gone) : ¬system.Held port := by
  rintro (⟨path, found⟩ | ⟨driver, owns⟩)
  · exact (once.waiting path port found).2.2 gone
  · exact (once.owned driver port owns).2 gone

/-- Ports that drivers had and no longer have are gone. -/
theorem HandedOutOnce.release (once : system.HandedOutOnce) (dropped : List Nat)
    (serial : after.serial = system.serial) (registered : after.registered = system.registered)
    (opened : after.opened = system.opened) (gone : after.gone = system.gone ++ dropped)
    (remaining : ∀ driver port,
      after.Owns driver port ↔ system.Owns driver port ∧ port ∉ dropped)
    (given : ∀ port ∈ dropped, ∃ driver, system.Owns driver port)
    (idle : ∀ driver exchange, after.exchanging driver = some exchange →
      after.session driver = none) : after.HandedOutOnce where
  located := fun port known => by
    rw [registered] at known
    rw [serial, gone, List.mem_append]
    rcases once.located port known with found | ⟨driver, owns⟩ | lost
    · exact .inl found
    · by_cases given_up : port ∈ dropped
      · exact .inr (.inr (.inr given_up))
      · exact .inr (.inl ⟨driver, (remaining driver port).mpr ⟨owns, given_up⟩⟩)
    · exact .inr (.inr (.inl lost))
  waiting := fun path port found => by
    rw [serial] at found
    obtain ⟨registration, unopened, there⟩ := once.waiting path port found
    rw [registered, opened, gone, List.mem_append, not_or]
    refine ⟨registration, unopened, there, fun given_up => ?_⟩
    obtain ⟨driver, owns⟩ := given port given_up
    exact unopened (once.owned driver port owns).1
  owned := fun driver port owns => by
    obtain ⟨before, kept⟩ := (remaining driver port).mp owns
    obtain ⟨handed, there⟩ := once.owned driver port before
    rw [opened, gone, List.mem_append, not_or]
    exact ⟨handed, there, kept⟩
  owner := fun driver other port first second =>
    once.owner driver other port ((remaining driver port).mp first).1
      ((remaining other port).mp second).1
  once := by
    rw [opened]
    exact once.once
  known := fun port seen => by
    rw [opened, gone, List.mem_append] at seen
    rw [registered]
    rcases seen with handed | lost | given_up
    · exact once.known port (.inl handed)
    · exact once.known port (.inr lost)
    · obtain ⟨driver, owns⟩ := given port given_up
      exact once.known port (.inl (once.owned driver port owns).1)
  idle := idle

theorem find_register (serial : EmbassySerial) (path other : String) (port : Nat) :
    (serial.register path port).find other =
      if other = path then some port else serial.find other := by
  rw [EmbassySerial.find, EmbassySerial.register]
  by_cases same : other = path
  · subst same
    rw [if_pos rfl, KeyedList.lookup_insert_self]
  · rw [if_neg same, KeyedList.lookup_insert_of_ne same]
    rfl

/-- A port that waits is handed out, whatever waits under the other paths. -/
theorem openPort_of_find {serial : EmbassySerial} {path : String} {port : Nat}
    (found : serial.find path = some port) : (serial.openPort path).1 = .ok port := by
  rw [EmbassySerial.openPort, found]

theorem openPort_register (system : SerialSystem δ) (path : String) :
    ((system.register path).serial.openPort path).1 = .ok system.registered.length :=
  openPort_of_find ((find_register system.serial path path _).trans (if_pos rfl))

theorem HandedOutOnce.lt_of_found (once : system.HandedOutOnce) {port : Nat}
    (found : system.serial.find path = some port) : port < system.registered.length :=
  (List.getElem?_eq_some_iff.mp (once.waiting path port found).1).1

/-- A port waits under one path only. -/
theorem HandedOutOnce.path_unique (once : system.HandedOutOnce) {other : String} {port : Nat}
    (found : system.serial.find path = some port)
    (also_found : system.serial.find other = some port) : other = path :=
  Option.some.inj ((once.waiting other port also_found).1.symm.trans
    (once.waiting path port found).1)

theorem HandedOutOnce.register (once : system.HandedOutOnce) (path : String) :
    (system.register path).HandedOutOnce where
  located := fun port known => by
    rw [SerialSystem.register, List.length_append, List.length_singleton] at known
    rw [SerialSystem.register, List.mem_append, Option.mem_toList]
    by_cases last : port = system.registered.length
    · exact .inl ⟨path, by rw [find_register, if_pos rfl, last]⟩
    · rcases once.located port (by omega) with ⟨other, found⟩ | owned | lost
      · by_cases same : other = path
        · subst same
          exact .inr (.inr (.inr found))
        · exact .inl ⟨other, by rw [find_register, if_neg same, found]⟩
      · exact .inr (.inl owned)
      · exact .inr (.inr (.inl lost))
  waiting := fun other port found => by
    rw [SerialSystem.register, find_register] at found
    rw [SerialSystem.register, List.mem_append, Option.mem_toList, not_or]
    split at found
    · rename_i same
      subst same
      obtain rfl := Option.some.inj found
      refine ⟨List.getElem?_concat_length, ?_, ?_, ?_⟩
      · exact fun handed => Nat.lt_irrefl _ (once.known _ (.inl handed))
      · exact fun lost => Nat.lt_irrefl _ (once.known _ (.inr lost))
      · exact fun replaced => Nat.lt_irrefl _ (once.lt_of_found replaced)
    · rename_i different
      obtain ⟨registration, unopened, there⟩ := once.waiting other port found
      refine ⟨?_, unopened, there, fun replaced => different (once.path_unique replaced found)⟩
      exact (List.getElem?_append_left (once.lt_of_found found)).trans registration
  owned := fun driver port owns => by
    obtain ⟨handed, there⟩ := once.owned driver port owns
    rw [SerialSystem.register, List.mem_append, Option.mem_toList, not_or]
    exact ⟨handed, there, fun replaced => (once.waiting path port replaced).2.1 handed⟩
  owner := once.owner
  once := once.once
  known := fun port seen => by
    rw [SerialSystem.register, List.mem_append, Option.mem_toList] at seen
    rw [SerialSystem.register, List.length_append]
    refine Nat.lt_succ_of_lt ?_
    rcases seen with handed | lost | replaced
    · exact once.known port (.inl handed)
    · exact once.known port (.inr lost)
    · exact once.lt_of_found replaced
  idle := once.idle

/-- A driver that exchanges on a port has no session. -/
theorem HandedOutOnce.session_eq_none (once : system.HandedOutOnce) {port : Nat}
    (exchanging : ∃ persistent, system.exchanging driver = some (port, persistent)) :
    system.session driver = none := by
  obtain ⟨persistent, exchanging⟩ := exchanging
  exact once.idle driver _ exchanging

/-! ## Calls -/

variable [DecidableEq δ]

/-- The call of a driver goes on with a port. -/
def exchangeOn (system : SerialSystem δ) (driver : δ) (port : Nat) (persistent : Bool) :
    SerialSystem δ :=
  { system with exchanging := Function.update system.exchanging driver (some (port, persistent)) }

/-- Closes or drops the persistent session of a driver. -/
def dropSession (system : SerialSystem δ) (driver : δ) : SerialSystem δ :=
  { system with
    session := Function.update system.session driver none
    gone := system.gone ++ (system.session driver).toList }

theorem session_dropSession (system : SerialSystem δ) (driver : δ) :
    (system.dropSession driver).session driver = none :=
  Function.update_self _ _ _

/-- Closes or drops the port of the call that is under way. -/
def dropExchange (system : SerialSystem δ) (driver : δ) : SerialSystem δ :=
  { system with
    exchanging := Function.update system.exchanging driver none
    gone := system.gone ++ ((system.exchanging driver).map Prod.fst).toList }

/-- Opens a port for the call of a driver, which fails without one. -/
def openFor (system : SerialSystem δ) (driver : δ) (path : String) (persistent : Bool) :
    SerialSystem δ :=
  match system.serial.openPort path with
  | (.ok port, serial) =>
      ({ system with serial, opened := system.opened ++ [port] }).exchangeOn driver port persistent
  | (.error _, serial) => { system with serial }

/-- The start of a call: the session is taken and used, or closed and a port opened instead. -/
def beginCall (system : SerialSystem δ) (driver : δ) (path : String) (persistent : Bool) :
    SerialSystem δ :=
  match persistent, system.session driver with
  | true, some port =>
      -- The session stays empty until the exchange has succeeded.
      ({ system with session := Function.update system.session driver none }).exchangeOn driver port
        persistent
  | _, _ => (system.dropSession driver).openFor driver path persistent

/-- The end of a call: its port is stored or dropped after a frame, and closed after an error. -/
def endCall (system : SerialSystem δ) (driver : δ) (port : Nat) (persistent : Bool) :
    Except String Bytes → SerialSystem δ
  | .ok _ =>
      if persistent then
        { system with
          session := Function.update system.session driver (some port)
          exchanging := Function.update system.exchanging driver none }
      else system.dropExchange driver
  | .error _ => system.dropExchange driver

/-- A driver is dropped, with its session and the call that is under way. -/
def dropDriver (system : SerialSystem δ) (driver : δ) : SerialSystem δ :=
  (system.dropSession driver).dropExchange driver

end SerialSystem

/-- What happens to the ports. -/
inductive SerialEvent (δ : Type) where
  | register (path : String)
  | call (driver : δ) (path : String) (persistent : Bool)
  | finish (driver : δ) (outcome : Except String Bytes)
  | drop (driver : δ)

namespace SerialSystem

variable {δ : Type} [DecidableEq δ]

/-- The lock of its session admits one call of a driver at a time. -/
inductive Step : SerialSystem δ → SerialEvent δ → SerialSystem δ → Prop
  | register (system : SerialSystem δ) (path : String) :
      Step system (.register path) (system.register path)
  | call {system : SerialSystem δ} {driver : δ} (path : String) (persistent : Bool) :
      system.exchanging driver = none →
        Step system (.call driver path persistent) (system.beginCall driver path persistent)
  | finish {system : SerialSystem δ} {driver : δ} {port : Nat} {persistent : Bool}
      (outcome : Except String Bytes) :
      system.exchanging driver = some (port, persistent) →
        Step system (.finish driver outcome) (system.endCall driver port persistent outcome)
  | drop (system : SerialSystem δ) (driver : δ) :
      Step system (.drop driver) (system.dropDriver driver)

/-! ## What every run keeps -/

variable {system after : SerialSystem δ} {driver : δ} {path : String}

theorem HandedOutOnce.dropSession (once : system.HandedOutOnce) (driver : δ) :
    (system.dropSession driver).HandedOutOnce := by
  refine once.release (system.session driver).toList rfl rfl rfl rfl ?_ ?_ ?_
  · intro other port
    rw [Option.mem_toList]
    by_cases same : other = driver
    · subst same
      simp only [Owns, SerialSystem.dropSession, Function.update_self, reduceCtorEq, false_or]
      constructor
      · intro exchanging
        refine ⟨.inr exchanging, ?_⟩
        rw [once.session_eq_none exchanging]
        exact nofun
      · rintro ⟨session | exchanging, kept⟩
        · exact absurd session kept
        · exact exchanging
    · simp only [Owns, SerialSystem.dropSession, Function.update_of_ne same]
      refine ⟨fun owns => ⟨owns, fun session => same ?_⟩, And.left⟩
      exact once.owner other driver port owns (.inl session)
  · intro port dropped
    exact ⟨driver, .inl (Option.mem_toList.mp dropped)⟩
  · intro other exchange exchanging
    by_cases same : other = driver
    · subst same
      exact Function.update_self other none system.session
    · exact (Function.update_of_ne same none system.session).trans
        (once.idle other exchange exchanging)

theorem HandedOutOnce.dropExchange (once : system.HandedOutOnce) (driver : δ) :
    (system.dropExchange driver).HandedOutOnce := by
  have dropped_iff (port : Nat) : port ∈ ((system.exchanging driver).map Prod.fst).toList ↔
      ∃ persistent, system.exchanging driver = some (port, persistent) := by
    rw [Option.mem_toList, Option.map_eq_some_iff]
    constructor
    · rintro ⟨⟨_, persistent⟩, exchanging, rfl⟩
      exact ⟨persistent, exchanging⟩
    · rintro ⟨persistent, exchanging⟩
      exact ⟨_, exchanging, rfl⟩
  refine once.release ((system.exchanging driver).map Prod.fst).toList rfl rfl rfl rfl ?_ ?_ ?_
  · intro other port
    rw [dropped_iff]
    by_cases same : other = driver
    · subst same
      simp only [Owns, SerialSystem.dropExchange, Function.update_self, reduceCtorEq,
        exists_false, or_false]
      constructor
      · intro session
        refine ⟨.inl session, fun exchanging => ?_⟩
        rw [once.session_eq_none exchanging] at session
        cases session
      · rintro ⟨session | exchanging, kept⟩
        · exact session
        · exact absurd exchanging kept
    · simp only [Owns, SerialSystem.dropExchange, Function.update_of_ne same]
      refine ⟨fun owns => ⟨owns, fun exchanging => same ?_⟩, And.left⟩
      exact once.owner other driver port owns (.inr exchanging)
  · intro port dropped
    exact ⟨driver, .inr ((dropped_iff port).mp dropped)⟩
  · intro other exchange exchanging
    by_cases same : other = driver
    · subst same
      simp [SerialSystem.dropExchange] at exchanging
    · simp only [SerialSystem.dropExchange, Function.update_of_ne same] at exchanging
      exact once.idle other exchange exchanging

/-- A port goes from the session of a driver to its call. -/
theorem HandedOutOnce.useSession (once : system.HandedOutOnce) {port : Nat} (persistent : Bool)
    (session : system.session driver = some port) (waiting : system.exchanging driver = none) :
    ({ system with session := Function.update system.session driver none }.exchangeOn driver port
      persistent).HandedOutOnce := by
  refine once.release [] rfl rfl rfl (List.append_nil _).symm ?_ nofun ?_
  · intro other owned
    by_cases same : other = driver
    · subst same
      simp [Owns, exchangeOn, session, waiting]
    · simp [Owns, exchangeOn, Function.update_of_ne same]
  · intro other exchange exchanging
    by_cases same : other = driver
    · subst same
      exact Function.update_self other none system.session
    · simp only [exchangeOn, Function.update_of_ne same] at exchanging
      exact (Function.update_of_ne same none system.session).trans
        (once.idle other exchange exchanging)

/-- A port goes from the call of a driver to its session. -/
theorem HandedOutOnce.storeSession (once : system.HandedOutOnce) {port : Nat} {persistent : Bool}
    (exchanging : system.exchanging driver = some (port, persistent)) :
    ({ system with
      session := Function.update system.session driver (some port)
      exchanging := Function.update system.exchanging driver none }).HandedOutOnce := by
  refine once.release [] rfl rfl rfl (List.append_nil _).symm ?_ nofun ?_
  · intro other owned
    by_cases same : other = driver
    · subst same
      simp [Owns, exchanging, once.idle other _ exchanging]
    · simp [Owns, Function.update_of_ne same]
  · intro other exchange still
    by_cases same : other = driver
    · subst same
      simp at still
    · simp only [Function.update_of_ne same] at still
      exact (Function.update_of_ne same _ system.session).trans (once.idle other exchange still)

theorem find_remove (serial : EmbassySerial) (path other : String) :
    ({ ports := KeyedList.remove path serial.ports } : EmbassySerial).find other =
      if other = path then none else serial.find other := by
  rw [EmbassySerial.find]
  by_cases same : other = path
  · subst same
    rw [if_pos rfl, KeyedList.lookup_remove_self]
  · rw [if_neg same, KeyedList.lookup_remove_of_ne same]
    rfl

/-- The port that was waiting belongs to the driver. -/
theorem HandedOutOnce.opened (once : system.HandedOutOnce) {port : Nat} (persistent : Bool)
    (found : system.serial.find path = some port) (free : system.session driver = none)
    (waiting : system.exchanging driver = none) :
    ({ system with
      serial := { ports := KeyedList.remove path system.serial.ports }
      opened := system.opened ++ [port] }.exchangeOn driver port persistent).HandedOutOnce := by
  obtain ⟨registration, unopened, there⟩ := once.waiting path port found
  have owns_iff (other : δ) (owned : Nat) :
      ({ system with
        serial := { ports := KeyedList.remove path system.serial.ports }
        opened := system.opened ++ [port] }.exchangeOn driver port persistent).Owns other owned ↔
        system.Owns other owned ∨ (other = driver ∧ owned = port) := by
    by_cases same : other = driver
    · subst same
      simp [Owns, exchangeOn, free, waiting, eq_comm]
    · simp [Owns, exchangeOn, same]
  constructor
  case located =>
    intro owned known
    rcases once.located owned known with ⟨other, still⟩ | ⟨other, owns⟩ | lost
    · by_cases same : other = path
      · subst same
        obtain rfl := Option.some.inj (still.symm.trans found)
        exact .inr (.inl ⟨driver, (owns_iff driver owned).mpr (.inr ⟨rfl, rfl⟩)⟩)
      · exact .inl ⟨other, by rw [exchangeOn, find_remove, if_neg same, still]⟩
    · exact .inr (.inl ⟨other, (owns_iff other owned).mpr (.inl owns)⟩)
    · exact .inr (.inr lost)
  case waiting =>
    intro other owned still
    rw [exchangeOn, find_remove] at still
    split at still
    · cases still
    · rename_i different
      obtain ⟨known, unused, there⟩ := once.waiting other owned still
      refine ⟨known, fun handed => ?_, there⟩
      rcases List.mem_append.mp handed with before | now
      · exact unused before
      · rw [List.mem_singleton.mp now] at still
        exact different (once.path_unique found still)
  case owned =>
    intro other owned owns
    rcases (owns_iff other owned).mp owns with before | ⟨rfl, rfl⟩
    · obtain ⟨handed, there⟩ := once.owned other owned before
      exact ⟨List.mem_append_left _ handed, there⟩
    · exact ⟨List.mem_append_right _ (List.mem_singleton_self _), there⟩
  case owner =>
    intro first second owned one another
    rcases (owns_iff first owned).mp one with before | ⟨rfl, rfl⟩ <;>
      rcases (owns_iff second owned).mp another with also_before | ⟨rfl, same⟩
    · exact once.owner first second owned before also_before
    · subst same
      exact absurd (once.owned first owned before).1 unopened
    · exact absurd (once.owned second owned also_before).1 unopened
    · rfl
  case once => exact List.nodup_append.mpr ⟨once.once, List.pairwise_singleton _ port,
      fun handed before now last same => unopened (List.mem_singleton.mp last ▸ same ▸ before)⟩
  case known =>
    intro owned seen
    rcases seen with handed | lost
    · rcases List.mem_append.mp handed with before | now
      · exact once.known owned (.inl before)
      · rw [List.mem_singleton.mp now]
        exact once.lt_of_found found
    · exact once.known owned (.inr lost)
  case idle =>
    intro other exchange exchanging
    by_cases same : other = driver
    · subst same
      exact free
    · simp only [exchangeOn, Function.update_of_ne same] at exchanging
      exact once.idle other exchange exchanging

theorem HandedOutOnce.openFor (once : system.HandedOutOnce) (path : String) (persistent : Bool)
    (free : system.session driver = none) (waiting : system.exchanging driver = none) :
    (system.openFor driver path persistent).HandedOutOnce := by
  rw [SerialSystem.openFor, EmbassySerial.openPort]
  cases found : system.serial.find path with
  | none => exact once
  | some port => exact once.opened persistent found free waiting

theorem HandedOutOnce.beginCall (once : system.HandedOutOnce) (path : String) (persistent : Bool)
    (waiting : system.exchanging driver = none) :
    (system.beginCall driver path persistent).HandedOutOnce := by
  have opens : ((system.dropSession driver).openFor driver path persistent).HandedOutOnce :=
    (once.dropSession driver).openFor path persistent (session_dropSession system driver) waiting
  rw [SerialSystem.beginCall.eq_def]
  split
  · rename_i session
    exact once.useSession true session waiting
  · exact opens

theorem HandedOutOnce.endCall (once : system.HandedOutOnce) {port : Nat} {persistent : Bool}
    (outcome : Except String Bytes)
    (exchanging : system.exchanging driver = some (port, persistent)) :
    (system.endCall driver port persistent outcome).HandedOutOnce := by
  cases outcome with
  | error message => exact once.dropExchange driver
  | ok frame =>
      rw [SerialSystem.endCall]
      split
      · exact once.storeSession exchanging
      · exact once.dropExchange driver

theorem HandedOutOnce.step {event : SerialEvent δ} (once : system.HandedOutOnce)
    (step : Step system event after) : after.HandedOutOnce := by
  cases step with
  | register path => exact once.register path
  | call path persistent waiting => exact once.beginCall path persistent waiting
  | finish outcome exchanging => exact once.endCall outcome exchanging
  | drop driver => exact (once.dropSession driver).dropExchange driver

theorem handedOutOnce_of_run (run : Run Step (fun _ _ => True) begin system) :
    system.HandedOutOnce :=
  run.invariant HandedOutOnce handedOutOnce_begin fun once _ step => once.step step

/-! ## What is gone -/

theorem gone_openFor (system : SerialSystem δ) (driver : δ) (path : String) (persistent : Bool) :
    (system.openFor driver path persistent).gone = system.gone := by
  rw [openFor, EmbassySerial.openPort]
  cases system.serial.find path <;> rfl

/-- No step brings a port back. -/
theorem gone_subset {event : SerialEvent δ} (step : Step system event after) :
    system.gone ⊆ after.gone := by
  cases step with
  | register path => exact List.subset_append_left _ _
  | call path persistent waiting =>
      rw [beginCall.eq_def]
      split
      · exact List.Subset.refl _
      · rw [gone_openFor]
        exact List.subset_append_left _ _
  | finish outcome exchanging =>
      rw [endCall.eq_def]
      split
      · split
        · exact List.Subset.refl _
        · exact List.subset_append_left _ _
      · exact List.subset_append_left _ _
  | drop driver =>
      exact List.Subset.trans (List.subset_append_left _ _) (List.subset_append_left _ _)

theorem gone_of_run {careful : SerialSystem δ → SerialEvent δ → Prop} {port : Nat}
    (run : Run Step careful system after) (gone : port ∈ system.gone) : port ∈ after.gone :=
  run.invariant (port ∈ ·.gone) gone fun before _ step => gone_subset step before

theorem find_openFor (system : SerialSystem δ) (driver : δ) (path other : String)
    (persistent : Bool) :
    (system.openFor driver path persistent).serial.find other =
      if other = path then none else system.serial.find other := by
  rw [openFor, EmbassySerial.openPort]
  cases found : system.serial.find path with
  | some port => exact find_remove system.serial path other
  | none =>
      by_cases same : other = path
      · rw [if_pos same, same]
        exact found
      · rw [if_neg same]

/-- A path under which nothing waits stays so until a port is registered under it. -/
theorem find_eq_none_step {event : SerialEvent δ} (step : Step system event after)
    (other : event ≠ .register path) (vacant : system.serial.find path = none) :
    after.serial.find path = none := by
  cases step with
  | register registered =>
      have different : path ≠ registered := fun same => other (congrArg _ same.symm)
      exact (find_register system.serial registered path _).trans ((if_neg different).trans vacant)
  | call called persistent waiting =>
      rw [beginCall.eq_def]
      split
      · exact vacant
      · rw [find_openFor]
        split
        · rfl
        · exact vacant
  | finish outcome exchanging =>
      rw [endCall.eq_def]
      split
      · split <;> exact vacant
      · exact vacant
  | drop driver => exact vacant

theorem openPort_of_find_eq_none {serial : EmbassySerial} (vacant : serial.find path = none) :
    serial.openPort path =
      (.error (.other ("no embassy serial port registered as " ++ path)), serial) := by
  rw [EmbassySerial.openPort, vacant]

/-- Once a call has asked for the port of a path, the path is open to nobody. -/
theorem openPort_after_beginCall (persistent : Bool)
    (opens : ¬(persistent = true ∧ (system.session driver).isSome))
    (run : Run Step (fun _ event => event ≠ .register path)
      (system.beginCall driver path persistent) after) :
    after.serial.openPort path =
      (.error (.other ("no embassy serial port registered as " ++ path)), after.serial) := by
  refine openPort_of_find_eq_none (run.invariant (·.serial.find path = none) ?_
    fun vacant careful step => find_eq_none_step step careful vacant)
  rw [beginCall.eq_def]
  split
  · rename_i session
    exact absurd ⟨rfl, by rw [session]; rfl⟩ opens
  · rw [find_openFor, if_pos rfl]

/-- A port whose exchange ends without storing it is gone. -/
theorem gone_endCall {port : Nat} {persistent : Bool} {outcome : Except String Bytes}
    (exchanging : system.exchanging driver = some (port, persistent))
    (unstored : ¬(persistent = true ∧ outcome.isOk)) :
    port ∈ (system.endCall driver port persistent outcome).gone := by
  have dropped : port ∈ (system.dropExchange driver).gone := by
    rw [dropExchange, exchanging]
    exact List.mem_append_right _ (List.mem_singleton_self port)
  cases outcome with
  | error message => exact dropped
  | ok frame =>
      rw [endCall, if_neg fun persists => unstored ⟨persists, rfl⟩]
      exact dropped

theorem exchanging_beginCall {port : Nat} (path : String)
    (session : system.session driver = some port) :
    (system.beginCall driver path true).exchanging driver = some (port, true) := by
  rw [beginCall.eq_def, session]
  exact Function.update_self driver (some (port, true)) system.exchanging

/-! ## The calls of the transport -/

section Transport

open Modbus

variable {lib : RmodbusWire} {wire : StreamWire} {persistent : Bool} {request : ModbusRequest}
  {world later : StackWorld} {outcome : Except String Bytes} {kept : Option Connection}

/-- A connection is kept exactly after a frame on a persistent endpoint. -/
theorem isSome_exchangeOn {connection : Connection}
    (returned : Modbus.exchangeOn lib wire persistent request connection world =
      some (outcome, kept, later)) : kept.isSome = (persistent && outcome.isOk) := by
  obtain ⟨⟨result, stream⟩, -, shape⟩ := Option.map_eq_some_iff.mp returned
  cases result with
  | error error =>
      cases shape
      exact (Bool.and_false persistent).symm
  | ok frame => cases persistent <;> cases shape <;> rfl

theorem session_endCall_iff {port : Nat} (free : system.session driver = none) :
    (system.endCall driver port persistent outcome).session driver = some port ↔
      (persistent && outcome.isOk) = true := by
  cases outcome with
  | error error => simp [endCall, dropExchange, free, Except.isOk, Except.toBool]
  | ok frame => cases persistent <;> simp [endCall, dropExchange, free, Except.isOk, Except.toBool]

theorem beginCall_anew (path : String)
    (opens : (persistent && (system.session driver).isSome) = false) :
    system.beginCall driver path persistent =
      (system.dropSession driver).openFor driver path persistent := by
  rw [beginCall.eq_def]
  split
  · rename_i session
    rw [session] at opens
    cases opens
  · rfl

theorem session_openFor (system : SerialSystem δ) (driver : δ) (path : String)
    (persistent : Bool) : (system.openFor driver path persistent).session = system.session := by
  rw [openFor, EmbassySerial.openPort]
  cases system.serial.find path <;> rfl

theorem exchanging_openFor_of_some {port : Nat} (persistent : Bool)
    (found : system.serial.find path = some port) :
    (system.openFor driver path persistent).exchanging driver = some (port, persistent) := by
  rw [openFor, EmbassySerial.openPort, found]
  exact Function.update_self driver (some (port, persistent)) system.exchanging

theorem exchanging_openFor_of_none (persistent : Bool) (missing : system.serial.find path = none) :
    (system.openFor driver path persistent).exchanging driver = system.exchanging driver := by
  rw [openFor, EmbassySerial.openPort, missing]

/-- A call of the transport on a serial endpoint opens a port exactly if one waits under the path,
and stores it exactly if the moves of the call do. -/
theorem callStream_served {session : Option Connection} (path : String)
    (serial : wire.side = .serial) (idle : system.exchanging driver = none)
    (same : session.isSome = (system.session driver).isSome)
    (opening : ∀ result ports, world.ports = result :: ports →
      result.isOk = (system.serial.find path).isSome)
    (called : callStream lib wire persistent request session world = some (outcome, kept, later)) :
    let begun := system.beginCall driver path persistent
    (begun.exchanging driver = none ∧ outcome.isOk = false ∧ kept = none) ∨
      ∃ port, begun.exchanging driver = some (port, persistent) ∧
        (kept.isSome ↔
          (begun.endCall driver port persistent outcome).session driver = some port) := by
  cases opens : persistent && session.isSome with
  | true =>
      obtain ⟨rfl, held⟩ := (Bool.and_eq_true _ _).mp opens
      obtain ⟨connection, rfl⟩ := Option.isSome_iff_exists.mp held
      obtain ⟨port, owned⟩ := Option.isSome_iff_exists.mp same.symm
      refine .inr ⟨port, exchanging_beginCall path owned, ?_⟩
      have free : (system.beginCall driver path true).session driver = none := by
        rw [beginCall.eq_def, owned]
        exact Function.update_self driver none system.session
      rw [session_endCall_iff free, isSome_exchangeOn called]
  | false =>
      have anew := opens
      rw [same] at anew
      rw [callStream_anew opens] at called
      rw [beginCall_anew path anew]
      obtain ⟨⟨result, after⟩, opened, rest⟩ := Option.bind_eq_some_iff.mp called
      have ports_eq : (world.closeStale session).ports = world.ports := by cases session <;> rfl
      rw [openStream, serial] at opened
      dsimp only at opened
      rw [ports_eq] at opened
      cases ports : world.ports with
      | nil =>
          rw [ports] at opened
          cases opened
      | cons answer ports_left =>
          have found := opening answer ports_left ports
          rw [ports] at opened
          obtain ⟨rfl, rfl⟩ := Prod.mk.inj (Option.some.inj opened)
          cases answer with
          | error error =>
              have missing : (system.dropSession driver).serial.find path = none :=
                Option.not_isSome_iff_eq_none.mp (Bool.eq_false_iff.mp found.symm)
              cases rest
              exact .inl ⟨(exchanging_openFor_of_none persistent missing).trans idle, rfl, rfl⟩
          | ok stream =>
              obtain ⟨port, waiting⟩ := Option.isSome_iff_exists.mp found.symm
              have stored : (system.dropSession driver).serial.find path = some port := waiting
              refine .inr ⟨port, exchanging_openFor_of_some persistent stored, ?_⟩
              have free : ((system.dropSession driver).openFor driver path persistent).session
                  driver = none := by
                rw [session_openFor, session_dropSession]
              rw [session_endCall_iff free, isSome_exchangeOn rest]

end Transport

/-! ## Every run -/

theorem session_endCall {port : Nat} {persistent : Bool} {outcome : Except String Bytes}
    (stored : persistent = true ∧ outcome.isOk) :
    (system.endCall driver port persistent outcome).session driver = some port := by
  obtain ⟨rfl, ok⟩ := stored
  cases outcome with
  | error message => cases ok
  | ok frame => exact Function.update_self driver (some port) system.session

/-- A registered port waits under its path until it is handed out, once.  It serves the later calls
of its driver while exchanges store it, and is gone for good with the first one that does not; its
path cannot be opened again until another port is registered under it. -/
theorem ports_handed_out_once (run : Run Step (fun _ _ => True) begin system) :
    system.HandedOutOnce ∧
    (∀ path, ((system.register path).serial.openPort path).1 = .ok system.registered.length) ∧
    (∀ path port, system.serial.find path = some port →
      (system.serial.openPort path).1 = .ok port) ∧
    (∀ driver path persistent, system.exchanging driver = none →
      (∀ port, persistent = true → system.session driver = some port →
        (system.beginCall driver path persistent).exchanging driver = some (port, true)) ∧
      (¬(persistent = true ∧ (system.session driver).isSome) →
        ∀ later, Run Step (fun _ event => event ≠ .register path)
            (system.beginCall driver path persistent) later →
          later.serial.openPort path =
            (.error (.other ("no embassy serial port registered as " ++ path)), later.serial))) ∧
    ∀ driver port persistent outcome, system.exchanging driver = some (port, persistent) →
      (persistent = true ∧ outcome.isOk →
        (system.endCall driver port persistent outcome).session driver = some port) ∧
      (¬(persistent = true ∧ outcome.isOk) →
        ∀ later, Run Step (fun _ _ => True) (system.endCall driver port persistent outcome) later →
          port ∈ later.gone ∧ ¬later.Held port) := by
  refine ⟨handedOutOnce_of_run run, openPort_register system,
    fun path port found => openPort_of_find found, ?_, ?_⟩
  · intro driver path persistent waiting
    refine ⟨?_, fun opens later onward => openPort_after_beginCall persistent opens onward⟩
    rintro port rfl session
    exact exchanging_beginCall path session
  · intro driver port persistent outcome exchanging
    refine ⟨session_endCall, fun unstored later onward => ?_⟩
    have gone : port ∈ later.gone := gone_of_run onward (gone_endCall exchanging unstored)
    have ended : Run Step (fun _ _ => True) begin (system.endCall driver port persistent outcome) :=
      run.perform (.finish driver outcome) trivial (.finish outcome exchanging)
    exact ⟨gone, (handedOutOnce_of_run (ended.trans onward)).not_held gone⟩

/-- One port is registered, and one request is under way on it without a persistent session. -/
def oneRequest : SerialSystem Unit :=
  (begin.register "/dev/ttyS0").beginCall () "/dev/ttyS0" false

theorem run_oneRequest : Run Step (fun _ _ => True) begin oneRequest :=
  ((Run.refl begin).perform _ trivial (.register begin "/dev/ttyS0")).perform
    _ trivial (.call "/dev/ttyS0" false rfl)

/-- The port of the request is lost with its answer. -/
theorem oneRequest_handed_out :
    (0 ∈ (oneRequest.endCall () 0 false (.ok [0x01])).gone ∧
      ¬(oneRequest.endCall () 0 false (.ok [0x01])).Held 0) :=
  ((ports_handed_out_once run_oneRequest).2.2.2.2 () 0 false (.ok [0x01]) rfl).2
    (fun stored => Bool.noConfusion stored.1) _ (.refl _)

/-- After a request that was answered, its port is neither in the registry nor with a driver, and
opening the path again fails. -/
theorem answered_port_lost :
    ∃ system : SerialSystem Unit, Run Step (fun _ _ => True) oneRequest system ∧
      Run Step (fun _ _ => True) begin oneRequest ∧
      oneRequest.exchanging () = some (0, false) ∧
      system.registered[0]? = some "/dev/ttyS0" ∧ system.exchanging () = none ∧
      ¬system.Held 0 ∧ ∀ port, (system.serial.openPort "/dev/ttyS0").1 ≠ .ok port := by
  refine ⟨oneRequest.endCall () 0 false (.ok [0x01]), ?_, run_oneRequest, rfl, rfl, rfl, ?_, ?_⟩
  · exact (Run.refl oneRequest).perform (.finish () (.ok [0x01])) trivial (.finish _ rfl)
  · rintro (⟨path, found⟩ | ⟨driver, session | ⟨persistent, exchanging⟩⟩)
    · cases found
    · cases session
    · cases exchanging
  · intro port opened
    cases opened

end SerialSystem
end Embassy
end Ferredge
