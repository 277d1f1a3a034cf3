import Ferredge.Fallible

/-!
# Headers and transport captures

Ordered header collections and the open, protocol-keyed metadata capture that travels with an
envelope.  Both are association lists: duplicates are admitted, and lookups read the first match.
-/

namespace Ferredge

open Fallible

/-- Comparison of two strings up to the case of ASCII letters. -/
def eqIgnoreAsciiCase (left right : String) : Bool :=
  left.toList.map Char.toLower == right.toList.map Char.toLower

/-- Single protocol header or property pair. -/
structure Header where
  key : String
  value : String
  deriving DecidableEq

/-- Ordered protocol header or property collection preserved across routing. -/
abbrev Headers := List Header

namespace Headers

/-- The first value whose key matches case-insensitively. -/
def get (headers : Headers) (name : String) : Option String :=
  headers.findSome? fun header =>
    if eqIgnoreAsciiCase header.key name then some header.value else none

/-- Appends one header pair. -/
def push (headers : Headers) (key value : String) : Headers :=
  headers ++ [⟨key, value⟩]

/-- Appends the other collection's pairs after this one's. -/
def merge (headers other : Headers) : Headers :=
  headers ++ other

end Headers

/-- Open protocol identifier shared by routing, capture, and fault metadata. -/
structure ProtocolId where
  text : String
  deriving DecidableEq

namespace ProtocolId

def mqtt : ProtocolId := ⟨"mqtt"⟩
def http : ProtocolId := ⟨"http"⟩
def modbus : ProtocolId := ⟨"modbus"⟩
def coap : ProtocolId := ⟨"coap"⟩
def zenoh : ProtocolId := ⟨"zenoh"⟩

end ProtocolId

/-- Octet strings. -/
abbrev Bytes := List UInt8

/-- Typed value stored in one open transport metadata entry. -/
inductive MetaValue where
  | bool (value : Bool)
  | u64 (value : UInt64)
  | i64 (value : Int64)
  | str (value : String)
  | bytes (value : Bytes)
  | u64List (values : List UInt64)
  | strList (values : List String)
  | pairs (values : List (String × String))
  deriving DecidableEq

/-- Open protocol-keyed transport metadata capture carried by envelopes. -/
structure TransportMeta where
  protocol : ProtocolId
  headers : Option Headers
  entries : List (String × MetaValue)
  deriving DecidableEq

namespace TransportMeta

/-- An empty capture for the given protocol. -/
def new (protocol : ProtocolId) : TransportMeta :=
  { protocol, headers := none, entries := [] }

/-- The value stored under the given key, if any. -/
def get (capture : TransportMeta) (key : String) : Option MetaValue :=
  (capture.entries.find? fun entry => entry.1 == key).map Prod.snd

/-- Entry list after storing a value: the first match is replaced, otherwise it is appended. -/
def setEntry (key : String) (value : MetaValue) :
    List (String × MetaValue) → List (String × MetaValue)
  | [] => [(key, value)]
  | entry :: rest =>
      if entry.1 == key then (entry.1, value) :: rest else entry :: setEntry key value rest

/-- Stores the value under the given key, replacing an existing entry. -/
def set (capture : TransportMeta) (key : String) (value : MetaValue) : TransportMeta :=
  { capture with entries := setEntry key value capture.entries }

/-- Removes every entry stored under the given key, returning the first value, if any. -/
def take (capture : TransportMeta) (key : String) : Option MetaValue × TransportMeta :=
  match capture.entries.findIdx? fun entry => entry.1 == key with
  | none => (none, capture)
  | some index =>
      (capture.entries[index]?.map Prod.snd,
        { capture with
          entries := (capture.entries.eraseIdx index).filter fun entry => entry.1 != key })

/-! ## Decoding into a view -/

variable {View ε : Type}

/-- Walks capture entries into a view, skipping every key that was already seen. -/
def walkEntries (decodeEntry : View → String → MetaValue → Except ε View) (seen : List String)
    (view : View) : List (String × MetaValue) → Except ε View
  | [] => .ok view
  | (key, value) :: rest =>
      if key ∈ seen then walkEntries decodeEntry seen view rest
      else do
        let view ← decodeEntry view key value
        walkEntries decodeEntry (key :: seen) view rest

variable {decodeEntry : View → String → MetaValue → Except ε View}

/-- An update of the view that commutes with the decoding of single entries commutes with the
whole walk. -/
theorem walkEntries_update {update : View → View}
    (commutes : ∀ view key value,
      decodeEntry (update view) key value = (decodeEntry view key value).map update)
    (entries : List (String × MetaValue)) (seen : List String) (view : View) :
    walkEntries decodeEntry seen (update view) entries =
      (walkEntries decodeEntry seen view entries).map update := by
  induction entries generalizing seen view with
  | nil => rfl
  | cons entry rest ih =>
      obtain ⟨key, value⟩ := entry
      simp only [walkEntries]
      split
      · exact ih seen view
      · rw [commutes]
        cases decodeEntry view key value with
        | error error => rfl
        | ok decoded => exact ih (key :: seen) decoded

/-- A decoder that passes headers on returns the headers of its capture. -/
theorem headers_of_decode {decode : TransportMeta → Except ε View}
    {withHeaders : View → Option Headers → View} {headersOf : View → Option Headers}
    (carries : ∀ view headers, headersOf (withHeaders view headers) = headers)
    (passes : ∀ (capture : TransportMeta) headers, decode { capture with headers } =
      (decode capture).map fun view => withHeaders view headers)
    {capture : TransportMeta} {view : View} (decoded : decode capture = .ok view) :
    headersOf view = capture.headers := by
  have unchanged := passes capture capture.headers
  rw [show ({ capture with headers := capture.headers } : TransportMeta) = capture from rfl,
    decoded] at unchanged
  have view_eq : view = withHeaders view capture.headers := Except.ok.inj unchanged
  rw [view_eq]
  exact carries _ _

/-- The walk raises only errors of single entries. -/
theorem walkEntries_errors {allowed : ε → Prop}
    (errors : ∀ view key value, ErrorsSatisfy allowed (decodeEntry view key value))
    (entries : List (String × MetaValue)) (seen : List String) (view : View) :
    ErrorsSatisfy allowed (walkEntries decodeEntry seen view entries) := by
  induction entries generalizing seen view with
  | nil => exact errorsSatisfy_ok view
  | cons entry rest ih =>
      obtain ⟨key, value⟩ := entry
      simp only [walkEntries]
      split
      · exact ih seen view
      · exact (errors view key value).bind fun next _ => ih (key :: seen) next

end TransportMeta
end Ferredge
