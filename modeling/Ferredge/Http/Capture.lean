import Ferredge.Core.Documented
import Ferredge.Http.Meta

/-!
# Captures of the HTTP view

The documented keys of an HTTP capture, and the capture that a view is stored in.
-/

namespace Ferredge

open Fallible

namespace HttpMeta

/-- Every documented key, and the field it stands for. -/
def documented : List (Documented HttpMeta) :=
  [ .text keyMethod HttpMeta.method,
    .text keyPath HttpMeta.path,
    .number 16 keyStatusCode fun view => view.statusCode.map UInt16.toUInt64,
    .text keyContentType HttpMeta.contentType ]

variable {key : String} {value : MetaValue}

theorem expectStr_eq_ok {text : String} : expectStr key value = .ok text ↔ value = .str text := by
  cases value <;> simp [expectStr]

/-- Reads a status code. -/
def readStatusCode (value : MetaValue) : Except HttpCommandConversionError UInt64 := do
  let code ← expectU64 keyStatusCode value
  if code.toNat < 2 ^ 16 then .ok code else .error (.invalidExtensionValue keyStatusCode code)

theorem readStatusCode_eq_ok {code : UInt64} :
    readStatusCode value = .ok code ↔ value = .u64 code ∧ code.toNat < 2 ^ 16 := by
  cases value with
  | u64 number =>
      change (if number.toNat < 2 ^ 16 then _ else _) = Except.ok code ↔ _
      split
      · rename_i fits
        simp only [Except.ok.injEq, MetaValue.u64.injEq]
        exact ⟨fun same => ⟨same, same ▸ fits⟩, And.left⟩
      · rename_i wide
        simp only [reduceCtorEq, MetaValue.u64.injEq, false_iff, not_and]
        exact fun same => same ▸ wide
  | _ => simp [readStatusCode, expectU64, bind, Except.bind]

/-- The readers of the documented keys. -/
def readers : List (Reader HttpMeta HttpCommandConversionError) :=
  [ { key := keyMethod
      read := fun value => (expectStr keyMethod value).map fun text view =>
        { view with method := some text } },
    { key := keyPath
      read := fun value => (expectStr keyPath value).map fun text view =>
        { view with path := some text } },
    { key := keyStatusCode
      read := fun value => (readStatusCode value).map fun code view =>
        { view with statusCode := some code.toUInt16 } },
    { key := keyContentType
      read := fun value => (expectStr keyContentType value).map fun text view =>
        { view with contentType := some text } } ]

theorem readers_follow : List.Forall₂ Reader.Follows readers documented := by
  refine .cons (Reader.text_follows (fun _ _ => expectStr_eq_ok) fun _ _ => rfl) ?_
  refine .cons (Reader.text_follows (fun _ _ => expectStr_eq_ok) fun _ _ => rfl) ?_
  refine .cons (Reader.number_follows (fun _ _ => readStatusCode_eq_ok)
    fun _ _ fits => congrArg some (widened16 fits)) ?_
  exact .cons (Reader.text_follows (fun _ _ => expectStr_eq_ok) fun _ _ => rfl) .nil

theorem decodeEntry_eq_decodeWith : decodeEntry = decodeWith readers := by
  funext view key value
  unfold decodeEntry
  by_cases method : key = keyMethod
  · subst method
    rw [if_pos rfl, decodeWith, show readers.find? _ = some readers[0] from rfl]
    cases value <;> rfl
  · rw [if_neg method]
    by_cases path : key = keyPath
    · subst path
      rw [if_pos rfl, decodeWith, show readers.find? _ = some readers[1] from rfl]
      cases value <;> rfl
    · rw [if_neg path]
      by_cases statusCode : key = keyStatusCode
      · subst statusCode
        rw [if_pos rfl, decodeWith, show readers.find? _ = some readers[2] from rfl]
        cases value with
        | u64 code =>
            change (if code.toNat < 2 ^ 16 then _ else _) =
              Except.map _ (Except.map _ (if code.toNat < 2 ^ 16 then _ else _))
            split <;> rfl
        | _ => rfl
      · rw [if_neg statusCode]
        by_cases contentType : key = keyContentType
        · subst contentType
          rw [if_pos rfl, decodeWith, show readers.find? _ = some readers[3] from rfl]
          cases value <;> rfl
        · rw [if_neg contentType, decodeWith]
          simp [readers, Ne.symm method, Ne.symm path, Ne.symm statusCode, Ne.symm contentType]
          rfl

theorem keys_distinct : (documented.map Documented.key).Nodup := by
  decide +kernel

/-- A reader leaves the headers and what the view says of the other keys alone. -/
theorem readers_keep (reader : Reader HttpMeta HttpCommandConversionError)
    (known : reader ∈ readers) (value : MetaValue) (update : HttpMeta → HttpMeta)
    (decoded : reader.read value = .ok update) :
    (∀ view, (update view).headers = view.headers) ∧
      ∀ row ∈ documented, reader.key ≠ row.key → ∀ view first,
        (row.holds first (update view) ↔ row.holds first view) := by
  simp only [readers, List.mem_cons, List.not_mem_nil, or_false] at known
  simp only [documented, List.forall_mem_cons]
  obtain rfl | rfl | rfl | rfl := known <;> obtain ⟨item, -, rfl⟩ := map_eq_ok.mp decoded
  · exact ⟨fun _ => rfl, fun apart => absurd rfl apart, fun _ _ _ => Iff.rfl, fun _ _ _ => Iff.rfl,
      fun _ _ _ => Iff.rfl, List.forall_mem_nil _⟩
  · exact ⟨fun _ => rfl, fun _ _ _ => Iff.rfl, fun apart => absurd rfl apart, fun _ _ _ => Iff.rfl,
      fun _ _ _ => Iff.rfl, List.forall_mem_nil _⟩
  · exact ⟨fun _ => rfl, fun _ _ _ => Iff.rfl, fun _ _ _ => Iff.rfl, fun apart => absurd rfl apart,
      fun _ _ _ => Iff.rfl, List.forall_mem_nil _⟩
  · exact ⟨fun _ => rfl, fun _ _ _ => Iff.rfl, fun _ _ _ => Iff.rfl, fun _ _ _ => Iff.rfl,
      fun apart => absurd rfl apart, List.forall_mem_nil _⟩

/-- The headers and what is said of every key determine a view. -/
theorem eq_of_agree (view other : HttpMeta) (headers : view.headers = other.headers)
    (rows : ∀ row ∈ documented, row.Agree view other) : view = other := by
  simp only [documented, List.forall_mem_cons] at rows
  obtain ⟨method, path, statusCode, contentType, -⟩ := rows
  have injective : Function.Injective UInt16.toUInt64 := fun left right same => by
    simpa using congrArg UInt64.toUInt16 same
  have method := Documented.text_agree method
  have path := Documented.text_agree path
  have statusCode := Documented.number_agree injective statusCode
  have contentType := Documented.text_agree contentType
  cases view
  cases other
  simp_all

/-- What a view says of a key is a value that the key admits. -/
theorem admits_of_holds (value : MetaValue) (view : HttpMeta) :
    ∀ row ∈ documented, row.holds (some value) view → row.admits value := by
  simp only [documented, List.forall_mem_cons]
  exact ⟨Documented.text_admits, Documented.text_admits,
    Documented.number_admits fun code => by simpa using code.toNat_lt, Documented.text_admits,
    List.forall_mem_nil _⟩

theorem decodesFirst :
    TransportMeta.DecodesFirst .http documented HttpMeta.headers tryFromTransportMeta := by
  have reads := readsEntries_of_readers readers_follow keys_distinct readers_keep eq_of_agree
    admits_of_holds
  rw [← decodeEntry_eq_decodeWith] at reads
  refine TransportMeta.decodesFirst_of_walk reads
    (fun headers => { default with headers }) .foreignExtensions (fun _ => rfl) ?_ fun _ => rfl
  intro headers
  simp only [documented, List.forall_mem_cons]
  exact ⟨rfl, rfl, rfl, rfl, List.forall_mem_nil _⟩

/-! ## Whole views -/

/-- Stores the view in a capture, one present field after the other. -/
def intoTransportMeta (view : HttpMeta) : TransportMeta :=
  ((TransportMeta.new .http).store
    [ (keyMethod, view.method.map .str),
      (keyPath, view.path.map .str),
      (keyStatusCode, view.statusCode.map fun code => .u64 code.toUInt64),
      (keyContentType, view.contentType.map .str) ]).withHeaders view.headers

def fromTransportMeta (capture : TransportMeta) : Option HttpMeta :=
  (tryFromTransportMeta capture).toOption

def view (capture : TransportMeta) : Option HttpMeta :=
  (tryFromTransportMeta capture.asBorrowed).toOption

/-- Decoding the capture of a view gives the view. -/
theorem tryFromTransportMeta_intoTransportMeta (view : HttpMeta) :
    tryFromTransportMeta view.intoTransportMeta = .ok view := by
  rw [decodesFirst.reads]
  refine ⟨TransportMeta.protocol_store _ _, rfl, ?_⟩
  simp only [documented, List.forall_mem_cons]
  refine ⟨?_, ?_, ?_, ?_, List.forall_mem_nil _⟩ <;>
    simp [Documented.text, Documented.number, intoTransportMeta, TransportMeta.get_withHeaders,
      TransportMeta.get_store, TransportMeta.get_new, keyMethod, keyPath, keyStatusCode,
      keyContentType, Function.comp_def]

end HttpMeta
end Ferredge
