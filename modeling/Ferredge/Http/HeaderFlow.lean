import Ferredge.Overriding
import Ferredge.Http.Request

/-!
# Header flow

The encoder merges the planned headers into the defaults of the resource one by one.  A header takes
the place of the first one of the same name, so that it may override one planned before it.
-/

namespace Ferredge

open Overriding

namespace Http

/-- The name of a header up to the case of its letters. -/
def headerName (header : String × String) : List Char := header.1.toList.map Char.toLower

/-- The header that an explicit content type stands for. -/
def contentTypeHeader (contentType : String) : String × String := ("Content-Type", contentType)

def contentTypeName : List Char := headerName (contentTypeHeader "")

/-- The planned headers, less those that an explicit content type replaces. -/
def keptHeaders (planned : HttpNativePlan) : List (String × String) :=
  planned.headers.filter fun header =>
    !(planned.contentType.isSome && decide (headerName header = contentTypeName))

/-- The name is that of a planned header that is kept. -/
def isKeptName (planned : HttpNativePlan) (name : List Char) : Bool :=
  decide (name ∈ (keptHeaders planned).map headerName)

/-- The name is that of an explicit content type. -/
def isContentTypeName (planned : HttpNativePlan) (name : List Char) : Bool :=
  planned.contentType.isSome && decide (name = contentTypeName)

/-- The headers of a request are those of the plan in their order, with the defaults of the resource
that neither the plan nor an explicit content type overrides. -/
structure HeadersPreserved (defaults : List (String × String)) (planned : HttpNativePlan)
    (headers : List (String × String)) : Prop where
  keepsPlanned : (headers.filter fun header => isKeptName planned (headerName header)) =
    keptHeaders planned
  replacesContentType : ∀ contentType, planned.contentType = some contentType →
    under headerName contentTypeName headers = [contentTypeHeader contentType]
  keepsDefaults : (headers.filter fun header =>
      !(isKeptName planned (headerName header) || isContentTypeName planned (headerName header))) =
    defaults.filter fun header =>
      !(isKeptName planned (headerName header) || isContentTypeName planned (headerName header))

/-- The defaults that a planned header overrides. -/
def overridden (defaults : List (String × String)) (planned : HttpNativePlan) :
    List (String × String) :=
  defaults.filter fun header => isKeptName planned (headerName header)

/-- Merging loses no planned header and leaves no default that is overridden. -/
structure MergesCleanly (defaults : List (String × String)) (planned : HttpNativePlan) : Prop where
  /-- The planned headers first follow the defaults that they override, one by one, and the others
  name no default and no name twice. -/
  order : ∃ others,
    (keptHeaders planned).map headerName = (overridden defaults planned).map headerName ++ others ∧
      others.Nodup ∧ ∀ name ∈ others, name ∉ (overridden defaults planned).map headerName
  /-- The planned headers of one name are what merging makes of the defaults of that name: the last
  of them in the place of the first default. -/
  repeated : ∀ name ∈ (overridden defaults planned).map headerName,
    under headerName name (keptHeaders planned) =
      (under headerName name (keptHeaders planned)).getLast?.toList ++
        (under headerName name (overridden defaults planned)).tail
  contentType : planned.contentType.isSome →
    (under headerName contentTypeName defaults).length ≤ 1

theorem mergeHeader_eq_override (key value : String) (headers : List (String × String)) :
    mergeHeader key value headers = override headerName (key, value) headers := by
  induction headers with
  | nil => rfl
  | cons header headers ih =>
      have same : eqIgnoreAsciiCase header.1 key = true ↔
          headerName header = headerName (key, value) := by
        simp [eqIgnoreAsciiCase, headerName]
      rw [mergeHeader, override, ih]
      simp only [same]

/-- The headers of an encoded request. -/
theorem headers_of_encode {device : HttpDevice} {planned : HttpNativePlan}
    {attributes : HttpResourceAttributes} {request : HttpRequest}
    (found : lookupResource device planned.resource = .ok attributes)
    (encoded : encode device planned = .ok request) :
    request.headers = overrideAll headerName (attributes.headers.getD [])
      (planned.headers ++ (planned.contentType.map contentTypeHeader).toList) := by
  rw [encode, found] at encoded
  obtain ⟨resource, known, rest⟩ := Fallible.bind_eq_ok.mp encoded
  obtain rfl := Except.ok.inj known
  obtain ⟨body, -, built⟩ := Fallible.bind_eq_ok.mp rest
  obtain rfl := Except.ok.inj built
  rw [overrideAll, List.foldl_append]
  cases planned.contentType with
  | none =>
      simp only [mergeHeader_eq_override]
      rfl
  | some contentType =>
      simp only [mergeHeader_eq_override]
      rfl

/-- A header that is kept is not called as an explicit content type. -/
theorem not_isContentTypeName_of_kept {planned : HttpNativePlan} {name : List Char}
    (kept : isKeptName planned name = true) : isContentTypeName planned name = false := by
  obtain ⟨header, listed, rfl⟩ := List.mem_map.mp (of_decide_eq_true kept)
  exact (Bool.not_eq_true' _).mp (List.mem_filter.mp listed).2

/-- The headers that are merged into the defaults. -/
theorem filter_added (planned : HttpNativePlan) (keeps : List Char → Bool) :
    ((planned.headers ++ (planned.contentType.map contentTypeHeader).toList).filter
        fun header => keeps (headerName header)) =
      (planned.headers.filter fun header => keeps (headerName header)) ++
        (planned.contentType.map contentTypeHeader).toList.filter
          fun _ => keeps contentTypeName := by
  rw [List.filter_append]
  cases planned.contentType <;> rfl

/-- The added headers under a name that is kept are the kept ones. -/
theorem filter_added_isKeptName (planned : HttpNativePlan) :
    ((planned.headers ++ (planned.contentType.map contentTypeHeader).toList).filter
        fun header => isKeptName planned (headerName header)) = keptHeaders planned := by
  have kept : (planned.headers.filter fun header => isKeptName planned (headerName header)) =
      keptHeaders planned := by
    refine List.filter_congr fun header listed => ?_
    refine Bool.eq_iff_iff.mpr ⟨fun named => ?_, fun keep => ?_⟩
    · exact (Bool.not_eq_true' _).mpr (not_isContentTypeName_of_kept named)
    · exact decide_eq_true (List.mem_map_of_mem (List.mem_filter.mpr ⟨listed, keep⟩))
  rw [filter_added, kept]
  cases explicit : planned.contentType with
  | none => exact List.append_nil _
  | some contentType =>
      have other : isKeptName planned contentTypeName = false := by
        by_contra named
        have := not_isContentTypeName_of_kept (Bool.not_eq_false _ ▸ named)
        simp [isContentTypeName, explicit] at this
      simp [other]

/-- Every added header is kept or is the explicit content type. -/
theorem filter_added_neither (planned : HttpNativePlan) :
    ((planned.headers ++ (planned.contentType.map contentTypeHeader).toList).filter fun header =>
        !(isKeptName planned (headerName header) ||
          isContentTypeName planned (headerName header))) =
      [] := by
  rw [filter_added planned
    fun name => !(isKeptName planned name || isContentTypeName planned name)]
  have listed : (planned.headers.filter fun header => !(isKeptName planned (headerName header) ||
      isContentTypeName planned (headerName header))) = [] := by
    rw [List.filter_eq_nil_iff]
    intro header member neither
    rw [Bool.not_eq_true', Bool.or_eq_false_iff] at neither
    refine of_decide_eq_false neither.1 (List.mem_map_of_mem (List.mem_filter.mpr ⟨member, ?_⟩))
    rw [Bool.not_eq_true']
    exact neither.2
  rw [listed, List.nil_append]
  cases explicit : planned.contentType with
  | none => rfl
  | some contentType => simp [isContentTypeName, explicit]

/-- An explicit content type is left alone exactly when it overrides one default at most. -/
theorem under_contentTypeName_iff {planned : HttpNativePlan} {contentType : String}
    (explicit : planned.contentType = some contentType) (defaults : List (String × String)) :
    under headerName contentTypeName (overrideAll headerName defaults
        (planned.headers ++ (planned.contentType.map contentTypeHeader).toList)) =
      [contentTypeHeader contentType] ↔ (under headerName contentTypeName defaults).length ≤ 1 := by
  have added : under headerName contentTypeName
      (planned.headers ++ (planned.contentType.map contentTypeHeader).toList) =
        under headerName contentTypeName planned.headers ++ [contentTypeHeader contentType] := by
    rw [under, filter_added planned fun name => decide (name = contentTypeName), explicit]
    simp [under]
  have listed : contentTypeName ∈
      (planned.headers ++ (planned.contentType.map contentTypeHeader).toList).map headerName := by
    by_contra absent
    rw [← under_eq_nil, added] at absent
    exact List.append_ne_nil_of_right_ne_nil _ (List.cons_ne_nil _ _) absent
  have selected : under headerName contentTypeName (overrideAll headerName defaults
      (planned.headers ++ (planned.contentType.map contentTypeHeader).toList)) =
        contentTypeHeader contentType :: (under headerName contentTypeName defaults).tail := by
    rw [under_overrideAll listed, added, List.getLast?_concat]
    rfl
  rw [selected, List.cons_eq_cons, and_iff_right rfl, ← List.length_eq_zero_iff, List.length_tail,
    Nat.sub_eq_zero_iff_le]

/-- Merging keeps the planned headers and the defaults they do not override exactly when it is
clean. -/
theorem headersPreserved_iff {device : HttpDevice} {planned : HttpNativePlan}
    {attributes : HttpResourceAttributes} {request : HttpRequest}
    (found : lookupResource device planned.resource = .ok attributes)
    (encoded : encode device planned = .ok request) :
    HeadersPreserved (attributes.headers.getD []) planned request.headers ↔
      MergesCleanly (attributes.headers.getD []) planned := by
  rw [headers_of_encode found encoded]
  generalize attributes.headers.getD [] = defaults
  have named : ∀ header ∈ overridden defaults planned,
      headerName header ∈ (keptHeaders planned).map headerName :=
    fun header member => of_decide_eq_true (List.mem_filter.mp member).2
  have merged : ((overrideAll headerName defaults (planned.headers ++
      (planned.contentType.map contentTypeHeader).toList)).filter
        fun header => isKeptName planned (headerName header)) =
          overrideAll headerName (overridden defaults planned) (keptHeaders planned) := by
    rw [filter_overrideAll (isKeptName planned), filter_added_isKeptName]
    rfl
  constructor
  · rintro ⟨keepsPlanned, replacesContentType, -⟩
    obtain ⟨order, repeated⟩ := (overrideAll_eq_self_iff named).mp (merged.symm.trans keepsPlanned)
    refine ⟨order, repeated, fun explicit => ?_⟩
    obtain ⟨contentType, explicit⟩ := Option.isSome_iff_exists.mp explicit
    exact (under_contentTypeName_iff explicit defaults).mp
      (replacesContentType contentType explicit)
  · rintro ⟨order, repeated, few⟩
    refine ⟨merged.trans ((overrideAll_eq_self_iff named).mpr ⟨order, repeated⟩), ?_, ?_⟩
    · intro contentType explicit
      exact (under_contentTypeName_iff explicit defaults).mpr
        (few (Option.isSome_iff_exists.mpr ⟨contentType, explicit⟩))
    · rw [filter_overrideAll
          fun name => !(isKeptName planned name || isContentTypeName planned name),
        filter_added_neither]
      rfl

/-- A resource with one default header. -/
def statusAttributes : HttpResourceAttributes :=
  { slug := "/status", method := "GET", headers := some [("Accept", "*/*")] }

def statusDevice : HttpDevice :=
  { id := ⟨"plug"⟩
    endpoint := ⟨"http://plug"⟩
    resources := fun _ => some ⟨statusAttributes⟩ }

/-- A plan for the resource with the given headers. -/
def statusPlan (headers : List (String × String)) : HttpNativePlan :=
  { resource := "status"
    action := .read
    payload := none
    method := none
    path := none
    contentType := none
    headers }

/-- A request for the resource with the given headers. -/
def statusRequest (headers : List (String × String)) : HttpRequest :=
  { method := "GET", path := "/status", body := none, headers }

/-- A header that overrides the default goes first, and one that is new comes after it. -/
theorem overriddenAccept_preserved :
    HeadersPreserved [("Accept", "*/*")] (statusPlan [("accept", "text/plain"), ("Via", "edge")])
      [("accept", "text/plain"), ("Via", "edge")] := by
  have found : lookupResource statusDevice "status" = .ok statusAttributes := rfl
  have encoded : encode statusDevice (statusPlan [("accept", "text/plain"), ("Via", "edge")]) =
      .ok (statusRequest [("accept", "text/plain"), ("Via", "edge")]) := rfl
  refine (headersPreserved_iff found encoded).mpr
    ⟨⟨[headerName ("Via", "edge")], ?_, ?_, ?_⟩, ?_, nofun⟩
  all_goals decide

/-- Of two headers of one name the encoder sends the last alone. -/
theorem repeatedVia_lost :
    encode statusDevice (statusPlan [("Via", "edge"), ("Via", "core")]) =
        .ok (statusRequest [("Accept", "*/*"), ("Via", "core")]) ∧
      ¬HeadersPreserved [("Accept", "*/*")] (statusPlan [("Via", "edge"), ("Via", "core")])
        [("Accept", "*/*"), ("Via", "core")] := by
  refine ⟨rfl, fun preserved => ?_⟩
  have kept := preserved.keepsPlanned
  revert kept
  decide

end Http
end Ferredge
