import Mathlib.Data.List.Infix
import Ferredge.HttpSyntax
import Ferredge.Utf8
import Ferredge.Http.Request

/-!
# HTTP requests on the wire

A request is written as text put together from its parts.  The parts are not checked, so the text
is the one request it is meant to be exactly when every part fits the syntax and no header names a
field that the sender adds itself.
-/

namespace Ferredge

open HttpSyntax

/-- Errors of the HTTP transport.  A network error is its text. -/
inductive HttpTransportError where
  | missingAuthority
  | malformedIpv6Authority
  | connect (error : String)
  | sendRequest (error : String)
  | sendRequestBody (error : String)
  | flushRequest (error : String)
  | readResponse (error : String)
  | invalidResponse (reason : String)
  deriving DecidableEq

/-- Where a request goes, and the host it names. -/
structure ParsedEndpoint where
  connectTarget : String
  hostHeader : String
  deriving DecidableEq

namespace Http

/-- Number of colons in a text. -/
def colons (text : String) : Nat := text.toList.count ':'

def isBracketed (text : String) : Bool := text.toList.head? == some '['

def bracketIpv6Host (host : String) : String :=
  if isBracketed host || decide (colons host ≤ 1) then host else "[" ++ host ++ "]"

def formatHostPort (host : String) (port : Nat) : String :=
  bracketIpv6Host host ++ ":" ++ toString port

def normalizeHostPort (authority : String) (defaultPort : Nat) : String :=
  if isBracketed authority then
    if [']', ':'] <:+: authority.toList then authority
    else formatHostPort authority defaultPort
  else
    match colons authority with
    | 0 => formatHostPort authority defaultPort
    | 1 => authority
    | _ => formatHostPort authority defaultPort

/-- Drops a prefix of a text, if it has it. -/
def stripPrefix (lead text : String) : Option String :=
  if lead.toList.isPrefixOf text.toList then
    some (String.ofList (text.toList.drop lead.toList.length))
  else none

/-- The part of an endpoint after its scheme, and the port its scheme implies. -/
def splitScheme (endpoint : String) : String × Nat :=
  match stripPrefix "http://" endpoint, stripPrefix "https://" endpoint with
  | some rest, _ => (rest, 80)
  | none, some rest => (rest, 443)
  | none, none => (endpoint, 80)

/-- What follows the closing bracket of an IPv6 literal, if there is one. -/
def bracketSuffix (authority : String) : Option (List Char) :=
  match authority.toList.dropWhile fun char => char != ']' with
  | [] => none
  | _ :: suffix => some suffix

def parseEndpoint (endpoint : String) : Except HttpTransportError ParsedEndpoint :=
  let (authorityAndPath, defaultPort) := splitScheme endpoint
  let authority := String.ofList (authorityAndPath.toList.takeWhile fun char => char != '/')
  if authority.toList.isEmpty then .error .missingAuthority
  else if isBracketed authority then
    match bracketSuffix authority with
    | none => .error .malformedIpv6Authority
    | some [] => .ok
        { connectTarget := formatHostPort authority defaultPort, hostHeader := authority }
    | some (':' :: _) => .ok { connectTarget := authority, hostHeader := authority }
    | some _ => .error .malformedIpv6Authority
  else if 1 < colons authority then
    .ok
      { connectTarget := formatHostPort authority defaultPort
        hostHeader := bracketIpv6Host authority }
  else if 0 < colons authority then
    .ok { connectTarget := authority, hostHeader := authority }
  else
    .ok
      { connectTarget := normalizeHostPort authority defaultPort, hostHeader := authority }

/-- The text of one header line. -/
def headerLine (header : String × String) : String := header.1 ++ ": " ++ header.2 ++ "\r\n"

/-- The length header of a request that has a body. -/
def contentLengthLine : Option Bytes → String
  | some body => "Content-Length: " ++ toString body.length ++ "\r\n"
  | none => ""

/-- The text a request is sent as, up to its body. -/
def wireRequest (hostHeader : String) (request : HttpRequest) : String :=
  let start :=
    request.method ++ " " ++ request.path ++ " HTTP/1.1\r\nHost: " ++ hostHeader ++ "\r\n"
  let headed := request.headers.foldl (fun text header => text ++ headerLine header) start
  headed ++ contentLengthLine request.body ++ "Connection: close\r\n\r\n"

/-- The bytes of a request that is sent in full, unless its endpoint is refused. -/
def sendRequest (endpoint : String) (request : HttpRequest) : Except HttpTransportError Bytes :=
  (parseEndpoint endpoint).map fun parsed =>
    Utf8.encode (wireRequest parsed.hostHeader request) ++ request.body.getD []

/-- A header as the bytes of its name and value. -/
def wireField (header : String × String) : Octets × Octets :=
  (Utf8.encode header.1, Utf8.encode header.2)

/-- The fields a request is meant to carry: its host, its headers, its length if it has a body,
and the closing of the connection. -/
def meantFields (hostHeader : String) (request : HttpRequest) : List (Octets × Octets) :=
  wireField ("Host", hostHeader) :: request.headers.map wireField ++
    (request.body.toList.map fun body =>
      wireField ("Content-Length", toString body.length)) ++ [wireField ("Connection", "close")]

/-- The one message a request is meant to be read as. -/
def meantMessage (hostHeader : String) (request : HttpRequest) : Message where
  method := Utf8.encode request.method
  target := Utf8.encode request.path
  fields := meantFields hostHeader request
  body := request.body.getD []

/-- Whatever is sent is read as exactly the meant message. -/
def SendsOneRequest (endpoint : String) (request : HttpRequest) : Prop :=
  ∀ bytes, sendRequest endpoint request = .ok bytes →
    ∃ parsed, parseEndpoint endpoint = .ok parsed ∧
      parse bytes = some (meantMessage parsed.hostHeader request)

/-- The parts of a request fit the syntax, and its headers stay clear of the framing fields. -/
structure Unambiguous (hostHeader : String) (request : HttpRequest) : Prop where
  method : isToken (Utf8.encode request.method) = true
  path : isTarget (Utf8.encode request.path) = true
  host : isValue (Utf8.encode hostHeader) = true
  headers : ∀ header ∈ request.headers,
    isToken (Utf8.encode header.1) = true ∧ isValue (Utf8.encode header.2) = true
  noHost : valuesOf hostName (request.headers.map wireField) = []
  noTransferEncoding : valuesOf transferEncodingName (request.headers.map wireField) = []
  /-- Without a body, one length of zero does no harm. -/
  lengths : valuesOf contentLengthName (request.headers.map wireField) = [] ∨
    request.body = none ∧ ∃ length,
      valuesOf contentLengthName (request.headers.map wireField) = [length] ∧
        decimal length = some 0

theorem encode_headerLine (header : String × String) :
    Utf8.encode (headerLine header) = renderField (wireField header) := by
  have colon : Utf8.encode ": " = [58, 32] := by decide
  have ending : Utf8.encode "\r\n" = [13, 10] := by decide
  unfold headerLine
  rw [Utf8.encode_append, Utf8.encode_append, Utf8.encode_append, colon, ending]
  simp [renderField, wireField]

theorem encode_headerLines (start : String) (headers : List (String × String)) :
    Utf8.encode (headers.foldl (fun text header => text ++ headerLine header) start) =
      Utf8.encode start ++ (headers.map wireField).flatMap renderField := by
  induction headers generalizing start with
  | nil => simp
  | cons header headers ih =>
      rw [List.foldl_cons, ih, Utf8.encode_append, encode_headerLine]
      simp

theorem encode_contentLengthLine (body : Option Bytes) :
    Utf8.encode (contentLengthLine body) =
      (body.toList.map fun body =>
        wireField ("Content-Length", toString body.length)).flatMap renderField := by
  cases body with
  | none => decide
  | some body =>
      have lead : Utf8.encode "Content-Length: " = Utf8.encode "Content-Length" ++ [58, 32] := by
        decide
      have ending : Utf8.encode "\r\n" = [13, 10] := by decide
      unfold contentLengthLine
      rw [Utf8.encode_append, Utf8.encode_append, lead, ending]
      simp [renderField, wireField]

theorem encode_wireRequest (hostHeader : String) (request : HttpRequest) :
    Utf8.encode (wireRequest hostHeader request) ++ request.body.getD [] =
      render (meantMessage hostHeader request) := by
  have space : Utf8.encode " " = [32] := by decide
  have suffix : Utf8.encode " HTTP/1.1\r\nHost: " =
      32 :: version ++ [13, 10] ++ Utf8.encode "Host" ++ [58, 32] := by decide +kernel
  have ending : Utf8.encode "\r\n" = [13, 10] := by decide
  have closing : Utf8.encode "Connection: close\r\n\r\n" =
      renderField (wireField ("Connection", "close")) ++ [13, 10] := by decide +kernel
  unfold wireRequest
  rw [Utf8.encode_append, Utf8.encode_append, encode_headerLines, encode_contentLengthLine,
    closing]
  simp only [Utf8.encode_append, space, suffix, ending]
  simp [render, meantMessage, meantFields, renderField, wireField]

/-! ## When the text is unambiguous -/

theorem isDigit_ofNat_of_isDigit {char : Char} (digit : char.isDigit = true) :
    isDigit (UInt8.ofNat char.toNat) = true ∧ (UInt8.ofNat char.toNat).toNat = char.toNat := by
  obtain ⟨low, high⟩ := Utf8.bounds_of_isDigit digit
  have same : (UInt8.ofNat char.toNat).toNat = char.toNat := by
    rw [UInt8.toNat_ofNat']
    omega
  refine ⟨?_, same⟩
  have first : (48 : UInt8).toNat = 48 := rfl
  have last : (57 : UInt8).toNat = 57 := rfl
  simp only [isDigit, decide_eq_true_eq, UInt8.le_iff_toNat_le, same]
  omega

theorem isDigit_of_mem_encode_toString (number : Nat) :
    ∀ byte ∈ Utf8.encode (toString number), isDigit byte = true := by
  rw [Utf8.encode_toString]
  intro byte member
  obtain ⟨char, listed, rfl⟩ := List.mem_map.mp member
  have digit := Nat.isDigit_of_mem_toDigits (by decide) (by decide) listed
  exact (isDigit_ofNat_of_isDigit digit).1

theorem foldl_digits {chars : List Char} (digits : ∀ char ∈ chars, char.isDigit = true)
    (start : Nat) :
    (chars.map fun char => UInt8.ofNat char.toNat).foldl
        (fun value byte => value * 10 + (byte.toNat - 48)) start =
      Nat.ofDigitChars 10 chars start := by
  induction chars generalizing start with
  | nil => simp
  | cons char chars ih =>
      have same := (isDigit_ofNat_of_isDigit (digits char List.mem_cons_self)).2
      have zero : '0'.toNat = 48 := rfl
      rw [List.map_cons, List.foldl_cons, Nat.ofDigitChars_cons, same, Nat.mul_comm, zero]
      exact ih (fun other member => digits other (List.mem_cons_of_mem char member)) _

/-- The length that is written is read. -/
theorem decimal_encode_toString (number : Nat) :
    decimal (Utf8.encode (toString number)) = some number := by
  have nonempty : Utf8.encode (toString number) ≠ [] := by
    rw [Utf8.encode_toString]
    simp [Nat.toDigits_ne_nil]
  have digits : (Utf8.encode (toString number)).all isDigit = true :=
    List.all_eq_true.mpr (isDigit_of_mem_encode_toString number)
  have value : (Utf8.encode (toString number)).foldl
      (fun value byte => value * 10 + (byte.toNat - 48)) 0 = number := by
    rw [Utf8.encode_toString, foldl_digits, Nat.ofDigitChars_ten_toDigits]
    exact fun char listed => Nat.isDigit_of_mem_toDigits (by decide) (by decide) listed
  rw [decimal, if_pos ⟨nonempty, digits⟩, value]

/-- A header name, whatever its case. -/
def isCalled (key : String) (name : Octets) : Bool :=
  (Utf8.encode key).map lower == name.map lower

theorem valuesOf_wireField (name : Octets) (key value : String) :
    valuesOf name [wireField (key, value)] =
      if isCalled key name then [Utf8.encode value] else [] := by
  rw [valuesOf_cons]
  rfl

theorem valuesOf_meantFields (name : Octets) (hostHeader : String) (request : HttpRequest) :
    valuesOf name (meantFields hostHeader request) =
      (if isCalled "Host" name then [Utf8.encode hostHeader] else []) ++
        valuesOf name (request.headers.map wireField) ++
        (if isCalled "Content-Length" name then
          request.body.toList.map fun body => Utf8.encode (toString body.length) else []) ++
        (if isCalled "Connection" name then [Utf8.encode "close"] else []) := by
  have lengths : valuesOf name (request.body.toList.map fun body =>
      wireField ("Content-Length", toString body.length)) =
      if isCalled "Content-Length" name then
        request.body.toList.map fun body => Utf8.encode (toString body.length) else [] := by
    cases request.body with
    | none =>
        rw [Option.toList_none, List.map_nil, List.map_nil, ite_self]
        rfl
    | some body => exact valuesOf_wireField name "Content-Length" (toString body.length)
  rw [meantFields, ← List.singleton_append, valuesOf_append, valuesOf_append, valuesOf_append,
    valuesOf_wireField, valuesOf_wireField, lengths]

/-- Of the fields the sender adds, one is the host, none is a coding, and one may be a length. -/
theorem framingValues_meantFields (hostHeader : String) (request : HttpRequest) :
    valuesOf hostName (meantFields hostHeader request) =
        Utf8.encode hostHeader :: valuesOf hostName (request.headers.map wireField) ∧
      valuesOf transferEncodingName (meantFields hostHeader request) =
        valuesOf transferEncodingName (request.headers.map wireField) ∧
      valuesOf contentLengthName (meantFields hostHeader request) =
        valuesOf contentLengthName (request.headers.map wireField) ++
          request.body.toList.map fun body => Utf8.encode (toString body.length) := by
  have host : isCalled "Host" hostName = true ∧ isCalled "Content-Length" hostName = false ∧
      isCalled "Connection" hostName = false := by decide +kernel
  have coding : isCalled "Host" transferEncodingName = false ∧
      isCalled "Content-Length" transferEncodingName = false ∧
      isCalled "Connection" transferEncodingName = false := by decide +kernel
  have length : isCalled "Host" contentLengthName = false ∧
      isCalled "Content-Length" contentLengthName = true ∧
      isCalled "Connection" contentLengthName = false := by decide +kernel
  rw [valuesOf_meantFields, valuesOf_meantFields, valuesOf_meantFields]
  refine ⟨?_, ?_, ?_⟩
  · simp [host]
  · simp [coding]
  · simp [length]

/-- The meant fields frame the body when no header interferes. -/
theorem isFramed_meantFields_iff (hostHeader : String) (request : HttpRequest) :
    isFramed (meantFields hostHeader request) (request.body.getD []) = true ↔
      valuesOf hostName (request.headers.map wireField) = [] ∧
        valuesOf transferEncodingName (request.headers.map wireField) = [] ∧
        (valuesOf contentLengthName (request.headers.map wireField) = [] ∨
          request.body = none ∧ ∃ length,
            valuesOf contentLengthName (request.headers.map wireField) = [length] ∧
              decimal length = some 0) := by
  obtain ⟨host, coding, length⟩ := framingValues_meantFields hostHeader request
  rw [isFramed, host, coding, length]
  simp only [Bool.and_eq_true, beq_iff_eq, List.length_cons, Nat.add_eq_right,
    List.length_eq_zero_iff, List.isEmpty_iff, and_assoc]
  refine and_congr_right fun _ => and_congr_right fun _ => ?_
  generalize valuesOf contentLengthName (request.headers.map wireField) = lengths
  cases request.body with
  | none =>
      rcases lengths with _ | ⟨length, _ | ⟨other, more⟩⟩
      · simp
      · simp
      · simp
  | some body =>
      rcases lengths with _ | ⟨length, more⟩
      · have counted := decimal_encode_toString body.length
        simpa using counted
      · cases more <;> simp

/-- The fields the sender adds fit the syntax if the host does. -/
theorem fields_formed_iff (hostHeader : String) (request : HttpRequest) :
    (∀ field ∈ meantFields hostHeader request,
        isToken field.1 = true ∧ isValue field.2 = true) ↔
      isValue (Utf8.encode hostHeader) = true ∧ ∀ header ∈ request.headers,
        isToken (Utf8.encode header.1) = true ∧ isValue (Utf8.encode header.2) = true := by
  have host : isToken (Utf8.encode "Host") = true := by decide +kernel
  have length : isToken (Utf8.encode "Content-Length") = true := by decide +kernel
  have closing : isToken (Utf8.encode "Connection") = true ∧
      isValue (Utf8.encode "close") = true := by decide +kernel
  have counted (number : Nat) : isValue (Utf8.encode (toString number)) = true :=
    isValue_of_digits (isDigit_of_mem_encode_toString number)
  constructor
  · intro formed
    refine ⟨(formed (wireField ("Host", hostHeader)) (by simp [meantFields])).2, ?_⟩
    intro header member
    refine formed (wireField header) ?_
    simp only [meantFields, List.mem_append, List.mem_cons, List.mem_map]
    exact .inl (.inl (.inr ⟨header, member, rfl⟩))
  · rintro ⟨hostValue, formed⟩ field member
    simp only [meantFields, List.mem_append, List.mem_cons, List.mem_map, List.not_mem_nil,
      or_false, Option.mem_toList] at member
    rcases member with ((rfl | ⟨header, listed, rfl⟩) | ⟨body, -, rfl⟩) | rfl
    · exact ⟨host, hostValue⟩
    · exact formed header listed
    · exact ⟨length, counted body.length⟩
    · exact closing

theorem wellFormed_meantMessage_iff (hostHeader : String) (request : HttpRequest) :
    (meantMessage hostHeader request).WellFormed ↔ Unambiguous hostHeader request := by
  constructor
  · rintro ⟨method, target, fields, framed⟩
    obtain ⟨host, headers⟩ := (fields_formed_iff hostHeader request).mp fields
    obtain ⟨noHost, noCoding, lengths⟩ := (isFramed_meantFields_iff hostHeader request).mp framed
    exact ⟨method, target, host, headers, noHost, noCoding, lengths⟩
  · intro clear
    exact ⟨clear.method, clear.path,
      (fields_formed_iff hostHeader request).mpr ⟨clear.host, clear.headers⟩,
      (isFramed_meantFields_iff hostHeader request).mpr
        ⟨clear.noHost, clear.noTransferEncoding, clear.lengths⟩⟩

/-- A request is sent as itself exactly when its parts leave no ambiguity. -/
theorem sendsOneRequest_iff (endpoint : String) (request : HttpRequest) :
    SendsOneRequest endpoint request ↔
      ∀ parsed, parseEndpoint endpoint = .ok parsed → Unambiguous parsed.hostHeader request := by
  have sent {parsed : ParsedEndpoint} (accepted : parseEndpoint endpoint = .ok parsed) :
      sendRequest endpoint request =
        .ok (render (meantMessage parsed.hostHeader request)) := by
    rw [sendRequest, accepted]
    exact congrArg Except.ok (encode_wireRequest parsed.hostHeader request)
  constructor
  · intro single parsed accepted
    obtain ⟨same, found, read⟩ := single _ (sent accepted)
    obtain rfl : parsed = same := Except.ok.inj (accepted.symm.trans found)
    exact (wellFormed_meantMessage_iff _ request).mp (parse_render_iff.mp read)
  · intro clear bytes written
    obtain ⟨parsed, accepted, -⟩ := Fallible.map_eq_ok.mp written
    obtain rfl : render (meantMessage parsed.hostHeader request) = bytes :=
      Except.ok.inj ((sent accepted).symm.trans written)
    have formed := (wellFormed_meantMessage_iff _ request).mpr (clear parsed accepted)
    exact ⟨parsed, accepted, parse_render_iff.mpr formed⟩

/-- A device with one resource. -/
def meterDevice : HttpDevice :=
  { id := ⟨"meter"⟩
    endpoint := { url := "http://meter" }
    resources := fun _ =>
      some { resourceAttributes := { slug := "/level", method := "GET", headers := none } } }

/-- A read with a line break in a header value. -/
def notedRead : Command :=
  { id := ⟨"read-1"⟩
    sourceDeviceId := none
    targetDeviceId := ⟨"meter"⟩
    intent := .read ⟨"level"⟩
      { headers := [{ key := "X-Note", value := "low\r\nX-Role: admin" }]
        contentType := none
        method := none
        path := none
        extensions := none }
    correlation := none }

def notedRequest : HttpRequest :=
  { method := "GET"
    path := "/level"
    body := none
    headers := [("X-Note", "low\r\nX-Role: admin")] }

/-- The header of the request is read as two. -/
theorem notedRequest_split :
    nativeRequest meterDevice notedRead = .ok notedRequest ∧
      (sendRequest meterDevice.endpoint.url notedRequest).toOption.bind parse =
        some { meantMessage "meter" notedRequest with
          fields := [wireField ("Host", "meter"), wireField ("X-Note", "low"),
            wireField ("X-Role", "admin"), wireField ("Connection", "close")] } ∧
      ¬ SendsOneRequest meterDevice.endpoint.url notedRequest := by
  have accepted : parseEndpoint meterDevice.endpoint.url =
      .ok { connectTarget := "meter:80", hostHeader := "meter" } := by decide +kernel
  refine ⟨rfl, by decide +kernel, ?_⟩
  intro single
  have written : sendRequest meterDevice.endpoint.url notedRequest =
      .ok (render (meantMessage "meter" notedRequest)) := by
    rw [sendRequest, accepted]
    exact congrArg Except.ok (encode_wireRequest "meter" notedRequest)
  obtain ⟨parsed, found, read⟩ := single _ written
  have headers := (Message.WellFormed.of_parse read).fields
    (wireField ("X-Note", "low\r\nX-Role: admin"))
    (by simp [meantMessage, meantFields, notedRequest])
  have broken : isValue (Utf8.encode "low\r\nX-Role: admin") = false := by decide +kernel
  exact Bool.false_ne_true (broken.symm.trans headers.2)

end Http
end Ferredge
