import Ferredge.Http.Wire
import Ferredge.LossyText

/-!
# HTTP responses on the wire

A response is read up to its blank line as text and after it as bytes.  The announced length is only
compared with what follows the blank line, all of which is the body.
-/

namespace Ferredge

/-- A decoded HTTP response. -/
structure HttpResponse where
  statusCode : UInt16
  headers : List (String × String)
  body : Bytes
  deriving DecidableEq

namespace Http

/-- Unicode white space. -/
def isWhitespace (char : Char) : Bool :=
  decide (9 ≤ char.toNat ∧ char.toNat ≤ 13) || decide (0x2000 ≤ char.toNat ∧ char.toNat ≤ 0x200A) ||
    [0x20, 0x85, 0xA0, 0x1680, 0x2028, 0x2029, 0x202F, 0x205F, 0x3000].contains char.toNat

/-- The words of a text. -/
def splitWhitespace (text : List Char) : List (List Char) :=
  (text.splitOnP isWhitespace).filter fun word => !word.isEmpty

def trim (text : List Char) : List Char :=
  ((text.dropWhile isWhitespace).reverse.dropWhile isWhitespace).reverse

/-- Cuts at the first occurrence of a character. -/
def splitOnce (separator : Char) (text : List Char) : Option (List Char × List Char) :=
  match text.dropWhile (· != separator) with
  | [] => none
  | _ :: right => some (text.takeWhile (· != separator), right)

/-- Reads a number below a limit, which a plus sign may precede. -/
def parseUnsigned (limit : Nat) (text : List Char) : Option Nat :=
  let digits := if text.head? = some '+' then text.tail else text
  let value := digits.foldl (fun value digit => value * 10 + (digit.toNat - '0'.toNat)) 0
  if digits ≠ [] ∧ digits.all Char.isDigit ∧ value < limit then some value else none

/-- The status code of a status line is its second word. -/
def statusCodeOf (statusLine : List Char) : Option UInt16 :=
  (splitWhitespace statusLine)[1]?.bind fun word => (parseUnsigned (2 ^ 16) word).map UInt16.ofNat

/-- The header of a line, if the line has a colon. -/
def headerOf (line : List Char) : Option (String × String) :=
  (splitOnce ':' line).map fun parts =>
    (String.ofList (trim parts.1), String.ofList (trim parts.2))

/-- The first announced length that is a number. -/
def expectedLength (headers : List (String × String)) : Option Nat :=
  headers.findSome? fun header =>
    if eqIgnoreAsciiCase header.1 "content-length" then parseUnsigned (2 ^ 64) header.2.toList
    else none

/-- The end of the header lines and the blank line. -/
def headerTerminator : Bytes := [13, 10, 13, 10]

def parseHead (headerText : List Char) :
    Except HttpTransportError (UInt16 × List (String × String)) :=
  match Lines.lines '\n' '\r' headerText with
  | [] => .error (.invalidResponse "missing status line")
  | statusLine :: lines =>
      match statusCodeOf statusLine with
      | some statusCode => .ok (statusCode, lines.filterMap headerOf)
      | none => .error (.invalidResponse "invalid status line")

def parseResponse (response : Bytes) : Except HttpTransportError HttpResponse :=
  match Lines.position headerTerminator response with
  | none => .error (.invalidResponse "missing header terminator")
  | some headerEnd => do
      let (statusCode, headers) ←
        parseHead (Utf8.fromUtf8Lossy (response.take headerEnd)).toList
      if (expectedLength headers).any fun length => response.length - (headerEnd + 4) < length then
        .error (.invalidResponse "response body shorter than content-length")
      else .ok { statusCode, headers, body := response.drop (headerEnd + 4) }

/-- The text of one line. -/
def lineText (line : Bytes) : List Char := (Utf8.fromUtf8Lossy line).toList

/-- A response is refused if its body is shorter than announced, and otherwise read with a body of
the announced length. -/
def ReadsResponse (statusCode : UInt16) (headers : List (String × String)) (rest : Bytes)
    (result : Except HttpTransportError HttpResponse) : Prop :=
  match expectedLength headers with
  | some length =>
      if rest.length < length then ∃ error, result = .error error
      else result = .ok { statusCode, headers, body := rest.take length }
  | none => result = .ok { statusCode, headers, body := rest }

variable {head rest statusLine : Bytes} {fieldLines : List Bytes} {statusCode : UInt16}

/-- The text of the head is read line by line. -/
theorem parseHead_eq (cut : Lines.lines 10 13 head = statusLine :: fieldLines)
    (status : statusCodeOf (lineText statusLine) = some statusCode) :
    parseHead (Utf8.fromUtf8Lossy head).toList =
      .ok (statusCode, fieldLines.filterMap fun line => headerOf (lineText line)) := by
  have text (line : Bytes) : lineText line = Utf8.decodeLossy 0 line := String.toList_ofList
  rw [text] at status
  have lines : Lines.lines '\n' '\r' (Utf8.fromUtf8Lossy head).toList =
      Utf8.decodeLossy 0 statusLine :: fieldLines.map (Utf8.decodeLossy 0) := by
    rw [Utf8.fromUtf8Lossy, String.toList_ofList, Utf8.lines_decodeLossy, cut, List.map_cons]
  simp only [parseHead, lines, status, List.filterMap_map, text]
  rfl

/-- The body is everything after the first blank line, if it is as long as announced. -/
theorem parseResponse_eq (cut : Lines.lines 10 13 head = statusLine :: fieldLines)
    (status : statusCodeOf (lineText statusLine) = some statusCode)
    (first : Lines.FirstAfter head headerTerminator rest) :
    parseResponse (head ++ (headerTerminator ++ rest)) =
      let headers := fieldLines.filterMap fun line => headerOf (lineText line)
      if (expectedLength headers).any fun length => rest.length < length then
        .error (.invalidResponse "response body shorter than content-length")
      else .ok { statusCode, headers, body := rest } := by
  have skipped : (head ++ (headerTerminator ++ rest)).drop (head.length + 4) = rest := by
    rw [← List.append_assoc]
    exact List.drop_left' List.length_append
  have length : (head ++ (headerTerminator ++ rest)).length - (head.length + 4) = rest.length := by
    rw [← List.length_drop, skipped]
  rw [parseResponse, Lines.position_of_firstAfter first]
  simp only [List.take_left, parseHead_eq cut status, skipped, length]
  rfl

/-- A response is read as announced exactly when no more than the announced length follows the
blank line. -/
theorem readsResponse_iff (cut : Lines.lines 10 13 head = statusLine :: fieldLines)
    (status : statusCodeOf (lineText statusLine) = some statusCode)
    (first : Lines.FirstAfter head headerTerminator rest) :
    ReadsResponse statusCode (fieldLines.filterMap fun line => headerOf (lineText line)) rest
        (parseResponse (head ++ (headerTerminator ++ rest))) ↔
      ∀ length ∈ expectedLength (fieldLines.filterMap fun line => headerOf (lineText line)),
        rest.length ≤ length := by
  rw [parseResponse_eq cut status first, ReadsResponse]
  cases announced : expectedLength (fieldLines.filterMap fun line => headerOf (lineText line)) with
  | none => simp [announced]
  | some length =>
      rcases Nat.lt_or_ge rest.length length with short | long
      · simp [announced, short, Nat.le_of_lt short]
      · have taken : rest.take length = rest ↔ rest.length ≤ length := List.take_eq_self_iff rest
        have same : rest = rest.take length ↔ rest.length ≤ length := eq_comm.trans taken
        simp [announced, Nat.not_lt.mpr long, same]

/-- The head of a response that announces a body of five bytes. -/
def greetingHead : Bytes := Utf8.encode "HTTP/1.1 200 OK\r\nContent-Length: 5"

/-- A body of the announced length is read whole. -/
theorem greeting_read :
    ReadsResponse 200 [("Content-Length", "5")] (Utf8.encode "hello")
      (parseResponse (greetingHead ++ (headerTerminator ++ Utf8.encode "hello"))) := by
  have cut : Lines.lines 10 13 greetingHead =
      [Utf8.encode "HTTP/1.1 200 OK", Utf8.encode "Content-Length: 5"] := by decide +kernel
  have status : statusCodeOf (lineText (Utf8.encode "HTTP/1.1 200 OK")) = some 200 := by
    decide +kernel
  have headers :
      [Utf8.encode "Content-Length: 5"].filterMap (fun line => headerOf (lineText line)) =
        [("Content-Length", "5")] := by decide +kernel
  have first : Lines.FirstAfter greetingHead headerTerminator (Utf8.encode "hello") :=
    Lines.position_eq_length_iff.mp (by decide +kernel)
  have read := readsResponse_iff cut status first
  rw [headers] at read
  refine read.mpr ?_
  decide +kernel

/-- What follows a body of the announced length is read as a part of it. -/
theorem greeting_overrun :
    parseResponse (greetingHead ++ (headerTerminator ++ Utf8.encode "hello, again")) =
        .ok { statusCode := 200, headers := [("Content-Length", "5")],
              body := Utf8.encode "hello, again" } ∧
      ¬ReadsResponse 200 [("Content-Length", "5")] (Utf8.encode "hello, again")
        (parseResponse (greetingHead ++ (headerTerminator ++ Utf8.encode "hello, again"))) := by
  have announced : expectedLength [("Content-Length", "5")] = some 5 := by decide +kernel
  have read : parseResponse (greetingHead ++ (headerTerminator ++ Utf8.encode "hello, again")) =
      .ok { statusCode := 200, headers := [("Content-Length", "5")],
            body := Utf8.encode "hello, again" } := by decide +kernel
  refine ⟨read, fun announcedRead => ?_⟩
  have long : ¬(Utf8.encode "hello, again").length < 5 := by decide +kernel
  simp only [ReadsResponse, announced, read, if_neg long] at announcedRead
  revert announcedRead
  decide +kernel

end Http
end Ferredge
