import Ferredge.Http.Response

/-!
# HTTP responses as servers write them

A server writes a status line, its header lines, a blank line and the body.  The driver reads this
back, and it takes what arrives of it for a response when the head is whole and the body is no
shorter than announced.
-/

namespace Ferredge.Http

/-- A response as a server writes it, with the other two parts of the status line. -/
structure Reply where
  protocol : String
  reason : String
  response : HttpResponse
  deriving DecidableEq

/-- Text that stays on one line. -/
def isUnbroken (text : String) : Bool := !text.toList.contains '\n' && !text.toList.contains '\r'

/-- A header that is the only one its line can be read as. -/
def isClearHeader (header : String × String) : Bool :=
  isUnbroken header.1 && isUnbroken header.2 && !header.1.toList.contains ':' &&
    trim header.1.toList == header.1.toList && trim header.2.toList == header.2.toList

namespace Reply

def statusLine (reply : Reply) : String :=
  reply.protocol ++ " " ++ toString reply.response.statusCode.toNat ++ " " ++ reply.reason

def fieldLine (header : String × String) : String := header.1 ++ ": " ++ header.2

/-- The status line and the header lines. -/
def head (reply : Reply) : Bytes :=
  Lines.joinLines 10 13 (Utf8.encode reply.statusLine)
    (reply.response.headers.map fun header => Utf8.encode (fieldLine header))

def render (reply : Reply) : Bytes := reply.head ++ (headerTerminator ++ reply.response.body)

/-- The protocol is a word, the reason stays on its line, and so does every header. -/
structure Clear (reply : Reply) : Prop where
  protocol : reply.protocol.toList ≠ []
  word : reply.protocol.toList.any isWhitespace = false
  reason : isUnbroken reply.reason = true
  headers : ∀ header ∈ reply.response.headers, isClearHeader header = true

end Reply

/-! ## Lines -/

theorem isUnbroken_iff {text : String} :
    isUnbroken text = true ↔ '\n' ∉ text.toList ∧ '\r' ∉ text.toList := by
  simp [isUnbroken]

theorem lineText_encode (text : String) : lineText (Utf8.encode text) = text.toList := by
  rw [lineText, Utf8.fromUtf8Lossy_encode]

/-- An ASCII byte stands in encoded text only for its character. -/
theorem not_mem_encode {char : Char} {byte : UInt8} (ascii : Utf8.IsAscii char byte)
    (replaced : char ≠ '\uFFFD') {text : String} (absent : char ∉ text.toList) :
    byte ∉ Utf8.encode text := by
  intro member
  obtain ⟨left, right, split⟩ := List.append_of_mem member
  have decoded := (Utf8.keepsApart ascii replaced).append left right
  rw [← split] at decoded
  have whole : Utf8.decodeLossy 0 (Utf8.encode text) = text.toList := by
    rw [← lineText_encode, lineText, Utf8.fromUtf8Lossy, String.toList_ofList]
  rw [whole] at decoded
  exact absent (by rw [decoded]; exact List.mem_append_right _ List.mem_cons_self)

theorem isLine_encode {text : String} (unbroken : isUnbroken text = true)
    (nonempty : text.toList ≠ []) : Lines.IsLine (10 : UInt8) 13 (Utf8.encode text) := by
  obtain ⟨feeds, returns⟩ := isUnbroken_iff.mp unbroken
  refine ⟨fun empty => nonempty ?_, not_mem_encode Utf8.isAscii_lineFeed (by decide) feeds,
    not_mem_encode Utf8.isAscii_carriageReturn (by decide) returns⟩
  rw [← lineText_encode, empty]
  rfl

/-! ## The status line -/

theorem isWhitespace_of_isDigit {char : Char} (digit : char.isDigit = true) :
    isWhitespace char = false := by
  obtain ⟨low, high⟩ := Utf8.bounds_of_isDigit digit
  simp [isWhitespace]
  omega

theorem isDigit_of_mem_toString {number : Nat} {char : Char}
    (member : char ∈ (toString number).toList) : char.isDigit = true := by
  rw [Nat.toString_eq_ofList_toDigits, String.toList_ofList] at member
  exact Nat.isDigit_of_mem_toDigits (by decide) (by decide) member

/-- A number that is written is read. -/
theorem parseUnsigned_toString {limit number : Nat} (small : number < limit) :
    parseUnsigned limit (toString number).toList = some number := by
  have digits : ∀ char ∈ (toString number).toList, char.isDigit = true :=
    fun char member => isDigit_of_mem_toString member
  have nonempty : (toString number).toList ≠ [] := by
    rw [Nat.toString_eq_ofList_toDigits, String.toList_ofList]
    exact Nat.toDigits_ne_nil
  have unsigned : (toString number).toList.head? ≠ some '+' := by
    intro plus
    exact absurd (digits '+' (List.mem_of_head? plus)) (by decide)
  have value : (toString number).toList.foldl
      (fun value digit => value * 10 + (digit.toNat - '0'.toNat)) 0 = number := by
    rw [Nat.toString_eq_ofList_toDigits, String.toList_ofList]
    simpa [Nat.ofDigitChars, Nat.mul_comm] using @Nat.ofDigitChars_ten_toDigits number
  rw [parseUnsigned, if_neg unsigned]
  simp only [value, List.all_eq_true.mpr digits, small]
  simp

variable {reply : Reply}

/-- The second word of the status line is the status code. -/
theorem statusCodeOf_statusLine (protocol : reply.protocol.toList ≠ [])
    (word : ∀ char ∈ reply.protocol.toList, isWhitespace char = false) :
    statusCodeOf (lineText (Utf8.encode reply.statusLine)) = some reply.response.statusCode := by
  have space : isWhitespace ' ' = true := by decide
  have digits : ∀ char ∈ (toString reply.response.statusCode.toNat).toList,
      isWhitespace char = false :=
    fun char member => isWhitespace_of_isDigit (isDigit_of_mem_toString member)
  have number : (toString reply.response.statusCode.toNat).toList ≠ [] := by
    rw [Nat.toString_eq_ofList_toDigits, String.toList_ofList]
    exact Nat.toDigits_ne_nil
  have text : reply.statusLine.toList = reply.protocol.toList ++ ' ' ::
      ((toString reply.response.statusCode.toNat).toList ++ ' ' :: reply.reason.toList) := by
    simp [Reply.statusLine]
  have words : (splitWhitespace reply.statusLine.toList)[1]? =
      some (toString reply.response.statusCode.toNat).toList := by
    rw [splitWhitespace, text, List.splitOnP_append_cons_of_forall_mem word ' ' space,
      List.splitOnP_append_cons_of_forall_mem digits ' ' space, List.filter_cons_of_pos
        (by simpa using protocol), List.filter_cons_of_pos (by simp)]
    rfl
  have bound : reply.response.statusCode.toNat < 2 ^ 16 := reply.response.statusCode.toNat_lt
  rw [lineText_encode, statusCodeOf, words, Option.bind_some, parseUnsigned_toString bound,
    Option.map_some, UInt16.ofNat_toNat]

/-! ## Headers -/

theorem isClearHeader_iff {header : String × String} :
    isClearHeader header = true ↔ isUnbroken header.1 = true ∧ isUnbroken header.2 = true ∧
      ':' ∉ header.1.toList ∧ trim header.1.toList = header.1.toList ∧
      trim header.2.toList = header.2.toList := by
  simp [isClearHeader, and_assoc]

theorem splitOnce_append {separator : Char} {left : List Char} (absent : separator ∉ left)
    (right : List Char) :
    splitOnce separator (left ++ separator :: right) = some (left, right) := by
  have before : ∀ char ∈ left, (char != separator) = true := fun char member =>
    bne_iff_ne.mpr fun same => absent (same ▸ member)
  have stops : (separator != separator) = false := by simp
  rw [splitOnce, List.dropWhile_append_of_pos before, List.takeWhile_append_of_pos before,
    List.dropWhile_cons, stops, List.takeWhile_cons, stops]
  simp

/-- A clear header is read back from its line. -/
theorem headerOf_fieldLine {header : String × String} (clear : isClearHeader header = true) :
    headerOf (lineText (Utf8.encode (Reply.fieldLine header))) = some header := by
  obtain ⟨-, -, colon, name, value⟩ := isClearHeader_iff.mp clear
  have text : (Reply.fieldLine header).toList =
      header.1.toList ++ ':' :: ' ' :: header.2.toList := by
    simp [Reply.fieldLine]
  have blank : trim (' ' :: header.2.toList) = trim header.2.toList := rfl
  rw [lineText_encode, headerOf, text, splitOnce_append colon]
  simp only [Option.map_some, blank, name, value, String.ofList_toList]

theorem isUnbroken_append {left right : String} :
    isUnbroken (left ++ right) = true ↔ isUnbroken left = true ∧ isUnbroken right = true := by
  simp only [isUnbroken_iff, String.toList_append, List.mem_append, not_or]
  exact and_and_and_comm

theorem isLine_fieldLine {header : String × String} (clear : isClearHeader header = true) :
    Lines.IsLine (10 : UInt8) 13 (Utf8.encode (Reply.fieldLine header)) := by
  obtain ⟨name, value, -⟩ := isClearHeader_iff.mp clear
  refine isLine_encode ?_ (by simp [Reply.fieldLine])
  rw [Reply.fieldLine, isUnbroken_append, isUnbroken_append]
  exact ⟨⟨name, by decide⟩, value⟩

namespace Reply

theorem Clear.dense (clear : reply.Clear) :
    ∀ char ∈ reply.protocol.toList, isWhitespace char = false :=
  fun char member => Bool.eq_false_iff.mpr (List.any_eq_false.mp clear.word char member)

theorem Clear.isLine_statusLine (clear : reply.Clear) :
    Lines.IsLine (10 : UInt8) 13 (Utf8.encode reply.statusLine) := by
  have apart {char : Char} (white : isWhitespace char = true) : char ∉ reply.protocol.toList :=
    fun member => Bool.false_ne_true ((clear.dense char member).symm.trans white)
  have number {char : Char} (digit : char.isDigit = false) :
      char ∉ (toString reply.response.statusCode.toNat).toList :=
    fun member => Bool.false_ne_true (digit.symm.trans (isDigit_of_mem_toString member))
  refine isLine_encode ?_ (by simp [statusLine])
  simp only [statusLine, isUnbroken_append]
  refine ⟨⟨⟨⟨?_, by decide⟩, ?_⟩, by decide⟩, clear.reason⟩
  · exact isUnbroken_iff.mpr ⟨apart (by decide), apart (by decide)⟩
  · exact isUnbroken_iff.mpr ⟨number (by decide), number (by decide)⟩

theorem Clear.isLine_headers (clear : reply.Clear) :
    ∀ line ∈ reply.response.headers.map fun header => Utf8.encode (fieldLine header),
      Lines.IsLine (10 : UInt8) 13 line := by
  intro line listed
  obtain ⟨header, member, rfl⟩ := List.mem_map.mp listed
  exact isLine_fieldLine (clear.headers header member)

theorem Clear.filterMap_headers (clear : reply.Clear) :
    (reply.response.headers.map fun header => Utf8.encode (fieldLine header)).filterMap
      (fun line => headerOf (lineText line)) = reply.response.headers := by
  rw [List.filterMap_map]
  refine (List.filterMap_congr fun header member => ?_).trans List.filterMap_some
  exact headerOf_fieldLine (clear.headers header member)

/-- However much of a response arrives, it is refused if its head is cut or its body is shorter
than announced, and otherwise read with what has arrived of the body. -/
theorem parseResponse_cut (clear : reply.Clear) (cut : Nat) :
    parseResponse (reply.render.take cut) =
      if cut < reply.head.length + 4 then .error (.invalidResponse "missing header terminator")
      else
        let body := reply.response.body.take (cut - (reply.head.length + 4))
        if (expectedLength reply.response.headers).any fun length => body.length < length then
          .error (.invalidResponse "response body shorter than content-length")
        else .ok { reply.response with body } := by
  have blank (rest : Bytes) : Lines.FirstAfter reply.head headerTerminator rest :=
    Lines.firstAfter_joinLines (by decide) rest clear.isLine_statusLine clear.isLine_headers
  by_cases short : cut < reply.head.length + 4
  · have missing : Lines.position headerTerminator (reply.render.take cut) = none :=
      Lines.position_take_eq_none (blank _) short
    rw [if_pos short, parseResponse, missing]
  · have reached : reply.render.take cut = reply.head ++
        (headerTerminator ++ reply.response.body.take (cut - (reply.head.length + 4))) := by
      have size : headerTerminator.length = 4 := rfl
      rw [render, List.take_append, List.take_append, List.take_of_length_le (by omega),
        List.take_of_length_le (by omega), size, Nat.sub_sub]
    have lines : Lines.lines 10 13 reply.head = Utf8.encode reply.statusLine ::
        reply.response.headers.map fun header => Utf8.encode (fieldLine header) :=
      Lines.lines_joinLines (by decide) clear.isLine_statusLine clear.isLine_headers
    rw [if_neg short, reached, parseResponse_eq lines
      (statusCodeOf_statusLine clear.protocol clear.dense) (blank _), clear.filterMap_headers]

/-- A response that announces a body of five bytes. -/
def greeting : Reply where
  protocol := "HTTP/1.1"
  reason := "OK"
  response :=
    { statusCode := 200, headers := [("Content-Length", "5")], body := Utf8.encode "hello" }

theorem greeting_clear : greeting.Clear :=
  ⟨by decide, by decide +kernel, by decide +kernel, by decide +kernel⟩

/-- Without its last two bytes the response is refused. -/
theorem greeting_cut :
    parseResponse (greeting.render.take 41) =
      .error (.invalidResponse "response body shorter than content-length") :=
  (parseResponse_cut greeting_clear 41).trans (by decide +kernel)

/-- A response whose body is as long as announced is read as it was written. -/
theorem parseResponse_render (clear : reply.Clear)
    (announced : ∀ length ∈ expectedLength reply.response.headers,
      length ≤ reply.response.body.length) :
    parseResponse reply.render = .ok reply.response := by
  have whole : reply.render.length = reply.head.length + 4 + reply.response.body.length := by
    simp only [render, headerTerminator, List.length_append, List.length_cons, List.length_nil]
    omega
  have fits : (expectedLength reply.response.headers).any
      (fun length => decide (reply.response.body.length < length)) = false := by
    cases expected : expectedLength reply.response.headers with
    | none => rfl
    | some length => simpa using announced length expected
  have read := parseResponse_cut clear reply.render.length
  rw [List.take_length, if_neg (by omega), whole, Nat.add_sub_cancel_left, List.take_length] at read
  rw [read, if_neg (by simpa using fits)]

end Reply
end Ferredge.Http
