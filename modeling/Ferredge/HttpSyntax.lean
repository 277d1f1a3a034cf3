import Mathlib.Data.List.Basic

/-!
# The syntax of HTTP/1.1 requests

A byte string is read as exactly one request: a request line, field lines, and the body that the
framing fields announce.  What is read is well formed, and a well-formed message is read back from
its rendering.
-/

namespace HttpSyntax

abbrev Octets := List UInt8

/-! ## Characters -/

def isAlpha (byte : UInt8) : Bool :=
  decide (65 ≤ byte ∧ byte ≤ 90) || decide (97 ≤ byte ∧ byte ≤ 122)

def isDigit (byte : UInt8) : Bool := decide (48 ≤ byte ∧ byte ≤ 57)

def isHexDigit (byte : UInt8) : Bool :=
  isDigit byte || decide (65 ≤ byte ∧ byte ≤ 70) || decide (97 ≤ byte ∧ byte ≤ 102)

/-- The byte is the code of a character of the text. -/
def among (text : String) (byte : UInt8) : Bool :=
  text.toList.any fun char => char.toNat == byte.toNat

def isTokenByte (byte : UInt8) : Bool :=
  isAlpha byte || isDigit byte || among "!#$%&'*+-.^_`|~" byte

def isUnreserved (byte : UInt8) : Bool := isAlpha byte || isDigit byte || among "-._~" byte

def isNameByte (byte : UInt8) : Bool := isUnreserved byte || among "!$&'()*+,;=" byte

def isPathByte (byte : UInt8) : Bool := isNameByte byte || among ":@/" byte

def isQueryByte (byte : UInt8) : Bool := isPathByte byte || among "?" byte

def isBlank (byte : UInt8) : Bool := byte == 32 || byte == 9

def isVisible (byte : UInt8) : Bool := decide (33 ≤ byte ∧ byte ≤ 126)

/-- Visible and high bytes and blanks may stand in a field value. -/
def isValueByte (byte : UInt8) : Bool := isVisible byte || decide (128 ≤ byte) || isBlank byte

/-! ## Cutting text -/

/-- Cuts at the first occurrence of a byte. -/
def splitOn (separator : UInt8) : Octets → Option (Octets × Octets)
  | [] => none
  | byte :: rest =>
      if byte = separator then some ([], rest)
      else (splitOn separator rest).map fun parts => (byte :: parts.1, parts.2)

/-- The pieces between the occurrences of a byte. -/
def pieces (separator : UInt8) : Octets → List Octets
  | [] => [[]]
  | byte :: rest =>
      if byte = separator then [] :: pieces separator rest
      else match pieces separator rest with
        | piece :: others => (byte :: piece) :: others
        | [] => [[byte]]

/-- Cuts at the first line terminator. -/
def splitLine : Octets → Option (Octets × Octets)
  | 13 :: 10 :: rest => some ([], rest)
  | byte :: rest => (splitLine rest).map fun parts => (byte :: parts.1, parts.2)
  | [] => none

def trimBlanks (text : Octets) : Octets :=
  ((text.dropWhile isBlank).reverse.dropWhile isBlank).reverse

/-- The value of a non-empty run of digits. -/
def decimal (text : Octets) : Option Nat :=
  if text ≠ [] ∧ text.all isDigit then
    some (text.foldl (fun value byte => value * 10 + (byte.toNat - 48)) 0)
  else none

/-! ## Request targets -/

/-- Allowed bytes and percent-encoded ones. -/
def encodedIn (plain : UInt8 → Bool) : Octets → Bool
  | [] => true
  | 37 :: high :: low :: rest => isHexDigit high && isHexDigit low && encodedIn plain rest
  | byte :: rest => plain byte && encodedIn plain rest

def isDecOctet (text : Octets) : Bool :=
  (decimal text).any (fun value => decide (value ≤ 255)) &&
    (text == [48] || text.head? != some 48)

def isIPv4 (text : Octets) : Bool :=
  (pieces 46 text).length == 4 && (pieces 46 text).all isDecOctet

def isGroup (text : Octets) : Bool :=
  decide (1 ≤ text.length ∧ text.length ≤ 4) && text.all isHexDigit

/-- Number of 16-bit groups in the tail of an IPv6 address, which may end in an IPv4 address. -/
def tailGroups : List Octets → Option Nat
  | [] => some 0
  | [last] => if isGroup last then some 1 else if isIPv4 last then some 2 else none
  | group :: rest => if isGroup group then (tailGroups rest).map (· + 1) else none

def groupsOf (text : Octets) : List Octets := if text.isEmpty then [] else pieces 58 text

/-- Cuts at the first double colon. -/
def splitDoubleColon : Octets → Option (Octets × Octets)
  | 58 :: 58 :: rest => some ([], rest)
  | byte :: rest => (splitDoubleColon rest).map fun parts => (byte :: parts.1, parts.2)
  | [] => none

def isIPv6 (text : Octets) : Bool :=
  match splitDoubleColon text with
  | some (left, right) =>
      (groupsOf left).all isGroup &&
        (tailGroups (groupsOf right)).any fun count =>
          decide ((groupsOf left).length + count ≤ 7)
  | none => tailGroups (groupsOf text) == some 8

def isIPvFuture : Octets → Bool
  | version :: rest => among "vV" version &&
      match splitOn 46 rest with
      | some (number, name) => !number.isEmpty && number.all isHexDigit && !name.isEmpty &&
          name.all fun byte => isNameByte byte || byte == 58
      | none => false
  | [] => false

/-- A host and a port, with their colon. -/
def isHostPort (portRequired : Bool) (text : Octets) : Bool :=
  let isPort (port : Octets) : Bool :=
    match port with
    | [] => !portRequired
    | 58 :: digits => digits.all isDigit
    | _ => false
  match text with
  | 91 :: rest =>
      match splitOn 93 rest with
      | some (literal, port) => (isIPv6 literal || isIPvFuture literal) && isPort port
      | none => false
  | _ =>
      match splitOn 58 text with
      | some (host, port) => encodedIn isNameByte host && port.all isDigit
      | none => encodedIn isNameByte text && !portRequired

def isAuthority (text : Octets) : Bool :=
  match splitOn 64 text with
  | some (userinfo, hostPort) =>
      encodedIn (fun byte => isNameByte byte || byte == 58) userinfo && isHostPort false hostPort
  | none => isHostPort false text

/-- Cuts the query off. -/
def cutQuery (text : Octets) : Octets × Octets := (splitOn 63 text).getD (text, [])

def isOriginForm (text : Octets) : Bool :=
  text.head? == some 47 && encodedIn isPathByte (cutQuery text).1 &&
    encodedIn isQueryByte (cutQuery text).2

def isHierPart : Octets → Bool
  | 47 :: 47 :: rest =>
      let authority := rest.takeWhile fun byte => byte != 47
      isAuthority authority && encodedIn isPathByte (rest.drop authority.length)
  | text => encodedIn isPathByte text

def isAbsoluteForm (text : Octets) : Bool :=
  match splitOn 58 text with
  | some (scheme, rest) =>
      scheme.head?.any isAlpha &&
        scheme.all (fun byte => isAlpha byte || isDigit byte || among "+-." byte) &&
        isHierPart (cutQuery rest).1 && encodedIn isQueryByte (cutQuery rest).2
  | none => false

/-- The four forms of a request target.  All of them are visible text. -/
def isTarget (text : Octets) : Bool :=
  text.all isVisible &&
    (isOriginForm text || isAbsoluteForm text || isHostPort true text || text == [42])

/-! ## Messages -/

def isToken (text : Octets) : Bool := !text.isEmpty && text.all isTokenByte

/-- A field value neither starts nor ends with a blank. -/
def isValue (text : Octets) : Bool := text.all isValueByte && trimBlanks text == text

structure Message where
  method : Octets
  target : Octets
  fields : List (Octets × Octets)
  body : Octets
  deriving DecidableEq

def lower (byte : UInt8) : UInt8 := if 65 ≤ byte ∧ byte ≤ 90 then byte + 32 else byte

/-- The name of a field, whatever its case. -/
def isNamed (name : Octets) (field : Octets × Octets) : Bool :=
  field.1.map lower == name.map lower

/-- Values of the fields of one name. -/
def valuesOf (name : Octets) (fields : List (Octets × Octets)) : List Octets :=
  (fields.filter (isNamed name)).map Prod.snd

def hostName : Octets := "Host".toList.map fun char => UInt8.ofNat char.toNat

def contentLengthName : Octets := "Content-Length".toList.map fun char => UInt8.ofNat char.toNat

def transferEncodingName : Octets :=
  "Transfer-Encoding".toList.map fun char => UInt8.ofNat char.toNat

def version : Octets := "HTTP/1.1".toList.map fun char => UInt8.ofNat char.toNat

/-- The fields name one host, and the body is as long as they say.  No chunks are read, so a
transfer coding fits no body. -/
def isFramed (fields : List (Octets × Octets)) (body : Octets) : Bool :=
  (valuesOf hostName fields).length == 1 && (valuesOf transferEncodingName fields).isEmpty &&
    match valuesOf contentLengthName fields with
    | [] => body.isEmpty
    | [length] => decimal length == some body.length
    | _ => false

def parseRequestLine (line : Octets) : Option (Octets × Octets) := do
  let (method, rest) ← splitOn 32 line
  let (target, suffix) ← splitOn 32 rest
  if isToken method && isTarget target && suffix == version then some (method, target) else none

def parseField (line : Octets) : Option (Octets × Octets) := do
  let (name, rest) ← splitOn 58 line
  let value := trimBlanks rest
  if isToken name && isValue value then some (name, value) else none

/-- Reads field lines up to the empty one, in at most `fuel` lines. -/
def parseFields : Nat → Octets → Option (List (Octets × Octets) × Octets)
  | 0, _ => none
  | fuel + 1, bytes => do
      let (line, rest) ← splitLine bytes
      if line.isEmpty then some ([], rest)
      else
        let field ← parseField line
        let (fields, body) ← parseFields fuel rest
        some (field :: fields, body)

/-- Reads a byte string as exactly one request. -/
def parse (bytes : Octets) : Option Message := do
  let (line, rest) ← splitLine bytes
  let (method, target) ← parseRequestLine line
  let (fields, body) ← parseFields rest.length rest
  if isFramed fields body then some { method, target, fields, body } else none

def renderField (field : Octets × Octets) : Octets := field.1 ++ 58 :: 32 :: field.2 ++ [13, 10]

def render (message : Message) : Octets :=
  message.method ++ 32 :: message.target ++ 32 :: version ++ [13, 10] ++
    message.fields.flatMap renderField ++ [13, 10] ++ message.body

structure Message.WellFormed (message : Message) : Prop where
  method : isToken message.method = true
  target : isTarget message.target = true
  fields : ∀ field ∈ message.fields, isToken field.1 = true ∧ isValue field.2 = true
  framed : isFramed message.fields message.body = true

theorem valuesOf_cons (name : Octets) (field : Octets × Octets) (fields : List (Octets × Octets)) :
    valuesOf name (field :: fields) =
      if isNamed name field then field.2 :: valuesOf name fields else valuesOf name fields := by
  cases named : isNamed name field <;> simp [valuesOf, named]

theorem valuesOf_append (name : Octets) (left right : List (Octets × Octets)) :
    valuesOf name (left ++ right) = valuesOf name left ++ valuesOf name right := by
  simp [valuesOf]

/-- Text without blanks needs no trimming. -/
theorem trimBlanks_eq_self {text : Octets} (dense : ∀ byte ∈ text, isBlank byte = false) :
    trimBlanks text = text := by
  have keep {text : Octets} (dense : ∀ byte ∈ text, isBlank byte = false) :
      text.dropWhile isBlank = text := by
    cases text with
    | nil => rfl
    | cons byte rest => rw [List.dropWhile_cons, dense byte List.mem_cons_self]; rfl
  rw [trimBlanks, keep dense, keep fun byte member => dense byte (List.mem_reverse.mp member),
    List.reverse_reverse]

theorem isBlank_of_isDigit {byte : UInt8} (digit : isDigit byte = true) :
    isBlank byte = false := by
  refine Bool.eq_false_iff.mpr fun blank => ?_
  simp only [isBlank, Bool.or_eq_true, beq_iff_eq] at blank
  rcases blank with rfl | rfl <;> cases digit

/-- A number is a field value. -/
theorem isValue_of_digits {text : Octets} (digits : ∀ byte ∈ text, isDigit byte = true) :
    isValue text = true := by
  have trimmed : trimBlanks text = text :=
    trimBlanks_eq_self fun byte member => isBlank_of_isDigit (digits byte member)
  have only : text.all isValueByte = true := by
    refine List.all_eq_true.mpr fun byte member => ?_
    have digit := digits byte member
    simp only [isDigit, decide_eq_true_eq] at digit
    have visible : isVisible byte = true := by
      simp only [isVisible, decide_eq_true_eq, UInt8.le_iff_toNat_le] at digit ⊢
      have low : (33 : UInt8).toNat ≤ (48 : UInt8).toNat := by decide
      have high : (57 : UInt8).toNat ≤ (126 : UInt8).toNat := by decide
      omega
    rw [isValueByte, visible, Bool.true_or, Bool.true_or]
  rw [isValue, only, trimmed, beq_self_eq_true, Bool.and_self]

/-! ## What is read is well formed -/

theorem parseRequestLine_eq_some {line method target : Octets}
    (read : parseRequestLine line = some (method, target)) :
    isToken method = true ∧ isTarget target = true := by
  simp only [parseRequestLine, Option.bind_eq_bind, Option.bind_eq_some_iff] at read
  obtain ⟨⟨first, rest⟩, -, ⟨second, suffix⟩, -, checked⟩ := read
  split at checked
  · rename_i accepted
    cases checked
    simp only [Bool.and_eq_true] at accepted
    exact accepted.1
  · cases checked

theorem parseField_eq_some {line : Octets} {field : Octets × Octets}
    (read : parseField line = some field) : isToken field.1 = true ∧ isValue field.2 = true := by
  simp only [parseField, Option.bind_eq_bind, Option.bind_eq_some_iff] at read
  obtain ⟨⟨name, rest⟩, -, checked⟩ := read
  split at checked
  · rename_i accepted
    cases checked
    exact (Bool.and_eq_true _ _).mp accepted
  · cases checked

theorem parseFields_eq_some {fuel : Nat} {bytes body : Octets} {fields : List (Octets × Octets)}
    (read : parseFields fuel bytes = some (fields, body)) :
    ∀ field ∈ fields, isToken field.1 = true ∧ isValue field.2 = true := by
  induction fuel generalizing bytes fields with
  | zero => cases read
  | succ fuel ih =>
      simp only [parseFields, Option.bind_eq_bind, Option.bind_eq_some_iff] at read
      obtain ⟨⟨line, rest⟩, -, read⟩ := read
      split at read
      · cases read
        nofun
      · simp only [Option.bind_eq_some_iff] at read
        obtain ⟨field, first, ⟨others, remaining⟩, later, taken⟩ := read
        cases taken
        intro other member
        rcases List.mem_cons.mp member with rfl | member
        · exact parseField_eq_some first
        · exact ih later other member

theorem Message.WellFormed.of_parse {bytes : Octets} {message : Message}
    (read : parse bytes = some message) : message.WellFormed := by
  simp only [parse, Option.bind_eq_bind, Option.bind_eq_some_iff] at read
  obtain ⟨⟨line, rest⟩, -, ⟨method, target⟩, start, ⟨fields, body⟩, listed, checked⟩ := read
  split at checked
  · rename_i framed
    cases checked
    obtain ⟨methodToken, targetForm⟩ := parseRequestLine_eq_some start
    exact ⟨methodToken, targetForm, parseFields_eq_some listed, framed⟩
  · cases checked

/-! ## What is well formed is read back -/

theorem splitOn_append {separator : UInt8} {left : Octets} (absent : separator ∉ left)
    (right : Octets) : splitOn separator (left ++ separator :: right) = some (left, right) := by
  induction left with
  | nil => simp [splitOn]
  | cons byte left ih =>
      have other : byte ≠ separator := fun same => absent (same ▸ List.mem_cons_self)
      have remaining := ih fun member => absent (List.mem_cons_of_mem byte member)
      rw [List.cons_append, splitOn, if_neg other, remaining]
      rfl

theorem splitLine_append {line : Octets} (unbroken : 13 ∉ line) (rest : Octets) :
    splitLine (line ++ 13 :: 10 :: rest) = some (line, rest) := by
  induction line with
  | nil => rfl
  | cons byte line ih =>
      have other : byte ≠ 13 := fun same => unbroken (same ▸ List.mem_cons_self)
      have remaining := ih fun member => unbroken (List.mem_cons_of_mem byte member)
      rw [List.cons_append, splitLine.eq_2 _ _ (fun _ same _ => other same), remaining]
      rfl

/-- A byte outside a class is in no text of the class. -/
theorem not_mem_of_all {allowed : UInt8 → Bool} {byte : UInt8} {text : Octets}
    (only : text.all allowed = true) (outside : allowed byte = false) : byte ∉ text := by
  intro member
  have inside := List.all_eq_true.mp only byte member
  exact Bool.false_ne_true (outside.symm.trans inside)

theorem all_of_isToken {text : Octets} (token : isToken text = true) :
    text.all isTokenByte = true :=
  ((Bool.and_eq_true _ _).mp token).2

theorem all_of_isTarget {text : Octets} (target : isTarget text = true) :
    text.all isVisible = true :=
  ((Bool.and_eq_true _ _).mp target).1

theorem parseRequestLine_render {method target : Octets} (token : isToken method = true)
    (form : isTarget target = true) :
    parseRequestLine (method ++ 32 :: (target ++ 32 :: version)) = some (method, target) := by
  have first : (32 : UInt8) ∉ method := not_mem_of_all (all_of_isToken token) (by decide)
  have second : (32 : UInt8) ∉ target := not_mem_of_all (all_of_isTarget form) (by decide)
  simp only [parseRequestLine, splitOn_append first, splitOn_append second, token, form,
    Option.bind_eq_bind, Option.bind_some]
  simp

theorem parseField_render {field : Octets × Octets} (token : isToken field.1 = true)
    (value : isValue field.2 = true) :
    parseField (field.1 ++ 58 :: 32 :: field.2) = some field := by
  have colon : (58 : UInt8) ∉ field.1 := not_mem_of_all (all_of_isToken token) (by decide)
  have trimmed : trimBlanks (32 :: field.2) = field.2 := by
    have whole := ((Bool.and_eq_true _ _).mp value).2
    exact beq_iff_eq.mp whole
  simp only [parseField, splitOn_append colon, trimmed, token, value, Option.bind_eq_bind,
    Option.bind_some]
  simp

theorem unbroken_field {field : Octets × Octets} (token : isToken field.1 = true)
    (value : isValue field.2 = true) : (13 : UInt8) ∉ field.1 ++ 58 :: 32 :: field.2 := by
  have name : (13 : UInt8) ∉ field.1 := not_mem_of_all (all_of_isToken token) (by decide)
  have text : (13 : UInt8) ∉ field.2 :=
    not_mem_of_all ((Bool.and_eq_true _ _).mp value).1 (by decide)
  simp [name, text]

theorem parseFields_render {fields : List (Octets × Octets)} {fuel : Nat}
    (formed : ∀ field ∈ fields, isToken field.1 = true ∧ isValue field.2 = true)
    (enough : fields.length < fuel) (body : Octets) :
    parseFields fuel (fields.flatMap renderField ++ 13 :: 10 :: body) = some (fields, body) := by
  induction fields generalizing fuel with
  | nil =>
      obtain ⟨fuel, rfl⟩ := Nat.exists_eq_succ_of_ne_zero (Nat.ne_of_gt enough)
      rfl
  | cons field fields ih =>
      obtain ⟨fuel, rfl⟩ := Nat.exists_eq_succ_of_ne_zero (Nat.ne_of_gt (Nat.zero_lt_of_lt enough))
      obtain ⟨token, value⟩ := formed field List.mem_cons_self
      have later := ih (fun other member => formed other (List.mem_cons_of_mem field member))
        (Nat.lt_of_succ_lt_succ enough)
      have cut : (field :: fields).flatMap renderField ++ 13 :: 10 :: body =
          (field.1 ++ 58 :: 32 :: field.2) ++
            13 :: 10 :: (fields.flatMap renderField ++ 13 :: 10 :: body) := by
        simp [renderField]
      rw [cut, parseFields, splitLine_append (unbroken_field token value)]
      simp only [Option.bind_eq_bind, Option.bind_some, parseField_render token value, later]
      simp

theorem length_le_flatMap_renderField (fields : List (Octets × Octets)) :
    fields.length ≤ (fields.flatMap renderField).length := by
  induction fields with
  | nil => exact Nat.le_refl 0
  | cons field fields ih =>
      simp only [List.flatMap_cons, List.length_append, List.length_cons, renderField]
      omega

/-- A well-formed message is read back from its rendering. -/
theorem parse_render {message : Message} (formed : message.WellFormed) :
    parse (render message) = some message := by
  have blank : (13 : UInt8) ∉ message.method ++ 32 :: (message.target ++ 32 :: version) := by
    have method : (13 : UInt8) ∉ message.method :=
      not_mem_of_all (all_of_isToken formed.method) (by decide)
    have target : (13 : UInt8) ∉ message.target :=
      not_mem_of_all (all_of_isTarget formed.target) (by decide)
    have suffix : (13 : UInt8) ∉ version := by decide
    simp [method, target, suffix]
  have cut : render message = (message.method ++ 32 :: (message.target ++ 32 :: version)) ++
      13 :: 10 :: (message.fields.flatMap renderField ++ 13 :: 10 :: message.body) := by
    simp [render]
  have enough : message.fields.length <
      (message.fields.flatMap renderField ++ 13 :: 10 :: message.body).length := by
    have listed := length_le_flatMap_renderField message.fields
    simp only [List.length_append, List.length_cons]
    omega
  rw [cut, parse, splitLine_append blank]
  simp only [Option.bind_eq_bind, Option.bind_some,
    parseRequestLine_render formed.method formed.target,
    parseFields_render formed.fields enough, formed.framed, if_true]

/-- A rendering is read as the message exactly when the message is well formed. -/
theorem parse_render_iff {message : Message} :
    parse (render message) = some message ↔ message.WellFormed :=
  ⟨Message.WellFormed.of_parse, parse_render⟩

/-! ## Where a message ends -/

theorem splitLine_extend {bytes line rest : Octets} (more : Octets)
    (cut : splitLine bytes = some (line, rest)) :
    splitLine (bytes ++ more) = some (line, rest ++ more) := by
  fun_induction splitLine bytes generalizing line rest with
  | case1 tail =>
      cases cut
      rfl
  | case2 byte bytes other ih =>
      obtain ⟨⟨first, remaining⟩, found, taken⟩ := Option.map_eq_some_iff.mp cut
      cases taken
      have apart : ∀ tail, byte = 13 → bytes ++ more = 10 :: tail → False := by
        intro tail same start
        cases bytes with
        | nil => cases found
        | cons next bytes =>
            cases start
            exact other bytes same rfl
      rw [List.cons_append, splitLine.eq_2 _ _ apart, ih found]
      rfl
  | case3 => cases cut

theorem parseFields_extend {fuel larger : Nat} {bytes body : Octets}
    {fields : List (Octets × Octets)} (more : Octets) (enough : fuel ≤ larger)
    (read : parseFields fuel bytes = some (fields, body)) :
    parseFields larger (bytes ++ more) = some (fields, body ++ more) := by
  induction fuel generalizing larger bytes fields with
  | zero => cases read
  | succ fuel ih =>
      obtain ⟨larger, rfl⟩ :=
        Nat.exists_eq_succ_of_ne_zero (Nat.ne_of_gt (Nat.zero_lt_of_lt enough))
      simp only [parseFields, Option.bind_eq_bind, Option.bind_eq_some_iff] at read ⊢
      obtain ⟨⟨line, rest⟩, cut, read⟩ := read
      refine ⟨(line, rest ++ more), splitLine_extend more cut, ?_⟩
      by_cases blank : line.isEmpty = true
      · rw [if_pos blank] at read ⊢
        cases read
        rfl
      · rw [if_neg blank] at read ⊢
        simp only [Option.bind_eq_some_iff] at read ⊢
        obtain ⟨field, first, ⟨others, remaining⟩, later, taken⟩ := read
        cases taken
        exact ⟨field, first, (others, remaining ++ more),
          ih (Nat.le_of_succ_le_succ enough) later, rfl⟩

/-- The fields frame bodies of one length only. -/
theorem length_eq_of_isFramed {fields : List (Octets × Octets)} {body other : Octets}
    (framed : isFramed fields body = true) (framed' : isFramed fields other = true) :
    body.length = other.length := by
  simp only [isFramed, Bool.and_eq_true] at framed framed'
  obtain ⟨-, fits⟩ := framed
  obtain ⟨-, fits'⟩ := framed'
  generalize valuesOf contentLengthName fields = lengths at fits fits'
  match lengths with
  | [] =>
      rw [List.isEmpty_iff] at fits fits'
      rw [fits, fits']
  | [length] =>
      rw [beq_iff_eq] at fits fits'
      exact Option.some.inj (fits.symm.trans fits')
  | _ :: _ :: _ => cases fits

/-- No beginning of a request is another request. -/
theorem eq_nil_of_parse_append {bytes more : Octets} {message whole : Message}
    (early : parse bytes = some message) (late : parse (bytes ++ more) = some whole) :
    more = [] := by
  simp only [parse, Option.bind_eq_bind, Option.bind_eq_some_iff] at early late
  obtain ⟨⟨line, rest⟩, cut, start, -, ⟨fields, body⟩, listed, framed⟩ := early
  obtain ⟨⟨line', rest'⟩, cut', start', -, ⟨fields', body'⟩, listed', framed'⟩ := late
  cases (splitLine_extend more cut).symm.trans cut'
  have enough : rest.length ≤ (rest ++ more).length := by
    rw [List.length_append]
    exact Nat.le_add_right _ _
  cases (parseFields_extend more enough listed).symm.trans listed'
  simp only [Option.ite_none_right_eq_some] at framed framed'
  have same := length_eq_of_isFramed framed.1 framed'.1
  rw [List.length_append] at same
  exact List.eq_nil_of_length_eq_zero (Nat.add_eq_left.mp same.symm)

end HttpSyntax
