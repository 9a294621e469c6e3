import InviteLink.Json.Encoding
import InviteLink.Json.Number

set_option autoImplicit false

/-! # Reading JSON

A reader for JSON text that says where it stopped. Every step takes text and gives back the rest
of it, so a stop is the rest of the text at the place of the fault, and its position is what was
read before. Besides the grammar, the words `NaN`, `Infinity` and `-Infinity` are values, and of
members with the same name the last counts. Integers of absurd length and absurd nesting are
refused as unreadable rather than as wrong. -/

namespace InviteLink.Json

/-! ## Results -/

/-- Why a text cannot be read: it goes wrong where `rest` begins, or it exceeds a limit. -/
inductive Stop
  | unexpected (rest : Text)
  | limit
  deriving DecidableEq

/-- A value and the text behind it, or why there is none. -/
abbrev Step (α : Type) := Except Stop (α × Text)

/-- The most digits that an integer may have. -/
def digitLimit : Nat := 4300

/-- How many calls the interpreter lets be under way at a time. -/
def callLimit : Nat := 1000

/-- How many calls are under way where the service starts to read a body. The layers of the server
    make these, so the number is the reckoning of one version of it and not a promise. -/
def serverCalls : Nat := 40

/-- How deep lists and objects may be nested: the reader takes one call for each of them. -/
def nestingLimit : Nat := callLimit - serverCalls

/-- Whether a character may stand between tokens. -/
def isSpace (c : CodePoint) : Bool := c == ' ' || c == '\t' || c == '\n' || c == '\r'

/-- The text without the spaces in front. -/
def skipSpace (t : Text) : Text := t.dropWhile isSpace

/-! ## Strings -/

/-- The character of a one-letter escape. -/
def shortEscape? (c : CodePoint) : Option CodePoint :=
  if c = '\x22' || c = '\\' || c = '/' then some c
  else if c = 'b' then some '\x08'
  else if c = 'f' then some '\x0c'
  else if c = 'n' then some '\n'
  else if c = 'r' then some '\r'
  else if c = 't' then some '\t'
  else none

/-- The number that four hexadecimal digits in front spell. -/
def readHex4 : Text → Option (Nat × Text)
  | a :: b :: c :: d :: rest =>
    match hexValue? a, hexValue? b, hexValue? c, hexValue? d with
    | some a, some b, some c, some d => some (((a * 16 + b) * 16 + c) * 16 + d, rest)
    | _, _, _, _ => none
  | _ => none

/-- The code point of an escape by number, whose `u` stands in front. The escape must not end the
    text, and two escapes may make one character together; half of such a pair on its own stays a
    surrogate. -/
def readUnit (t : Text) : Step CodePoint :=
  match readHex4 (t.drop 1) with
  | none => .error (.unexpected t)
  | some (_, []) => .error (.unexpected t)
  | some (high, rest) =>
    match rest with
    | '\\' :: 'u' :: more =>
      if isHighSurrogate high && 4 < more.length then
        match readHex4 more with
        | none => .error (.unexpected (.char 'u' :: more))
        | some (low, rest') =>
          if isLowSurrogate low then .ok (CodePoint.ofNat (joinSurrogates high low), rest')
          else .ok (CodePoint.ofNat high, rest)
      else .ok (CodePoint.ofNat high, rest)
    | _ => .ok (CodePoint.ofNat high, rest)

/-- The rest of a string whose opening quote stands at the front of `opening`. -/
def readString (opening : Text) : (fuel : Nat) → Text → Step Text
  | 0, _ => .error (.unexpected opening)
  | _ + 1, [] => .error (.unexpected opening)
  | fuel + 1, c :: rest =>
    if c = '\x22' then .ok ([], rest)
    else if c = '\\' then
      match rest with
      | [] => .error (.unexpected opening)
      | e :: rest' =>
        let step : Step CodePoint :=
          if e = 'u' then readUnit rest
          else match shortEscape? e with
            | some r => .ok (r, rest')
            | none => .error (.unexpected (c :: rest))
        match step with
        | .error s => .error s
        | .ok (r, rest'') => (readString opening fuel rest'').map fun s => (r :: s.1, s.2)
    else if c.toNat < 0x20 then .error (.unexpected (c :: rest))
    else (readString opening fuel rest).map fun s => (c :: s.1, s.2)

/-! ## Numbers -/

/-- Whether a character is a decimal digit. -/
def isDigit (c : CodePoint) : Bool := 48 ≤ c.toNat && c.toNat ≤ 57

/-- The number that digits spell. -/
def digitsValue (ds : Text) : Nat := ds.foldl (fun n c => 10 * n + (c.toNat - 48)) 0

/-- The digits of a fraction, if a point and a digit stand in front. -/
def readFraction : Text → Option (Text × Text)
  | '.' :: c :: rest =>
    if isDigit c then some ((c :: rest).takeWhile isDigit, (c :: rest).dropWhile isDigit) else none
  | _ => none

/-- The exponent, if its letter and a digit, with a sign between them or not, stand in front. -/
def readExponent : Text → Option (Int × Text)
  | e :: rest =>
    if e = 'e' || e = 'E' then
      let (negative, digits) := match rest with
        | '-' :: more => (true, more)
        | '+' :: more => (false, more)
        | _ => (false, rest)
      match digits.takeWhile isDigit with
      | [] => none
      | ds =>
        let n := Int.ofNat (digitsValue ds)
        some (if negative then -n else n, digits.dropWhile isDigit)
    else none
  | [] => none

/-- The digits in front of the point: a lone zero, or digits that start with none. -/
def readWhole : Text → Option (Text × Text)
  | '0' :: rest => some (['0'], rest)
  | t =>
    match t.takeWhile isDigit with
    | [] => none
    | ds => some (ds, t.dropWhile isDigit)

/-- A number whose sign has been read and whose text with the sign is `whole`. -/
def readNumber (negative : Bool) (whole t : Text) : Step Json :=
  match readWhole t with
  | none => .error (.unexpected whole)
  | some (ds, rest) =>
    let signed (n : Nat) : Int := if negative then -(Int.ofNat n) else Int.ofNat n
    let fraction := readFraction rest
    let (fs, rest') := fraction.getD ([], rest)
    let power := readExponent rest'
    let (exponent, rest'') := power.getD (0, rest')
    if fraction.isNone && power.isNone then
      if digitLimit < ds.length then .error .limit
      else .ok (.integer (signed (digitsValue ds)), rest)
    else
      let d : Decimal := ⟨signed (digitsValue (ds ++ fs)), exponent - fs.length⟩
      .ok (if d.overflows then .nonfinite else .decimal d, rest'')

/-! ## Values -/

/-- What follows `word`, if the text begins with it. -/
def readWord? (word : String) (t : Text) : Option Text :=
  if word.points.isPrefixOf t then some (t.drop word.length) else none

/-- The values that are written as words. -/
def wordValues : List (String × Json) :=
  [("null", .null), ("true", .boolean true), ("false", .boolean false), ("NaN", .nonfinite),
    ("Infinity", .nonfinite), ("-Infinity", .nonfinite)]

/-- A value that is no list, object or string. -/
def readScalar (t : Text) : Step Json :=
  match wordValues.findSome? fun w => (readWord? w.1 t).map fun rest => (w.2, rest) with
  | some r => .ok r
  | none =>
    match t with
    | '-' :: rest => readNumber true t rest
    | _ => readNumber false t t

mutual

/-- The value in front, inside `depth` lists and objects. -/
def readValue (fuel depth : Nat) (t : Text) : Step Json :=
  match fuel with
  | 0 => .error (.unexpected t)
  | fuel + 1 =>
    match t with
    | '\x22' :: rest => (readString t rest.length.succ rest).map fun s => (.text s.1, s.2)
    | '\x5b' :: rest =>
      if nestingLimit ≤ depth then .error .limit
      else match skipSpace rest with
        | '\x5d' :: rest' => .ok (.list [], rest')
        | rest' => (readItems fuel (depth + 1) rest').map fun s => (.list s.1, s.2)
    | '\x7b' :: rest =>
      if nestingLimit ≤ depth then .error .limit
      else match skipSpace rest with
        | '\x7d' :: rest' => .ok (.object [], rest')
        | rest' => (readMembers fuel (depth + 1) [] rest').map fun s => (.object s.1, s.2)
    | _ => readScalar t

/-- The items of a list up to its closing bracket; at least one. -/
def readItems (fuel depth : Nat) (t : Text) : Step (List Json) :=
  match fuel with
  | 0 => .error (.unexpected t)
  | fuel + 1 =>
    match readValue fuel depth t with
    | .error s => .error s
    | .ok (v, rest) =>
      match skipSpace rest with
      | '\x5d' :: rest' => .ok ([v], rest')
      | ',' :: rest' => (readItems fuel depth (skipSpace rest')).map fun s => (v :: s.1, s.2)
      | rest' => .error (.unexpected rest')

/-- The members of an object up to its closing brace, added to those in `members`; at least one.
    -/
def readMembers (fuel depth : Nat) (members : List (Text × Json)) (t : Text) :
    Step (List (Text × Json)) :=
  match fuel with
  | 0 => .error (.unexpected t)
  | fuel + 1 =>
    match t with
    | '\x22' :: rest =>
      match readString t rest.length.succ rest with
      | .error s => .error s
      | .ok (name, rest) =>
        match skipSpace rest with
        | ':' :: rest =>
          match readValue fuel depth (skipSpace rest) with
          | .error s => .error s
          | .ok (v, rest) =>
            match skipSpace rest with
            | '\x7d' :: rest => .ok (putMember name v members, rest)
            | ',' :: rest => readMembers fuel depth (putMember name v members) (skipSpace rest)
            | rest => .error (.unexpected rest)
        | rest => .error (.unexpected rest)
    | _ => .error (.unexpected t)

end

/-! ## Whole texts -/

/-- Why a body is no JSON value: wrong at a position, or unreadable. -/
inductive Fault
  | wrongAt (position : Nat)
  | unreadable
  deriving DecidableEq

/-- The value that a text is, with spaces around it. -/
def ofText (t : Text) : Except Fault Json :=
  match readValue (2 * t.length + 2) 0 (skipSpace t) with
  | .error .limit => .error .unreadable
  | .error (.unexpected rest) => .error (.wrongAt (t.length - rest.length))
  | .ok (v, rest) =>
    match skipSpace rest with
    | [] => .ok v
    | rest => .error (.wrongAt (t.length - rest.length))

/-- The value that octets hold. -/
def ofBytes (bs : Bytes) : Except Fault Json :=
  match decodeText bs with
  | none => .error .unreadable
  | some t => ofText t

end InviteLink.Json
