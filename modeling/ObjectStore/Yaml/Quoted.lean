import ObjectStore.Text.Digits
import ObjectStore.Yaml.Spot

/-! # Quoted scalars

Between single quotes a quote is written twice and nothing else is special; between double quotes a
backslash begins an escape. Both go on over line ends, which read as `Spot.folded` says; the blanks
around a line end do not count.

* `Quoted.read`: the text of a scalar after its opening quote, and the rest. -/

namespace ObjectStore.Yaml.Quoted

/-- The character that a one-letter escape stands for. -/
def simpleEscape? : Char → Option Char
  | '0' => some '\x00'
  | 'a' => some '\x07'
  | 'b' => some '\x08'
  | 't' => some '\t'
  | '\t' => some '\t'
  | 'n' => some '\n'
  | 'v' => some '\x0b'
  | 'f' => some '\x0c'
  | 'r' => some '\r'
  | 'e' => some '\x1b'
  | ' ' => some ' '
  | '"' => some '"'
  | '\\' => some '\\'
  | '/' => some '/'
  | 'N' => some '\x85'
  | '_' => some '\xA0'
  | 'L' => some '\u2028'
  | 'P' => some '\u2029'
  | _ => none

/-- The number of digits of an escape by number. -/
def escapeWidth? : Char → Option Nat
  | 'x' => some 2
  | 'u' => some 4
  | 'U' => some 8
  | _ => none

/-- The character of a number. -/
def characterOf (n : Nat) : Except Failure Char :=
  if 0x7FFFFFFF < n then .error .overflow
  else if 0x10FFFF < n then .error (.badValue .notCharacter)
  else .ok (Char.ofNat n)

/-- The character of the escape at the front, after the backslash, and how many characters it
took. -/
def escape : List Char → Except Failure (Char × Nat)
  | [] => malformed
  | c :: cs =>
    match escapeWidth? c with
    | some width =>
      let digits := cs.take width
      if digits.length = width ∧ digits.all fun d => (Text.digitValue? 16 d).isSome then
        (characterOf (Text.digitsNat 16 digits)).map fun d => (d, width + 1)
      else malformed
    | none =>
      match simpleEscape? c with
      | some d => .ok (d, 1)
      | none => malformed

/-- The ends of the empty lines in front and the rest; no document may start or end there. -/
def emptyLines (s : List Spot) : Except Failure (List Char × List Spot) :=
  match Spot.emptyLines isBlank true s with
  | (some ends, rest) => .ok (ends, rest)
  | (none, _) => malformed

/-- What blanks and a line end in front read as, and the rest. -/
def gap (s : List Spot) : Except Failure (List Char × List Spot) :=
  match s.dropWhile fun c => isBlank c.char with
  | [] => malformed
  | next :: rest =>
    if isBreak next.char then
      (emptyLines rest).map fun (ends, rest) => (Spot.folded next.char ends, rest)
    else .ok (Spot.chars (s.takeWhile fun c => isBlank c.char), next :: rest)

/-- The characters up to the closing quote, and the rest. -/
def readFrom (double : Bool) : Nat → List Spot → Except Failure (List Char × List Spot)
  | 0, _ => malformed
  | _ + 1, [] => malformed
  | fuel + 1, c :: rest =>
    let after (shown : List Char) (rest : List Spot) : Except Failure (List Char × List Spot) :=
      (readFrom double fuel rest).map fun (cs, last) => (shown ++ cs, last)
    if c.char == (if double then '"' else '\'') then
      -- Two single quotes in a row stand for one.
      if !double && Spot.startsWith (· == '\'') rest then after ['\''] (rest.drop 1)
      else .ok ([], rest)
    else if double && c.char == '\\' then
      -- A line end behind a backslash is left out, with the blanks in front of the next line.
      if Spot.startsWith isBreak rest then do
        let (ends, rest) ← emptyLines (rest.drop 1)
        after ends rest
      else do
        let (d, width) ← escape (Spot.chars (rest.take 9))
        after [d] (rest.drop width)
    else if isGap c.char then do
      let (shown, rest) ← gap (c :: rest)
      after shown rest
    else after [c.char] rest

/-- The text of a scalar after its opening quote, and the rest. -/
def read (double : Bool) (s : List Spot) : Except Failure (String × List Spot) :=
  (readFrom double (s.length + 1) s).map fun (cs, rest) => (String.ofList cs, rest)

end ObjectStore.Yaml.Quoted
