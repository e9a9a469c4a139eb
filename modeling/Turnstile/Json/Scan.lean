/-
Reading the tokens of a JSON text.

Every reader takes the characters that are left and answers with what it read and the
characters after it, or with the first problem it met.  A text that ends inside a token
is told apart from one that goes wrong, because whoever sends more text can mend the
first and not the second.
-/
namespace Turnstile.Json

/-- What is wrong with a text, by the first thing that is. -/
inductive Problem where
  /-- The text ends inside a value. -/
  | truncated
  /-- The text is not JSON, or goes on after its value. -/
  | malformed
  /-- The text is JSON so far, but not what the reader is to read. -/
  | mistyped
  deriving DecidableEq, Repr

/-! ### Blanks and words -/

def isBlank (c : Char) : Bool := c = ' ' || c = '\n' || c = '\t' || c = '\r'

/-- What is left after blanks. -/
def skipBlanks (cs : List Char) : List Char := cs.dropWhile isBlank

/-- What is left after a word that has to stand next. -/
def expect : List Char → List Char → Except Problem (List Char)
  | [], cs => .ok cs
  | _ :: _, [] => .error .truncated
  | w :: ws, c :: cs => if c = w then expect ws cs else .error .malformed

/-! ### Strings -/

/-- The value of a hexadecimal digit. -/
def hexValue? (c : Char) : Option Nat :=
  if '0' ≤ c ∧ c ≤ '9' then some (c.toNat - '0'.toNat)
  else if 'a' ≤ c ∧ c ≤ 'f' then some (c.toNat - 'a'.toNat + 10)
  else if 'A' ≤ c ∧ c ≤ 'F' then some (c.toNat - 'A'.toNat + 10)
  else none

/-- The character a one-letter escape stands for. -/
def escapeOf? : Char → Option Char
  | '"' => some '"'
  | '\\' => some '\\'
  | '/' => some '/'
  | 'b' => some '\x08'
  | 'f' => some '\x0c'
  | 'n' => some '\n'
  | 'r' => some '\r'
  | 't' => some '\t'
  | _ => none

/-- The bytes a text takes in UTF-8. -/
def byteCount (cs : List Char) : Nat := cs.foldl (fun n c => n + c.utf8Size) 0

/-- What is wrong with an escape of four digits when a character that is none stands after
`count` of them: the text counts as cut short if it is over before four bytes. -/
def badDigit (count : Nat) (cs : List Char) : Problem :=
  if count + byteCount cs < 4 then .truncated else .malformed

/-- Where the reader stands inside a string. -/
inductive StringState where
  | plain
  /-- After a backslash. -/
  | escape
  /-- Among the four digits of an escape: the leading half read before it, if any, the digits
  read and their value. -/
  | digits (leading : Option Nat) (count value : Nat)
  /-- After a leading half, which a trailing half has to follow. -/
  | leading (half : Nat)
  /-- After a leading half and a backslash. -/
  | leadingEscape (half : Nat)
  deriving DecidableEq, Repr

def isLeading (n : Nat) : Bool := 0xD800 ≤ n && n ≤ 0xDBFF

def isTrailing (n : Nat) : Bool := 0xDC00 ≤ n && n ≤ 0xDFFF

/-- The character that two halves stand for. -/
def paired (leading trailing : Nat) : Char :=
  Char.ofNat ((leading - 0xD800) * 0x400 + (trailing - 0xDC00) + 0x10000)

/-- What an escape of four digits comes to: a character, a leading half to be completed, or
nothing that a string can hold. -/
def resolve (leading : Option Nat) (value : Nat) : Except Problem (Char ⊕ Nat) :=
  match leading with
  | some half => if isTrailing value then .ok (.inl (paired half value)) else .error .malformed
  | none =>
    if isTrailing value then .error .malformed
    else if isLeading value then .ok (.inr value)
    else .ok (.inl (Char.ofNat value))

/-- Puts a character in front of what is read after it. -/
def prepend (c : Char) (read : Except Problem (List Char × List Char)) :
    Except Problem (List Char × List Char) :=
  read.map fun (s, rest) => (c :: s, rest)

/-- Reads a string after its opening quote, up to and with its closing one. -/
def readString : StringState → List Char → Except Problem (List Char × List Char)
  | _, [] => .error .truncated
  | .plain, c :: cs =>
    if c = '"' then .ok ([], cs)
    else if c = '\\' then readString .escape cs
    else if c.toNat < 32 then .error .malformed
    else prepend c (readString .plain cs)
  | .escape, c :: cs =>
    if c = 'u' then readString (.digits none 0 0) cs
    else
      match escapeOf? c with
      | some d => prepend d (readString .plain cs)
      | none => .error .malformed
  | .digits leading count value, c :: cs =>
    match hexValue? c with
    | none => .error (badDigit count (c :: cs))
    | some digit =>
      let value := value * 16 + digit
      if count < 3 then readString (.digits leading (count + 1) value) cs
      else
        match resolve leading value with
        | .error problem => .error problem
        | .ok (.inl d) => prepend d (readString .plain cs)
        | .ok (.inr half) => readString (.leading half) cs
  | .leading half, c :: cs =>
    if c = '\\' then readString (.leadingEscape half) cs else .error .malformed
  | .leadingEscape half, c :: cs =>
    if c = 'u' then readString (.digits (some half) 0 0) cs else .error .malformed

/-- Where the reader stands inside a string that it passes over. -/
inductive PassState where
  | plain
  | escape
  /-- Among the four digits of an escape. -/
  | digits (count : Nat)
  deriving DecidableEq, Repr

/-- Passes over a string after its opening quote; the halves of an escaped character need not
pair up in a string nobody reads. -/
def passString : PassState → List Char → Except Problem (List Char)
  | _, [] => .error .truncated
  | .plain, c :: cs =>
    if c = '"' then .ok cs
    else if c = '\\' then passString .escape cs
    else if c.toNat < 32 then .error .malformed
    else passString .plain cs
  | .escape, c :: cs =>
    if c = 'u' then passString (.digits 0) cs
    else if (escapeOf? c).isSome then passString .plain cs
    else .error .malformed
  | .digits count, c :: cs =>
    if (hexValue? c).isNone then .error (badDigit count (c :: cs))
    else if count < 3 then passString (.digits (count + 1)) cs
    else passString .plain cs

/-! ### Between the parts of arrays and objects -/

/-- Steps to the next item of an array: what is left at its start, or none at the closing
bracket. -/
def nextItem (first : Bool) (cs : List Char) : Except Problem (Option (List Char)) :=
  match skipBlanks cs with
  | [] => .error .truncated
  | ']' :: _ => .ok none
  | ',' :: rest =>
    if first then .ok (some (',' :: rest))
    else
      match skipBlanks rest with
      | [] => .error .truncated
      | ']' :: _ => .error .malformed
      | rest => .ok (some rest)
  | rest => if first then .ok (some rest) else .error .malformed

/-- Steps to the next field of an object: what is left after the opening quote of its key, or
none at the closing brace. -/
def nextField (first : Bool) (cs : List Char) : Except Problem (Option (List Char)) :=
  match skipBlanks cs with
  | [] => .error .truncated
  | '}' :: _ => .ok none
  | '"' :: rest => if first then .ok (some rest) else .error .malformed
  | ',' :: rest =>
    if first then .error .malformed
    else
      match skipBlanks rest with
      | [] => .error .truncated
      | '"' :: rest => .ok (some rest)
      | _ => .error .malformed
  | _ => .error .malformed

/-- What is left after the bracket that has to close an array now. -/
def closeArray (cs : List Char) : Except Problem (List Char) :=
  match skipBlanks cs with
  | [] => .error .truncated
  | ']' :: rest => .ok rest
  | _ => .error .malformed

/-- What is left after the brace that has to close an object now. -/
def closeObject (cs : List Char) : Except Problem (List Char) :=
  match skipBlanks cs with
  | [] => .error .truncated
  | '}' :: rest => .ok rest
  | _ => .error .malformed

/-- What is left after the colon between a key and its value. -/
def passColon (cs : List Char) : Except Problem (List Char) :=
  match skipBlanks cs with
  | [] => .error .truncated
  | ':' :: rest => .ok rest
  | _ => .error .malformed

/-- After its value a text holds blanks only. -/
def expectEnd (cs : List Char) : Except Problem Unit :=
  if (skipBlanks cs).isEmpty then .ok () else .error .malformed

end Turnstile.Json
