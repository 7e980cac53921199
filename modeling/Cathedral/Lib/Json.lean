import Cathedral.Lib.PyStr
import Mathlib.Data.List.Sort

/-!
# Cathedral.Lib.Json — JSON as Python reads and writes it

Documents, the reader of `json.loads` with its hooks, and the writer of `json.dumps`
with ASCII escapes and no blanks. Numbers are of any type: what an integer, a
fraction or a constant such as `NaN` becomes, and whether it is let in at all, is
decided by hooks. A member that repeats a key is refused. The reader opens containers
up to a depth, where the interpreter raises `RecursionError`.
-/

namespace Cathedral

/-- A document with numbers of type `ν`. An object lists its members in order. -/
inductive Json (ν : Type) where
  | null
  | bool (b : Bool)
  | num (n : ν)
  | str (s : PyStr)
  | arr (items : List (Json ν))
  | obj (members : List (PyStr × Json ν))
deriving Inhabited

namespace Json

variable {ν ε : Type}

/-! ## Equality -/

mutual

def decEq [DecidableEq ν] : (i j : Json ν) → Decidable (i = j)
  | .null, .null => isTrue rfl
  | .bool a, .bool b => decidable_of_iff (a = b) (by simp)
  | .num a, .num b => decidable_of_iff (a = b) (by simp)
  | .str a, .str b => decidable_of_iff (a = b) (by simp)
  | .arr xs, .arr ys =>
    have := decEqItems xs ys
    decidable_of_iff (xs = ys) (by simp)
  | .obj ms, .obj ns =>
    have := decEqMembers ms ns
    decidable_of_iff (ms = ns) (by simp)
  | .null, .bool _ | .null, .num _ | .null, .str _ | .null, .arr _ | .null, .obj _
  | .bool _, .null | .bool _, .num _ | .bool _, .str _ | .bool _, .arr _ | .bool _, .obj _
  | .num _, .null | .num _, .bool _ | .num _, .str _ | .num _, .arr _ | .num _, .obj _
  | .str _, .null | .str _, .bool _ | .str _, .num _ | .str _, .arr _ | .str _, .obj _
  | .arr _, .null | .arr _, .bool _ | .arr _, .num _ | .arr _, .str _ | .arr _, .obj _
  | .obj _, .null | .obj _, .bool _ | .obj _, .num _ | .obj _, .str _ | .obj _, .arr _ =>
    isFalse (by simp)

def decEqItems [DecidableEq ν] : (xs ys : List (Json ν)) → Decidable (xs = ys)
  | [], [] => isTrue rfl
  | [], _ :: _ | _ :: _, [] => isFalse (by simp)
  | x :: xs, y :: ys =>
    have := decEq x y
    have := decEqItems xs ys
    decidable_of_iff (x = y ∧ xs = ys) (by simp)

def decEqMembers [DecidableEq ν] : (ms ns : List (PyStr × Json ν)) → Decidable (ms = ns)
  | [], [] => isTrue rfl
  | [], _ :: _ | _ :: _, [] => isFalse (by simp)
  | (k, x) :: ms, (l, y) :: ns =>
    have := decEq x y
    have := decEqMembers ms ns
    decidable_of_iff (k = l ∧ x = y ∧ ms = ns) (by simp [and_assoc])

end

instance [DecidableEq ν] : DecidableEq (Json ν) := decEq

/-! ## Writing -/

/-- `sort_keys` on the members of one object. -/
def sortMembers (members : List (PyStr × Json ν)) : List (PyStr × Json ν) :=
  members.insertionSort fun a b => a.1 ≤ b.1

mutual

/-- `sort_keys`. -/
def sorted : Json ν → Json ν
  | .null => .null
  | .bool b => .bool b
  | .num n => .num n
  | .str s => .str s
  | .arr items => .arr (sortedItems items)
  | .obj members => .obj (sortMembers (sortedMembers members))

def sortedItems : List (Json ν) → List (Json ν)
  | [] => []
  | x :: xs => sorted x :: sortedItems xs

def sortedMembers : List (PyStr × Json ν) → List (PyStr × Json ν)
  | [] => []
  | (key, x) :: members => (key, sorted x) :: sortedMembers members

end

/-- A hexadecimal digit, in lower case. -/
def hexDigit (n : ℕ) : Char := Nat.digitChar n

/-- `\uXXXX`. -/
def escapeUnit (p : CodePoint) : List Char :=
  ['\\', 'u', hexDigit (p.val / 4096 % 16), hexDigit (p.val / 256 % 16),
    hexDigit (p.val / 16 % 16), hexDigit (p.val % 16)]

/-- The escapes of one letter, as the reader and the writer know them. -/
def shortEscapes : List (Char × Char) :=
  [('"', '"'), ('\\', '\\'), ('b', '\x08'), ('f', '\x0c'), ('n', '\n'), ('r', '\r'), ('t', '\t')]

/-- One code point below `0x10000` inside a string. -/
def quoteUnit (p : CodePoint) : List Char :=
  match shortEscapes.find? fun e => CodePoint.ofChar e.2 = p with
  | some (letter, _) => ['\\', letter]
  | none => if 0x20 ≤ p.val ∧ p.val ≤ 0x7e then [Char.ofNat p.val] else escapeUnit p

/-- The halves of a code point from `0x10000` on. -/
def highHalf (p : CodePoint) : CodePoint := Fin.ofNat _ (0xD800 + (p.val - 0x10000) / 0x400)

def lowHalf (p : CodePoint) : CodePoint := Fin.ofNat _ (0xDC00 + (p.val - 0x10000) % 0x400)

def splitPairs (s : PyStr) : PyStr :=
  s.flatMap fun p => if 0x10000 ≤ p.val then [highHalf p, lowHalf p] else [p]

def quote (s : PyStr) : List Char := '"' :: (splitPairs s).flatMap quoteUnit ++ ['"']

/-- Texts between commas, and what closes them. -/
def separated (close : Char) : List (List Char) → List Char
  | [] => [close]
  | [text] => text ++ [close]
  | text :: texts => text ++ ',' :: separated close texts

mutual

/-- `json.dumps` without blanks. -/
def render (numeral : ν → List Char) : Json ν → List Char
  | .null => "null".toList
  | .bool true => "true".toList
  | .bool false => "false".toList
  | .num n => numeral n
  | .str s => quote s
  | .arr items => '[' :: separated ']' (renderItems numeral items)
  | .obj members => '{' :: separated '}' (renderMembers numeral members)

def renderItems (numeral : ν → List Char) : List (Json ν) → List (List Char)
  | [] => []
  | x :: xs => render numeral x :: renderItems numeral xs

def renderMembers (numeral : ν → List Char) : List (PyStr × Json ν) → List (List Char)
  | [] => []
  | (key, x) :: members =>
    (quote key ++ ':' :: render numeral x) :: renderMembers numeral members

end

mutual

/-- Containers up to a depth, and numbers that can be written. -/
def fits (okNum : ν → Bool) : ℕ → Json ν → Bool
  | _, .null => true
  | _, .bool _ => true
  | _, .num n => okNum n
  | _, .str _ => true
  | 0, .arr _ => false
  | depth + 1, .arr items => fitsItems okNum depth items
  | 0, .obj _ => false
  | depth + 1, .obj members => fitsMembers okNum depth members

def fitsItems (okNum : ν → Bool) : ℕ → List (Json ν) → Bool
  | _, [] => true
  | depth, x :: xs => fits okNum depth x && fitsItems okNum depth xs

def fitsMembers (okNum : ν → Bool) : ℕ → List (PyStr × Json ν) → Bool
  | _, [] => true
  | depth, (_, x) :: members => fits okNum depth x && fitsMembers okNum depth members

end

/-! ## Reading -/

/-- Why a text is not read. -/
inductive ReadError (ε : Type) where
  | malformed
  | tooDeep
  | hook (e : ε)

/-- The hooks of `json.loads`. -/
structure Hooks (ν ε : Type) where
  int : List Char → Except ε ν
  float : List Char → Except ε ν
  constant : List Char → Except ε ν
  duplicate : PyStr → ε

/-- A reader takes a value off the start of a text. -/
abbrev Reader (ε α : Type) : Type := List Char → Except (ReadError ε) (α × List Char)

def malformed {α : Type} : Except (ReadError ε) α := .error .malformed

/-- What a hook answers. -/
def hooked {α : Type} (x : Except ε α) : Except (ReadError ε) α :=
  match x with
  | .ok a => .ok a
  | .error e => .error (.hook e)

def isSpace (c : Char) : Bool := c = ' ' || c = '\t' || c = '\n' || c = '\r'

def skip (text : List Char) : List Char := text.dropWhile isSpace

/-- A word at the start of a text. -/
def word : List Char → List Char → Option (List Char)
  | [], text => some text
  | _ :: _, [] => none
  | w :: ws, c :: text => if c = w then word ws text else none

def hexValue? (c : Char) : Option ℕ :=
  if c.isDigit then some (c.toNat - '0'.toNat)
  else if 'a' ≤ c ∧ c ≤ 'f' then some (c.toNat - 'a'.toNat + 10)
  else if 'A' ≤ c ∧ c ≤ 'F' then some (c.toNat - 'A'.toNat + 10)
  else none

/-- Four hexadecimal digits. -/
def hex4 : Reader ε CodePoint
  | a :: b :: c :: d :: rest =>
    match hexValue? a, hexValue? b, hexValue? c, hexValue? d with
    | some a, some b, some c, some d =>
      .ok (Fin.ofNat _ (((a * 16 + b) * 16 + c) * 16 + d), rest)
    | _, _, _, _ => malformed
  | _ => malformed

/-- What follows a backslash. -/
def escape : Reader ε CodePoint
  | [] => malformed
  | letter :: rest =>
    if letter = 'u' then hex4 rest
    else
      match (('/', '/') :: shortEscapes).find? fun e => e.1 = letter with
      | some (_, c) => .ok (CodePoint.ofChar c, rest)
      | none => malformed

/-- A code point inside a string, or one half of a pair. -/
def unit (c : Char) : Reader ε CodePoint := fun rest =>
  if c = '\\' then escape rest
  else if c.toNat < 0x20 then malformed
  else .ok (CodePoint.ofChar c, rest)

/-- The code points up to the closing quote; `n` bounds their number. -/
def units : ℕ → Reader ε PyStr
  | 0, _ => malformed
  | _ + 1, [] => malformed
  | n + 1, c :: rest =>
    if c = '"' then .ok ([], rest)
    else do
      let (p, rest) ← unit c rest
      let (ps, rest) ← units n rest
      .ok (p :: ps, rest)

/-- The code point of a surrogate pair. -/
def pairOf (high low : CodePoint) : CodePoint :=
  Fin.ofNat _ (0x10000 + (high.val - 0xD800) * 0x400 + (low.val - 0xDC00))

def joinPairs : PyStr → PyStr
  | [] => []
  | [p] => [p]
  | p :: q :: rest =>
    if p.IsHigh ∧ q.IsLow then pairOf p q :: joinPairs rest else p :: joinPairs (q :: rest)

/-- A string after its opening quote. -/
def string : Reader ε PyStr := fun text => do
  let (ps, rest) ← units (text.length + 1) text
  .ok (joinPairs ps, rest)

/-- The integer part of a number. -/
def intPart : Reader ε (List Char)
  | [] => malformed
  | c :: rest =>
    if c = '0' then .ok (['0'], rest)
    else if c.isDigit then
      .ok ((c :: rest).takeWhile Char.isDigit, (c :: rest).dropWhile Char.isDigit)
    else malformed

/-- A point with at least one digit. -/
def fraction : List Char → List Char × List Char
  | '.' :: rest =>
    if (rest.takeWhile Char.isDigit).isEmpty then ([], '.' :: rest)
    else ('.' :: rest.takeWhile Char.isDigit, rest.dropWhile Char.isDigit)
  | text => ([], text)

/-- An optional sign. -/
def sign (signs : List Char) : List Char → List Char × List Char
  | [] => ([], [])
  | c :: rest => if c ∈ signs then ([c], rest) else ([], c :: rest)

/-- An exponent with at least one digit. -/
def exponent : List Char → List Char × List Char
  | [] => ([], [])
  | c :: text =>
    let (signed, rest) := sign ['+', '-'] text
    if (c = 'e' ∨ c = 'E') ∧ ¬ (rest.takeWhile Char.isDigit).isEmpty then
      (c :: signed ++ rest.takeWhile Char.isDigit, rest.dropWhile Char.isDigit)
    else ([], c :: text)

def number (hooks : Hooks ν ε) : Reader ε (Json ν) := fun text => do
  let (minus, rest) := sign ['-'] text
  let (whole, rest) ← intPart rest
  let (part, rest) := fraction rest
  let (power, rest) := exponent rest
  let n ← hooked (if part = [] ∧ power = [] then hooks.int (minus ++ whole)
    else hooks.float (minus ++ whole ++ part ++ power))
  .ok (.num n, rest)

/-- A literal, or a constant that JSON does not have. -/
def scalar (hooks : Hooks ν ε) : Reader ε (Json ν) := fun text =>
  match word "null".toList text, word "true".toList text, word "false".toList text with
  | some rest, _, _ => .ok (.null, rest)
  | _, some rest, _ => .ok (.bool true, rest)
  | _, _, some rest => .ok (.bool false, rest)
  | none, none, none =>
    match ["NaN".toList, "Infinity".toList, "-Infinity".toList].find? fun w =>
      (word w text).isSome with
    | some constant => do
      let n ← hooked (hooks.constant constant)
      .ok (.num n, text.drop constant.length)
    | none => number hooks text

/-- The entries of a container after what opens it; `n` bounds their number. -/
def sequence {α : Type} (close : Char) (entry : Reader ε α) : ℕ → Reader ε (List α)
  | 0, _ => malformed
  | n + 1, text => do
    let (x, rest) ← entry text
    match skip rest with
    | [] => malformed
    | c :: rest =>
      if c = close then .ok ([x], rest)
      else if c = ',' then do
        let (xs, rest) ← sequence close entry n (skip rest)
        .ok (x :: xs, rest)
      else malformed

/-- A key with its colon. -/
def key : Reader ε PyStr
  | [] => malformed
  | c :: text =>
    if c = '"' then do
      let (name, rest) ← string text
      match skip rest with
      | [] => malformed
      | c :: rest => if c = ':' then .ok (name, skip rest) else malformed
    else malformed

def member (item : Reader ε (Json ν)) : Reader ε (PyStr × Json ν) := fun text => do
  let (name, rest) ← key text
  let (x, rest) ← item rest
  .ok ((name, x), rest)

/-- What a container holds, up to what closes it. -/
def contents {α : Type} (close : Char) (entry : Reader ε α) : Reader ε (List α) := fun text =>
  match word [close] (skip text) with
  | some rest => .ok ([], rest)
  | none => sequence close entry (text.length + 1) (skip text)

/-- The first key that repeats an earlier one. -/
def repeated : List PyStr → List PyStr → Option PyStr
  | _, [] => none
  | seen, name :: names => if name ∈ seen then some name else repeated (name :: seen) names

/-- The members of an object, once its brace is closed. -/
def distinct (hooks : Hooks ν ε) (ms : List (PyStr × Json ν)) : Except (ReadError ε) (Json ν) :=
  match repeated [] (ms.map Prod.fst) with
  | some name => .error (.hook (hooks.duplicate name))
  | none => .ok (.obj ms)

/-- A value; `inner` reads what is inside a container, where one may still be opened. -/
def valueOf (hooks : Hooks ν ε) (inner : Option (Reader ε (Json ν))) : Reader ε (Json ν)
  | [] => malformed
  | c :: text =>
    if c = '"' then do
      let (s, rest) ← string text
      .ok (.str s, rest)
    else if c = '[' then
      match inner with
      | none => .error .tooDeep
      | some item => do
        let (xs, rest) ← contents ']' item text
        .ok (.arr xs, rest)
    else if c = '{' then
      match inner with
      | none => .error .tooDeep
      | some item => do
        let (ms, rest) ← contents '}' (member item) text
        let object ← distinct hooks ms
        .ok (object, rest)
    else scalar hooks (c :: text)

/-- A value with containers up to a depth. -/
def value (hooks : Hooks ν ε) : ℕ → Reader ε (Json ν)
  | 0 => valueOf hooks none
  | depth + 1 => valueOf hooks (some (value hooks depth))

def loads (hooks : Hooks ν ε) (depth : ℕ) (text : List Char) : Except (ReadError ε) (Json ν) := do
  let (document, rest) ← value hooks depth (skip text)
  if skip rest = [] then .ok document else malformed

end Json

end Cathedral
