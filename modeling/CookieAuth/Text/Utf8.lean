/-!
# Bytes and text

Reading bytes as UTF-8.  Ill-formed input is read piece by piece: each longest run of bytes that
starts some well-formed character without completing it, and each other byte that fits nowhere, is
one gap.

## Main definitions

* `readPieces`: the characters of a byte list in order, with `none` for each gap;
* `readText?`: the text of a well-formed byte list;
* `readLossy`: the text of any byte list, each gap shown as the replacement character;
* `firstGap?`: where a byte list stops being well-formed;
* `bytesOf`: the bytes of a text.
-/

namespace CookieAuth.Text

/-- The bytes of a text. -/
def bytesOf (s : String) : List UInt8 :=
  s.toList.flatMap String.utf8EncodeChar

/-- Whether a byte continues a character. -/
def isContinuation (b : UInt8) : Bool :=
  0x80 ≤ b && b ≤ 0xBF

/-- The number of bytes that follow a leading byte. -/
def followers (b : UInt8) : Nat :=
  if 0xC2 ≤ b && b ≤ 0xDF then 1
  else if 0xE0 ≤ b && b ≤ 0xEF then 2
  else if 0xF0 ≤ b && b ≤ 0xF4 then 3
  else 0

/-- Whether `b` may stand right after the leading byte: overlong forms, surrogates and numbers past
the last code point are excluded here. -/
def fitsAfter (leading b : UInt8) : Bool :=
  if leading = 0xE0 then 0xA0 ≤ b && b ≤ 0xBF
  else if leading = 0xED then 0x80 ≤ b && b ≤ 0x9F
  else if leading = 0xF0 then 0x90 ≤ b && b ≤ 0xBF
  else if leading = 0xF4 then 0x80 ≤ b && b ≤ 0x8F
  else isContinuation b

/-- The code point with the given leading part and one more continuation byte. -/
def extendCode (n : Nat) (b : UInt8) : Nat :=
  n * 64 + (b.toNat - 0x80)

/-- The payload of a leading byte that `count` bytes follow. -/
def leadingCode (count : Nat) (b : UInt8) : Nat :=
  b.toNat - (if count = 1 then 0xC0 else if count = 2 then 0xE0 else 0xF0)

/-- Read the rest of a list after the pieces `acc`, which stand in reverse order. -/
def readFrom (acc : List (Option Char)) : List UInt8 → List (Option Char)
  | [] => acc.reverse
  | b :: t =>
    if b < 0x80 then readFrom (some (Char.ofNat b.toNat) :: acc) t
    else
      let count := followers b
      if count = 0 then readFrom (none :: acc) t
      else
        match t with
        | [] => readFrom (none :: acc) []
        | b₁ :: t₁ =>
          if !fitsAfter b b₁ then readFrom (none :: acc) (b₁ :: t₁)
          else
            let n₁ := extendCode (leadingCode count b) b₁
            if count = 1 then readFrom (some (Char.ofNat n₁) :: acc) t₁
            else
              match t₁ with
              | [] => readFrom (none :: acc) []
              | b₂ :: t₂ =>
                if !isContinuation b₂ then readFrom (none :: acc) (b₂ :: t₂)
                else
                  let n₂ := extendCode n₁ b₂
                  if count = 2 then readFrom (some (Char.ofNat n₂) :: acc) t₂
                  else
                    match t₂ with
                    | [] => readFrom (none :: acc) []
                    | b₃ :: t₃ =>
                      if !isContinuation b₃ then readFrom (none :: acc) (b₃ :: t₃)
                      else readFrom (some (Char.ofNat (extendCode n₂ b₃)) :: acc) t₃

/-- The characters of a byte list in order, with `none` for each gap. -/
def readPieces (bytes : List UInt8) : List (Option Char) :=
  readFrom [] bytes

/-- The text of a byte list, if it is well-formed. -/
def readText? (bytes : List UInt8) : Option String :=
  let pieces := readPieces bytes
  if pieces.all Option.isSome then some (String.ofList (pieces.map (·.getD ' '))) else none

/-- A place where a byte list is not well-formed. -/
structure Gap where
  /-- How many bytes stand before it. -/
  position : Nat
  /-- How many bytes it takes; nothing if the list ends inside a character. -/
  length : Option Nat
  deriving DecidableEq, Repr

/-- The length of the gap with which a list starts; nothing if the list ends inside it. -/
def gapLength : List UInt8 → Option Nat
  | [] => none
  | b :: t =>
    if followers b = 0 then some 1
    else
      match t with
      | [] => none
      | b₁ :: t₁ =>
        if !fitsAfter b b₁ then some 1
        else
          match t₁ with
          | [] => none
          | b₂ :: t₂ =>
            if !isContinuation b₂ then some 2 else if t₂.isEmpty then none else some 3

/-- The first gap of a byte list. -/
def firstGap? (bytes : List UInt8) : Option Gap :=
  let pieces := readPieces bytes
  if pieces.all Option.isSome then none
  else
    let sound := (pieces.takeWhile Option.isSome).filterMap id
    let position := (bytesOf (String.ofList sound)).length
    some ⟨position, gapLength (bytes.drop position)⟩

/-- The text of a byte list, each gap shown as the replacement character. -/
def readLossy (bytes : List UInt8) : String :=
  String.ofList ((readPieces bytes).map (·.getD (Char.ofNat 0xFFFD)))

end CookieAuth.Text
