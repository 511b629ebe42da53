/-
This file decodes bytes as UTF-8 and says where a sequence stops being valid.
-/

namespace SheetLint.Text

/-- This is the reason why some bytes are not UTF-8. -/
inductive Utf8Fault where
  /-- The bytes from `index` on start no character; the first `length` of them cannot be kept. -/
  | invalid (length index : Nat)
  /-- The bytes end inside the character that starts at `index`. -/
  | incomplete (index : Nat)
  deriving DecidableEq, Repr

def Utf8Fault.message : Utf8Fault → String
  | .invalid length index => s!"invalid utf-8 sequence of {length} bytes from index {index}"
  | .incomplete index => s!"incomplete utf-8 byte sequence from index {index}"

/-- This test holds for the bytes that continue a character. -/
def isContinuation (byte : UInt8) : Bool :=
  0x80 ≤ byte && byte ≤ 0xBF

/-- This test holds when `second` may follow `first` in a character of three bytes. -/
def startsThree (first second : UInt8) : Bool :=
  if first == 0xE0 then 0xA0 ≤ second && second ≤ 0xBF
  else if first == 0xED then 0x80 ≤ second && second ≤ 0x9F
  else isContinuation second

/-- This test holds when `second` may follow `first` in a character of four bytes. -/
def startsFour (first second : UInt8) : Bool :=
  if first == 0xF0 then 0x90 ≤ second && second ≤ 0xBF
  else if first == 0xF4 then 0x80 ≤ second && second ≤ 0x8F
  else isContinuation second

/-- This is the payload of a continuation byte. -/
def payload (byte : UInt8) : Nat :=
  byte.toNat % 64

/-- This function decodes one character and counts its bytes; the fault is relative to `index`,
the place of the first byte. -/
def decodeCharacter (index : Nat) (first : UInt8) (rest : List UInt8) :
    Except Utf8Fault (Char × List UInt8) :=
  if first < 0x80 then .ok (Char.ofNat first.toNat, rest)
  else if first < 0xC2 then .error (.invalid 1 index)
  else if first < 0xE0 then
    match rest with
    | [] => .error (.incomplete index)
    | second :: rest =>
        if isContinuation second then
          .ok (Char.ofNat ((first.toNat - 0xC0) * 64 + payload second), rest)
        else .error (.invalid 1 index)
  else if first < 0xF0 then
    match rest with
    | [] => .error (.incomplete index)
    | second :: rest =>
        if startsThree first second then
          match rest with
          | [] => .error (.incomplete index)
          | third :: rest =>
              if isContinuation third then
                .ok (Char.ofNat ((first.toNat - 0xE0) * 4096 + payload second * 64 +
                  payload third), rest)
              else .error (.invalid 2 index)
        else .error (.invalid 1 index)
  else if first < 0xF5 then
    match rest with
    | [] => .error (.incomplete index)
    | second :: rest =>
        if startsFour first second then
          match rest with
          | [] => .error (.incomplete index)
          | third :: rest =>
              if isContinuation third then
                match rest with
                | [] => .error (.incomplete index)
                | fourth :: rest =>
                    if isContinuation fourth then
                      .ok (Char.ofNat ((first.toNat - 0xF0) * 262144 + payload second * 4096 +
                        payload third * 64 + payload fourth), rest)
                    else .error (.invalid 3 index)
              else .error (.invalid 2 index)
        else .error (.invalid 1 index)
  else .error (.invalid 1 index)

theorem decodeCharacter_shorter {index : Nat} {first : UInt8} {rest left : List UInt8}
    {character : Char} (decoded : decodeCharacter index first rest = .ok (character, left)) :
    left.length ≤ rest.length := by
  unfold decodeCharacter at decoded
  repeat' split at decoded
  all_goals simp_all
  all_goals omega

/-- This function decodes the bytes from `index` on behind the characters already decoded, which
are kept in reverse. -/
def decodeFrom (index : Nat) (decoded : List Char) : List UInt8 → Except Utf8Fault (List Char)
  | [] => .ok decoded.reverse
  | first :: rest =>
      match _found : decodeCharacter index first rest with
      | .error fault => .error fault
      | .ok (character, left) =>
          decodeFrom (index + character.utf8Size) (character :: decoded) left
  termination_by bytes => bytes.length
  decreasing_by
    have shorter := decodeCharacter_shorter _found
    simp only [List.length_cons]
    omega

/-- This is the text that the bytes encode. -/
def decodeUtf8 (bytes : List UInt8) : Except Utf8Fault (List Char) :=
  decodeFrom 0 [] bytes

/-- This is the text that the bytes encode, where the replacement character stands for every run of
bytes that starts no character. -/
def decodeLossy : List UInt8 → List Char
  | [] => []
  | first :: rest =>
      match _found : decodeCharacter 0 first rest with
      | .ok (character, left) => character :: decodeLossy left
      | .error (.invalid length _) => '\ufffd' :: decodeLossy (rest.drop (length - 1))
      | .error (.incomplete _) => ['\ufffd']
  termination_by bytes => bytes.length
  decreasing_by
    · have shorter := decodeCharacter_shorter _found
      simp only [List.length_cons]
      omega
    · simp only [List.length_drop, List.length_cons]
      omega

end SheetLint.Text
