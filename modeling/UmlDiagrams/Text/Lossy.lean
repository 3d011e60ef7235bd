/-!
# Damaged text

Text in UTF-8 that may hold other bytes. Each maximal run of bytes that could begin a character but
does not complete it, and each byte that cannot begin one, is read as a replacement character.
-/

namespace UmlDiagrams.Text

def isContinuation (b : UInt8) : Bool :=
  0x80 ≤ b && b ≤ 0xBF

/-- The number of bytes that follow a first byte, and the range of the second one; `none` if no
character starts with this byte. -/
def sequenceRule? (first : UInt8) : Option (Nat × UInt8 × UInt8) :=
  if first ≤ 0x7F then some (0, 0, 0)
  else if 0xC2 ≤ first && first ≤ 0xDF then some (1, 0x80, 0xBF)
  else if first = 0xE0 then some (2, 0xA0, 0xBF)
  else if first = 0xED then some (2, 0x80, 0x9F)
  else if 0xE1 ≤ first && first ≤ 0xEF then some (2, 0x80, 0xBF)
  else if first = 0xF0 then some (3, 0x90, 0xBF)
  else if first = 0xF4 then some (3, 0x80, 0x8F)
  else if 0xF1 ≤ first && first ≤ 0xF3 then some (3, 0x80, 0xBF)
  else none

def continued (rule : Nat × UInt8 × UInt8) (rest : List UInt8) : List UInt8 :=
  let (count, lo, hi) := rule
  match count, rest with
  | 0, _ => []
  | _, [] => []
  | count + 1, second :: more =>
    if lo ≤ second && second ≤ hi then second :: (more.take count).takeWhile isContinuation else []

def numberOfBytes (first : UInt8) (more : List UInt8) : Nat :=
  let low := match more.length with
    | 0 => first.toNat
    | 1 => first.toNat % 32
    | 2 => first.toNat % 16
    | _ => first.toNat % 8
  more.foldl (fun n b => 64 * n + b.toNat % 64) low

def lossyChars (bytes : List UInt8) : List Char :=
  match bytes with
  | [] => []
  | first :: rest =>
    match sequenceRule? first with
    | none => '\ufffd' :: lossyChars rest
    | some rule =>
      let more := continued rule rest
      let char := if more.length = rule.1 then Char.ofNat (numberOfBytes first more) else '\ufffd'
      char :: lossyChars (rest.drop more.length)
termination_by bytes.length

def lossy (bytes : ByteArray) : String :=
  String.ofList (lossyChars bytes.toList)

end UmlDiagrams.Text
