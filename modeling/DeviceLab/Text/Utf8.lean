/-! Reading bytes as UTF-8.

`decode?` accepts well-formed UTF-8 only. `decode` reads anything: each longest
stretch of bytes that starts like a character and is cut short, and each byte
that starts none, becomes one U+FFFD. -/
namespace DeviceLab.Utf8

/-- The text the bytes encode, if they are well-formed. -/
def decode? (bytes : ByteArray) : Option String :=
  String.fromUTF8? bytes

/-- The bounds of the byte that may follow the lead byte, and how many
continuation bytes follow that one. -/
def follow (lead : Nat) : Option (Nat × Nat × Nat) :=
  if 0xC2 ≤ lead && lead ≤ 0xDF then some (0x80, 0xBF, 0)
  else if lead == 0xE0 then some (0xA0, 0xBF, 1)
  else if lead == 0xED then some (0x80, 0x9F, 1)
  else if 0xE1 ≤ lead && lead ≤ 0xEF then some (0x80, 0xBF, 1)
  else if lead == 0xF0 then some (0x90, 0xBF, 2)
  else if 0xF1 ≤ lead && lead ≤ 0xF3 then some (0x80, 0xBF, 2)
  else if lead == 0xF4 then some (0x80, 0x8F, 2)
  else none

/-- The payload bits of a lead byte. -/
def payload (lead : Nat) : Nat :=
  if lead < 0xE0 then lead % 32 else if lead < 0xF0 then lead % 16 else lead % 8

/-- Where the decoder stands: between characters, or inside one with the bits
read, the bounds of the next byte and how many bytes follow that one. -/
inductive Stage where
  | between
  | within (bits lo hi owed : Nat)

def replacement : Char := Char.ofNat 0xFFFD

/-- A byte between characters. -/
def begin (b : Nat) : List Char × Stage :=
  if b < 0x80 then ([Char.ofNat b], .between)
  else
    match follow b with
    | some (lo, hi, owed) => ([], .within (payload b) lo hi owed)
    | none => ([replacement], .between)

def next (b : Nat) : Stage → List Char × Stage
  | .between => begin b
  | .within bits lo hi owed =>
    if lo ≤ b && b ≤ hi then
      let bits := bits * 64 + b % 64
      match owed with
      | 0 => ([Char.ofNat bits], .between)
      | n + 1 => ([], .within bits 0x80 0xBF n)
    else
      let (cs, stage) := begin b
      (replacement :: cs, stage)

def run (stage : Stage) : List Nat → List Char
  | [] =>
    match stage with
    | .between => []
    | .within .. => [replacement]
  | b :: bs =>
    let (cs, stage) := next b stage
    cs ++ run stage bs

/-- The text the bytes encode, with U+FFFD for what is no UTF-8. -/
def decode (bytes : ByteArray) : String :=
  match decode? bytes with
  | some s => s
  | none => String.ofList (run .between (bytes.toList.map (·.toNat)))

/-- The bytes of the text. -/
def encode (s : String) : ByteArray :=
  s.toUTF8

end DeviceLab.Utf8
