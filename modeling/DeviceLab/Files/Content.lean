import DeviceLab.Files.OsError
import DeviceLab.Text.Utf8

/-! What a file holds: a text, or bytes that are none. -/
namespace DeviceLab

inductive Content where
  | text (s : String)
  /-- Bytes that are not well-formed UTF-8. -/
  | raw (bytes : List UInt8)
  deriving DecidableEq, Inhabited

namespace Content

def empty : Content := .text ""

def ofBytes (bytes : ByteArray) : Content :=
  match Utf8.decode? bytes with
  | some s => .text s
  | none => .raw bytes.toList

def bytes : Content → ByteArray
  | .text s => Utf8.encode s
  | .raw bytes => ⟨bytes.toArray⟩

/-- The text, if it is one. -/
def read : Content → Except OsError String
  | .text s => .ok s
  | .raw _ => .error .notText

/-- The text, with a replacement for what is no UTF-8. -/
def shown : Content → String
  | .text s => s
  | .raw bytes => Utf8.decode ⟨bytes.toArray⟩

/-- The content with a text behind it. -/
def append (c : Content) (s : String) : Content :=
  match c with
  | .text t => .text (t ++ s)
  | .raw bytes => .raw (bytes ++ (Utf8.encode s).toList)

/-- The content with bytes behind it. -/
def appendBytes (c : Content) (more : ByteArray) : Content :=
  ofBytes (c.bytes ++ more)

end Content
end DeviceLab
