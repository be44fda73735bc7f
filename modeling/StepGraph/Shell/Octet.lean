/-! Bytes as characters. Utilities work on bytes of which nothing is known; here each
byte is the character of its number, so that patterns and scripts can be written down
as text. -/
namespace StepGraph.Text.Octet

/-- One character for each byte. -/
def ofBytes (bytes : List UInt8) : List Char := bytes.map fun byte => Char.ofNat byte.toNat

/-- The bytes for which characters stand. -/
def toBytes (chars : List Char) : List UInt8 := chars.map fun c => UInt8.ofNat c.toNat

/-- One character for each byte of a text. -/
def ofText (text : String) : List Char := ofBytes text.toUTF8.toList

end StepGraph.Text.Octet
