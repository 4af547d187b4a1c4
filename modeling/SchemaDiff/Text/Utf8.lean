import SchemaDiff.Text.Basic
/-
Texts as bytes, and bytes as text: strict UTF-8, and the line ends and mark of a text file.
-/
namespace SchemaDiff.Text

def encode (t : Text) : ByteArray := (String.ofList t).toUTF8

def decode (bytes : ByteArray) : Option Text := (String.fromUTF8? bytes).map String.toList

def markBytes : List UInt8 := [0xEF, 0xBB, 0xBF]

/-- The bytes of a file without one leading mark. A file that is no more than the beginning of a
mark has no bytes. -/
def withoutMark (bytes : ByteArray) : ByteArray :=
  if bytes.toList.isPrefixOf markBytes then ByteArray.empty
  else if markBytes.isPrefixOf (bytes.extract 0 3).toList then bytes.extract 3 bytes.size
  else bytes

def unixLines : Text → Text
  | '\r' :: '\n' :: rest => '\n' :: unixLines rest
  | '\r' :: rest => '\n' :: unixLines rest
  | c :: rest => c :: unixLines rest
  | [] => []

def ofFile (bytes : ByteArray) : Option Text := (decode (withoutMark bytes)).map unixLines

end SchemaDiff.Text
