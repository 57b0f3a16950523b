import Playback.Digest.Tree
import Playback.Text.Hexadecimal

namespace Playback

/-- A digest stands for a content: equal contents have equal digests. -/
structure Digest where
  bytes : Vector UInt8 32
deriving DecidableEq

namespace Digest

open Text

/-- The lowest byte of a word comes first. -/
def wordBytes (word : UInt32) : Vector UInt8 4 :=
  #v[word.toUInt8, (word >>> 8).toUInt8, (word >>> 16).toUInt8, (word >>> 24).toUInt8]

def ofChaining (words : Compression.Chaining) : Digest where
  bytes := Vector.ofFn fun index : Fin 32 =>
    (wordBytes words[index.val / 4])[index.val % 4]

def ofBytes (bytes : List UInt8) : Digest := ofChaining (Tree.root bytes)

/-- The digest of a text is the digest of its UTF-8 bytes. -/
def ofText (text : String) : Digest := ofBytes text.toUTF8.toList

/-- Digests are ordered byte by byte. -/
def less (left right : Digest) : Bool := decide (left.bytes.toList < right.bytes.toList)

def hexPair (byte : UInt8) : List Char :=
  [hexDigit (byte.toNat / 16), hexDigit (byte.toNat % 16)]

/-- The text of a digest has two lower case digits for each byte. -/
def hex (digest : Digest) : String := String.ofList (digest.bytes.toList.flatMap hexPair)

/-- The short form keeps the first twelve digits. -/
def short (digest : Digest) : String :=
  String.ofList ((digest.bytes.toList.flatMap hexPair).take 12)

inductive HexFault where
  | notHexadecimal
  | length (count : Nat)
deriving DecidableEq

def HexFault.message : HexFault → String
  | .notHexadecimal => "Invalid hex encoding"
  | .length count => s!"Invalid hash length: {count} (expected 32)"

def hexBytes? : List Char → Option (List UInt8)
  | [] => some []
  | [_] => none
  | high :: low :: rest =>
      match hexValue? high, hexValue? low, hexBytes? rest with
      | some high, some low, some bytes => some (UInt8.ofNat (16 * high + low) :: bytes)
      | _, _, _ => none

/-- The text must be hexadecimal before its length is judged. -/
def ofHex (text : String) : Except HexFault Digest :=
  match hexBytes? text.toList with
  | none => .error .notHexadecimal
  | some bytes =>
      if exact : bytes.length = 32 then .ok ⟨⟨bytes.toArray, by simp [exact]⟩⟩
      else .error (.length bytes.length)

end Digest

end Playback
