import DocQuery.Digest.Sha1

/-! Universally unique identifiers.

An identifier is sixteen bytes. Four bits give its version and two its variant; the
others come from a digest of a name (version 5) or are random (version 4). -/
namespace DocQuery.Uuid

/-- The bytes with a version and the common variant written into them. -/
def stamped (version : UInt8) (bytes : List UInt8) : List UInt8 :=
  (bytes.modify 6 (fun b => b % 16 + 16 * version)).modify 8 fun b => b % 64 + 128

/-- The names that queries ask identifiers for are in this space. -/
def namespaceBytes : List UInt8 := Sha1.bigEndian 16 0x91461C99F89D49D2AF96D8E2E14E9B58

/-- The identifier of a name: the same name always has the same one. -/
def ofName (name : String) : List UInt8 :=
  stamped 5 ((Sha1.digest (namespaceBytes ++ name.toUTF8.toList)).take 16)

/-- An identifier from a number of 128 bits. -/
def ofRandom (n : Nat) : List UInt8 := stamped 4 (Sha1.bigEndian 16 n)

/-! ### Text -/

def hexDigit (n : Nat) : Char :=
  if n < 10 then Char.ofNat (0x30 + n) else Char.ofNat (0x57 + n)

def hex (byte : UInt8) : List Char := [hexDigit (byte.toNat / 16), hexDigit (byte.toNat % 16)]

/-- Hexadecimal digits in five groups. -/
def text (bytes : List UInt8) : String :=
  let digits := bytes.flatMap hex
  let group (start length : Nat) := (digits.drop start).take length
  String.ofList ("-".toList.intercalate
    [group 0 8, group 8 4, group 12 4, group 16 4, group 20 12])

end DocQuery.Uuid
