import SourceText.Auth.Sha256

/-!
# Keyed digests

The digest of a message under a secret key: without the key nobody can make it. The key is brought
to the size of a block and used twice, inside and outside.
-/

namespace SourceText.Auth

/-- The key as one block: long keys by their digest, short ones filled up with zeros. -/
def keyBlock (key : List UInt8) : List UInt8 :=
  let short := if Sha256.blockSize < key.length then Sha256.digest key else key
  short ++ List.replicate (Sha256.blockSize - short.length) 0

/-- The digest of a message under a key. -/
def keyedDigest (key message : List UInt8) : List UInt8 :=
  let block := keyBlock key
  let inner := Sha256.digest (block.map (· ^^^ 0x36) ++ message)
  Sha256.digest (block.map (· ^^^ 0x5c) ++ inner)

end SourceText.Auth
