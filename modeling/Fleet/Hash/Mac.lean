import Fleet.Hash.Sha256

/-!
# `Fleet.Hash.Mac`: digests under a key

The authentication code of a message under a key is the digest of the key, masked, and the
digest of the key, masked otherwise, and the message. A key longer than a block is replaced by
its digest, a shorter one is filled with zeros.
-/

set_option autoImplicit false

namespace Fleet.Hash

/-- A key as one block. -/
def keyBlock (key : List UInt8) : List UInt8 :=
  let short := if 64 < key.length then Sha256.digest key else key
  short ++ List.replicate (64 - short.length) 0

/-- The authentication code of a message under a key. -/
def mac (key message : List UInt8) : List UInt8 :=
  let block := keyBlock key
  Sha256.digest (block.map (· ^^^ 0x5c)
    ++ Sha256.digest (block.map (· ^^^ 0x36) ++ message))

end Fleet.Hash
