import HostingBilling.Digest.Sha256

/-!
# Keyed digests

The keyed form of SHA-256: the message is digested behind the key masked with one byte, and that
digest behind the key masked with another.
-/

namespace HostingBilling.Digest

/-- A key of one block: a longer one is digested first, a shorter one is filled with zeros. -/
def blockKey (key : List UInt8) : List UInt8 :=
  let k := if 64 < key.length then sha256 key else key
  k ++ List.replicate (64 - k.length) 0

def keyed (key message : List UInt8) : List UInt8 :=
  let k := blockKey key
  sha256 (k.map (· ^^^ 0x5c) ++ sha256 (k.map (· ^^^ 0x36) ++ message))

end HostingBilling.Digest
